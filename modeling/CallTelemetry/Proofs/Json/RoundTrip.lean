import CallTelemetry.Json.Reader
import CallTelemetry.Json.Writer
import Mathlib.Data.Nat.Digits.Defs

/-!
# Reading what was written

A reader that comes upon the text of a value finds that value, as far as it keeps it (`readValue_renderList`), and
goes on right behind it. Values with doubles are left out, and so are those with integers that the reader does not
keep. The reader that keeps everything tells any two other values apart by their texts (`eq_of_render`).
-/

namespace CallTelemetry.Json

/-! ## Strings -/

theorem unit?_hexDigit : ∀ n < 0x20, unit? '0' '0' (hexDigit (n / 16)) (hexDigit (n % 16)) = some n := by decide

/-- An escaped character is read in one go. -/
theorem readString_escapeChar (c : Char) (done rest : List Char) :
    readString none done (escapeChar c ++ rest) = readString none (c :: done) rest := by
  unfold escapeChar
  iterate 7
    split
    next e => subst e; rfl
  split
  next small =>
    have low : ¬(0xD800 ≤ c.toNat ∧ c.toNat < 0xDC00) ∧ ¬(0xDC00 ≤ c.toNat ∧ c.toNat < 0xE000) := by omega
    simp only [List.cons_append, List.nil_append, readString, unit?_hexDigit c.toNat small, Option.bind_eq_bind,
      Option.bind_some, if_neg low.1, if_neg low.2, Char.ofNat_toNat]
  next quote backslash _ _ _ _ _ large =>
    show readString none done (c :: rest) = _
    rw [readString]
    · simp [large]
    · exact quote
    · intro _ _ _ _ _ e
      exact absurd e backslash 
    · intro _ _ e
      exact absurd e backslash 

theorem readString_escaped (cs done rest : List Char) :
    readString none done (cs.flatMap escapeChar ++ '"' :: rest) = some (done.reverse ++ cs, rest) := by
  induction cs generalizing done with
  | nil => simp [readString]
  | cons c cs ih =>
    rw [List.flatMap_cons, List.append_assoc, readString_escapeChar, ih, List.reverse_cons, List.append_assoc]
    rfl

theorem readString_renderString (s : String) (rest : List Char) :
    ∃ cs, renderString s ++ rest = '"' :: cs ∧ readString none [] cs = some (s.toList, rest) := by
  refine ⟨s.toList.flatMap escapeChar ++ '"' :: rest, ?_, readString_escaped s.toList [] rest⟩
  simp [renderString]

/-! ## Whole numbers -/

/-- A rest of a text at which a number ends. -/
def Delimited : List Char → Prop
  | [] => True
  | c :: _ => c = ',' ∨ c = ']' ∨ c = '\x7d'

theorem digitsValue_toDigits (n : Nat) : digitsValue (Nat.toDigits 10 n) = n := by
  have back := Nat.ofDigitChars_toDigits (b := 10) (n := n) (by decide) (by decide)
  unfold Nat.ofDigitChars at back
  have step : (fun n (c : Char) => n * 10 + (c.toNat - 48)) = fun n c => 10 * n + (c.toNat - '0'.toNat) := by
    funext n c
    rw [Nat.mul_comm]
    rfl
  unfold digitsValue
  rw [step, back]

theorem head?_toDigits {n : Nat} (pos : 0 < n) : (Nat.toDigits 10 n).head? ≠ some '0' := by
  induction n using Nat.strongRecOn with
  | ind n ih =>
    rcases Nat.lt_or_ge n 10 with small | large
    · rw [Nat.toDigits_of_lt_base small]
      have digit : ∀ n < 10, 0 < n → some (Nat.digitChar n) ≠ some '0' := by decide
      exact digit n small pos
    · have some : (Nat.toDigits 10 (n / 10)).head?.isSome := by simp [Nat.toDigits_ne_nil]
      rw [Nat.toDigits_of_base_le (by decide) large, List.head?_append, Option.or_of_isSome some]
      exact ih (n / 10) (by omega) (by omega)

theorem takeWhile_isDigit {ds rest : List Char} (digits : ∀ c ∈ ds, c.isDigit = true) (ends : Delimited rest) :
    (ds ++ rest).takeWhile Char.isDigit = ds ∧ (ds ++ rest).dropWhile Char.isDigit = rest := by
  rw [List.takeWhile_append_of_pos digits, List.dropWhile_append_of_pos digits]
  cases rest with
  | nil => exact ⟨List.append_nil ds, rfl⟩
  | cons c rest =>
    have other : c.isDigit = false := by rcases ends with rfl | rfl | rfl <;> rfl
    simp [other]

theorem Delimited.readFraction {rest : List Char} (ends : Delimited rest) :
    readFraction rest = (false, [], rest) := by
  cases rest with
  | nil => rfl
  | cons c rest => rcases ends with rfl | rfl | rfl <;> rfl

theorem Delimited.readExponent {rest : List Char} (ends : Delimited rest) :
    readExponent rest = some (false, 0, rest) := by
  cases rest with
  | nil => rfl
  | cons c rest => rcases ends with rfl | rfl | rfl <;> rfl

/-- A number with digits alone ends with the last of them. -/
theorem readMagnitude_toDigits (keeping : Keeping) (negative : Bool) {n : Nat} {value : Int}
    (signed : (if negative then -(n : Int) else n) = value) (nonzero : negative = true → 0 < n)
    (kept : keeping.isInteger value = true) {rest : List Char} (ends : Delimited rest) :
    readMagnitude keeping negative (Nat.toDigits 10 n ++ rest) = some (.int value, rest) := by
  have digits : ∀ c ∈ Nat.toDigits 10 n, c.isDigit = true := fun c among =>
    Nat.isDigit_of_mem_toDigits (by decide) (by decide) among
  obtain ⟨taken, left⟩ := takeWhile_isDigit digits ends
  have someDigit : (Nat.toDigits 10 n).isEmpty = false := by simp [Nat.toDigits_ne_nil]
  have unpadded : (decide ((Nat.toDigits 10 n).length > 1) &&
      decide ((Nat.toDigits 10 n).head? = some '0')) = false := by
    rcases Nat.eq_zero_or_pos n with rfl | pos
    · rfl
    · simp [head?_toDigits pos]
  have noMinusZero : (negative && decide (n = 0)) = false := by
    cases negative with
    | false => rfl
    | true => simpa using Nat.pos_iff_ne_zero.1 (nonzero rfl)
  unfold readMagnitude
  simp only [taken, left, someDigit, unpadded, ends.readFraction, ends.readExponent, List.append_nil,
    digitsValue_toDigits, signed, kept, noMinusZero, Option.bind_eq_bind, Option.bind_some]
  rfl

theorem exists_toDigits (n : Nat) : ∃ c cs, Nat.toDigits 10 n = c :: cs ∧ c.isDigit = true := by
  obtain ⟨c, cs, e⟩ := List.exists_cons_of_ne_nil (Nat.toDigits_ne_nil (n := n) (b := 10))
  have among : c ∈ Nat.toDigits 10 n := e ▸ List.mem_cons_self
  exact ⟨c, cs, e, Nat.isDigit_of_mem_toDigits (by decide) (by decide) among⟩

theorem readNumber_of_isDigit (keeping : Keeping) {c : Char} (digit : c.isDigit = true) (cs : List Char) :
    readNumber keeping (c :: cs) = readMagnitude keeping false (c :: cs) := by
  unfold readNumber
  split
  next e =>
    rw [(List.cons.inj e).1] at digit
    cases digit
  next => rfl

theorem readNumber_renderInt (keeping : Keeping) {n : Int} (kept : keeping.isInteger n = true) {rest : List Char}
    (ends : Delimited rest) : readNumber keeping (renderInt n ++ rest) = some (.int n, rest) := by
  unfold renderInt
  split
  next negative =>
    have nonzero : 0 < n.natAbs := by omega
    have signed : -(n.natAbs : Int) = n := by omega
    exact readMagnitude_toDigits keeping true signed (fun _ => nonzero) kept ends
  next positive =>
    have signed : (n.natAbs : Int) = n := by omega
    have read := readMagnitude_toDigits keeping false signed nofun kept ends
    obtain ⟨c, cs, e, digit⟩ := exists_toDigits n.natAbs
    rw [e, List.cons_append] at read ⊢
    rw [readNumber_of_isDigit keeping digit, read]

/-- A whole number begins with a digit or its sign. -/
theorem exists_renderInt (n : Int) : ∃ c cs, renderInt n = c :: cs ∧ (c.isDigit = true ∨ c = '-') := by
  unfold renderInt
  split
  · exact ⟨_, _, rfl, Or.inr rfl⟩
  · obtain ⟨c, cs, e, digit⟩ := exists_toDigits n.natAbs
    exact ⟨c, cs, e, Or.inl digit⟩

theorem skipBlanks_cons {c : Char} (solid : isBlank c = false) (cs : List Char) : skipBlanks (c :: cs) = c :: cs :=
  List.dropWhile_cons_of_neg (by simp [solid])

theorem isBlank_of_leads {c : Char} (leads : c.isDigit = true ∨ c = '-') : isBlank c = false := by
  unfold isBlank
  rcases leads with digit | rfl
  · by_contra blank
    simp only [Bool.not_eq_false, Bool.or_eq_true, decide_eq_true_eq] at blank
    rcases blank with ((rfl | rfl) | rfl) | rfl <;> cases digit
  · rfl

/-- What begins like a number is read as one. -/
theorem readValue_number (keeping : Keeping) (fuel : Nat) {c : Char} (leads : c.isDigit = true ∨ c = '-')
    (cs : List Char) : readValue keeping (fuel + 1) (c :: cs) = readNumber keeping (c :: cs) := by
  rw [readValue, skipBlanks_cons (isBlank_of_leads leads)]
  split
  all_goals first
    | rfl
    | next e => exact absurd leads (by rw [(List.cons.inj e).1]; decide)

/-! ## Values -/

mutual

/-- What a reader keeps of a value. -/
def kept (keeping : Keeping) : Json → Json
  | .arr items => .arr (keptItems keeping items)
  | .obj members => .obj (keeping.members (keptMembers keeping members))
  | j => j

def keptItems (keeping : Keeping) : List Json → List Json
  | [] => []
  | item :: rest => item.kept keeping :: keptItems keeping rest

def keptMembers (keeping : Keeping) : List (String × Json) → List (String × Json)
  | [] => []
  | (name, value) :: rest => (name, value.kept keeping) :: keptMembers keeping rest

end

mutual

/-- There are no doubles in a value, and no integers but those that a reader keeps. -/
def Legible (keeping : Keeping) : Json → Prop
  | .int n => keeping.isInteger n = true
  | .float _ => False
  | .arr items => ItemsLegible keeping items
  | .obj members => MembersLegible keeping members
  | _ => True

def ItemsLegible (keeping : Keeping) : List Json → Prop
  | [] => True
  | item :: rest => item.Legible keeping ∧ ItemsLegible keeping rest

def MembersLegible (keeping : Keeping) : List (String × Json) → Prop
  | [] => True
  | (_, value) :: rest => value.Legible keeping ∧ MembersLegible keeping rest

end

/-- No text of a value begins with a blank or a closing bracket. -/
theorem exists_renderList {keeping : Keeping} : {j : Json} → j.Legible keeping →
    ∃ c cs, j.renderList = c :: cs ∧ isBlank c = false ∧ c ≠ ']'
  | .null, _ | .bool true, _ | .bool false, _ | .str _, _ | .arr _, _ | .obj _, _ => ⟨_, _, rfl, rfl, by decide⟩
  | .int n, _ => by
    obtain ⟨c, cs, e, leads⟩ := exists_renderInt n
    exact ⟨c, cs, e, isBlank_of_leads leads, fun e => absurd leads (by rw [e]; decide)⟩

theorem exists_renderItems {keeping : Keeping} {item : Json} (legible : item.Legible keeping) (items : List Json) :
    ∃ c cs, renderItems (item :: items) = c :: cs ∧ isBlank c = false ∧ c ≠ ']' := by
  obtain ⟨c, cs, e, solid, other⟩ := exists_renderList legible
  cases items with
  | nil =>
    refine ⟨c, cs ++ [']'], ?_, solid, other⟩
    show item.renderList ++ [']'] = _
    rw [e, List.cons_append]
  | cons next items =>
    refine ⟨c, cs ++ ',' :: renderItems (next :: items), ?_, solid, other⟩
    show item.renderList ++ ',' :: renderItems (next :: items) = _
    rw [e, List.cons_append]

theorem exists_renderMembers (m : String × Json) (members : List (String × Json)) :
    ∃ cs, renderMembers (m :: members) = '"' :: cs := by
  cases members with
  | nil => exact ⟨_, rfl⟩
  | cons next members => exact ⟨_, rfl⟩

section Steps

variable {keeping : Keeping} {fuel : Nat} {cs rest : List Char}

theorem readItems_next {item : Json} (read : readValue keeping fuel cs = some (item, ',' :: rest))
    (done : List Json) :
    readItems keeping (fuel + 1) done cs = readItems keeping fuel (item :: done) rest := by
  rw [readItems, read]
  rfl

theorem readItems_last {item : Json} (read : readValue keeping fuel cs = some (item, ']' :: rest))
    (done : List Json) :
    readItems keeping (fuel + 1) done cs = some (.arr (item :: done).reverse, rest) := by
  rw [readItems, read]
  rfl

theorem readMembers_next {value : Json} (name : String)
    (read : readValue keeping fuel cs = some (value, ',' :: rest)) (done : List (String × Json)) :
    readMembers keeping (fuel + 1) done (renderString name ++ ':' :: cs) =
      readMembers keeping fuel ((name, value) :: done) rest := by
  obtain ⟨text, e, found⟩ := readString_renderString name (':' :: cs)
  rw [e, readMembers, skipBlanks_cons rfl]
  simp only [found, Option.bind_eq_bind, Option.bind_some, skipBlanks_cons (c := ':') rfl, read,
    skipBlanks_cons (c := ',') rfl, String.ofList_toList]

theorem readMembers_last {value : Json} (name : String)
    (read : readValue keeping fuel cs = some (value, '\x7d' :: rest)) (done : List (String × Json)) :
    readMembers keeping (fuel + 1) done (renderString name ++ ':' :: cs) =
      some (.obj (keeping.members ((name, value) :: done).reverse), rest) := by
  obtain ⟨text, e, found⟩ := readString_renderString name (':' :: cs)
  rw [e, readMembers, skipBlanks_cons rfl]
  simp only [found, Option.bind_eq_bind, Option.bind_some, skipBlanks_cons (c := ':') rfl, read,
    skipBlanks_cons (c := '\x7d') rfl, String.ofList_toList]
  rfl

end Steps

mutual

/-- A reader finds a value behind whose text a number cannot go on. A unit of fuel for each character is enough, as
every call of the reader takes one at least. -/
theorem readValue_renderList (keeping : Keeping) : (j : Json) → j.Legible keeping → (fuel : Nat) →
    (rest : List Char) → Delimited rest → j.renderList.length ≤ fuel →
    readValue keeping fuel (j.renderList ++ rest) = some (j.kept keeping, rest)
  | .null, _, _ + 1, _, _, _ | .bool true, _, _ + 1, _, _, _ | .bool false, _, _ + 1, _, _, _
  | .arr [], _, _ + 1, _, _, _ | .obj [], _, _ + 1, _, _, _ => rfl
  | .int n, legible, fuel, rest, ends, enough => by
    obtain ⟨c, cs, e, leads⟩ := exists_renderInt n
    have read := readNumber_renderInt keeping legible ends
    change (renderInt n).length ≤ fuel at enough
    show readValue keeping fuel (renderInt n ++ rest) = _
    rw [e] at read enough ⊢
    cases fuel with
    | zero => cases enough
    | succ fuel => exact (readValue_number keeping fuel leads _).trans read
  | .str s, _, fuel + 1, rest, _, _ => by
    obtain ⟨text, e, found⟩ := readString_renderString s rest
    show readValue keeping (fuel + 1) (renderString s ++ rest) = _
    rw [e, readValue, skipBlanks_cons rfl]
    simp only [found, Option.bind_eq_bind, Option.bind_some, String.ofList_toList]
    rfl
  | .arr (item :: items), legible, fuel + 1, rest, _, enough => by
    have read := readItems_renderItems keeping (item :: items) nofun legible fuel rest []
      (Nat.le_of_succ_le_succ enough)
    obtain ⟨c, cs, e, solid, other⟩ := exists_renderItems legible.1 items
    show readValue keeping (fuel + 1) ('[' :: (renderItems (item :: items) ++ rest)) = _
    rw [readValue, skipBlanks_cons rfl]
    rw [e, List.cons_append] at read ⊢
    simp only [skipBlanks_cons solid]
    split
    next e => exact absurd (List.cons.inj e).1 other
    next => exact read
  | .obj (m :: members), legible, fuel + 1, rest, _, enough => by
    have read := readMembers_renderMembers keeping (m :: members) nofun legible fuel rest []
      (Nat.le_of_succ_le_succ enough)
    show readValue keeping (fuel + 1) ('\x7b' :: (renderMembers (m :: members) ++ rest)) = _
    obtain ⟨cs, e⟩ := exists_renderMembers m members
    rw [readValue, skipBlanks_cons rfl]
    rw [e, List.cons_append] at read ⊢
    exact read

theorem readItems_renderItems (keeping : Keeping) : (items : List Json) → items ≠ [] →
    ItemsLegible keeping items → (fuel : Nat) → (rest : List Char) → (done : List Json) →
    (renderItems items).length ≤ fuel →
    readItems keeping fuel done (renderItems items ++ rest) =
      some (.arr (done.reverse ++ keptItems keeping items), rest)
  | [item], _, legible, fuel, rest, done, enough => by
    change (item.renderList ++ [']']).length ≤ fuel at enough
    rw [List.length_append, List.length_singleton] at enough
    cases fuel with
    | zero => cases enough
    | succ fuel =>
      have read := readValue_renderList keeping item legible.1 fuel (']' :: rest) (Or.inr (Or.inl rfl)) (by omega)
      show readItems keeping (fuel + 1) done (item.renderList ++ [']'] ++ rest) = _
      rw [List.append_assoc, List.singleton_append, readItems_last read, List.reverse_cons]
      rfl
  | item :: next :: items, _, legible, fuel, rest, done, enough => by
    change (item.renderList ++ ',' :: renderItems (next :: items)).length ≤ fuel at enough
    rw [List.length_append, List.length_cons] at enough
    cases fuel with
    | zero => cases enough
    | succ fuel =>
      have read := readValue_renderList keeping item legible.1 fuel (',' :: (renderItems (next :: items) ++ rest))
        (Or.inl rfl) (by omega)
      have others := readItems_renderItems keeping (next :: items) nofun legible.2 fuel rest
        (item.kept keeping :: done) (by omega)
      show readItems keeping (fuel + 1) done (item.renderList ++ ',' :: renderItems (next :: items) ++ rest) = _
      rw [List.append_assoc, List.cons_append, readItems_next read, others, List.reverse_cons, List.append_assoc]
      rfl

theorem readMembers_renderMembers (keeping : Keeping) : (members : List (String × Json)) → members ≠ [] →
    MembersLegible keeping members → (fuel : Nat) → (rest : List Char) → (done : List (String × Json)) →
    (renderMembers members).length ≤ fuel →
    readMembers keeping fuel done (renderMembers members ++ rest) =
      some (.obj (keeping.members (done.reverse ++ keptMembers keeping members)), rest)
  | [(name, value)], _, legible, fuel, rest, done, enough => by
    change (renderString name ++ ':' :: (value.renderList ++ ['\x7d'])).length ≤ fuel at enough
    rw [List.length_append, List.length_cons, List.length_append, List.length_singleton] at enough
    cases fuel with
    | zero => cases enough
    | succ fuel =>
      have read := readValue_renderList keeping value legible.1 fuel ('\x7d' :: rest) (Or.inr (Or.inr rfl)) (by omega)
      show readMembers keeping (fuel + 1) done
        (renderString name ++ ':' :: (value.renderList ++ ['\x7d']) ++ rest) = _
      rw [List.append_assoc, List.cons_append, List.append_assoc, List.singleton_append, readMembers_last name read,
        List.reverse_cons]
      rfl
  | (name, value) :: next :: members, _, legible, fuel, rest, done, enough => by
    change (renderString name ++ ':' :: (value.renderList ++ ',' :: renderMembers (next :: members))).length ≤
      fuel at enough
    rw [List.length_append, List.length_cons, List.length_append, List.length_cons] at enough
    cases fuel with
    | zero => cases enough
    | succ fuel =>
      have read := readValue_renderList keeping value legible.1 fuel
        (',' :: (renderMembers (next :: members) ++ rest)) (Or.inl rfl) (by omega)
      have others := readMembers_renderMembers keeping (next :: members) nofun legible.2 fuel rest
        ((name, value.kept keeping) :: done) (by omega)
      show readMembers keeping (fuel + 1) done
        (renderString name ++ ':' :: (value.renderList ++ ',' :: renderMembers (next :: members)) ++ rest) = _
      rw [List.append_assoc, List.cons_append, List.append_assoc, List.cons_append, readMembers_next name read,
        others, List.reverse_cons, List.append_assoc]
      rfl

end

/-! ## Objects -/

variable {keeping : Keeping}

theorem membersLegible_append {a b : List (String × Json)} :
    MembersLegible keeping (a ++ b) ↔ MembersLegible keeping a ∧ MembersLegible keeping b := by
  induction a with
  | nil => exact (and_iff_right trivial).symm
  | cons m rest ih =>
    show _ ∧ MembersLegible keeping (rest ++ b) ↔ (_ ∧ _) ∧ _
    rw [ih, and_assoc]

theorem legible_ofPairs (pairs : List (String × String)) : (ofPairs pairs).Legible keeping := by
  show MembersLegible keeping (pairs.map _)
  induction pairs with
  | nil => trivial
  | cons p rest ih => exact ⟨trivial, ih⟩

theorem ofPairs_injective {a b : List (String × String)} (same : ofPairs a = ofPairs b) : a = b := by
  refine (List.map_inj_right fun p q e => ?_).1 (Json.obj.inj same)
  obtain ⟨name, value⟩ := Prod.mk.inj e
  exact Prod.ext name (Json.str.inj value)

/-! ## Texts -/

theorem read?_render {keeping : Keeping} {j : Json} (legible : j.Legible keeping) :
    read? keeping j.render = some (j.kept keeping) := by
  have text : j.render.toList = j.renderList := String.toList_ofList
  have read := readValue_renderList keeping j legible (2 * j.renderList.length + 2) [] trivial (by omega)
  rw [List.append_nil] at read
  unfold read?
  dsimp only
  rw [text, read]
  rfl

mutual

theorem kept_everything : (j : Json) → j.kept .everything = j
  | .null | .bool _ | .int _ | .float _ | .str _ => rfl
  | .arr items => congrArg arr (keptItems_everything items)
  | .obj members => congrArg obj (keptMembers_everything members)

theorem keptItems_everything : (items : List Json) → keptItems .everything items = items
  | [] => rfl
  | item :: rest => by rw [keptItems, kept_everything item, keptItems_everything rest]

theorem keptMembers_everything : (members : List (String × Json)) → keptMembers .everything members = members
  | [] => rfl
  | (name, value) :: rest => by rw [keptMembers, kept_everything value, keptMembers_everything rest]

end

theorem eq_of_render {a b : Json} (legible : a.Legible .everything) (legible' : b.Legible .everything)
    (same : a.render = b.render) : a = b := by
  have read := read?_render legible
  rw [same, read?_render legible', Option.some.injEq, kept_everything, kept_everything] at read
  exact read.symm

end CallTelemetry.Json
