import CallTelemetry.Capture.Body
import CallTelemetry.Config.Validate
import CallTelemetry.Proofs.Text.Trimming
import CallTelemetry.Proofs.Text.Visible

/-!
# Media types of logged bodies

The media types of a list are trimmed and folded, and so is the one of a message, but only after its parameters are cut
off. No message shows a `;` after that, so a listed type that holds one is met by no message, and neither is a listed
`a/b/*`, since what a message shows before its first `/` holds none. Validation lets such types pass. Any other listed
type (`Meetable`) admits every message that has it in its `Content-Type`, as long as all of that field is visible ASCII
(`listed_type_admits_itself_or_none`).
-/

namespace CallTelemetry

/-- The media types whose bodies are logged on a side. -/
def LoggingConfig.bodyTypes (c : LoggingConfig) : BodySide → List String
  | .request => c.requestBodyContentTypes
  | .response => c.responseBodyContentTypes

/-- The value is a media type in any letter case, with any spaces around it and any parameters behind. Blanks that the
type has at its own ends may be there or not. -/
def HeaderValue.Gives (value : HeaderValue) (type : String) : Prop :=
  ∃ spelled before behind parameters, Text.trim (Text.lower spelled) = Text.trim (Text.lower type) ∧
    (parameters = [] ∨ ∃ more, parameters = 0x3B :: more) ∧
    value.bytes = List.replicate before 0x20 ++ Text.Utf8.encode spelled ++ List.replicate behind 0x20 ++ parameters

namespace BodyCapture

/-- The type has no parameters, and if it stands for all subtypes of something, this holds no `/` itself. -/
def Meetable (type : String) : Prop :=
  ';' ∉ type.toList ∧ ∀ kind, Text.trim type = kind ++ "/*" → '/' ∉ kind.toList

/-- A listed type admits the messages with a field of this text. -/
def Admits (type text : String) : Prop :=
  typeMatches (Text.lower (Text.trim type)).toList (essence text).toList = true

/-! ## Patterns -/

theorem takeWhile_ne_append {start rest : List Char} {sign : Char} (absent : sign ∉ start)
    (ends : rest = [] ∨ ∃ more, rest = sign :: more) : (start ++ rest).takeWhile (· ≠ sign) = start := by
  have all : ∀ c ∈ start, decide (c ≠ sign) = true := by
    intro c there
    apply decide_eq_true
    rintro rfl
    exact absent there
  rw [List.takeWhile_append_of_pos all]
  rcases ends with rfl | ⟨more, rfl⟩
  · exact List.append_nil start
  · rw [List.takeWhile_cons_of_neg (by simp), List.append_nil]

/-- A pattern means itself, or all that starts with the part before its `/*` and the first `/` behind. -/
theorem typeMatches_iff {pattern essence : List Char} : typeMatches pattern essence = true ↔
    (pattern = essence ∧ ∀ kind, pattern ≠ kind ++ ['/', '*']) ∨
      ∃ kind subtype, '/' ∉ kind ∧ pattern = kind ++ ['/', '*'] ∧ essence = kind ++ '/' :: subtype := by
  unfold typeMatches
  split
  next kind reversed =>
    have wild : pattern = kind.reverse ++ ['/', '*'] := by
      rw [← List.reverse_reverse pattern, reversed, List.reverse_cons, List.reverse_cons, List.append_assoc]
      rfl
    rw [Bool.and_eq_true, List.contains_iff_mem, beq_iff_eq]
    constructor
    · rintro ⟨slash, same⟩
      obtain ⟨start, subtype, rfl, absent⟩ := List.eq_append_cons_of_mem slash
      rw [takeWhile_ne_append absent (Or.inr ⟨subtype, rfl⟩)] at same
      exact Or.inr ⟨start, subtype, absent, same ▸ wild, rfl⟩
    · rintro (⟨-, plain⟩ | ⟨start, subtype, absent, again, rfl⟩)
      · exact absurd wild (plain kind.reverse)
      · have same : kind.reverse = start := List.append_inj_left' (wild.symm.trans again) rfl
        rw [same, takeWhile_ne_append absent (Or.inr ⟨subtype, rfl⟩)]
        exact ⟨List.mem_append_right start List.mem_cons_self, rfl⟩
  next plain =>
    have tame : ∀ kind, pattern ≠ kind ++ ['/', '*'] := by
      rintro kind rfl
      exact plain kind.reverse (by simp)
    rw [beq_iff_eq]
    constructor
    · intro same
      exact Or.inl ⟨same, tame⟩
    · rintro (⟨same, -⟩ | ⟨kind, subtype, -, wild, -⟩)
      · exact same
      · exact absurd wild (tame kind)

/-- Folding neither makes nor takes away a `/*` at the end. -/
theorem toList_lower_eq_append_iff {s : String} {kind : List Char} :
    (Text.lower s).toList = kind ++ ['/', '*'] ↔ ∃ start, s = start ++ "/*" ∧ (Text.lower start).toList = kind := by
  constructor
  · intro folded
    rw [Text.toList_lower, List.map_eq_append_iff] at folded
    obtain ⟨start, last, whole, rfl, signs⟩ := folded
    obtain ⟨a, _, rfl, slash, signs⟩ := List.map_eq_cons_iff.1 signs
    obtain ⟨b, _, rfl, star, signs⟩ := List.map_eq_cons_iff.1 signs
    rw [List.map_eq_nil_iff.1 signs, (Text.toLower_eq_iff (by decide)).1 slash,
      (Text.toLower_eq_iff (by decide)).1 star] at whole
    refine ⟨String.ofList start, ?_, ?_⟩
    · rw [← String.toList_inj, String.toList_append, String.toList_ofList, whole]
      rfl
    · rw [Text.toList_lower, String.toList_ofList]
  · rintro ⟨start, rfl, rfl⟩
    rw [Text.toList_lower, Text.toList_lower, String.toList_append, List.map_append]
    rfl

/-- A listed type that means anything does not end in `/*` behind another `/`. -/
theorem slash_not_mem_of_typeMatches {type : String} {essence : List Char}
    (matched : typeMatches (Text.lower (Text.trim type)).toList essence = true) {start : String}
    (trimmed : Text.trim type = start ++ "/*") : '/' ∉ start.toList := by
  have ends := toList_lower_eq_append_iff.2 ⟨start, trimmed, rfl⟩
  rcases typeMatches_iff.1 matched with ⟨-, plain⟩ | ⟨kind, _, absent, wild, -⟩
  · exact absurd ends (plain _)
  · rwa [← List.append_inj_left' (ends.symm.trans wild) rfl, Text.mem_lower_iff (by decide)] at absent

/-- Any other listed type means at least itself. -/
theorem typeMatches_self_iff {type : String} :
    typeMatches (Text.lower (Text.trim type)).toList (Text.lower (Text.trim type)).toList = true ↔
      ∀ kind, Text.trim type = kind ++ "/*" → '/' ∉ kind.toList := by
  constructor
  · exact fun self _ trimmed => slash_not_mem_of_typeMatches self trimmed
  · intro tame
    rw [typeMatches_iff]
    by_cases wild : ∃ kind, (Text.lower (Text.trim type)).toList = kind ++ ['/', '*']
    · obtain ⟨kind, ends⟩ := wild
      obtain ⟨start, trimmed, rfl⟩ := toList_lower_eq_append_iff.1 ends
      have absent : '/' ∉ (Text.lower start).toList := by
        rw [Text.mem_lower_iff (by decide)]
        exact tame start trimmed
      exact Or.inr ⟨_, ['*'], absent, ends, ends⟩
    · exact Or.inl ⟨rfl, fun kind ends => wild ⟨kind, ends⟩⟩

instance (type : String) : Decidable (Meetable type) :=
  decidable_of_iff (';' ∉ type.toList ∧
    typeMatches (Text.lower (Text.trim type)).toList (Text.lower (Text.trim type)).toList = true)
    (and_congr_right' typeMatches_self_iff)

/-! ## Messages -/

theorem semicolon_not_mem_essence (text : String) : ';' ∉ (essence text).toList := by
  rw [essence, Text.mem_lower_iff (by decide), Text.toList_trim, String.toList_ofList]
  intro there
  have passed := List.mem_takeWhile_imp (Text.trimList_subset _ there)
  exact absurd passed (by decide)

section

variable {value : HeaderValue} {type text : String} (gives : value.Gives type) (found : value.visible? = some text)
include gives found

theorem toList_of_gives : ∃ spelled before behind parameters,
    Text.trim (Text.lower spelled) = Text.trim (Text.lower type) ∧
      (parameters = [] ∨ ∃ more, parameters = ';' :: more) ∧
      text.toList = List.replicate before ' ' ++ spelled.toList ++ List.replicate behind ' ' ++ parameters := by
  obtain ⟨spelled, before, behind, parameters, same, ends, bytes⟩ := gives
  obtain ⟨small, read⟩ := HeaderValue.toList_of_visible? found
  have ascii : ∀ b ∈ Text.Utf8.encode spelled, b.toNat < 128 := by
    intro b there
    apply small
    rw [bytes]
    exact List.mem_append_left _ (List.mem_append_left _ (List.mem_append_right _ there))
  refine ⟨spelled, before, behind, parameters.map fun b => Char.ofNat b.toNat, same, ?_, ?_⟩
  · rcases ends with rfl | ⟨more, rfl⟩
    · exact Or.inl rfl
    · exact Or.inr ⟨_, rfl⟩
  · rw [read, bytes, List.map_append, List.map_append, List.map_append, List.map_replicate, List.map_replicate,
      Text.Utf8.map_ofNat_encode ascii]
    rfl

/-- The type that a field gives is what is left of it. -/
theorem essence_of_gives (bare : ';' ∉ type.toList) : essence text = Text.lower (Text.trim type) := by
  obtain ⟨spelled, before, behind, parameters, same, ends, whole⟩ := toList_of_gives gives found
  have clean : ';' ∉ spelled.toList := by
    rwa [← Text.mem_lower_iff (by decide), ← Text.mem_trim_iff (by decide), same, Text.mem_trim_iff (by decide),
      Text.mem_lower_iff (by decide)]
  have absent : ';' ∉ List.replicate before ' ' ++ spelled.toList ++ List.replicate behind ' ' := by
    simp [List.mem_replicate, clean]
  have blank : ∀ n, ∀ c ∈ List.replicate n ' ', Text.isBlank c = true := by
    intro n c there
    rw [List.eq_of_mem_replicate there]
    exact Text.isBlank_space
  rw [essence, whole, takeWhile_ne_append absent ends, Text.trim, String.toList_ofList,
    Text.trimList_of_blanks (blank before) (blank behind), ← Text.trim, Text.lower_trim, same, ← Text.lower_trim]

theorem admits_of_gives (meetable : Meetable type) : Admits type text := by
  rw [Admits, essence_of_gives gives found meetable.1, typeMatches_self_iff]
  exact meetable.2

end

theorem meetable_of_admits {type text : String} (admits : Admits type text) : Meetable type := by
  constructor
  · -- a `;` of the type would stand in the part that the message has to show
    intro semicolon
    have kept : ';' ∈ (Text.lower (Text.trim type)).toList := by
      rw [Text.mem_lower_iff (by decide), Text.mem_trim_iff (by decide)]
      exact semicolon
    apply semicolon_not_mem_essence text
    rcases typeMatches_iff.1 admits with ⟨same, -⟩ | ⟨kind, subtype, -, wild, shown⟩
    · rw [← same]
      exact kept
    · rw [wild] at kept
      rw [shown]
      exact List.mem_append_left _ ((List.mem_append.1 kept).resolve_right (by decide))
  · exact fun _ trimmed => slash_not_mem_of_typeMatches admits trimmed

/-! ## Lists -/

variable {c : LoggingConfig} {capture : BodyCapture} {side : BodySide}

theorem accepts_eq_any (made : ofConfig? c = some capture) {headers : HeaderMap} {text : String}
    (read : (headers.first? HeaderName.contentType).bind HeaderValue.visible? = some text) :
    capture.accepts side headers = (c.bodyTypes side).any fun type =>
      typeMatches (Text.lower (Text.trim type)).toList (essence text).toList := by
  unfold ofConfig? at made
  split at made
  next =>
    cases made
    unfold accepts
    rw [read]
    cases side with
    | request => simp only [List.any_map, Function.comp_def, LoggingConfig.bodyTypes]
    | response => simp only [List.any_map, Function.comp_def, LoggingConfig.bodyTypes]
  next => cases made

/-- A body is logged if the first `Content-Type` of its message is read as a text that a listed type admits. -/
theorem accepts_iff (made : ofConfig? c = some capture) {headers : HeaderMap} :
    capture.accepts side headers = true ↔ ∃ value text, headers.first? HeaderName.contentType = some value ∧
      value.visible? = some text ∧ ∃ type ∈ c.bodyTypes side, Admits type text := by
  cases read : (headers.first? HeaderName.contentType).bind HeaderValue.visible? with
  | none =>
    have refused : capture.accepts side headers = false := by
      unfold accepts
      rw [read]
    rw [refused]
    constructor
    · intro accepted
      cases accepted
    · rintro ⟨value, text, first, found, -⟩
      rw [first, Option.bind_some, found] at read
      cases read
  | some text =>
    obtain ⟨value, first, found⟩ := Option.bind_eq_some_iff.1 read
    rw [accepts_eq_any made read, List.any_eq_true]
    constructor
    · intro admitted
      exact ⟨value, text, first, found, admitted⟩
    · rintro ⟨_, _, again, same, admitted⟩
      cases first.symm.trans again
      cases found.symm.trans same
      exact admitted

/-- A listed type that a message can meet admits every message that gives it in visible ASCII. Any other listed type
might as well not be listed. -/
theorem listed_type_admits_itself_or_none (made : ofConfig? c = some capture) {type : String}
    (listed : type ∈ c.bodyTypes side) :
    (Meetable type → ∀ headers value, HeaderMap.first? headers HeaderName.contentType = some value →
      value.Gives type → (capture.accepts side headers = true ↔ value.bytes.all isVisibleByte = true)) ∧
    (¬ Meetable type → ∀ c' capture', ofConfig? c' = some capture' →
      (∀ other, other ∈ c'.bodyTypes side ↔ other ∈ c.bodyTypes side ∧ other ≠ type) →
        ∀ headers, capture'.accepts side headers = capture.accepts side headers) := by
  constructor
  · intro meetable headers value first gives
    rw [accepts_iff made, ← HeaderValue.exists_visible?_iff]
    constructor
    · rintro ⟨other, text, again, found, -⟩
      cases first.symm.trans again
      exact ⟨text, found⟩
    · rintro ⟨text, found⟩
      exact ⟨value, text, first, found, type, listed, admits_of_gives gives found meetable⟩
  · intro dead c' capture' made' others headers
    rw [Bool.eq_iff_iff, accepts_iff made, accepts_iff made']
    constructor
    · rintro ⟨value, text, first, found, other, among, admits⟩
      exact ⟨value, text, first, found, other, ((others other).1 among).1, admits⟩
    · rintro ⟨value, text, first, found, other, among, admits⟩
      refine ⟨value, text, first, found, other, (others other).2 ⟨among, ?_⟩, admits⟩
      rintro rfl
      exact dead (meetable_of_admits admits)

/-- The first type admits a message that gives it in its own way, unless there is a byte that is not visible. The last
one admits none. -/
theorem listed_type_admits_itself_or_none_of_three :
    let c : LoggingConfig :=
      { logBody := true, requestBodyContentTypes := [" Application/JSON ", "text/*", "a/b/*"] }
    let shorter : LoggingConfig := { logBody := true, requestBodyContentTypes := ["text/*", " Application/JSON "] }
    let seen : HeaderValue := ⟨Text.Utf8.encode "APPLICATION/json  ; x=y", by decide +kernel⟩
    let unseen : HeaderValue := ⟨Text.Utf8.encode "  text/*;é", by decide +kernel⟩
    ∃ capture less, ofConfig? c = some capture ∧ ofConfig? shorter = some less ∧
      capture.accepts .request [(HeaderName.contentType, seen)] = true ∧
      capture.accepts .request [(HeaderName.contentType, unseen)] = false ∧
      ∀ headers, less.accepts .request headers = capture.accepts .request headers := by
  intro c shorter seen unseen
  obtain ⟨capture, made⟩ : ∃ capture, ofConfig? c = some capture := ⟨_, rfl⟩
  obtain ⟨less, made'⟩ : ∃ less, ofConfig? shorter = some less := ⟨_, rfl⟩
  have json : " Application/JSON " ∈ c.bodyTypes .request := by decide
  have anyText : "text/*" ∈ c.bodyTypes .request := by decide
  have nested : "a/b/*" ∈ c.bodyTypes .request := by decide
  have seenGives : seen.Gives " Application/JSON " :=
    ⟨"APPLICATION/json", 0, 2, [0x3B, 0x20, 0x78, 0x3D, 0x79], by decide +kernel, Or.inr ⟨_, rfl⟩, by decide +kernel⟩
  have unseenGives : unseen.Gives "text/*" :=
    ⟨"text/*", 2, 0, [0x3B, 0xC3, 0xA9], rfl, Or.inr ⟨_, rfl⟩, by decide +kernel⟩
  have hidden : ¬ unseen.bytes.all isVisibleByte = true := by decide +kernel
  have others : ∀ other, other ∈ shorter.bodyTypes .request ↔ other ∈ c.bodyTypes .request ∧ other ≠ "a/b/*" := by
    intro other
    simp only [LoggingConfig.bodyTypes, c, shorter, List.mem_cons, List.not_mem_nil, or_false]
    constructor
    · rintro (rfl | rfl)
      · exact ⟨Or.inr (Or.inl rfl), by decide⟩
      · exact ⟨Or.inl rfl, by decide⟩
    · rintro ⟨rfl | rfl | rfl, kept⟩
      · exact Or.inr rfl
      · exact Or.inl rfl
      · exact absurd rfl kept
  have self := (listed_type_admits_itself_or_none made json).1 (by decide +kernel)
  have selfText := (listed_type_admits_itself_or_none made anyText).1 (by decide +kernel)
  have unmet := (listed_type_admits_itself_or_none made nested).2 (by decide +kernel)
  exact ⟨capture, less, made, made', (self _ seen rfl seenGives).2 (by decide +kernel),
    Bool.eq_false_iff.2 fun accepted => hidden ((selfText _ unseen rfl unseenGives).1 accepted),
    unmet shorter less made' others⟩

/-- Validation lets a type with a parameter pass, and one for the subtypes of a subtype. Messages with the very same
texts are not logged. -/
theorem listed_in_vain :
    let parametric : HeaderValue := ⟨Text.Utf8.encode "application/json; charset=utf-8", by decide +kernel⟩
    let nested : HeaderValue := ⟨Text.Utf8.encode "a/b/*", by decide +kernel⟩
    let c : LoggingConfig :=
      { logBody := true, requestBodyContentTypes := ["application/json; charset=utf-8", "a/b/*"] }
    c.validate = .ok () ∧ ∃ capture, ofConfig? c = some capture ∧
      parametric.Gives "application/json; charset=utf-8" ∧ parametric.bytes.all isVisibleByte = true ∧
      capture.accepts .request [(HeaderName.contentType, parametric)] = false ∧
      nested.Gives "a/b/*" ∧ nested.bytes.all isVisibleByte = true ∧
      capture.accepts .request [(HeaderName.contentType, nested)] = false := by
  refine ⟨by decide, _, rfl, ?_, by decide +kernel, by decide +kernel, ?_, by decide +kernel, by decide +kernel⟩
  · exact ⟨"application/json; charset=utf-8", 0, 0, [], rfl, Or.inl rfl, by decide +kernel⟩
  · exact ⟨"a/b/*", 0, 0, [], rfl, Or.inl rfl, by decide +kernel⟩

end BodyCapture

end CallTelemetry
