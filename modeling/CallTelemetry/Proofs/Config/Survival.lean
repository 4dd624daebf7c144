import CallTelemetry.Config.Json
import CallTelemetry.Lookup
import CallTelemetry.Proofs.Except
import Mathlib.Data.List.Nodup
import Mathlib.Data.List.Perm.Basic

/-!
# Configurations survive JSON

The fields of a configuration are put into a table (`LoggingConfig.fields`), each with what it is written as and the
decoder that reads this back. A configuration is written as the members that the table tells (`toJson_eq`), and it is
read from members if each field is read from them, or has its default where there is none (`decode_obj_eq_ok_iff`). So
it comes back from any order of its members with anything else between them, and a member may be left out if its field
has the default (`survives_json`).
-/

namespace CallTelemetry

/-! ## Decoders that read back what was written -/

namespace Decoder

variable {α : Type} {item : Decoder α} {write : α → Json}

theorem string_str (s : String) : string (.str s) = .ok s := rfl

theorem uint64_nat (w : UInt64) : uint64 (Json.nat w.toNat) = .ok w := by
  have within : 0 ≤ (w.toNat : Int) ∧ (w.toNat : Int) < Nat.pow 2 64 :=
    ⟨Int.natCast_nonneg _, Int.ofNat_lt.2 w.toNat_lt⟩
  show UInt64.ofNat <$> word 64 (.int w.toNat) = _
  rw [word, if_pos within]
  exact congrArg Except.ok UInt64.ofNat_toNat

theorem list_arr (back : ∀ a, item (write a) = .ok a) (as : List α) : list item (.arr (as.map write)) = .ok as := by
  show (as.map write).mapM item = _
  rw [mapM_eq_ok_iff, List.forall₂_map_left_iff, List.forall₂_same]
  exact fun a _ => back a

theorem map_obj (back : ∀ a, item (write a) = .ok a) (entries : List (String × α)) :
    map item (.obj (entries.map fun p => (p.1, write p.2))) = .ok entries := by
  show (entries.map fun p => (p.1, write p.2)).mapM (fun m => do return (m.1, ← item m.2)) = _
  rw [mapM_eq_ok_iff, List.forall₂_map_left_iff, List.forall₂_same]
  intro p _
  rw [back]
  rfl

end Decoder

theorem Classification.decode_toJson (c : Classification) : decode c.toJson = .ok c := rfl

theorem HeaderRule.decode_toJson (r : HeaderRule) : decode r.toJson = .ok r := rfl

theorem EnricherConfig.decode_toJson (e : EnricherConfig) : decode e.toJson = .ok e := rfl

theorem RedactionMode.decode_toJson (m : RedactionMode) : decode m.toJson = .ok m := by
  cases m <;> rfl

theorem PathLoggingMode.decode_toJson (m : PathLoggingMode) : decode m.toJson = .ok m := by
  cases m <;> rfl

namespace LoggingConfig

/-! ## Fields -/

/-- A field of a configuration with its form in JSON. -/
structure Field where
  {Value : Type}
  name : String
  get : LoggingConfig → Value
  write : Value → Json
  decoder : Decoder Value
  back : ∀ v, decoder (write v) = .ok v

namespace Field

def flag (name : String) (get : LoggingConfig → Bool) : Field := ⟨name, get, .bool, Decoder.bool, fun _ => rfl⟩

def word (name : String) (get : LoggingConfig → UInt64) : Field :=
  ⟨name, get, fun w => Json.nat w.toNat, Decoder.uint64, Decoder.uint64_nat⟩

def list {α : Type} {item : Decoder α} {write : α → Json} (name : String) (get : LoggingConfig → List α)
    (back : ∀ a, item (write a) = .ok a) : Field :=
  ⟨name, get, fun as => .arr (as.map write), Decoder.list item, Decoder.list_arr back⟩

/-- The member that a field is written as. -/
def member (f : Field) (c : LoggingConfig) : String × Json := (f.name, f.write (f.get c))

end Field

/-- The fields in their order. -/
def fields : List Field :=
  [.flag "log_request_start" logRequestStart,
   .list "request_headers" requestHeaders HeaderRule.decode_toJson,
   .list "response_headers" responseHeaders HeaderRule.decode_toJson,
   .flag "log_body" logBody,
   .word "body_size_limit" bodySizeLimit,
   .word "body_read_timeout_ms" bodyReadTimeoutMs,
   .list "request_body_content_types" requestBodyContentTypes Decoder.string_str,
   .list "response_body_content_types" responseBodyContentTypes Decoder.string_str,
   ⟨"path_redaction_mode", pathRedactionMode, RedactionMode.toJson, RedactionMode.decode, RedactionMode.decode_toJson⟩,
   ⟨"path_logging_mode", pathLoggingMode, PathLoggingMode.toJson, PathLoggingMode.decode, PathLoggingMode.decode_toJson⟩,
   ⟨"route_parameters", routeParameters, fun classes => .obj (classes.map fun p => (p.1, p.2.toJson)),
    Decoder.map Classification.decode, Decoder.map_obj Classification.decode_toJson⟩,
   .word "pool_capacity" poolCapacity,
   .list "enrichers" enrichers EnricherConfig.decode_toJson]

theorem map_name_fields : fields.map (·.name) = fieldNames := rfl

/-- The members of a configuration. -/
def members (c : LoggingConfig) : Members := fields.map (·.member c)

theorem toJson_eq (c : LoggingConfig) : c.toJson = .obj c.members := rfl

/-- A configuration is read if each of its fields is, with the default for one that is missing. -/
theorem decode_obj_eq_ok_iff {ms : Members} {c : LoggingConfig} :
    decode (.obj ms) = .ok c ↔ ∀ f ∈ fields, ms.optional f.name (f.get {}) f.decoder = .ok (f.get c) := by
  simp only [decode, Decoder.record, bind_eq_ok_iff, pure_eq_ok_iff, fields, List.forall_mem_cons]
  constructor
  · rintro ⟨_, h1, _, h2, _, h3, _, h4, _, h5, _, h6, _, h7, _, h8, _, h9, _, h10, _, h11, _, h12, _, h13, rfl⟩
    exact ⟨h1, h2, h3, h4, h5, h6, h7, h8, h9, h10, h11, h12, h13, nofun⟩
  · rintro ⟨h1, h2, h3, h4, h5, h6, h7, h8, h9, h10, h11, h12, h13, -⟩
    exact ⟨_, h1, _, h2, _, h3, _, h4, _, h5, _, h6, _, h7, _, h8, _, h9, _, h10, _, h11, _, h12, _, h13, rfl⟩

/-- Of the members of a configuration just one has the name of a field. -/
theorem mem_members_iff {f : Field} (known : f ∈ fields) {c : LoggingConfig} {j : Json} :
    (f.name, j) ∈ c.members ↔ j = f.write (f.get c) := by
  have distinct : (fields.map (·.name)).Nodup := by
    rw [map_name_fields]
    decide
  constructor
  · intro there
    obtain ⟨g, among, same⟩ := List.mem_map.1 there
    obtain ⟨name, rfl⟩ := Prod.mk.inj same
    rw [List.inj_on_of_nodup_map distinct among known name]
  · rintro rfl
    exact List.mem_map.2 ⟨f, known, rfl⟩

section Rewritten

variable {c : LoggingConfig} {dropped : List String} {extra ms : Members} (unknown : ∀ m ∈ extra, m.1 ∉ fieldNames)
  (same : ms.Perm (c.members.filter (fun m => m.1 ∉ dropped) ++ extra))

include unknown same

theorem mem_iff_of_rewritten {f : Field} (known : f ∈ fields) {j : Json} :
    (f.name, j) ∈ ms ↔ j = f.write (f.get c) ∧ f.name ∉ dropped := by
  have named : f.name ∈ fieldNames := map_name_fields ▸ List.mem_map_of_mem known
  have other : (f.name, j) ∉ extra := fun among => unknown _ among named
  rw [same.mem_iff, List.mem_append, or_iff_left other, List.mem_filter, mem_members_iff known, decide_eq_true_iff]

/-- A field is read from its member as it was, or takes its default if the member was dropped. -/
theorem optional_of_rewritten {f : Field} (known : f ∈ fields) :
    ms.optional f.name (f.get {}) f.decoder = .ok (if f.name ∈ dropped then f.get {} else f.get c) := by
  by_cases gone : f.name ∈ dropped
  · have absent : f.name ∉ ms.map (·.1) := by
      intro there
      obtain ⟨⟨_, j⟩, among, rfl⟩ := List.mem_map.1 there
      exact ((mem_iff_of_rewritten unknown same known).1 among).2 gone
    rw [if_pos gone, Members.optional_of_lookup_none (lookup_eq_none_iff_not_mem.2 absent)]
  · have found : ms.lookup f.name = some (f.write (f.get c)) :=
      lookup_eq_some_of_only ((mem_iff_of_rewritten unknown same known).2 ⟨rfl, gone⟩)
        fun j among => ((mem_iff_of_rewritten unknown same known).1 among).1
    rw [if_neg gone, Members.optional_of_lookup found, f.back]

end Rewritten

/-- A configuration comes back from its JSON object, and also after members were dropped, others with unknown names were
added and all of them were put into another order, if every field whose member was dropped has its default. If one has
not, something else comes back. -/
theorem survives_json (c : LoggingConfig) :
    decode c.toJson = .ok c ∧ c.toJson = .obj c.members ∧
      ∀ (dropped : List String) (extra ms : Members), (∀ m ∈ extra, m.1 ∉ fieldNames) →
        ms.Perm (c.members.filter (fun m => m.1 ∉ dropped) ++ extra) →
        (decode (.obj ms) = .ok c ↔ ∀ f ∈ fields, f.name ∈ dropped → f.get c = f.get {}) := by
  have rewritten : ∀ (dropped : List String) (extra ms : Members), (∀ m ∈ extra, m.1 ∉ fieldNames) →
      ms.Perm (c.members.filter (fun m => m.1 ∉ dropped) ++ extra) →
      (decode (.obj ms) = .ok c ↔ ∀ f ∈ fields, f.name ∈ dropped → f.get c = f.get {}) := by
    intro dropped extra ms unknown same
    rw [decode_obj_eq_ok_iff]
    refine forall₂_congr fun f known => ?_
    rw [optional_of_rewritten unknown same known, Except.ok.injEq, ite_eq_right_iff]
    exact imp_congr_right fun _ => eq_comm
  refine ⟨?_, toJson_eq c, rewritten⟩
  have all : c.members.Perm (c.members.filter (fun m => m.1 ∉ []) ++ []) := by simp
  exact (rewritten [] [] c.members nofun all).2 fun _ _ gone => absurd gone List.not_mem_nil

/-- A configuration with four fields of its own, of which one has the default all the same, and an unknown member twice
in between. -/
theorem survives_json_of_shuffled :
    let c : LoggingConfig :=
      { requestHeaders := [⟨"X-User", ⟨"private"⟩⟩, ⟨"Accept", ⟨"none"⟩⟩], poolCapacity := 1024,
        routeParameters := [("id", ⟨"private"⟩)],
        enrichers := [⟨"static-properties", .obj [("properties", .obj [("region", .arr [.null, .int (-1)])])]⟩, ⟨"x", .null⟩] }
    let extra : Members := [("note", .null), ("note", .arr [.bool true])]
    let ms := extra.take 1 ++ (c.members.filter fun m => m.1 ∈ ["enrichers", "route_parameters", "request_headers"]).reverse ++
      extra.drop 1
    let dropped := fieldNames.filter (· ∉ ["enrichers", "route_parameters", "request_headers"])
    "pool_capacity" ∈ dropped ∧ decode (.obj ms) = .ok c := by
  intro c extra ms dropped
  have unknown : ∀ m ∈ extra, m.1 ∉ fieldNames := by decide
  have same : ms.Perm (c.members.filter (fun m => m.1 ∉ dropped) ++ extra) := by decide +kernel
  have defaults : ∀ f ∈ fields, f.name ∈ dropped → f.get c = f.get {} := by
    simp only [fields, List.forall_mem_cons]
    refine ⟨?_, ?_, ?_, ?_, ?_, ?_, ?_, ?_, ?_, ?_, ?_, ?_, ?_, nofun⟩
    all_goals first
      | exact fun _ => rfl
      | exact fun gone => absurd gone (by decide)
  exact ⟨by decide, ((survives_json c).2.2 dropped extra ms unknown same).2 defaults⟩

end LoggingConfig

end CallTelemetry
