import CallTelemetry.Json.Basic

/-!
# Layered values

A value put on top of another one. Objects are merged member by member; any other value takes the place
of the one below it.
-/

namespace CallTelemetry.Json

mutual

/-- A value with another one on top. -/
def merge : Json → Json → Json
  | .obj below, .obj above => .obj (mergeMembers below above)
  | _, above => above

/-- Members with others on top, sorted by name if those below are. -/
def mergeMembers (below : List (String × Json)) : List (String × Json) → List (String × Json)
  | [] => below
  | (name, value) :: rest =>
    let merged := match below.lookup name with
      | some old => merge old value
      | none => value
    mergeMembers (insertMember name merged below) rest

end

end CallTelemetry.Json
