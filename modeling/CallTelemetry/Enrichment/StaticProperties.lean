import CallTelemetry.Enrichment.Registry

/-!
# Static properties

An enricher that adds the same pairs to every record, in the order of their keys.
-/

namespace CallTelemetry.StaticProperties

/-- The pairs of a configuration, sorted by key: a record with one field, `properties`, a map of texts. -/
def properties : Json → Except DecodeError (List (String × String))
  | .null => .ok []
  | j => Json.sortMembers <$> Decoder.record "StaticPropertiesConfig" ["properties"] 0
      (fun m => m.optional "properties" [] (Decoder.map Decoder.string)) j

def enricher (pairs : List (String × String)) : Enricher where
  name := "static-properties"
  run bag _ _ := (bag.addAll pairs, .done)

/-- The factory. Only the check refuses an empty key. -/
def factory : EnricherFactory where
  name := "static-properties"
  check config := do
    let pairs ← (properties config).mapError Refusal.decode
    if pairs.any fun p => p.1 = "" then throw .emptyPropertyKey
  configure config := do
    let pairs ← (properties config).mapError Refusal.decode
    return enricher pairs

end CallTelemetry.StaticProperties
