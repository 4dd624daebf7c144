import CallTelemetry.Enrichment.CallId
import CallTelemetry.Enrichment.HeaderCopy
import CallTelemetry.Enrichment.RequestNames
import CallTelemetry.Enrichment.StaticProperties

/-!
# Factories that come with the library
-/

namespace CallTelemetry

/-- The factories in the order in which they are registered. -/
def builtinFactories (newId : Request → String) : List EnricherFactory :=
  [StaticProperties.factory, HeaderCopy.factory, RequestNames.factory, CallId.factory newId]

/-- The registry of the factories that come with the library. -/
def builtinRegistry (newId : Request → String) : EnricherRegistry :=
  (({} : EnricherRegistry).registerAll (builtinFactories newId)).1

end CallTelemetry
