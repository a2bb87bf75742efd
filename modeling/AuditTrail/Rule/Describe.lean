import AuditTrail.Event.Encode
import AuditTrail.Rule.Registry

/-
  The overrides in force for one name, as a value for display. Listed choices are sorted.
-/
namespace AuditTrail

def Selection.describe {α : Type} (name : α → String) : Selection α → Json
  | .all => .string "all"
  | .nothing => .string "none"
  | .only items => .texts ((items.map name).mergeSort fun a b => !(b < a))

def ModelOverride.describe (o : ModelOverride) : Json := .record [
  ("operations", o.operations.describe Operation.name),
  ("fields", o.fields.describe id)]

/-- Also says which of some methods are covered. -/
def RequestOverride.describe (methods : List String) (o : RequestOverride) : Json := .record [
  ("methods", o.methods.describe id),
  ("covers", .array (methods.map fun m => .bool (o.covers m)))]

/-- The overrides under a name. -/
def Registry.describe (r : Registry) (name : String) (methods : List String) : Json := .record [
  ("model_exclusion", .option ModelOverride.describe (r.modelExclusion? name)),
  ("model_inclusion", .option ModelOverride.describe (r.modelInclusion? name)),
  ("request_exclusion", .option (RequestOverride.describe methods) (r.requestExclusion? name)),
  ("request_inclusion", .option (RequestOverride.describe methods) (r.requestInclusion? name))]

end AuditTrail
