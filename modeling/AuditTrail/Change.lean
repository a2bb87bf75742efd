import AuditTrail.Entity.Basic
import AuditTrail.Json.Printer

/-
  The changes between two states of an entity. Values are compared by a normal form in which null,
  a missing value and the empty text are the same; each key whose normal forms differ gives one
  change.
-/
namespace AuditTrail

/-- A change of one value. -/
structure Change where
  operation : Operation
  key : String
  previous : Option String
  current : Option String
  deriving DecidableEq, Repr

namespace Change

/-- The normal form of a value: texts as they are, anything else in its compact written form. -/
def normalize : Json → Option String
  | .null => none
  | .string s => if s = "" then none else some s
  | v => some v.render

/-- The change of a value that the later state has. -/
def ofPost (prior : Values) (entry : String × Json) : Option Change :=
  let before := prior.lookup entry.1
  let previous := before.bind normalize
  let current := normalize entry.2
  if previous = current then none
  else some ⟨if before.isSome then .modify else .create, entry.1, previous, current⟩

/-- The change of a value that the later state no longer has. -/
def ofRemoved (post : Values) (entry : String × Json) : Option Change :=
  if (post.lookup entry.1).isSome then none
  else (normalize entry.2).map fun previous => ⟨.delete, entry.1, some previous, none⟩

/-- The changes from one state to another: first the keys of the later state in its order, then
those that only the earlier one has. -/
def between (prior post : Values) : List Change :=
  post.filterMap (ofPost prior) ++ prior.filterMap (ofRemoved post)

end Change

end AuditTrail
