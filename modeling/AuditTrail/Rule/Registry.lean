import AuditTrail.Rule.Override

/-
  The overrides in force, by the name of what they are for: the qualified name of a type of
  entities or the path of a request handler. Inclusions and exclusions are kept apart.
-/
namespace AuditTrail

/-- Overrides under names. -/
abbrev Overrides (α : Type) := List (String × α)

namespace Overrides

variable {α : Type}

/-- Adds an override under a name, merging it with one that is there. -/
def add (merge : α → α → α) (name : String) (value : α) : Overrides α → Overrides α
  | [] => [(name, value)]
  | (n, v) :: rest =>
    if n = name then (n, merge v value) :: rest else (n, v) :: add merge name value rest

/-- Drops the override under a name. -/
def remove (name : String) (os : Overrides α) : Overrides α := os.filter fun o => o.1 != name

end Overrides

/-- All overrides in force. -/
structure Registry where
  modelInclusions : Overrides ModelOverride := []
  modelExclusions : Overrides ModelOverride := []
  requestInclusions : Overrides RequestOverride := []
  requestExclusions : Overrides RequestOverride := []

namespace Registry

/-- Registers that something is always recorded. -/
def addInclusion (name : String) (o : Override) (r : Registry) : Registry :=
  match o with
  | .model o => { r with modelInclusions := r.modelInclusions.add ModelOverride.merge name o }
  | .request o =>
    { r with requestInclusions := r.requestInclusions.add RequestOverride.merge name o }

/-- Registers that something is never recorded. -/
def addExclusion (name : String) (o : Override) (r : Registry) : Registry :=
  match o with
  | .model o => { r with modelExclusions := r.modelExclusions.add ModelOverride.merge name o }
  | .request o =>
    { r with requestExclusions := r.requestExclusions.add RequestOverride.merge name o }

/-- Drops all overrides under a name. -/
def unregister (name : String) (r : Registry) : Registry where
  modelInclusions := r.modelInclusions.remove name
  modelExclusions := r.modelExclusions.remove name
  requestInclusions := r.requestInclusions.remove name
  requestExclusions := r.requestExclusions.remove name

def modelInclusion? (r : Registry) (name : String) : Option ModelOverride :=
  r.modelInclusions.lookup name

def modelExclusion? (r : Registry) (name : String) : Option ModelOverride :=
  r.modelExclusions.lookup name

def requestInclusion? (r : Registry) (name : String) : Option RequestOverride :=
  r.requestInclusions.lookup name

def requestExclusion? (r : Registry) (name : String) : Option RequestOverride :=
  r.requestExclusions.lookup name

end Registry

end AuditTrail
