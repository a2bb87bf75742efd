import AuditTrail.Entity.Basic

/-
  Overrides of the configured rules: which operations and fields of a type of entities, or which
  methods of a request handler, are always or never recorded. Overrides for the same thing add up.
-/
namespace AuditTrail

/-- A choice among things. -/
inductive Selection (α : Type) where
  | all
  | only (items : List α)
  | nothing
  deriving DecidableEq, Repr

namespace Selection

variable {α : Type} [DecidableEq α]

/-- The choice of listed things, in which repetitions do not count. -/
def ofList (items : List α) : Selection α := .only items.eraseDups

/-- Whether a thing is chosen. -/
def contains (s : Selection α) (a : α) : Bool :=
  match s with
  | .all => true
  | .only items => items.contains a
  | .nothing => false

/-- The things chosen by either. -/
def union : Selection α → Selection α → Selection α
  | .all, _ => .all
  | _, .all => .all
  | .nothing, s => s
  | s, .nothing => s
  | .only a, .only b => .only (a ++ b.filter fun x => !a.contains x)

theorem contains_union (s t : Selection α) (a : α) :
    (s.union t).contains a = (s.contains a || t.contains a) := by
  cases s <;> cases t <;> simp [union, contains]
  rename_i as bs
  by_cases h : a ∈ as <;> simp [h]

end Selection

/-- What is overridden for a type of entities. -/
structure ModelOverride where
  operations : Selection Operation := .all
  fields : Selection String := .all
  deriving DecidableEq, Repr

def ModelOverride.merge (a b : ModelOverride) : ModelOverride :=
  ⟨a.operations.union b.operations, a.fields.union b.fields⟩

/-- What is overridden for a request handler. -/
structure RequestOverride where
  methods : Selection String := .all
  deriving DecidableEq, Repr

namespace RequestOverride

/-- An override for some methods, none of them meaning all. -/
def ofMethods (methods : List String) : RequestOverride :=
  if methods.isEmpty then ⟨.all⟩ else ⟨.ofList (methods.map Text.asciiLower)⟩

/-- Whether a method is overridden, without regard to ASCII case. -/
def covers (o : RequestOverride) (method : String) : Bool :=
  match o.methods with
  | .all => true
  | .only items => items.any (Text.equalIgnoringAsciiCase method)
  | .nothing => false

def merge (a b : RequestOverride) : RequestOverride := ⟨a.methods.union b.methods⟩

end RequestOverride

/-- An override of either sort. -/
inductive Override where
  | model (o : ModelOverride)
  | request (o : RequestOverride)
  deriving DecidableEq, Repr

end AuditTrail
