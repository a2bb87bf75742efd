import AuditTrail.Json.Basic
import AuditTrail.Text.Case

/-
  What the host says about its data: types of entities with their declared fields, instances with
  their values, and the three operations on them.
-/
namespace AuditTrail

/-- What happens to an entity. -/
inductive Operation where
  | create
  | modify
  | delete
  deriving DecidableEq, Repr

namespace Operation

def all : List Operation := [.create, .modify, .delete]

def name : Operation → String
  | .create => "CREATE"
  | .modify => "MODIFY"
  | .delete => "DELETE"

def pastTense : Operation → String
  | .create => "created"
  | .modify => "modified"
  | .delete => "deleted"

def symbol : Operation → String
  | .create => "+"
  | .modify => "~"
  | .delete => "-"

/-- The operation with a name, which is compared without regard to ASCII case. -/
def ofName? (name : String) : Option Operation :=
  match Text.asciiUpper name with
  | "CREATE" => some .create
  | "MODIFY" => some .modify
  | "DELETE" => some .delete
  | _ => none

end Operation

/-- A declared field with the label of its type. -/
structure FieldDef where
  name : String
  typeLabel : String
  deriving DecidableEq, Repr

/-- What a type of entities asks not to be recorded. -/
structure Ignore where
  complete : Bool := false
  operations : List Operation := []
  fields : List String := []
  deriving DecidableEq, Repr

/-- A type of entities. -/
structure EntityType where
  name : String
  moduleName : Option String := none
  application : Option String := none
  fields : List FieldDef := []
  ignore : Ignore := {}
  deriving DecidableEq, Repr

namespace EntityType

/-- The name with its module in front. -/
def qualifiedName (e : EntityType) : String :=
  match e.moduleName with
  | some m => m ++ "." ++ e.name
  | none => e.name

/-- The name with its application in front, as it stands in messages. -/
def label (e : EntityType) : String := e.application.getD "unknown" ++ "." ++ e.name

/-- The definition of a field. -/
def fieldDef? (e : EntityType) (field : String) : Option FieldDef :=
  e.fields.find? (·.name == field)

/-- Whether a field is declared. -/
def declares (e : EntityType) (field : String) : Bool := e.fields.any (·.name == field)

end EntityType

/-- Values under names, in the order in which the names came first. -/
abbrev Values := List (String × Json)

/-- Puts a value under a name, in place of an earlier one. -/
def Values.set (name : String) (value : Json) : Values → Values
  | [] => [(name, value)]
  | (n, v) :: rest =>
    if n = name then (n, value) :: rest else (n, v) :: Values.set name value rest

/-- An entity in some state. -/
structure Instance where
  entity : EntityType
  primaryKey : Option String := none
  values : Values := []
  display : Option String := none
  deriving DecidableEq, Repr

namespace Instance

/-- The values of declared fields. -/
def declaredValues (i : Instance) : Values := i.values.filter fun v => i.entity.declares v.1

/-- The primary key, empty if there is none yet. -/
def primaryKeyOrEmpty (i : Instance) : String := i.primaryKey.getD ""

/-- The text an instance is shown as. -/
def toText (i : Instance) : String :=
  match i.display with
  | some d => d
  | none => i.entity.name ++ " object (" ++ i.primaryKey.getD "None" ++ ")"

/-- The value under a name. -/
def get? (i : Instance) (field : String) : Option Json := i.values.lookup field

end Instance

end AuditTrail
