import AuditTrail.Entity.Basic
import AuditTrail.Identity.Uuid

/-
  Reference data about applications, types of entities and their fields, as events refer to them.
  Their identifiers are made from their names, so the same thing has the same identifier whenever it
  is met.
-/
namespace AuditTrail

/-- The name space of the identifiers of reference data. -/
def mirrorSpace : Uuid := .ofNat 0x6f1c2d7e9a344b8ea1f05c3d8e2b7a90

/-- The identifier of a key within the name space. -/
def mirrorId (key : String) : Uuid := .ofName mirrorSpace key

/-- An application, possibly unknown. -/
structure Application where
  id : Uuid
  name : Option String
  deriving DecidableEq, Repr

namespace Application

/-- The text an application's identifier is made from. -/
def key : Option String → String
  | some name => "application:name:" ++ name
  | none => "application:unknown"

/-- The application with a name. -/
def named (name : Option String) : Application := ⟨mirrorId (key name), name⟩

end Application

/-- A type of entities of an application. -/
structure EntityMirror where
  id : Uuid
  name : String
  application : Application
  deriving DecidableEq, Repr

namespace EntityMirror

/-- The text its identifier is made from. -/
def key (name : String) (application : Application) : String :=
  "entity:" ++ application.id.toText ++ ":" ++ name

def named (name : String) (application : Application) : EntityMirror :=
  ⟨mirrorId (key name application), name, application⟩

/-- The mirror of a type of entities. -/
def ofType (e : EntityType) : EntityMirror := named e.name (.named e.application)

end EntityMirror

/-- A field of a type of entities, with the label of its type. -/
structure FieldMirror where
  id : Uuid
  name : String
  mirror : EntityMirror
  typeLabel : String
  deriving DecidableEq, Repr

namespace FieldMirror

/-- The text its identifier is made from. -/
def key (name : String) (mirror : EntityMirror) : String :=
  "field:" ++ mirror.id.toText ++ ":" ++ name

def named (name : String) (mirror : EntityMirror) (typeLabel : String) : FieldMirror :=
  ⟨mirrorId (key name mirror), name, mirror, typeLabel⟩

end FieldMirror

end AuditTrail
