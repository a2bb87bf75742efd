import AuditTrail.Change
import AuditTrail.Level
import AuditTrail.Mirror
import AuditTrail.Time.Timestamp
import AuditTrail.Config.Basic

/-
  The events that are recorded: changes of entities, finished requests, and log records; and the
  surroundings they take their identifiers and times from.
-/
namespace AuditTrail

/-- Where identifiers and times come from: a count of the identifiers given out and a clock, which
moves on by a little with every reading. -/
structure Surroundings where
  serial : Nat
  clock : Timestamp
  deriving DecidableEq, Repr

namespace Surroundings

/-- The first identifier. -/
def firstId : Nat := 0xfe000000000040008000000000000000

/-- The identifier of a count. Identifiers of different counts differ. -/
def idOf (n : Nat) : Uuid := .ofNat (firstId + n)

/-- A new identifier. -/
def fresh (s : Surroundings) : Uuid × Surroundings :=
  (idOf s.serial, { s with serial := s.serial + 1 })

/-- Whether an identifier has been given out. -/
def gave (s : Surroundings) (id : Uuid) : Bool :=
  firstId ≤ id.toNat && id.toNat < firstId + s.serial

/-- How far the clock moves with every reading, in nanoseconds. -/
def tick : Nat := 1000000

/-- The present time. -/
def now (s : Surroundings) : Timestamp × Surroundings :=
  (s.clock, { s with clock := s.clock.plusNanos tick })

end Surroundings

/-- An entity as an event refers to it. -/
structure EntityEntry where
  id : Uuid
  mirror : EntityMirror
  primaryKey : String
  value : String
  deriving DecidableEq, Repr

/-- The entry of an instance under an identifier. -/
def EntityEntry.ofInstance (id : Uuid) (i : Instance) : EntityEntry :=
  ⟨id, .ofType i.entity, i.primaryKeyOrEmpty, i.toText⟩

/-- A changed value. -/
structure ValueModification where
  operation : Operation
  field : FieldMirror
  previous : Option String
  current : Option String
  deriving DecidableEq, Repr

/-- The short form of a changed value. -/
def ValueModification.short (m : ValueModification) : String := m.operation.symbol ++ m.field.name

/-- A related entity that was added or removed. -/
structure RelationshipModification where
  operation : Operation
  field : FieldMirror
  entry : EntityEntry
  deriving DecidableEq, Repr

/-- The short form of a changed relation. -/
def RelationshipModification.short (m : RelationshipModification) : String :=
  m.operation.symbol ++ m.entry.mirror.name ++ "(" ++ m.entry.primaryKey ++ ")"

/-- A change of an entity. -/
structure MutationEvent where
  id : Uuid
  createdAt : Timestamp
  operation : Operation
  actor : Option String
  entry : EntityEntry
  snapshot : Option Json := none
  duration : Option Duration := none
  modifications : List ValueModification := []
  relationships : List RelationshipModification := []
  deriving DecidableEq, Repr

/-- A modification that changed nothing. -/
def MutationEvent.isEmptyModification (e : MutationEvent) : Bool :=
  e.operation == .modify && e.modifications.isEmpty && e.relationships.isEmpty

/-- A captured body. -/
structure BodyCapture where
  content : String
  contentType : String
  deriving DecidableEq, Repr

/-- A finished request. -/
structure RequestEvent where
  id : Uuid
  createdAt : Timestamp
  actor : Option String
  uri : String
  status : Nat
  method : String
  application : Application
  clientIp : Option String
  request : Option BodyCapture
  response : Option BodyCapture
  deriving DecidableEq, Repr

/-- A log record. -/
structure UnspecifiedEvent where
  id : Uuid
  createdAt : Timestamp
  message : String
  level : Level
  line : Option Nat
  file : Option String
  application : Application
  deriving DecidableEq, Repr

/-- An event of any category. -/
inductive EventRecord where
  | model (e : MutationEvent)
  | request (e : RequestEvent)
  | unspecified (e : UnspecifiedEvent)
  deriving DecidableEq, Repr

namespace EventRecord

def category : EventRecord → Category
  | .model _ => .model
  | .request _ => .request
  | .unspecified _ => .unspecified

def id : EventRecord → Uuid
  | .model e => e.id
  | .request e => e.id
  | .unspecified e => e.id

def createdAt : EventRecord → Timestamp
  | .model e => e.createdAt
  | .request e => e.createdAt
  | .unspecified e => e.createdAt

/-- The change of an entity, if the event is one. -/
def mutation? : EventRecord → Option MutationEvent
  | .model e => some e
  | _ => none

end EventRecord

/-- What a change is announced as: who did what to which entity and, where details are wanted, the
changed values of a modification. -/
def MutationEvent.message (e : MutationEvent) (typeLabel : String) (detailed : Bool) : String :=
  let head := e.actor.getD "Anonymous" ++ " " ++ e.operation.pastTense ++ " " ++ typeLabel ++
    " | Instance: " ++ e.entry.value
  if detailed && e.operation == .modify && !e.modifications.isEmpty then
    head ++ " | Modifications: " ++ ", ".intercalate (e.modifications.map (·.short))
  else head

end AuditTrail
