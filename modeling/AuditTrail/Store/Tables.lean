import AuditTrail.Json.Printer
import AuditTrail.Store.Basic

/-
  Events in tables. An event of a model is spread over a row of its own and rows for its entries,
  its modifications and its relationships, which go with it when it is deleted. Identifiers of
  events and of entries are unique, and a statement that would repeat one is refused; what was
  written before it stays. Times are kept in microseconds.
-/
namespace AuditTrail

structure EntityRow where
  id : Uuid
  name : String
  application : Uuid
  deriving DecidableEq, Repr

structure FieldRow where
  id : Uuid
  name : String
  entity : Uuid
  typeLabel : String
  deriving DecidableEq, Repr

structure ModelRow where
  id : Uuid
  createdAt : Int
  operation : Operation
  actor : Option String
  snapshot : Option String
  /-- Microseconds. -/
  duration : Option Nat
  deriving DecidableEq, Repr

structure EntryRow where
  id : Uuid
  event : Uuid
  entity : Uuid
  primaryKey : String
  value : String
  /-- Whether the entry is what the event is about. -/
  isSubject : Bool
  deriving DecidableEq, Repr

structure ModificationRow where
  event : Uuid
  position : Nat
  operation : Operation
  field : Uuid
  previous : Option String
  current : Option String
  deriving DecidableEq, Repr

structure RelationshipRow where
  event : Uuid
  position : Nat
  operation : Operation
  field : Uuid
  entry : Uuid
  deriving DecidableEq, Repr

structure RequestRow where
  id : Uuid
  createdAt : Int
  actor : Option String
  uri : String
  status : Nat
  method : String
  application : Uuid
  clientIp : Option String
  request : Option BodyCapture
  response : Option BodyCapture
  deriving DecidableEq, Repr

structure UnspecifiedRow where
  id : Uuid
  createdAt : Int
  message : String
  level : Level
  line : Option Nat
  file : Option String
  application : Uuid
  deriving DecidableEq, Repr

/-- The tables, rows in the order in which they were written. -/
structure Tables where
  applications : List Application := []
  entities : List EntityRow := []
  fields : List FieldRow := []
  models : List ModelRow := []
  entries : List EntryRow := []
  modifications : List ModificationRow := []
  relationships : List RelationshipRow := []
  requests : List RequestRow := []
  unspecified : List UnspecifiedRow := []
  deriving DecidableEq, Repr

/-- Statements, run one after the other until one is refused. -/
abbrev Statements (α : Type) := ExceptT StoreError (StateM Tables) α

namespace Tables

/-! Writing. -/

def addApplication (x : Application) (t : Tables) : Tables :=
  { t with applications := addRow Application.id x t.applications }

def addEntity (m : EntityMirror) (t : Tables) : Tables :=
  let t := t.addApplication m.application
  { t with entities := addRow EntityRow.id ⟨m.id, m.name, m.application.id⟩ t.entities }

/-- Adds a field, or gives the one that is there the label of this one. -/
def putField (f : FieldRow) : List FieldRow → List FieldRow
  | [] => [f]
  | g :: rest =>
    if g.id = f.id then { g with typeLabel := f.typeLabel } :: rest else g :: putField f rest

def addField (f : FieldMirror) (t : Tables) : Tables :=
  let t := t.addEntity f.mirror
  { t with fields := putField ⟨f.id, f.name, f.mirror.id, f.typeLabel⟩ t.fields }

/-- Adds a row to rows that are known by an identifier, or refuses it. -/
def addUnique {α : Type} (id : α → Uuid) (row : α) (rows : List α) : Except StoreError (List α) :=
  if rows.any (id · == id row) then .error .database else .ok (rows ++ [row])

def insertEntry (event : Uuid) (e : EntityEntry) (isSubject : Bool) : Statements Unit := do
  modify (addEntity e.mirror)
  let t ← get
  let row : EntryRow := ⟨e.id, event, e.mirror.id, e.primaryKey, e.value, isSubject⟩
  let entries ← addUnique EntryRow.id row t.entries
  set { t with entries := entries }

/-- Writes the modifications of an event from a position on. -/
def insertModifications (event : Uuid) : Nat → List ValueModification → Tables → Tables
  | _, [], t => t
  | position, m :: rest, t =>
    let t := t.addField m.field
    let row : ModificationRow :=
      ⟨event, position, m.operation, m.field.id, m.previous, m.current⟩
    insertModifications event (position + 1) rest
      { t with modifications := t.modifications ++ [row] }

/-- Writes the relationships of an event from a position on. -/
def insertRelationships (event : Uuid) : Nat → List RelationshipModification → Statements Unit
  | _, [] => pure ()
  | position, r :: rest => do
    modify (addField r.field)
    insertEntry event r.entry false
    let row : RelationshipRow := ⟨event, position, r.operation, r.field.id, r.entry.id⟩
    modify fun t => { t with relationships := t.relationships ++ [row] }
    insertRelationships event (position + 1) rest

/-- The largest number of microseconds of a duration. -/
def maxMicros : Nat := 0x7fffffffffffffff

def insertMutation (e : MutationEvent) : Statements Unit := do
  let row : ModelRow := {
    id := e.id
    createdAt := e.createdAt.toMicros
    operation := e.operation
    actor := e.actor
    snapshot := e.snapshot.map Json.render
    duration := e.duration.map fun d => min (d.toNanos / 1000) maxMicros }
  let t ← get
  let models ← addUnique ModelRow.id row t.models
  set { t with models := models }
  insertEntry e.id e.entry true
  modify (insertModifications e.id 0 e.modifications)
  insertRelationships e.id 0 e.relationships

def insertRequest (e : RequestEvent) : Statements Unit := do
  modify (addApplication e.application)
  let t ← get
  let row : RequestRow := {
    id := e.id
    createdAt := e.createdAt.toMicros
    actor := e.actor
    uri := e.uri
    status := e.status
    method := e.method
    application := e.application.id
    clientIp := e.clientIp
    request := e.request
    response := e.response }
  let requests ← addUnique RequestRow.id row t.requests
  set { t with requests := requests }

def insertUnspecified (e : UnspecifiedEvent) : Statements Unit := do
  modify (addApplication e.application)
  let t ← get
  let row : UnspecifiedRow :=
    ⟨e.id, e.createdAt.toMicros, e.message, e.level, e.line, e.file, e.application.id⟩
  let unspecified ← addUnique UnspecifiedRow.id row t.unspecified
  set { t with unspecified := unspecified }

def insertEvent : EventRecord → Statements Unit
  | .model e => insertMutation e
  | .request e => insertRequest e
  | .unspecified e => insertUnspecified e

/-! Deleting. -/

/-- The largest number of rows that one statement deletes. -/
def batchSize : Nat := 1000

/-- The rows that one statement deletes, at most `limit` old ones, and those that stay. -/
def takeOld {α : Type} (old : α → Bool) : Nat → List α → List α × List α
  | 0, rows => ([], rows)
  | _, [] => ([], [])
  | limit + 1, row :: rows =>
    if old row then
      let (gone, kept) := takeOld old limit rows
      (row :: gone, kept)
    else
      let (gone, kept) := takeOld old (limit + 1) rows
      (gone, row :: kept)

theorem length_takeOld {α : Type} (old : α → Bool) (limit : Nat) (rows : List α) :
    (takeOld old limit rows).1.length + (takeOld old limit rows).2.length = rows.length := by
  induction rows generalizing limit with
  | nil => cases limit <;> simp [takeOld]
  | cons row rows ih =>
    cases limit with
    | zero => simp [takeOld]
    | succ limit =>
      simp only [takeOld]
      split
      · have := ih limit
        simp only [List.length_cons]
        omega
      · have := ih (limit + 1)
        simp only [List.length_cons]
        omega

/-- The rows deleted by each statement, until one deletes fewer than a full batch, and the rows that
stay. -/
def deleteOld {α : Type} (old : α → Bool) (rows : List α) : List (List α) × List α :=
  let batch := takeOld old batchSize rows
  if _full : batch.1.length < batchSize then ([batch.1], batch.2)
  else
    let (batches, kept) := deleteOld old batch.2
    (batch.1 :: batches, kept)
termination_by rows.length
decreasing_by
  have total := length_takeOld old batchSize rows
  have full : ¬ (takeOld old batchSize rows).1.length < batchSize := _full
  show (takeOld old batchSize rows).2.length < rows.length
  have : 0 < batchSize := by decide
  omega

/-- Drops what belongs to deleted events. -/
def dropOwned (events : List Uuid) (t : Tables) : Tables :=
  { t with
    entries := t.entries.filter fun r => !events.contains r.event
    modifications := t.modifications.filter fun r => !events.contains r.event
    relationships := t.relationships.filter fun r => !events.contains r.event }

/-- Deletes the events of a category from before a time in microseconds, with all that belongs to
them, and gives their number. -/
def deleteBefore (c : Category) (cutoff : Int) (t : Tables) : Nat × Tables :=
  match c with
  | .model =>
    let (batches, kept) := deleteOld (fun r : ModelRow => r.createdAt < cutoff) t.models
    (batches.flatten.length, ({ t with models := kept } : Tables).dropOwned
      (batches.flatten.map (·.id)))
  | .request =>
    let (batches, kept) := deleteOld (fun r : RequestRow => r.createdAt < cutoff) t.requests
    (batches.flatten.length, { t with requests := kept })
  | .unspecified =>
    let (batches, kept) := deleteOld (fun r : UnspecifiedRow => r.createdAt < cutoff) t.unspecified
    (batches.flatten.length, { t with unspecified := kept })

/-- How many events of a category there are. -/
def count (t : Tables) : Category → Nat
  | .model => t.models.length
  | .request => t.requests.length
  | .unspecified => t.unspecified.length

/-- A transaction works on tables of its own, which replace the stored ones at its commit. -/
def store : Store Tables Tables where
  name := "sqlite"
  start t := (.ok t, t)
  insert events work t :=
    let (result, work) := (events.forM insertEvent).run.run work
    (result.map fun _ => events.length, work, t)
  deleteBefore c cutoff work t :=
    let (n, work) := work.deleteBefore c cutoff.toMicros
    (.ok n, work, t)
  commit work _ := (.ok (), work)
  rollback _ t := (.ok (), t)
  ready _ _ := true

end Tables

end AuditTrail
