import AuditTrail.Store.Basic

/-
  The store in memory. A transaction is the list of what is staged in it, which is gone through in
  order at its commit. Reference data is added with the events that refer to it and is never
  removed; of a field the label of its type follows the latest event.
-/
namespace AuditTrail

/-- Events and the reference data they refer to, in the order in which they came. -/
structure Archive where
  applications : List Application := []
  entities : List EntityMirror := []
  fields : List FieldMirror := []
  events : List EventRecord := []
  deriving DecidableEq, Repr

namespace Archive

def addApplication (x : Application) (a : Archive) : Archive :=
  { a with applications := addRow Application.id x a.applications }

def addEntity (m : EntityMirror) (a : Archive) : Archive :=
  let a := a.addApplication m.application
  { a with entities := addRow EntityMirror.id m a.entities }

/-- Adds a field, or gives the one that is there the label of this one. -/
def putField (f : FieldMirror) : List FieldMirror → List FieldMirror
  | [] => [f]
  | g :: rest =>
    if g.id = f.id then { g with typeLabel := f.typeLabel } :: rest else g :: putField f rest

def addField (f : FieldMirror) (a : Archive) : Archive :=
  let a := a.addEntity f.mirror
  { a with fields := putField f a.fields }

/-- Adds what an event refers to. -/
def addMirrors (a : Archive) : EventRecord → Archive
  | .model e =>
    let a := a.addEntity e.entry.mirror
    let a := e.modifications.foldl (fun a m => a.addField m.field) a
    e.relationships.foldl (fun a r => (a.addField r.field).addEntity r.entry.mirror) a
  | .request e => a.addApplication e.application
  | .unspecified e => a.addApplication e.application

/-- Adds events with what they refer to. -/
def insert (events : List EventRecord) (a : Archive) : Archive :=
  let a := events.foldl addMirrors a
  { a with events := a.events ++ events }

/-- Deletes the events of a category from before a time. -/
def deleteBefore (c : Category) (cutoff : Timestamp) (a : Archive) : Archive :=
  { a with events := a.events.filter fun e => !e.isBefore c cutoff }

/-- The events of a category. -/
def eventsOf (c : Category) (a : Archive) : List EventRecord :=
  a.events.filter (·.category == c)

/-- The field with an identifier. -/
def field? (id : Uuid) (a : Archive) : Option FieldMirror := a.fields.find? (·.id == id)

end Archive

/-- Something staged in a transaction. -/
inductive StagedOp where
  | insert (events : List EventRecord)
  | delete (c : Category) (cutoff : Timestamp)
  deriving DecidableEq, Repr

namespace StagedOp

def apply (a : Archive) : StagedOp → Archive
  | .insert events => a.insert events
  | .delete c cutoff => a.deleteBefore c cutoff

/-- The events that are added. -/
def inserted : StagedOp → List EventRecord
  | .insert events => events
  | .delete _ _ => []

end StagedOp

/-- What is staged in a transaction, in order. -/
abbrev Staged := List StagedOp

/-- The store in memory, with how many transactions were started, committed and rolled back. -/
structure MemoryStore where
  archive : Archive := {}
  started : Nat := 0
  committed : Nat := 0
  rolledBack : Nat := 0
  deriving DecidableEq, Repr

namespace MemoryStore

/-- How many events a deletion is said to delete: those stored and those added earlier in the
transaction. -/
def countBefore (c : Category) (cutoff : Timestamp) (staged : Staged) (s : MemoryStore) : Nat :=
  s.archive.events.countP (·.isBefore c cutoff) +
    (staged.flatMap (·.inserted)).countP (·.isBefore c cutoff)

/-- The store in memory never refuses anything. -/
def store : Store MemoryStore Staged where
  name := "memory"
  start s := (.ok [], { s with started := s.started + 1 })
  insert events staged s := (.ok events.length, staged ++ [.insert events], s)
  deleteBefore c cutoff staged s :=
    (.ok (s.countBefore c cutoff staged), staged ++ [.delete c cutoff], s)
  commit staged s :=
    (.ok (), { s with
      archive := staged.foldl StagedOp.apply s.archive
      committed := s.committed + 1 })
  rollback _ s := (.ok (), { s with rolledBack := s.rolledBack + 1 })
  ready _ _ := true

/-- Adds events outside of any transaction. -/
def seed (events : List EventRecord) (s : MemoryStore) : MemoryStore :=
  { s with archive := s.archive.insert events }

end MemoryStore

end AuditTrail
