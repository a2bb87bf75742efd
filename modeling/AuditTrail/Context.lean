import AuditTrail.Event.Basic
import AuditTrail.Journal

/-
  The state of the audit during one operation of the host: who acts, the events built so far, and
  what was seen before saves that are still to come. An instance is known by the qualified name of
  its type and its primary key; its event in flight is the latest one made for it.
-/
namespace AuditTrail

/-- How an instance is known within a context. -/
structure InstanceKey where
  entity : String
  primaryKey : Option String
  deriving DecidableEq, Repr

namespace InstanceKey

def of (i : Instance) : InstanceKey := ⟨i.entity.qualifiedName, i.primaryKey⟩

/-- The key that an instance had before it got a primary key. -/
def unsaved (k : InstanceKey) : InstanceKey := { k with primaryKey := none }

end InstanceKey

/-- What was seen before a save: the modifications, and the time if it is to be measured. -/
structure PendingSave where
  modifications : List ValueModification
  started : Option Timestamp
  deriving DecidableEq, Repr

/-- Entries under keys, each key once. -/
abbrev Keyed (α : Type) := List (InstanceKey × α)

namespace Keyed

variable {α : Type}

/-- Drops the entry under a key. -/
def remove (k : InstanceKey) (m : Keyed α) : Keyed α := m.filter fun e => e.1 != k

/-- Puts an entry under a key, in place of an earlier one. -/
def put (k : InstanceKey) (a : α) (m : Keyed α) : Keyed α := (k, a) :: m.remove k

end Keyed

/-- The state of the audit during one operation. -/
structure Context where
  actor : Option String := none
  events : List MutationEvent := []
  /-- The position of the event in flight of every instance that has one. -/
  memo : Keyed Nat := []
  pending : Keyed PendingSave := []
  deriving DecidableEq, Repr

namespace Context

/-- A new event about an instance by the present actor. -/
def newEvent (c : Context) (i : Instance) (op : Operation) (w : Surroundings) :
    MutationEvent × Surroundings :=
  let (entryId, w) := w.fresh
  let (id, w) := w.fresh
  let (time, w) := w.now
  ({ id := id, createdAt := time, operation := op, actor := c.actor,
     entry := .ofInstance entryId i }, w)

/-- The position of the event in flight of an instance, where `create` says that there has to be a
new one or there is none yet: a new event is added at the end. The flag says whether it was. -/
def eventFor (c : Context) (i : Instance) (op : Operation) (force : Bool) (w : Surroundings) :
    Nat × Bool × Context × Surroundings :=
  let key := InstanceKey.of i
  match if force then none else c.memo.lookup key with
  | some position => (position, false, c, w)
  | none =>
    let (event, w) := c.newEvent i op w
    let position := c.events.length
    (position, true,
      { c with events := c.events ++ [event], memo := Keyed.put key position c.memo }, w)

/-- Changes the event at a position. -/
def editEvent (position : Nat) (f : MutationEvent → MutationEvent) (c : Context) : Context :=
  { c with events := c.events.modify position f }

/-- The events that are worth handing over: modifications that changed nothing are not. -/
def handedOver (c : Context) : List MutationEvent := c.events.filter fun m => !m.isEmptyModification

/-- Takes the events out; no instance has an event in flight afterwards. -/
def takeEvents (c : Context) : List MutationEvent × Context :=
  (c.events, { c with events := [], memo := [] })

/-- Keeps what was seen before a save. -/
def stash (i : Instance) (p : PendingSave) (c : Context) : Context :=
  { c with pending := Keyed.put (.of i) p c.pending }

/-- Takes what was seen before the save of an instance, if need be what was seen before it had its
primary key. -/
def takePending (i : Instance) (c : Context) : Option PendingSave × Context :=
  let key := InstanceKey.of i
  match c.pending.lookup key with
  | some p => (some p, { c with pending := Keyed.remove key c.pending })
  | none =>
    (c.pending.lookup key.unsaved, { c with pending := Keyed.remove key.unsaved c.pending })

/-- Forgets what was seen before the save of an instance. -/
def discardPending (i : Instance) (c : Context) : Context :=
  { c with pending := Keyed.remove (.of i) c.pending }

/-- What is reported when a context is given up. -/
def drop (c : Context) (j : Journal) : Journal :=
  if c.events.isEmpty then j
  else j.note .warn "Audit context dropped with unrecorded events"
    [("events", Digits.text c.events.length)]

end Context

end AuditTrail
