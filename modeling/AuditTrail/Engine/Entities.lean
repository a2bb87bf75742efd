import AuditTrail.Engine.Basic

/-
  Observing entities. Before a save the differences to the stored state are taken down; after it
  they become an event. Deletions become events of their own. A change of a relation is added to
  the event in flight of its owner.
-/
namespace AuditTrail

/-- What happened to a relation. -/
inductive RelationAction where
  | add
  | remove
  | clear
  deriving DecidableEq, Repr

namespace RelationAction

def name : RelationAction → String
  | .add => "add"
  | .remove => "remove"
  | .clear => "clear"

/-- The action with a name. -/
def ofName? (name : String) : Option RelationAction :=
  [RelationAction.add, .remove, .clear].find? (·.name == name)

def isAddition (a : RelationAction) : Bool := a == .add

def isClearing (a : RelationAction) : Bool := a == .clear

/-- What it means for the related entities. -/
def operation (a : RelationAction) : Operation := if a.isAddition then .create else .delete

end RelationAction

/-- The time between two points in time. -/
def Timestamp.elapsed (start stop : Timestamp) : Duration :=
  let nanos := (stop.secs - start.secs) * 1000000000 + ((stop.nanos : Int) - start.nanos)
  (Duration.ofNanos? nanos.toNat).getD (.ofSecs 0)

/-- The values of an instance as one value. -/
def Instance.snapshot (i : Instance) : Json := .record i.values

namespace Engine

variable {σ τ : Type}

/-- The changes of fields that are not excluded. -/
def admitChanges (entity : EntityType) : List Change → Engine σ τ → List Change × Engine σ τ
  | [], e => ([], e)
  | change :: rest, e =>
    let (excluded, e) := e.excludes (.field entity change.key)
    let (admitted, e) := admitChanges entity rest e
    (if excluded then admitted else change :: admitted, e)

/-- A change as a modification of a declared field. -/
def modificationOf (entity : EntityType) (change : Change) : Option ValueModification :=
  (entity.fieldDef? change.key).map fun d =>
    ⟨change.operation, .named d.name (.ofType entity) d.typeLabel, change.previous, change.current⟩

/-- Takes down what a save is about to change; `prior` is the stored state if there is one. -/
def beforeSave (i : Instance) (prior : Option Instance) (c : Context) (e : Engine σ τ) :
    Context × Engine σ τ :=
  if !e.config.isEnabled .model then (c, e)
  else
    let operation := if prior.isSome then Operation.modify else .create
    match e.excludesCounted .model (.model i.entity operation) with
    | (true, e) => (c.discardPending i, e)
    | (false, e) =>
      let before := (prior.map (·.declaredValues)).getD []
      let (changes, e) := e.admitChanges i.entity (Change.between before i.declaredValues)
      let modifications := changes.filterMap (modificationOf i.entity)
      if e.config.model.performance then
        let (time, e) := e.now
        (c.stash i ⟨modifications, some time⟩, e)
      else (c.stash i ⟨modifications, none⟩, e)

/-- A new event about an instance in a context; gives its position. -/
def newEvent (i : Instance) (operation : Operation) (force : Bool) (c : Context)
    (e : Engine σ τ) : Nat × Context × Engine σ τ :=
  let (position, _, c, surroundings) := c.eventFor i operation force e.handler.surroundings
  (position, c, { e with handler := { e.handler with surroundings := surroundings } })

/-- Announces an event about an instance. -/
def announceMutation (i : Instance) (m : MutationEvent) (e : Engine σ τ) : Engine σ τ :=
  e.announce e.config.model.loglevel (m.message i.entity.label e.config.model.detailedMessage)

/-- The snapshot that an event about an instance carries, if it carries one. -/
def snapshotOf (i : Instance) (e : Engine σ τ) : Option Json :=
  if e.config.model.snapshot then some i.snapshot else none

/-- The time since a save was begun, if it was measured. -/
def measure (started : Option Timestamp) (e : Engine σ τ) : Option Duration × Engine σ τ :=
  match started with
  | none => (none, e)
  | some start =>
    let (time, e) := e.now
    (some (start.elapsed time), e)

/-- Makes the event of a save from what was taken down before it. If fields are named, only their
modifications are kept. -/
def afterSave (i : Instance) (created : Bool) (touched : Option (List String)) (c : Context)
    (e : Engine σ τ) : Context × Engine σ τ :=
  if !e.config.isEnabled .model then (c, e)
  else
    let operation := if created then Operation.create else .modify
    match e.excludesCounted .model (.model i.entity operation) with
    | (true, e) => (c.discardPending i, e)
    | (false, e) =>
      let (pending, c) := c.takePending i
      let modifications := ((pending.map (·.modifications)).getD []).filter fun m =>
        touched.all (·.contains m.field.name)
      let (position, c, e) := e.newEvent i operation true c
      let (duration, e) := e.measure (pending.bind (·.started))
      let c := c.editEvent position fun m =>
        { m with
          modifications := modifications
          snapshot := e.snapshotOf i
          duration := duration }
      match c.events[position]? with
      | none => (c, e)
      | some m => (c, if m.isEmptyModification then e else e.announceMutation i m)

/-- Makes the event of a deletion. -/
def afterDelete (i : Instance) (c : Context) (e : Engine σ τ) : Context × Engine σ τ :=
  if !e.config.isEnabled .model then (c, e)
  else
    let c := c.discardPending i
    match e.excludesCounted .model (.model i.entity .delete) with
    | (true, e) => (c, e)
    | (false, e) =>
      let (position, c, e) := e.newEvent i .delete true c
      let c := c.editEvent position fun m => { m with snapshot := e.snapshotOf i }
      match c.events[position]? with
      | none => (c, e)
      | some m => (c, e.announceMutation i m)

/-- The modifications of a relation by related instances. -/
def relate (operation : Operation) (field : FieldMirror) :
    List Instance → Engine σ τ → List RelationshipModification × Engine σ τ
  | [], e => ([], e)
  | i :: rest, e =>
    let (id, e) := e.fresh
    let (relationships, e) := relate operation field rest e
    (⟨operation, field, .ofInstance id i⟩ :: relationships, e)

/-- Adds a change of a relation to the event in flight of its owner. -/
def relationChanged (owner : Instance) (field : String) (related : List Instance)
    (action : RelationAction) (c : Context) (e : Engine σ τ) : Context × Engine σ τ :=
  if !e.config.isEnabled .model || related.isEmpty then (c, e)
  else
    let entity := owner.entity
    match e.excludesCounted .model (.model entity action.operation) with
    | (true, e) => (c, e)
    | (false, e) =>
      match entity.fieldDef? field with
      | none =>
        (c, e.report (·.note .warn "Relationship change on an undeclared field, not recorded"
          [("entity", entity.qualifiedName), ("field", field)]))
      | some d =>
        match e.excludes (.field entity field) with
        | (true, e) => (c, e)
        | (false, e) =>
          let mirror := FieldMirror.named d.name (.ofType entity) d.typeLabel
          let (relationships, e) := e.relate action.operation mirror related
          let (position, c, e) := e.newEvent owner .modify false c
          let c := c.editEvent position fun m =>
            { m with relationships := m.relationships ++ relationships }
          let actor := (c.events[position]?.bind (·.actor)).getD "Anonymous"
          (c, e.announce e.config.model.loglevel
            (actor ++ " modified field " ++ field ++ " | Model: " ++ entity.label ++
              " | Modifications: " ++ ", ".intercalate (relationships.map (·.short))))

end Engine

end AuditTrail
