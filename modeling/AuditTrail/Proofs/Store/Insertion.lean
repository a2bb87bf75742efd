import AuditTrail.Proofs.Store.Rows

/-
  An insertion into the tables row by row. An event is a list of rows, in the order in which they
  are written (`Row.of`), and inserting events is writing their rows until one is refused
  (`Tables.insertAll_performs`). So what an insertion leaves, refused or not, is what the rows
  before a refusal make of the tables (`Tables.write_snd`), and whatever is kept by writing one row
  is kept by every insertion.
-/
namespace AuditTrail

/-- A row for one of the tables, reference data with what it belongs to. -/
inductive Row where
  | application (x : Application)
  | entity (m : EntityMirror)
  | field (f : FieldMirror)
  | model (r : ModelRow)
  | entry (r : EntryRow)
  | modification (r : ModificationRow)
  | relationship (r : RelationshipRow)
  | request (r : RequestRow)
  | unspecified (r : UnspecifiedRow)

namespace Row

/-! ## The rows of an event -/

def ofEntity (m : EntityMirror) : List Row := [.application m.application, .entity m]

def ofField (f : FieldMirror) : List Row := ofEntity f.mirror ++ [.field f]

def ofEntry (event : Uuid) (e : EntityEntry) (isSubject : Bool) : List Row :=
  ofEntity e.mirror ++ [.entry ⟨e.id, event, e.mirror.id, e.primaryKey, e.value, isSubject⟩]

/-- The rows of modifications from a position on. -/
def ofModifications (event : Uuid) : Nat → List ValueModification → List Row
  | _, [] => []
  | position, m :: rest =>
    ofField m.field ++
      (.modification ⟨event, position, m.operation, m.field.id, m.previous, m.current⟩ ::
        ofModifications event (position + 1) rest)

/-- The rows of relationships from a position on. -/
def ofRelationships (event : Uuid) : Nat → List RelationshipModification → List Row
  | _, [] => []
  | position, r :: rest =>
    ofField r.field ++ (ofEntry event r.entry false ++
      (.relationship ⟨event, position, r.operation, r.field.id, r.entry.id⟩ ::
        ofRelationships event (position + 1) rest))

/-- The rows of an event, in the order in which they are written. -/
def of : EventRecord → List Row
  | .model e =>
    .model (Tables.modelRow e) :: (ofEntry e.id e.entry true ++
      (ofModifications e.id 0 e.modifications ++ ofRelationships e.id 0 e.relationships))
  | .request e => [.application e.application, .request (Tables.requestRow e)]
  | .unspecified e => [.application e.application, .unspecified (Tables.unspecifiedRow e)]

/-! ## Rows of modifications and relationships -/

end Row

namespace Tables

def entryRow (event : Uuid) (e : EntityEntry) (isSubject : Bool) : EntryRow :=
  ⟨e.id, event, e.mirror.id, e.primaryKey, e.value, isSubject⟩

def modificationRow (event : Uuid) (m : ValueModification) (position : Nat) : ModificationRow :=
  ⟨event, position, m.operation, m.field.id, m.previous, m.current⟩

def relationshipRow (event : Uuid) (r : RelationshipModification) (position : Nat) :
    RelationshipRow :=
  ⟨event, position, r.operation, r.field.id, r.entry.id⟩

end Tables

namespace Row

theorem ofModifications_eq (event : Uuid) (position : Nat) (ms : List ValueModification) :
    ofModifications event position ms = (ms.zipIdx position).flatMap fun m =>
      ofField m.1.field ++ [.modification (Tables.modificationRow event m.1 m.2)] := by
  induction ms generalizing position with
  | nil => rfl
  | cons m ms ih =>
    rw [ofModifications, ih, List.zipIdx_cons, List.flatMap_cons, List.append_assoc]
    rfl

theorem ofRelationships_eq (event : Uuid) (position : Nat) (rs : List RelationshipModification) :
    ofRelationships event position rs = (rs.zipIdx position).flatMap fun r =>
      ofField r.1.field ++ (ofEntry event r.1.entry false ++
        [.relationship (Tables.relationshipRow event r.1 r.2)]) := by
  induction rs generalizing position with
  | nil => rfl
  | cons r rs ih =>
    rw [ofRelationships, ih, List.zipIdx_cons, List.flatMap_cons, List.append_assoc,
      List.append_assoc]
    rfl

/-- Going through numbered entries without regard to the numbers. -/
theorem flatMap_zipIdx {α β : Type} (f : α → List β) (xs : List α) :
    xs.zipIdx.flatMap (fun x => f x.1) = xs.flatMap f := by
  rw [← List.flatMap_map, List.zipIdx_map_fst]

section

variable {β : Type} {g : Row → Option β}

theorem filterMap_one (row : Row) : [row].filterMap g = (g row).toList := by
  cases h : g row with
  | none => exact List.filterMap_cons_none h
  | some r => exact List.filterMap_cons_some h

theorem filterMap_ofEntry (event : Uuid) (e : EntityEntry) (isSubject : Bool) :
    (ofEntry event e isSubject).filterMap g = (ofEntity e.mirror).filterMap g ++
      (g (.entry (Tables.entryRow event e isSubject))).toList := by
  rw [ofEntry, List.filterMap_append]
  exact congrArg _ (filterMap_one _)

/-- Rows of one kind among those of a change of an entity, in the order of writing. -/
theorem filterMap_of_model (e : MutationEvent) : (of (.model e)).filterMap g =
    (g (.model (Tables.modelRow e))).toList ++
      ((ofEntity e.entry.mirror).filterMap g ++
        (g (.entry (Tables.entryRow e.id e.entry true))).toList ++
      ((e.modifications.zipIdx.flatMap fun m => (ofField m.1.field).filterMap g ++
        (g (.modification (Tables.modificationRow e.id m.1 m.2))).toList) ++
      e.relationships.zipIdx.flatMap fun r => (ofField r.1.field).filterMap g ++
        ((ofEntity r.1.entry.mirror).filterMap g ++
          (g (.entry (Tables.entryRow e.id r.1.entry false))).toList ++
        (g (.relationship (Tables.relationshipRow e.id r.1 r.2))).toList))) := by
  rw [of, ← List.singleton_append, ofModifications_eq, ofRelationships_eq]
  simp only [List.filterMap_append, List.filterMap_flatMap, filterMap_ofEntry, filterMap_one]

end

/-! ## Writing a row -/

/-- Whether the tables refuse a row, because there is one under its identifier. -/
def refused (t : Tables) : Row → Bool
  | .model r => t.models.any (·.id == r.id)
  | .entry r => t.entries.any (·.id == r.id)
  | .request r => t.requests.any (·.id == r.id)
  | .unspecified r => t.unspecified.any (·.id == r.id)
  | _ => false

/-- The tables with a row more, or a label changed. -/
def put (t : Tables) : Row → Tables
  | .application x => t.addApplication x
  | .entity m => { t with entities := addRow EntityRow.id (.of m) t.entities }
  | .field f => { t with fields := Tables.putField (.of f) t.fields }
  | .model r => { t with models := t.models ++ [r] }
  | .entry r => { t with entries := t.entries ++ [r] }
  | .modification r => { t with modifications := t.modifications ++ [r] }
  | .relationship r => { t with relationships := t.relationships ++ [r] }
  | .request r => { t with requests := t.requests ++ [r] }
  | .unspecified r => { t with unspecified := t.unspecified ++ [r] }

end Row

namespace Tables

/-! ## Writing rows -/

/-- Writes rows until one is refused. -/
def write : List Row → Tables → Except StoreError Unit × Tables
  | [], t => (.ok (), t)
  | row :: rows, t => if row.refused t then (.error .database, t) else write rows (row.put t)

/-- The rows that are written before one is refused. -/
def taken : List Row → Tables → List Row
  | [], _ => []
  | row :: rows, t => if row.refused t then [] else row :: taken rows (row.put t)

theorem taken_isPrefix (rows : List Row) (t : Tables) : taken rows t <+: rows := by
  induction rows generalizing t with
  | nil => exact List.prefix_rfl
  | cons row rows ih =>
    rw [taken]
    split
    · exact List.nil_prefix
    · exact List.cons_prefix_cons.mpr ⟨rfl, ih (row.put t)⟩

/-- What is left are the tables with the rows that were taken. -/
theorem write_snd (rows : List Row) (t : Tables) :
    (write rows t).2 = (taken rows t).foldl Row.put t := by
  induction rows generalizing t with
  | nil => rfl
  | cons row rows ih =>
    rw [write, taken]
    split
    · rfl
    · exact ih (row.put t)

/-- Nothing was refused if all rows were taken. -/
theorem taken_of_ok {rows : List Row} {t : Tables} (h : (write rows t).1 = .ok ()) :
    taken rows t = rows := by
  induction rows generalizing t with
  | nil => rfl
  | cons row rows ih =>
    rw [write] at h
    rw [taken]
    split at h
    · cases h
    · rename_i hrow
      rw [if_neg hrow, ih h]

theorem write_append (rows rows' : List Row) (t : Tables) :
    write (rows ++ rows') t = match write rows t with
      | (.ok (), t') => write rows' t'
      | (.error e, t') => (.error e, t') := by
  induction rows generalizing t with
  | nil => rfl
  | cons row rows ih =>
    rw [List.cons_append, write, write]
    split
    · rfl
    · exact ih (row.put t)

/-! ## Statements write rows -/

/-- Statements write some rows, until one is refused. -/
def Performs (x : Statements Unit) (rows : List Row) : Prop := ∀ t, perform x t = write rows t

theorem perform_bind_error {α β : Type} {x : Statements α} {f : α → Statements β} {t t' : Tables}
    {e : StoreError} (h : perform x t = (.error e, t')) :
    perform (x >>= f) t = (.error e, t') := by
  have hx : (ExceptT.run x).run t = (.error e, t') := h
  simp only [perform, ExceptT.run_bind, StateT.run_bind]
  rw [hx]
  rfl

theorem Performs.bind {x : Statements Unit} {f : Unit → Statements Unit} {rows rows' : List Row}
    (hx : Performs x rows) (hf : Performs (f ()) rows') : Performs (x >>= f) (rows ++ rows') := by
  intro t
  rw [write_append]
  cases hwrite : write rows t with | mk result t' =>
  have hperform := (hx t).trans hwrite
  cases result with
  | ok _ => exact (perform_bind hperform).trans (hf t')
  | error e => exact perform_bind_error hperform

theorem performs_addEntity (m : EntityMirror) : Performs (modify (addEntity m)) (Row.ofEntity m) :=
  fun _ => rfl

theorem performs_addField (f : FieldMirror) : Performs (modify (addField f)) (Row.ofField f) :=
  fun _ => rfl

theorem insertEntry_performs (event : Uuid) (e : EntityEntry) (isSubject : Bool) :
    Performs (insertEntry event e isSubject) (Row.ofEntry event e isSubject) := by
  refine (performs_addEntity e.mirror).bind fun t => ?_
  obtain ⟨row, hrow⟩ : ∃ row : EntryRow,
    row = ⟨e.id, event, e.mirror.id, e.primaryKey, e.value, isSubject⟩ := ⟨_, rfl⟩
  show perform (do
    let entries ← (addUnique EntryRow.id _ t.entries : Except StoreError (List EntryRow))
    set { t with entries := entries }) t = _
  rw [← hrow, write, Row.refused, addUnique]
  split
  · rfl
  · rfl

theorem write_modifications (event : Uuid) (position : Nat) (ms : List ValueModification)
    (t : Tables) : write (Row.ofModifications event position ms) t =
      (.ok (), insertModifications event position ms t) := by
  induction ms generalizing position t with
  | nil => rfl
  | cons m ms ih => exact ih (position + 1) _

theorem insertRelationships_performs (event : Uuid) (position : Nat)
    (rs : List RelationshipModification) :
    Performs (insertRelationships event position rs) (Row.ofRelationships event position rs) := by
  induction rs generalizing position with
  | nil => exact fun _ => rfl
  | cons r rs ih =>
    have hrow : Performs
        (modify fun t => { t with relationships := t.relationships ++
          [⟨event, position, r.operation, r.field.id, r.entry.id⟩] })
        [.relationship ⟨event, position, r.operation, r.field.id, r.entry.id⟩] := fun _ => rfl
    exact (performs_addField r.field).bind
      ((insertEntry_performs event r.entry false).bind (hrow.bind (ih (position + 1))))

theorem insertMutation_performs (e : MutationEvent) :
    Performs (insertMutation e) (Row.of (.model e)) := by
  have hmodifications : Performs (modify (insertModifications e.id 0 e.modifications))
      (Row.ofModifications e.id 0 e.modifications) :=
    fun t => (write_modifications e.id 0 e.modifications t).symm
  have hrest := (insertEntry_performs e.id e.entry true).bind
    (f := fun _ => do
      modify (insertModifications e.id 0 e.modifications)
      insertRelationships e.id 0 e.relationships)
    (hmodifications.bind (insertRelationships_performs e.id 0 e.relationships))
  intro t
  show perform (do
    let models ← (addUnique ModelRow.id (modelRow e) t.models : Except StoreError (List ModelRow))
    set { t with models := models }
    insertEntry e.id e.entry true
    modify (insertModifications e.id 0 e.modifications)
    insertRelationships e.id 0 e.relationships) t = _
  rw [Row.of, write, Row.refused, addUnique]
  split
  · rfl
  · exact hrest _

theorem insertRequest_performs (e : RequestEvent) :
    Performs (insertRequest e) (Row.of (.request e)) := by
  have happlication : Performs (modify (addApplication e.application))
    [.application e.application] := fun _ => rfl
  refine happlication.bind fun t => ?_
  show perform (do
    let requests ← (addUnique RequestRow.id (requestRow e) t.requests :
      Except StoreError (List RequestRow))
    set { t with requests := requests }) t = _
  rw [write, Row.refused, addUnique]
  split
  · rfl
  · rfl

theorem insertUnspecified_performs (e : UnspecifiedEvent) :
    Performs (insertUnspecified e) (Row.of (.unspecified e)) := by
  have happlication : Performs (modify (addApplication e.application))
    [.application e.application] := fun _ => rfl
  refine happlication.bind fun t => ?_
  show perform (do
    let unspecified ← (addUnique UnspecifiedRow.id (unspecifiedRow e) t.unspecified :
      Except StoreError (List UnspecifiedRow))
    set { t with unspecified := unspecified }) t = _
  rw [write, Row.refused, addUnique]
  split
  · rfl
  · rfl

theorem insertEvent_performs (e : EventRecord) : Performs (insertEvent e) (Row.of e) := by
  cases e with
  | model e => exact insertMutation_performs e
  | request e => exact insertRequest_performs e
  | unspecified e => exact insertUnspecified_performs e

/-- Inserting events is writing their rows until one is refused. -/
theorem insertAll_performs (events : List EventRecord) :
    Performs (events.forM insertEvent) (events.flatMap Row.of) := by
  induction events with
  | nil => exact fun _ => rfl
  | cons e events ih =>
    rw [List.flatMap_cons]
    exact (insertEvent_performs e).bind ih

end Tables

end AuditTrail
