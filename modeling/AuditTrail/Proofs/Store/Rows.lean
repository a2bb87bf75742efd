import AuditTrail.Store.Memory
import AuditTrail.Store.Tables

/-
  What the archive in memory and the tables hold in common: reference data (`Reference`), the
  identifiers and times of the events of each category (`stamp`), and the identifiers of entries.
  Every operation of either store changes these by the same rule, and there is one equation or one
  spec for each: `Archive.reference_insert` and `Tables.insertAll_spec` for events that are added,
  `Archive.eventsOf_deleteBefore` and `Tables.deleteBefore_spec` for a deletion, which the tables
  carry out in batches (`Tables.deleteOld_spec`).
-/
namespace AuditTrail

/-! ## Reference data -/

/-- The row of a type of entities. -/
def EntityRow.of (m : EntityMirror) : EntityRow := ⟨m.id, m.name, m.application.id⟩

/-- The row of a field. -/
def FieldRow.of (f : FieldMirror) : FieldRow := ⟨f.id, f.name, f.mirror.id, f.typeLabel⟩

/-- Reference data as rows, which name their owners by identifiers. -/
structure Reference where
  applications : List Application := []
  entities : List EntityRow := []
  fields : List FieldRow := []
  deriving DecidableEq

namespace Reference

def addApplication (x : Application) (r : Reference) : Reference :=
  { r with applications := addRow Application.id x r.applications }

def addEntity (m : EntityMirror) (r : Reference) : Reference :=
  let r := r.addApplication m.application
  { r with entities := addRow EntityRow.id (.of m) r.entities }

def addField (f : FieldMirror) (r : Reference) : Reference :=
  let r := r.addEntity f.mirror
  { r with fields := Tables.putField (.of f) r.fields }

/-- Adds the fields of some modifications. -/
def addModifications (ms : List ValueModification) (r : Reference) : Reference :=
  ms.foldl (fun r m => r.addField m.field) r

/-- Adds the fields of some relationships and the types of the related entities. -/
def addRelationships (ms : List RelationshipModification) (r : Reference) : Reference :=
  ms.foldl (fun r m => (r.addField m.field).addEntity m.entry.mirror) r

/-- Adds what an event refers to. -/
def observe (r : Reference) : EventRecord → Reference
  | .model e =>
    ((r.addEntity e.entry.mirror).addModifications e.modifications).addRelationships e.relationships
  | .request e => r.addApplication e.application
  | .unspecified e => r.addApplication e.application

end Reference

theorem map_addRow {α β : Type} {id : α → Uuid} {id' : β → Uuid} {f : α → β}
    (hid : ∀ a, id' (f a) = id a) (a : α) (rows : List α) :
    (addRow id a rows).map f = addRow id' (f a) (rows.map f) := by
  have hany : (rows.map f).any (id' · == id' (f a)) = rows.any (id · == id a) := by
    rw [List.any_map]
    simp only [Function.comp_def, hid]
  unfold addRow
  rw [hany]
  split
  · rfl
  · rw [List.map_append, List.map_singleton]

theorem map_putField (f : FieldMirror) (fields : List FieldMirror) :
    (Archive.putField f fields).map FieldRow.of =
      Tables.putField (.of f) (fields.map FieldRow.of) := by
  induction fields with
  | nil => rfl
  | cons g fields ih =>
    unfold Archive.putField
    rw [List.map_cons, Tables.putField]
    by_cases hid : g.id = f.id
    · rw [if_pos hid, if_pos (show (FieldRow.of g).id = (FieldRow.of f).id from hid)]
      rfl
    · rw [if_neg hid, if_neg (show ¬ (FieldRow.of g).id = (FieldRow.of f).id from hid),
        List.map_cons, ih]

/-! ## Identifiers and times of events -/

namespace EventRecord

/-- The identifier of an event and its time in microseconds. -/
def stamp (e : EventRecord) : Uuid × Int := (e.id, e.createdAt.toMicros)

/-- The identifiers of the entries that belong to an event. -/
def entryIds : EventRecord → List Uuid
  | .model e => e.entry.id :: e.relationships.map (·.entry.id)
  | _ => []

end EventRecord

/-- A time in whole microseconds that is no leap second. -/
def Timestamp.IsWholeMicros (t : Timestamp) : Prop := t.nanos < 1000000000 ∧ t.nanos % 1000 = 0

instance (t : Timestamp) : Decidable t.IsWholeMicros :=
  inferInstanceAs (Decidable (_ ∧ _))

/-- For whole microseconds nothing is lost by counting these only. -/
theorem Timestamp.before_iff_toMicros {a b : Timestamp} (ha : a.IsWholeMicros)
    (hb : b.IsWholeMicros) : a.before b = decide (a.toMicros < b.toMicros) := by
  obtain ⟨ha, ha'⟩ := ha
  obtain ⟨hb, hb'⟩ := hb
  rw [Bool.eq_iff_iff, decide_eq_true_iff]
  simp only [before, toMicros, Bool.or_eq_true, Bool.and_eq_true, decide_eq_true_eq, beq_iff_eq]
  omega

/-- Whether a stamp is from before a time in microseconds. -/
def isBeforeMicros (cutoff : Int) (stamp : Uuid × Int) : Bool := decide (stamp.2 < cutoff)

/-- Among the events of a category the expired ones are told by their stamps. -/
theorem EventRecord.isBefore_eq {c : Category} {cutoff : Timestamp} {e : EventRecord}
    (hcategory : e.category = c) (he : e.createdAt.IsWholeMicros) (hc : cutoff.IsWholeMicros) :
    e.isBefore c cutoff = isBeforeMicros cutoff.toMicros e.stamp := by
  rw [isBefore, hcategory, beq_self_eq_true, Bool.true_and, Timestamp.before_iff_toMicros he hc]
  rfl

/-! ## The archive -/

namespace Archive

def reference (a : Archive) : Reference where
  applications := a.applications
  entities := a.entities.map EntityRow.of
  fields := a.fields.map FieldRow.of

theorem reference_addEntity (m : EntityMirror) (a : Archive) :
    (a.addEntity m).reference = a.reference.addEntity m := by
  simp only [reference, addEntity, addApplication, Reference.addEntity, Reference.addApplication]
  rw [map_addRow fun m : EntityMirror => show (EntityRow.of m).id = m.id from rfl]

theorem reference_addField (f : FieldMirror) (a : Archive) :
    (a.addField f).reference = a.reference.addField f := by
  rw [Reference.addField, ← reference_addEntity]
  simp only [reference, addField]
  rw [map_putField]

theorem reference_addModifications (ms : List ValueModification) (a : Archive) :
    (ms.foldl (fun a m => a.addField m.field) a).reference = a.reference.addModifications ms := by
  induction ms generalizing a with
  | nil => rfl
  | cons m ms ih =>
    rw [List.foldl_cons, ih, reference_addField]
    rfl

theorem reference_addRelationships (ms : List RelationshipModification) (a : Archive) :
    (ms.foldl (fun a m => (a.addField m.field).addEntity m.entry.mirror) a).reference =
      a.reference.addRelationships ms := by
  induction ms generalizing a with
  | nil => rfl
  | cons m ms ih =>
    rw [List.foldl_cons, ih, reference_addEntity, reference_addField]
    rfl

theorem reference_addMirrors (e : EventRecord) (a : Archive) :
    (a.addMirrors e).reference = a.reference.observe e := by
  cases e with
  | model e =>
    simp only [addMirrors, Reference.observe]
    rw [reference_addRelationships, reference_addModifications, reference_addEntity]
  | request e => rfl
  | unspecified e => rfl

/-- Reference data grows by what each of the events refers to, in their order. -/
theorem reference_insert (events : List EventRecord) (a : Archive) :
    (a.insert events).reference = events.foldl Reference.observe a.reference := by
  show (events.foldl addMirrors a).reference = _
  induction events generalizing a with
  | nil => rfl
  | cons e events ih => rw [List.foldl_cons, ih, reference_addMirrors, List.foldl_cons]

theorem events_foldl {α : Type} (f : Archive → α → Archive) (hf : ∀ a x, (f a x).events = a.events)
    (xs : List α) (a : Archive) : (xs.foldl f a).events = a.events := by
  induction xs generalizing a with
  | nil => rfl
  | cons x xs ih => rw [List.foldl_cons, ih, hf]

theorem events_addMirrors (a : Archive) (e : EventRecord) : (a.addMirrors e).events = a.events := by
  cases e with
  | model e =>
    have hmodifications := events_foldl (fun a (m : ValueModification) => a.addField m.field)
      (fun _ _ => rfl) e.modifications (a.addEntity e.entry.mirror)
    have hrelationships := events_foldl (fun a (m : RelationshipModification) =>
      (a.addField m.field).addEntity m.entry.mirror) (fun _ _ => rfl) e.relationships
    exact (hrelationships _).trans hmodifications
  | request e => rfl
  | unspecified e => rfl

theorem events_insert (events : List EventRecord) (a : Archive) :
    (a.insert events).events = a.events ++ events := by
  show (events.foldl addMirrors a).events ++ events = _
  rw [events_foldl _ events_addMirrors]

theorem eventsOf_insert (c : Category) (events : List EventRecord) (a : Archive) :
    (a.insert events).eventsOf c = a.eventsOf c ++ events.filter (·.category == c) := by
  rw [eventsOf, events_insert, List.filter_append]
  rfl

/-- A deletion takes expired events from its own category. -/
theorem eventsOf_deleteBefore (c d : Category) (cutoff : Timestamp) (a : Archive) :
    (a.deleteBefore c cutoff).eventsOf d =
      if d = c then (a.eventsOf c).filter fun e => !e.isBefore c cutoff else a.eventsOf d := by
  unfold eventsOf deleteBefore
  rw [List.filter_filter]
  split
  next h =>
    rw [h, List.filter_filter]
    exact List.filter_congr fun e _ => Bool.and_comm _ _
  next h =>
    refine List.filter_congr fun e _ => ?_
    by_cases he : e.category = d
    · have hother : (e.category == c) = false := beq_eq_false_iff_ne.mpr (he ▸ h)
      rw [EventRecord.isBefore, hother]
      simp
    · rw [beq_eq_false_iff_ne.mpr he, Bool.false_and]

end Archive

/-! ## The tables -/

namespace Tables

def reference (t : Tables) : Reference where
  applications := t.applications
  entities := t.entities
  fields := t.fields

/-- The identifiers and times of the events of a category. -/
def stamps (t : Tables) : Category → List (Uuid × Int)
  | .model => t.models.map fun r => (r.id, r.createdAt)
  | .request => t.requests.map fun r => (r.id, r.createdAt)
  | .unspecified => t.unspecified.map fun r => (r.id, r.createdAt)

/-- The identifiers of all entries. -/
def entryIds (t : Tables) : List Uuid := t.entries.map (·.id)

/-- Runs statements. -/
def perform {α : Type} (x : Statements α) (t : Tables) : Except StoreError α × Tables :=
  (ExceptT.run x).run t

theorem perform_bind {α β : Type} {x : Statements α} {f : α → Statements β} {t t' : Tables} {a : α}
    (h : perform x t = (.ok a, t')) : perform (x >>= f) t = perform (f a) t' := by
  have hx : (ExceptT.run x).run t = (.ok a, t') := h
  simp only [perform, ExceptT.run_bind, StateT.run_bind]
  rw [hx]
  rfl

theorem perform_modify {α : Type} (f : Tables → Tables) (x : Unit → Statements α) (t : Tables) :
    perform (modify f >>= x) t = perform (x ()) (f t) := rfl

/-- More reference data and more entries, but no more events. -/
structure Grows (f : Reference → Reference) (ids : List Uuid) (t t' : Tables) : Prop where
  reference : t'.reference = f t.reference
  stamps : t'.stamps = t.stamps
  entries : t'.entryIds = t.entryIds ++ ids

theorem Grows.trans {f g : Reference → Reference} {ids ids' : List Uuid} {t t' t'' : Tables}
    (first : Grows f ids t t') (second : Grows g ids' t' t'') :
    Grows (fun r => g (f r)) (ids ++ ids') t t'' := by
  refine ⟨?_, second.stamps.trans first.stamps, ?_⟩
  · rw [second.reference, first.reference]
  · rw [second.entries, first.entries, List.append_assoc]

theorem grows_addField (f : FieldMirror) (t : Tables) :
    Grows (·.addField f) [] t (t.addField f) :=
  ⟨rfl, rfl, (List.append_nil _).symm⟩

/-- A row under a new identifier is not refused. -/
theorem addUnique_of_not_mem {α : Type} (id : α → Uuid) (row : α) {rows : List α}
    (h : id row ∉ rows.map id) : addUnique id row rows = .ok (rows ++ [row]) := by
  have hnone : rows.any (id · == id row) = false := by
    refine List.any_eq_false.mpr fun r hr heq => h ?_
    rw [← beq_iff_eq.mp heq]
    exact List.mem_map_of_mem hr
  rw [addUnique, hnone]
  rfl

theorem insertEntry_spec {e : EntityEntry} {t : Tables} (h : e.id ∉ t.entryIds) (event : Uuid)
    (isSubject : Bool) :
    ∃ t', perform (insertEntry event e isSubject) t = (.ok (), t') ∧
      Grows (·.addEntity e.mirror) [e.id] t t' := by
  have hrow := addUnique_of_not_mem EntryRow.id
    ⟨e.id, event, e.mirror.id, e.primaryKey, e.value, isSubject⟩ h
  refine ⟨{ t.addEntity e.mirror with entries := t.entries ++
    [⟨e.id, event, e.mirror.id, e.primaryKey, e.value, isSubject⟩] }, ?_, rfl, rfl, ?_⟩
  · show perform (do
      let entries ← (addUnique EntryRow.id _ t.entries : Except StoreError (List EntryRow))
      set { t.addEntity e.mirror with entries := entries }) _ = _
    rw [hrow]
    rfl
  · simp only [entryIds, List.map_append, List.map_singleton]

theorem insertModifications_spec (event : Uuid) (position : Nat) (ms : List ValueModification)
    (t : Tables) :
    Grows (·.addModifications ms) [] t (insertModifications event position ms t) := by
  induction ms generalizing position t with
  | nil => exact ⟨rfl, rfl, (List.append_nil _).symm⟩
  | cons m ms ih =>
    have hfirst : Grows (·.addField m.field) [] t { t.addField m.field with
        modifications := (t.addField m.field).modifications ++
          [⟨event, position, m.operation, m.field.id, m.previous, m.current⟩] } :=
      ⟨rfl, rfl, (List.append_nil _).symm⟩
    exact hfirst.trans (ih (position + 1) _)

theorem insertRelationships_spec (event : Uuid) (position : Nat)
    (ms : List RelationshipModification) {t : Tables}
    (hnew : (t.entryIds ++ ms.map (·.entry.id)).Nodup) :
    ∃ t', perform (insertRelationships event position ms) t = (.ok (), t') ∧
      Grows (·.addRelationships ms) (ms.map (·.entry.id)) t t' := by
  induction ms generalizing position t with
  | nil => exact ⟨t, rfl, rfl, rfl, (List.append_nil _).symm⟩
  | cons m ms ih =>
    have hentry : m.entry.id ∉ (t.addField m.field).entryIds := by
      intro hmem
      have hdisjoint := (List.nodup_append.mp hnew).2.2
      exact hdisjoint m.entry.id hmem m.entry.id List.mem_cons_self rfl
    obtain ⟨t₁, hperform, hgrows⟩ := insertEntry_spec hentry event false
    have hfirst := (grows_addField m.field t).trans hgrows
    obtain ⟨t₂, ht₂⟩ : ∃ t₂ : Tables, t₂ = { t₁ with relationships := t₁.relationships ++
        [⟨event, position, m.operation, m.field.id, m.entry.id⟩] } := ⟨_, rfl⟩
    have hlinked :
        Grows (fun r => (r.addField m.field).addEntity m.entry.mirror) [m.entry.id] t t₂ := by
      rw [ht₂]
      exact ⟨hfirst.reference, hfirst.stamps, hfirst.entries⟩
    have hrest : (t₂.entryIds ++ ms.map (·.entry.id)).Nodup := by
      rw [hlinked.entries, List.append_assoc]
      exact hnew
    obtain ⟨t', hperform', hgrows'⟩ := ih (position + 1) hrest
    refine ⟨t', ?_, hlinked.trans hgrows'⟩
    rw [insertRelationships, perform_modify, perform_bind hperform, ← hperform', ht₂]
    rfl

/-! ### Events -/

/-- The row of a change of an entity. -/
def modelRow (e : MutationEvent) : ModelRow where
  id := e.id
  createdAt := e.createdAt.toMicros
  operation := e.operation
  actor := e.actor
  snapshot := e.snapshot.map Json.render
  duration := e.duration.map fun d => min (d.toNanos / 1000) maxMicros

/-- The row of a request. -/
def requestRow (e : RequestEvent) : RequestRow where
  id := e.id
  createdAt := e.createdAt.toMicros
  actor := e.actor
  uri := e.uri
  status := e.status
  method := e.method
  application := e.application.id
  clientIp := e.clientIp
  request := e.request
  response := e.response

/-- The row of a log record. -/
def unspecifiedRow (e : UnspecifiedEvent) : UnspecifiedRow :=
  ⟨e.id, e.createdAt.toMicros, e.message, e.level, e.line, e.file, e.application.id⟩

/-- The tables `t'` hold some events more than `t`. -/
structure Gains (events : List EventRecord) (t t' : Tables) : Prop where
  reference : t'.reference = events.foldl Reference.observe t.reference
  stamps (c : Category) :
    t'.stamps c = t.stamps c ++ (events.filter (·.category == c)).map EventRecord.stamp
  entries : t'.entryIds = t.entryIds ++ events.flatMap EventRecord.entryIds

theorem Gains.refl (t : Tables) : Gains [] t t :=
  ⟨rfl, fun _ => (List.append_nil _).symm, (List.append_nil _).symm⟩

theorem Gains.trans {events events' : List EventRecord} {t t' t'' : Tables}
    (first : Gains events t t') (second : Gains events' t' t'') :
    Gains (events ++ events') t t'' := by
  refine ⟨?_, fun c => ?_, ?_⟩
  · rw [second.reference, first.reference, List.foldl_append]
  · rw [second.stamps, first.stamps, List.filter_append, List.map_append, List.append_assoc]
  · rw [second.entries, first.entries, List.flatMap_append, List.append_assoc]

theorem insertMutation_spec {e : MutationEvent} {t : Tables}
    (hid : e.id ∉ (t.stamps .model).map Prod.fst)
    (hentries : (t.entryIds ++ (EventRecord.model e).entryIds).Nodup) :
    ∃ t', perform (insertMutation e) t = (.ok (), t') ∧ Gains [.model e] t t' := by
  rw [stamps, List.map_map] at hid
  have hrow := addUnique_of_not_mem ModelRow.id (modelRow e) hid
  obtain ⟨t₁, ht₁⟩ : ∃ t₁ : Tables, t₁ = { t with models := t.models ++ [modelRow e] } := ⟨_, rfl⟩
  have hsubject : e.entry.id ∉ t₁.entryIds := by
    intro hmem
    rw [ht₁] at hmem
    exact (List.nodup_append.mp hentries).2.2 e.entry.id hmem e.entry.id List.mem_cons_self rfl
  obtain ⟨t₂, hperform₂, hgrows₂⟩ := insertEntry_spec hsubject e.id true
  have hgrows₃ := hgrows₂.trans (insertModifications_spec e.id 0 e.modifications t₂)
  have hrelated : ((insertModifications e.id 0 e.modifications t₂).entryIds ++
      e.relationships.map (·.entry.id)).Nodup := by
    rw [hgrows₃.entries, ht₁, List.append_assoc]
    exact hentries
  obtain ⟨t', hperform₄, hgrows₄⟩ := insertRelationships_spec e.id 0 e.relationships hrelated
  have hgrows := hgrows₃.trans hgrows₄
  have hrest : perform (do
      insertEntry e.id e.entry true
      modify (insertModifications e.id 0 e.modifications)
      insertRelationships e.id 0 e.relationships) t₁ = (.ok (), t') := by
    rw [perform_bind hperform₂, perform_modify, hperform₄]
  refine ⟨t', ?_, ?_, ?_, ?_⟩
  · rw [← hrest, ht₁]
    show perform (do
      let models ← (addUnique ModelRow.id (modelRow e) t.models : Except StoreError (List ModelRow))
      set { t with models := models }
      insertEntry e.id e.entry true
      modify (insertModifications e.id 0 e.modifications)
      insertRelationships e.id 0 e.relationships) t = _
    rw [hrow]
    rfl
  · rw [hgrows.reference, ht₁]
    rfl
  · intro c
    rw [hgrows.stamps, ht₁]
    cases c with
    | model => simp [stamps, modelRow, EventRecord.category, EventRecord.stamp, EventRecord.id,
        EventRecord.createdAt]
    | request => exact (List.append_nil _).symm
    | unspecified => exact (List.append_nil _).symm
  · rw [hgrows.entries, ht₁, List.flatMap_singleton]
    rfl

theorem insertRequest_spec {e : RequestEvent} {t : Tables}
    (hid : e.id ∉ (t.stamps .request).map Prod.fst) :
    ∃ t', perform (insertRequest e) t = (.ok (), t') ∧ Gains [.request e] t t' := by
  rw [stamps, List.map_map] at hid
  have hrow := addUnique_of_not_mem RequestRow.id (requestRow e) hid
  refine ⟨{ t.addApplication e.application with requests := t.requests ++ [requestRow e] }, ?_, rfl,
    ?_, (List.append_nil _).symm⟩
  · show perform (do
      let requests ← (addUnique RequestRow.id (requestRow e) t.requests :
        Except StoreError (List RequestRow))
      set { t.addApplication e.application with requests := requests }) _ = _
    rw [hrow]
    rfl
  · intro c
    cases c with
    | model => exact (List.append_nil _).symm
    | request => simp [stamps, requestRow, EventRecord.category, EventRecord.stamp, EventRecord.id,
        EventRecord.createdAt]
    | unspecified => exact (List.append_nil _).symm

theorem insertUnspecified_spec {e : UnspecifiedEvent} {t : Tables}
    (hid : e.id ∉ (t.stamps .unspecified).map Prod.fst) :
    ∃ t', perform (insertUnspecified e) t = (.ok (), t') ∧ Gains [.unspecified e] t t' := by
  rw [stamps, List.map_map] at hid
  have hrow := addUnique_of_not_mem UnspecifiedRow.id (unspecifiedRow e) hid
  refine ⟨{ t.addApplication e.application with
    unspecified := t.unspecified ++ [unspecifiedRow e] }, ?_, rfl, ?_, (List.append_nil _).symm⟩
  · show perform (do
      let unspecified ← (addUnique UnspecifiedRow.id (unspecifiedRow e) t.unspecified :
        Except StoreError (List UnspecifiedRow))
      set { t.addApplication e.application with unspecified := unspecified }) _ = _
    rw [hrow]
    rfl
  · intro c
    cases c with
    | model => exact (List.append_nil _).symm
    | request => exact (List.append_nil _).symm
    | unspecified => simp [stamps, unspecifiedRow, EventRecord.category, EventRecord.stamp,
        EventRecord.id, EventRecord.createdAt]

/-- An event under new identifiers is written. -/
theorem insertEvent_spec {e : EventRecord} {t : Tables}
    (hid : e.id ∉ (t.stamps e.category).map Prod.fst)
    (hentries : (t.entryIds ++ e.entryIds).Nodup) :
    ∃ t', perform (insertEvent e) t = (.ok (), t') ∧ Gains [e] t t' := by
  cases e with
  | model e => exact insertMutation_spec hid hentries
  | request e => exact insertRequest_spec hid
  | unspecified e => exact insertUnspecified_spec hid

/-- Events under new identifiers are all written, in their order. -/
theorem insertAll_spec {events : List EventRecord} {t : Tables}
    (hids : ∀ c, ((t.stamps c).map Prod.fst ++
      (events.filter (·.category == c)).map EventRecord.id).Nodup)
    (hentries : (t.entryIds ++ events.flatMap EventRecord.entryIds).Nodup) :
    ∃ t', perform (events.forM insertEvent) t = (.ok (), t') ∧ Gains events t t' := by
  induction events generalizing t with
  | nil => exact ⟨t, rfl, .refl t⟩
  | cons e events ih =>
    have hfirst : e ∈ (e :: events).filter (·.category == e.category) :=
      List.mem_filter.mpr ⟨List.mem_cons_self, beq_self_eq_true _⟩
    have hid : e.id ∉ (t.stamps e.category).map Prod.fst := fun hmem =>
      (List.nodup_append.mp (hids e.category)).2.2 e.id hmem e.id (List.mem_map_of_mem hfirst) rfl
    rw [List.flatMap_cons, ← List.append_assoc] at hentries
    obtain ⟨t₁, hfirst, hgains⟩ := insertEvent_spec hid (List.nodup_append.mp hentries).1
    have hids' : ∀ c, ((t₁.stamps c).map Prod.fst ++
        (events.filter (·.category == c)).map EventRecord.id).Nodup := by
      intro c
      have hsplit : (e :: events).filter (·.category == c) =
          [e].filter (·.category == c) ++ events.filter (·.category == c) :=
        List.filter_append [e] events
      have hboth := hids c
      rw [hsplit, List.map_append, ← List.append_assoc] at hboth
      rw [hgains.stamps, List.map_append, List.map_map]
      exact hboth
    have hentries' : (t₁.entryIds ++ events.flatMap EventRecord.entryIds).Nodup := by
      rw [hgains.entries, List.flatMap_singleton]
      exact hentries
    obtain ⟨t', hrest, hgains'⟩ := ih hids' hentries'
    refine ⟨t', ?_, hgains.trans hgains'⟩
    rw [← hrest, ← perform_bind (f := fun _ => events.forM insertEvent) hfirst]
    rfl

/-! ### Deletions -/

theorem takeOld_fst {α : Type} (old : α → Bool) (limit : Nat) (rows : List α) :
    (takeOld old limit rows).1 = (rows.filter old).take limit := by
  induction rows generalizing limit with
  | nil => cases limit <;> rfl
  | cons row rows ih =>
    cases limit with
    | zero => rfl
    | succ limit =>
      unfold takeOld
      by_cases hold : old row = true
      · rw [if_pos hold, List.filter_cons_of_pos hold, List.take_succ_cons, ← ih]
      · rw [if_neg hold, List.filter_cons_of_neg hold, ← ih]

/-- What one statement leaves: the old rows behind those it took, and every other row. -/
theorem takeOld_snd {α : Type} (old : α → Bool) (limit : Nat) (rows : List α) :
    (takeOld old limit rows).2.filter old = (rows.filter old).drop limit ∧
      (takeOld old limit rows).2.filter (!old ·) = rows.filter (!old ·) := by
  induction rows generalizing limit with
  | nil => cases limit <;> exact ⟨rfl, rfl⟩
  | cons row rows ih =>
    cases limit with
    | zero => exact ⟨rfl, rfl⟩
    | succ limit =>
      unfold takeOld
      by_cases hold : old row = true
      · have hkept : ¬ (!old row) = true := by rw [hold]; decide
        obtain ⟨hrest, hothers⟩ := ih limit
        rw [if_pos hold, List.filter_cons_of_pos hold, List.drop_succ_cons,
          List.filter_cons_of_neg (p := (!old ·)) hkept]
        exact ⟨hrest, hothers⟩
      · have hkept : (!old row) = true := by simpa using hold
        obtain ⟨hrest, hothers⟩ := ih (limit + 1)
        rw [if_neg hold]
        dsimp only
        rw [List.filter_cons_of_neg hold, List.filter_cons_of_neg hold,
          List.filter_cons_of_pos (p := (!old ·)) hkept,
          List.filter_cons_of_pos (p := (!old ·)) hkept, hothers]
        exact ⟨hrest, rfl⟩

/-- Together the statements delete every old row, and no other. -/
theorem deleteOld_spec {α : Type} (old : α → Bool) (rows : List α) :
    (deleteOld old rows).1.flatten = rows.filter old ∧
      (deleteOld old rows).2 = rows.filter (!old ·) := by
  have htaken := takeOld_fst old batchSize rows
  obtain ⟨hrest, hothers⟩ := takeOld_snd old batchSize rows
  rw [deleteOld]
  dsimp only
  split
  next hlast =>
    -- fewer rows than a full batch were taken, so no old one is left
    have hfew : (rows.filter old).length ≤ batchSize := by
      rw [htaken, List.length_take] at hlast
      omega
    rw [List.drop_eq_nil_of_le hfew, List.filter_eq_nil_iff] at hrest
    rw [List.flatten_singleton, htaken, List.take_of_length_le hfew, ← hothers]
    refine ⟨rfl, (List.filter_eq_self.mpr fun row hrow => ?_).symm⟩
    simpa using hrest row hrow
  next hfull =>
    obtain ⟨hbatches, hkept⟩ := deleteOld_spec old (takeOld old batchSize rows).2
    rw [List.flatten_cons, hbatches, hkept, hrest, hothers, htaken]
    exact ⟨List.take_append_drop _ _, rfl⟩
termination_by rows.length
decreasing_by
  have total := length_takeOld old batchSize rows
  have : 0 < batchSize := by decide
  omega

/-- The same by the stamps of the rows. -/
theorem deleteOld_stamps {α : Type} (stamp : α → Uuid × Int) (cutoff : Int) (rows : List α) :
    (deleteOld (fun r => decide ((stamp r).2 < cutoff)) rows).1.flatten.length =
        (rows.map stamp).countP (isBeforeMicros cutoff) ∧
      (deleteOld (fun r => decide ((stamp r).2 < cutoff)) rows).2.map stamp =
        (rows.map stamp).filter (!isBeforeMicros cutoff ·) := by
  obtain ⟨hgone, hkept⟩ := deleteOld_spec (fun r => decide ((stamp r).2 < cutoff)) rows
  refine ⟨?_, ?_⟩
  · rw [hgone, List.countP_map, ← List.countP_eq_length_filter]
    rfl
  · rw [hkept, List.filter_map]
    rfl

/-- A deletion takes the stamps from before a time from its own category and counts them, and leaves
reference data alone. -/
theorem deleteBefore_spec (c : Category) (cutoff : Int) (t : Tables) :
    (t.deleteBefore c cutoff).1 = (t.stamps c).countP (isBeforeMicros cutoff) ∧
      (t.deleteBefore c cutoff).2.reference = t.reference ∧
      (∀ d, (t.deleteBefore c cutoff).2.stamps d =
        if d = c then (t.stamps c).filter (!isBeforeMicros cutoff ·) else t.stamps d) ∧
      (t.deleteBefore c cutoff).2.entryIds.Sublist t.entryIds := by
  cases c with
  | model =>
    obtain ⟨hcount, hkept⟩ :=
      deleteOld_stamps (fun r : ModelRow => (r.id, r.createdAt)) cutoff t.models
    refine ⟨hcount, rfl, fun d => ?_, List.filter_sublist.map _⟩
    cases d with
    | model => exact hkept
    | request => rfl
    | unspecified => rfl
  | request =>
    obtain ⟨hcount, hkept⟩ :=
      deleteOld_stamps (fun r : RequestRow => (r.id, r.createdAt)) cutoff t.requests
    refine ⟨hcount, rfl, fun d => ?_, List.Sublist.refl _⟩
    cases d with
    | model => rfl
    | request => exact hkept
    | unspecified => rfl
  | unspecified =>
    obtain ⟨hcount, hkept⟩ :=
      deleteOld_stamps (fun r : UnspecifiedRow => (r.id, r.createdAt)) cutoff t.unspecified
    refine ⟨hcount, rfl, fun d => ?_, List.Sublist.refl _⟩
    cases d with
    | model => rfl
    | request => rfl
    | unspecified => exact hkept

end Tables

end AuditTrail
