import AuditTrail.Proofs.Store.Lookup
import AuditTrail.Proofs.Store.Ownership

/-
  Events read back from the tables. The reader joins the row of an event with its entries, its
  modifications and relationships in the order of their positions, and the reference data they name
  (`Tables.read`). It gives the event back as the tables keep it (`EventRecord.kept`): times in
  microseconds, the snapshot as its text, and fields with the labels that were written last.
  An event that is held is read so from tables whose links hold and whose reference data is found
  (`Sourced.read_eq`); that it is held since it was written, and whatever came later, is known from
  its rows.
-/
namespace AuditTrail

/-! ## What the tables keep -/

/-- The point in time of a number of microseconds. -/
def Timestamp.ofMicros (n : Int) : Timestamp :=
  ⟨n / 1000000, (n % 1000000).toNat * 1000⟩

/-- A point in time in whole microseconds; a leap second counts on into the next one. -/
def Timestamp.truncated (t : Timestamp) : Timestamp :=
  ⟨t.secs + (t.nanos / 1000000000 : Nat), t.nanos % 1000000000 / 1000 * 1000⟩

theorem Timestamp.ofMicros_toMicros (t : Timestamp) : ofMicros t.toMicros = t.truncated := by
  rw [ofMicros, toMicros, truncated, Timestamp.mk.injEq]
  omega

/-- Outside of leap seconds nothing but fractions of microseconds is lost. -/
theorem Timestamp.truncated_of_lt {t : Timestamp} (h : t.nanos < 1000000000) :
    t.truncated = ⟨t.secs, t.nanos / 1000 * 1000⟩ := by
  rw [truncated, Timestamp.mk.injEq]
  omega

namespace Duration

/-- The span of a number of microseconds. -/
def ofMicros (n : Nat) : Duration :=
  ⟨(n / 1000000).toUInt64, ⟨n % 1000000 * 1000, by omega⟩⟩

/-- The longest span that is kept. -/
def longest : Duration := ofMicros Tables.maxMicros

/-- A span in whole microseconds, as long as it can be kept. -/
def truncated (d : Duration) : Duration :=
  if d.toNanos / 1000 ≤ Tables.maxMicros then
    ⟨d.secs, ⟨d.nanos.val / 1000 * 1000, Nat.lt_of_le_of_lt (Nat.div_mul_le_self _ _) d.nanos.isLt⟩⟩
  else longest

theorem ofMicros_toMicros (d : Duration) :
    ofMicros (min (d.toNanos / 1000) Tables.maxMicros) = d.truncated := by
  rw [truncated]
  split
  next h =>
    have hsecs : d.toNanos / 1000 / 1000000 = d.secs.toNat := by
      rw [toNanos]
      omega
    have hnanos : d.toNanos / 1000 % 1000000 * 1000 = d.nanos.val / 1000 * 1000 := by
      rw [toNanos]
      omega
    rw [Nat.min_eq_left h, ofMicros, Duration.mk.injEq]
    refine ⟨?_, Fin.ext hnanos⟩
    rw [hsecs]
    exact UInt64.ofNat_toNat
  next h => rw [Nat.min_eq_right (Nat.le_of_not_le h), longest]

end Duration

namespace EventRecord

/-- An event as the tables keep it, with the labels that the types of fields have there. -/
def kept (label : Uuid → String) : EventRecord → EventRecord
  | .model e => .model { e with
      createdAt := e.createdAt.truncated
      snapshot := e.snapshot.map fun value => .string value.render
      duration := e.duration.map Duration.truncated
      modifications := e.modifications.map fun m =>
        { m with field := m.field.labelled (label m.field.id) }
      relationships := e.relationships.map fun r =>
        { r with field := r.field.labelled (label r.field.id) } }
  | .request e => .request { e with createdAt := e.createdAt.truncated }
  | .unspecified e => .unspecified { e with createdAt := e.createdAt.truncated }

end EventRecord

/-! ## The reader -/

namespace Tables

/-- Rows in the order of their positions. -/
def inOrder {α : Type} (position : α → Nat) (rows : List α) : List α :=
  rows.mergeSort fun a b => decide (position a ≤ position b)

def readEntry (t : Tables) (row : EntryRow) : Option EntityEntry := do
  let mirror ← t.entity? row.entity
  some ⟨row.id, mirror, row.primaryKey, row.value⟩

def readModification (t : Tables) (row : ModificationRow) : Option ValueModification := do
  let field ← t.field? row.field
  some ⟨row.operation, field, row.previous, row.current⟩

def readRelationship (t : Tables) (row : RelationshipRow) : Option RelationshipModification := do
  let field ← t.field? row.field
  let entryRow ← t.entries.find? (·.id == row.entry)
  let entry ← t.readEntry entryRow
  some ⟨row.operation, field, entry⟩

/-- The entry that an event is about. -/
def readSubject (t : Tables) (event : Uuid) : Option EntityEntry :=
  (t.entries.find? fun row => row.isSubject && row.event == event).bind t.readEntry

def readModifications (t : Tables) (event : Uuid) : Option (List ValueModification) :=
  (inOrder ModificationRow.position (t.modifications.filter (·.event == event))).mapM
    t.readModification

def readRelationships (t : Tables) (event : Uuid) : Option (List RelationshipModification) :=
  (inOrder RelationshipRow.position (t.relationships.filter (·.event == event))).mapM
    t.readRelationship

def readModel (t : Tables) (row : ModelRow) : Option MutationEvent := do
  let entry ← t.readSubject row.id
  let modifications ← t.readModifications row.id
  let relationships ← t.readRelationships row.id
  some {
    id := row.id
    createdAt := .ofMicros row.createdAt
    operation := row.operation
    actor := row.actor
    entry := entry
    snapshot := row.snapshot.map .string
    duration := row.duration.map .ofMicros
    modifications := modifications
    relationships := relationships }

def readRequest (t : Tables) (row : RequestRow) : Option RequestEvent := do
  let application ← t.application? row.application
  some {
    id := row.id
    createdAt := .ofMicros row.createdAt
    actor := row.actor
    uri := row.uri
    status := row.status
    method := row.method
    application := application
    clientIp := row.clientIp
    request := row.request
    response := row.response }

def readUnspecified (t : Tables) (row : UnspecifiedRow) : Option UnspecifiedEvent := do
  let application ← t.application? row.application
  some {
    id := row.id
    createdAt := .ofMicros row.createdAt
    message := row.message
    level := row.level
    line := row.line
    file := row.file
    application := application }

/-- The event of a category with an identifier, read back from the tables. -/
def read (t : Tables) (c : Category) (id : Uuid) : Option EventRecord :=
  match c with
  | .model => ((t.models.find? (·.id == id)).bind t.readModel).map .model
  | .request => ((t.requests.find? (·.id == id)).bind t.readRequest).map .request
  | .unspecified => ((t.unspecified.find? (·.id == id)).bind t.readUnspecified).map .unspecified

/-! ## Reading what is held -/

theorem find?_of_filter {α : Type} {p : α → Bool} {rows : List α} {r : α}
    (h : rows.filter p = [r]) : rows.find? p = some r := by
  rw [← List.head?_filter, h]
  rfl

/-- Rows that were numbered in their order are read in their order. -/
theorem inOrder_zipIdx {α β : Type} {position : β → Nat} (row : α × Nat → β)
    (hposition : ∀ x, position (row x) = x.2) (xs : List α) :
    inOrder position (xs.zipIdx.map row) = xs.zipIdx.map row := by
  refine List.mergeSort_of_pairwise ?_
  have hpositions : (xs.zipIdx.map Prod.snd).Pairwise (· ≤ ·) := by
    rw [List.zipIdx_map_snd]
    exact (List.pairwise_lt_range' 1).imp Nat.le_of_lt
  rw [List.pairwise_map] at hpositions ⊢
  exact hpositions.imp fun h => by simpa only [hposition, decide_eq_true_eq] using h

/-- Each of some numbered rows is read. -/
theorem mapM_zipIdx {α β γ : Type} (row : α × Nat → β) {read : β → Option γ} {kept : α → γ}
    {xs : List α} (h : ∀ x ∈ xs.zipIdx, read (row x) = some (kept x.1)) :
    (xs.zipIdx.map row).mapM read = some (xs.map kept) := by
  suffices hall : ∀ position, (∀ x ∈ xs.zipIdx position, read (row x) = some (kept x.1)) →
      ((xs.zipIdx position).map row).mapM read = some (xs.map kept) from hall 0 h
  clear h
  induction xs with
  | nil => exact fun _ _ => rfl
  | cons x xs ih =>
    intro position hrows
    rw [List.zipIdx_cons] at hrows ⊢
    obtain ⟨hx, hxs⟩ := List.forall_mem_cons.mp hrows
    rw [List.map_cons, List.mapM_cons, hx, ih (position + 1) hxs]
    rfl

theorem fst_mem_of_mem_zipIdx {α : Type} {xs : List α} {x : α × Nat} (h : x ∈ xs.zipIdx) :
    x.1 ∈ xs := by
  have hmem : x.1 ∈ xs.zipIdx.map Prod.fst := List.mem_map_of_mem h
  rwa [List.zipIdx_map_fst] at hmem

namespace Sourced

variable {t : Tables} {rows : List Row} {events : List EventRecord}

theorem readEntry_eq (h : t.Sourced rows events) {e : MutationEvent} (he : .model e ∈ events)
    {entry : EntityEntry} (hmirror : entry.mirror ∈ (EventRecord.model e).entities) {event : Uuid}
    {isSubject : Bool} (hrow : entryRow event entry isSubject ∈ t.entries) :
    t.readEntry (entryRow event entry isSubject) = some entry := by
  have hentity := h.entity_found (List.mem_flatMap.mpr ⟨_, he, hmirror⟩)
    (h.linked.joins.entries _ hrow).2
  show (t.entity? entry.mirror.id).bind _ = _
  rw [hentity]
  rfl

theorem readModification_eq (h : t.Sourced rows events) {e : MutationEvent}
    (he : .model e ∈ events) {m : ValueModification} (hm : m ∈ e.modifications) {position : Nat}
    (hrow : modificationRow e.id m position ∈ t.modifications) :
    t.readModification (modificationRow e.id m position) = some { m with
      field := m.field.labelled (lastLabel (rows.filterMap Row.field?) m.field.id) } := by
  have hmem : m.field ∈ (EventRecord.model e).fields :=
    List.mem_append_left _ (List.mem_map.mpr ⟨m, hm, rfl⟩)
  have hfield := h.field_found (List.mem_flatMap.mpr ⟨_, he, hmem⟩)
    (h.linked.joins.modifications _ hrow).2
  show (t.field? m.field.id).bind _ = _
  rw [hfield]
  rfl

theorem readRelationship_eq (h : t.Sourced rows events) (hdistinct : t.Distinct)
    {e : MutationEvent} (he : .model e ∈ events) {r : RelationshipModification}
    (hr : r ∈ e.relationships) {position : Nat}
    (hrow : relationshipRow e.id r position ∈ t.relationships)
    (hentry : entryRow e.id r.entry false ∈ t.entries) :
    t.readRelationship (relationshipRow e.id r position) = some { r with
      field := r.field.labelled (lastLabel (rows.filterMap Row.field?) r.field.id) } := by
  have hmem : r.field ∈ (EventRecord.model e).fields :=
    List.mem_append_right _ (List.mem_map.mpr ⟨r, hr, rfl⟩)
  have hmirror : r.entry.mirror ∈ (EventRecord.model e).entities :=
    List.mem_cons_of_mem _ (List.mem_append_right _ (List.mem_flatMap.mpr
      ⟨r, hr, List.mem_cons_of_mem _ List.mem_cons_self⟩))
  have hfield := h.field_found (List.mem_flatMap.mpr ⟨_, he, hmem⟩)
    (h.linked.joins.relationships _ hrow).2.1
  have hread := h.readEntry_eq he hmirror hentry
  -- no other entry has this identifier
  have hfind : t.entries.find? (·.id == r.entry.id) = some (entryRow e.id r.entry false) :=
    find?_of_mem hentry fun _ hy hid => List.inj_on_of_nodup_map hdistinct.entries hy hentry hid
  show (t.field? r.field.id).bind _ = _
  rw [hfield]
  show (t.entries.find? (·.id == r.entry.id)).bind _ = _
  rw [hfind]
  show (t.readEntry (entryRow e.id r.entry false)).bind _ = _
  rw [hread]
  rfl

theorem readSubject_eq (h : t.Sourced rows events) {e : MutationEvent} (he : .model e ∈ events)
    (hheld : t.HoldsMutation e) : t.readSubject e.id = some e.entry := by
  have hrow : entryRow e.id e.entry true ∈ t.entries := by
    have hmem : entryRow e.id e.entry true ∈ entryRows e := List.mem_cons_self
    rw [← hheld.entries] at hmem
    exact (List.mem_filter.mp hmem).1
  have hsubject : (entryRows e).filter (·.isSubject) = [entryRow e.id e.entry true] := by
    rw [entryRows, List.filter_cons_of_pos rfl]
    refine congrArg _ (List.filter_eq_nil_iff.mpr ?_)
    exact List.forall_mem_map.mpr fun _ _ => Bool.false_ne_true
  have hfilter : t.entries.filter (fun row => row.isSubject && row.event == e.id) =
      [entryRow e.id e.entry true] := by
    rw [← List.filter_filter, hheld.entries, hsubject]
  rw [readSubject, find?_of_filter hfilter]
  exact h.readEntry_eq he List.mem_cons_self hrow

theorem readModifications_eq (h : t.Sourced rows events) {e : MutationEvent}
    (he : .model e ∈ events) (hheld : t.HoldsMutation e) :
    t.readModifications e.id = some (e.modifications.map fun m => { m with
      field := m.field.labelled (lastLabel (rows.filterMap Row.field?) m.field.id) }) := by
  have hordered : inOrder ModificationRow.position (modificationRows e) = modificationRows e :=
    inOrder_zipIdx (fun m => modificationRow e.id m.1 m.2) (fun _ => rfl) e.modifications
  have hrows : ∀ row ∈ modificationRows e, row ∈ t.modifications := fun row hrow =>
    (List.mem_filter.mp (hheld.modifications ▸ hrow)).1
  rw [readModifications, hheld.modifications, hordered]
  refine mapM_zipIdx (fun m => modificationRow e.id m.1 m.2) fun m hm => ?_
  exact h.readModification_eq he (fst_mem_of_mem_zipIdx hm) (hrows _ (List.mem_map_of_mem hm))

theorem readRelationships_eq (h : t.Sourced rows events) (hdistinct : t.Distinct)
    {e : MutationEvent} (he : .model e ∈ events) (hheld : t.HoldsMutation e) :
    t.readRelationships e.id = some (e.relationships.map fun r => { r with
      field := r.field.labelled (lastLabel (rows.filterMap Row.field?) r.field.id) }) := by
  have hordered : inOrder RelationshipRow.position (relationshipRows e) = relationshipRows e :=
    inOrder_zipIdx (fun r => relationshipRow e.id r.1 r.2) (fun _ => rfl) e.relationships
  have hrows : ∀ row ∈ relationshipRows e, row ∈ t.relationships := fun row hrow =>
    (List.mem_filter.mp (hheld.relationships ▸ hrow)).1
  have hentries : ∀ row ∈ entryRows e, row ∈ t.entries := fun row hrow =>
    (List.mem_filter.mp (hheld.entries ▸ hrow)).1
  rw [readRelationships, hheld.relationships, hordered]
  refine mapM_zipIdx (fun r => relationshipRow e.id r.1 r.2) fun r hr => ?_
  have hmem : r.1 ∈ e.relationships := fst_mem_of_mem_zipIdx hr
  refine h.readRelationship_eq hdistinct he hmem (hrows _ (List.mem_map_of_mem hr)) (hentries _ ?_)
  exact List.mem_cons_of_mem _ (List.mem_map.mpr ⟨r.1, hmem, rfl⟩)

theorem readModel_eq (h : t.Sourced rows events) (hdistinct : t.Distinct) {e : MutationEvent}
    (he : .model e ∈ events) (hheld : t.HoldsMutation e) :
    (t.readModel (modelRow e)).map EventRecord.model =
      some ((EventRecord.model e).kept (lastLabel (rows.filterMap Row.field?))) := by
  have hsubject : t.readSubject (modelRow e).id = some e.entry := h.readSubject_eq he hheld
  have hmodifications := h.readModifications_eq he hheld
  have hrelationships := h.readRelationships_eq hdistinct he hheld
  have hsnapshot : (modelRow e).snapshot.map Json.string =
      e.snapshot.map fun value => .string value.render := Option.map_map ..
  have hduration : (modelRow e).duration.map Duration.ofMicros =
      e.duration.map Duration.truncated := by
    rw [modelRow, Option.map_map]
    exact congrArg (Option.map · e.duration) (funext Duration.ofMicros_toMicros)
  have hcreatedAt : Timestamp.ofMicros (modelRow e).createdAt = e.createdAt.truncated :=
    Timestamp.ofMicros_toMicros e.createdAt
  unfold readModel
  rw [hsubject, show (modelRow e).id = e.id from rfl, hmodifications, hrelationships, hsnapshot,
    hduration, hcreatedAt]
  rfl

theorem readRequest_eq (h : t.Sourced rows events) {e : RequestEvent} (he : .request e ∈ events)
    (hrow : requestRow e ∈ t.requests) (label : Uuid → String) :
    (t.readRequest (requestRow e)).map EventRecord.request =
      some ((EventRecord.request e).kept label) := by
  have happlication : t.application? (requestRow e).application = some e.application :=
    h.application_found (List.mem_flatMap.mpr ⟨_, he, List.mem_cons_self⟩)
      (h.linked.joins.requests _ hrow)
  have hcreatedAt : Timestamp.ofMicros (requestRow e).createdAt = e.createdAt.truncated :=
    Timestamp.ofMicros_toMicros e.createdAt
  unfold readRequest
  rw [happlication, hcreatedAt]
  rfl

theorem readUnspecified_eq (h : t.Sourced rows events) {e : UnspecifiedEvent}
    (he : .unspecified e ∈ events) (hrow : unspecifiedRow e ∈ t.unspecified)
    (label : Uuid → String) : (t.readUnspecified (unspecifiedRow e)).map EventRecord.unspecified =
      some ((EventRecord.unspecified e).kept label) := by
  have happlication : t.application? (unspecifiedRow e).application = some e.application :=
    h.application_found (List.mem_flatMap.mpr ⟨_, he, List.mem_cons_self⟩)
      (h.linked.joins.unspecified _ hrow)
  have hcreatedAt : Timestamp.ofMicros (unspecifiedRow e).createdAt = e.createdAt.truncated :=
    Timestamp.ofMicros_toMicros e.createdAt
  unfold readUnspecified
  rw [happlication, hcreatedAt]
  rfl

/-- An event that is held is read. -/
theorem read_eq (h : t.Sourced rows events) (hdistinct : t.Distinct) {e : EventRecord}
    (he : e ∈ events) (hheld : t.Holds e) :
    t.read e.category e.id = some (e.kept (lastLabel (rows.filterMap Row.field?))) := by
  cases e with
  | model e =>
    show Option.map _ ((t.models.find? (·.id == e.id)).bind _) = _
    rw [find?_of_filter (HoldsMutation.model hheld)]
    exact h.readModel_eq hdistinct he hheld
  | request e =>
    have hrow : t.requests.filter (·.id == e.id) = [requestRow e] := hheld
    show Option.map _ ((t.requests.find? (·.id == e.id)).bind _) = _
    rw [find?_of_filter hrow]
    exact h.readRequest_eq he (List.mem_filter.mp (hrow ▸ List.mem_cons_self)).1 _
  | unspecified e =>
    have hrow : t.unspecified.filter (·.id == e.id) = [unspecifiedRow e] := hheld
    show Option.map _ ((t.unspecified.find? (·.id == e.id)).bind _) = _
    rw [find?_of_filter hrow]
    exact h.readUnspecified_eq he (List.mem_filter.mp (hrow ▸ List.mem_cons_self)).1 _

end Sourced

/-! ## Reading what was inserted -/

/-- Identifiers of events, and those of their entries, that nothing has. -/
structure Unused (t : Tables) (events : List EventRecord) : Prop where
  ids : ∀ e ∈ events, e.id ∉ (t.stamps e.category).map Prod.fst
  entries : ∀ u ∈ events.flatMap EventRecord.entryIds, u ∉ t.entryIds
  distinct (c : Category) : ((events.filter (·.category == c)).map EventRecord.id).Nodup
  distinctEntries : (events.flatMap EventRecord.entryIds).Nodup

/-- Events under unused identifiers are all inserted. -/
theorem insert_granted {t : Tables} (ht : t.Distinct) {events : List EventRecord}
    (h : t.Unused events) : (perform (events.forM insertEvent) t).1 = .ok () := by
  have hids : ∀ c, ((t.stamps c).map Prod.fst ++
      (events.filter (·.category == c)).map EventRecord.id).Nodup := by
    refine fun c => List.nodup_append.mpr ⟨ht.stamps c, h.distinct c, fun u hu v hv heq => ?_⟩
    obtain ⟨e, he, rfl⟩ := List.mem_map.mp hv
    obtain ⟨he, hc⟩ := List.mem_filter.mp he
    rw [heq, ← beq_iff_eq.mp hc] at hu
    exact h.ids e he hu
  have hentries : (t.entryIds ++ events.flatMap EventRecord.entryIds).Nodup :=
    List.nodup_append.mpr ⟨ht.entries, h.distinctEntries, fun u hu v hv heq =>
      h.entries v hv (heq ▸ hu)⟩
  obtain ⟨t', hperform, -⟩ := insertAll_spec hids hentries
  rw [hperform]

/-- The rows that calls write are rows of the events that are inserted. -/
theorem written_subset (ops : List StagedOp) (t : Tables) :
    written ops t ⊆ (ops.flatMap (·.inserted)).flatMap Row.of := by
  induction ops generalizing t with
  | nil => exact List.nil_subset _
  | cons op ops ih =>
    rw [written, List.flatMap_cons, List.flatMap_append]
    exact List.append_subset.mpr
      ⟨List.subset_append_of_subset_left _ (taken_isPrefix _ t).subset,
        List.subset_append_of_subset_right _ (ih (t.apply op))⟩

/-- What calls leave has its reference data from the events that are inserted. -/
theorem sourced_of_calls {ops : List StagedOp}
    (hnamed : ∀ e ∈ ops.flatMap (·.inserted), e.Named)
    (hapart : KeysApart ((ops.flatMap (·.inserted)).flatMap EventRecord.keys)) :
    (ops.foldl apply {}).Sourced (written ops {}) (ops.flatMap (·.inserted)) where
  linked := linked_of_calls ops
  reference := reference_of_calls ops
  rows := written_subset ops {}
  named := hnamed
  apart := hapart

/-- **The tables keep whole events.** After any history of transactions, some committed and others
not, let events have been inserted in a committed one, under identifiers that nothing had. Of all
events that were inserted, before or later, the reference data was made from names, and no two of
the texts that its identifiers are made from give the same identifier. Then the insertion was
granted, and each of the events that no later deletion has taken is read back from the tables: as
it was, but for times in whole microseconds (where a leap second counts on into the next one), a
duration no longer than the longest that is kept, the snapshot as its text, and fields with the
labels that were written last for them. -/
theorem inserted_events_read (history : List Deed) {earlier later : List StagedOp}
    {events : List EventRecord}
    (hdone : (after history).done = earlier ++ .insert events :: later)
    (hunused : (earlier.foldl apply {}).Unused events)
    (hnamed : ∀ e ∈ (after history).done.flatMap (·.inserted), e.Named)
    (hapart : KeysApart (((after history).done.flatMap (·.inserted)).flatMap EventRecord.keys)) :
    (∀ t, (store.insert events (earlier.foldl apply {}) t).1 = .ok events.length) ∧
      ∀ e ∈ events, (∀ op ∈ later, ¬ op.Sweeps e) →
        (after history).store.inner.read e.category e.id = some (e.kept
          (lastLabel ((written (after history).done {}).filterMap Row.field?))) := by
  have hgranted := insert_granted (distinct_of_calls earlier) hunused
  refine ⟨fun t => ?_, fun e he hlater => ?_⟩
  · show ((perform (events.forM insertEvent) _).1.map fun _ => events.length) = _
    rw [hgranted]
    rfl
  · have hcontents : (after history).store.inner = (after history).done.foldl apply {} :=
      after_follows history
    have hwhole : e ∈ (after history).done.flatMap (·.inserted) := by
      rw [hdone, List.flatMap_append, List.flatMap_cons]
      exact List.mem_append_right _ (List.mem_append_left _ he)
    -- held once it is inserted, and along what comes later
    have hheld : ((after history).done.foldl apply {}).Holds e := by
      rw [hdone, List.foldl_append, List.foldl_cons, apply_insert]
      rw [insertAll_performs] at hgranted
      exact (holds_of_writeAll (linked_of_calls earlier) hgranted e he).calls hlater
    rw [hcontents]
    exact (sourced_of_calls hnamed hapart).read_eq (distinct_of_calls _) hwhole hheld

/-- An application, two types in it and two fields of the first of them. -/
def shop : Application := .named (some "shop")

def orderType : EntityMirror := .named "Order" shop

def lineType : EntityMirror := .named "Line" shop

def total (label : String) : FieldMirror := .named "total" orderType label

def lines : FieldMirror := .named "lines" orderType "ManyToManyField"

/-- A modification of an order at a second, which gets a line, with two identifiers for the entries
after its own. -/
def orderChanged (n : Nat) (second : Int) (label : String) : EventRecord := .model {
  id := .ofNat n
  createdAt := ⟨second, 500⟩
  operation := .modify
  actor := some "ada"
  entry := ⟨.ofNat (n + 1), orderType, "7", "Order 7"⟩
  snapshot := some (.bool true)
  modifications := [⟨.modify, total label, some "1", some "2"⟩]
  relationships := [⟨.create, lines, ⟨.ofNat (n + 2), lineType, "3", "Line 3"⟩⟩] }

/-- A log record. -/
def diskFull (n : Nat) : EventRecord := .unspecified {
  id := .ofNat n
  createdAt := ⟨4, 0⟩
  message := "disk almost full"
  level := .warning
  line := some 12
  file := none
  application := shop }

/-- An order is modified and a record logged; a field is given another label by an order that was
modified earlier; a third transaction is not committed; and a deletion takes the second order. -/
def relabelling : List Deed := [
  .transaction { calls := [.insert [orderChanged 10 9 "IntegerField", diskFull 20]] },
  .transaction { calls := [.insert [orderChanged 30 3 "DecimalField"]] },
  .demand .commit 1,
  .transaction { calls := [.insert [orderChanged 40 9 "TextField"]] },
  .transaction { calls := [.delete .model ⟨5, 0⟩] }]

/-- The texts in use. -/
def textsInUse : List String := [
  Application.key (some "shop"), EntityMirror.key "Order" shop, EntityMirror.key "Line" shop,
  FieldMirror.key "total" orderType, FieldMirror.key "lines" orderType]

theorem named_orderChanged (n : Nat) (second : Int) (label : String) :
    (orderChanged n second label).Named where
  applications := by
    show ∀ x ∈ [shop, shop, shop, shop], x = .named x.name
    simp only [List.forall_mem_cons, List.not_mem_nil, false_implies, implies_true, and_true]
    exact ⟨rfl, rfl, rfl, rfl⟩
  entities := by
    show ∀ m ∈ [orderType, orderType, orderType, lineType], m = .named m.name m.application
    simp only [List.forall_mem_cons, List.not_mem_nil, false_implies, implies_true, and_true]
    exact ⟨rfl, rfl, rfl, rfl⟩
  fields := by
    show ∀ f ∈ [total label, lines], f = .named f.name f.mirror f.typeLabel
    simp only [List.forall_mem_cons, List.not_mem_nil, false_implies, implies_true, and_true]
    exact ⟨rfl, rfl⟩

theorem named_diskFull (n : Nat) : (diskFull n).Named where
  applications := List.forall_mem_singleton.mpr rfl
  entities := List.forall_mem_nil _
  fields := List.forall_mem_nil _

theorem keys_orderChanged (n : Nat) (second : Int) (label : String) :
    (orderChanged n second label).keys ⊆ textsInUse := by
  show [Application.key (some "shop"), Application.key (some "shop"), Application.key (some "shop"),
    Application.key (some "shop"), EntityMirror.key "Order" shop, EntityMirror.key "Order" shop,
    EntityMirror.key "Order" shop, EntityMirror.key "Line" shop, FieldMirror.key "total" orderType,
    FieldMirror.key "lines" orderType] ⊆ textsInUse
  simp [textsInUse]

theorem inserted_events_read_relabelling :
    let events := [orderChanged 10 9 "IntegerField", diskFull 20]
    let later := [.insert [orderChanged 30 3 "DecimalField"], .delete .model ⟨5, 0⟩]
    let u := after relabelling
    let label := lastLabel ((written u.done {}).filterMap Row.field?)
    u.done = [] ++ .insert events :: later ∧ ({} : Tables).Unused events ∧
      (∀ e ∈ u.done.flatMap (·.inserted), e.Named) ∧
      KeysApart ((u.done.flatMap (·.inserted)).flatMap EventRecord.keys) ∧
      (∀ e ∈ events, ∀ op ∈ later, ¬ StagedOp.Sweeps e op) ∧
      label (total "").id = "DecimalField" ∧
      (∀ t, (store.insert events {} t).1 = .ok 2) ∧
      ∀ e ∈ events, u.store.inner.read e.category e.id = some (e.kept label) := by
  intro events later u label
  have hdone : u.done = [] ++ .insert events :: later := rfl
  have hinserted : u.done.flatMap (·.inserted) =
      [orderChanged 10 9 "IntegerField", diskFull 20, orderChanged 30 3 "DecimalField"] := rfl
  have hunused : ({} : Tables).Unused events :=
    ⟨by decide, by decide, fun c => by cases c <;> decide, by decide⟩
  have hnamed : ∀ e ∈ u.done.flatMap (·.inserted), e.Named := by
    rw [hinserted]
    exact List.forall_mem_cons.mpr ⟨named_orderChanged _ _ _, List.forall_mem_cons.mpr
      ⟨named_diskFull _, List.forall_mem_singleton.mpr (named_orderChanged _ _ _)⟩⟩
  have hkeys : (u.done.flatMap (·.inserted)).flatMap EventRecord.keys ⊆ textsInUse := by
    rw [hinserted]
    refine List.append_subset.mpr ⟨keys_orderChanged _ _ _, List.append_subset.mpr ⟨?_,
      List.append_subset.mpr ⟨keys_orderChanged _ _ _, List.nil_subset _⟩⟩⟩
    exact List.cons_subset.mpr ⟨List.mem_cons_self, List.nil_subset _⟩
  have hapart := keysApart_of_nodup (by decide +kernel) hkeys
  have hlater : ∀ e ∈ events, ∀ op ∈ later, ¬ StagedOp.Sweeps e op := by decide
  obtain ⟨hgranted, hread⟩ := inserted_events_read relabelling hdone hunused hnamed hapart
  exact ⟨hdone, hunused, hnamed, hapart, hlater, by decide +kernel, hgranted,
    fun e he => hread e he (hlater e he)⟩

end Tables

end AuditTrail
