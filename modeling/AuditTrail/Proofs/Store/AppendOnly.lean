import AuditTrail.Proofs.Store.Mirrors

/-
  Reference data is only ever added to. Both stores hold of it what the rows written to them leave
  (`MemoryStore.mirrors_after`, `Tables.reference_after`): the store in memory the rows of all
  events in committed transactions, the tables those that were written before a refusal. Rows are
  written behind those written earlier (`Tables.written_append`), what came first stays when more
  comes (`Archive.ofRows_stays`), and deletions write none.
-/
namespace AuditTrail

/-! ## Reference data of the archive -/

/-- Rows with identifiers of their own are still there among other rows, of which too each has an
identifier of its own: in the same order and, for what is `kept`, unaltered. -/
structure StayAmong {α β : Type} (id : α → Uuid) (kept : α → β) (rows rows' : List α) : Prop where
  kept : rows.map kept <+: rows'.map kept
  distinct : (rows'.map id).Nodup

theorem StayAmong.map {α α' β β' : Type} {id : α → Uuid} {kept : α → β} {id' : α' → Uuid}
    {kept' : α' → β'} {f : α → α'} {g : β → β'} {rows rows' : List α}
    (h : StayAmong id kept rows rows') (hid : ∀ x, id' (f x) = id x)
    (hkept : ∀ x, kept' (f x) = g (kept x)) : StayAmong id' kept' (rows.map f) (rows'.map f) := by
  constructor
  · have hmap : ∀ xs : List α, (xs.map f).map kept' = (xs.map kept).map g := fun xs => by
      simp only [List.map_map, Function.comp_def, hkept]
    rw [hmap, hmap]
    exact h.kept.map g
  · rw [List.map_map]
    simpa only [Function.comp_def, hid] using h.distinct

theorem stayAmong_firsts {α : Type} {id : α → Uuid} (xs ys : List α) :
    StayAmong id (fun x => x) (firsts id xs) (firsts id (xs ++ ys)) :=
  ⟨(firsts_isPrefix xs ys).map _, nodup_firsts _⟩

theorem map_latest {β : Type} {g : FieldMirror → β} (hg : ∀ f label, g (f.labelled label) = g f)
    (fs : List FieldMirror) : (latest fs).map g = (firsts FieldMirror.id fs).map g := by
  rw [latest, List.map_map]
  exact List.map_congr_left fun f _ => hg f _

theorem stayAmong_latest (fs gs : List FieldMirror) :
    StayAmong FieldMirror.id (·.labelled "") (latest fs) (latest (fs ++ gs)) := by
  constructor
  · rw [map_latest fun _ _ => rfl, map_latest fun _ _ => rfl]
    exact (firsts_isPrefix fs gs).map _
  · rw [map_latest fun _ _ => rfl]
    exact nodup_firsts _

/-- A field has the label that came last for it. -/
theorem typeLabel_of_mem_latest {fs : List FieldMirror} {f : FieldMirror} (h : f ∈ latest fs) :
    f.typeLabel = lastLabel fs f.id := by
  obtain ⟨g, -, rfl⟩ := List.mem_map.mp h
  rfl

theorem exists_mem_latest {fs : List FieldMirror} {u : Uuid} :
    (∃ f ∈ latest fs, f.id = u) ↔ ∃ f ∈ fs, f.id = u := by
  refine Iff.trans ?_ exists_mem_firsts
  simp only [latest, List.mem_map, exists_exists_and_eq_and]
  rfl

/-- Reference data of an archive that is there still among that of another one, fields unaltered
but for the labels of their types. -/
structure Archive.MirrorsStay (a a' : Archive) : Prop where
  applications : StayAmong Application.id (fun x => x) a.applications a'.applications
  entities : StayAmong EntityMirror.id (fun m => m) a.entities a'.entities
  fields : StayAmong FieldMirror.id (·.labelled "") a.fields a'.fields

/-- The row of a field without the label of its type. -/
def FieldRow.unlabelled (r : FieldRow) : FieldRow := { r with typeLabel := "" }

/-- The same for reference data as rows. -/
structure Reference.Stays (r r' : Reference) : Prop where
  applications : StayAmong Application.id (fun x => x) r.applications r'.applications
  entities : StayAmong EntityRow.id (fun m => m) r.entities r'.entities
  fields : StayAmong FieldRow.id FieldRow.unlabelled r.fields r'.fields

/-- All that an event refers to is there under its identifier. -/
structure Reference.Covers (r : Reference) (e : EventRecord) : Prop where
  applications : ∀ x ∈ e.applications, ∃ y ∈ r.applications, y.id = x.id
  entities : ∀ m ∈ e.entities, ∃ y ∈ r.entities, y.id = m.id
  fields : ∀ f ∈ e.fields, ∃ y ∈ r.fields, y.id = f.id

namespace Archive

variable {a a' : Archive}

theorem MirrorsStay.reference (h : a.MirrorsStay a') : a.reference.Stays a'.reference where
  applications := h.applications
  entities := h.entities.map (f := EntityRow.of) (g := EntityRow.of) (fun _ => rfl) fun _ => rfl
  fields := h.fields.map (f := FieldRow.of) (g := FieldRow.of) (fun _ => rfl) fun _ => rfl

/-- Writing more rows leaves what was there. -/
theorem ofRows_stays (rows more : List Row) :
    (ofRows rows).MirrorsStay (ofRows (rows ++ more)) := by
  constructor <;> simp only [ofRows, List.filterMap_append]
  · exact stayAmong_firsts _ _
  · exact stayAmong_firsts _ _
  · exact stayAmong_latest _ _

/-- What an event refers to is there once its rows were written. -/
theorem ofRows_covers {rows : List Row} {e : EventRecord} (h : Row.of e ⊆ rows) :
    (ofRows rows).reference.Covers e := by
  have hwritten : ∀ {β : Type} (g : Row → Option β), ∀ x ∈ (Row.of e).filterMap g,
      x ∈ rows.filterMap g := fun g x hx => by
    obtain ⟨row, hrow, hg⟩ := List.mem_filterMap.mp hx
    exact List.mem_filterMap.mpr ⟨row, h hrow, hg⟩
  constructor
  · intro x hx
    rw [← Row.applications_of] at hx
    exact exists_mem_firsts.mpr ⟨x, hwritten _ x hx, rfl⟩
  · intro m hm
    rw [← Row.entities_of] at hm
    obtain ⟨y, hy, hid⟩ : ∃ y ∈ (ofRows rows).entities, y.id = m.id :=
      exists_mem_firsts.mpr ⟨m, hwritten _ m hm, rfl⟩
    exact ⟨.of y, List.mem_map_of_mem hy, hid⟩
  · intro f hf
    rw [← Row.fields_of] at hf
    obtain ⟨y, hy, hid⟩ := exists_mem_latest.mpr ⟨f, hwritten _ f hf, rfl⟩
    exact ⟨.of y, List.mem_map_of_mem hy, hid⟩

theorem mirrors_gather (rows : List Row) (a : Archive) :
    (rows.foldl Row.gather a).mirrors = rows.foldl Row.gather a.mirrors := by
  induction rows generalizing a with
  | nil => rfl
  | cons row rows ih =>
    have hrow : (row.gather a).mirrors = row.gather a.mirrors := by cases row <;> rfl
    rw [List.foldl_cons, ih, hrow, List.foldl_cons]

/-- A call adds the rows of the events that are inserted; a deletion adds none. -/
theorem mirrors_apply (op : StagedOp) (a : Archive) :
    (op.apply a).mirrors = (op.inserted.flatMap Row.of).foldl Row.gather a.mirrors := by
  cases op with
  | insert events =>
    rw [StagedOp.inserted, ← mirrors_gather, Row.gather_all]
    rfl
  | delete c cutoff => rfl

/-- Calls leave the reference data of the rows of all events that were inserted. -/
theorem mirrors_of_calls (ops : List StagedOp) : (ops.foldl StagedOp.apply {}).mirrors =
    ofRows ((ops.flatMap (·.inserted)).flatMap Row.of) := by
  have hcalls : ∀ a : Archive, (ops.foldl StagedOp.apply a).mirrors =
      ((ops.flatMap (·.inserted)).flatMap Row.of).foldl Row.gather a.mirrors := by
    induction ops with
    | nil => exact fun _ => rfl
    | cons op ops ih =>
      intro a
      rw [List.foldl_cons, ih, mirrors_apply, List.flatMap_cons, List.flatMap_append,
        List.foldl_append]
  rw [hcalls, ← gather_rows]
  rfl

/-- Events that are stored were inserted. -/
theorem events_subset (ops : List StagedOp) (a : Archive) :
    (ops.foldl StagedOp.apply a).events ⊆ a.events ++ ops.flatMap (·.inserted) := by
  induction ops generalizing a with
  | nil => exact fun e he => List.mem_append_left _ he
  | cons op ops ih =>
    intro e he
    rw [List.flatMap_cons, ← List.append_assoc]
    refine List.append_subset.mpr ⟨fun e he => List.mem_append_left _ ?_,
      List.subset_append_right _ _⟩ (ih (op.apply a) he)
    cases op with
    | insert events =>
      rw [StagedOp.apply, events_insert] at he
      exact he
    | delete c cutoff => exact List.mem_append_left _ (List.mem_filter.mp he).1

end Archive

namespace MemoryStore

/-- The reference data after several things are those of the events in `done`. -/
theorem mirrors_after (history : List MemoryDeed) :
    (after history).store.inner.archive.mirrors = Archive.ofRows
      (((after history).done.flatMap (·.inserted)).flatMap Row.of) :=
  (congrArg Archive.mirrors (after_follows history)).trans (Archive.mirrors_of_calls _)

theorem done_prefix_after (history more : List MemoryDeed) :
    (after history).done <+: (after (history ++ more)).done := by
  have hgrows : ∀ u d, u.done <+: (act u d).done := fun u d => by
    cases d with
    | deed d => exact InUse.done_prefix_act stages u d
    | seed events => exact List.prefix_append _ _
  have happend : after (history ++ more) = more.foldl act (after history) := List.foldl_append
  exact happend ▸ prefix_foldl hgrows more (after history)

end MemoryStore

/-! ## Reference data of the tables -/

namespace Tables

/-- The rows that a call writes before one is refused. -/
def writtenBy (t : Tables) (op : StagedOp) : List Row := taken (op.inserted.flatMap Row.of) t

/-- The rows that calls write. -/
def written : List StagedOp → Tables → List Row
  | [], _ => []
  | op :: ops, t => t.writtenBy op ++ written ops (t.apply op)

/-- No call is refused. -/
def Granted : List StagedOp → Tables → Prop
  | [], _ => True
  | op :: ops, t => (perform (op.inserted.forM insertEvent) t).1 = .ok () ∧ Granted ops (t.apply op)

instance Granted.decidable : ∀ ops t, Decidable (Granted ops t)
  | [], _ => inferInstanceAs (Decidable True)
  | op :: ops, t =>
    have := Granted.decidable ops (t.apply op)
    inferInstanceAs (Decidable (_ ∧ _))

variable {t : Tables} {a : Archive}

theorem reference_put (h : t.reference = a.reference) (row : Row) :
    (row.put t).reference = (row.gather a).reference := by
  obtain ⟨happlications, hentities, hfields⟩ := Reference.mk.inj h
  cases row with
  | application x =>
    simp only [reference, Archive.reference, Row.put, Row.gather, addApplication,
      Archive.addApplication, happlications, hentities, hfields]
  | entity m =>
    simp only [reference, Archive.reference, Row.put, Row.gather, happlications, hentities, hfields]
    rw [map_addRow fun m : EntityMirror => show (EntityRow.of m).id = m.id from rfl]
  | field f =>
    simp only [reference, Archive.reference, Row.put, Row.gather, happlications, hentities, hfields]
    rw [map_putField]
  | _ => exact h

theorem reference_foldl (h : t.reference = a.reference) (rows : List Row) :
    (rows.foldl Row.put t).reference = (rows.foldl Row.gather a).reference := by
  induction rows generalizing t a with
  | nil => exact h
  | cons row rows ih => exact ih (reference_put h row)

/-- A call leaves the reference data of the rows it has written, refused or not. -/
theorem reference_apply (h : t.reference = a.reference) (op : StagedOp) :
    (t.apply op).reference = ((t.writtenBy op).foldl Row.gather a).reference := by
  cases op with
  | insert events =>
    have hperform : t.apply (.insert events) = (write (events.flatMap Row.of) t).2 :=
      congrArg Prod.snd (insertAll_performs events t)
    rw [hperform, write_snd]
    exact reference_foldl h _
  | delete c cutoff =>
    obtain ⟨-, hreference, -, -⟩ := deleteBefore_spec c cutoff.toMicros t
    exact hreference.trans h

/-- Calls leave the reference data of the rows they have written. -/
theorem reference_of_calls (ops : List StagedOp) :
    (ops.foldl apply {}).reference = (Archive.ofRows (written ops {})).reference := by
  have hcalls : ∀ (t : Tables) (a : Archive), t.reference = a.reference →
      (ops.foldl apply t).reference = ((written ops t).foldl Row.gather a).reference := by
    induction ops with
    | nil => exact fun _ _ h => h
    | cons op ops ih =>
      intro t a h
      rw [List.foldl_cons, written, List.foldl_append]
      exact ih _ _ (reference_apply h op)
  rw [hcalls {} {} rfl, Archive.gather_rows]

theorem written_append (ops ops' : List StagedOp) (t : Tables) :
    written (ops ++ ops') t = written ops t ++ written ops' (ops.foldl apply t) := by
  induction ops generalizing t with
  | nil => rfl
  | cons op ops ih =>
    rw [List.cons_append, written, ih, written, List.append_assoc, List.foldl_cons]

/-- Where no call is refused all rows of the inserted events are written. -/
theorem written_of_granted {ops : List StagedOp} (h : Granted ops t) :
    written ops t = (ops.flatMap (·.inserted)).flatMap Row.of := by
  induction ops generalizing t with
  | nil => rfl
  | cons op ops ih =>
    obtain ⟨hop, hops⟩ := h
    rw [insertAll_performs] at hop
    rw [written, writtenBy, taken_of_ok hop, ih hops, List.flatMap_cons, List.flatMap_append]

theorem done_prefix_after (history more : List Deed) :
    (after history).done <+: (after (history ++ more)).done := by
  have happend : after (history ++ more) = more.foldl (InUse.act store) (after history) :=
    List.foldl_append
  exact happend ▸ prefix_foldl (InUse.done_prefix_act stages) more (after history)

/-- The reference data after several things are those of the rows written by the calls in `done`. -/
theorem reference_after (history : List Deed) : (after history).store.inner.reference =
    (Archive.ofRows (written (after history).done {})).reference :=
  (congrArg reference (after_follows history)).trans (reference_of_calls _)

theorem reference_apply_of_inserted {op : StagedOp} (h : op.inserted = []) (t : Tables) :
    (t.apply op).reference = t.reference := by
  cases op with
  | insert events =>
    rw [show events = [] from h]
    rfl
  | delete c cutoff =>
    obtain ⟨-, hreference, -, -⟩ := deleteBefore_spec c cutoff.toMicros t
    exact hreference

end Tables

/-! ## Both stores -/

namespace MemoryStore

/-- Reference data of the store in memory along a history. -/
theorem mirrors_kept (history more : List MemoryDeed) :
    (after history).store.inner.archive.MirrorsStay
      (after (history ++ more)).store.inner.archive := by
  obtain ⟨rest, hrest⟩ := done_prefix_after history more
  have hstays := Archive.ofRows_stays (((after history).done.flatMap (·.inserted)).flatMap Row.of)
    ((rest.flatMap (·.inserted)).flatMap Row.of)
  rw [← List.flatMap_append, ← List.flatMap_append, hrest, ← mirrors_after, ← mirrors_after]
    at hstays
  exact ⟨hstays.applications, hstays.entities, hstays.fields⟩

theorem covers_stored (history : List MemoryDeed) :
    ∀ e ∈ (after history).store.inner.archive.events,
      (after history).store.inner.archive.reference.Covers e := by
  intro e he
  have hinserted : e ∈ (after history).done.flatMap (·.inserted) := by
    rw [after_follows history] at he
    exact Archive.events_subset _ {} he
  have hcovers : (after history).store.inner.archive.mirrors.reference.Covers e := by
    rw [mirrors_after]
    exact Archive.ofRows_covers fun row hrow => List.mem_flatMap.mpr ⟨e, hinserted, hrow⟩
  exact ⟨hcovers.applications, hcovers.entities, hcovers.fields⟩

theorem typeLabel_eq (history : List MemoryDeed) :
    ∀ f ∈ (after history).store.inner.archive.fields, f.typeLabel = lastLabel
      (((after history).done.flatMap (·.inserted)).flatMap EventRecord.fields) f.id := by
  intro f hf
  have hmirrors := mirrors_after history
  rw [Row.ofRows_all] at hmirrors
  have hmem : f ∈ (after history).store.inner.archive.mirrors.fields := hf
  rw [hmirrors] at hmem
  exact typeLabel_of_mem_latest hmem

end MemoryStore

namespace Tables

theorem reference_kept (history more : List Deed) :
    (after history).store.inner.reference.Stays
      (after (history ++ more)).store.inner.reference := by
  obtain ⟨rest, hrest⟩ := done_prefix_after history more
  rw [reference_after, reference_after, ← hrest, written_append]
  exact (Archive.ofRows_stays _ _).reference

theorem covers_written (history : List Deed) (e : EventRecord)
    (he : Row.of e ⊆ written (after history).done {}) :
    (after history).store.inner.reference.Covers e := by
  rw [reference_after]
  exact Archive.ofRows_covers he

theorem typeLabel_eq (history : List Deed) :
    ∀ f ∈ (after history).store.inner.fields, f.typeLabel = lastLabel
      ((written (after history).done {}).filterMap Row.field?) f.id := by
  intro f hf
  have hfields : (after history).store.inner.fields = _ :=
    congrArg Reference.fields (reference_after history)
  rw [hfields] at hf
  obtain ⟨g, hg, rfl⟩ := List.mem_map.mp hf
  exact typeLabel_of_mem_latest hg

theorem linked_after (history : List Deed) : (after history).store.inner.Linked := by
  rw [show (after history).store.inner = _ from after_follows history]
  exact linked_of_calls _

end Tables

/-- **Reference data is only added to.** Whatever transactions are made on a store that is empty at
first, behind failures of any stages at any time, some of them committed, others not, and with
events put into the store in memory besides:

- of the events in the store in memory all applications, types of entities and fields are there
  under their identifiers; in the tables whatever a row refers to is there, and so is all that an
  event refers to whose rows were written;
- whatever is done later, an application and a type of entities stay as they are, and so does a
  field but for the label of its type, each under an identifier of its own;
- the label of a field is the one that came last for it in the events of committed transactions. In
  the tables these are the events up to a row that was refused, if a transaction was committed in
  spite of that; of a relationship the field is written before its entry, which may be refused;
- a transaction that was not committed changes none of it, nor does one that only deletes. -/
theorem reference_data_only_added :
    (∀ history more : List MemoryDeed,
      let u := MemoryStore.after history
      let a := u.store.inner.archive
      (∀ e ∈ a.events, a.reference.Covers e) ∧
      a.MirrorsStay (MemoryStore.after (history ++ more)).store.inner.archive ∧
      (∀ f ∈ a.fields, f.typeLabel =
        lastLabel ((u.done.flatMap (·.inserted)).flatMap EventRecord.fields) f.id) ∧
      ∀ x : Session, (x.conduct MemoryStore.store u).1 = false ∨
          (∀ op ∈ x.calls, op.inserted = []) →
        (x.conduct MemoryStore.store u).2.store.inner.archive.mirrors = a.mirrors) ∧
    ∀ history more : List Deed,
      let u := Tables.after history
      let t := u.store.inner
      let written := Tables.written u.done {}
      t.Linked ∧ (∀ e, Row.of e ⊆ written → t.reference.Covers e) ∧
      t.reference.Stays (Tables.after (history ++ more)).store.inner.reference ∧
      (∀ f ∈ t.fields, f.typeLabel = lastLabel (written.filterMap Row.field?) f.id) ∧
      (Tables.Granted u.done {} → written.filterMap Row.field? =
        (u.done.flatMap (·.inserted)).flatMap EventRecord.fields) ∧
      ∀ x : Session, (x.conduct Tables.store u).1 = false ∨ (∀ op ∈ x.calls, op.inserted = []) →
        (x.conduct Tables.store u).2.store.inner.reference = t.reference := by
  refine ⟨fun history more => ⟨MemoryStore.covers_stored history,
    MemoryStore.mirrors_kept history more, MemoryStore.typeLabel_eq history, fun x hx => ?_⟩,
    fun history more => ⟨Tables.linked_after history, Tables.covers_written history,
      Tables.reference_kept history more, Tables.typeLabel_eq history, fun hgranted => ?_,
      fun x hx => ?_⟩⟩
  · refine x.conduct_keeps MemoryStore.stages (fun a op hop => ?_) _ hx
    rw [Archive.mirrors_apply, hop]
    rfl
  · rw [Tables.written_of_granted hgranted, List.filterMap_flatMap]
    exact congrArg (List.flatMap · _) (funext Row.fields_of)
  · exact x.conduct_keeps Tables.stages
      (fun t op hop => Tables.reference_apply_of_inserted hop t) _ hx

end AuditTrail
