import AuditTrail.Proofs.Store.Ownership
import Mathlib.Data.List.Nodup
import Mathlib.Data.List.Perm.Subperm

/-
  Deletions in limited statements. The tables delete old events by one statement after the other,
  each of which deletes the rows under the identifiers that a query with a limit has picked, until
  one deletes fewer rows than the limit (`Deletion.Run`). Which rows a query picks is left open. A
  row that goes takes with it what refers to it, as the foreign keys ask for
  (`Tables.deleteWhere`).

  Two statements do what one would that deletes the rows of both (`deleteWhere_deleteWhere`). So
  what is left to be deleted by one unlimited statement leaves the same after every statement as
  before it, while the rows that were deleted and the old ones that are left add up
  (`Progress.next`). A full statement leaves that many fewer of them, and one that is not full
  leaves none (`batched_deletion`).
-/
namespace AuditTrail

/-! ## Picked rows -/

/-- What a query with a limit may give: as many of the rows as the limit admits, in any order. -/
def Picks {α : Type} (limit : Nat) (rows picked : List α) : Prop :=
  picked.Subperm rows ∧ picked.length = min limit rows.length

theorem picks_take {α : Type} (limit : Nat) (rows : List α) :
    Picks limit rows (rows.take limit) :=
  ⟨(List.take_sublist limit rows).subperm, List.length_take⟩

section

variable {stamps picked : List (Uuid × Int)}

/-- Where identifiers are distinct, the rows under those of picked rows are the picked ones. -/
theorem contains_picked (hids : (stamps.map Prod.fst).Nodup) (hpicked : picked ⊆ stamps)
    {s : Uuid × Int} (hs : s ∈ stamps) :
    (picked.map Prod.fst).contains s.1 = true ↔ s ∈ picked := by
  rw [List.contains_iff_mem, List.mem_map]
  constructor
  · rintro ⟨s', hs', hid⟩
    rwa [← List.inj_on_of_nodup_map hids (hpicked hs') hs hid]
  · exact fun hs => ⟨s, hs, rfl⟩

theorem countP_picked (hids : (stamps.map Prod.fst).Nodup) (hpicked : picked.Subperm stamps) :
    stamps.countP (fun s => (picked.map Prod.fst).contains s.1) = picked.length := by
  have hstamps : stamps.Nodup := List.Nodup.of_map Prod.fst hids
  have hnodup : picked.Nodup := by
    obtain ⟨rows, hperm, hsublist⟩ := hpicked
    exact hperm.nodup_iff.mp (hstamps.sublist hsublist)
  rw [List.countP_eq_length_filter]
  refine ((List.perm_ext_iff_of_nodup (hstamps.filter _) hnodup).mpr fun s => ?_).length_eq
  rw [List.mem_filter]
  constructor
  · rintro ⟨hs, hcontains⟩
    exact (contains_picked hids hpicked.subset hs).mp hcontains
  · intro hs
    exact ⟨hpicked.subset hs, (contains_picked hids hpicked.subset (hpicked.subset hs)).mpr hs⟩

end

namespace Tables

/-! ## Deleting with what refers to it -/

/-- A row with a stamp is one of the category that satisfy the condition. -/
def hits (c : Category) (p : Uuid × Int → Bool) (d : Category) (stamp : Uuid × Int) : Bool :=
  d == c && p stamp

/-- The changes of entities that go with the events of a category that satisfy a condition. -/
def lostEvents (c : Category) (p : Uuid × Int → Bool) (t : Tables) : List Uuid :=
  (t.models.filter fun r => hits c p .model (r.id, r.createdAt)).map (·.id)

/-- The entries that go with them. -/
def lostEntries (c : Category) (p : Uuid × Int → Bool) (t : Tables) : List Uuid :=
  (t.entries.filter fun r => (t.lostEvents c p).contains r.event).map (·.id)

/-- Deletes the events of a category that satisfy a condition, with what refers to them or to one of
their entries. -/
def deleteWhere (c : Category) (p : Uuid × Int → Bool) (t : Tables) : Tables :=
  { t with
    models := t.models.filter fun r => !hits c p .model (r.id, r.createdAt)
    requests := t.requests.filter fun r => !hits c p .request (r.id, r.createdAt)
    unspecified := t.unspecified.filter fun r => !hits c p .unspecified (r.id, r.createdAt)
    entries := t.entries.filter fun r => !(t.lostEvents c p).contains r.event
    modifications := t.modifications.filter fun r => !(t.lostEvents c p).contains r.event
    relationships := t.relationships.filter fun r =>
      !((t.lostEvents c p).contains r.event || (t.lostEntries c p).contains r.entry) }

variable {c : Category} {p q : Uuid × Int → Bool} {t : Tables}

theorem stamps_deleteWhere (c : Category) (p : Uuid × Int → Bool) (t : Tables) :
    (t.deleteWhere c p).stamps c = (t.stamps c).filter (!p ·) := by
  cases c <;> simp only [stamps, List.filter_map] <;> rfl

theorem hits_congr (h : ∀ s ∈ t.stamps c, p s = q s) {d : Category} {s : Uuid × Int}
    (hs : s ∈ t.stamps d) : hits c p d s = hits c q d s := by
  unfold hits
  by_cases hd : d = c
  · rw [h s (hd ▸ hs)]
  · rw [beq_eq_false_iff_ne.mpr hd, Bool.false_and, Bool.false_and]

theorem deleteWhere_congr (h : ∀ s ∈ t.stamps c, p s = q s) :
    t.deleteWhere c p = t.deleteWhere c q := by
  have hmodels : ∀ r ∈ t.models,
      hits c p .model (r.id, r.createdAt) = hits c q .model (r.id, r.createdAt) :=
    fun r hr => hits_congr h (d := .model) (List.mem_map_of_mem hr)
  have hrequests : ∀ r ∈ t.requests,
      hits c p .request (r.id, r.createdAt) = hits c q .request (r.id, r.createdAt) :=
    fun r hr => hits_congr h (d := .request) (List.mem_map_of_mem hr)
  have hunspecified : ∀ r ∈ t.unspecified,
      hits c p .unspecified (r.id, r.createdAt) = hits c q .unspecified (r.id, r.createdAt) :=
    fun r hr => hits_congr h (d := .unspecified) (List.mem_map_of_mem hr)
  have hevents : t.lostEvents c p = t.lostEvents c q := by
    rw [lostEvents, List.filter_congr hmodels, lostEvents]
  have hentries : t.lostEntries c p = t.lostEntries c q := by
    rw [lostEntries, hevents, lostEntries]
  simp only [deleteWhere, hevents, hentries]
  rw [List.filter_congr fun r hr => congrArg (!·) (hmodels r hr),
    List.filter_congr fun r hr => congrArg (!·) (hrequests r hr),
    List.filter_congr fun r hr => congrArg (!·) (hunspecified r hr)]

/-- A deletion that no row of its category satisfies deletes nothing. -/
theorem deleteWhere_none (h : ∀ s ∈ t.stamps c, p s = false) : t.deleteWhere c p = t := by
  have hevents : t.lostEvents c (fun _ => false) = [] := by
    simp [lostEvents, hits]
  have hentries : t.lostEntries c (fun _ => false) = [] := by
    simp [lostEntries, hevents]
  rw [deleteWhere_congr (q := fun _ => false) h, deleteWhere, hevents, hentries]
  simp [hits]

theorem contains_lostEvents {u : Uuid} : (t.lostEvents c p).contains u = true ↔
    ∃ r ∈ t.models, hits c p .model (r.id, r.createdAt) = true ∧ r.id = u := by
  simp only [lostEvents, List.contains_iff_mem, List.mem_map, List.mem_filter, and_assoc]

theorem contains_lostEntries {u : Uuid} : (t.lostEntries c p).contains u = true ↔
    ∃ r ∈ t.entries, (t.lostEvents c p).contains r.event = true ∧ r.id = u := by
  simp only [lostEntries, List.contains_iff_mem, List.mem_map, List.mem_filter, and_assoc]

theorem hits_or (c : Category) (p q : Uuid × Int → Bool) (d : Category) (s : Uuid × Int) :
    hits c (fun s => p s || q s) d s = (hits c p d s || hits c q d s) :=
  Bool.and_or_distrib_left ..

/-- The events that go at the second of two deletions are those that would go at once and have not
gone at the first. -/
theorem lostEvents_or (u : Uuid) : (t.lostEvents c fun s => p s || q s).contains u =
    ((t.lostEvents c p).contains u || ((t.deleteWhere c p).lostEvents c q).contains u) := by
  rw [Bool.eq_iff_iff, Bool.or_eq_true, contains_lostEvents, contains_lostEvents,
    contains_lostEvents]
  simp only [deleteWhere, List.mem_filter, hits_or, Bool.or_eq_true, Bool.not_eq_true']
  constructor
  · rintro ⟨r, hr, hhits, hid⟩
    cases hfirst : hits c p .model (r.id, r.createdAt) with
    | true => exact .inl ⟨r, hr, hfirst, hid⟩
    | false =>
      rw [hfirst] at hhits
      exact .inr ⟨r, ⟨hr, hfirst⟩, hhits.resolve_left Bool.false_ne_true, hid⟩
  · rintro (⟨r, hr, hhits, hid⟩ | ⟨r, ⟨hr, -⟩, hhits, hid⟩)
    · exact ⟨r, hr, .inl hhits, hid⟩
    · exact ⟨r, hr, .inr hhits, hid⟩

theorem lostEntries_or (u : Uuid) : (t.lostEntries c fun s => p s || q s).contains u =
    ((t.lostEntries c p).contains u || ((t.deleteWhere c p).lostEntries c q).contains u) := by
  rw [Bool.eq_iff_iff, Bool.or_eq_true, contains_lostEntries, contains_lostEntries,
    contains_lostEntries]
  simp only [lostEvents_or, Bool.or_eq_true]
  constructor
  · rintro ⟨r, hr, hlost, hid⟩
    cases hfirst : (t.lostEvents c p).contains r.event with
    | true => exact .inl ⟨r, hr, hfirst, hid⟩
    | false =>
      rw [hfirst] at hlost
      refine .inr ⟨r, List.mem_filter.mpr ⟨hr, ?_⟩, hlost.resolve_left Bool.false_ne_true, hid⟩
      rw [hfirst]
      rfl
  · rintro (⟨r, hr, hlost, hid⟩ | ⟨r, hr, hlost, hid⟩)
    · exact ⟨r, hr, .inl hlost, hid⟩
    · exact ⟨r, (List.mem_filter.mp hr).1, .inr hlost, hid⟩

/-- Two deletions do what one does that deletes the rows of both. -/
theorem deleteWhere_deleteWhere (c : Category) (p q : Uuid × Int → Bool) (t : Tables) :
    (t.deleteWhere c p).deleteWhere c q = t.deleteWhere c fun s => p s || q s := by
  have hboth : ∀ {β : Type} (rows : List β) (first second both : β → Bool),
      (∀ r, both r = (first r || second r)) →
        (rows.filter (!first ·)).filter (!second ·) = rows.filter (!both ·) := by
    intro β rows first second both hor
    rw [List.filter_filter]
    refine List.filter_congr fun r _ => ?_
    rw [hor, Bool.not_or, Bool.and_comm]
  have hrelationships : ∀ r : RelationshipRow,
      ((t.lostEvents c fun s => p s || q s).contains r.event ||
          (t.lostEntries c fun s => p s || q s).contains r.entry) =
        ((t.lostEvents c p).contains r.event || (t.lostEntries c p).contains r.entry ||
          (((t.deleteWhere c p).lostEvents c q).contains r.event ||
            ((t.deleteWhere c p).lostEntries c q).contains r.entry)) := by
    intro r
    rw [lostEvents_or, lostEntries_or]
    ac_rfl
  refine (Tables.mk.injEq ..).mpr ⟨rfl, rfl, rfl, ?_, ?_, ?_, ?_, ?_, ?_⟩
  · exact hboth t.models _ _ _ fun r => hits_or c p q .model _
  · exact hboth t.entries _ _ _ fun r => lostEvents_or r.event
  · exact hboth t.modifications _ _ _ fun r => lostEvents_or r.event
  · exact hboth t.relationships _ _ _ hrelationships
  · exact hboth t.requests _ _ _ fun r => hits_or c p q .request _
  · exact hboth t.unspecified _ _ _ fun r => hits_or c p q .unspecified _

/-- How many events of a category are from before a time. -/
def countBefore (c : Category) (cutoff : Int) (t : Tables) : Nat :=
  (t.stamps c).countP (isBeforeMicros cutoff)

end Tables

/-! ## Statements and runs -/

/-- A deletion on its way: the tables by now, how many rows its statements have deleted, and whether
the last statement has been executed. Rows that go with others are not counted. -/
structure Deletion where
  tables : Tables
  total : Nat := 0
  ended : Bool := false

namespace Deletion

open Tables (batchSize)

/-- Deletes the rows under some identifiers. It is the last statement if these are fewer than a full
batch. -/
def statement (c : Category) (ids : List Uuid) (d : Deletion) : Deletion :=
  let rows := (d.tables.stamps c).countP fun s => ids.contains s.1
  { tables := d.tables.deleteWhere c fun s => ids.contains s.1
    total := d.total + rows
    ended := rows < batchSize }

/-- The next statement deletes what its query has picked of the old rows, whichever these are. -/
inductive Next (c : Category) (cutoff : Int) (d : Deletion) : Deletion → Prop where
  | statement {picked : List (Uuid × Int)} (going : d.ended = false)
      (hpicked : Picks batchSize ((d.tables.stamps c).filter (isBeforeMicros cutoff)) picked) :
      Next c cutoff d (d.statement c (picked.map Prod.fst))

/-- A number of statements, one after the other. -/
inductive Run (c : Category) (cutoff : Int) (d : Deletion) : Nat → Deletion → Prop where
  | start : Run c cutoff d 0 d
  | next {k : Nat} {d' d'' : Deletion} (before : Run c cutoff d k d') (last : Next c cutoff d' d'') :
      Run c cutoff d (k + 1) d''

variable {c : Category} {cutoff : Int} {t : Tables} {k : Nat} {d d' : Deletion}

theorem exists_next (c : Category) (cutoff : Int) (going : d.ended = false) :
    ∃ d', Next c cutoff d d' :=
  ⟨_, .statement going (picks_take batchSize _)⟩

/-- What is known of a deletion after a number of statements: what one unlimited statement would
leave and how many rows there were to be deleted is as it was at the start, all statements but the
last one were full, and the last one has left no old rows. -/
structure Progress (c : Category) (cutoff : Int) (t : Tables) (k : Nat) (d : Deletion) : Prop where
  ids : ((d.tables.stamps c).map Prod.fst).Nodup
  leaves : d.tables.deleteWhere c (isBeforeMicros cutoff) = t.deleteWhere c (isBeforeMicros cutoff)
  counts : d.total + d.tables.countBefore c cutoff = t.countBefore c cutoff
  full : d.ended = false → d.total = k * batchSize
  last : d.ended = true → d.tables.countBefore c cutoff = 0 ∧ d.total < k * batchSize ∧
    k * batchSize ≤ d.total + batchSize

theorem progress_start (hids : ((t.stamps c).map Prod.fst).Nodup) (cutoff : Int) :
    Progress c cutoff t 0 { tables := t } where
  ids := hids
  leaves := rfl
  counts := Nat.zero_add _
  full _ := (Nat.zero_mul _).symm
  last := nofun

section Statement

variable {picked : List (Uuid × Int)}

/-- A statement deletes as many rows as there are old ones, but no more than the limit. -/
theorem countP_statement (hids : ((t.stamps c).map Prod.fst).Nodup)
    (hpicked : Picks batchSize ((t.stamps c).filter (isBeforeMicros cutoff)) picked) :
    (t.stamps c).countP (fun s => (picked.map Prod.fst).contains s.1) =
      min batchSize (t.countBefore c cutoff) := by
  rw [countP_picked hids (hpicked.1.trans List.filter_sublist.subperm), hpicked.2,
    Tables.countBefore, List.countP_eq_length_filter]

/-- The rows that a statement deletes are old ones. -/
theorem old_of_contains (hids : ((t.stamps c).map Prod.fst).Nodup)
    (hpicked : Picks batchSize ((t.stamps c).filter (isBeforeMicros cutoff)) picked)
    {s : Uuid × Int} (hs : s ∈ t.stamps c) (hcontains : (picked.map Prod.fst).contains s.1 = true) :
    isBeforeMicros cutoff s = true := by
  have hsubset : picked ⊆ (t.stamps c).filter (isBeforeMicros cutoff) := hpicked.1.subset
  have hthere : picked ⊆ t.stamps c := List.Subset.trans hsubset (List.filter_subset_self _)
  have hmem : s ∈ picked := (contains_picked hids hthere hs).mp hcontains
  exact (List.mem_filter.mp (hsubset hmem)).2

/-- The old rows are those that a statement deletes and those that it leaves. -/
theorem countBefore_statement (hids : ((t.stamps c).map Prod.fst).Nodup)
    (hpicked : Picks batchSize ((t.stamps c).filter (isBeforeMicros cutoff)) picked) :
    min batchSize (t.countBefore c cutoff) +
        (t.deleteWhere c fun s => (picked.map Prod.fst).contains s.1).countBefore c cutoff =
      t.countBefore c cutoff := by
  have hsplit := (t.stamps c).countP_eq_countP_filter_add (isBeforeMicros cutoff)
    fun s => (picked.map Prod.fst).contains s.1
  have hgone : ((t.stamps c).filter fun s => (picked.map Prod.fst).contains s.1).countP
      (isBeforeMicros cutoff) = min batchSize (t.countBefore c cutoff) := by
    have hrows := countP_statement hids hpicked
    rw [List.countP_eq_length_filter] at hrows
    rw [← hrows, List.countP_eq_length]
    intro s hs
    obtain ⟨hmem, hcontains⟩ := List.mem_filter.mp hs
    exact old_of_contains hids hpicked hmem hcontains
  rw [← hgone, Tables.countBefore, Tables.stamps_deleteWhere]
  exact hsplit.symm

end Statement

theorem Progress.next (h : Progress c cutoff t k d) (hnext : Next c cutoff d d') :
    Progress c cutoff t (k + 1) d' := by
  cases hnext with
  | @statement picked going hpicked =>
    have hrows := countP_statement h.ids hpicked
    have hleft := countBefore_statement h.ids hpicked
    have hcounts := h.counts
    have hfull := h.full going
    have hnext : (k + 1) * batchSize = k * batchSize + batchSize := Nat.succ_mul k batchSize
    refine ⟨?ids, ?leaves, ?counts, ?full, ?last⟩
    case ids =>
      rw [statement, Tables.stamps_deleteWhere]
      exact h.ids.sublist (List.filter_sublist.map _)
    case leaves =>
      -- the rows of the statement are old ones, so the unlimited statement would delete them too
      rw [statement, Tables.deleteWhere_deleteWhere, ← h.leaves]
      refine Tables.deleteWhere_congr fun s hs => ?_
      cases hcontains : (picked.map Prod.fst).contains s.1 with
      | false => exact Bool.false_or _
      | true => rw [old_of_contains h.ids hpicked hs hcontains, Bool.or_self]
    case counts =>
      simp only [statement, hrows]
      omega
    case full =>
      simp only [statement, hrows, decide_eq_false_iff_not]
      omega
    case last =>
      simp only [statement, hrows, decide_eq_true_eq]
      omega

theorem Run.progress (hids : ((t.stamps c).map Prod.fst).Nodup)
    (h : Run c cutoff { tables := t } k d) : Progress c cutoff t k d := by
  induction h with
  | start => exact progress_start hids cutoff
  | next _ last ih => exact ih.next last

/-- What is left when no old rows are, as one unlimited statement would then delete nothing. -/
theorem Progress.tables_eq (h : Progress c cutoff t k d) (hended : d.ended = true) :
    d.tables = t.deleteWhere c (isBeforeMicros cutoff) := by
  have hnone := List.countP_eq_zero.mp (h.last hended).1
  rw [← h.leaves, Tables.deleteWhere_none fun s hs => Bool.eq_false_iff.mpr (hnone s hs)]

theorem Progress.statements_eq (h : Progress c cutoff t k d) (hended : d.ended = true) :
    k = t.countBefore c cutoff / batchSize + 1 ∧ d.total = t.countBefore c cutoff := by
  obtain ⟨hnone, hlast, hbefore⟩ := h.last hended
  have htotal : d.total = t.countBefore c cutoff := by
    rw [← h.counts, hnone, Nat.add_zero]
  refine ⟨?_, htotal⟩
  rw [htotal] at hlast hbefore
  cases k with
  | zero => exact absurd hlast (by rw [Nat.zero_mul]; exact Nat.not_lt_zero _)
  | succ k =>
    rw [Nat.succ_mul] at hbefore
    rw [Nat.div_eq_of_lt_le (Nat.le_of_add_le_add_right hbefore) hlast]

theorem Progress.statements_le (h : Progress c cutoff t k d) (going : d.ended = false) :
    k ≤ t.countBefore c cutoff / batchSize := by
  rw [Nat.le_div_iff_mul_le (by decide), ← h.full going, ← h.counts]
  exact Nat.le_add_right _ _

end Deletion

/-! ## What remains -/

/-- Where identifiers are distinct, one that is there is either among those of the rows that go or
among those of the rows that stay. -/
theorem not_contains_eq_any {α : Type} {id : α → Uuid} {rows : List α}
    (hids : (rows.map id).Nodup) (p : α → Bool) {r : α} (hr : r ∈ rows) :
    (!((rows.filter p).map id).contains (id r)) = (rows.filter (!p ·)).any (id · == id r) := by
  have hsame : ∀ r' ∈ rows, id r' = id r → r' = r := fun r' hr' hid =>
    List.inj_on_of_nodup_map hids hr' hr hid
  cases hp : p r with
  | true =>
    have hgone : ((rows.filter p).map id).contains (id r) = true :=
      List.contains_iff_mem.mpr (List.mem_map_of_mem (List.mem_filter.mpr ⟨hr, hp⟩))
    rw [hgone]
    refine (List.any_eq_false.mpr fun r' hr' hid => ?_).symm
    obtain ⟨hmem, hkept⟩ := List.mem_filter.mp hr'
    rw [hsame r' hmem (beq_iff_eq.mp hid), hp] at hkept
    cases hkept
  | false =>
    have hkept : (rows.filter (!p ·)).any (id · == id r) = true :=
      List.any_eq_true.mpr ⟨r, List.mem_filter.mpr ⟨hr, by rw [hp]; rfl⟩, beq_self_eq_true _⟩
    rw [hkept, Bool.not_eq_true', ← Bool.not_eq_true, List.contains_iff_mem, List.mem_map]
    rintro ⟨r', hr', hid⟩
    obtain ⟨hmem, hgone⟩ := List.mem_filter.mp hr'
    rw [hsame r' hmem hid, hp] at hgone
    cases hgone

namespace Tables

variable {c : Category} {cutoff : Int} {t : Tables}

/-- The foreign keys of the rows that belong to events lead somewhere. -/
structure Referential (t : Tables) : Prop where
  entries : ∀ r ∈ t.entries, ∃ m ∈ t.models, m.id = r.event
  modifications : ∀ r ∈ t.modifications, ∃ m ∈ t.models, m.id = r.event
  relationships : ∀ r ∈ t.relationships,
    (∃ m ∈ t.models, m.id = r.event) ∧ ∃ e ∈ t.entries, e.id = r.entry

/-- What is left of tables without the events of a category from before a time: the other events,
and the rows that belong to those. -/
structure Remains (c : Category) (cutoff : Int) (t t' : Tables) : Prop where
  reference : t'.reference = t.reference
  models : t'.models = t.models.filter fun r => !decide (c = .model ∧ r.createdAt < cutoff)
  requests : t'.requests = t.requests.filter fun r => !decide (c = .request ∧ r.createdAt < cutoff)
  unspecified : t'.unspecified =
    t.unspecified.filter fun r => !decide (c = .unspecified ∧ r.createdAt < cutoff)
  entries : t'.entries = t.entries.filter fun r => t'.models.any (·.id == r.event)
  modifications : t'.modifications = t.modifications.filter fun r => t'.models.any (·.id == r.event)
  relationships : t'.relationships = t.relationships.filter fun r =>
    t'.models.any (·.id == r.event) && t'.entries.any (·.id == r.entry)

theorem hits_isBeforeMicros (c : Category) (cutoff : Int) (d : Category) (s : Uuid × Int) :
    hits c (isBeforeMicros cutoff) d s = decide (c = d ∧ s.2 < cutoff) := by
  rw [hits, isBeforeMicros, Bool.decide_and, Bool.beq_comm]
  rfl

theorem remains_deleteWhere (hids : t.Distinct) (h : t.Referential) (c : Category) (cutoff : Int) :
    Remains c cutoff t (t.deleteWhere c (isBeforeMicros cutoff)) := by
  have hmodels : (t.models.map (·.id)).Nodup := by
    have hstamps := hids.stamps .model
    rwa [stamps, List.map_map] at hstamps
  have hevent : ∀ {u : Uuid}, (∃ m ∈ t.models, m.id = u) →
      (!(t.lostEvents c (isBeforeMicros cutoff)).contains u) =
        (t.deleteWhere c (isBeforeMicros cutoff)).models.any (·.id == u) := by
    rintro u ⟨m, hm, rfl⟩
    exact not_contains_eq_any hmodels _ hm
  have hentry : ∀ {u : Uuid}, (∃ e ∈ t.entries, e.id = u) →
      (!(t.lostEntries c (isBeforeMicros cutoff)).contains u) =
        (t.deleteWhere c (isBeforeMicros cutoff)).entries.any (·.id == u) := by
    rintro u ⟨e, he, rfl⟩
    exact not_contains_eq_any hids.entries _ he
  refine ⟨rfl, ?_, ?_, ?_, ?_, ?_, ?_⟩
  · exact List.filter_congr fun r _ => by rw [hits_isBeforeMicros]
  · exact List.filter_congr fun r _ => by rw [hits_isBeforeMicros]
  · exact List.filter_congr fun r _ => by rw [hits_isBeforeMicros]
  · exact List.filter_congr fun r hr => hevent (h.entries r hr)
  · exact List.filter_congr fun r hr => hevent (h.modifications r hr)
  · refine List.filter_congr fun r hr => ?_
    obtain ⟨hmodel, hrelated⟩ := h.relationships r hr
    rw [Bool.not_or, hevent hmodel, hentry hrelated]

/-! ## The statements of the tables -/

/-- How many statements a deletion takes. -/
def statements (c : Category) (cutoff : Int) (t : Tables) : Nat :=
  match c with
  | .model => (deleteOld (fun r : ModelRow => r.createdAt < cutoff) t.models).1.length
  | .request => (deleteOld (fun r : RequestRow => r.createdAt < cutoff) t.requests).1.length
  | .unspecified =>
    (deleteOld (fun r : UnspecifiedRow => r.createdAt < cutoff) t.unspecified).1.length

theorem length_deleteOld {α : Type} (old : α → Bool) (rows : List α) :
    (deleteOld old rows).1.length = rows.countP old / batchSize + 1 := by
  have htaken := takeOld_fst old batchSize rows
  obtain ⟨hrest, -⟩ := takeOld_snd old batchSize rows
  rw [deleteOld]
  dsimp only
  split
  next hlast =>
    rw [htaken, List.length_take, ← List.countP_eq_length_filter] at hlast
    rw [Nat.div_eq_of_lt (by omega)]
    rfl
  next hfull =>
    have hleft : (takeOld old batchSize rows).2.countP old = rows.countP old - batchSize := by
      rw [List.countP_eq_length_filter, hrest, List.length_drop, ← List.countP_eq_length_filter]
    rw [htaken, List.length_take, ← List.countP_eq_length_filter] at hfull
    rw [List.length_cons, length_deleteOld old (takeOld old batchSize rows).2, hleft,
      ← Nat.div_eq_sub_div (by decide) (by omega)]
termination_by rows.length
decreasing_by
  have total := length_takeOld old batchSize rows
  have : 0 < batchSize := by decide
  omega

theorem statements_eq (c : Category) (cutoff : Int) (t : Tables) :
    t.statements c cutoff = t.countBefore c cutoff / batchSize + 1 := by
  cases c <;> simp only [statements, length_deleteOld, countBefore, stamps, List.countP_map] <;> rfl

theorem Linked.referential (h : t.Linked) : t.Referential where
  entries r hr := (h.joins.entries r hr).1
  modifications r hr := (h.joins.modifications r hr).1
  relationships r hr := by
    obtain ⟨hevent, -, e, he, hid, -⟩ := h.joins.relationships r hr
    exact ⟨hevent, e, he, hid⟩

/-- Where an entry is only referred to within its event, it takes nothing along that the event does
not take. -/
theorem Linked.lostEvents_or_entries (h : t.Linked) (hids : t.Distinct) (p : Uuid × Int → Bool)
    {r : RelationshipRow} (hr : r ∈ t.relationships) :
    ((t.lostEvents c p).contains r.event || (t.lostEntries c p).contains r.entry) =
      (t.lostEvents c p).contains r.event := by
  cases hlost : (t.lostEntries c p).contains r.entry with
  | false => exact Bool.or_false _
  | true =>
    obtain ⟨-, -, e, he, hid, hevent⟩ := h.joins.relationships r hr
    obtain ⟨e', he', hgone, hid'⟩ := contains_lostEntries.mp hlost
    rw [List.inj_on_of_nodup_map hids.entries he' he (hid'.trans hid.symm), hevent] at hgone
    rw [hgone, Bool.or_true]

/-- The deletion of the tables is the one that a single unlimited statement makes. -/
theorem deleteBefore_eq (hids : t.Distinct) (h : t.Linked) (c : Category) (cutoff : Int) :
    t.deleteBefore c cutoff =
      (t.countBefore c cutoff, t.deleteWhere c (isBeforeMicros cutoff)) := by
  obtain ⟨hcount, -⟩ := deleteBefore_spec c cutoff t
  have hrelationships : t.relationships.filter (fun r =>
        !((t.lostEvents c (isBeforeMicros cutoff)).contains r.event ||
          (t.lostEntries c (isBeforeMicros cutoff)).contains r.entry)) =
      t.relationships.filter fun r => !(t.lostEvents c (isBeforeMicros cutoff)).contains r.event :=
    List.filter_congr fun r hr => by rw [h.lostEvents_or_entries hids _ hr]
  -- only changes of entities have rows that belong to them
  have hnone : c ≠ .model → t.lostEvents c (isBeforeMicros cutoff) = [] := by
    intro hc
    rw [lostEvents, List.filter_eq_nil_iff.mpr fun r _ => ?_, List.map_nil]
    rw [hits_isBeforeMicros, decide_eq_true_eq]
    exact fun hhits => hc hhits.1
  have hall : ∀ {β : Type} (rows : List β), rows.filter (fun _ => !false) = rows :=
    fun rows => List.filter_eq_self.mpr fun _ _ => rfl
  refine Prod.ext hcount ?_
  dsimp only
  rw [deleteWhere, hrelationships]
  cases c with
  | model =>
    rw [deleteBefore_model]
    exact (Tables.mk.injEq ..).mpr
      ⟨rfl, rfl, rfl, rfl, rfl, rfl, rfl, (hall _).symm, (hall _).symm⟩
  | request =>
    rw [deleteBefore_request, hnone nofun]
    exact (Tables.mk.injEq ..).mpr ⟨rfl, rfl, rfl, (hall _).symm, (hall _).symm, (hall _).symm,
      (hall _).symm, rfl, (hall _).symm⟩
  | unspecified =>
    rw [deleteBefore_unspecified, hnone nofun]
    exact (Tables.mk.injEq ..).mpr ⟨rfl, rfl, rfl, (hall _).symm, (hall _).symm, (hall _).symm,
      (hall _).symm, (hall _).symm, rfl⟩

end Tables

/-! ## Deletions as a whole -/

namespace Deletion

open Tables (batchSize)

variable {c : Category} {cutoff : Int} {t : Tables}

/-- A deletion that has ended has done what one unlimited statement does. -/
theorem Run.ended_eq {k : Nat} {d : Deletion} (hids : ((t.stamps c).map Prod.fst).Nodup)
    (h : Run c cutoff { tables := t } k d) (hended : d.ended = true) :
    d = ⟨t.deleteWhere c (isBeforeMicros cutoff), t.countBefore c cutoff, true⟩ := by
  obtain ⟨-, htotal⟩ := (h.progress hids).statements_eq hended
  rw [← (h.progress hids).tables_eq hended, ← htotal, ← hended]

theorem exists_run (hids : ((t.stamps c).map Prod.fst).Nodup) (cutoff : Int) {k : Nat}
    (hk : k ≤ t.countBefore c cutoff / batchSize + 1) :
    ∃ d, Run c cutoff { tables := t } k d := by
  induction k with
  | zero => exact ⟨_, .start⟩
  | succ k ih =>
    obtain ⟨d, hrun⟩ := ih (Nat.le_of_succ_le hk)
    have going : d.ended = false := by
      refine Bool.eq_false_iff.mpr fun hended => ?_
      obtain ⟨hlast, -⟩ := (hrun.progress hids).statements_eq hended
      omega
    obtain ⟨d', hnext⟩ := exists_next c cutoff going
    exact ⟨d', .next hrun hnext⟩

/-- The deletion of the tables is a run. -/
theorem run_deleteBefore (hids : t.Distinct) (h : t.Linked) (c : Category) (cutoff : Int) :
    Run c cutoff { tables := t } (t.statements c cutoff)
      ⟨(t.deleteBefore c cutoff).2, (t.deleteBefore c cutoff).1, true⟩ := by
  rw [Tables.statements_eq, Tables.deleteBefore_eq hids h]
  obtain ⟨d, hrun⟩ := exists_run (hids.stamps c) cutoff (Nat.le_refl _)
  have hended : d.ended = true := by
    refine Bool.of_not_eq_false fun going => ?_
    have hle := (hrun.progress (hids.stamps c)).statements_le going
    omega
  rw [← hrun.ended_eq (hids.stamps c) hended]
  exact hrun

/-- **Deleting in batches is deleting at once.** Old events of a category are deleted from tables
without a repeated identifier, by statements each of which deletes a thousand of them or, if there
are not so many, all, whichever its query has picked. As long as no statement has deleted fewer than
a thousand there is a next one, and there have been no more statements than there are full
thousands of old events. The deletion has ended after one statement more than these. Then all old
events have been counted, each once, and what is left is what one unlimited statement leaves: where
foreign keys hold, every other event with the rows that belong to it. Where besides entries are
referred to within their event only, as it is for all that the tables are given, the deletion that
the tables carry out is such a run. -/
theorem batched_deletion (c : Category) (cutoff : Timestamp) {t : Tables} (hids : t.Distinct) :
    let n := t.countBefore c cutoff.toMicros
    (∀ k d, Run c cutoff.toMicros { tables := t } k d →
      (d.ended = false → k ≤ n / batchSize ∧ ∃ d', Next c cutoff.toMicros d d') ∧
      (d.ended = true → k = n / batchSize + 1 ∧ d.total = n ∧
        d.tables = t.deleteWhere c (isBeforeMicros cutoff.toMicros) ∧
        (t.Referential → Tables.Remains c cutoff.toMicros t d.tables))) ∧
    (t.Linked → Run c cutoff.toMicros { tables := t } (t.statements c cutoff.toMicros)
      ⟨(t.deleteBefore c cutoff.toMicros).2, (t.deleteBefore c cutoff.toMicros).1, true⟩) := by
  intro n
  refine ⟨fun k d hrun => ?_, fun h => run_deleteBefore hids h c cutoff.toMicros⟩
  have h := hrun.progress (hids.stamps c)
  refine ⟨fun going => ⟨h.statements_le going, exists_next c cutoff.toMicros going⟩,
    fun hended => ?_⟩
  obtain ⟨hstatements, htotal⟩ := h.statements_eq hended
  have htables := h.tables_eq hended
  refine ⟨hstatements, htotal, htables, fun hreferential => ?_⟩
  rw [htables]
  exact Tables.remains_deleteWhere hids hreferential c cutoff.toMicros

/-- Changes of as many orders, one in each microsecond. -/
def orderChanges (n : Nat) : Tables where
  applications := [⟨.ofNat 0, some "shop"⟩]
  entities := [⟨.ofNat 0, "Order", .ofNat 0⟩]
  models := (List.range n).map fun k => ⟨.ofNat k, k, .modify, none, none, none⟩
  entries := (List.range n).map fun k =>
    ⟨.ofNat k, .ofNat k, .ofNat 0, Digits.text k, "Order", true⟩

theorem nodup_ofNat {n : Nat} (hn : n ≤ UInt64.size) : ((List.range n).map Uuid.ofNat).Nodup := by
  refine List.Nodup.map_on (fun x hx y hy hid => ?_) List.nodup_range
  rw [List.mem_range] at hx hy
  rw [UInt64.size] at hn
  have hnumbers := congrArg Uuid.toNat hid
  rwa [Uuid.ofNat, Uuid.ofNat, Uuid.toNat, Uuid.toNat, BitVec.toNat_ofNat, BitVec.toNat_ofNat,
    Nat.mod_eq_of_lt (by omega), Nat.mod_eq_of_lt (by omega)] at hnumbers

theorem distinct_orderChanges {n : Nat} (hn : n ≤ UInt64.size) : (orderChanges n).Distinct where
  stamps c := by
    cases c with
    | model =>
      rw [Tables.stamps, List.map_map, orderChanges, List.map_map]
      exact nodup_ofNat hn
    | request => exact List.nodup_nil
    | unspecified => exact List.nodup_nil
  entries := by
    rw [Tables.entryIds, orderChanges, List.map_map]
    exact nodup_ofNat hn

theorem linked_orderChanges (n : Nat) : (orderChanges n).Linked := by
  intro link hlink
  simp only [Tables.links, orderChanges, List.map_nil, List.map_cons, List.flatMap_nil,
    List.nil_append, List.append_nil, List.flatMap_map, List.mem_append, List.mem_flatMap,
    List.mem_cons, List.not_mem_nil, or_false] at hlink
  rcases hlink with rfl | ⟨k, hk, rfl | rfl⟩
  · exact ⟨_, List.mem_singleton_self _, rfl⟩
  · exact ⟨_, List.mem_map_of_mem hk, rfl⟩
  · exact ⟨_, List.mem_singleton_self _, rfl⟩

/-- Where the old events are exactly a full batch, a second statement is needed, which deletes
nothing; one event is not old and stays. -/
theorem batched_deletion_fullBatch :
    let t := orderChanges 1001
    let cutoff : Timestamp := ⟨0, 1000000⟩
    t.Distinct ∧ t.Linked ∧
      (∀ k d, Run .model cutoff.toMicros { tables := t } k d →
        (d.ended = false → k ≤ 1) ∧
        (d.ended = true → k = 2 ∧ d.total = 1000 ∧
          Tables.Remains .model cutoff.toMicros t d.tables)) ∧
      Run .model cutoff.toMicros { tables := t } 2
        ⟨(t.deleteBefore .model cutoff.toMicros).2, 1000, true⟩ := by
  intro t cutoff
  have hids : t.Distinct := distinct_orderChanges (by decide)
  have hlinked : t.Linked := linked_orderChanges 1001
  have hold : t.countBefore .model cutoff.toMicros = 1000 := by decide +kernel
  obtain ⟨hruns, htables⟩ := batched_deletion .model cutoff hids
  have hstatements : t.statements .model cutoff.toMicros = 2 := by
    rw [Tables.statements_eq, hold]
    rfl
  rw [hold] at hruns
  have hrun := htables hlinked
  rw [hstatements, Tables.deleteBefore_eq hids hlinked, hold] at hrun
  refine ⟨hids, hlinked, fun k d hrun => ⟨fun going => ?_, fun hended => ?_⟩, ?_⟩
  · exact ((hruns k d hrun).1 going).1
  · obtain ⟨hk, htotal, -, hremains⟩ := (hruns k d hrun).2 hended
    exact ⟨hk, htotal, hremains hlinked.referential⟩
  · rw [Tables.deleteBefore_eq hids hlinked]
    exact hrun

end Deletion

end AuditTrail
