import AuditTrail.Handler
import AuditTrail.Proofs.Store.Agreement
import AuditTrail.Proofs.Time.Past

/-
  What retention deletes. An event is expired if its category has a greatest age, the time that
  age back can be represented, and the event was created before that time (`Config.Expired`). On
  the store in memory a sweep stages one deletion for each category that has such a time, and
  counts over what is stored and what was staged for insertion before (`sweep_memory`); the commit
  goes through the deletions and leaves what is not expired (`events_deletions`). So the counts
  made ahead of the commit are those of the events it deletes, for a sweep of its own
  (`sweepExpired_memory`) as for one in the transaction of a generation (`persist_memory`).

  Main statement: `expired_events_deleted`.
-/
namespace AuditTrail

/-! ## Expired events -/

namespace Config

/-- An event was created before the time that lies the greatest age of its category back. -/
def Expired (config : Config) (now : Timestamp) (e : EventRecord) : Prop :=
  ∃ age cutoff, config.maxAge e.category = some age ∧ now.LiesBack age cutoff ∧
    e.createdAt.before cutoff = true

theorem cutoff?_eq_some_iff {config : Config} {now cutoff : Timestamp} {c : Category} :
    config.cutoff? now c = some cutoff ↔
      ∃ age, config.maxAge c = some age ∧ now.LiesBack age cutoff := by
  simp only [cutoff?, Option.bind_eq_some_iff, Timestamp.minus?_eq_some_iff]

theorem expired_iff {config : Config} {now : Timestamp} {e : EventRecord} :
    config.Expired now e ↔
      ∃ cutoff, config.cutoff? now e.category = some cutoff ∧ e.createdAt.before cutoff = true := by
  simp only [cutoff?_eq_some_iff, Expired]
  constructor
  · rintro ⟨age, cutoff, hage, hback, hbefore⟩
    exact ⟨cutoff, ⟨age, hage, hback⟩, hbefore⟩
  · rintro ⟨cutoff, ⟨age, hage, hback⟩, hbefore⟩
    exact ⟨age, cutoff, hage, hback, hbefore⟩

instance (config : Config) (now : Timestamp) (e : EventRecord) : Decidable (config.Expired now e) :=
  decidable_of_iff ((config.cutoff? now e.category).any (e.createdAt.before ·) = true) <| by
    rw [expired_iff, Option.any_eq_true]

/-- In a category with a time to go by, the expired events are those from before it. -/
theorem isBefore_iff_expired {config : Config} {now cutoff : Timestamp} {c : Category}
    (hcutoff : config.cutoff? now c = some cutoff) {e : EventRecord} :
    e.isBefore c cutoff = true ↔ e.category = c ∧ config.Expired now e := by
  rw [EventRecord.isBefore, Bool.and_eq_true, beq_iff_eq, expired_iff]
  constructor
  · rintro ⟨rfl, hbefore⟩
    exact ⟨rfl, cutoff, hcutoff, hbefore⟩
  · rintro ⟨rfl, cutoff', hcutoff', hbefore⟩
    cases hcutoff.symm.trans hcutoff'
    exact ⟨rfl, hbefore⟩

/-- In a category without one, nothing is expired. -/
theorem not_expired {config : Config} {now : Timestamp} {e : EventRecord}
    (hcutoff : config.cutoff? now e.category = none) : ¬ config.Expired now e := by
  rw [expired_iff, hcutoff]
  rintro ⟨cutoff, h, -⟩
  cases h

/-- There is no time to go by without a greatest age, if the age is too long, or if it leads to
before the first second. -/
theorem cutoff?_eq_none {config : Config} {now : Timestamp} {c : Category}
    (h : ∀ age, config.maxAge c = some age → Timestamp.maxSpanNanos < age.toNanos ∨
      now.total - age.toNanos < Timestamp.minSecs * 1000000000) : config.cutoff? now c = none :=
  Option.bind_eq_none_iff.mpr fun age hage => Timestamp.minus?_eq_none (h age hage)

end Config

/-! ## A sweep of the store in memory -/

namespace Retention

/-- What a sweep stages for some categories. -/
def deletions (config : Config) (now : Timestamp) (cs : List Category) : Staged :=
  cs.filterMap fun c => (config.cutoff? now c).map (StagedOp.delete c)

theorem deletions_cons_none {config : Config} {now : Timestamp} {c : Category}
    (hcutoff : config.cutoff? now c = none) (cs : List Category) :
    deletions config now (c :: cs) = deletions config now cs :=
  List.filterMap_cons_none (by rw [hcutoff]; rfl)

theorem deletions_cons_some {config : Config} {now cutoff : Timestamp} {c : Category}
    (hcutoff : config.cutoff? now c = some cutoff) (cs : List Category) :
    deletions config now (c :: cs) = .delete c cutoff :: deletions config now cs :=
  List.filterMap_cons_some (by rw [hcutoff]; rfl)

/-- Going through the deletions of some categories leaves what is not expired of these. -/
theorem events_deletions (config : Config) (now : Timestamp) (cs : List Category) (a : Archive) :
    ((deletions config now cs).foldl StagedOp.apply a).events =
      a.events.filter fun e => ¬ (e.category ∈ cs ∧ config.Expired now e) := by
  induction cs generalizing a with
  | nil =>
    refine (List.filter_eq_self.mpr fun e _ => ?_).symm
    simp
  | cons c cs ih =>
    cases hcutoff : config.cutoff? now c with
    | none =>
      rw [deletions_cons_none hcutoff, ih]
      refine List.filter_congr fun e _ => decide_eq_decide.mpr (not_congr ?_)
      rw [List.mem_cons]
      constructor
      · rintro ⟨hmem, hexpired⟩
        exact ⟨.inr hmem, hexpired⟩
      · rintro ⟨rfl | hmem, hexpired⟩
        · exact absurd hexpired (Config.not_expired hcutoff)
        · exact ⟨hmem, hexpired⟩
    | some cutoff =>
      rw [deletions_cons_some hcutoff, List.foldl_cons, ih, StagedOp.apply, Archive.deleteBefore,
        List.filter_filter]
      refine List.filter_congr fun e _ => ?_
      have hbefore := Config.isBefore_iff_expired (e := e) hcutoff
      rw [Bool.eq_iff_iff]
      simp only [Bool.and_eq_true, Bool.not_eq_true', ← Bool.not_eq_true, hbefore,
        decide_eq_true_eq, List.mem_cons]
      constructor
      · rintro ⟨hlater, hfirst⟩ ⟨hmem | hmem, hexpired⟩
        · exact hfirst ⟨hmem, hexpired⟩
        · exact hlater ⟨hmem, hexpired⟩
      · exact fun h => ⟨fun hlater => h ⟨.inr hlater.1, hlater.2⟩,
          fun hfirst => h ⟨.inl hfirst.1, hfirst.2⟩⟩

/-- Every category is swept. -/
theorem events_swept (config : Config) (now : Timestamp) (a : Archive) :
    ((deletions config now Category.all).foldl StagedOp.apply a).events =
      a.events.filter fun e => ¬ config.Expired now e := by
  have hall : ∀ c : Category, c ∈ Category.all := by
    intro c
    cases c <;> decide
  rw [events_deletions]
  exact List.filter_congr fun e _ =>
    decide_eq_decide.mpr (not_congr (and_iff_right (hall e.category)))

/-- Deletions that are staged change nothing about what is counted later. -/
theorem countBefore_delete (c d : Category) (cutoff cutoff' : Timestamp) (staged : Staged)
    (s : MemoryStore) : s.countBefore c cutoff (staged ++ [.delete d cutoff']) =
      s.countBefore c cutoff staged := by
  rw [MemoryStore.countBefore, MemoryStore.countBefore, List.flatMap_append]
  show _ + (_ ++ []).countP _ = _
  rw [List.append_nil]

/-- Staging the deletions of some categories is never refused. What was counted for another
category before is kept. -/
theorem sweepCategories_memory (config : Config) (now : Timestamp) (cs : List Category)
    (swept : Swept) (staged : Staged) (s : MemoryStore) (j : Journal) :
    ∃ swept' j', sweepCategories MemoryStore.store config now cs swept staged s j =
        (.ok swept', staged ++ deletions config now cs, s, j') ∧
      ∀ c, (c ∉ cs ∨ config.cutoff? now c = none → swept'.count c = swept.count c) ∧
        ∀ cutoff, c ∈ cs → config.cutoff? now c = some cutoff →
          swept'.count c = s.countBefore c cutoff staged := by
  induction cs generalizing swept staged j with
  | nil =>
    refine ⟨swept, j, ?_, fun c => ⟨fun _ => rfl, fun _ hmem => absurd hmem List.not_mem_nil⟩⟩
    show _ = (_, staged ++ [], _)
    rw [List.append_nil]
    rfl
  | cons c cs ih =>
    unfold sweepCategories
    cases hcutoff : config.cutoff? now c with
    | none =>
      obtain ⟨swept', j', hsweep, hcounts⟩ := ih swept staged j
      refine ⟨swept', j', ?_, fun d => ⟨fun hd => (hcounts d).1 ?_, fun cutoff hd hsome => ?_⟩⟩
      · rw [deletions_cons_none hcutoff]
        exact hsweep
      · exact hd.imp_left fun hnot hmem => hnot (List.mem_cons_of_mem c hmem)
      · rcases List.mem_cons.mp hd with rfl | hmem
        · rw [hcutoff] at hsome
          cases hsome
        · exact (hcounts d).2 cutoff hmem hsome
    | some cutoff =>
      obtain ⟨n, hn⟩ : ∃ n, n = s.countBefore c cutoff staged := ⟨_, rfl⟩
      have hdelete : MemoryStore.store.deleteBefore c cutoff staged s =
          (.ok n, staged ++ [.delete c cutoff], s) := by
        rw [hn]
        rfl
      obtain ⟨swept', j', hsweep, hcounts⟩ :=
        ih (swept.set c n) (staged ++ [.delete c cutoff]) (j.countDeleted c n)
      refine ⟨swept', j', ?_, fun d => ⟨fun hd => ?_, fun cutoff' hd hsome => ?_⟩⟩
      · have happend : staged ++ .delete c cutoff :: deletions config now cs =
            staged ++ [.delete c cutoff] ++ deletions config now cs := List.append_cons _ _ _
        dsimp only
        rw [hdelete, deletions_cons_some hcutoff, happend]
        exact hsweep
      · have hne : d ≠ c := by
          rintro rfl
          rcases hd with hnot | hnone
          · exact hnot List.mem_cons_self
          · rw [hcutoff] at hnone
            cases hnone
        rw [(hcounts d).1 (hd.imp_left fun hnot hmem => hnot (List.mem_cons_of_mem c hmem)),
          Swept.count_set, if_neg hne]
      · by_cases hmem : d ∈ cs
        · rw [(hcounts d).2 cutoff' hmem hsome, countBefore_delete]
        · have hdc : d = c := (List.mem_cons.mp hd).resolve_right hmem
          subst hdc
          cases hcutoff.symm.trans hsome
          rw [(hcounts d).1 (.inl hmem), Swept.count_set, if_pos rfl, hn]

/-- A sweep counts the expired events of every category among those that are stored and those that
were staged for insertion before. -/
theorem sweep_memory (config : Config) (now : Timestamp) (staged : Staged) (s : MemoryStore)
    (j : Journal) :
    ∃ swept j', sweep MemoryStore.store config now staged s j =
        (.ok swept, staged ++ deletions config now Category.all, s, j') ∧
      ∀ c, swept.count c = (s.archive.events ++ staged.flatMap (·.inserted)).countP
        fun e => e.category = c ∧ config.Expired now e := by
  obtain ⟨swept, j', hsweep, hcounts⟩ :=
    sweepCategories_memory config now Category.all {} staged s j
  refine ⟨swept, j', hsweep, fun c => ?_⟩
  cases hcutoff : config.cutoff? now c with
  | none =>
    have hzero : ({} : Swept).count c = 0 := by
      cases c <;> rfl
    rw [(hcounts c).1 (.inr hcutoff), hzero]
    refine (List.countP_eq_zero.mpr fun e _ => ?_).symm
    rw [decide_eq_true_eq]
    rintro ⟨rfl, hexpired⟩
    exact Config.not_expired hcutoff hexpired
  | some cutoff =>
    have hmem : c ∈ Category.all := by
      cases c <;> decide
    have hsame : ∀ e : EventRecord, (e.isBefore c cutoff = true ↔
        decide (e.category = c ∧ config.Expired now e) = true) := fun e => by
      rw [Config.isBefore_iff_expired hcutoff, decide_eq_true_eq]
    rw [(hcounts c).2 cutoff hmem hcutoff, MemoryStore.countBefore, ← List.countP_append]
    exact List.countP_congr fun e _ => hsame e

end Retention

/-! ## Transactions of the handler -/

namespace Handler

open Retention

/-- What a sweep at a time leaves of some events, and what is said about it. -/
structure SweptAt (config : Config) (now : Timestamp) (before : List EventRecord) (swept : Swept)
    (h : Handler MemoryStore Staged) : Prop where
  /-- Exactly the expired events are gone, and the others stand in their old order. -/
  remaining : h.store.archive.events = before.filter fun e => ¬ config.Expired now e
  /-- An event created exactly at the time to go by stays. -/
  boundary : ∀ e ∈ before, ∀ age, config.maxAge e.category = some age →
    now.LiesBack age e.createdAt → e ∈ h.store.archive.events
  /-- A category loses nothing without a greatest age, if the age is too long, or if it leads to
  before the first second. -/
  unlimited : ∀ c, (∀ age, config.maxAge c = some age →
      Timestamp.maxSpanNanos < age.toNanos ∨
        now.total - age.toNanos < Timestamp.minSecs * 1000000000) →
    h.store.archive.eventsOf c = before.filter (·.category == c)
  /-- Of every category as many events are gone as was said. -/
  counted : ∀ c, (h.store.archive.eventsOf c).length + swept.count c =
    before.countP (·.category == c)
  /-- Nothing is left for another sweep at that time. -/
  again : ∃ h', h.sweepExpired MemoryStore.store config now = (.ok {}, h') ∧
    h'.store.archive.events = h.store.archive.events

/-- A sweep within a transaction is never refused. -/
theorem sweepWithin_memory (config : Config) (now : Timestamp) (staged : Staged)
    (h : Handler MemoryStore Staged) :
    ∃ swept j, h.sweepWithin MemoryStore.store config now staged =
        (.ok (swept, staged ++ deletions config now Category.all), { h with journal := j }) ∧
      ∀ c, swept.count c = (h.store.archive.events ++ staged.flatMap (·.inserted)).countP
        fun e => e.category = c ∧ config.Expired now e := by
  obtain ⟨swept, j, hsweep, hcounts⟩ := sweep_memory config now staged h.store h.journal
  refine ⟨swept, j, ?_, hcounts⟩
  unfold sweepWithin
  rw [hsweep]

/-- A sweep of its own is one transaction. It leaves what is not expired and counts what is. -/
theorem sweepExpired_memory (config : Config) (now : Timestamp) (h : Handler MemoryStore Staged) :
    ∃ swept h', h.sweepExpired MemoryStore.store config now = (.ok swept, h') ∧
      h'.store.archive.events =
        (h.store.archive.events.filter fun e => ¬ config.Expired now e) ∧
      h'.store.started = h.store.started + 1 ∧ h'.store.committed = h.store.committed + 1 ∧
      ∀ c, swept.count c = h.store.archive.events.countP
        fun e => e.category = c ∧ config.Expired now e := by
  obtain ⟨begun, hbegun⟩ : ∃ s, s = { h.store with started := h.store.started + 1 } := ⟨_, rfl⟩
  have hstart : MemoryStore.store.start h.store = (.ok [], begun) := by
    rw [hbegun]
    rfl
  obtain ⟨swept, j, hsweep, hcounts⟩ := sweepWithin_memory config now [] { h with store := begun }
  have harchive : begun.archive = h.store.archive := by
    rw [hbegun]
  refine ⟨swept, { h with
    store := (MemoryStore.store.commit (deletions config now Category.all) begun).2
    journal := j }, ?_, ?_, ?_, ?_, fun c => ?_⟩
  · unfold sweepExpired
    dsimp only
    rw [hstart]
    dsimp only
    rw [hsweep]
    rfl
  · rw [← harchive]
    exact events_swept config now begun.archive
  · show begun.started = _
    rw [hbegun]
  · show begun.committed + 1 = _
    rw [hbegun]
  · rw [hcounts, ← harchive]
    exact congrArg (List.countP _) (List.append_nil _)

/-- Writing a generation is one transaction. It puts the generation behind the stored events,
leaves what is not expired of both and counts what is. -/
theorem persist_memory (events : List EventRecord) (config : Config)
    (h : Handler MemoryStore Staged) :
    ∃ swept h', h.persist MemoryStore.store events config = (.ok ⟨events.length, swept⟩, h') ∧
      h'.store.archive.events =
        ((h.store.archive.events ++ events).filter fun e => ¬ config.Expired h.now.1 e) ∧
      h'.store.started = h.store.started + 1 ∧ h'.store.committed = h.store.committed + 1 ∧
      ∀ c, swept.count c = (h.store.archive.events ++ events).countP
        fun e => e.category = c ∧ config.Expired h.now.1 e := by
  obtain ⟨begun, hbegun⟩ : ∃ s, s = { h.store with started := h.store.started + 1 } := ⟨_, rfl⟩
  have hstart : MemoryStore.store.start h.store = (.ok [], begun) := by
    rw [hbegun]
    rfl
  have harchive : begun.archive = h.store.archive := by
    rw [hbegun]
  obtain ⟨filled, hfilled⟩ : ∃ h', h' = { h.now.2 with store := begun } := ⟨_, rfl⟩
  obtain ⟨swept, j, hsweep, hcounts⟩ :=
    sweepWithin_memory config h.now.1 [.insert events] filled
  have hinsert : MemoryStore.store.insert events [] begun =
      (.ok events.length, [.insert events], begun) := rfl
  have hnow : ({ h with store := begun } : Handler MemoryStore Staged).now = (h.now.1, filled) := by
    rw [hfilled]
    rfl
  have hprepare : h.prepare MemoryStore.store events config =
      (.ok ⟨events, swept, .insert events :: deletions config h.now.1 Category.all⟩,
        { filled with journal := j }) := by
    unfold prepare
    rw [hstart]
    dsimp only
    rw [hinsert]
    dsimp only
    rw [hnow]
    dsimp only
    rw [hsweep]
    rfl
  have hstored : filled.store = begun := by
    rw [hfilled]
  have hwritten : (begun.archive.insert events).events = h.store.archive.events ++ events := by
    rw [Archive.events_insert, harchive]
  obtain ⟨h', hpersist, hstore⟩ : ∃ h', h.persist MemoryStore.store events config =
      (.ok ⟨events.length, swept⟩, h') ∧ h'.store = (MemoryStore.store.commit
        (.insert events :: deletions config h.now.1 Category.all) begun).2 := by
    unfold persist
    rw [hprepare, ← hstored]
    exact ⟨_, rfl, rfl⟩
  refine ⟨swept, h', hpersist, ?_, ?_, ?_, fun c => ?_⟩
  · rw [hstore, ← hwritten]
    exact events_swept config h.now.1 (begun.archive.insert events)
  · rw [hstore]
    show begun.started = _
    rw [hbegun]
  · rw [hstore]
    show begun.committed + 1 = _
    rw [hbegun]
  · rw [hcounts, hstored, harchive]
    exact congrArg (fun l => List.countP _ (_ ++ l)) (List.append_nil events)

theorem Swept.eq_empty {swept : Swept} (h : ∀ c, swept.count c = 0) : swept = {} := by
  have hrequest := h .request
  have hmodel := h .model
  have hunspecified := h .unspecified
  cases swept
  cases hrequest
  cases hmodel
  cases hunspecified
  rfl

/-- A handler whose store holds what is not expired of some events, with the expired ones counted,
has been swept. -/
theorem sweptAt_of_filter {config : Config} {now : Timestamp} {before : List EventRecord}
    {swept : Swept} {h : Handler MemoryStore Staged}
    (hevents : h.store.archive.events = before.filter fun e => ¬ config.Expired now e)
    (hcounts : ∀ c, swept.count c =
      before.countP fun e => e.category = c ∧ config.Expired now e) :
    SweptAt config now before swept h where
  remaining := hevents
  boundary e he age hage hback := by
    rw [hevents, List.mem_filter, decide_eq_true_eq]
    refine ⟨he, ?_⟩
    rintro ⟨age', cutoff, hage', hback', hbefore⟩
    cases hage.symm.trans hage'
    have hsame : cutoff = e.createdAt :=
      (Timestamp.eq_back hback'.length hback'.second).trans
        (Timestamp.eq_back hback.length hback.second).symm
    rw [hsame, Timestamp.before_irrefl] at hbefore
    cases hbefore
  unlimited c hc := by
    have hcutoff := Config.cutoff?_eq_none hc
    rw [Archive.eventsOf, hevents, List.filter_filter]
    refine List.filter_congr fun e _ => ?_
    by_cases he : e.category = c
    · have hkept : ¬ config.Expired now e := Config.not_expired (he ▸ hcutoff)
      rw [decide_eq_true hkept, Bool.and_true]
    · rw [beq_eq_false_iff_ne.mpr he, Bool.false_and]
  counted c := by
    have hsplit := List.countP_eq_countP_filter_add before (fun e => e.category == c)
      fun e => decide (¬ config.Expired now e)
    rw [hcounts, hsplit, Archive.eventsOf, hevents, ← List.countP_eq_length_filter]
    congr 1
    rw [List.countP_filter]
    refine List.countP_congr fun e _ => ?_
    simp
  again := by
    obtain ⟨swept', h', hsweep, hevents', -, -, hcounts'⟩ := sweepExpired_memory config now h
    have hnone : ∀ e ∈ h.store.archive.events, ¬ config.Expired now e := by
      intro e he
      rw [hevents, List.mem_filter, decide_eq_true_eq] at he
      exact he.2
    have hempty : swept' = {} := by
      refine Swept.eq_empty fun c => ?_
      rw [hcounts', List.countP_eq_zero]
      intro e he
      rw [decide_eq_true_eq]
      exact fun h => hnone e he h.2
    refine ⟨h', hempty ▸ hsweep, hevents'.trans (List.filter_eq_self.mpr fun e he => ?_)⟩
    exact decide_eq_true (hnone e he)

/-- A sweep at a time leaves, of whatever the store holds, exactly the events that are not expired
at that time. A flush that finds a generation in the buffer leaves the same of the stored events
followed by the generation, at the time the clock shows, with the sweep in the transaction that
inserts it; a flush that finds nothing does nothing. -/
theorem expired_events_deleted (config : Config) (h : Handler MemoryStore Staged) :
    (∀ now, ∃ swept h', h.sweepExpired MemoryStore.store config now = (.ok swept, h') ∧
      SweptAt config now h.store.archive.events swept h') ∧
    (h.buffer ≠ [] →
      ∃ swept h', h.flush MemoryStore.store config = (.ok ⟨h.buffer.length, swept⟩, h') ∧
        SweptAt config h.now.1 (h.store.archive.events ++ h.buffer) swept h' ∧
        h'.store.started = h.store.started + 1 ∧ h'.store.committed = h.store.committed + 1) ∧
    (h.buffer = [] → h.flush MemoryStore.store config = (.ok {}, h)) := by
  refine ⟨fun now => ?_, fun hbuffer => ?_, fun hbuffer => ?_⟩
  · obtain ⟨swept, h', hsweep, hevents, -, -, hcounts⟩ := sweepExpired_memory config now h
    exact ⟨swept, h', hsweep, sweptAt_of_filter hevents hcounts⟩
  · obtain ⟨swept, h', hpersist, hevents, hstarted, hcommitted, hcounts⟩ :=
      persist_memory h.buffer config { h with buffer := [] }
    refine ⟨swept, h', ?_, sweptAt_of_filter hevents hcounts, hstarted, hcommitted⟩
    unfold flush
    dsimp only [takeAll]
    rw [if_neg (mt List.isEmpty_iff.mp hbuffer)]
    exact hpersist
  · unfold flush
    dsimp only [takeAll]
    cases h
    cases hbuffer
    rfl

/-- Log records are kept for a second. The store holds three of them, one from before the last
second, one from exactly its begin and one from later, and an old change of an order; a late and a
new record are in the buffer. -/
def overdue : Handler MemoryStore Staged where
  store := { archive := { events := [logged 1 8, logged 2 9, orderModified 10 5 "decimal"] } }
  buffer := [logged 3 7, logged 4 10]
  surroundings := ⟨0, ⟨10, 7000⟩⟩

theorem expired_events_deleted_overdue :
    let config : Config := { unspecified := { maxAge := some (.ofSecs 1) } }
    overdue.buffer ≠ [] ∧
      (overdue.flush MemoryStore.store config).2.store.archive.events =
        [logged 2 9, orderModified 10 5 "decimal", logged 4 10] ∧
      ∃ swept h', overdue.flush MemoryStore.store config = (.ok ⟨2, swept⟩, h') ∧
        SweptAt config ⟨10, 7000⟩ (overdue.store.archive.events ++ overdue.buffer) swept h' ∧
        h'.store.started = 1 ∧ h'.store.committed = 1 :=
  have hbuffer : overdue.buffer ≠ [] := List.cons_ne_nil _ _
  ⟨hbuffer, by decide, (expired_events_deleted _ overdue).2.1 hbuffer⟩

end Handler

end AuditTrail
