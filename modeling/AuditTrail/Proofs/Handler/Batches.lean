import AuditTrail.Proofs.Handler.Sequence
import AuditTrail.Proofs.Store.Noting
import Mathlib.Data.List.Induction

/-
  When a handler without background writes. A recorded event that leaves the buffer shorter than a
  batch asks nothing of the store; otherwise the whole buffer is submitted in one transaction, and
  it is empty after that, or as long as before if anything was refused (`record_noting`). So a run
  of calls tries an ever longer buffer until the store grants all of a transaction, and if it always
  does then the events are written in batches (`Batched`, `makeAll_batched`).
-/
namespace AuditTrail

namespace Handler

variable {σ τ : Type} {S : Store σ τ}

/-! ## One transaction -/

variable {events : List EventRecord} {s : Noted σ}

theorem giveUp_noting {h : Handler (Noted σ) τ} (hbegun : Noted.Begun events s false h.store)
    (t : τ) :
    Noted.Ended events s false (h.giveUp S.noting t).store ∧
      SameGathered h (h.giveUp S.noting t) := by
  obtain ⟨result, inner, hrollback⟩ := S.noting_rollback t h.store
  unfold giveUp
  rw [hrollback]
  cases result with
  | ok u => exact ⟨hbegun.ended rfl, rfl, rfl⟩
  | error e => exact ⟨hbegun.ended rfl, rfl, rfl⟩

/-- A sweep goes on with the transaction, or ends it. -/
theorem sweepWithin_noting {h : Handler (Noted σ) τ} (hbegun : Noted.Begun events s true h.store)
    (config : Config) (now : Timestamp) (t : τ) :
    (∃ r h', h.sweepWithin S.noting config now t = (.ok r, h') ∧
        Noted.Begun events s true h'.store ∧ SameGathered h h') ∨
      ∃ e h', h.sweepWithin S.noting config now t = (.error e, h') ∧
        Noted.Ended events s false h'.store ∧ SameGathered h h' := by
  obtain ⟨deletions, hasked, hdeletions, hok⟩ := sweepCategories_noting (S := S) config now
    Category.all {} t h.store h.journal
  have hswept := hbegun.swept hasked hdeletions
  rw [← hok] at hswept
  unfold sweepWithin sweep
  cases hsweep : sweepCategories S.noting config now Category.all {} t h.store h.journal with
  | mk result rest =>
  obtain ⟨t', s', j⟩ := rest
  rw [hsweep] at hswept
  cases result with
  | ok swept => exact .inl ⟨_, _, rfl, hswept, rfl, rfl⟩
  | error e =>
    have hswept' : Noted.Begun events s false
        ({ h with store := s', journal := j } : Handler (Noted σ) τ).store := hswept
    obtain ⟨hended, hsame⟩ := giveUp_noting (S := S) hswept' t'
    exact .inr ⟨e, _, rfl, hended, hsame.buffer, hsame.queue⟩

/-- Staging a generation begins a transaction with its events, or ends it too. -/
theorem prepare_noting (events : List EventRecord) (config : Config) (h : Handler (Noted σ) τ) :
    (∃ p h', h.prepare S.noting events config = (.ok p, h') ∧ p.events = events ∧
        Noted.Begun events h.store true h'.store ∧ SameGathered h h') ∨
      ∃ e h', h.prepare S.noting events config = (.error e, h') ∧
        Noted.Ended events h.store false h'.store ∧ SameGathered h h' := by
  unfold prepare
  obtain ⟨result, inner, hstart⟩ := S.noting_start h.store
  rw [hstart]
  cases result with
  | error e => exact .inr ⟨e, _, rfl, .refused, rfl, rfl⟩
  | ok t =>
    obtain ⟨result, t', inner', hinsert⟩ := S.noting_insert events t
      (h.store.note .start (Except.ok t : Except StoreError τ).isOk inner)
    dsimp only
    rw [hinsert]
    obtain ⟨filled, hfilled⟩ : ∃ filled : Handler (Noted σ) τ, { h with
        store := (h.store.note .start (Except.ok t : Except StoreError τ).isOk inner).note
          (.call (.insert events)) result.isOk inner' } = filled := ⟨_, rfl⟩
    have hbegun : Noted.Begun events h.store result.isOk filled.store := by
      rw [← hfilled]
      exact .inserted events result.isOk inner inner'
    have hsame : SameGathered h filled := by
      rw [← hfilled]
      exact ⟨rfl, rfl⟩
    cases result with
    | error e =>
      obtain ⟨hended, hsame'⟩ := giveUp_noting (S := S) hbegun t'
      dsimp only
      rw [hfilled]
      exact .inr ⟨e, _, rfl, hended, hsame.trans hsame'⟩
    | ok n =>
      have htick : SameGathered h filled.now.2 := hsame.trans ⟨rfl, rfl⟩
      have hticked : Noted.Begun events h.store true filled.now.2.store := hbegun
      dsimp only
      rw [hfilled]
      rcases sweepWithin_noting (S := S) hticked config filled.now.1 t' with
        ⟨r, h', hsweep, hbegun', hsame'⟩ | ⟨e, h', hsweep, hended, hsame'⟩
      · rw [hsweep]
        exact .inl ⟨⟨events, r.1, r.2⟩, h', rfl, rfl, hbegun', htick.trans hsame'⟩
      · rw [hsweep]
        exact .inr ⟨e, h', rfl, hended, htick.trans hsame'⟩

/-- What one transaction for some events leaves: they are written if all that was asked for them was
granted, and are put in front of the rest again if not. -/
structure Submitted {α : Type} (events rest : List EventRecord) (s : Noted σ)
    (result : Except HandlerError α) (h' : Handler (Noted σ) τ) : Prop where
  ended : Noted.Ended events s result.isOk h'.store
  buffer : h'.buffer = (if result.isOk then [] else events) ++ rest

theorem persist_noting (events : List EventRecord) (config : Config) (h : Handler (Noted σ) τ) :
    Submitted events h.buffer h.store (h.persist S.noting events config).1
      (h.persist S.noting events config).2 := by
  unfold persist
  rcases prepare_noting (S := S) events config h with
    ⟨p, h', hprepare, rfl, hbegun, hsame⟩ | ⟨e, h', hprepare, hended, hsame⟩
  · obtain ⟨result, inner, hcommit⟩ := S.noting_commit p.transaction h'.store
    rw [hprepare, ← hsame.buffer]
    dsimp only [finish]
    rw [hcommit]
    cases result with
    | ok u => exact ⟨hbegun.ended rfl, rfl⟩
    | error e => exact ⟨hbegun.ended rfl, rfl⟩
  · rw [hprepare, ← hsame.buffer]
    exact ⟨hended, rfl⟩

/-! ## One record -/

/-- A recorded event stays in a buffer that is shorter than a batch; otherwise all of the buffer is
submitted in one transaction. -/
theorem record_noting {N : Nat} (hN : 0 < N) {config : Config}
    (hhandler : config.handler = ⟨N, false⟩) (e : EventRecord) (h : Handler (Noted σ) τ) :
    ((h.buffer ++ [e]).length < N ∧ h.record S.noting config e = (.ok (), h.push e)) ∨
      N ≤ (h.buffer ++ [e]).length ∧ Submitted (h.buffer ++ [e]) [] h.store
        (h.record S.noting config e).1 (h.record S.noting config e).2 := by
  have hthreshold : threshold config = N := by
    rw [threshold, hhandler]
    exact max_eq_left hN
  have hbuffer : (h.push e).buffer = h.buffer ++ [e] := rfl
  unfold record flushIfDue takeIfDue
  rw [hthreshold, hbuffer]
  by_cases hdue : (h.buffer ++ [e]).length < N
  · rw [if_pos hdue]
    exact .inl ⟨hdue, rfl⟩
  · rw [if_neg hdue, hhandler]
    dsimp only [takeAll]
    rw [if_neg Bool.false_ne_true]
    have hsubmitted := persist_noting (S := S) (h.buffer ++ [e]) config
      { h.push e with buffer := [] }
    refine .inr ⟨Nat.le_of_not_lt hdue, ?_, ?_⟩
    · rw [isOk_map, isOk_map]
      exact hsubmitted.ended
    · rw [isOk_map, isOk_map]
      exact hsubmitted.buffer

/-- The buffer holds the events that were recorded last, in order. -/
theorem buffer_suffix (S : Store σ τ) {calls : List (Config × Call)}
    (hsync : ∀ c ∈ calls, c.1.handler.background = false) (s : σ) (w : Surroundings) :
    (makeAll S calls (fresh s w)).buffer <:+ calls.flatMap (·.2.recorded) := by
  have hnothing : S.ChangesByCommit fun _ => () :=
    ⟨fun _ => rfl, fun _ _ _ => rfl, fun _ _ _ _ => rfl, fun _ => rfl, fun _ _ => rfl⟩
  have hinv := makeAll_inOrder hnothing hsync (fresh_inOrder s w)
  rw [makeAll_fresh]
  exact ⟨_, hinv.order⟩

/-- What a record does in batches of some size after others. -/
structure Records (N : Nat) (recorded : List EventRecord) (e : EventRecord)
    (h : Handler (Noted σ) τ) (result : Except HandlerError Unit) (h' : Handler (Noted σ) τ) :
    Prop where
  /-- It asks for one transaction with all of the buffer if this is a batch then, and for nothing
  otherwise. -/
  asked : ∃ asked, h'.store.asked = h.store.asked ++ asked ∧
    if N ≤ (h.buffer ++ [e]).length then Transacted (h.buffer ++ [e]) asked else asked = []
  /-- These are the events that were recorded last, in order. -/
  latest : h.buffer ++ [e] <:+ recorded ++ [e]
  /-- If it succeeds then no batch is left. -/
  pending : result = .ok () → h'.buffer.length < N
  /-- If it fails then nothing is lost. -/
  kept : ∀ error, result = .error error → h'.buffer = h.buffer ++ [e]

theorem records_of_latest {N : Nat} (hN : 0 < N) {config : Config}
    (hhandler : config.handler = ⟨N, false⟩) {recorded : List EventRecord}
    {h : Handler (Noted σ) τ} (hlatest : h.buffer <:+ recorded) (e : EventRecord) :
    Records N recorded e h (h.record S.noting config e).1 (h.record S.noting config e).2 := by
  have hlatest' : h.buffer ++ [e] <:+ recorded ++ [e] := by
    obtain ⟨written, rfl⟩ := hlatest
    exact ⟨written, (List.append_assoc _ _ _).symm⟩
  rcases record_noting (S := S) hN hhandler e h with ⟨hshort, hrecord⟩ | ⟨hfull, hsubmitted⟩
  · rw [hrecord]
    refine ⟨⟨[], (List.append_nil _).symm, ?_⟩, hlatest', fun _ => hshort, nofun⟩
    rw [if_neg (Nat.not_le_of_lt hshort)]
  · obtain ⟨asked, hasked, htransacted, -⟩ := hsubmitted.ended
    refine ⟨⟨asked, hasked, ?_⟩, hlatest', fun hok => ?_, fun error herror => ?_⟩
    · rw [if_pos hfull]
      exact htransacted
    · rw [hsubmitted.buffer, hok]
      exact hN
    · rw [hsubmitted.buffer, herror]
      exact List.append_nil _

/-! ## Runs -/

/-- The first batches of some events. -/
def batchesOf (N count : Nat) (events : List EventRecord) : List (List EventRecord) :=
  (List.range count).map fun i => (events.drop (i * N)).take N

theorem batchesOf_append {N count : Nat} {events : List EventRecord}
    (h : count * N ≤ events.length) (more : List EventRecord) :
    batchesOf N count (events ++ more) = batchesOf N count events := by
  refine List.map_congr_left fun i hi => ?_
  have hbatch : (i + 1) * N ≤ count * N := Nat.mul_le_mul_right N (List.mem_range.mp hi)
  rw [Nat.succ_mul] at hbatch
  have hlength : N ≤ (events.drop (i * N)).length := by
    rw [List.length_drop]
    omega
  rw [List.drop_append_of_le_length (by omega), List.take_append_of_le_length hlength]

theorem batchesOf_succ (N count : Nat) (events : List EventRecord) :
    batchesOf N (count + 1) events =
      batchesOf N count events ++ [(events.drop (count * N)).take N] := by
  rw [batchesOf, List.range_succ, List.map_append]
  rfl

/-- Some events were recorded, and whatever of them makes full batches was submitted in these, each
in a transaction of its own; the rest is in the buffer. -/
structure Batched (N : Nat) (events : List EventRecord) (h : Handler (Noted σ) τ) : Prop where
  starts : startsOf h.store.asked = events.length / N
  generations : generationsOf h.store.asked = batchesOf N (events.length / N) events
  buffer : h.buffer = events.drop (events.length / N * N)

namespace Batched

variable {N : Nat} {events : List EventRecord} {h : Handler (Noted σ) τ}

theorem length_buffer (hinv : Batched N events h) : h.buffer.length = events.length % N := by
  have hsplit := Nat.div_add_mod' events.length N
  rw [hinv.buffer, List.length_drop]
  omega

/-- One more event completes a batch or does not. -/
theorem record (hinv : Batched N events h) (hN : 0 < N) {config : Config}
    (hhandler : config.handler = ⟨N, false⟩) (e : EventRecord)
    (hgranted : ∀ a ∈ (h.record S.noting config e).2.store.asked, a.granted = true) :
    Batched N (events ++ [e]) (h.record S.noting config e).2 := by
  have hlength := hinv.length_buffer
  have hsplit := Nat.div_add_mod' events.length N
  have hless := Nat.mod_lt events.length hN
  have hwritten : events.length / N * N ≤ events.length := Nat.div_mul_le_self _ _
  have hnext : (events.length / N + 1) * N = events.length / N * N + N := Nat.succ_mul _ _
  have hbuffer : (events ++ [e]).drop (events.length / N * N) = h.buffer ++ [e] := by
    rw [hinv.buffer, List.drop_append_of_le_length hwritten]
  rcases record_noting (S := S) hN hhandler e h with ⟨hshort, hrecord⟩ | ⟨hfull, hsubmitted⟩
  · rw [List.length_append, List.length_singleton] at hshort
    have hcount : (events ++ [e]).length / N = events.length / N := by
      rw [List.length_append, List.length_singleton]
      exact Nat.div_eq_of_lt_le (by omega) (by omega)
    rw [hrecord]
    refine ⟨?_, ?_, ?_⟩
    · rw [hcount]
      exact hinv.starts
    · rw [hcount, batchesOf_append hwritten]
      exact hinv.generations
    · rw [hcount, hbuffer]
      rfl
  · rw [List.length_append, List.length_singleton] at hfull
    have hevents : (events ++ [e]).length = (events.length / N + 1) * N := by
      rw [List.length_append, List.length_singleton]
      omega
    have hcount : (events ++ [e]).length / N = events.length / N + 1 :=
      Nat.div_eq_of_eq_mul_left hN hevents
    obtain ⟨asked, hasked, htransacted, hall⟩ := hsubmitted.ended
    rw [hasked] at hgranted
    have hgranted' : ∀ a ∈ asked, a.granted = true :=
      fun a ha => hgranted a (List.mem_append_right _ ha)
    have hok : (h.record S.noting config e).1.isOk = true :=
      hall.symm.trans (List.all_eq_true.mpr hgranted')
    have hbatch : (h.buffer ++ [e]).length ≤ N := by
      rw [List.length_append, List.length_singleton]
      omega
    refine ⟨?_, ?_, ?_⟩
    · rw [hasked, startsOf_append, hinv.starts, htransacted.starts, hcount]
    · rw [hasked, generationsOf_append, hinv.generations, htransacted.generations hgranted', hcount,
        batchesOf_succ, batchesOf_append hwritten, hbuffer, List.take_of_length_le hbatch]
    · rw [hsubmitted.buffer, if_pos hok, hcount, List.drop_eq_nil_of_le hevents.le]
      rfl

end Batched

/-- If the store grants everything, events that are recorded one after another are batched. -/
theorem makeAll_batched {N : Nat} (hN : 0 < N) {calls : List (Config × Call)}
    (hhandler : ∀ c ∈ calls, c.1.handler = ⟨N, false⟩) {events : List EventRecord}
    (hrecords : calls.map Prod.snd = events.map Call.record) {s : σ} {w : Surroundings}
    (hgranted : ∀ a ∈ (makeAll S.noting calls (fresh { inner := s } w)).store.asked,
      a.granted = true) :
    Batched N events (makeAll S.noting calls (fresh { inner := s } w)) := by
  induction calls using List.reverseRecOn generalizing events with
  | nil =>
    have hnone : ([] : List EventRecord).length / N = 0 := Nat.zero_div N
    rw [List.map_eq_nil_iff.mp hrecords.symm]
    refine ⟨hnone.symm, ?_, List.drop_nil.symm⟩
    rw [hnone]
    rfl
  | append_singleton calls c ih =>
    rw [List.map_append] at hrecords
    obtain ⟨events, last, rfl, hbefore, hlast⟩ := List.map_eq_append_iff.mp hrecords.symm
    obtain ⟨e, rfl, he⟩ := List.map_eq_singleton_iff.mp hlast
    obtain ⟨config, call⟩ := c
    cases he
    have hconfig : config.handler = ⟨N, false⟩ :=
      hhandler (config, .record e) (List.mem_append_right _ List.mem_cons_self)
    have hmake : makeAll S.noting (calls ++ [(config, .record e)]) (fresh { inner := s } w) =
        ((makeAll S.noting calls (fresh { inner := s } w)).record S.noting config e).2 :=
      List.foldl_append
    rw [hmake] at hgranted ⊢
    refine (ih (fun c hc => hhandler c (List.mem_append_left _ hc)) hbefore.symm
      fun a ha => hgranted a ?_).record hN hconfig e hgranted
    rcases record_noting (S := S) hN hconfig e (makeAll S.noting calls (fresh { inner := s } w))
      with ⟨-, hrecord⟩ | ⟨-, hsubmitted⟩
    · rw [hrecord]
      exact ha
    · obtain ⟨asked, hasked, -, -⟩ := hsubmitted.ended
      rw [hasked]
      exact List.mem_append_left _ ha

/-- What is left of a handler without the notes. -/
def unnoted (h : Handler (Noted σ) τ) : Handler σ τ := h.project Noted.inner id

/-- **Writing in batches.** Calls are made one after another, without background and in batches of
some size, on any store, whatever it refuses. A record asks the store for one transaction if the
buffer with the new event is a batch, and for nothing otherwise; the transaction inserts all of the
buffer, which is the events recorded last, in order. After a record that succeeds there is no batch
in the buffer, and after one that fails the buffer is as it was tried. If the store grants
everything and `k` events are recorded, there are as many transactions as there are full batches in
`k`, the events are inserted batch by batch, and the other ones are in the buffer. -/
theorem records_batched (S : Store σ τ) (s : σ) (w : Surroundings) (N : Nat) (hN : 0 < N)
    (calls : List (Config × Call)) (hhandler : ∀ c ∈ calls, c.1.handler = ⟨N, false⟩) :
    let h := makeAll S.noting calls (fresh { inner := s } w)
    makeAll S calls (fresh s w) = h.unnoted ∧
      (∀ before config e after, calls = before ++ (config, .record e) :: after →
        ∀ reached result h', reached = makeAll S.noting before (fresh { inner := s } w) →
          reached.record S.noting config e = (result, h') →
            (makeAll S before (fresh s w)).record S config e = (result, h'.unnoted) ∧
              Records N (before.flatMap (·.2.recorded)) e reached result h') ∧
      ∀ events, calls.map Prod.snd = events.map Call.record →
        (∀ a ∈ h.store.asked, a.granted = true) →
          startsOf h.store.asked = events.length / N ∧
            generationsOf h.store.asked = batchesOf N (events.length / N) events ∧
            h.buffer = events.drop (events.length / N * N) ∧
            h.buffer.length = events.length % N := by
  have hfresh : ∀ calls, makeAll S calls (fresh s w) =
      (makeAll S.noting calls (fresh { inner := s } w)).unnoted := fun calls =>
    makeAll_project S.noting_projects calls (fresh { inner := s } w)
  refine ⟨hfresh calls, ?_, fun events hrecords hgranted => ?_⟩
  · rintro before config e after rfl reached result h' rfl hrecord
    have hbefore : ∀ c ∈ before, c.1.handler.background = false := fun c hc => by
      rw [hhandler c (List.mem_append_left _ hc)]
    have hconfig : config.handler = ⟨N, false⟩ :=
      hhandler (config, .record e) (List.mem_append_right _ List.mem_cons_self)
    have hrecords := records_of_latest (S := S) hN hconfig
      (buffer_suffix S.noting hbefore { inner := s } w) e
    rw [hrecord] at hrecords
    refine ⟨?_, hrecords⟩
    rw [hfresh, unnoted, record_project S.noting_projects, hrecord]
    rfl
  · have hbatched := makeAll_batched hN hhandler hrecords hgranted
    exact ⟨hbatched.starts, hbatched.generations, hbatched.buffer, hbatched.length_buffer⟩

/-- Records of numbered events in batches of two. -/
def inPairs (k : Nat) : List (Config × Call) :=
  (List.range k).map fun i => (sweeping 2, .record (Concurrent.numbered (i + 1)))

/-- A store that refuses the start of one transaction and the events of the next one is asked for
the fourth event with all before it; one that grants everything gets two pairs of five events. -/
theorem records_batched_inPairs :
    let S := Faulty.store MemoryStore.store
    let w : Surroundings := ⟨0, ⟨0, 0⟩⟩
    let reached := makeAll S.noting (inPairs 3) (fresh { inner := refusingEach } w)
    let made := reached.record S.noting (sweeping 2) (Concurrent.numbered 4)
    let h := makeAll MemoryStore.store.noting (inPairs 5) (fresh { inner := {} } w)
    0 < 2 ∧ (∀ c ∈ inPairs 5, c.1.handler = ⟨2, false⟩) ∧
      (startsOf reached.store.asked = 2 ∧ reached.buffer.length = 3) ∧
      Records 2 [Concurrent.numbered 1, Concurrent.numbered 2, Concurrent.numbered 3]
        (Concurrent.numbered 4) reached made.1 made.2 ∧
      (∀ a ∈ h.store.asked, a.granted = true) ∧
      startsOf h.store.asked = 2 ∧
      generationsOf h.store.asked = [[Concurrent.numbered 1, Concurrent.numbered 2],
        [Concurrent.numbered 3, Concurrent.numbered 4]] ∧
      h.buffer = [Concurrent.numbered 5] ∧ h.buffer.length = 1 :=
  ⟨by decide, by decide, by decide,
    ((records_batched _ refusingEach ⟨0, ⟨0, 0⟩⟩ 2 (by decide) (inPairs 5) (by decide)).2.1
      (inPairs 3) (sweeping 2) (Concurrent.numbered 4) _ rfl _ _ _ rfl rfl).2,
    by decide,
    (records_batched MemoryStore.store {} ⟨0, ⟨0, 0⟩⟩ 2 (by decide) (inPairs 5) (by decide)).2.2
      ((List.range 5).map fun i => Concurrent.numbered (i + 1)) rfl (by decide)⟩

end Handler

end AuditTrail
