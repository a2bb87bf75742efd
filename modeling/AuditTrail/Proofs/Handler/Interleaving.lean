import Mathlib.Algebra.Order.Group.Multiset
import Mathlib.Tactic.Abel
import AuditTrail.Proofs.Handler.Operations
import AuditTrail.Store.Faulty
import AuditTrail.Store.Memory

/-
  A handler in use by any number of callers and background tasks at once. What a call does is cut
  into the parts that happen at once: an event is added to the buffer (`push`), the buffer is taken
  out if it holds a batch (`check`) or in any case (`swap`), and a generation that was taken out has
  two turns, one that stages it and one that ends its transaction (`Handler.turn`). `Concurrent.act`
  takes one such part, with the configuration in effect at that moment; a list of acts is a run in
  which the parts of all calls come in any order. Calls made one after another are such runs
  (`run_record`, `run_flush`).

  The account that every act keeps (`Accounted`, `act_accounted`): each recorded event is in the
  buffer, in one generation on its way or in one written generation, as often as it was recorded;
  the store has applied the written generations; and the counters count what they say.
-/
namespace AuditTrail

variable {σ τ : Type}

/-! ## Turns of a generation -/

/-- A generation at its end: written, or put back into the buffer. -/
structure Ended where
  events : List EventRecord
  written : Bool
  deriving DecidableEq

/-- What a turn makes of a generation. -/
inductive Turn (τ : Type) where
  | goesOn (t : Task τ)
  | ends (g : Ended)

namespace Turn

/-- The generations on their way after the turn of the one at place `n`. -/
def replaceIn (n : Nat) (ts : List (Task τ)) : Turn τ → List (Task τ)
  | .goesOn t => ts.set n t
  | .ends _ => ts.eraseIdx n

/-- The generation that came to its end, if it did. -/
def ended : Turn τ → List Ended
  | .goesOn _ => []
  | .ends g => [g]

/-- The generation that is still on its way, if it is. -/
def remaining : Turn τ → List (Task τ)
  | .goesOn t => [t]
  | .ends _ => []

theorem replaceIn_perm {n : Nat} {ts : List (Task τ)} {t : Task τ} (ht : ts[n]? = some t)
    (turn : Turn τ) :
    ts.Perm (t :: ts.eraseIdx n) ∧
      (turn.replaceIn n ts).Perm (turn.remaining ++ ts.eraseIdx n) := by
  obtain ⟨hn, rfl⟩ := List.getElem?_eq_some_iff.mp ht
  refine ⟨(List.getElem_cons_eraseIdx_perm hn).symm, ?_⟩
  cases turn with
  | goesOn t' => exact List.set_perm_cons_eraseIdx hn t'
  | ends g => exact List.Perm.refl _

end Turn

/-- One turn of a generation: it is staged, or its transaction comes to its end. -/
def Handler.turn (S : Store σ τ) (h : Handler σ τ) : Task τ → Turn τ × Handler σ τ
  | .taken events config =>
    match h.prepare S events config with
    | (.ok p, h) => (.goesOn (.prepared p), h)
    | (.error e, h) => (.ends ⟨events, false⟩, (h.fail S events e).2)
  | .prepared p =>
    match h.finish S p with
    | (.ok _, h) => (.ends ⟨p.events, true⟩, h)
    | (.error _, h) => (.ends ⟨p.events, false⟩, h)

/-! ## Runs -/

/-- A handler with the generations that its callers hold, and those that came to their end so far,
in order. -/
structure Concurrent (σ τ : Type) where
  handler : Handler σ τ
  calls : List (Task τ) := []
  ended : List Ended := []

/-- The parts of calls. -/
inductive Act where
  /-- A caller adds an event. -/
  | push (e : EventRecord)
  /-- A caller takes the buffer out if it holds a batch. -/
  | check (config : Config)
  /-- A caller takes the buffer out. -/
  | swap (config : Config)
  /-- A generation held by a caller has a turn. -/
  | call (n : Nat)
  /-- A generation in the background has a turn. -/
  | task (n : Nat)
  /-- A caller sweeps out expired events. -/
  | sweep (config : Config) (now : Timestamp)

namespace Concurrent

/-- Takes one part of a call. Turns of generations that do not exist change nothing. -/
def act (S : Store σ τ) (c : Concurrent σ τ) : Act → Concurrent σ τ
  | .push e => { c with handler := c.handler.push e }
  | .check config =>
    match c.handler.takeIfDue config with
    | (none, h) => { c with handler := h }
    | (some events, h) =>
      if config.handler.background then { c with handler := h.enqueue events config }
      else { c with handler := h, calls := c.calls ++ [.taken events config] }
  | .swap config =>
    let (events, h) := c.handler.takeAll
    if events.isEmpty then { c with handler := h }
    else { c with handler := h, calls := c.calls ++ [.taken events config] }
  | .call n =>
    match c.calls[n]? with
    | none => c
    | some t =>
      let (turn, h) := c.handler.turn S t
      { handler := h, calls := turn.replaceIn n c.calls, ended := c.ended ++ turn.ended }
  | .task n =>
    match c.handler.queue[n]? with
    | none => c
    | some t =>
      let (turn, h) := c.handler.turn S t
      { c with
        handler := { h with queue := turn.replaceIn n h.queue }
        ended := c.ended ++ turn.ended }
  | .sweep config now => { c with handler := (c.handler.sweepExpired S config now).2 }

/-- Takes parts of calls in the order given. -/
def run (S : Store σ τ) (acts : List Act) (c : Concurrent σ τ) : Concurrent σ τ :=
  acts.foldl (act S) c

/-- A new handler, which no call has reached yet. -/
def start (contents : σ) (w : Surroundings) : Concurrent σ τ :=
  { handler := { store := contents, surroundings := w } }

/-- The generations taken out of the buffer that have not come to their end. -/
def inFlight (c : Concurrent σ τ) : List (Task τ) :=
  c.calls ++ c.handler.queue ++ c.handler.held.map .prepared

/-- The generations that were written, in order. -/
def written (c : Concurrent σ τ) : List (List EventRecord) :=
  (c.ended.filter (·.written)).map (·.events)

end Concurrent

/-- The events recorded by some parts of calls. -/
def Act.recorded : Act → List EventRecord
  | .push e => [e]
  | _ => []

/-! ## Calls one after another -/

/-- Recording an event by itself is adding it, looking whether a batch is full, and the turns of
the generation. -/
theorem run_record (S : Store σ τ) (config : Config) (e : EventRecord) (h : Handler σ τ) :
    (Concurrent.run S [.push e, .check config, .call 0, .call 0] { handler := h }).handler =
      (h.record S config e).2 := by
  simp only [Concurrent.run, List.foldl_cons, List.foldl_nil, Concurrent.act, Handler.record,
    Handler.flushIfDue]
  cases (h.push e).takeIfDue config with
  | mk taken h₁ =>
    cases taken with
    | none => rfl
    | some events =>
      by_cases hback : config.handler.background
      · simp [hback]
      · simp only [hback, Bool.false_eq_true, if_false, List.nil_append, List.getElem?_cons_zero,
          Handler.turn, Handler.persist]
        cases h₁.prepare S events config with
        | mk result h₂ =>
          cases result with
          | error e => rfl
          | ok p =>
            simp only [Turn.replaceIn, List.set_cons_zero, List.getElem?_cons_zero]
            cases h₂.finish S p with
            | mk result h₃ => cases result <;> rfl

/-- Writing the buffer by itself is taking it out and the turns of the generation. -/
theorem run_flush (S : Store σ τ) (config : Config) (h : Handler σ τ) :
    (Concurrent.run S [.swap config, .call 0, .call 0] { handler := h }).handler =
      (h.flush S config).2 := by
  simp only [Concurrent.run, List.foldl_cons, List.foldl_nil, Concurrent.act, Handler.flush]
  cases h.takeAll with
  | mk events h₁ =>
    by_cases hempty : events.isEmpty
    · simp [hempty]
    · simp only [hempty, Bool.false_eq_true, if_false, List.nil_append, List.getElem?_cons_zero,
        Handler.turn, Handler.persist]
      cases h₁.prepare S events config with
      | mk result h₂ =>
        cases result with
        | error e => rfl
        | ok p =>
          simp only [Turn.replaceIn, List.set_cons_zero, List.getElem?_cons_zero]
          cases h₂.finish S p with
          | mk result h₃ => cases result <;> rfl

/-! ## The account -/

variable {S : Store σ τ} {staged : τ → List EventRecord} {applied : σ → List EventRecord}

/-- The handler after a generation came to its end: written and applied, or put back. -/
def Handler.Closes (applied : σ → List EventRecord) (h : Handler σ τ) (g : Ended)
    (h' : Handler σ τ) : Prop :=
  ∃ s w j, applied s = applied h.store ++ (if g.written then g.events else []) ∧
    h' = { h with
      store := s
      surroundings := w
      journal := j
      buffer := (if g.written then [] else g.events) ++ h.buffer
      flushes := h.flushes + (if g.written then 1 else 0)
      failures := h.failures + (if g.written then 0 else 1)
      persisted := h.persisted + (if g.written then g.events.length else 0) }

/-- A staged generation is what its transaction will apply. -/
def Task.StagedRight (staged : τ → List EventRecord) : Task τ → Prop
  | .taken _ _ => True
  | .prepared p => staged p.transaction = p.events

/-- A turn keeps the events of the generation, and either stages exactly them or closes it. -/
theorem turn_spec (hS : S.Transactional staged applied) (h : Handler σ τ) {t : Task τ}
    (ht : t.StagedRight staged) :
    (∃ t', (h.turn S t).1 = .goesOn t' ∧ t'.events = t.events ∧ t'.StagedRight staged ∧
      h.Quiet applied (h.turn S t).2) ∨
    (∃ g, (h.turn S t).1 = .ends g ∧ g.events = t.events ∧ h.Closes applied g (h.turn S t).2) := by
  cases t with
  | taken events config =>
    obtain ⟨hquiet, hstaged⟩ := Handler.prepare_spec hS events config h
    unfold Handler.turn
    dsimp only
    split
    next p h₁ hp =>
      rw [hp] at hquiet hstaged
      obtain ⟨hevents, htransaction⟩ := hstaged p rfl
      exact .inl ⟨_, rfl, hevents, htransaction.trans hevents.symm, hquiet⟩
    next e h₁ hp =>
      rw [hp] at hquiet
      obtain ⟨s, w, j, rfl, happlied⟩ := hquiet
      obtain ⟨j', hfail⟩ := Handler.fail_spec (S := S) events e
        { h with store := s, surroundings := w, journal := j }
      refine .inr ⟨⟨events, false⟩, rfl, rfl, s, w, j', ?_, hfail⟩
      simpa using happlied
  | prepared p =>
    unfold Handler.turn
    dsimp only
    rcases Handler.finish_spec hS p h with ⟨report, s, j, hfinish, happlied⟩ |
      ⟨error, s, j, hfinish, happlied⟩
    · rw [hfinish]
      refine .inr ⟨⟨p.events, true⟩, rfl, rfl, s, h.surroundings, j, ?_, rfl⟩
      rw [happlied, show staged p.transaction = p.events from ht]
      rfl
    · rw [hfinish]
      refine .inr ⟨⟨p.events, false⟩, rfl, rfl, s, h.surroundings, j, ?_, rfl⟩
      simpa using happlied

/-- A turn leaves the background alone. -/
theorem turn_frame (hS : S.Transactional staged applied) (h : Handler σ τ) {t : Task τ}
    (ht : t.StagedRight staged) :
    (h.turn S t).2.queue = h.queue ∧ (h.turn S t).2.held = h.held := by
  rcases turn_spec hS h ht with ⟨_, _, _, _, s, w, j, hsame, _⟩ | ⟨_, _, _, s, w, j, _, hsame⟩
  · rw [hsame]
    exact ⟨rfl, rfl⟩
  · rw [hsame]
    exact ⟨rfl, rfl⟩

namespace Concurrent

/-- The account of a handler in use: where every event recorded so far is, what the store has
applied since the time when it had applied `earlier`, and what the counters count. -/
structure Accounted (staged : τ → List EventRecord) (applied : σ → List EventRecord)
    (earlier recorded : List EventRecord) (c : Concurrent σ τ) : Prop where
  recorded : (recorded : Multiset EventRecord) =
    ↑c.handler.buffer + ↑(c.inFlight.flatMap Task.events) + ↑c.written.flatten
  applied : applied c.handler.store = earlier ++ c.written.flatten
  staged : ∀ t ∈ c.inFlight, t.StagedRight staged
  persisted : c.handler.persisted = c.written.flatten.length
  flushes : c.handler.flushes = c.written.length
  finished : c.handler.flushes + c.handler.failures = c.ended.length

variable {earlier recorded : List EventRecord} {c : Concurrent σ τ}

/-- An act that touches only the store, the surroundings and the journal, and applies nothing,
keeps the account. -/
theorem Accounted.quiet (hc : c.Accounted staged applied earlier recorded) {h : Handler σ τ}
    (hquiet : c.handler.Quiet applied h) :
    Accounted staged applied earlier recorded { c with handler := h } := by
  obtain ⟨s, w, j, rfl, happlied⟩ := hquiet
  exact ⟨hc.recorded, happlied.trans hc.applied, hc.staged, hc.persisted, hc.flushes,
    hc.finished⟩

theorem Accounted.push (hc : c.Accounted staged applied earlier recorded) (e : EventRecord) :
    Accounted staged applied earlier (recorded ++ [e])
      { c with handler := c.handler.push e } := by
  refine ⟨?_, hc.applied, hc.staged, hc.persisted, hc.flushes, hc.finished⟩
  have hevents := hc.recorded
  simp only [Handler.push, ← Multiset.coe_add] at hevents ⊢
  rw [hevents]
  simp only [inFlight, written]
  abel

/-- Taking the buffer out puts its events on their way, with a caller or in the background. -/
theorem Accounted.take (hc : c.Accounted staged applied earlier recorded) {c' : Concurrent σ τ}
    (config : Config) (hended : c'.ended = c.ended)
    (hflight : c'.inFlight.Perm (.taken c.handler.buffer config :: c.inFlight))
    (hhandler : ∃ q, c'.handler = { c.handler with buffer := [], queue := q }) :
    c'.Accounted staged applied earlier recorded := by
  obtain ⟨q, hh⟩ := hhandler
  have hwritten : c'.written = c.written := by rw [written, hended, written]
  refine ⟨?_, ?_, ?_, ?_, ?_, ?_⟩
  · have hmoved : (c'.inFlight.flatMap Task.events : Multiset EventRecord) =
        ↑c.handler.buffer + ↑(c.inFlight.flatMap Task.events) := by
      rw [Multiset.coe_add]
      exact Multiset.coe_eq_coe.mpr (hflight.flatMap_right _)
    rw [hc.recorded, hwritten, hmoved, hh]
    simp
  · rw [hwritten, hh]
    exact hc.applied
  · intro t ht
    rcases List.mem_cons.mp (hflight.mem_iff.mp ht) with rfl | ht
    · trivial
    · exact hc.staged t ht
  · rw [hwritten, hh]
    exact hc.persisted
  · rw [hwritten, hh]
    exact hc.flushes
  · rw [hended, hh]
    exact hc.finished

/-- A generation that is staged is still on its way. -/
theorem Accounted.stages (hc : c.Accounted staged applied earlier recorded) {c' : Concurrent σ τ}
    {t t' : Task τ} {rest : List (Task τ)} (hflight : c.inFlight.Perm (t :: rest))
    (hflight' : c'.inFlight.Perm (t' :: rest)) (hended : c'.ended = c.ended)
    (hevents : t'.events = t.events) (hright : t'.StagedRight staged) {h : Handler σ τ}
    (hquiet : c.handler.Quiet applied h) (hhandler : ∃ q, c'.handler = { h with queue := q }) :
    c'.Accounted staged applied earlier recorded := by
  obtain ⟨s, w, j, rfl, happlied⟩ := hquiet
  obtain ⟨q, hh⟩ := hhandler
  have hwritten : c'.written = c.written := by rw [written, hended, written]
  have hmoved : (c'.inFlight.flatMap Task.events : Multiset EventRecord) =
      ↑(c.inFlight.flatMap Task.events) := by
    refine Multiset.coe_eq_coe.mpr ((hflight'.flatMap_right _).trans ?_)
    rw [List.flatMap_cons, hevents, ← List.flatMap_cons]
    exact (hflight.flatMap_right _).symm
  refine ⟨?_, ?_, ?_, ?_, ?_, ?_⟩
  · rw [hmoved, hwritten, hh]
    exact hc.recorded
  · rw [hwritten, hh]
    exact happlied.trans hc.applied
  · intro t'' ht''
    rcases List.mem_cons.mp (hflight'.mem_iff.mp ht'') with rfl | ht''
    · exact hright
    · exact hc.staged t'' (hflight.mem_iff.mpr (List.mem_cons_of_mem _ ht''))
  · rw [hwritten, hh]
    exact hc.persisted
  · rw [hwritten, hh]
    exact hc.flushes
  · rw [hended, hh]
    exact hc.finished

/-- The events of a generation that comes to its end are written, or in the buffer again. -/
theorem Accounted.closes (hc : c.Accounted staged applied earlier recorded) {c' : Concurrent σ τ}
    {t : Task τ} {rest : List (Task τ)} (hflight : c.inFlight.Perm (t :: rest))
    (hflight' : c'.inFlight.Perm rest) {g : Ended} (hended : c'.ended = c.ended ++ [g])
    (hevents : g.events = t.events) {h : Handler σ τ} (hcloses : c.handler.Closes applied g h)
    (hhandler : ∃ q, c'.handler = { h with queue := q }) :
    c'.Accounted staged applied earlier recorded := by
  obtain ⟨s, w, j, happlied, rfl⟩ := hcloses
  obtain ⟨q, hh⟩ := hhandler
  have hwritten : c'.written = c.written ++ (if g.written then [g.events] else []) := by
    rw [written, hended, written, List.filter_append, List.map_append]
    by_cases hw : g.written <;> simp [hw]
  have hleft : (c.inFlight.flatMap Task.events : Multiset EventRecord) =
      ↑g.events + ↑(c'.inFlight.flatMap Task.events) := by
    rw [Multiset.coe_add, hevents]
    exact Multiset.coe_eq_coe.mpr
      ((hflight.flatMap_right _).trans ((hflight'.flatMap_right _).symm.append_left _))
  have hpersisted := hc.persisted
  have hflushes := hc.flushes
  have hfinished := hc.finished
  refine ⟨?_, ?_, ?_, ?_, ?_, ?_⟩
  · rw [hc.recorded, hleft, hwritten, hh]
    cases g.written <;> simp [← Multiset.coe_add] <;> abel
  · rw [hwritten, hh]
    refine happlied.trans ?_
    rw [hc.applied]
    cases g.written <;> simp
  · intro t' ht'
    exact hc.staged t' (hflight.mem_iff.mpr (List.mem_cons_of_mem _ (hflight'.mem_iff.mp ht')))
  · rw [hwritten, hh]
    cases g.written <;> simp [hpersisted]
  · rw [hwritten, hh]
    cases g.written <;> simp [hflushes]
  · rw [hended, hh]
    cases g.written <;> simp <;> omega

/-- A turn of a generation on its way keeps the account, whoever holds the generation. -/
theorem Accounted.turn (hS : S.Transactional staged applied)
    (hc : c.Accounted staged applied earlier recorded) {c' : Concurrent σ τ} {t : Task τ}
    {rest : List (Task τ)} (hflight : c.inFlight.Perm (t :: rest))
    (hflight' : c'.inFlight.Perm ((c.handler.turn S t).1.remaining ++ rest))
    (hended : c'.ended = c.ended ++ (c.handler.turn S t).1.ended)
    (hhandler : ∃ q, c'.handler = { (c.handler.turn S t).2 with queue := q }) :
    c'.Accounted staged applied earlier recorded := by
  have hright := hc.staged t (hflight.mem_iff.mpr List.mem_cons_self)
  rcases turn_spec hS c.handler hright with ⟨t', hturn, hevents, hright', hquiet⟩ |
    ⟨g, hturn, hevents, hcloses⟩
  · rw [hturn] at hflight' hended
    rw [Turn.ended, List.append_nil] at hended
    exact hc.stages hflight hflight' hended hevents hright' hquiet hhandler
  · rw [hturn] at hflight' hended
    exact hc.closes hflight hflight' hended hevents hcloses hhandler

theorem Accounted.check (hc : c.Accounted staged applied earlier recorded) (config : Config) :
    (c.act S (.check config)).Accounted staged applied earlier recorded := by
  unfold act Handler.takeIfDue
  dsimp only
  by_cases hdue : c.handler.buffer.length < Handler.threshold config
  · rw [if_pos hdue]
    exact hc
  · rw [if_neg hdue]
    simp only [Handler.takeAll, Handler.enqueue]
    split
    · refine hc.take config rfl ?_ ⟨_, rfl⟩
      simp only [inFlight, List.append_assoc, List.singleton_append]
      rw [← List.append_assoc, ← List.append_assoc]
      exact List.perm_middle
    · refine hc.take config rfl ?_ ⟨_, rfl⟩
      simp only [inFlight, List.append_assoc, List.singleton_append]
      exact List.perm_middle

theorem Accounted.swap (hc : c.Accounted staged applied earlier recorded) (config : Config) :
    (c.act S (.swap config)).Accounted staged applied earlier recorded := by
  have hact : c.act S (.swap config) = if c.handler.buffer.isEmpty then
      { c with handler := { c.handler with buffer := [] } }
    else { c with
      handler := { c.handler with buffer := [] }
      calls := c.calls ++ [.taken c.handler.buffer config] } := rfl
  rw [hact]
  by_cases hempty : c.handler.buffer.isEmpty
  · have hsame : { c.handler with buffer := [] } = c.handler := by
      rw [← List.isEmpty_iff.mp hempty]
    rw [if_pos hempty, hsame]
    exact hc
  · rw [if_neg hempty]
    refine hc.take config rfl ?_ ⟨_, rfl⟩
    simp only [inFlight, List.append_assoc, List.singleton_append]
    exact List.perm_middle

theorem Accounted.call (hS : S.Transactional staged applied)
    (hc : c.Accounted staged applied earlier recorded) (n : Nat) :
    (c.act S (.call n)).Accounted staged applied earlier recorded := by
  unfold act
  dsimp only
  cases ht : c.calls[n]? with
  | none => exact hc
  | some t =>
    obtain ⟨hbefore, hafter⟩ := Turn.replaceIn_perm ht (c.handler.turn S t).1
    have hmem : t ∈ c.inFlight := by simp [inFlight, List.mem_of_getElem? ht]
    obtain ⟨hqueue, hheld⟩ := turn_frame hS c.handler (hc.staged t hmem)
    have hflight : c.inFlight.Perm (t ::
        (c.calls.eraseIdx n ++ c.handler.queue ++ c.handler.held.map .prepared)) := by
      simp only [inFlight, ← List.cons_append]
      exact (hbefore.append_right _).append_right _
    refine hc.turn hS hflight ?_ rfl ⟨_, rfl⟩
    simp only [inFlight, hqueue, hheld, ← List.append_assoc]
    exact (hafter.append_right _).append_right _

theorem Accounted.task (hS : S.Transactional staged applied)
    (hc : c.Accounted staged applied earlier recorded) (n : Nat) :
    (c.act S (.task n)).Accounted staged applied earlier recorded := by
  unfold act
  dsimp only
  cases ht : c.handler.queue[n]? with
  | none => exact hc
  | some t =>
    obtain ⟨hbefore, hafter⟩ := Turn.replaceIn_perm ht (c.handler.turn S t).1
    have hmem : t ∈ c.inFlight := by simp [inFlight, List.mem_of_getElem? ht]
    obtain ⟨hqueue, hheld⟩ := turn_frame hS c.handler (hc.staged t hmem)
    have hflight : c.inFlight.Perm (t ::
        (c.calls ++ c.handler.queue.eraseIdx n ++ c.handler.held.map .prepared)) := by
      simp only [inFlight, ← List.cons_append]
      refine List.Perm.append_right _ ?_
      exact (hbefore.append_left _).trans List.perm_middle
    refine hc.turn hS hflight ?_ rfl ⟨_, rfl⟩
    simp only [inFlight, hqueue, hheld, ← List.append_assoc]
    refine List.Perm.append_right _ ?_
    refine (hafter.append_left _).trans ?_
    rw [← List.append_assoc]
    exact List.perm_append_comm.append_right _

/-- Every part of a call keeps the account. -/
theorem act_accounted (hS : S.Transactional staged applied)
    (hc : c.Accounted staged applied earlier recorded) (a : Act) :
    (c.act S a).Accounted staged applied earlier (recorded ++ a.recorded) := by
  cases a with
  | push e => exact hc.push e
  | check config =>
    simp only [Act.recorded, List.append_nil]
    exact hc.check config
  | swap config =>
    simp only [Act.recorded, List.append_nil]
    exact hc.swap config
  | call n =>
    simp only [Act.recorded, List.append_nil]
    exact hc.call hS n
  | task n =>
    simp only [Act.recorded, List.append_nil]
    exact hc.task hS n
  | sweep config now =>
    simp only [Act.recorded, List.append_nil]
    exact hc.quiet (Handler.sweepExpired_spec hS config now c.handler)

/-- Every run keeps the account. -/
theorem run_accounted (hS : S.Transactional staged applied) (acts : List Act)
    (hc : c.Accounted staged applied earlier recorded) :
    (run S acts c).Accounted staged applied earlier (recorded ++ acts.flatMap Act.recorded) := by
  induction acts generalizing c recorded with
  | nil => simpa [run] using hc
  | cons a acts ih =>
    have hrest := ih (act_accounted hS hc a)
    rw [List.append_assoc] at hrest
    exact hrest

theorem start_accounted (contents : σ) (w : Surroundings) :
    (start contents w : Concurrent σ τ).Accounted staged applied (applied contents) [] := by
  refine ⟨rfl, ?_, ?_, rfl, rfl, rfl⟩
  · simp [start, written]
  · intro t ht
    simp [start, inFlight] at ht

/-- **Nothing is lost and nothing doubled.** Whatever the order in which the parts of calls come,
whichever transactions fail and however the configuration changes in between: the recorded events
are those in the buffer, those of the generations on their way and those of the written
generations, each as often as it was recorded. What the store has applied are the written
generations, `persisted` counts their events, `flushes` counts them, and `flushes` and `failures`
together count the generations that came to their end. -/
theorem recorded_events_accounted (hS : S.Transactional staged applied) (contents : σ)
    (w : Surroundings) (acts : List Act) :
    let c := run S acts (start contents w)
    (acts.flatMap Act.recorded : Multiset EventRecord) =
        ↑c.handler.buffer + ↑(c.inFlight.flatMap Task.events) + ↑c.written.flatten ∧
      applied c.handler.store = applied contents ++ c.written.flatten ∧
      c.handler.persisted = c.written.flatten.length ∧
      c.handler.flushes = c.written.length ∧
      c.handler.flushes + c.handler.failures = c.ended.length := by
  have hc := run_accounted hS acts (start_accounted contents w)
  rw [List.nil_append] at hc
  exact ⟨hc.recorded, hc.applied, hc.persisted, hc.flushes, hc.finished⟩

/-- A log record with a number as its text, for a run. -/
def numbered (n : Nat) : EventRecord := .unspecified {
  id := .ofNat n
  createdAt := ⟨n, 0⟩
  message := Digits.text n
  level := .info
  line := none
  file := none
  application := ⟨.ofNat 0, none⟩ }

/-- Two callers and a background task at a store that refuses its first commit: the first generation
goes back in front of an event that came after it, and is written in the background while another
event comes in. -/
def refusedOnce : List Act := [
  .push (numbered 1), .check { handler := { batch := 2 } },
  .push (numbered 2), .check { handler := { batch := 2 } },
  .call 0, .push (numbered 3), .call 0,
  .check { handler := { batch := 1, background := true } },
  .task 0, .push (numbered 4), .task 0]

/-- The store in memory, which is to refuse one commit. -/
def refusingOnce : Faulty MemoryStore × List EventRecord :=
  (Faulty.demand .commit 1 { inner := {} }, [])

theorem recorded_events_accounted_refusedOnce :
    let S := (Faulty.store MemoryStore.store).logged
    let c := run S refusedOnce (start refusingOnce ⟨0, ⟨0, 0⟩⟩)
    S.Transactional Prod.snd Prod.snd ∧
      c.handler.failures = 1 ∧
      c.written = [[numbered 1, numbered 2, numbered 3]] ∧
      c.handler.buffer = [numbered 4] ∧
      (refusedOnce.flatMap Act.recorded : Multiset EventRecord) =
        ↑c.handler.buffer + ↑(c.inFlight.flatMap Task.events) + ↑c.written.flatten ∧
      c.handler.store.2 = refusingOnce.2 ++ c.written.flatten ∧
      c.handler.persisted = c.written.flatten.length ∧
      c.handler.flushes = c.written.length ∧
      c.handler.flushes + c.handler.failures = c.ended.length :=
  ⟨Store.logged_transactional _, by decide, by decide, by decide,
    recorded_events_accounted (Store.logged_transactional _) refusingOnce ⟨0, ⟨0, 0⟩⟩ refusedOnce⟩

end Concurrent

end AuditTrail
