import AuditTrail.Proofs.Handler.Background

/-
  Shutting a handler down. A shutdown takes the handles that were kept, waits for the task of each,
  one after the other, and then writes what is in the buffer; while it does so, tasks take their
  turns in any order (`Watched.close`).

  As long as no call is on its way, every task in the background is one that is waited for. So the
  last wait finds the background empty, and from there on a shutdown is a flush of the handler as
  the background left it (`Drained`, `Stands`, `closeAll_stands`). With what the parts of calls keep
  (`Concurrent.Accounted`) this says where the recorded events are (`shutdown_complete`). The end
  can always be reached, and if the tasks run one after the other it is the one of
  `Handler.shutdown` (`exists_shutdown`, `exists_returned`).
-/
namespace AuditTrail

variable {σ τ : Type}

/-- Where a shutdown stands. -/
inductive Closing (τ : Type) where
  /-- It waits for the tasks of some handles. -/
  | awaits (handles : List Nat)
  /-- It writes what was in the buffer. -/
  | writes (t : Task τ)
  | returned (result : Except HandlerError FlushReport)

/-- What happens at once during a shutdown. -/
inductive Closing.Move where
  /-- A generation in the background has a turn. -/
  | task (n : Nat)
  /-- The shutdown goes on as far as it can at once. -/
  | goOn (config : Config)

namespace Watched

/-- A shutdown begins by taking out the handles that were kept. -/
def shutdown (w : Watched σ τ) : Watched σ τ × Closing τ := ({ w with kept := [] }, .awaits w.kept)

/-- A turn of a task, or of the shutdown: past the handle of a finished task, to the buffer once no
handle is left, and to the end of the transaction in two turns. -/
def close (S : Store σ τ) : Watched σ τ × Closing τ → Closing.Move → Watched σ τ × Closing τ
  | (w, c), .task n => (w.act S (.task n), c)
  | (w, .awaits (handle :: handles)), .goOn _ =>
    if w.tasks.contains handle then (w, .awaits (handle :: handles)) else (w, .awaits handles)
  | (w, .awaits []), .goOn config =>
    let (events, h) := w.handler.takeAll
    let c := if events.isEmpty then .returned (.ok {}) else .writes (.taken events config)
    ({ w with handler := h }, c)
  | (w, .writes (.taken events config)), .goOn _ =>
    match w.handler.prepare S events config with
    | (.ok p, h) => ({ w with handler := h }, .writes (.prepared p))
    | (.error e, h) =>
      let (result, h) := h.fail S events e
      ({ w with handler := h }, .returned result)
  | (w, .writes (.prepared p)), .goOn _ =>
    let (result, h) := w.handler.finish S p
    ({ w with handler := h }, .returned result)
  | (w, .returned result), .goOn _ => (w, .returned result)

def closeAll (S : Store σ τ) (moves : List Closing.Move) (x : Watched σ τ × Closing τ) :
    Watched σ τ × Closing τ :=
  moves.foldl (close S) x

variable {S : Store σ τ} {staged : τ → List EventRecord} {applied : σ → List EventRecord}
  {earlier recorded : List EventRecord} {w : Watched σ τ}

/-! ## The course of a shutdown -/

/-- A handler whose background is empty, with every event recorded so far in its buffer or
applied. -/
structure Drained (applied : σ → List EventRecord) (earlier recorded : List EventRecord)
    (h : Handler σ τ) : Prop where
  queue : h.queue = []
  held : h.held = []
  account : ∃ committed, applied h.store = earlier ++ committed ∧
    (recorded : Multiset EventRecord) = ↑h.buffer + ↑committed

/-- A shutdown waits for every task there is, or it has come some way in a flush of a handler whose
background was empty. -/
def Stands (S : Store σ τ) (staged : τ → List EventRecord) (applied : σ → List EventRecord)
    (earlier recorded : List EventRecord) : Watched σ τ × Closing τ → Prop
  | (w, .awaits handles) => w.toConcurrent.Accounted staged applied earlier recorded ∧
      w.calls = [] ∧ w.Attended handles
  | (w, .writes t) => w.tasks = [] ∧ w.calls = [] ∧ w.handler.queue = [] ∧
      ∃ h config, Drained applied earlier recorded h ∧ h.buffer ≠ [] ∧
        (t = .taken h.buffer config ∧ w.handler = { h with buffer := [] } ∨
          ∃ p, t = .prepared p ∧
            { h with buffer := [] }.prepare S h.buffer config = (.ok p, w.handler))
  | (w, .returned result) => w.tasks = [] ∧ w.calls = [] ∧ w.handler.queue = [] ∧
      ∃ h config, Drained applied earlier recorded h ∧ h.flush S config = (result, w.handler)

/-- Once the background is empty, there is no task to have a turn. -/
theorem act_task_of_empty (hw : w.handler.queue = []) (n : Nat) : w.act S (.task n) = w := by
  have hact : w.toConcurrent.act S (.task n) = w.toConcurrent := by
    unfold Concurrent.act
    dsimp only
    rw [hw]
    rfl
  unfold act
  dsimp only
  rw [hact, if_pos rfl]

/-- When every task has been waited for, the background is empty. -/
theorem Attended.drained (h : w.Attended []) (hcalls : w.calls = [])
    (hw : w.toConcurrent.Accounted staged applied earlier recorded) :
    w.tasks = [] ∧ Drained applied earlier recorded w.handler := by
  have htasks : w.tasks = [] := List.eq_nil_iff_forall_not_mem.mpr fun handle hmem =>
    List.not_mem_nil (h.known handle hmem)
  have hqueue : w.handler.queue = [] := by
    rw [← List.length_eq_zero_iff, ← h.places, htasks, List.length_nil]
  refine ⟨htasks, hqueue, h.free, w.written.flatten, hw.applied, ?_⟩
  have hflight : w.inFlight = [] := by
    rw [Concurrent.inFlight, hcalls, hqueue, h.free]
    rfl
  have hrecorded := hw.recorded
  rw [hflight] at hrecorded
  simpa using hrecorded

theorem flush_of_buffer {h : Handler σ τ} (hbuffer : h.buffer ≠ []) (config : Config) :
    h.flush S config = { h with buffer := [] }.persist S h.buffer config := by
  unfold Handler.flush
  dsimp only [Handler.takeAll]
  rw [if_neg (by simpa using hbuffer)]

/-- A shutdown that waits stands as it should after whatever comes next. -/
theorem Stands.awaits (hS : S.Transactional staged applied) {handles : List Nat}
    (h : Stands S staged applied earlier recorded (w, .awaits handles)) (m : Closing.Move) :
    Stands S staged applied earlier recorded (close S (w, .awaits handles) m) := by
  obtain ⟨hw, hcalls, hattended⟩ := h
  cases m with
  | task n =>
    have hact := Concurrent.act_accounted hS hw (.task n)
    simp only [Act.recorded, List.append_nil, ← toConcurrent_act] at hact
    refine ⟨hact, ?_, hattended.task hS hw n⟩
    have hsame : (w.toConcurrent.act S (.task n)).calls = w.calls := by
      unfold Concurrent.act
      dsimp only
      split <;> rfl
    show (w.act S (.task n)).toConcurrent.calls = []
    rw [toConcurrent_act, hsame, hcalls]
  | goOn config =>
    cases handles with
    | nil =>
      obtain ⟨htasks, hdrained⟩ := hattended.drained hcalls hw
      unfold close
      dsimp only [Handler.takeAll]
      by_cases hempty : w.handler.buffer.isEmpty = true
      · rw [if_pos hempty]
        refine ⟨htasks, hcalls, hdrained.queue, w.handler, config, hdrained, ?_⟩
        unfold Handler.flush
        dsimp only [Handler.takeAll]
        rw [if_pos hempty]
      · rw [if_neg hempty]
        exact ⟨htasks, hcalls, hdrained.queue, w.handler, config, hdrained, by simpa using hempty,
          .inl ⟨rfl, rfl⟩⟩
    | cons handle handles =>
      unfold close
      dsimp only
      split
      · exact ⟨hw, hcalls, hattended⟩
      next hover =>
        refine ⟨hw, hcalls, hattended.places, fun handle' hmem => ?_, hattended.free⟩
        refine (List.mem_cons.mp (hattended.known handle' hmem)).resolve_left fun heq => hover ?_
        rw [← heq]
        exact List.contains_iff_mem.mpr hmem

/-- So does one that writes. -/
theorem Stands.writes (hS : S.Transactional staged applied) {t : Task τ}
    (h : Stands S staged applied earlier recorded (w, .writes t)) (m : Closing.Move) :
    Stands S staged applied earlier recorded (close S (w, .writes t) m) := by
  obtain ⟨htasks, hcalls, hqueue, h, config, hdrained, hbuffer, hstage⟩ := h
  cases m with
  | task n =>
    show Stands S staged applied earlier recorded (w.act S (.task n), .writes t)
    rw [act_task_of_empty hqueue]
    exact ⟨htasks, hcalls, hqueue, h, config, hdrained, hbuffer, hstage⟩
  | goOn config' =>
    have hflush := flush_of_buffer (S := S) hbuffer config
    unfold Handler.persist at hflush
    have hback := (Handler.flush_spec hS config h).1.trans hdrained.queue
    rcases hstage with ⟨rfl, hhandler⟩ | ⟨p, rfl, hprepare⟩
    · have hquiet := (Handler.prepare_spec hS h.buffer config { h with buffer := [] }).1
      unfold close
      dsimp only
      rw [hhandler]
      cases hprepare : { h with buffer := [] }.prepare S h.buffer config with
      | mk result h' =>
        rw [hprepare] at hflush hquiet
        cases result with
        | ok p =>
          obtain ⟨s, env, j, rfl, -⟩ := hquiet
          exact ⟨htasks, hcalls, hdrained.queue, h, config, hdrained, hbuffer,
            .inr ⟨p, rfl, hprepare⟩⟩
        | error e =>
          rw [hflush] at hback
          exact ⟨htasks, hcalls, hback, h, config, hdrained, hflush⟩
    · rw [hprepare] at hflush
      rw [hflush] at hback
      exact ⟨htasks, hcalls, hback, h, config, hdrained, hflush⟩

/-- Whatever happens during a shutdown, it stands as it should. -/
theorem close_stands (hS : S.Transactional staged applied) {x : Watched σ τ × Closing τ}
    (h : Stands S staged applied earlier recorded x) (m : Closing.Move) :
    Stands S staged applied earlier recorded (close S x m) := by
  obtain ⟨w, c⟩ := x
  cases c with
  | awaits handles => exact h.awaits hS m
  | writes t => exact h.writes hS m
  | returned result =>
    cases m with
    | task n =>
      show Stands S staged applied earlier recorded (w.act S (.task n), .returned result)
      rw [act_task_of_empty h.2.2.1]
      exact h
    | goOn config => exact h

theorem closeAll_stands (hS : S.Transactional staged applied) (moves : List Closing.Move)
    {x : Watched σ τ × Closing τ} (h : Stands S staged applied earlier recorded x) :
    Stands S staged applied earlier recorded (closeAll S moves x) := by
  induction moves generalizing x with
  | nil => exact h
  | cons m moves ih => exact ih (close_stands hS h m)

/-! ## Shutdowns return -/

end Watched

namespace Handler

variable {S : Store σ τ}

/-! What waits in the background does not matter to a transaction. -/

theorem giveUp_queue (t : τ) (h : Handler σ τ) (q : List (Task τ)) :
    { h with queue := q }.giveUp S t = { h.giveUp S t with queue := q } := by
  unfold giveUp
  dsimp only
  split <;> rfl

theorem sweepWithin_queue (config : Config) (now : Timestamp) (t : τ) (h : Handler σ τ)
    (q : List (Task τ)) :
    { h with queue := q }.sweepWithin S config now t =
      ((h.sweepWithin S config now t).1, { (h.sweepWithin S config now t).2 with queue := q }) := by
  unfold sweepWithin
  dsimp only
  split
  · rfl
  · rw [← giveUp_queue]

theorem prepare_queue (events : List EventRecord) (config : Config) (h : Handler σ τ)
    (q : List (Task τ)) :
    { h with queue := q }.prepare S events config =
      ((h.prepare S events config).1, { (h.prepare S events config).2 with queue := q }) := by
  unfold prepare
  dsimp only
  split
  · rfl
  next t s hstart =>
    split
    · rw [← giveUp_queue]
    next n t' s' hinsert =>
      have hsweep := sweepWithin_queue (S := S) config
        (({ h with store := s' } : Handler σ τ).now).1 t'
        (({ h with store := s' } : Handler σ τ).now).2 q
      have hnow : { h with store := s', queue := q }.now =
          (({ h with store := s' } : Handler σ τ).now.1,
            { ({ h with store := s' } : Handler σ τ).now.2 with queue := q }) := rfl
      rw [hnow]
      dsimp only
      rw [hsweep]
      rcases ({ h with store := s' } : Handler σ τ).now.2.sweepWithin S config
        ({ h with store := s' } : Handler σ τ).now.1 t' with ⟨_ | ⟨swept, t''⟩, h'⟩
      · rfl
      · rfl

theorem finish_queue (p : Prepared τ) (h : Handler σ τ) (q : List (Task τ)) :
    { h with queue := q }.finish S p =
      ((h.finish S p).1, { (h.finish S p).2 with queue := q }) := by
  unfold finish
  dsimp only
  split <;> rfl

theorem turn_queue (t : Task τ) (h : Handler σ τ) (q : List (Task τ)) :
    { h with queue := q }.turn S t = ((h.turn S t).1, { (h.turn S t).2 with queue := q }) := by
  cases t with
  | taken events config =>
    unfold turn
    dsimp only
    rw [prepare_queue]
    rcases h.prepare S events config with ⟨_ | p, h'⟩ <;> rfl
  | prepared p =>
    unfold turn
    dsimp only
    rw [finish_queue]
    rcases h.finish S p with ⟨_ | report, h'⟩ <;> rfl

/-- All turns of a generation, one after the other. -/
def conclude (S : Store σ τ) (h : Handler σ τ) :
    Task τ → Except HandlerError FlushReport × Handler σ τ
  | .taken events config => h.persist S events config
  | .prepared p => h.finish S p

/-- Where the store holds nothing back, that is what the background does with a generation. -/
theorem advance_eq_conclude (hready : ∀ t s, S.ready t s = true) (h : Handler σ τ) (t : Task τ) :
    h.advance S t = (h.conclude S t).2 := by
  have hproceed : ∀ p (h : Handler σ τ), h.proceed S p = (h.finish S p).2 := fun p h =>
    if_pos (hready _ _)
  cases t with
  | taken events config =>
    simp only [advance, conclude, persist, hproceed]
    rcases h.prepare S events config with ⟨_ | p, h'⟩ <;> rfl
  | prepared p => exact hproceed p h

theorem conclude_queue (t : Task τ) (h : Handler σ τ) (q : List (Task τ)) :
    { h with queue := q }.conclude S t =
      ((h.conclude S t).1, { (h.conclude S t).2 with queue := q }) := by
  cases t with
  | taken events config =>
    simp only [conclude, persist, prepare_queue]
    rcases h.prepare S events config with ⟨e | p, h'⟩
    · rfl
    · simp only [finish_queue]
  | prepared p => simp only [conclude, finish_queue]

end Handler

namespace Watched

variable {S : Store σ τ} {staged : τ → List EventRecord} {applied : σ → List EventRecord}
  {earlier recorded : List EventRecord} {w : Watched σ τ}

/-- A turn of the first task. -/
theorem act_task_zero {t : Task τ} {rest : List (Task τ)} (hw : w.handler.queue = t :: rest) :
    (w.act S (.task 0)).handler = { (w.handler.turn S t).2 with
      queue := (w.handler.turn S t).1.remaining ++ rest } := by
  have hqueue : (w.handler.turn S t).2.queue = t :: rest := by
    have hframe := Handler.turn_queue (S := S) t w.handler (t :: rest)
    have hself : { w.handler with queue := t :: rest } = w.handler := by rw [← hw]
    rw [hself] at hframe
    rw [hframe]
  have hreplace : (w.handler.turn S t).1.replaceIn 0 (t :: rest) =
      (w.handler.turn S t).1.remaining ++ rest := by
    cases (w.handler.turn S t).1 <;> rfl
  rw [← hreplace, ← hqueue, toConcurrent_act]
  unfold Concurrent.act
  dsimp only
  rw [hw]
  rfl

/-- The first task, by itself, takes its turns to its end. -/
theorem exists_concluded (c : Closing τ) {t : Task τ} {rest : List (Task τ)}
    (hw : w.handler.queue = t :: rest) :
    ∃ moves w', closeAll S moves (w, c) = (w', c) ∧
      w'.handler = { (w.handler.conclude S t).2 with queue := rest } := by
  have hfinish : ∀ (p : Prepared τ) (w : Watched σ τ), w.handler.queue = .prepared p :: rest →
      (w.act S (.task 0)).handler = { (w.handler.finish S p).2 with queue := rest } := by
    intro p w hw
    rw [act_task_zero hw]
    unfold Handler.turn
    dsimp only
    rcases w.handler.finish S p with ⟨_ | report, h'⟩ <;> rfl
  cases t with
  | prepared p => exact ⟨[.task 0], w.act S (.task 0), rfl, hfinish p w hw⟩
  | taken events config =>
    have hfirst := act_task_zero (S := S) hw
    unfold Handler.turn at hfirst
    cases hprepare : w.handler.prepare S events config with
    | mk result h' =>
      simp only [hprepare] at hfirst
      cases result with
      | error e =>
        refine ⟨[.task 0], w.act S (.task 0), rfl, ?_⟩
        rw [hfirst, Handler.conclude, Handler.persist, hprepare]
        rfl
      | ok p =>
        have hstaged : (w.act S (.task 0)).handler =
            { h' with queue := .prepared p :: rest } := hfirst
        refine ⟨[.task 0, .task 0], (w.act S (.task 0)).act S (.task 0), rfl, ?_⟩
        rw [hfinish p _ (congrArg Handler.queue hstaged), hstaged, Handler.finish_queue,
          Handler.conclude, Handler.persist, hprepare]

/-- All tasks, one after the other, take their turns to their ends. -/
theorem exists_allConcluded (c : Closing τ) (tasks : List (Task τ))
    (hw : w.handler.queue = tasks) :
    ∃ moves w', closeAll S moves (w, c) = (w', c) ∧ w'.handler.queue = [] ∧
      w'.handler = tasks.foldl (fun h t => (h.conclude S t).2) { w.handler with queue := [] } := by
  induction tasks generalizing w with
  | nil =>
    refine ⟨[], w, rfl, hw, ?_⟩
    rw [List.foldl_nil, ← hw]
  | cons t rest ih =>
    obtain ⟨first, w₁, hfirst, hhandler⟩ := exists_concluded (S := S) c hw
    obtain ⟨later, w₂, hlater, hempty, hhandler'⟩ := ih (congrArg Handler.queue hhandler)
    refine ⟨first ++ later, w₂, ?_, hempty, ?_⟩
    · rw [closeAll, List.foldl_append]
      exact (congrArg (closeAll S later) hfirst).trans hlater
    · rw [hhandler', hhandler, List.foldl_cons, Handler.conclude_queue t w.handler []]

/-- A shutdown that writes comes to the end of its transaction. -/
theorem exists_written (w : Watched σ τ) (t : Task τ) :
    ∃ moves w', closeAll S moves (w, .writes t) = (w', .returned (w.handler.conclude S t).1) ∧
      w'.handler = (w.handler.conclude S t).2 := by
  cases t with
  | prepared p => exact ⟨[.goOn {}], { w with handler := (w.handler.finish S p).2 }, rfl, rfl⟩
  | taken events config =>
    rw [Handler.conclude, Handler.persist]
    cases hprepare : w.handler.prepare S events config with
    | mk result h =>
      cases result with
      | error e =>
        refine ⟨[.goOn {}], { w with handler := (h.fail S events e).2 }, ?_, rfl⟩
        simp only [closeAll, List.foldl_cons, List.foldl_nil, close, hprepare]
      | ok p =>
        refine ⟨[.goOn {}, .goOn {}], { w with handler := (h.finish S p).2 }, ?_, rfl⟩
        simp only [closeAll, List.foldl_cons, List.foldl_nil, close, hprepare]

/-- With every task at its end, a shutdown goes past the handles and flushes. -/
theorem exists_flushed (config : Config) (htasks : w.tasks = []) (handles : List Nat) :
    ∃ moves w', closeAll S moves (w, .awaits handles) =
        (w', .returned (w.handler.flush S config).1) ∧
      w'.handler = (w.handler.flush S config).2 := by
  induction handles with
  | cons handle handles ih =>
    obtain ⟨moves, w', hmoves, hhandler⟩ := ih
    have hpast : close S (w, .awaits (handle :: handles)) (.goOn config) =
        (w, .awaits handles) := by
      unfold close
      dsimp only
      rw [htasks]
      rfl
    exact ⟨.goOn config :: moves, w', (congrArg (closeAll S moves) hpast).trans hmoves, hhandler⟩
  | nil =>
    have htaken : close S (w, .awaits []) (.goOn config) =
        ({ w with handler := { w.handler with buffer := [] } },
          if w.handler.buffer.isEmpty then .returned (.ok {})
          else .writes (.taken w.handler.buffer config)) := rfl
    by_cases hbuffer : w.handler.buffer = []
    · have hflush : w.handler.flush S config = (.ok {}, { w.handler with buffer := [] }) :=
        if_pos (List.isEmpty_iff.mpr hbuffer)
      rw [hflush]
      rw [if_pos (List.isEmpty_iff.mpr hbuffer)] at htaken
      exact ⟨[.goOn config], _, htaken, rfl⟩
    · rw [if_neg (by simpa using hbuffer)] at htaken
      obtain ⟨moves, w', hmoves, hhandler⟩ := exists_written (S := S)
        { w with handler := { w.handler with buffer := [] } } (.taken w.handler.buffer config)
      rw [flush_of_buffer hbuffer]
      exact ⟨.goOn config :: moves, w', (congrArg (closeAll S moves) htaken).trans hmoves, hhandler⟩

/-- However far a shutdown has come, the tasks can take their turns so that it waits for none. -/
theorem exists_waited (hS : S.Transactional staged applied) {handles : List Nat}
    (h : Stands S staged applied earlier recorded (w, .awaits handles)) :
    ∃ moves w', closeAll S moves (w, .awaits handles) = (w', .awaits handles) ∧ w'.tasks = [] ∧
      w'.handler = w.handler.queue.foldl (fun h t => (h.conclude S t).2)
        { w.handler with queue := [] } := by
  obtain ⟨moves, w', hmoves, hempty, hhandler⟩ :=
    exists_allConcluded (S := S) (w := w) (.awaits handles) w.handler.queue rfl
  have hstands := closeAll_stands hS moves h
  rw [hmoves] at hstands
  obtain ⟨-, -, hattended⟩ := hstands
  refine ⟨moves, w', hmoves, ?_, hhandler⟩
  rw [← List.length_eq_zero_iff, hattended.places, hempty, List.length_nil]

/-- If the tasks run by themselves, one after the other, and the store holds nothing back, then
shutting down is `Handler.shutdown`. -/
theorem exists_shutdown (hS : S.Transactional staged applied) (hready : ∀ t s, S.ready t s = true)
    (config : Config) (h : Stands S staged applied earlier recorded w.shutdown) :
    ∃ moves w', closeAll S moves w.shutdown = (w', .returned (w.handler.shutdown S config).1) ∧
      w'.handler = (w.handler.shutdown S config).2 := by
  obtain ⟨waiting, w₁, hwaiting, htasks, hhandler⟩ := exists_waited hS h
  have hadvance : Handler.advance S = fun h t => (h.conclude S t).2 := by
    funext h t
    exact Handler.advance_eq_conclude hready h t
  have hrun : w₁.handler = w.handler.runQueue S := by
    rw [hhandler, Handler.runQueue, hadvance]
  obtain ⟨flushing, w₂, hflushing, hhandler'⟩ := exists_flushed (S := S) config htasks w.kept
  rw [hrun] at hflushing hhandler'
  refine ⟨waiting ++ flushing, w₂, ?_, hhandler'⟩
  rw [closeAll, List.foldl_append]
  exact (congrArg (closeAll S flushing) hwaiting).trans hflushing

/-- A shutdown never gets stuck. -/
theorem exists_returned (hS : S.Transactional staged applied) {x : Watched σ τ × Closing τ}
    (h : Stands S staged applied earlier recorded x) :
    ∃ moves w result, closeAll S moves x = (w, .returned result) := by
  obtain ⟨w, c⟩ := x
  cases c with
  | awaits handles =>
    obtain ⟨waiting, w₁, hwaiting, htasks, -⟩ := exists_waited hS h
    obtain ⟨flushing, w₂, hflushing, -⟩ := exists_flushed (S := S) {} htasks handles
    refine ⟨waiting ++ flushing, w₂, (w₁.handler.flush S {}).1, ?_⟩
    rw [closeAll, List.foldl_append]
    exact (congrArg (closeAll S flushing) hwaiting).trans hflushing
  | writes t =>
    obtain ⟨moves, w', hmoves, -⟩ := exists_written (S := S) w t
    exact ⟨moves, w', _, hmoves⟩
  | returned result => exact ⟨[], w, result, rfl⟩

/-! ## The shutdown of a handler in use -/

/-- A shutdown that is called while no call is on its way stands as it should. -/
theorem shutdown_stands (hS : S.Transactional staged applied) (contents : σ) (env : Surroundings)
    (moves : List Move) (hidle : (run S moves (start contents env)).Idle) :
    Stands S staged applied (applied contents) (moves.flatMap Move.recorded)
      (run S moves (start contents env)).shutdown := by
  have hstart : (start contents env : Watched σ τ).Attended [] := ⟨rfl, nofun, rfl⟩
  obtain ⟨hw, hattended⟩ := run_attended hS moves (w := start contents env)
    (Concurrent.start_accounted contents env) hstart
  rw [hidle.2, List.nil_append] at hattended
  exact ⟨hw, hidle.1, hattended.places, hattended.known, hattended.free⟩

/-- **A shutdown is complete.** After any run of calls by any callers, none of which is on its way
any more, whichever transactions fail and in whatever order the tasks in the background come to
their ends before and during the shutdown: the shutdown can return, and once it has, no generation
is on its way and no task is left; every recorded event is in the buffer or in a committed
generation, as often as it was recorded; and if the shutdown succeeded, the buffer is empty. -/
theorem shutdown_complete (hS : S.Transactional staged applied) (contents : σ) (env : Surroundings)
    (moves : List Move) (closing : List Closing.Move)
    (hidle : (run S moves (start contents env)).Idle) :
    let x := closeAll S closing (run S moves (start contents env)).shutdown
    (∃ more w result, closeAll S more x = (w, .returned result)) ∧
      ∀ result, x.2 = .returned result →
        x.1.inFlight = [] ∧ x.1.tasks = [] ∧ ∃ committed,
          applied x.1.handler.store = applied contents ++ committed ∧
          (moves.flatMap Move.recorded : Multiset EventRecord) =
            ↑x.1.handler.buffer + ↑committed ∧
          (result.isOk = true → x.1.handler.buffer = []) := by
  intro x
  have hx : Stands S staged applied (applied contents) (moves.flatMap Move.recorded) x :=
    closeAll_stands hS closing (shutdown_stands hS contents env moves hidle)
  refine ⟨exists_returned hS hx, fun result hresult => ?_⟩
  obtain ⟨w, c⟩ := x
  obtain rfl : c = .returned result := hresult
  obtain ⟨htasks, hcalls, hqueue, h, config, hdrained, hflush⟩ := hx
  obtain ⟨committed, happlied, hrecorded⟩ := hdrained.account
  obtain ⟨-, hheld, hended⟩ := Handler.flush_spec hS config h
  rw [hflush] at hheld hended
  have hflight : w.inFlight = [] := by
    rw [Concurrent.inFlight, hcalls, hqueue, hheld.trans hdrained.held]
    rfl
  refine ⟨hflight, htasks, ?_⟩
  rcases hended with ⟨report, -, hbuffer, hs⟩ | ⟨error, rfl, hbuffer, hs⟩
  · refine ⟨committed ++ h.buffer, ?_, ?_, fun _ => hbuffer⟩
    · rw [hs, happlied, List.append_assoc]
    · rw [hbuffer, hrecorded, ← Multiset.coe_add, Multiset.coe_nil, zero_add, add_comm]
  · exact ⟨committed, hs.trans happlied, by rw [hbuffer, hrecorded],
      fun hok => absurd hok Bool.false_ne_true⟩

/-- Two generations go to the background, and the second one is staged before its handle is handed
in. -/
def spawnedTwo : List Move :=
  let config : Config := { handler := { batch := 1, background := true } }
  [.act (.push (Concurrent.numbered 1)), .act (.check config), .handIn 0,
    .act (.push (Concurrent.numbered 2)), .act (.check config), .act (.task 1), .handIn 0]

/-- The commit of the second generation is refused while the shutdown waits for the first one, so
that the shutdown finds its event in the buffer. -/
def refusedWhileWaiting : List Closing.Move :=
  [.goOn {}, .task 1, .task 0, .goOn {}, .task 0] ++ List.replicate 5 (.goOn {})

theorem shutdown_complete_refusedWhileWaiting :
    let S := (Faulty.store MemoryStore.store).logged
    let w := run S spawnedTwo (start Concurrent.refusingOnce ⟨0, ⟨0, 0⟩⟩)
    let x := closeAll S refusedWhileWaiting w.shutdown
    S.Transactional Prod.snd Prod.snd ∧ w.Idle ∧ w.tasks = [0, 1] ∧
      x.2 = .returned (.ok ⟨1, {}⟩) ∧ x.1.handler.failures = 1 ∧
      x.1.handler.store.2 = [Concurrent.numbered 1, Concurrent.numbered 2] ∧
      (∃ more w result, closeAll S more x = (w, .returned result)) ∧
      ∀ result, x.2 = .returned result →
        x.1.inFlight = [] ∧ x.1.tasks = [] ∧ ∃ committed,
          x.1.handler.store.2 = Concurrent.refusingOnce.2 ++ committed ∧
          (spawnedTwo.flatMap Move.recorded : Multiset EventRecord) =
            ↑x.1.handler.buffer + ↑committed ∧
          (result.isOk = true → x.1.handler.buffer = []) :=
  ⟨Store.logged_transactional _, ⟨rfl, rfl⟩, by decide, rfl, by decide, by decide,
    shutdown_complete (Store.logged_transactional _) Concurrent.refusingOnce ⟨0, ⟨0, 0⟩⟩ spawnedTwo
      refusedWhileWaiting ⟨rfl, rfl⟩⟩

end Watched

end AuditTrail
