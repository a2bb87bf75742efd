import AuditTrail.Proofs.Handler.Interleaving

/-
  A handler in use, with the handles of its background tasks. Every task that goes to the background
  has a handle, which the call that spawned it hands in a little later; whenever one is handed in,
  those of finished tasks are dropped (`Watched.handIn`).

  What is kept suffices: the handle of a task that is not at its end yet is kept, or it is on its
  way (`Attended`). Every part of a call leaves that so, and handing in does too (`run_attended`).
-/
namespace AuditTrail

variable {σ τ : Type}

/-- A handler in use with the handles of its background tasks. -/
structure Watched (σ τ : Type) extends Concurrent σ τ where
  /-- The handles of the generations in the background, each at the place of its generation. -/
  tasks : List Nat := []
  /-- How many tasks have been spawned so far. -/
  spawned : Nat := 0
  /-- The handles that the calls that spawned them have yet to hand in. -/
  arriving : List Nat := []
  /-- The handles that were handed in. -/
  kept : List Nat := []

/-- Whether a part of a call may bring generations to the background or take them from there. -/
def Act.movesBackground : Act → Bool
  | .check _ => true
  | .task _ => true
  | _ => false

/-- What happens at once at a watched handler. -/
inductive Watched.Move where
  | act (a : Act)
  /-- A call hands in the handle at a place of those that arrive. -/
  | handIn (n : Nat)

/-- The events recorded by a move. -/
def Watched.Move.recorded : Watched.Move → List EventRecord
  | .act a => a.recorded
  | .handIn _ => []

namespace Watched

/-- Takes one part of a call. A generation that is new in the background gets the next handle, and
the handle of one that came to its end is no task's any more. -/
def act (S : Store σ τ) (w : Watched σ τ) (a : Act) : Watched σ τ :=
  let c := w.toConcurrent.act S a
  match a with
  | .check _ =>
    if c.handler.queue.length = w.handler.queue.length then { w with toConcurrent := c }
    else { w with
      toConcurrent := c
      tasks := w.tasks ++ [w.spawned]
      spawned := w.spawned + 1
      arriving := w.arriving ++ [w.spawned] }
  | .task n =>
    if c.handler.queue.length = w.handler.queue.length then { w with toConcurrent := c }
    else { w with toConcurrent := c, tasks := w.tasks.eraseIdx n }
  | _ => { w with toConcurrent := c }

/-- Hands in a handle, and drops those of finished tasks. -/
def handIn (n : Nat) (w : Watched σ τ) : Watched σ τ :=
  match w.arriving[n]? with
  | none => w
  | some handle => { w with
      arriving := w.arriving.eraseIdx n
      kept := w.kept.filter (w.tasks.contains ·) ++ [handle] }

def move (S : Store σ τ) (w : Watched σ τ) : Move → Watched σ τ
  | .act a => w.act S a
  | .handIn n => w.handIn n

def run (S : Store σ τ) (moves : List Move) (w : Watched σ τ) : Watched σ τ :=
  moves.foldl (move S) w

/-- A new handler. -/
def start (contents : σ) (env : Surroundings) : Watched σ τ :=
  { toConcurrent := Concurrent.start contents env }

/-- No call is on its way. -/
def Idle (w : Watched σ τ) : Prop := w.calls = [] ∧ w.arriving = []

instance (w : Watched σ τ) : Decidable w.Idle := inferInstanceAs (Decidable (_ ∧ _))

variable {S : Store σ τ} {staged : τ → List EventRecord} {applied : σ → List EventRecord}
  {earlier recorded : List EventRecord} {w : Watched σ τ}

/-! ## Tasks and their handles -/

theorem toConcurrent_act (S : Store σ τ) (w : Watched σ τ) (a : Act) :
    (w.act S a).toConcurrent = w.toConcurrent.act S a := by
  cases a with
  | check config =>
    unfold act
    dsimp only
    split <;> rfl
  | task n =>
    unfold act
    dsimp only
    split <;> rfl
  | _ => rfl

/-- Looking for a batch spawns one task at most. -/
theorem check_frame (c : Concurrent σ τ) (config : Config) :
    (c.act S (.check config)).handler.held = c.handler.held ∧
      ((c.act S (.check config)).handler.queue.length = c.handler.queue.length ∨
        (c.act S (.check config)).handler.queue.length = c.handler.queue.length + 1) := by
  unfold Concurrent.act Handler.takeIfDue
  dsimp only
  by_cases hdue : c.handler.buffer.length < Handler.threshold config
  · rw [if_pos hdue]
    exact ⟨rfl, .inl rfl⟩
  · rw [if_neg hdue]
    dsimp only [Handler.takeAll, Handler.enqueue]
    split
    · exact ⟨rfl, .inr List.length_append⟩
    · exact ⟨rfl, .inl rfl⟩

/-- A turn of a task ends one task at most, and that is the one that had the turn. -/
theorem task_frame (hS : S.Transactional staged applied) {c : Concurrent σ τ}
    (hc : c.Accounted staged applied earlier recorded) (n : Nat) :
    (c.act S (.task n)).handler.held = c.handler.held ∧
      ((c.act S (.task n)).handler.queue.length = c.handler.queue.length ∨
        n < c.handler.queue.length ∧
          (c.act S (.task n)).handler.queue.length = c.handler.queue.length - 1) := by
  unfold Concurrent.act
  dsimp only
  cases ht : c.handler.queue[n]? with
  | none => exact ⟨rfl, .inl rfl⟩
  | some t =>
    have hmem : t ∈ c.inFlight := by simp [Concurrent.inFlight, List.mem_of_getElem? ht]
    obtain ⟨hqueue, hheld⟩ := turn_frame hS c.handler (hc.staged t hmem)
    obtain ⟨hn, -⟩ := List.getElem?_eq_some_iff.mp ht
    dsimp only
    rw [hqueue]
    refine ⟨hheld, ?_⟩
    cases (c.handler.turn S t).1 with
    | goesOn t' => exact .inl List.length_set
    | ends g => exact .inr ⟨hn, List.length_eraseIdx_of_lt hn⟩

/-- The other parts of calls leave the background alone. -/
theorem act_frame (hS : S.Transactional staged applied) {c : Concurrent σ τ}
    (hc : c.Accounted staged applied earlier recorded) {a : Act} (ha : a.movesBackground = false) :
    (c.act S a).handler.held = c.handler.held ∧ (c.act S a).handler.queue = c.handler.queue := by
  cases a with
  | push e => exact ⟨rfl, rfl⟩
  | check config => cases ha
  | swap config =>
    unfold Concurrent.act
    dsimp only [Handler.takeAll]
    split <;> exact ⟨rfl, rfl⟩
  | call n =>
    unfold Concurrent.act
    dsimp only
    cases ht : c.calls[n]? with
    | none => exact ⟨rfl, rfl⟩
    | some t =>
      have hmem : t ∈ c.inFlight := by simp [Concurrent.inFlight, List.mem_of_getElem? ht]
      exact (turn_frame hS c.handler (hc.staged t hmem)).symm
  | task n => cases ha
  | sweep config now =>
    obtain ⟨s, env, j, hsame, -⟩ := Handler.sweepExpired_spec hS config now c.handler
    unfold Concurrent.act
    dsimp only
    rw [hsame]
    exact ⟨rfl, rfl⟩

/-- Every task in the background has a handle among some. -/
structure Attended (handles : List Nat) (w : Watched σ τ) : Prop where
  places : w.tasks.length = w.handler.queue.length
  known : ∀ h ∈ w.tasks, h ∈ handles
  free : w.handler.held = []

theorem Attended.unmoved {handles : List Nat} (h : w.Attended handles) {c : Concurrent σ τ}
    (hc : c.handler.held = w.handler.held ∧ c.handler.queue = w.handler.queue) :
    { w with toConcurrent := c }.Attended handles :=
  ⟨h.places.trans (congrArg List.length hc.2).symm, h.known, hc.1.trans h.free⟩

/-- A turn of a task brings no new handle. -/
theorem Attended.task (hS : S.Transactional staged applied)
    (hw : w.toConcurrent.Accounted staged applied earlier recorded) {handles : List Nat}
    (h : w.Attended handles) (n : Nat) : (w.act S (.task n)).Attended handles := by
  obtain ⟨hheld, hqueue⟩ := task_frame hS hw n
  have hfree : (w.toConcurrent.act S (.task n)).handler.held = [] := hheld.trans h.free
  have hplaces := h.places
  unfold act
  dsimp only
  split
  next hsame => exact ⟨hplaces.trans hsame.symm, h.known, hfree⟩
  next hless =>
    obtain ⟨hn, hqueue⟩ := hqueue.resolve_left hless
    refine ⟨?_, fun handle hmem => h.known handle (List.mem_of_mem_eraseIdx hmem), hfree⟩
    show (w.tasks.eraseIdx n).length = _
    rw [List.length_eraseIdx_of_lt (by omega), hplaces, hqueue]

/-- While calls go on, a task's handle is kept, or on its way. -/
theorem Attended.act (hS : S.Transactional staged applied)
    (hw : w.toConcurrent.Accounted staged applied earlier recorded)
    (h : w.Attended (w.arriving ++ w.kept)) (a : Act) :
    (w.act S a).Attended ((w.act S a).arriving ++ (w.act S a).kept) := by
  cases a with
  | check config =>
    obtain ⟨hheld, hqueue⟩ := check_frame (S := S) w.toConcurrent config
    have hfree := hheld.trans h.free
    have hplaces := h.places
    unfold Watched.act
    dsimp only
    split
    next hsame => exact ⟨hplaces.trans hsame.symm, h.known, hfree⟩
    next hmore =>
      refine ⟨?_, fun handle hmem => ?_, hfree⟩
      · show (w.tasks ++ [w.spawned]).length = _
        rw [List.length_append, hqueue.resolve_left hmore, hplaces, List.length_singleton]
      · have hknown := h.known handle
        simp only [List.mem_append, List.mem_singleton] at hmem hknown ⊢
        tauto
  | task n =>
    have htask := h.task hS hw n
    have hsame : (w.act S (.task n)).arriving = w.arriving ∧ (w.act S (.task n)).kept = w.kept := by
      unfold Watched.act
      dsimp only
      split <;> exact ⟨rfl, rfl⟩
    rw [hsame.1, hsame.2]
    exact htask
  | push e => exact h.unmoved (act_frame hS hw (a := .push e) rfl)
  | swap config => exact h.unmoved (act_frame hS hw (a := .swap config) rfl)
  | call n => exact h.unmoved (act_frame hS hw (a := .call n) rfl)
  | sweep config now => exact h.unmoved (act_frame hS hw (a := .sweep config now) rfl)

/-- Handing a handle in drops none that a task has. -/
theorem Attended.handIn (h : w.Attended (w.arriving ++ w.kept)) (n : Nat) :
    (w.handIn n).Attended ((w.handIn n).arriving ++ (w.handIn n).kept) := by
  unfold Watched.handIn
  cases ht : w.arriving[n]? with
  | none => exact h
  | some handle =>
    obtain ⟨hn, rfl⟩ := List.getElem?_eq_some_iff.mp ht
    refine ⟨h.places, fun handle hmem => ?_, h.free⟩
    have hperm := (List.getElem_cons_eraseIdx_perm hn).mem_iff (a := handle)
    have hknown := h.known handle hmem
    have htask : w.tasks.contains handle = true := List.contains_iff_mem.mpr hmem
    simp only [List.mem_append, List.mem_cons, List.mem_filter, htask, and_true] at hperm hknown ⊢
    tauto

/-- What holds of a watched handler while calls go on. -/
theorem run_attended (hS : S.Transactional staged applied) (moves : List Move)
    (hw : w.toConcurrent.Accounted staged applied earlier recorded)
    (h : w.Attended (w.arriving ++ w.kept)) :
    (run S moves w).toConcurrent.Accounted staged applied earlier
        (recorded ++ moves.flatMap Move.recorded) ∧
      (run S moves w).Attended ((run S moves w).arriving ++ (run S moves w).kept) := by
  induction moves generalizing w recorded with
  | nil => exact ⟨by simpa [run] using hw, h⟩
  | cons m moves ih =>
    have hmove : (w.move S m).toConcurrent.Accounted staged applied earlier
          (recorded ++ m.recorded) ∧
        (w.move S m).Attended ((w.move S m).arriving ++ (w.move S m).kept) := by
      cases m with
      | act a =>
        refine ⟨?_, h.act hS hw a⟩
        have hact := Concurrent.act_accounted hS hw a
        rwa [← toConcurrent_act] at hact
      | handIn n =>
        refine ⟨?_, h.handIn n⟩
        have hsame : (w.handIn n).toConcurrent = w.toConcurrent := by
          unfold handIn
          split <;> rfl
        rw [Move.recorded, List.append_nil]
        show (w.handIn n).toConcurrent.Accounted staged applied earlier recorded
        rwa [hsame]
    rw [List.flatMap_cons, ← List.append_assoc]
    exact ih hmove.1 hmove.2

end Watched

end AuditTrail
