import AuditTrail.Retention
import AuditTrail.Store.Faulty
import AuditTrail.Store.Memory

/-
  What is asked of a store. `Store.traced` is a store that does what another one does and keeps,
  beside its contents, every call that was made on a transaction, in order, with the number of the
  transaction and whether the call succeeded. From such a trace it can be read off how each
  transaction was conducted (`Trace.Conducted`) and which generations were committed
  (`Trace.committed`).

  Of the store behind it only this is relied on: that nothing but a commit that succeeds changes
  what it holds (`Store.ChangesByCommit`), as it is with the store in memory and with any such store
  behind failures. `Progress` is what calls do that leave a transaction open or give it up, and
  `Attempt` what is left by one transaction from its start to its end.
-/
namespace AuditTrail

variable {σ τ κ : Type}

/-! ## Contents -/

/-- Only a commit that succeeds changes the contents of a store. -/
structure Store.ChangesByCommit (S : Store σ τ) (contents : σ → κ) : Prop where
  start (s : σ) : contents (S.start s).2 = contents s
  insert (events : List EventRecord) (t : τ) (s : σ) :
    contents (S.insert events t s).2.2 = contents s
  delete (c : Category) (cutoff : Timestamp) (t : τ) (s : σ) :
    contents (S.deleteBefore c cutoff t s).2.2 = contents s
  refused {t : τ} {s s' : σ} {e : StoreError} :
    S.commit t s = (.error e, s') → contents s' = contents s
  rollback (t : τ) (s : σ) : contents (S.rollback t s).2 = contents s

theorem MemoryStore.changesByCommit : MemoryStore.store.ChangesByCommit MemoryStore.archive where
  start _ := rfl
  insert _ _ _ := rfl
  delete _ _ _ _ := rfl
  refused h := by simp [store] at h
  rollback _ _ := rfl

namespace Faulty

variable {S : Store σ τ} {contents : σ → κ}

/-- A stage keeps the contents if it does so when it does not fail on demand. -/
theorem attempt_contents {α : Type} (contents : σ → κ) (stage : Stage) (s : Faulty σ)
    (refused : StoreError → α) {run : Faulty σ → α × Faulty σ}
    (hrun : contents (run s).2.inner = contents s.inner) :
    contents (s.attempt stage refused run).2.inner = contents s.inner := by
  unfold attempt
  split
  next => exact hrun
  next => rfl

/-- Failures on demand change nothing themselves. -/
theorem changesByCommit (hS : S.ChangesByCommit contents) :
    (Faulty.store S).ChangesByCommit fun s => contents s.inner where
  start s := by
    refine attempt_contents contents .begin s Except.error ?_
    have hstart := hS.start s.inner
    split
    next t inner hs => rwa [hs] at hstart
    next e inner hs => rwa [hs] at hstart
  insert events t s := by
    simp only [store]
    exact attempt_contents contents .insert s _ (hS.insert events t.inner s.inner)
  delete c cutoff t s := by
    simp only [store]
    exact attempt_contents contents .delete s _ (hS.delete c cutoff t.inner s.inner)
  refused {t s s' e} h := by
    simp only [store, attempt] at h
    split at h
    next =>
      simp only [Prod.mk.injEq] at h
      obtain ⟨hresult, rfl⟩ := h
      exact hS.refused (Prod.ext hresult rfl)
    next =>
      simp only [Prod.mk.injEq] at h
      rw [← h.2, demand]
  rollback t s := attempt_contents contents .rollback s Except.error (hS.rollback t.inner s.inner)

end Faulty

/-! ## Traces -/

/-- What is asked of a transaction. -/
inductive StoreCall where
  | insert (events : List EventRecord)
  | delete (c : Category) (cutoff : Timestamp)
  | commit
  | rollback
  deriving DecidableEq

namespace StoreCall

/-- Whether a call ends its transaction. -/
def ends : StoreCall → Bool
  | .commit => true
  | .rollback => true
  | _ => false

/-- The events that are to be inserted. -/
def events : StoreCall → List EventRecord
  | .insert events => events
  | _ => []

end StoreCall

/-- A call on a transaction, which is known by its number, and whether it succeeded. -/
structure TraceEntry where
  transaction : Nat
  call : StoreCall
  succeeded : Bool
  deriving DecidableEq

/-- Calls on transactions, in order. -/
abbrev Trace := List TraceEntry

namespace Trace

/-- The calls on one transaction. -/
def on (n : Nat) (t : Trace) : Trace := t.filter (·.transaction == n)

/-- The events that a transaction inserted. -/
def inserted (n : Nat) (t : Trace) : List EventRecord :=
  ((t.on n).filter (·.succeeded)).flatMap (·.call.events)

/-- Whether a call is a commit that succeeded. -/
def isCommitted (e : TraceEntry) : Bool := e.call == .commit && e.succeeded

/-- What the committed transactions inserted, in the order of the commits. -/
def committed (t : Trace) : List (List EventRecord) :=
  (t.filter isCommitted).map fun e => t.inserted e.transaction

/-- The calls on a transaction that was gone through: the last one, and no other, is a commit or a
rollback, and a commit comes only after calls that succeeded. -/
def Conducted (t : Trace) : Prop :=
  ∃ steps last, t = steps ++ [last] ∧ (∀ e ∈ steps, e.call.ends = false) ∧ last.call.ends = true ∧
    (last.call = .commit → ∀ e ∈ steps, e.succeeded = true)

variable {t steps : Trace} {n : Nat}

theorem on_append (n : Nat) (t t' : Trace) : (t ++ t').on n = t.on n ++ t'.on n :=
  List.filter_append t t'

theorem on_self (h : ∀ e ∈ t, e.transaction = n) : t.on n = t :=
  List.filter_eq_self.mpr fun e he => beq_iff_eq.mpr (h e he)

theorem on_eq_nil (h : ∀ e ∈ t, e.transaction ≠ n) : t.on n = [] :=
  List.filter_eq_nil_iff.mpr fun e he => by simpa using h e he

/-- A new transaction does not change what was committed before it. -/
theorem committed_append (ht : ∀ e ∈ t, e.transaction < n)
    (hsteps : ∀ e ∈ steps, e.transaction = n) :
    (t ++ steps).committed = t.committed ++ steps.committed := by
  have hbefore : ∀ e ∈ t, (t ++ steps).inserted e.transaction = t.inserted e.transaction := by
    intro e he
    have hother : steps.on e.transaction = [] := by
      refine on_eq_nil fun e' he' heq => ?_
      have := ht e he
      have := hsteps e' he'
      omega
    rw [inserted, on_append, hother, List.append_nil, inserted]
  have hnew : ∀ e ∈ steps, (t ++ steps).inserted e.transaction = steps.inserted e.transaction := by
    intro e he
    have hother : t.on e.transaction = [] := by
      refine on_eq_nil fun e' he' heq => ?_
      have := ht e' he'
      have := hsteps e he
      omega
    rw [inserted, on_append, hother, List.nil_append, inserted]
  unfold committed
  rw [List.filter_append, List.map_append]
  congr 1
  · exact List.map_congr_left fun e he => hbefore e (List.mem_filter.mp he).1
  · exact List.map_congr_left fun e he => hnew e (List.mem_filter.mp he).1

/-- Calls that do not end their transaction commit nothing. -/
theorem committed_of_open (h : ∀ e ∈ t, e.call.ends = false) : t.filter isCommitted = [] := by
  refine List.filter_eq_nil_iff.mpr fun e he hcommitted => ?_
  have hopen := h e he
  rw [isCommitted, Bool.and_eq_true, beq_iff_eq] at hcommitted
  rw [hcommitted.1] at hopen
  cases hopen

end Trace

/-- The contents of a store with how many transactions were started and all calls on them. -/
structure Traced (σ : Type) where
  inner : σ
  started : Nat := 0
  trace : Trace := []

/-- A transaction with its number. -/
structure Numbered (τ : Type) where
  inner : τ
  number : Nat

namespace Traced

/-- The contents after a call. -/
def note (n : Nat) (call : StoreCall) (succeeded : Bool) (inner : σ) (s : Traced σ) : Traced σ :=
  { s with inner := inner, trace := s.trace ++ [⟨n, call, succeeded⟩] }

end Traced

/-- A store that keeps a trace of what is asked of it. -/
def Store.traced (S : Store σ τ) : Store (Traced σ) (Numbered τ) where
  name := S.name
  start s := match S.start s.inner with
    | (.ok t, inner) => (.ok ⟨t, s.started⟩, { s with inner := inner, started := s.started + 1 })
    | (.error e, inner) => (.error e, { s with inner := inner })
  insert events t s :=
    let (result, t', inner) := S.insert events t.inner s.inner
    (result, { t with inner := t' }, s.note t.number (.insert events) result.isOk inner)
  deleteBefore c cutoff t s :=
    let (result, t', inner) := S.deleteBefore c cutoff t.inner s.inner
    (result, { t with inner := t' }, s.note t.number (.delete c cutoff) result.isOk inner)
  commit t s :=
    let (result, inner) := S.commit t.inner s.inner
    (result, s.note t.number .commit result.isOk inner)
  rollback t s :=
    let (result, inner) := S.rollback t.inner s.inner
    (result, s.note t.number .rollback result.isOk inner)
  ready t s := S.ready t.inner s.inner

section Traced

variable {S : Store σ τ} {t : Numbered τ} {s : Traced σ} {inner : σ}

theorem Store.traced_start_ok {t : τ} (h : S.start s.inner = (.ok t, inner)) :
    S.traced.start s =
      (.ok ⟨t, s.started⟩, { s with inner := inner, started := s.started + 1 }) := by
  simp only [traced, h]

theorem Store.traced_start_error {e : StoreError} (h : S.start s.inner = (.error e, inner)) :
    S.traced.start s = (.error e, { s with inner := inner }) := by
  simp only [traced, h]

theorem Store.traced_insert {events : List EventRecord} {result : Except StoreError Nat} {t' : τ}
    (h : S.insert events t.inner s.inner = (result, t', inner)) :
    S.traced.insert events t s =
      (result, ⟨t', t.number⟩, s.note t.number (.insert events) result.isOk inner) := by
  simp only [traced, h]

theorem Store.traced_deleteBefore {c : Category} {cutoff : Timestamp}
    {result : Except StoreError Nat} {t' : τ}
    (h : S.deleteBefore c cutoff t.inner s.inner = (result, t', inner)) :
    S.traced.deleteBefore c cutoff t s =
      (result, ⟨t', t.number⟩, s.note t.number (.delete c cutoff) result.isOk inner) := by
  simp only [traced, h]

theorem Store.traced_commit {result : Except StoreError Unit}
    (h : S.commit t.inner s.inner = (result, inner)) :
    S.traced.commit t s = (result, s.note t.number .commit result.isOk inner) := by
  simp only [traced, h]

theorem Store.traced_rollback {result : Except StoreError Unit}
    (h : S.rollback t.inner s.inner = (result, inner)) :
    S.traced.rollback t s = (result, s.note t.number .rollback result.isOk inner) := by
  simp only [traced, h]

end Traced

/-! ## Calls on an open transaction -/

/-- From `s` to `s'` there were some calls on transaction `n`, and the contents are the same. -/
structure Progress (contents : σ → κ) (n : Nat) (calls : Trace) (s s' : Traced σ) : Prop where
  started : s'.started = s.started
  trace : s'.trace = s.trace ++ calls
  transaction : ∀ e ∈ calls, e.transaction = n
  contents : contents s'.inner = contents s.inner

namespace Progress

variable {contents : σ → κ} {n : Nat} {calls calls' : Trace} {s s' s'' : Traced σ}

theorem refl (s : Traced σ) : Progress contents n [] s s :=
  ⟨rfl, (List.append_nil _).symm, List.forall_mem_nil _, rfl⟩

theorem trans (h : Progress contents n calls s s') (h' : Progress contents n calls' s' s'') :
    Progress contents n (calls ++ calls') s s'' := by
  refine ⟨h'.started.trans h.started, ?_, ?_, h'.contents.trans h.contents⟩
  · rw [h'.trace, h.trace, List.append_assoc]
  · intro e he
    rcases List.mem_append.mp he with he | he
    · exact h.transaction e he
    · exact h'.transaction e he

theorem note {call : StoreCall} {ok : Bool} {inner : σ} (h : contents inner = contents s.inner) :
    Progress contents n [⟨n, call, ok⟩] s (s.note n call ok inner) := by
  refine ⟨rfl, rfl, fun e he => ?_, h⟩
  rw [List.mem_singleton.mp he]

end Progress

/-- Staging the deletions of some categories goes on with the transaction by deletions, which have
succeeded if it is said so. -/
theorem sweepCategories_progress {S : Store σ τ} {contents : σ → κ}
    (hS : S.ChangesByCommit contents)
    (config : Config) (now : Timestamp) (cs : List Category) (swept : Swept) (t : Numbered τ)
    (s : Traced σ) (j : Journal) :
    ∃ calls, Progress contents t.number calls s
        (sweepCategories S.traced config now cs swept t s j).2.2.1 ∧
      (sweepCategories S.traced config now cs swept t s j).2.1.number = t.number ∧
      (∀ e ∈ calls, e.call.ends = false ∧ e.call.events = []) ∧
      ∀ n, (sweepCategories S.traced config now cs swept t s j).1 = .ok n →
        ∀ e ∈ calls, e.succeeded = true := by
  induction cs generalizing swept t s j with
  | nil => exact ⟨[], .refl s, rfl, List.forall_mem_nil _, fun _ _ => List.forall_mem_nil _⟩
  | cons c cs ih =>
    unfold sweepCategories
    cases config.cutoff? now c with
    | none => exact ih swept t s j
    | some cutoff =>
      have hcontents := hS.delete c cutoff t.inner s.inner
      dsimp only
      cases hanswer : S.deleteBefore c cutoff t.inner s.inner with | mk result rest =>
      obtain ⟨t', inner⟩ := rest
      rw [hanswer] at hcontents
      have hdelete : Progress contents t.number [⟨t.number, .delete c cutoff, result.isOk⟩] s
          (s.note t.number (.delete c cutoff) result.isOk inner) := .note hcontents
      rw [Store.traced_deleteBefore hanswer]
      cases result with
      | error e =>
        refine ⟨_, hdelete, rfl, ?_, fun n hn => by cases hn⟩
        intro e he
        rw [List.mem_singleton.mp he]
        exact ⟨rfl, rfl⟩
      | ok n =>
        obtain ⟨calls, hrest, hnumber, hdeletes, hok⟩ := ih (swept.set c n) ⟨t', t.number⟩
          (s.note t.number (.delete c cutoff) true inner) (j.countDeleted c n)
        refine ⟨_, hdelete.trans hrest, hnumber, ?_, ?_⟩
        · intro e he
          rcases List.mem_cons.mp he with rfl | he
          · exact ⟨rfl, rfl⟩
          · exact hdeletes e he
        · intro m hm e he
          rcases List.mem_cons.mp he with rfl | he
          · rfl
          · exact hok m hm e he

/-! ## Transactions from start to end -/

/-- A transaction was started in `s`, and all calls on it have left it open. -/
structure Opened (contents : σ → κ) (steps : Trace) (s s' : Traced σ) : Prop where
  started : s'.started = s.started + 1
  trace : s'.trace = s.trace ++ steps
  transaction : ∀ e ∈ steps, e.transaction = s.started
  steps : ∀ e ∈ steps, e.call.ends = false
  contents : contents s'.inner = contents s.inner

/-- What is left by an attempt to write a generation: no transaction was started, or one was gone
through to its end and has committed the generation if the attempt succeeded, and nothing if it
failed. -/
inductive Attempt (contents : σ → κ) (events : List EventRecord) (s : Traced σ) :
    Bool → Traced σ → Prop where
  | refused {s' : Traced σ} : s'.started = s.started → s'.trace = s.trace →
      contents s'.inner = contents s.inner → Attempt contents events s false s'
  | ended {ok : Bool} (calls : Trace) {s' : Traced σ} : s'.started = s.started + 1 →
      s'.trace = s.trace ++ calls → (∀ e ∈ calls, e.transaction = s.started) → calls.Conducted →
      calls.committed.flatten = (if ok then events else []) →
      (ok = false → contents s'.inner = contents s.inner) → Attempt contents events s ok s'

namespace Opened

variable {contents : σ → κ} {steps calls : Trace} {s s' s'' : Traced σ}
  {events : List EventRecord} {ok : Bool}

theorem advance (h : Opened contents steps s s') (hnext : Progress contents s.started calls s' s'')
    (hcalls : ∀ e ∈ calls, e.call.ends = false) : Opened contents (steps ++ calls) s s'' := by
  refine ⟨hnext.started.trans h.started, ?_, ?_, ?_, hnext.contents.trans h.contents⟩
  · rw [hnext.trace, h.trace, List.append_assoc]
  · intro e he
    rcases List.mem_append.mp he with he | he
    · exact h.transaction e he
    · exact hnext.transaction e he
  · intro e he
    rcases List.mem_append.mp he with he | he
    · exact h.steps e he
    · exact hcalls e he

theorem transaction_append (h : Opened contents steps s s') (call : StoreCall) (ok : Bool) :
    ∀ e ∈ steps ++ [⟨s.started, call, ok⟩], e.transaction = s.started := by
  intro e he
  rcases List.mem_append.mp he with he | he
  · exact h.transaction e he
  · rw [List.mem_singleton.mp he]

/-- A last call that commits nothing: a rollback, or a commit that is refused. -/
theorem givenUp (h : Opened contents steps s s') {call : StoreCall} {inner : σ}
    (hend : call.ends = true) (hcommit : (call == .commit && ok) = false)
    (hsteps : call = .commit → ∀ e ∈ steps, e.succeeded = true)
    (hcontents : contents inner = contents s'.inner) :
    Attempt contents events s false (s'.note s.started call ok inner) := by
  have hnone : (steps ++ [⟨s.started, call, ok⟩] : Trace).filter Trace.isCommitted = [] := by
    rw [List.filter_append, Trace.committed_of_open h.steps, List.nil_append]
    exact List.filter_cons_of_neg (Bool.eq_false_iff.mp hcommit)
  refine .ended _ h.started ?_ (h.transaction_append call ok) ⟨steps, _, rfl, h.steps, hend, hsteps⟩
    ?_ fun _ => hcontents.trans h.contents
  · rw [Traced.note, h.trace, List.append_assoc]
  · rw [Trace.committed, hnone]
    rfl

/-- A commit after calls that succeeded commits what they inserted. -/
theorem committed (h : Opened contents steps s s') (inner : σ)
    (hsteps : ∀ e ∈ steps, e.succeeded = true) :
    Attempt contents (steps.flatMap (·.call.events)) s true
      (s'.note s.started .commit true inner) := by
  have hall : (steps ++ [⟨s.started, .commit, true⟩] : Trace).filter Trace.isCommitted =
      [⟨s.started, .commit, true⟩] := by
    rw [List.filter_append, Trace.committed_of_open h.steps]
    rfl
  have htransaction := h.transaction_append .commit true
  refine .ended _ h.started ?_ htransaction ⟨steps, _, rfl, h.steps, rfl, fun _ => hsteps⟩ ?_ nofun
  · rw [Traced.note, h.trace, List.append_assoc]
  · rw [Trace.committed, hall, List.map_singleton, List.flatten_singleton, Trace.inserted,
      Trace.on_self htransaction, List.filter_append, List.filter_eq_self.mpr hsteps]
    simp [StoreCall.events]

end Opened

/-- A transaction is started, or the attempt is over. -/
theorem Store.traced_start {S : Store σ τ} {contents : σ → κ} (hS : S.ChangesByCommit contents)
    (s : Traced σ) :
    (∃ t s', S.traced.start s = (.ok t, s') ∧ t.number = s.started ∧ Opened contents [] s s') ∨
      ∃ e s', S.traced.start s = (.error e, s') ∧
        ∀ events, Attempt contents events s false s' := by
  have hcontents := hS.start s.inner
  cases hanswer : S.start s.inner with | mk result inner =>
  rw [hanswer] at hcontents
  cases result with
  | ok t =>
    exact .inl ⟨_, _, traced_start_ok hanswer, rfl, rfl, (List.append_nil _).symm,
      List.forall_mem_nil _, List.forall_mem_nil _, hcontents⟩
  | error e => exact .inr ⟨e, _, traced_start_error hanswer, fun _ => .refused rfl rfl hcontents⟩

/-! ## Whole traces -/

/-- All calls were made on transactions that were started, and each of these was gone through. -/
structure Traced.Orderly (s : Traced σ) : Prop where
  transaction : ∀ e ∈ s.trace, e.transaction < s.started
  conducted : ∀ n < s.started, (s.trace.on n).Conducted

namespace Attempt

variable {contents : σ → κ} {s s' : Traced σ} {events : List EventRecord} {ok : Bool}

theorem contents_eq (h : Attempt contents events s false s') :
    contents s'.inner = contents s.inner := by
  cases h with
  | refused _ _ hcontents => exact hcontents
  | ended _ _ _ _ _ _ hcontents => exact hcontents rfl

/-- An attempt adds what it committed to what was committed before. -/
theorem committed (h : Attempt contents events s ok s') (hs : s.Orderly) :
    s'.trace.committed.flatten = s.trace.committed.flatten ++ if ok then events else [] := by
  cases h with
  | refused _ htrace _ =>
    rw [htrace]
    exact (List.append_nil _).symm
  | ended _ _ htrace htransaction _ hcommitted _ =>
    rw [htrace, Trace.committed_append hs.transaction htransaction, List.flatten_append, hcommitted]

/-- The calls of an attempt are all made on the transaction that it starts. -/
theorem orderly (h : Attempt contents events s ok s') (hs : s.Orderly) : s'.Orderly := by
  cases h with
  | refused hstarted htrace _ =>
    refine ⟨?_, ?_⟩
    · rw [hstarted, htrace]
      exact hs.transaction
    · rw [hstarted, htrace]
      exact hs.conducted
  | ended calls hstarted htrace htransaction hconducted _ _ =>
    refine ⟨?_, ?_⟩
    · intro e he
      rw [htrace] at he
      rw [hstarted]
      rcases List.mem_append.mp he with he | he
      · have := hs.transaction e he
        omega
      · have := htransaction e he
        omega
    · intro n hn
      rw [hstarted] at hn
      rw [htrace, Trace.on_append]
      by_cases hlast : n = s.started
      · have hbefore : s.trace.on n = [] := by
          refine Trace.on_eq_nil fun e he heq => ?_
          have := hs.transaction e he
          omega
        rw [hbefore, List.nil_append, hlast, Trace.on_self htransaction]
        exact hconducted
      · have hother : calls.on n = [] := by
          refine Trace.on_eq_nil fun e he heq => ?_
          have := htransaction e he
          omega
        rw [hother, List.append_nil]
        exact hs.conducted n (by omega)

end Attempt

end AuditTrail
