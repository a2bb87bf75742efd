import AuditTrail.Proofs.Mutation.Probes
import AuditTrail.Proofs.Rule.Memory

/-
  Which events of entities are handed over. A host reports any observations to an engine and then
  completes the context. Every event of the context was made by one of the observations
  (`Engine.makers`, in the order of the events) and is about its subject. It has been asked whether
  the observation is excluded before the event was made, and answers once given are settled, so the
  event is still allowed in the end (`Engine.observe_outcome` for one observation, `makers_allowed`
  for all).

  The operation that was asked about is the one that the event records, except for relations: these
  ask about creation or deletion and make a modification. So events that are handed over are allowed
  exactly if no observation of a relation made one of a type whose modification is excluded
  (`handedOver_allowed_iff`).
-/
namespace AuditTrail

/-- The operation that an event made by an observation records. -/
def Probe.recordsAs : Probe → Operation
  | .relation _ _ _ _ => .modify
  | p => p.asksAbout

theorem Probe.recordsAs_of_relation {p : Probe} (h : p.isRelation = true) :
    p.recordsAs = .modify := by
  cases p with
  | relation _ _ _ _ => rfl
  | _ => cases h

theorem Probe.recordsAs_of_not_relation {p : Probe} (h : p.isRelation = false) :
    p.recordsAs = p.asksAbout := by
  cases p with
  | relation _ _ _ _ => cases h
  | _ => rfl

namespace MutationEvent

/-- An event that goes back to an observation. Events of relations do not count as empty. -/
structure MadeBy (m : MutationEvent) (p : Probe) : Prop where
  operation : m.operation = p.recordsAs
  entry : ∃ id, m.entry = .ofInstance id p.subject
  filled : p.isRelation = true → m.isEmptyModification = false

/-- An event that goes on as another one: at most it holds more. -/
structure Continues (m m' : MutationEvent) : Prop where
  operation : m'.operation = m.operation
  entry : m'.entry = m.entry
  filled : m.isEmptyModification = false → m'.isEmptyModification = false

theorem Continues.refl (m : MutationEvent) : m.Continues m := ⟨rfl, rfl, fun h => h⟩

theorem MadeBy.continues {m m' : MutationEvent} {p : Probe} (h : m.MadeBy p)
    (hcontinues : m.Continues m') : m'.MadeBy p := by
  refine ⟨hcontinues.operation.trans h.operation, ?_, ?_⟩
  · rw [hcontinues.entry]
    exact h.entry
  · intro hrelation
    exact hcontinues.filled (h.filled hrelation)

theorem continues_addRelationships (relationships : List RelationshipModification)
    (m : MutationEvent) : m.Continues (Engine.addRelationships relationships m) := by
  refine ⟨rfl, rfl, ?_⟩
  unfold isEmptyModification Engine.addRelationships
  cases m.operation == .modify <;> cases m.modifications <;> cases m.relationships <;> simp

end MutationEvent

/-! ## Lists in step -/

theorem forall₂_modify {α : Type} {R : α → α → Prop} {f : α → α} (hrefl : ∀ a, R a a)
    (hf : ∀ a, R a (f a)) (as : List α) (n : Nat) : List.Forall₂ R as (as.modify n f) := by
  induction as generalizing n with
  | nil => rw [List.modify_nil]; exact .nil
  | cons a as ih =>
    cases n with
    | zero => exact .cons (hf a) (List.forall₂_same.mpr fun a _ => hrefl a)
    | succ n => exact .cons (hrefl a) (ih n)

theorem forall₂_continues {ms ms' : List MutationEvent} {ps : List Probe}
    (h : List.Forall₂ MutationEvent.MadeBy ms ps)
    (hcontinues : List.Forall₂ MutationEvent.Continues ms ms') :
    List.Forall₂ MutationEvent.MadeBy ms' ps := by
  induction hcontinues generalizing ps with
  | nil => exact h
  | cons hm _ ih =>
    cases h with
    | cons hp hps => exact .cons (hp.continues hm) (ih hps)

theorem exists_mem_zip {α β : Type} {as : List α} {bs : List β} (hlength : as.length = bs.length)
    {b : β} (hb : b ∈ bs) : ∃ a, (a, b) ∈ as.zip bs := by
  induction as generalizing bs with
  | nil =>
    rw [List.eq_nil_of_length_eq_zero hlength.symm] at hb
    cases hb
  | cons a as ih =>
    cases bs with
    | nil => cases hb
    | cons b' bs =>
      rw [List.mem_cons] at hb
      rcases hb with rfl | hb
      · exact ⟨a, List.mem_cons_self⟩
      · obtain ⟨a', ha'⟩ := ih (Nat.succ.inj hlength) hb
        exact ⟨a', List.mem_cons_of_mem _ ha'⟩

/-! ## One observation -/

theorem Rules.Settled.sift {r : Rules} {s : Snapshot} {x : Candidate} {d : Bool}
    (h : r.Settled s x d) (entity : EntityType) (changes : List Change) :
    (r.sift s entity changes).2.Settled s x d := by
  induction changes generalizing r with
  | nil => exact h
  | cons change changes ih => exact ih (h.shouldExclude (y := .field entity change.key) rfl)

namespace Engine

variable {σ τ : Type}

/-- What an observation leaves: settled answers stay, and events go on, or there is one more, which
was allowed. -/
structure Outcome (p : Probe) (c : Context) (e : Engine σ τ) (c' : Context) (e' : Engine σ τ) :
    Prop where
  settings : e'.settings = e.settings
  settled : ∀ x d, e.rules.Settled e.snapshot x d → e'.rules.Settled e.snapshot x d
  events : List.Forall₂ MutationEvent.Continues c.events c'.events ∨
    ∃ m, c'.events = c.events ++ [m] ∧ m.MadeBy p ∧ e.config.isEnabled .model = true ∧
      e'.rules.Settled e.snapshot p.question false

theorem continues_self (events : List MutationEvent) :
    List.Forall₂ MutationEvent.Continues events events :=
  List.forall₂_same.mpr fun m _ => .refl m

/-- Settled answers stay through the first question of an observation. -/
theorem kept_asked (p : Probe) (e : Engine σ τ) (x : Candidate) (d : Bool)
    (h : e.rules.Settled e.snapshot x d) : (e.asked p.question).rules.Settled e.snapshot x d :=
  h.shouldExclude (y := p.question) rfl

/-- And through a question about a field after it. -/
theorem kept_asked_field (p : Probe) (t : EntityType) (field : String) (e : Engine σ τ)
    (x : Candidate) (d : Bool) (h : e.rules.Settled e.snapshot x d) :
    ((e.asked p.question).asked (.field t field)).rules.Settled e.snapshot x d :=
  (kept_asked p e x d h).shouldExclude (y := .field t field) rfl

/-- The answer to the first question of an observation is settled from then on. -/
theorem settled_asked {e : Engine σ τ} {p : Probe} {d : Bool} (h : e.answer p.question = d) :
    (e.asked p.question).rules.Settled e.snapshot p.question d := by
  rw [← h]
  exact Rules.settled_shouldExclude rfl

section Outcome

variable {p : Probe} {c c' : Context} {e e' : Engine σ τ} {r : Rules} {lines : List LogLine}

/-- An observation that makes no event. -/
theorem outcome_continues (h : e.Yields r lines e')
    (hkept : ∀ x d, e.rules.Settled e.snapshot x d → r.Settled e.snapshot x d)
    (hevents : List.Forall₂ MutationEvent.Continues c.events c'.events) : Outcome p c e c' e' := by
  refine ⟨h.settings, ?_, .inl hevents⟩
  rw [h.rules]
  exact hkept

/-- An observation that makes an event. -/
theorem outcome_enters {m : MutationEvent} (h : e.Yields r lines e')
    (hkept : ∀ x d, e.rules.Settled e.snapshot x d → r.Settled e.snapshot x d)
    (henabled : e.config.isEnabled .model = true) (hsettled : r.Settled e.snapshot p.question false)
    (hevents : c'.events = c.events ++ [m]) (hm : m.MadeBy p) : Outcome p c e c' e' := by
  refine ⟨h.settings, ?_, .inr ⟨m, hevents, hm, henabled, ?_⟩⟩
  · rw [h.rules]
    exact hkept
  · rw [h.rules]
    exact hsettled

end Outcome

theorem beforeSave_outcome {i : Instance} {prior : Option Instance} {e : Engine σ τ}
    (henabled : e.config.isEnabled .model = true) (c : Context) :
    Outcome (.beforeSave i prior) c e (e.beforeSave i prior c).1 (e.beforeSave i prior c).2 := by
  cases hanswer : e.answer (Probe.beforeSave i prior).question with
  | true =>
    obtain ⟨e', hresult, hyields⟩ := beforeSave_excluded (c := c) henabled hanswer
    rw [hresult]
    exact outcome_continues hyields (kept_asked _ e) (continues_self _)
  | false =>
    obtain ⟨started, e', hresult, -, hyields⟩ := beforeSave_admitted (c := c) henabled hanswer
    rw [hresult]
    refine outcome_continues hyields ?_ (continues_self _)
    intro x d hx
    exact (kept_asked _ e x d hx).sift _ _

theorem afterSave_outcome {i : Instance} {created : Bool} {touched : Option (List String)}
    {e : Engine σ τ} (henabled : e.config.isEnabled .model = true) (c : Context) :
    Outcome (.afterSave i created touched) c e (e.afterSave i created touched c).1
      (e.afterSave i created touched c).2 := by
  cases hanswer : e.answer (Probe.afterSave i created touched).question with
  | true =>
    obtain ⟨e', hresult, hyields⟩ := afterSave_excluded (c := c) henabled hanswer
    rw [hresult]
    exact outcome_continues hyields (kept_asked _ e) (continues_self _)
  | false =>
    obtain ⟨id, entryId, time, duration, e', m, hm, -, hresult, hyields⟩ :=
      afterSave_admitted (c := c) henabled hanswer
    rw [hresult]
    have hevents : ((c.takePending i).2.enter i m).events = c.events ++ [m] := by
      rw [Context.enter, Context.takePending_events]
    have hmade : m.MadeBy (.afterSave i created touched) := by
      rw [hm]
      exact ⟨rfl, ⟨entryId, rfl⟩, nofun⟩
    exact outcome_enters hyields (kept_asked _ e) henabled (settled_asked hanswer) hevents hmade

theorem afterDelete_outcome {i : Instance} {e : Engine σ τ}
    (henabled : e.config.isEnabled .model = true) (c : Context) :
    Outcome (.afterDelete i) c e (e.afterDelete i c).1 (e.afterDelete i c).2 := by
  cases hanswer : e.answer (Probe.afterDelete i).question with
  | true =>
    obtain ⟨e', hresult, hyields⟩ := afterDelete_excluded (c := c) henabled hanswer
    rw [hresult]
    exact outcome_continues hyields (kept_asked _ e) (continues_self _)
  | false =>
    obtain ⟨id, entryId, time, e', m, hm, hresult, hyields⟩ :=
      afterDelete_admitted (c := c) henabled hanswer
    rw [hresult]
    have hmade : m.MadeBy (.afterDelete i) := by
      rw [hm]
      exact ⟨rfl, ⟨entryId, rfl⟩, nofun⟩
    exact outcome_enters hyields (kept_asked _ e) henabled (settled_asked hanswer) rfl hmade

theorem relation_outcome {owner : Instance} {field : String} {related : List Instance}
    {action : RelationAction} {e : Engine σ τ} (henabled : e.config.isEnabled .model = true)
    (c : Context) :
    Outcome (.relation owner field related action) c e
      (e.relationChanged owner field related action c).1
      (e.relationChanged owner field related action c).2 := by
  by_cases hrelated : related = []
  · rw [hrelated, relation_empty]
    exact outcome_continues (.refl e) (fun _ _ h => h) (continues_self _)
  cases hanswer : e.answer (Probe.relation owner field related action).question with
  | true =>
    obtain ⟨e', hresult, hyields⟩ := relation_excluded (c := c) henabled hrelated hanswer
    rw [hresult]
    exact outcome_continues hyields (kept_asked _ e) (continues_self _)
  | false =>
    cases hfield : owner.entity.fieldDef? field with
    | none =>
      obtain ⟨e', hresult, hyields⟩ := relation_undeclared (c := c) henabled hrelated hanswer hfield
      rw [hresult]
      exact outcome_continues hyields (kept_asked _ e) (continues_self _)
    | some d =>
      cases hanswer' : (e.asked (Probe.relation owner field related action).question).answer
          (.field owner.entity field) with
      | true =>
        obtain ⟨e', hresult, hyields⟩ :=
          relation_fieldExcluded (c := c) henabled hrelated hanswer hfield hanswer'
        rw [hresult]
        exact outcome_continues hyields (kept_asked_field _ _ _ e) (continues_self _)
      | false =>
        cases hposition : c.memo.lookup (.of owner) with
        | some position =>
          obtain ⟨relationships, e', -, hresult, hyields⟩ :=
            relation_inFlight henabled hrelated hanswer hfield hanswer' hposition
          rw [hresult]
          refine outcome_continues hyields (kept_asked_field _ _ _ e) ?_
          exact forall₂_modify .refl (MutationEvent.continues_addRelationships relationships) _ _
        | none =>
          obtain ⟨relationships, id, entryId, time, e', hrelationships, hresult, hyields⟩ :=
            relation_new henabled hrelated hanswer hfield hanswer' hposition
          rw [hresult]
          have hsettled :=
            (settled_asked hanswer).shouldExclude (y := .field owner.entity field) rfl
          refine outcome_enters hyields (kept_asked_field _ _ _ e) henabled hsettled rfl ?_
          refine ⟨rfl, ⟨entryId, rfl⟩, ?_⟩
          intro _
          cases hrelationships with
          | nil => exact absurd rfl hrelated
          | cons _ _ => rfl

/-- Every observation, whatever the state of the context. -/
theorem observe_outcome (p : Probe) (c : Context) (e : Engine σ τ) :
    Outcome p c e (e.observe p c).1 (e.observe p c).2 := by
  cases henabled : e.config.isEnabled .model with
  | false =>
    rw [observe_disabled henabled]
    exact outcome_continues (.refl e) (fun _ _ h => h) (continues_self _)
  | true =>
    cases p with
    | beforeSave i prior => exact beforeSave_outcome henabled c
    | afterSave i created touched => exact afterSave_outcome henabled c
    | afterDelete i => exact afterDelete_outcome henabled c
    | relation owner field related action => exact relation_outcome henabled c

/-! ## All observations -/

/-- The observations that made the events of a run, in the order of the events. -/
def makers : List Probe → Context → Engine σ τ → List Probe
  | [], _, _ => []
  | p :: ps, c, e =>
    (if c.events.length < (e.observe p c).1.events.length then [p] else []) ++
      makers ps (e.observe p c).1 (e.observe p c).2

theorem makers_cons_of_continues {p : Probe} {ps : List Probe} {c : Context} {e : Engine σ τ}
    (h : List.Forall₂ MutationEvent.Continues c.events (e.observe p c).1.events) :
    e.makers (p :: ps) c = (e.observe p c).2.makers ps (e.observe p c).1 := by
  rw [makers, if_neg (by rw [h.length_eq]; exact Nat.lt_irrefl _), List.nil_append]

theorem makers_cons_of_entered {p : Probe} {ps : List Probe} {c : Context} {e : Engine σ τ}
    {m : MutationEvent} (h : (e.observe p c).1.events = c.events ++ [m]) :
    e.makers (p :: ps) c = p :: (e.observe p c).2.makers ps (e.observe p c).1 := by
  rw [makers, if_pos (by rw [h, List.length_append]; exact Nat.lt_succ_self _),
    List.singleton_append]

theorem observeAll_settings (ps : List Probe) (c : Context) (e : Engine σ τ) :
    (e.observeAll ps c).2.settings = e.settings := by
  induction ps generalizing c e with
  | nil => rfl
  | cons p ps ih => rw [observeAll, ih, (observe_outcome p c e).settings]

/-- Settled answers stay to the end. -/
theorem observeAll_settled (ps : List Probe) {c : Context} {e : Engine σ τ} {x : Candidate}
    {d : Bool} (h : e.rules.Settled e.snapshot x d) :
    (e.observeAll ps c).2.rules.Settled e.snapshot x d := by
  induction ps generalizing c e with
  | nil => exact h
  | cons p ps ih =>
    have hp := observe_outcome p c e
    have hsnapshot : (e.observe p c).2.snapshot = e.snapshot := by
      rw [snapshot, hp.settings, snapshot]
    rw [observeAll, ← hsnapshot]
    refine ih ?_
    rw [hsnapshot]
    exact hp.settled x d h

/-- Events and their makers are in step. -/
theorem observeAll_madeBy (ms ps : List Probe) {c : Context} {e : Engine σ τ}
    (h : List.Forall₂ MutationEvent.MadeBy c.events ms) :
    List.Forall₂ MutationEvent.MadeBy (e.observeAll ps c).1.events (ms ++ e.makers ps c) := by
  induction ps generalizing ms c e with
  | nil =>
    rw [makers, List.append_nil]
    exact h
  | cons p ps ih =>
    rw [observeAll]
    rcases (observe_outcome p c e).events with hevents | ⟨m, hevents, hm, -⟩
    · rw [makers_cons_of_continues hevents]
      exact ih ms (forall₂_continues h hevents)
    · rw [makers_cons_of_entered hevents, List.append_cons]
      refine ih _ ?_
      rw [hevents]
      exact List.rel_append h (.cons hm .nil)

/-- What a maker asked first is still answered in the end as it was. -/
theorem makers_allowed {p : Probe} (ps : List Probe) {c : Context} {e : Engine σ τ}
    (hp : p ∈ e.makers ps c) :
    e.config.isEnabled .model = true ∧
      (e.observeAll ps c).2.rules.Settled e.snapshot p.question false := by
  induction ps generalizing c e with
  | nil => cases hp
  | cons q ps ih =>
    have hq := observe_outcome q c e
    have hsnapshot : (e.observe q c).2.snapshot = e.snapshot := by
      rw [snapshot, hq.settings, snapshot]
    have hconfig : (e.observe q c).2.config = e.config := by
      rw [config, hq.settings, config]
    rw [observeAll]
    rcases hq.events with hevents | ⟨m, hevents, -, henabled, hsettled⟩
    · rw [makers_cons_of_continues hevents] at hp
      rw [← hsnapshot, ← hconfig]
      exact ih hp
    · rw [makers_cons_of_entered hevents, List.mem_cons] at hp
      rcases hp with rfl | hp
      · refine ⟨henabled, ?_⟩
        rw [← hsnapshot] at hsettled ⊢
        exact observeAll_settled ps hsettled
      · rw [← hsnapshot, ← hconfig]
        exact ih hp

/-! ## What is handed over -/

/-- Whether the recording of an operation on an instance is wanted. -/
def Allows (e : Engine σ τ) (i : Instance) (op : Operation) : Prop :=
  e.config.isEnabled .model = true ∧ e.answer (.model i.entity op) = false

theorem makers_allows {p : Probe} {ps : List Probe} {c : Context} {e : Engine σ τ}
    (hp : p ∈ e.makers ps c) : (e.observeAll ps c).2.Allows p.subject p.asksAbout := by
  obtain ⟨henabled, hsettled⟩ := makers_allowed ps hp
  have hsettings := observeAll_settings ps c e
  refine ⟨?_, ?_⟩
  · rw [config, hsettings]
    exact henabled
  · rw [answer, snapshot, hsettings]
    exact hsettled.answer rfl

/-- Every event goes back to an observation of its instance. What is handed over is allowed exactly
if no observation of a relation made a modification that is excluded. -/
theorem handedOver_allowed_iff (actor : Option String) (ps : List Probe) (e : Engine σ τ) :
    List.Forall₂ (fun m p => ∃ id, m.entry = .ofInstance id p.subject)
        (e.observeAll ps { actor := actor }).1.events (e.makers ps { actor := actor }) ∧
      ((∀ m p, (m, p) ∈ (e.observeAll ps { actor := actor }).1.events.zip
            (e.makers ps { actor := actor }) →
          m ∈ (e.observeAll ps { actor := actor }).1.handedOver →
            (e.observeAll ps { actor := actor }).2.Allows p.subject m.operation) ↔
        ∀ p ∈ e.makers ps { actor := actor }, p.isRelation = true →
          (e.observeAll ps { actor := actor }).2.Allows p.subject .modify) := by
  have hmade : List.Forall₂ MutationEvent.MadeBy (e.observeAll ps { actor := actor }).1.events
      (e.makers ps { actor := actor }) :=
    observeAll_madeBy [] ps .nil
  refine ⟨hmade.imp fun m p hm => hm.entry, ?_⟩
  obtain ⟨hlength, hzip⟩ := List.forall₂_iff_zip.mp hmade
  constructor
  · intro h p hp hrelation
    obtain ⟨m, hmem⟩ := exists_mem_zip hlength hp
    have hm := hzip hmem
    have hhanded : m ∈ (e.observeAll ps { actor := actor }).1.handedOver := by
      rw [Context.handedOver, List.mem_filter, hm.filled hrelation]
      exact ⟨(List.of_mem_zip hmem).1, rfl⟩
    have hallowed := h m p hmem hhanded
    rw [hm.operation, Probe.recordsAs_of_relation hrelation] at hallowed
    exact hallowed
  · intro h m p hmem _
    have hp := (List.of_mem_zip hmem).2
    rw [(hzip hmem).operation]
    cases hrelation : p.isRelation with
    | true =>
      rw [Probe.recordsAs_of_relation hrelation]
      exact h p hp hrelation
    | false =>
      rw [Probe.recordsAs_of_not_relation hrelation]
      exact makers_allows hp

/-- A page whose type asks that its modification is not recorded. -/
def unmodifiedPage : Instance where
  entity := { name := "Page", fields := [⟨"tags", "tags"⟩], ignore := { operations := [.modify] } }
  primaryKey := some "1"

/-- Something is added to a relation of the page. -/
def tagging : List Probe :=
  [.relation unmodifiedPage "tags" [{ entity := { name := "Tag" }, primaryKey := some "7" }] .add]

/-- An engine with the default settings. -/
def byDefault : Engine Unit Unit where
  settings := ⟨{}, ⟨1, {}⟩⟩
  counter := ⟨2⟩
  handler := { store := (), surroundings := ⟨0, ⟨0, 0⟩⟩ }

theorem tagging_hands_over_excluded :
    ¬∀ m p, (m, p) ∈ (byDefault.observeAll tagging {}).1.events.zip (byDefault.makers tagging {}) →
      m ∈ (byDefault.observeAll tagging {}).1.handedOver →
        (byDefault.observeAll tagging {}).2.Allows p.subject m.operation := by
  intro h
  have hallowed := h _ _ (List.Mem.head _) (List.Mem.head _)
  exact absurd hallowed.2 (by decide +kernel)

end Engine

end AuditTrail
