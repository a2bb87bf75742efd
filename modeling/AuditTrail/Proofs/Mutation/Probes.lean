import AuditTrail.Engine.Entities
import Mathlib.Data.List.Forall2

/-
  What one observation of an entity does. Of the engine only three things matter here: its
  settings, which no observation changes; its rules, which change by being asked; and the lines of
  the audit it has written (`Engine.Yields`). Identifiers, times and what is reported besides the
  audit are left open.

  Each observation asks first about its operation on the type of its subject. Then it leaves the
  context as it is, forgets what was seen before the save, or gives the context a new event
  (`Context.enter`) or more relations to the event in flight. There is one lemma for each of these
  outcomes.
-/
namespace AuditTrail

/-! ## Observations -/

/-- Something a host does to an entity, as it is reported to the engine. -/
inductive Probe where
  | beforeSave (i : Instance) (prior : Option Instance)
  | afterSave (i : Instance) (created : Bool) (touched : Option (List String))
  | afterDelete (i : Instance)
  | relation (owner : Instance) (field : String) (related : List Instance) (action : RelationAction)

namespace Probe

/-- The instance that an observation is about. -/
def subject : Probe → Instance
  | .beforeSave i _ => i
  | .afterSave i _ _ => i
  | .afterDelete i => i
  | .relation owner _ _ _ => owner

/-- The operation that the rules are asked about. -/
def asksAbout : Probe → Operation
  | .beforeSave _ prior => if prior.isSome then .modify else .create
  | .afterSave _ created _ => if created then .create else .modify
  | .afterDelete _ => .delete
  | .relation _ _ _ action => action.operation

/-- What the rules are asked first. -/
def question (p : Probe) : Candidate := .model p.subject.entity p.asksAbout

/-- Whether an observation is one of a relation. -/
def isRelation : Probe → Bool
  | .relation _ _ _ _ => true
  | _ => false

end Probe

namespace Engine

variable {σ τ : Type} {e e₁ e₂ : Engine σ τ} {r r₁ r₂ : Rules} {lines lines₁ lines₂ : List LogLine}

/-- Context and engine after an observation. -/
def observe (p : Probe) (c : Context) (e : Engine σ τ) : Context × Engine σ τ :=
  match p with
  | .beforeSave i prior => e.beforeSave i prior c
  | .afterSave i created touched => e.afterSave i created touched c
  | .afterDelete i => e.afterDelete i c
  | .relation owner field related action => e.relationChanged owner field related action c

/-- Context and engine after several observations. -/
def observeAll : List Probe → Context → Engine σ τ → Context × Engine σ τ
  | [], c, e => (c, e)
  | p :: ps, c, e => observeAll ps (e.observe p c).1 (e.observe p c).2

theorem observeAll_concat (ps : List Probe) (p : Probe) (c : Context) (e : Engine σ τ) :
    e.observeAll (ps ++ [p]) c = (e.observeAll ps c).2.observe p (e.observeAll ps c).1 := by
  induction ps generalizing c e with
  | nil => rfl
  | cons q ps ih =>
    rw [List.cons_append, observeAll, ih, observeAll]

/-! ## What becomes of the engine -/

/-- The lines of the audit so far. -/
def audit (e : Engine σ τ) : List LogLine := e.handler.journal.lines.filter (·.audit)

/-- An engine under the same settings, with some rules, that has written more lines of the audit. -/
structure Yields (e : Engine σ τ) (r : Rules) (lines : List LogLine) (e' : Engine σ τ) : Prop where
  settings : e'.settings = e.settings
  rules : e'.rules = r
  audit : e'.audit = e.audit ++ lines

theorem Yields.refl (e : Engine σ τ) : e.Yields e.rules [] e :=
  ⟨rfl, rfl, (List.append_nil _).symm⟩

theorem Yields.trans (h₁ : e.Yields r₁ lines₁ e₁) (h₂ : e₁.Yields r₂ lines₂ e₂) :
    e.Yields r₂ (lines₁ ++ lines₂) e₂ := by
  refine ⟨h₂.settings.trans h₁.settings, h₂.rules, ?_⟩
  rw [h₂.audit, h₁.audit, List.append_assoc]

/-- Nothing changes for the audit by a step that asks no rules and writes no line. -/
theorem Yields.silent (h₁ : e.Yields r lines e₁) (h₂ : e₁.Yields e₁.rules [] e₂) :
    e.Yields r lines e₂ := by
  have h := h₁.trans h₂
  rw [List.append_nil, h₁.rules] at h
  exact h

theorem Yields.config (h : e.Yields r lines e₁) : e₁.config = e.config := by
  rw [Engine.config, h.settings, Engine.config]

theorem Yields.snapshot (h : e.Yields r lines e₁) : e₁.snapshot = e.snapshot := by
  rw [Engine.snapshot, h.settings, Engine.snapshot]

/-- How the rules of an engine answer, true for what is excluded. -/
def answer (x : Candidate) (e : Engine σ τ) : Bool := (e.rules.shouldExclude e.snapshot x).1

/-- The engine after a question to its rules. -/
def asked (x : Candidate) (e : Engine σ τ) : Engine σ τ :=
  { e with rules := (e.rules.shouldExclude e.snapshot x).2 }

theorem excludes_eq (x : Candidate) (e : Engine σ τ) : e.excludes x = (e.answer x, e.asked x) := rfl

theorem excludesCounted_of_excluded {k : Category} {x : Candidate} (h : e.answer x = true) :
    e.excludesCounted k x = (true, (e.asked x).countExcluded k) := by
  simp only [excludesCounted, excludes_eq, h, if_true]

theorem excludesCounted_of_admitted {k : Category} {x : Candidate} (h : e.answer x = false) :
    e.excludesCounted k x = (false, e.asked x) := by
  simp only [excludesCounted, excludes_eq, h, Bool.false_eq_true, if_false]

theorem yields_asked (x : Candidate) (e : Engine σ τ) : e.Yields (e.asked x).rules [] (e.asked x) :=
  ⟨rfl, rfl, (List.append_nil _).symm⟩

theorem yields_countExcluded (k : Category) (e : Engine σ τ) :
    e.Yields e.rules [] (e.countExcluded k) :=
  ⟨rfl, rfl, (List.append_nil _).symm⟩

theorem yields_now (e : Engine σ τ) : e.Yields e.rules [] e.now.2 :=
  ⟨rfl, rfl, (List.append_nil _).symm⟩

theorem yields_fresh (e : Engine σ τ) : e.Yields e.rules [] e.fresh.2 :=
  ⟨rfl, rfl, (List.append_nil _).symm⟩

theorem yields_note (severity : Severity) (message : String) (fields : List (String × String))
    (e : Engine σ τ) : e.Yields e.rules [] (e.report (·.note severity message fields)) := by
  refine ⟨rfl, rfl, ?_⟩
  simp [audit, report, Handler.report, Journal.note, Journal.write]

theorem Yields.announce (h : e.Yields r lines e₁) (level : Level) (message : String) :
    e.Yields r (lines ++ [⟨true, level.severity, message, []⟩]) (e₁.announce level message) := by
  refine ⟨h.settings, h.rules, ?_⟩
  rw [← List.append_assoc, ← h.audit]
  simp [Engine.audit, Engine.announce, report, Handler.report, Journal.announce, Journal.write]

theorem yields_measure (started : Option Timestamp) (e : Engine σ τ) :
    e.Yields e.rules [] (e.measure started).2 ∧
      (e.measure started).1.isSome = started.isSome := by
  cases started with
  | none => exact ⟨.refl e, rfl⟩
  | some start => exact ⟨yields_now e, rfl⟩

/-- Relating instances gives one modification for each, under identifiers of their own. -/
theorem relate_spec (op : Operation) (mirror : FieldMirror) (related : List Instance)
    (e : Engine σ τ) :
    List.Forall₂ (fun m i => ∃ id, m = ⟨op, mirror, .ofInstance id i⟩)
        (e.relate op mirror related).1 related ∧
      e.Yields e.rules [] (e.relate op mirror related).2 := by
  induction related generalizing e with
  | nil => exact ⟨.nil, .refl e⟩
  | cons i related ih =>
    obtain ⟨hmods, hyields⟩ := ih e.fresh.2
    exact ⟨.cons ⟨_, rfl⟩ hmods, (yields_fresh e).trans hyields⟩

end Engine

/-! ## Changes of fields -/

/-- The changes that the rules admit. -/
def Rules.sift (s : Snapshot) (entity : EntityType) :
    List Change → Rules → List Change × Rules
  | [], r => ([], r)
  | change :: changes, r =>
    let (excluded, r) := r.shouldExclude s (.field entity change.key)
    let (admitted, r) := sift s entity changes r
    (if excluded then admitted else change :: admitted, r)

theorem Engine.admitChanges_eq {σ τ : Type} (entity : EntityType) (changes : List Change)
    (e : Engine σ τ) :
    e.admitChanges entity changes =
      ((e.rules.sift e.snapshot entity changes).1,
        { e with rules := (e.rules.sift e.snapshot entity changes).2 }) := by
  induction changes generalizing e with
  | nil => rfl
  | cons change changes ih =>
    unfold admitChanges Rules.sift
    rw [excludes_eq]
    dsimp only
    rw [ih]
    rfl

/-! ## New events -/

namespace Context

/-- A new event about an instance by the present actor. -/
def event (c : Context) (i : Instance) (op : Operation) (id entryId : Uuid)
    (createdAt : Timestamp) : MutationEvent :=
  { id := id, createdAt := createdAt, operation := op, actor := c.actor,
    entry := .ofInstance entryId i }

/-- The context with one more event, which is the one in flight of its instance. -/
def enter (i : Instance) (m : MutationEvent) (c : Context) : Context :=
  { c with
    events := c.events ++ [m]
    memo := Keyed.put (.of i) c.events.length c.memo }

theorem takePending_events (i : Instance) (c : Context) :
    (c.takePending i).2.events = c.events := by
  unfold takePending
  dsimp only
  split <;> rfl

theorem takePending_stash (i : Instance) (p : PendingSave) (c : Context) :
    ((c.stash i p).takePending i).1 = some p := by
  unfold takePending stash Keyed.put
  dsimp only
  rw [List.lookup_cons, beq_self_eq_true]

theorem modify_append_singleton {α : Type} (f : α → α) (as : List α) (a : α) :
    (as ++ [a]).modify as.length f = as ++ [f a] := by
  induction as with
  | nil => rfl
  | cons b as ih =>
    rw [List.cons_append, List.length_cons, List.modify_succ_cons, ih, List.cons_append]

/-- What is read off the members of a list changes as they do. -/
theorem map_modify {α β : Type} (f : α → α) (g : β → β) (h : α → β) (hfg : ∀ a, h (f a) = g (h a))
    (as : List α) (n : Nat) : (as.modify n f).map h = (as.map h).modify n g := by
  induction as generalizing n with
  | nil => simp
  | cons a as ih =>
    cases n with
    | zero => simp [hfg]
    | succ n => simp [ih]

theorem editEvent_enter (i : Instance) (m : MutationEvent) (f : MutationEvent → MutationEvent)
    (c : Context) : (c.enter i m).editEvent c.events.length f = c.enter i (f m) := by
  unfold editEvent enter
  rw [modify_append_singleton]

theorem getElem?_enter (i : Instance) (m : MutationEvent) (c : Context) :
    (c.enter i m).events[c.events.length]? = some m := by
  unfold enter
  rw [List.getElem?_append_right (Nat.le_refl _), Nat.sub_self]
  rfl

end Context

namespace Engine

variable {σ τ : Type} {e : Engine σ τ} {i : Instance} {c : Context}

theorem newEvent_forced (i : Instance) (op : Operation) (c : Context) (e : Engine σ τ) :
    ∃ id entryId time e', e.newEvent i op true c =
        (c.events.length, c.enter i (c.event i op id entryId time), e') ∧
      e.Yields e.rules [] e' :=
  ⟨_, _, _, _, rfl, rfl, rfl, (List.append_nil _).symm⟩

theorem newEvent_unless (op : Operation) (h : c.memo.lookup (.of i) = none) (e : Engine σ τ) :
    ∃ id entryId time e', e.newEvent i op false c =
        (c.events.length, c.enter i (c.event i op id entryId time), e') ∧
      e.Yields e.rules [] e' := by
  unfold newEvent Context.eventFor
  simp only [Bool.false_eq_true, if_false, h]
  exact ⟨_, _, _, _, rfl, rfl, rfl, (List.append_nil _).symm⟩

theorem newEvent_inFlight {op : Operation} {position : Nat}
    (h : c.memo.lookup (.of i) = some position) :
    e.newEvent i op false c = (position, c, e) := by
  unfold newEvent Context.eventFor
  simp only [Bool.false_eq_true, if_false, h]

/-! ## Outcomes -/

/-- The line that announces an event about an instance. -/
def mutationLine (i : Instance) (m : MutationEvent) (e : Engine σ τ) : LogLine :=
  ⟨true, e.config.model.loglevel.severity,
    m.message i.entity.label e.config.model.detailedMessage, []⟩

/-- The line that announces a change of a relation. -/
def relationLine (actor : Option String) (owner : Instance) (field : String)
    (relationships : List RelationshipModification) (e : Engine σ τ) : LogLine :=
  ⟨true, e.config.model.loglevel.severity,
    actor.getD "Anonymous" ++ " modified field " ++ field ++ " | Model: " ++ owner.entity.label ++
      " | Modifications: " ++ ", ".intercalate (relationships.map (·.short)), []⟩

theorem Yields.announceMutation {e₁ : Engine σ τ} {r : Rules} {lines : List LogLine}
    (h : e.Yields r lines e₁) (i : Instance) (m : MutationEvent) :
    e.Yields r (lines ++ [e.mutationLine i m]) (e₁.announceMutation i m) := by
  have hyields := h.announce e₁.config.model.loglevel
    (m.message i.entity.label e₁.config.model.detailedMessage)
  rw [h.config] at hyields
  rw [Engine.announceMutation, h.config]
  exact hyields

theorem Yields.snapshotOf {e₁ : Engine σ τ} {r : Rules} {lines : List LogLine}
    (h : e.Yields r lines e₁) (i : Instance) : e₁.snapshotOf i = e.snapshotOf i := by
  rw [Engine.snapshotOf, h.config, Engine.snapshotOf]

/-- Without the category, observations do nothing. -/
theorem observe_disabled (h : e.config.isEnabled .model = false) (p : Probe) (c : Context) :
    e.observe p c = (c, e) := by
  cases p with
  | beforeSave i prior => simp [observe, beforeSave, h]
  | afterSave i created touched => simp [observe, afterSave, h]
  | afterDelete i => simp [observe, afterDelete, h]
  | relation owner field related action => simp [observe, relationChanged, h]

/-- The changes that a save is about to make. -/
def changesOf (i : Instance) (prior : Option Instance) : List Change :=
  Change.between ((prior.map (·.declaredValues)).getD []) i.declaredValues

theorem beforeSave_excluded {prior : Option Instance} (henabled : e.config.isEnabled .model = true)
    (hanswer : e.answer (Probe.beforeSave i prior).question = true) :
    ∃ e', e.beforeSave i prior c = (c.discardPending i, e') ∧
      e.Yields (e.asked (Probe.beforeSave i prior).question).rules [] e' := by
  have hasked := excludesCounted_of_excluded (k := .model) hanswer
  refine ⟨_, ?_, (yields_asked _ e).silent (yields_countExcluded .model _)⟩
  unfold beforeSave
  rw [henabled]
  dsimp only [Probe.question, Probe.subject, Probe.asksAbout] at hasked ⊢
  rw [hasked]
  rfl

/-- What a save is about to change is taken down as far as the rules admit it. -/
theorem beforeSave_admitted {prior : Option Instance} (henabled : e.config.isEnabled .model = true)
    (hanswer : e.answer (Probe.beforeSave i prior).question = false) :
    ∃ started e', e.beforeSave i prior c =
        (c.stash i ⟨((e.asked (Probe.beforeSave i prior).question).rules.sift e.snapshot i.entity
          (changesOf i prior)).1.filterMap (modificationOf i.entity), started⟩, e') ∧
      started.isSome = e.config.model.performance ∧
      e.Yields ((e.asked (Probe.beforeSave i prior).question).rules.sift e.snapshot i.entity
        (changesOf i prior)).2 [] e' := by
  have hasked := excludesCounted_of_admitted (k := .model) hanswer
  have hyields : e.Yields ((e.asked (Probe.beforeSave i prior).question).rules.sift e.snapshot
      i.entity (changesOf i prior)).2 [] { e with
        rules := ((e.asked (Probe.beforeSave i prior).question).rules.sift e.snapshot i.entity
          (changesOf i prior)).2 } := ⟨rfl, rfl, (List.append_nil _).symm⟩
  unfold beforeSave
  rw [henabled]
  dsimp only [Probe.question, Probe.subject, Probe.asksAbout] at hasked hyields ⊢
  rw [hasked]
  dsimp only
  rw [admitChanges_eq]
  dsimp only
  have hconfig : ∀ r, Engine.config { e.asked (.model i.entity
      (if prior.isSome then .modify else .create)) with rules := r } = e.config := fun _ => rfl
  rw [hconfig]
  cases hperformance : e.config.model.performance with
  | true => exact ⟨_, _, rfl, rfl, hyields.silent (yields_now _)⟩
  | false => exact ⟨_, _, rfl, rfl, hyields⟩

theorem afterSave_excluded {created : Bool} {touched : Option (List String)}
    (henabled : e.config.isEnabled .model = true)
    (hanswer : e.answer (Probe.afterSave i created touched).question = true) :
    ∃ e', e.afterSave i created touched c = (c.discardPending i, e') ∧
      e.Yields (e.asked (Probe.afterSave i created touched).question).rules [] e' := by
  have hasked := excludesCounted_of_excluded (k := .model) hanswer
  refine ⟨_, ?_, (yields_asked _ e).silent (yields_countExcluded .model _)⟩
  unfold afterSave
  rw [henabled]
  dsimp only [Probe.question, Probe.subject, Probe.asksAbout] at hasked ⊢
  rw [hasked]
  rfl

/-- The modifications of a save that are kept: those of the fields named, if fields are named. -/
def keptOf (pending : Option PendingSave) (touched : Option (List String)) :
    List ValueModification :=
  ((pending.map (·.modifications)).getD []).filter fun m => touched.all (·.contains m.field.name)

/-- A save makes an event of what was taken down before it. -/
theorem afterSave_admitted {created : Bool} {touched : Option (List String)}
    (henabled : e.config.isEnabled .model = true)
    (hanswer : e.answer (Probe.afterSave i created touched).question = false) :
    ∃ id entryId time duration e' m,
      m = { (c.takePending i).2.event i (if created then .create else .modify) id entryId time with
        modifications := keptOf (c.takePending i).1 touched
        snapshot := e.snapshotOf i
        duration := duration } ∧
      duration.isSome = ((c.takePending i).1.bind (·.started)).isSome ∧
      e.afterSave i created touched c = ((c.takePending i).2.enter i m, e') ∧
      e.Yields (e.asked (Probe.afterSave i created touched).question).rules
        (if m.isEmptyModification then [] else [e.mutationLine i m]) e' := by
  have hasked := excludesCounted_of_admitted (k := .model) hanswer
  obtain ⟨id, entryId, time, e₁, hnew, hquiet⟩ :=
    newEvent_forced i (if created then .create else .modify) (c.takePending i).2
      (e.asked (Probe.afterSave i created touched).question)
  have hyields₁ := (yields_asked _ e).silent hquiet
  obtain ⟨hmeasure, hduration⟩ := yields_measure ((c.takePending i).1.bind (·.started)) e₁
  have hyields := hyields₁.silent hmeasure
  generalize hm : ({ (c.takePending i).2.event i (if created then .create else .modify) id entryId
      time with
    modifications := keptOf (c.takePending i).1 touched
    snapshot := e.snapshotOf i
    duration := (e₁.measure ((c.takePending i).1.bind (·.started))).1 } : MutationEvent) = m
  have hresult : e.afterSave i created touched c = ((c.takePending i).2.enter i m,
      if m.isEmptyModification then (e₁.measure ((c.takePending i).1.bind (·.started))).2
      else (e₁.measure ((c.takePending i).1.bind (·.started))).2.announceMutation i m) := by
    unfold afterSave
    rw [henabled]
    dsimp only [Probe.question, Probe.subject, Probe.asksAbout] at hasked hnew ⊢
    rw [hasked]
    dsimp only
    rw [hnew]
    dsimp only
    rw [Context.editEvent_enter, Context.getElem?_enter, hyields.snapshotOf]
    subst hm
    rfl
  refine ⟨id, entryId, time, _, _, m, hm.symm, hduration, hresult, ?_⟩
  split
  next => exact hyields
  next => exact hyields.announceMutation i m

theorem afterDelete_excluded (henabled : e.config.isEnabled .model = true)
    (hanswer : e.answer (Probe.afterDelete i).question = true) :
    ∃ e', e.afterDelete i c = (c.discardPending i, e') ∧
      e.Yields (e.asked (Probe.afterDelete i).question).rules [] e' := by
  have hasked := excludesCounted_of_excluded (k := .model) hanswer
  refine ⟨_, ?_, (yields_asked _ e).silent (yields_countExcluded .model _)⟩
  unfold afterDelete
  rw [henabled]
  dsimp only [Probe.question, Probe.subject, Probe.asksAbout] at hasked ⊢
  rw [hasked]
  rfl

/-- A deletion makes an event. -/
theorem afterDelete_admitted (henabled : e.config.isEnabled .model = true)
    (hanswer : e.answer (Probe.afterDelete i).question = false) :
    ∃ id entryId time e' m,
      m = { c.event i .delete id entryId time with snapshot := e.snapshotOf i } ∧
      e.afterDelete i c = ((c.discardPending i).enter i m, e') ∧
      e.Yields (e.asked (Probe.afterDelete i).question).rules [e.mutationLine i m] e' := by
  have hasked := excludesCounted_of_admitted (k := .model) hanswer
  obtain ⟨id, entryId, time, e₁, hnew, hquiet⟩ :=
    newEvent_forced i .delete (c.discardPending i) (e.asked (Probe.afterDelete i).question)
  have hyields := (yields_asked _ e).silent hquiet
  refine ⟨id, entryId, time, _, _, rfl, ?_, hyields.announceMutation i _⟩
  unfold afterDelete
  rw [henabled]
  dsimp only [Probe.question, Probe.subject, Probe.asksAbout] at hasked hnew ⊢
  rw [hasked]
  dsimp only
  rw [hnew]
  dsimp only
  rw [Context.editEvent_enter, Context.getElem?_enter, hyields.snapshotOf]
  rfl

/-! Relations. -/

section Relation

variable {field : String} {related : List Instance} {action : RelationAction}

theorem relation_empty (c : Context) (e : Engine σ τ) :
    e.relationChanged i field [] action c = (c, e) := by
  simp [relationChanged]

theorem relation_excluded (henabled : e.config.isEnabled .model = true) (hrelated : related ≠ [])
    (hanswer : e.answer (Probe.relation i field related action).question = true) :
    ∃ e', e.relationChanged i field related action c = (c, e') ∧
      e.Yields (e.asked (Probe.relation i field related action).question).rules [] e' := by
  have hasked := excludesCounted_of_excluded (k := .model) hanswer
  refine ⟨_, ?_, (yields_asked _ e).silent (yields_countExcluded .model _)⟩
  unfold relationChanged
  rw [henabled, List.isEmpty_eq_false_iff.mpr hrelated]
  dsimp only [Probe.question, Probe.subject, Probe.asksAbout] at hasked ⊢
  rw [hasked]
  rfl

theorem relation_undeclared (henabled : e.config.isEnabled .model = true) (hrelated : related ≠ [])
    (hanswer : e.answer (Probe.relation i field related action).question = false)
    (hfield : i.entity.fieldDef? field = none) :
    ∃ e', e.relationChanged i field related action c = (c, e') ∧
      e.Yields (e.asked (Probe.relation i field related action).question).rules [] e' := by
  have hasked := excludesCounted_of_admitted (k := .model) hanswer
  refine ⟨_, ?_, (yields_asked _ e).silent
    (yields_note .warn "Relationship change on an undeclared field, not recorded"
      [("entity", i.entity.qualifiedName), ("field", field)] _)⟩
  unfold relationChanged
  rw [henabled, List.isEmpty_eq_false_iff.mpr hrelated]
  dsimp only [Probe.question, Probe.subject, Probe.asksAbout] at hasked ⊢
  rw [hasked]
  dsimp only
  rw [hfield]
  rfl

theorem relation_fieldExcluded {d : FieldDef} (henabled : e.config.isEnabled .model = true)
    (hrelated : related ≠ [])
    (hanswer : e.answer (Probe.relation i field related action).question = false)
    (hfield : i.entity.fieldDef? field = some d)
    (hanswer' : (e.asked (Probe.relation i field related action).question).answer
      (.field i.entity field) = true) :
    ∃ e', e.relationChanged i field related action c = (c, e') ∧
      e.Yields ((e.asked (Probe.relation i field related action).question).asked
        (.field i.entity field)).rules [] e' := by
  have hasked := excludesCounted_of_admitted (k := .model) hanswer
  refine ⟨_, ?_, (yields_asked _ e).trans (yields_asked _ _)⟩
  unfold relationChanged
  rw [henabled, List.isEmpty_eq_false_iff.mpr hrelated]
  dsimp only [Probe.question, Probe.subject, Probe.asksAbout] at hasked hanswer' ⊢
  rw [hasked]
  dsimp only
  rw [hfield]
  dsimp only
  rw [excludes_eq, hanswer']
  rfl

/-- The event with more modifications of relations. -/
def addRelationships (relationships : List RelationshipModification) (m : MutationEvent) :
    MutationEvent :=
  { m with relationships := m.relationships ++ relationships }

/-- A change of a relation that the rules admit is added to an event of its owner. -/
theorem relation_admitted {d : FieldDef}
    (henabled : e.config.isEnabled .model = true) (hrelated : related ≠ [])
    (hanswer : e.answer (Probe.relation i field related action).question = false)
    (hfield : i.entity.fieldDef? field = some d)
    (hanswer' : (e.asked (Probe.relation i field related action).question).answer
      (.field i.entity field) = false) :
    ∃ relationships e₁,
      List.Forall₂ (fun m i' => ∃ id, m = ⟨action.operation,
        .named d.name (.ofType i.entity) d.typeLabel, .ofInstance id i'⟩) relationships related ∧
      e.Yields ((e.asked (Probe.relation i field related action).question).asked
        (.field i.entity field)).rules [] e₁ ∧
      ∀ position c₂ e₂, e₁.newEvent i .modify false c = (position, c₂, e₂) →
        e₂.config = e.config → e.relationChanged i field related action c =
          (c₂.editEvent position (addRelationships relationships),
            e₂.announce e.config.model.loglevel (e.relationLine
              ((c₂.editEvent position (addRelationships relationships)).events[position]?.bind
                (·.actor)) i field relationships).message) := by
  have hasked := excludesCounted_of_admitted (k := .model) hanswer
  obtain ⟨hrelationships, hrelate⟩ := relate_spec action.operation
    (.named d.name (.ofType i.entity) d.typeLabel) related
    ((e.asked (Probe.relation i field related action).question).asked (.field i.entity field))
  generalize hresult : relate action.operation (.named d.name (.ofType i.entity) d.typeLabel)
    related ((e.asked (Probe.relation i field related action).question).asked
      (.field i.entity field)) = result at hrelationships hrelate
  obtain ⟨relationships, e₁⟩ := result
  refine ⟨relationships, e₁, hrelationships,
    ((yields_asked _ e).trans (yields_asked _ _)).silent hrelate, ?_⟩
  intro position c₂ e₂ hnew hconfig
  unfold relationChanged
  rw [henabled, List.isEmpty_eq_false_iff.mpr hrelated]
  dsimp only [Probe.question, Probe.subject, Probe.asksAbout] at hasked hanswer' hresult ⊢
  rw [hasked]
  dsimp only
  rw [hfield]
  dsimp only
  rw [excludes_eq, hanswer']
  dsimp only
  rw [hresult]
  dsimp only
  rw [hnew]
  dsimp only
  rw [hconfig]
  rfl

/-- It joins the event in flight, if there is one. -/
theorem relation_inFlight {d : FieldDef} {position : Nat}
    (henabled : e.config.isEnabled .model = true) (hrelated : related ≠ [])
    (hanswer : e.answer (Probe.relation i field related action).question = false)
    (hfield : i.entity.fieldDef? field = some d)
    (hanswer' : (e.asked (Probe.relation i field related action).question).answer
      (.field i.entity field) = false)
    (hposition : c.memo.lookup (.of i) = some position) :
    ∃ relationships e',
      List.Forall₂ (fun m i' => ∃ id, m = ⟨action.operation,
        .named d.name (.ofType i.entity) d.typeLabel, .ofInstance id i'⟩) relationships related ∧
      e.relationChanged i field related action c =
        (c.editEvent position (addRelationships relationships), e') ∧
      e.Yields ((e.asked (Probe.relation i field related action).question).asked
        (.field i.entity field)).rules
        [e.relationLine (c.events[position]?.bind (·.actor)) i field relationships] e' := by
  obtain ⟨relationships, e₁, hrelationships, hyields, hresult⟩ :=
    relation_admitted (c := c) henabled hrelated hanswer hfield hanswer'
  have hactor : (c.editEvent position (addRelationships relationships)).events[position]?.bind
      (·.actor) = c.events[position]?.bind (·.actor) := by
    unfold Context.editEvent
    rw [List.getElem?_modify_eq]
    cases c.events[position]? <;> rfl
  refine ⟨relationships, _, hrelationships,
    hresult position c e₁ (newEvent_inFlight hposition) hyields.config, ?_⟩
  rw [hactor]
  exact hyields.announce e.config.model.loglevel _

/-- Otherwise it makes a new event, which is a modification. -/
theorem relation_new {d : FieldDef}
    (henabled : e.config.isEnabled .model = true) (hrelated : related ≠ [])
    (hanswer : e.answer (Probe.relation i field related action).question = false)
    (hfield : i.entity.fieldDef? field = some d)
    (hanswer' : (e.asked (Probe.relation i field related action).question).answer
      (.field i.entity field) = false)
    (hposition : c.memo.lookup (.of i) = none) :
    ∃ relationships id entryId time e',
      List.Forall₂ (fun m i' => ∃ id, m = ⟨action.operation,
        .named d.name (.ofType i.entity) d.typeLabel, .ofInstance id i'⟩) relationships related ∧
      e.relationChanged i field related action c =
        (c.enter i { c.event i .modify id entryId time with relationships := relationships }, e') ∧
      e.Yields ((e.asked (Probe.relation i field related action).question).asked
        (.field i.entity field)).rules [e.relationLine c.actor i field relationships] e' := by
  obtain ⟨relationships, e₁, hrelationships, hyields₁, hresult⟩ :=
    relation_admitted (c := c) henabled hrelated hanswer hfield hanswer'
  obtain ⟨id, entryId, time, e₂, hnew, hquiet⟩ := newEvent_unless .modify hposition e₁
  have hyields := hyields₁.silent hquiet
  have hrelation := hresult _ _ _ hnew hyields.config
  rw [Context.editEvent_enter, Context.getElem?_enter] at hrelation
  exact ⟨relationships, id, entryId, time, _, hrelationships, hrelation,
    hyields.announce e.config.model.loglevel _⟩

end Relation

end Engine

end AuditTrail
