import AuditTrail.Proofs.Mutation.Changes
import AuditTrail.Proofs.Mutation.Recording

/-
  What becomes of one save. A host tells the engine of it twice, before it and after it (`Save`),
  on a context in which nothing waits. Both times the rules are asked whether the operation is
  excluded, and the second answer is the first (`Rules.Settled`); the changes admitted in between
  are those that the rules would have admitted one by one at the start (`Rules.sift_faithful`). What
  waits after the first call is taken by the second, also where the instance has got its primary key
  between the two (`Save.takePending_stash`).

  Main statement: `save_recorded`. A save whose operation is not excluded gives the context one
  event more, which says what was saved and what of it changed (`Save.RecordedBy`), and nothing
  else.
-/
namespace AuditTrail

variable {σ τ : Type}

/-! ## Saves -/

/-- A save of an instance. The stored state, if there is one, is of the same type, and a primary key
that the instance has before the save it has after it. -/
structure Save where
  post : Instance
  prior : Option Instance
  /-- The primary key after the save. -/
  primaryKey : Option String
  /-- The fields that were written, if they are named. -/
  touched : Option (List String)
  sameType : ∀ p ∈ prior, p.entity = post.entity
  keepsKey : post.primaryKey = none ∨ primaryKey = post.primaryKey

namespace Save

/-- The instance after the save. -/
def saved (s : Save) : Instance := { s.post with primaryKey := s.primaryKey }

/-- What the save does. -/
def operation (s : Save) : Operation := if s.prior.isSome then .modify else .create

/-- What the engine is told. -/
def probes (s : Save) : List Probe :=
  [.beforeSave s.post s.prior, .afterSave s.saved s.prior.isNone s.touched]

/-- The changes that a save makes to the values of declared fields. -/
def changes (s : Save) : List Change :=
  Change.between ((s.prior.map (·.declaredValues)).getD []) s.post.declaredValues

/-- Those that are to be recorded: the field is not excluded, and it is one of those written if they
are named. -/
def recorded (s : Save) (e : Engine σ τ) : List Change :=
  s.changes.filter fun change =>
    !e.answer (.field s.post.entity change.key) && s.touched.all (·.contains change.key)

/-- A modification that shows a change under the declared name and type of its field. -/
def Shows (s : Save) (m : ValueModification) (change : Change) : Prop :=
  ∃ d, s.post.entity.fieldDef? change.key = some d ∧ d.name = change.key ∧
    m = ⟨change.operation, .named d.name (.ofType s.post.entity) d.typeLabel,
      change.previous, change.current⟩

/-- What the event of a save has to say, made by an engine on behalf of an actor. -/
structure RecordedBy (s : Save) (e : Engine σ τ) (actor : Option String) (m : MutationEvent) :
    Prop where
  operation : m.operation = s.operation
  actor : m.actor = actor
  entry : ∃ id, m.entry = .ofInstance id s.saved
  modifications : List.Forall₂ s.Shows m.modifications (s.recorded e)
  relationships : m.relationships = []
  snapshot : m.snapshot = if e.config.model.snapshot then some s.saved.snapshot else none
  duration : m.duration.isSome = e.config.model.performance

/-! ## What waits between the two calls -/

/-- What is taken down before a save is taken after it, whether or not the key is new. -/
theorem takePending_stash (s : Save) {c : Context} (hpending : c.pending = []) (p : PendingSave) :
    (c.stash s.post p).takePending s.saved = (some p, c) := by
  have hremoved : ∀ k, k = InstanceKey.of s.post →
      { c.stash s.post p with pending := Keyed.remove k (c.stash s.post p).pending } = c := by
    rintro k rfl
    have hempty : Keyed.remove (.of s.post) (c.stash s.post p).pending = c.pending := by
      rw [Context.stash, Keyed.put, hpending, Keyed.remove, List.filter_cons, bne_self_eq_false]
      rfl
    rw [hempty]
    rfl
  have hlookup := Context.lookup_stash s.post p c
  by_cases hsame : s.primaryKey = s.post.primaryKey
  · have hkey : InstanceKey.of s.saved = .of s.post := by rw [InstanceKey.of, saved, hsame]; rfl
    rw [Context.takePending_of_some (by rw [hlookup, if_pos hkey]), hremoved _ hkey]
  · -- The instance has got its primary key in between, so it is found under the key without one.
    have hnew : s.post.primaryKey = none := s.keepsKey.resolve_right hsame
    have hkey : InstanceKey.of s.saved ≠ .of s.post := by
      intro heq
      exact hsame (congrArg InstanceKey.primaryKey heq)
    have hunsaved : (InstanceKey.of s.saved).unsaved = .of s.post := by
      rw [InstanceKey.of, InstanceKey.of, hnew]
      rfl
    have hnone : (c.stash s.post p).pending.lookup (.of s.saved) = none := by
      rw [hlookup, if_neg hkey, hpending, List.lookup_nil]
    rw [Context.takePending_of_none hnone, hlookup, if_pos hunsaved, hremoved _ hunsaved]

/-! ## Modifications -/

/-- Every change of a declared field is shown. -/
theorem shows_filterMap (s : Save) {changes : List Change}
    (hdeclared : ∀ change ∈ changes, s.post.entity.declares change.key = true) :
    List.Forall₂ s.Shows (changes.filterMap (Engine.modificationOf s.post.entity)) changes := by
  induction changes with
  | nil => exact .nil
  | cons change changes ih =>
    obtain ⟨d, hd⟩ := Engine.exists_fieldDef? (hdeclared change List.mem_cons_self)
    have hname : d.name = change.key := by
      rw [EntityType.fieldDef?] at hd
      have hfound := List.find?_some hd
      exact beq_iff_eq.mp hfound
    have hshown : Engine.modificationOf s.post.entity change =
        some ⟨change.operation, .named d.name (.ofType s.post.entity) d.typeLabel,
          change.previous, change.current⟩ := by
      rw [Engine.modificationOf, hd, Option.map_some]
    rw [List.filterMap_cons, hshown]
    exact .cons ⟨d, hd, hname, rfl⟩
      (ih fun other hother => hdeclared other (List.mem_cons_of_mem _ hother))

/-- A modification stands under the name of the key that changed, so fields may be named by it. -/
theorem Shows.name {s : Save} {m : ValueModification} {change : Change} (h : s.Shows m change) :
    m.field.name = change.key := by
  obtain ⟨d, -, hname, rfl⟩ := h
  exact hname

/-- Of the modifications taken down those are kept that show changes of the fields written. -/
theorem shows_keptOf (s : Save) {changes : List Change}
    (hdeclared : ∀ change ∈ changes, s.post.entity.declares change.key = true)
    (started : Option Timestamp) :
    List.Forall₂ s.Shows
      (Engine.keptOf (some ⟨changes.filterMap (Engine.modificationOf s.post.entity), started⟩)
        s.touched)
      (changes.filter fun change => s.touched.all (·.contains change.key)) := by
  refine List.rel_filter ?_ (s.shows_filterMap hdeclared)
  intro m change hshows
  dsimp only
  rw [hshows.name]

/-! ## The two calls -/

/-- Before the save the changes are taken down that the rules admit one by one, and what the rules
will be asked after it is allowed. -/
theorem beforeSave_takesDown (s : Save) (c : Context) {e : Engine σ τ}
    (henabled : e.config.isEnabled .model = true)
    (hallowed : e.answer (.model s.post.entity s.operation) = false) :
    ∃ started e₁, e.beforeSave s.post s.prior c =
        (c.stash s.post ⟨(s.changes.filter fun change =>
          !e.answer (.field s.post.entity change.key)).filterMap
            (Engine.modificationOf s.post.entity), started⟩, e₁) ∧
      started.isSome = e.config.model.performance ∧ e₁.settings = e.settings ∧
      e₁.answer (.model s.post.entity s.operation) = false := by
  have hquestion : (Probe.beforeSave s.post s.prior).question =
      .model s.post.entity s.operation := rfl
  have hanswer : e.answer (Probe.beforeSave s.post s.prior).question = false := hallowed
  have hunconfused : Unconfused (· = s.post.entity) := by
    rintro ⟨a, b, field, rfl, rfl, hconfused, -⟩
    exact hconfused.2.2 rfl
  have hfaithful : Rules.Faithful (· = s.post.entity) e.snapshot e.rules
      (e.asked (.model s.post.entity s.operation)).rules := (Rules.Faithful.refl _ _ _).model _ _
  obtain ⟨hsift, -⟩ :=
    Rules.sift_faithful hunconfused rfl (Engine.changesOf_declared s.sameType) hfaithful
  obtain ⟨started, e₁, hresult, hstarted, hyields⟩ :=
    Engine.beforeSave_admitted (c := c) henabled hanswer
  refine ⟨started, e₁, ?_, hstarted, hyields.settings, ?_⟩
  · rw [hresult, hquestion, hsift]
    rfl
  · have hsettled := (Engine.settled_asked hanswer).sift
      s.post.entity (Engine.changesOf s.post s.prior)
    rw [Engine.answer, hyields.rules, hyields.snapshot]
    exact hsettled.answer rfl

/-- After the save what was taken down comes into an event. -/
theorem afterSave_records (s : Save) {c : Context} (hpending : c.pending = []) (p : PendingSave)
    {e : Engine σ τ} (henabled : e.config.isEnabled .model = true)
    (hallowed : e.answer (.model s.post.entity s.operation) = false) :
    ∃ m e', e.afterSave s.saved s.prior.isNone s.touched (c.stash s.post p) =
        (c.enter s.saved m, e') ∧
      m.operation = s.operation ∧ m.actor = c.actor ∧ (∃ id, m.entry = .ofInstance id s.saved) ∧
      m.modifications = Engine.keptOf (some p) s.touched ∧ m.relationships = [] ∧
      m.snapshot = e.snapshotOf s.saved ∧ m.duration.isSome = p.started.isSome := by
  have hoperation : (if s.prior.isNone then Operation.create else .modify) = s.operation := by
    rw [operation]
    cases s.prior <;> rfl
  have hquestion : (Probe.afterSave s.saved s.prior.isNone s.touched).question =
      .model s.post.entity s.operation := by
    rw [← hoperation]
    rfl
  rw [← hquestion] at hallowed
  obtain ⟨id, entryId, time, duration, e', m, hm, hduration, hresult, -⟩ :=
    Engine.afterSave_admitted (c := c.stash s.post p) henabled hallowed
  rw [s.takePending_stash hpending, hoperation] at hm
  rw [s.takePending_stash hpending] at hduration hresult
  subst hm
  exact ⟨_, e', hresult, rfl, rfl, ⟨entryId, rfl⟩, rfl, rfl, rfl, hduration⟩

/-- Completion hands over the events of a context in order, the latest one last. -/
theorem complete_enter (i : Instance) (m : MutationEvent) (c : Context) (S : Store σ τ)
    (e : Engine σ τ) :
    e.complete S (c.enter i m) = ({ c with events := [], memo := [] },
      (c.handedOver ++ if m.isEmptyModification then [] else [m]).foldl
        (fun e m => e.record S (.model m) "complete") e) := by
  have hhanded : (c.enter i m).handedOver =
      c.handedOver ++ if m.isEmptyModification then [] else [m] := by
    rw [Context.handedOver, Context.enter, List.filter_append, List.filter_singleton,
      Context.handedOver]
    cases m.isEmptyModification <;> rfl
  rw [Engine.complete, hhanded]
  rfl

/-! ## The save as a whole -/

/-- A save whose operation is not excluded, told of on a context in which nothing waits, adds one
event to the context: it says what was saved and which of the changes are to be recorded. Nothing
else in the context changes, and on completion the event is handed over after the others, unless it
is a modification that changed nothing. -/
theorem save_recorded (s : Save) (c : Context) (e : Engine σ τ)
    (henabled : e.config.isEnabled .model = true) (hpending : c.pending = [])
    (hallowed : e.answer (.model s.post.entity s.operation) = false) :
    ∃ m e', e.observeAll s.probes c =
        ({ c with
            events := c.events ++ [m]
            memo := Keyed.put (.of s.saved) c.events.length c.memo }, e') ∧
      s.RecordedBy e c.actor m ∧
      ∀ S : Store σ τ, e'.complete S (e.observeAll s.probes c).1 =
        ({ c with events := [], memo := [] },
          (c.handedOver ++ if m.isEmptyModification then [] else [m]).foldl
            (fun e m => e.record S (.model m) "complete") e') := by
  obtain ⟨started, e₁, hbefore, hstarted, hsettings, hallowed₁⟩ :=
    s.beforeSave_takesDown c henabled hallowed
  have hconfig : e₁.config = e.config := by rw [Engine.config, hsettings, Engine.config]
  rw [← hconfig] at henabled hstarted
  obtain ⟨m, e₂, hafter, hoperation, hactor, hentry, hmodifications, hrelationships, hsnapshot,
    hduration⟩ := s.afterSave_records hpending _ henabled hallowed₁
  have hresult : e.observeAll s.probes c = (c.enter s.saved m, e₂) := by
    have hfirst : e.observe (.beforeSave s.post s.prior) c = _ := hbefore
    have hsecond : e₁.observe (.afterSave s.saved s.prior.isNone s.touched) _ = _ := hafter
    rw [probes, Engine.observeAll, hfirst, Engine.observeAll, hsecond, Engine.observeAll]
  refine ⟨m, e₂, hresult, ⟨hoperation, hactor, hentry, ?_, hrelationships, ?_, ?_⟩, ?_⟩
  · have hdeclared : ∀ change ∈ s.changes.filter fun change =>
        !e.answer (.field s.post.entity change.key), s.post.entity.declares change.key = true :=
      fun change hchange => Engine.changesOf_declared s.sameType change
        (List.mem_of_mem_filter hchange)
    have hkept := s.shows_keptOf hdeclared started
    rw [List.filter_filter] at hkept
    rw [hmodifications, recorded]
    simpa only [Bool.and_comm] using hkept
  · rw [hsnapshot, Engine.snapshotOf, hconfig]
  · rw [hduration, ← hconfig, hstarted]
  · intro S
    rw [hresult]
    exact complete_enter s.saved m c S e₂

/-- A new order with a total, a note, and a code that its type keeps to itself. Only the total and
the code were written. -/
def newOrder : Save where
  post := {
    entity := {
      name := "Order"
      moduleName := some "shop"
      fields := [⟨"total", "decimal"⟩, ⟨"note", "text"⟩, ⟨"code", "text"⟩]
      ignore := { fields := ["code"] } }
    values := [("note", .string "gift"), ("total", .string "9"), ("code", .string "x")] }
  prior := none
  primaryKey := some "7"
  touched := some ["total", "code"]
  sameType := fun _ h => absurd h (Option.not_mem_none _)
  keepsKey := .inl rfl

/-- A context in which something has been deleted before. -/
def afterDeletion : Context :=
  (Engine.byDefault.observe (.afterDelete { entity := { name := "Page" }, primaryKey := some "1" })
    { actor := some "ann" }).1

theorem save_recorded_newOrder :
    Engine.byDefault.config.isEnabled .model = true ∧ afterDeletion.pending = [] ∧
      Engine.byDefault.answer (.model newOrder.post.entity newOrder.operation) = false ∧
      newOrder.recorded Engine.byDefault = [⟨.create, "total", none, some "9"⟩] ∧
      ∃ m e', Engine.byDefault.observeAll newOrder.probes afterDeletion =
          ({ afterDeletion with
              events := afterDeletion.events ++ [m]
              memo := Keyed.put (.of newOrder.saved) afterDeletion.events.length
                afterDeletion.memo }, e') ∧
        newOrder.RecordedBy Engine.byDefault (some "ann") m ∧
        ∀ S : Store Unit Unit,
          e'.complete S (Engine.byDefault.observeAll newOrder.probes afterDeletion).1 =
            ({ afterDeletion with events := [], memo := [] },
              (afterDeletion.handedOver ++ if m.isEmptyModification then [] else [m]).foldl
                (fun e m => e.record S (.model m) "complete") e') := by
  have henabled : Engine.byDefault.config.isEnabled .model = true := by decide +kernel
  have hpending : afterDeletion.pending = [] := by decide +kernel
  have hallowed : Engine.byDefault.answer
      (.model newOrder.post.entity newOrder.operation) = false := by decide +kernel
  have hactor : afterDeletion.actor = some "ann" := by decide +kernel
  have hrecorded : newOrder.recorded Engine.byDefault = [⟨.create, "total", none, some "9"⟩] := by
    decide +kernel
  have h := save_recorded newOrder afterDeletion Engine.byDefault henabled hpending hallowed
  rw [hactor] at h
  exact ⟨henabled, hpending, hallowed, hrecorded, h⟩

end Save

end AuditTrail
