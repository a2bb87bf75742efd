import AuditTrail.Engine.Requests
import AuditTrail.Store.Faulty
import AuditTrail.Store.Memory
import AuditTrail.Proofs.Handler.Operations
import AuditTrail.Proofs.Mutation.InFlight

/-
  What an engine brings to the store. A host makes calls on contexts, which are known by numbers:
  observations of entities, completions, ends of requests and log records. `Hands` says in the words
  of the settings and overrides what each call is to hand over. Every call gathers just that
  (`Call.make_gathers`), whether or not the store takes it at once, and gives nothing up; so after a
  flush that succeeds the store has been brought everything that was handed over, in order and once
  (`handed_over_once_in_order`).
-/
namespace AuditTrail

namespace Engine

variable {σ τ : Type} {S : Store σ τ}
  {staged : τ → List EventRecord} {applied : σ → List EventRecord}

/-! ## What is gathered -/

/-- An engine under the same settings and overrides that has gathered some more events. -/
structure Gathers (applied : σ → List EventRecord) (e : Engine σ τ) (events : List EventRecord)
    (e' : Engine σ τ) : Prop where
  settings : e'.settings = e.settings
  applications : e'.applications = e.applications
  rules : e.rules.PathSound → e'.rules.registry = e.rules.registry ∧ e'.rules.PathSound
  account : e'.handler.account applied = e.handler.account applied ++ events

namespace Gathers

variable {e e₁ e₂ : Engine σ τ} {events events' : List EventRecord}

theorem trans (h₁ : Gathers applied e events e₁) (h₂ : Gathers applied e₁ events' e₂) :
    Gathers applied e (events ++ events') e₂ := by
  refine ⟨h₂.settings.trans h₁.settings, h₂.applications.trans h₁.applications, ?_, ?_⟩
  · intro hsound
    obtain ⟨hregistry₁, hsound₁⟩ := h₁.rules hsound
    obtain ⟨hregistry₂, hsound₂⟩ := h₂.rules hsound₁
    exact ⟨hregistry₂.trans hregistry₁, hsound₂⟩
  · rw [h₂.account, h₁.account, List.append_assoc]

theorem idle (h₁ : Gathers applied e events e₁) (h₂ : Gathers applied e₁ [] e₂) :
    Gathers applied e events e₂ := by
  have h := h₁.trans h₂
  rwa [List.append_nil] at h

theorem config (h : Gathers applied e events e₁) : e₁.config = e.config := by
  rw [Engine.config, h.settings, Engine.config]

end Gathers

section Idle

variable (e : Engine σ τ)

theorem gathers_refl : Gathers applied e [] e :=
  ⟨rfl, rfl, fun h => ⟨rfl, h⟩, (List.append_nil _).symm⟩

/-- Who reads the clock, takes identifiers or writes to the journal gathers nothing. -/
theorem gathers_surroundings (w : Surroundings) (j : Journal) : Gathers applied e []
    { e with handler := { e.handler with surroundings := w, journal := j } } :=
  ⟨rfl, rfl, fun h => ⟨rfl, h⟩, (List.append_nil _).symm⟩

theorem gathers_report (f : Journal → Journal) : Gathers applied e [] (e.report f) :=
  gathers_surroundings e _ _

theorem gathers_asked (x : Candidate) : Gathers applied e [] (e.asked x) := by
  refine ⟨rfl, rfl, fun hsound => ⟨?_, Rules.shouldExclude_sound hsound _ _⟩,
    (List.append_nil _).symm⟩
  cases hkey : x.memoKey? e.snapshot.version with
  | some key => exact Rules.shouldExclude_registry hkey
  | none =>
    obtain ⟨globs, hglobs, -⟩ := (Rules.shouldExclude_unkeyed hsound hkey).2
    rw [asked, hglobs]

theorem gathers_excludesCounted (k : Category) (x : Candidate) :
    Gathers applied e [] (e.excludesCounted k x).2 := by
  have hasked : Gathers applied e [] (e.asked x) := gathers_asked e x
  rw [excludesCounted, excludes_eq]
  dsimp only
  split
  next => exact hasked.idle (gathers_surroundings _ _ _)
  next => exact hasked

theorem gathers_admitChanges (entity : EntityType) (changes : List Change) :
    Gathers applied e [] (e.admitChanges entity changes).2 := by
  induction changes generalizing e with
  | nil => exact gathers_refl e
  | cons change changes ih =>
    exact (gathers_asked e (.field entity change.key)).idle (ih _)

theorem gathers_newEvent (i : Instance) (op : Operation) (force : Bool) (c : Context) :
    Gathers applied e [] (e.newEvent i op force c).2.2 :=
  gathers_surroundings e _ _

theorem gathers_measure (started : Option Timestamp) :
    Gathers applied e [] (e.measure started).2 := by
  cases started with
  | none => exact gathers_refl e
  | some start => exact gathers_surroundings e _ _

theorem gathers_relate (op : Operation) (mirror : FieldMirror) (related : List Instance) :
    Gathers applied e [] (e.relate op mirror related).2 := by
  induction related generalizing e with
  | nil => exact gathers_refl e
  | cons i related ih => exact (gathers_surroundings e _ _).idle (ih e.fresh.2)

end Idle

/-- Who asks about a candidate gathers only what is gathered for an admitted one. -/
theorem Gathers.ask {k : Category} {x : Candidate} {e : Engine σ τ} {α : Type}
    {excluded admitted : Engine σ τ → α × Engine σ τ}
    (hexcluded : ∀ e, Gathers applied e [] (excluded e).2)
    (hadmitted : ∀ e, Gathers applied e [] (admitted e).2) :
    Gathers applied e [] (match e.excludesCounted k x with
      | (true, e) => excluded e
      | (false, e) => admitted e).2 := by
  have hasked : Gathers applied e [] (e.excludesCounted k x).2 := gathers_excludesCounted e k x
  generalize e.excludesCounted k x = asked at hasked
  obtain ⟨answer, e₁⟩ := asked
  cases answer with
  | true => exact hasked.idle (hexcluded e₁)
  | false => exact hasked.idle (hadmitted e₁)

theorem gathers_beforeSave (i : Instance) (prior : Option Instance) (c : Context)
    (e : Engine σ τ) : Gathers applied e [] (e.beforeSave i prior c).2 := by
  unfold beforeSave
  split
  next => exact gathers_refl e
  next =>
    refine .ask gathers_refl fun e => ?_
    dsimp only
    split
    next => exact (gathers_admitChanges e _ _).idle (gathers_surroundings _ _ _)
    next => exact gathers_admitChanges e _ _

theorem gathers_afterSave (i : Instance) (created : Bool) (touched : Option (List String))
    (c : Context) (e : Engine σ τ) :
    Gathers applied e [] (e.afterSave i created touched c).2 := by
  unfold afterSave
  split
  next => exact gathers_refl e
  next =>
    generalize (if created then Operation.create else .modify) = operation
    refine .ask gathers_refl fun e => ?_
    have hnew : Gathers applied e [] (e.newEvent i operation true (c.takePending i).2).2.2 :=
      gathers_newEvent e i operation true _
    have hbuilt := hnew.idle (gathers_measure _ ((c.takePending i).1.bind (·.started)))
    dsimp only
    split
    next => exact hbuilt
    next =>
      split
      next => exact hbuilt
      next => exact hbuilt.idle (gathers_surroundings _ _ _)

theorem gathers_afterDelete (i : Instance) (c : Context) (e : Engine σ τ) :
    Gathers applied e [] (e.afterDelete i c).2 := by
  unfold afterDelete
  split
  next => exact gathers_refl e
  next =>
    refine .ask gathers_refl fun e => ?_
    have hbuilt : Gathers applied e [] (e.newEvent i .delete true (c.discardPending i)).2.2 :=
      gathers_newEvent e i .delete true _
    dsimp only
    split
    next => exact hbuilt
    next => exact hbuilt.idle (gathers_surroundings _ _ _)

theorem gathers_relationChanged (owner : Instance) (field : String) (related : List Instance)
    (action : RelationAction) (c : Context) (e : Engine σ τ) :
    Gathers applied e [] (e.relationChanged owner field related action c).2 := by
  unfold relationChanged
  split
  next => exact gathers_refl e
  next =>
    refine .ask gathers_refl fun e => ?_
    split
    next => exact gathers_surroundings e _ _
    next d hd =>
      have hasked : Gathers applied e [] (e.asked (.field owner.entity field)) :=
        gathers_asked e _
      rw [excludes_eq]
      cases e.answer (.field owner.entity field) with
      | true => exact hasked
      | false =>
        have hrelated := hasked.idle (gathers_relate _ action.operation
          (.named d.name (.ofType owner.entity) d.typeLabel) related)
        exact (hrelated.idle (gathers_newEvent _ owner .modify false c)).idle
          (gathers_surroundings _ _ _)

theorem gathers_observe (p : Probe) (c : Context) (e : Engine σ τ) :
    Gathers applied e [] (e.observe p c).2 := by
  cases p with
  | beforeSave i prior => exact gathers_beforeSave i prior c e
  | afterSave i created touched => exact gathers_afterSave i created touched c e
  | afterDelete i => exact gathers_afterDelete i c e
  | relation owner field related action =>
    exact gathers_relationChanged owner field related action c e

end Engine

/-! ## What is handed over -/

/-- The event tells something: it is no modification that changed nothing. -/
def MutationEvent.Tells (m : MutationEvent) : Prop :=
  m.operation ≠ .modify ∨ m.modifications ≠ [] ∨ m.relationships ≠ []

instance (m : MutationEvent) : Decidable m.Tells :=
  inferInstanceAs (Decidable (_ ∨ _ ∨ _))

theorem MutationEvent.tells_iff (m : MutationEvent) : m.Tells ↔ m.isEmptyModification = false := by
  rw [Tells, isEmptyModification, Bool.and_eq_false_iff, Bool.and_eq_false_iff, beq_eq_false_iff_ne,
    List.isEmpty_eq_false_iff, List.isEmpty_eq_false_iff, or_assoc]

/-- The events of a context that tell something, as the store is brought them. -/
def Context.toBring (c : Context) : List EventRecord := (c.events.filter (·.Tells)).map .model

theorem Context.handedOver_map (c : Context) : c.handedOver.map .model = c.toBring := by
  rw [handedOver, toBring]
  congr 1
  refine List.filter_congr fun m _ => ?_
  rw [Bool.eq_iff_iff, Bool.not_eq_true', decide_eq_true_iff, m.tells_iff]

/-- The event of a request under some settings. -/
def RequestInfo.event (info : RequestInfo) (settings : RequestConfig) (actor : Option String)
    (id : Uuid) (createdAt : Timestamp) : RequestEvent where
  id := id
  createdAt := createdAt
  actor := actor
  uri := if settings.data.query then info.uri else info.path
  status := info.status
  method := Text.upper info.method
  application := .named info.application
  clientIp := if settings.ip then info.clientIp else none
  request := settings.data.capture .request info.requestBody
  response := settings.data.capture .response info.responseBody

/-- The event of a log record, where some applications are known. -/
def LogRecord.event (r : LogRecord) (known : List String) (id : Uuid) (createdAt : Timestamp) :
    UnspecifiedEvent where
  id := id
  createdAt := createdAt
  message := r.message
  level := r.level
  line := r.line
  file := r.file
  application := .named (r.application? known)

namespace Engine

/-- Requests are kept, and this one is not excluded. -/
structure AdmitsRequest (e : Engine σ τ) (info : RequestInfo) : Prop where
  enabled : e.config.isEnabled .request = true
  allowed : e.rules.registry.decides e.config
    (.request info.handler info.method info.application info.status) = false

/-- Log records are kept from some level on, and this one has it, does not come from this library
and is not excluded. -/
structure AdmitsLog (e : Engine σ τ) (r : LogRecord) : Prop where
  enabled : e.config.isEnabled .unspecified = true
  level : e.config.unspecified.loglevel.value ≤ r.level.value
  foreign : ∀ path ∈ r.moduleName, isOwnModule path = false
  allowed : e.rules.registry.decides e.config (.log (r.application? e.applications) r.file) = false

/-- A call to an engine. Contexts are known by numbers. -/
inductive Call where
  | observe (n : Nat) (p : Probe)
  | complete (n : Nat)
  | requestFinished (n : Nat) (info : RequestInfo)
  | logRecorded (r : LogRecord)

/-- What a call hands over, by the settings, overrides and known applications of an engine. -/
inductive Hands (e : Engine σ τ) (contexts : Nat → Context) : Call → List EventRecord → Prop
  | observe (n : Nat) (p : Probe) : Hands e contexts (.observe n p) []
  | complete (n : Nat) : Hands e contexts (.complete n) (contexts n).toBring
  | requestAdmitted (n : Nat) (info : RequestInfo) (id : Uuid) (createdAt : Timestamp)
      (h : e.AdmitsRequest info) : Hands e contexts (.requestFinished n info)
        ((contexts n).toBring ++
          [.request (info.event e.config.request (contexts n).actor id createdAt)])
  | requestPassedOver (n : Nat) (info : RequestInfo) (h : ¬ e.AdmitsRequest info) :
      Hands e contexts (.requestFinished n info) (contexts n).toBring
  | logAdmitted (r : LogRecord) (id : Uuid) (createdAt : Timestamp) (h : e.AdmitsLog r) :
      Hands e contexts (.logRecorded r) [.unspecified (r.event e.applications id createdAt)]
  | logPassedOver (r : LogRecord) (h : ¬ e.AdmitsLog r) : Hands e contexts (.logRecorded r) []

/-! ## Single calls -/

theorem gathers_record (hS : S.Transactional staged applied) {e : Engine σ τ}
    (hsync : e.config.handler.background = false) (event : EventRecord) (observation : String) :
    Gathers applied e [event] (e.record S event observation) := by
  have haccount := Handler.record_account hS hsync event e.handler
  unfold record
  generalize e.handler.record S e.config event = recorded at haccount
  obtain ⟨result, h⟩ := recorded
  cases result with
  | ok u => exact ⟨rfl, rfl, fun hsound => ⟨rfl, hsound⟩, haccount⟩
  | error error => exact ⟨rfl, rfl, fun hsound => ⟨rfl, hsound⟩, haccount⟩

theorem gathers_complete (hS : S.Transactional staged applied) {e : Engine σ τ}
    (hsync : e.config.handler.background = false) (c : Context) :
    Gathers applied e c.toBring (e.complete S c).2 := by
  rw [← c.handedOver_map]
  unfold complete
  dsimp only
  generalize c.handedOver = events
  induction events generalizing e with
  | nil => exact gathers_refl e
  | cons m events ih =>
    have hfirst := gathers_record hS hsync (.model m) "complete"
    exact hfirst.trans (ih (by rw [hfirst.config, hsync]))

/-- Remembered decisions do not matter for requests and log records. -/
theorem answer_of_unkeyed {e : Engine σ τ} (hsound : e.rules.PathSound) {x : Candidate}
    (hx : x.memoKey? e.snapshot.version = none) :
    e.answer x = e.rules.registry.decides e.config x :=
  (Rules.shouldExclude_unkeyed hsound hx).1

theorem requestEvent_spec (applied : σ → List EventRecord) (info : RequestInfo)
    (actor : Option String) (e : Engine σ τ) :
    ∃ id createdAt, (e.requestEvent info actor).1 = info.event e.config.request actor id createdAt ∧
      Gathers applied e [] (e.requestEvent info actor).2 :=
  ⟨_, _, rfl, gathers_surroundings e _ _⟩

theorem requestFinished_fst (S : Store σ τ) (info : RequestInfo) (c : Context) (e : Engine σ τ) :
    (e.requestFinished S info c).1 = c.takeEvents.2 := by
  unfold requestFinished
  dsimp only
  split
  next => rfl
  next => split <;> rfl

/-- The end of a request hands over the events of its context, and then itself. -/
theorem requestFinished_gathers (hS : S.Transactional staged applied) {e : Engine σ τ}
    (hsync : e.config.handler.background = false) (hsound : e.rules.PathSound)
    (contexts : Nat → Context) (n : Nat) (info : RequestInfo) :
    ∃ events, Hands e contexts (.requestFinished n info) events ∧
      Gathers applied e events (e.requestFinished S info (contexts n)).2 := by
  have hcomplete := gathers_complete hS hsync (contexts n)
  obtain ⟨hregistry, hsound'⟩ := hcomplete.rules hsound
  have hactor : (e.complete S (contexts n)).1.actor = (contexts n).actor := rfl
  unfold requestFinished
  generalize e.complete S (contexts n) = completed at hcomplete hregistry hsound' hactor
  obtain ⟨c, e₁⟩ := completed
  dsimp only at hcomplete hregistry hsound' hactor ⊢
  generalize hx : Candidate.request info.handler info.method info.application info.status = x
  have hanswer : e₁.answer x = e.rules.registry.decides e.config x := by
    rw [answer_of_unkeyed hsound' (by rw [← hx]; rfl), hregistry, hcomplete.config]
  have hasked := hcomplete.idle (gathers_asked e₁ x)
  by_cases hadmits : e.AdmitsRequest info
  · have hallowed : e₁.answer x = false := by rw [hanswer, ← hx, hadmits.allowed]
    rw [hcomplete.config, hadmits.enabled, excludesCounted_of_admitted hallowed, hactor]
    obtain ⟨id, createdAt, hevent, hmade⟩ :=
      requestEvent_spec applied info (contexts n).actor (e₁.asked x)
    rw [hasked.config] at hevent
    refine ⟨_, .requestAdmitted n info id createdAt hadmits, ?_⟩
    rw [← hevent]
    have hmade' := hasked.idle hmade
    refine (hmade'.idle (gathers_report _ _)).trans (gathers_record hS ?_ _ _)
    exact (congrArg (·.handler.background) hmade'.config).trans hsync
  · refine ⟨_, .requestPassedOver n info hadmits, ?_⟩
    cases henabled : e₁.config.isEnabled .request with
    | false => exact hcomplete
    | true =>
      have hexcluded : e₁.answer x = true := by
        rw [hcomplete.config] at henabled
        rw [hanswer, ← hx]
        exact (Bool.not_eq_false _).mp fun hallowed => hadmits ⟨henabled, hallowed⟩
      rw [excludesCounted_of_excluded hexcluded]
      have hcounted := hasked.idle (gathers_report _ (·.count "autolog_events_excluded_total"
        [("category", Category.request.name)] 1))
      show Gathers applied e _ (if _ then _ else _)
      split
      next => exact hcounted.idle (gathers_report _ _)
      next => exact hcounted

theorem admitsRequest_iff {e : Engine σ τ} {info : RequestInfo} : e.AdmitsRequest info ↔
    e.config.isEnabled .request = true ∧ e.rules.registry.decides e.config
      (.request info.handler info.method info.application info.status) = false :=
  ⟨fun h => ⟨h.enabled, h.allowed⟩, fun h => ⟨h.1, h.2⟩⟩

theorem admitsLog_iff {e : Engine σ τ} {r : LogRecord} : e.AdmitsLog r ↔ e.wants r = true ∧
    e.rules.registry.decides e.config (.log (r.application? e.applications) r.file) = false := by
  have hforeign : (!r.moduleName.any isOwnModule) = true ↔
      ∀ path ∈ r.moduleName, isOwnModule path = false := by
    cases r.moduleName <;> simp
  rw [wants, Bool.and_eq_true, Bool.and_eq_true, decide_eq_true_iff, hforeign]
  constructor
  · rintro ⟨henabled, hlevel, hforeign, hallowed⟩
    exact ⟨⟨⟨henabled, hlevel⟩, hforeign⟩, hallowed⟩
  · rintro ⟨⟨⟨henabled, hlevel⟩, hforeign⟩, hallowed⟩
    exact ⟨henabled, hlevel, hforeign, hallowed⟩

/-- A log record hands itself over if it is admitted. -/
theorem logRecorded_gathers (hS : S.Transactional staged applied) {e : Engine σ τ}
    (hsync : e.config.handler.background = false) (hsound : e.rules.PathSound)
    (contexts : Nat → Context) (r : LogRecord) :
    ∃ events, Hands e contexts (.logRecorded r) events ∧
      Gathers applied e events (e.logRecorded S r) := by
  obtain ⟨x, hx⟩ : ∃ x, Candidate.log (r.application? e.applications) r.file = x := ⟨_, rfl⟩
  have hanswer : e.answer x = e.rules.registry.decides e.config x :=
    answer_of_unkeyed hsound (by rw [← hx]; rfl)
  have hasked : Gathers applied e [] (e.asked x) := gathers_asked e x
  unfold logRecorded
  dsimp only
  rw [hx]
  by_cases hadmits : e.AdmitsLog r
  · obtain ⟨hwants, hallowed⟩ := admitsLog_iff.mp hadmits
    rw [hx, ← hanswer] at hallowed
    rw [hwants, excludesCounted_of_admitted hallowed]
    have hready : Gathers applied e [] (e.asked x).fresh.2.now.2 :=
      hasked.idle (gathers_surroundings _ _ _)
    refine ⟨_, .logAdmitted r _ _ hadmits, hready.trans (gathers_record hS ?_ _ _)⟩
    exact hsync
  · refine ⟨_, .logPassedOver r hadmits, ?_⟩
    cases hwants : e.wants r with
    | false => exact gathers_refl e
    | true =>
      have hexcluded : e.answer x = true := by
        rw [hanswer, ← hx]
        exact (Bool.not_eq_false _).mp fun hallowed =>
          hadmits (admitsLog_iff.mpr ⟨hwants, hallowed⟩)
      rw [excludesCounted_of_excluded hexcluded]
      exact hasked.idle (gathers_report _ _)

/-! ## Runs -/

namespace Call

/-- Makes a call. -/
def make (S : Store σ τ) : Call → (Nat → Context) × Engine σ τ → (Nat → Context) × Engine σ τ
  | .observe n p, (contexts, e) =>
    let (c, e) := e.observe p (contexts n)
    (Function.update contexts n c, e)
  | .complete n, (contexts, e) =>
    let (c, e) := e.complete S (contexts n)
    (Function.update contexts n c, e)
  | .requestFinished n info, (contexts, e) =>
    let (c, e) := e.requestFinished S info (contexts n)
    (Function.update contexts n c, e)
  | .logRecorded r, (contexts, e) => (contexts, e.logRecorded S r)

/-- The context that a call takes the events out of, if it does so. -/
def drained? : Call → Option Nat
  | .complete n => some n
  | .requestFinished n _ => some n
  | _ => none

/-- The context that a call is made on, if it is made on one. -/
def context? : Call → Option Nat
  | .observe n _ => some n
  | .complete n => some n
  | .requestFinished n _ => some n
  | .logRecorded _ => none

/-- Every call gathers what it is to hand over. -/
theorem make_gathers (hS : S.Transactional staged applied) {e : Engine σ τ}
    (hsync : e.config.handler.background = false) (hsound : e.rules.PathSound)
    (contexts : Nat → Context) (call : Call) : ∃ events, Hands e contexts call events ∧
      Gathers applied e events (call.make S (contexts, e)).2 := by
  cases call with
  | observe n p => exact ⟨_, .observe n p, gathers_observe p (contexts n) e⟩
  | complete n => exact ⟨_, .complete n, gathers_complete hS hsync (contexts n)⟩
  | requestFinished n info => exact requestFinished_gathers hS hsync hsound contexts n info
  | logRecorded r => exact logRecorded_gathers hS hsync hsound contexts r

/-- What a call does to the contexts. -/
structure Treats (S : Store σ τ) (call : Call) (host : (Nat → Context) × Engine σ τ) : Prop where
  /-- A context that was drained has nothing left to hand over. -/
  drained : ∀ n, call.drained? = some n → ((call.make S host).1 n).events = []
  /-- Observed events stay where they are, and a new one comes last. -/
  observed : ∀ n p, call = .observe n p →
    (host.1 n).events.map (·.id) <+: ((call.make S host).1 n).events.map (·.id)
  others : ∀ n, call.context? ≠ some n → (call.make S host).1 n = host.1 n

theorem ids_prefix_of_moves {i : Instance} {c c' : Context} (h : c.Moves i c') :
    c.events.map (·.id) <+: c'.events.map (·.id) := by
  cases h with
  | still hevents =>
    exact hevents ▸ List.prefix_rfl
  | enters hevents =>
    rw [Context.enter, hevents, List.map_append]
    exact List.prefix_append _ _
  | @joins position relationships =>
    have hids : (c.editEvent position (addRelationships relationships)).events.map (·.id)
        = c.events.map (·.id) := by
      refine List.ext_getElem? fun n => ?_
      rw [List.getElem?_map, List.getElem?_map, Context.getElem?_editEvent]
      split
      next => rw [Option.map_map]; rfl
      next => rfl
    exact hids ▸ List.prefix_rfl

theorem make_fst_other {call : Call} {n : Nat} {c : Context} {host : (Nat → Context) × Engine σ τ}
    (hmake : (call.make S host).1 = Function.update host.1 n c) (hcall : call.context? = some n)
    {m : Nat} (hm : call.context? ≠ some m) : (call.make S host).1 m = host.1 m := by
  rw [hcall] at hm
  rw [hmake, Function.update_of_ne fun h => hm (congrArg some h.symm)]

theorem make_treats (S : Store σ τ) (call : Call) (host : (Nat → Context) × Engine σ τ) :
    call.Treats S host := by
  obtain ⟨contexts, e⟩ := host
  cases call with
  | observe n p =>
    have hmake : (make S (.observe n p) (contexts, e)).1 =
        Function.update contexts n (e.observe p (contexts n)).1 := rfl
    refine ⟨fun m hm => ?_, fun m q hq => ?_, fun m => make_fst_other hmake rfl⟩
    · cases hm
    · cases hq
      rw [hmake, Function.update_self]
      exact ids_prefix_of_moves (observe_moves p (contexts n) e)
  | complete n =>
    have hmake : (make S (.complete n) (contexts, e)).1 =
        Function.update contexts n (contexts n).takeEvents.2 := rfl
    refine ⟨fun m hm => ?_, fun m q hq => ?_, fun m => make_fst_other hmake rfl⟩
    · cases hm
      rw [hmake, Function.update_self]
      rfl
    · cases hq
  | requestFinished n info =>
    have hmake : (make S (.requestFinished n info) (contexts, e)).1 =
        Function.update contexts n (contexts n).takeEvents.2 := by
      rw [← requestFinished_fst S info (contexts n) e]
      rfl
    refine ⟨fun m hm => ?_, fun m q hq => ?_, fun m => make_fst_other hmake rfl⟩
    · cases hm
      rw [hmake, Function.update_self]
      rfl
    · cases hq
  | logRecorded r =>
    refine ⟨fun m hm => ?_, fun m q hq => ?_, fun m _ => ?_⟩
    · cases hm
    · cases hq
    · rw [make]

end Call

/-- Makes calls one after another. -/
def makeAll (S : Store σ τ) (calls : List Call) (host : (Nat → Context) × Engine σ τ) :
    (Nat → Context) × Engine σ τ :=
  calls.foldl (fun host call => call.make S host) host

/-- What calls made one after another hand over in all, by the settings, overrides and known
applications of an engine. -/
def HandsAll (S : Store σ τ) (e : Engine σ τ) :
    List Call → (Nat → Context) × Engine σ τ → List EventRecord → Prop
  | [], _, events => events = []
  | call :: calls, host, events => ∃ first rest, events = first ++ rest ∧
      Hands e host.1 call first ∧ HandsAll S e calls (call.make S host) rest

/-- What is handed over depends on settings, overrides and known applications only. -/
theorem Hands.congr {e e' : Engine σ τ} (hsettings : e'.settings = e.settings)
    (hregistry : e'.rules.registry = e.rules.registry)
    (happlications : e'.applications = e.applications) {contexts : Nat → Context} {call : Call}
    {events : List EventRecord} (h : Hands e' contexts call events) :
    Hands e contexts call events := by
  have hconfig : e'.config = e.config := by rw [config, hsettings, config]
  have hrequest : ∀ info, e'.AdmitsRequest info ↔ e.AdmitsRequest info := by
    intro info
    simp only [admitsRequest_iff, hconfig, hregistry]
  have hlog : ∀ r, e'.AdmitsLog r ↔ e.AdmitsLog r := by
    intro r
    simp only [admitsLog_iff, wants, hconfig, hregistry, happlications]
  cases h with
  | observe n p => exact .observe n p
  | complete n => exact .complete n
  | requestAdmitted n info id createdAt hadmits =>
    rw [hconfig]
    exact .requestAdmitted n info id createdAt ((hrequest info).mp hadmits)
  | requestPassedOver n info hadmits =>
    exact .requestPassedOver n info (mt (hrequest info).mpr hadmits)
  | logAdmitted r id createdAt hadmits =>
    rw [happlications]
    exact .logAdmitted r id createdAt ((hlog r).mp hadmits)
  | logPassedOver r hadmits => exact .logPassedOver r (mt (hlog r).mpr hadmits)

theorem makeAll_gathers (hS : S.Transactional staged applied) {e e' : Engine σ τ}
    {gathered : List EventRecord} (hsync : e.config.handler.background = false)
    (hsound : e.rules.PathSound) (hbefore : Gathers applied e gathered e') (calls : List Call)
    (contexts : Nat → Context) :
    ∃ events, HandsAll S e calls (contexts, e') events ∧
      Gathers applied e (gathered ++ events) (makeAll S calls (contexts, e')).2 := by
  induction calls generalizing e' gathered contexts with
  | nil => exact ⟨[], rfl, by rw [List.append_nil]; exact hbefore⟩
  | cons call calls ih =>
    obtain ⟨hregistry, hsound'⟩ := hbefore.rules hsound
    have hsync' : e'.config.handler.background = false := by rw [hbefore.config, hsync]
    obtain ⟨first, hfirst, hmade⟩ := call.make_gathers hS hsync' hsound' contexts
    obtain ⟨rest, hrest, hall⟩ := ih (hbefore.trans hmade) (call.make S (contexts, e')).1
    refine ⟨first ++ rest, ⟨first, rest, rfl, ?_, hrest⟩, ?_⟩
    · exact hfirst.congr hbefore.settings hregistry hbefore.applications
    · rw [← List.append_assoc]
      exact hall

/-- **Once and in order.** Calls are made one after another under fixed settings, without
background, and then the buffer is written. Whatever the store refuses on the way, it has then been
brought what was in the buffer before, and after it exactly what the calls were to hand over, in
their order; and no call on a context touches what other contexts hold, or hands over again what was
taken out of its own. -/
theorem handed_over_once_in_order (hS : S.Transactional staged applied) (e : Engine σ τ)
    (contexts : Nat → Context) (hsync : e.config.handler.background = false)
    (hsound : e.rules.PathSound) (calls : List Call) {report : FlushReport}
    (hflush : ((makeAll S calls (contexts, e)).2.flush S).1 = .ok report) :
    (∃ events, HandsAll S e calls (contexts, e) events ∧
      applied ((makeAll S calls (contexts, e)).2.flush S).2.handler.store =
        applied e.handler.store ++ e.handler.buffer ++ events) ∧
    ∀ before call after, calls = before ++ call :: after →
      call.Treats S (makeAll S before (contexts, e)) := by
  refine ⟨?_, fun before call _ _ => call.make_treats S _⟩
  obtain ⟨events, hhands, hgathers⟩ :=
    makeAll_gathers hS hsync hsound (gathers_refl e) calls contexts
  refine ⟨events, hhands, ?_⟩
  generalize (makeAll S calls (contexts, e)).2 = e' at hflush hgathers
  obtain ⟨haccount, hbuffer⟩ := Handler.flush_account hS e'.config e'.handler
  have hempty : (e'.flush S).2.handler.buffer = [] := hbuffer report hflush
  calc applied (e'.flush S).2.handler.store
      = (e'.flush S).2.handler.account applied := by
        rw [Handler.account, hempty, List.append_nil]
    _ = e'.handler.account applied := haccount
    _ = applied e.handler.store ++ e.handler.buffer ++ events := hgathers.account

/-- An engine that writes two events at a time, at the store in memory, which is to refuse one
commit. -/
def refusingOnce : Engine (Faulty MemoryStore × List EventRecord)
    (Gated Staged × List EventRecord) where
  settings := ⟨{ handler := { batch := 2 } }, ⟨1, { handler := { batch := 2 } }⟩⟩
  counter := ⟨2⟩
  handler :=
    { store := (Faulty.demand .commit 1 { inner := {} }, []), surroundings := ⟨0, ⟨0, 0⟩⟩ }

/-- Calls on two contexts. A save that changes nothing makes no event worth bringing, and contexts
are drained twice. -/
def twoContexts : List Call :=
  let page : Instance := { entity := { name := "Page" }, primaryKey := some "1" }
  [.observe 0 (.afterSave page true none), .observe 1 (.afterDelete page),
    .logRecorded { level := .error, message := "late" }, .complete 0,
    .observe 0 (.afterSave page false none),
    .requestFinished 0 { method := "POST", uri := "/pages", status := 201 },
    .complete 1, .complete 0]

theorem handed_over_once_in_order_refusingOnce :
    let S := (Faulty.store MemoryStore.store).logged
    let host := makeAll S twoContexts (fun _ => {}, refusingOnce)
    S.Transactional Prod.snd Prod.snd ∧ refusingOnce.config.handler.background = false ∧
      refusingOnce.rules.PathSound ∧ (host.2.flush S).1 = .ok ⟨1, {}⟩ ∧
      host.2.handler.failures = 1 ∧ (host.2.flush S).2.handler.store.2.map (·.category) =
        [.unspecified, .model, .request, .model] ∧
      (∃ events, HandsAll S refusingOnce twoContexts (fun _ => {}, refusingOnce) events ∧
        (host.2.flush S).2.handler.store.2 =
          refusingOnce.handler.store.2 ++ refusingOnce.handler.buffer ++ events) ∧
      ∀ before call after, twoContexts = before ++ call :: after →
        call.Treats S (makeAll S before (fun _ => {}, refusingOnce)) := by
  have hflush : ((makeAll (Faulty.store MemoryStore.store).logged twoContexts
      (fun _ => {}, refusingOnce)).2.flush (Faulty.store MemoryStore.store).logged).1 =
        .ok ⟨1, {}⟩ := by decide +kernel
  exact ⟨Store.logged_transactional _, rfl, Rules.pathSound_fresh {}, hflush, by decide +kernel,
    by decide +kernel, handed_over_once_in_order (Store.logged_transactional _) refusingOnce
      (fun _ => {}) rfl (Rules.pathSound_fresh {}) twoContexts hflush⟩

end Engine

end AuditTrail
