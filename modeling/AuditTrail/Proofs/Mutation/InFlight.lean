import AuditTrail.Proofs.Mutation.Recording
import Mathlib.Data.List.Induction

/-
  Which event a context has in flight for an instance. A host asks for the event of an instance,
  takes the events, says who acts and reports what it does, in any order. A context knows instances
  by the qualified name of their type and by their primary key, while an event names the type, its
  application and the primary key.

  What is in flight under a key is an event about an instance with that key (`Context.Tracks`). It
  is kept by what a call about an instance can do to a context (`Context.Moves`), and so by all
  calls. Two instances with the same key are named alike by events unless their types are
  `EntityType.Lookalike`, so every call gets to an event about its own instance exactly if no two
  of the types are (`attributes_iff_not_lookalike`).
-/
namespace AuditTrail

/-! ## What an event is about -/

/-- An entry that names the type of an instance, with its application, and its primary key. -/
def EntityEntry.IsAbout (entry : EntityEntry) (i : Instance) : Prop :=
  entry.mirror = .ofType i.entity ∧ some entry.primaryKey = i.primaryKey

/-- Types that a context takes for the same and events do not. -/
def EntityType.Lookalike (a b : EntityType) : Prop :=
  a.qualifiedName = b.qualifiedName ∧ ¬(a.name = b.name ∧ a.application = b.application)

theorem EntityMirror.ofType_eq_iff (a b : EntityType) :
    EntityMirror.ofType a = .ofType b ↔ a.name = b.name ∧ a.application = b.application := by
  constructor
  · intro h
    exact ⟨congrArg EntityMirror.name h, congrArg (fun m => m.application.name) h⟩
  · rintro ⟨hname, happlication⟩
    rw [ofType, hname, happlication, ofType]

theorem EntityEntry.isAbout_ofInstance {i : Instance} (h : i.primaryKey ≠ none) (id : Uuid) :
    (EntityEntry.ofInstance id i).IsAbout i := by
  refine ⟨rfl, ?_⟩
  obtain ⟨key, hkey⟩ := Option.ne_none_iff_exists'.mp h
  rw [hkey, EntityEntry.ofInstance, Instance.primaryKeyOrEmpty, hkey]
  rfl

/-- Instances with the same key are named alike, if their types are no lookalikes. -/
theorem EntityEntry.isAbout_of_key_eq {i j : Instance} (h : i.primaryKey ≠ none)
    (hkey : InstanceKey.of j = .of i) (hlookalike : ¬j.entity.Lookalike i.entity) (id : Uuid) :
    (EntityEntry.ofInstance id j).IsAbout i := by
  obtain ⟨hname, hprimary⟩ := InstanceKey.mk.inj hkey
  have hmirror : EntityMirror.ofType j.entity = .ofType i.entity := by
    rw [EntityMirror.ofType_eq_iff]
    by_contra hother
    exact hlookalike ⟨hname, hother⟩
  rw [← hprimary] at h
  obtain ⟨hself, hselfKey⟩ := EntityEntry.isAbout_ofInstance h id
  exact ⟨hself.trans hmirror, hselfKey.trans hprimary⟩

/-! ## Contexts -/

namespace Context

/-- What a call about an instance can do to the events of a context: nothing, make an event about
the instance, or add relations to the one that is in flight for it. -/
inductive Moves (i : Instance) (c : Context) : Context → Prop where
  | still {c' : Context} (hevents : c'.events = c.events) (hmemo : c'.memo = c.memo) : Moves i c c'
  | enters {c' : Context} {m : MutationEvent} (hevents : c'.events = c.events)
    (hmemo : c'.memo = c.memo) (hentry : ∃ id, m.entry = .ofInstance id i) :
    Moves i c (c'.enter i m)
  | joins {position : Nat} (relationships : List RelationshipModification)
    (hposition : c.memo.lookup (.of i) = some position) :
    Moves i c (c.editEvent position (Engine.addRelationships relationships))

/-- Under the key of an instance there is in flight an event about an instance with that key, which
is of one of some types. -/
def Tracks (T : EntityType → Prop) (c : Context) : Prop :=
  ∀ k n, c.memo.lookup k = some n → ∃ m j, c.events[n]? = some m ∧
    (∃ id, m.entry = .ofInstance id j) ∧ T j.entity ∧ InstanceKey.of j = k

theorem getElem?_editEvent (position n : Nat) (f : MutationEvent → MutationEvent) (c : Context) :
    (c.editEvent position f).events[n]? =
      if position = n then c.events[n]?.map f else c.events[n]? := by
  unfold editEvent
  rw [List.getElem?_modify]
  cases c.events[n]? <;> split <;> rfl

theorem tracks_nil (T : EntityType → Prop) {c : Context} (h : c.memo = []) : c.Tracks T := by
  intro k n hn
  rw [h, List.lookup_nil] at hn
  cases hn

theorem Tracks.congr {T : EntityType → Prop} {c c' : Context} (h : c.Tracks T)
    (hevents : c'.events = c.events) (hmemo : c'.memo = c.memo) : c'.Tracks T := by
  unfold Tracks
  rw [hevents, hmemo]
  exact h

section Step

variable {T : EntityType → Prop} {i : Instance} {c c' : Context} {m : MutationEvent}

theorem Tracks.enter (h : c.Tracks T) (hT : T i.entity)
    (hentry : ∃ id, m.entry = .ofInstance id i) : (c.enter i m).Tracks T := by
  intro k n hn
  change (Keyed.put (.of i) c.events.length c.memo).lookup k = some n at hn
  rw [Keyed.lookup_put] at hn
  by_cases hk : k = .of i
  · rw [if_pos hk] at hn
    rw [← Option.some.inj hn, hk]
    exact ⟨m, i, getElem?_enter i m c, hentry, hT, rfl⟩
  · rw [if_neg hk] at hn
    obtain ⟨m', j, hm', hj⟩ := h k n hn
    have hbound := (List.getElem?_eq_some_iff.mp hm').1
    refine ⟨m', j, ?_, hj⟩
    change (c.events ++ [m])[n]? = some m'
    rw [List.getElem?_append_left hbound, hm']

theorem Tracks.edit (h : c.Tracks T) (position : Nat) {f : MutationEvent → MutationEvent}
    (hf : ∀ m, (f m).entry = m.entry) : (c.editEvent position f).Tracks T := by
  intro k n hn
  obtain ⟨m, j, hm, hentry, hj⟩ := h k n hn
  by_cases hposition : position = n
  · refine ⟨f m, j, ?_, ?_, hj⟩
    · rw [getElem?_editEvent, if_pos hposition, hm, Option.map_some]
    · rw [hf]
      exact hentry
  · refine ⟨m, j, ?_, hentry, hj⟩
    rw [getElem?_editEvent, if_neg hposition, hm]

theorem Tracks.moves (h : c.Tracks T) (hT : T i.entity) (hmoves : c.Moves i c') : c'.Tracks T := by
  cases hmoves with
  | still hevents hmemo => exact h.congr hevents hmemo
  | enters hevents hmemo hentry => exact (h.congr hevents hmemo).enter hT hentry
  | joins relationships hposition => exact h.edit _ fun m => rfl

/-- Where types are no lookalikes, the event in flight for an instance is about it. -/
theorem Tracks.isAbout (h : c.Tracks T) (hT : T i.entity)
    (hlookalike : ∀ a b, T a → T b → ¬a.Lookalike b) (hkey : i.primaryKey ≠ none) {n : Nat}
    (hn : c.memo.lookup (.of i) = some n) :
    ∃ m, c.events[n]? = some m ∧ m.entry.IsAbout i := by
  obtain ⟨m, j, hm, ⟨id, hentry⟩, hj, hof⟩ := h _ n hn
  refine ⟨m, hm, ?_⟩
  rw [hentry]
  exact EntityEntry.isAbout_of_key_eq hkey hof (hlookalike _ _ hj hT) id

/-- Relations are added to events about the instance only. -/
theorem Moves.attaches (hmoves : c.Moves i c') (h : c.Tracks T) (hT : T i.entity)
    (hlookalike : ∀ a b, T a → T b → ¬a.Lookalike b) (hkey : i.primaryKey ≠ none) {n : Nat}
    (hn : c'.events[n]? = some m) :
    m.entry.IsAbout i ∨ ∃ m', c.events[n]? = some m' ∧ m.relationships = m'.relationships := by
  cases hmoves with
  | still hevents hmemo =>
    rw [hevents] at hn
    exact .inr ⟨m, hn, rfl⟩
  | @enters c' m' hevents hmemo hentry =>
    change (c'.events ++ [m'])[n]? = some m at hn
    rw [hevents] at hn
    by_cases hbound : n < c.events.length
    · rw [List.getElem?_append_left hbound] at hn
      exact .inr ⟨m, hn, rfl⟩
    · have hmem : m ∈ [m'] := by
        rw [List.getElem?_append_right (Nat.le_of_not_lt hbound)] at hn
        exact List.mem_of_getElem? hn
      obtain ⟨id, hentry⟩ := hentry
      rw [List.mem_singleton.mp hmem, hentry]
      exact .inl (EntityEntry.isAbout_ofInstance hkey id)
  | @joins position relationships hposition =>
    obtain ⟨m', hm', habout⟩ := h.isAbout hT hlookalike hkey hposition
    rw [getElem?_editEvent] at hn
    by_cases hsame : position = n
    · rw [if_pos hsame, ← hsame, hm', Option.map_some] at hn
      rw [← Option.some.inj hn]
      exact .inl habout
    · rw [if_neg hsame] at hn
      exact .inr ⟨m, hn, rfl⟩

end Step

end Context

/-! ## Calls -/

/-- Something that a host does with a context. -/
inductive ContextCall where
  | event (i : Instance) (op : Operation) (force : Bool)
  | takeEvents
  | setActor (actor : Option String)
  | report (p : Probe)

namespace ContextCall

/-- The instance that a call is about, if it is about one. -/
def subject? : ContextCall → Option Instance
  | .event i _ _ => some i
  | .takeEvents => none
  | .setActor _ => none
  | .report p => some p.subject

/-- Calls about instances of some types that have a primary key, or about none. -/
def Within (T : EntityType → Prop) (call : ContextCall) : Prop :=
  ∀ i, call.subject? = some i → T i.entity ∧ i.primaryKey ≠ none

theorem within_event {T : EntityType → Prop} {i : Instance} (hT : T i.entity)
    (hkey : i.primaryKey ≠ none) (op : Operation) (force : Bool) : (event i op force).Within T := by
  intro j hj
  rw [← Option.some.inj hj]
  exact ⟨hT, hkey⟩

end ContextCall

namespace Engine

variable {σ τ : Type} {T : EntityType → Prop} {e : Engine σ τ} {c : Context} {i : Instance}

/-- Context and engine after a call. -/
def handle (call : ContextCall) (c : Context) (e : Engine σ τ) : Context × Engine σ τ :=
  match call with
  | .event i op force => (e.newEvent i op force c).2
  | .takeEvents => (c.takeEvents.2, e)
  | .setActor actor => ({ c with actor := actor }, e)
  | .report p => e.observe p c

/-- Context and engine after several calls, the first of them on a new context. -/
def handleAll (actor : Option String) (calls : List ContextCall) (e : Engine σ τ) :
    Context × Engine σ τ :=
  calls.foldl (fun state call => state.2.handle call state.1) ({ actor := actor }, e)

theorem handleAll_concat (actor : Option String) (calls : List ContextCall) (call : ContextCall)
    (e : Engine σ τ) :
    e.handleAll actor (calls ++ [call]) =
      (e.handleAll actor calls).2.handle call (e.handleAll actor calls).1 := by
  rw [handleAll, List.foldl_append, List.foldl_cons, List.foldl_nil, handleAll]

/-- The event that a host gets when it asks for the one of an instance. -/
def given (i : Instance) (op : Operation) (force : Bool) (c : Context) (e : Engine σ τ) :
    Option MutationEvent :=
  (e.newEvent i op force c).2.1.events[(e.newEvent i op force c).1]?

/-- Every call gets to an event about its own instance: the host is given one that is about the
instance it asked for, and what it reports about an instance changes relations in events about that
instance only. -/
structure Attributes (actor : Option String) (calls : List ContextCall) (e : Engine σ τ) :
    Prop where
  gives : ∀ before i op force after, calls = before ++ .event i op force :: after →
    ∃ m, (e.handleAll actor before).2.given i op force (e.handleAll actor before).1 = some m ∧
      m.entry.IsAbout i
  attaches : ∀ before p after, calls = before ++ .report p :: after →
    ∀ (n : Nat) m, (e.handleAll actor (before ++ [.report p])).1.events[n]? = some m →
      m.entry.IsAbout p.subject ∨ ∃ m', (e.handleAll actor before).1.events[n]? = some m' ∧
        m.relationships = m'.relationships

/-- Asking for an event gives the one in flight, or makes one about the instance. -/
theorem newEvent_cases (i : Instance) (op : Operation) (force : Bool) (c : Context)
    (e : Engine σ τ) :
    (∃ n, c.memo.lookup (.of i) = some n ∧ e.newEvent i op force c = (n, c, e)) ∨
      ∃ m e', e.newEvent i op force c = (c.events.length, c.enter i m, e') ∧
        ∃ id, m.entry = .ofInstance id i := by
  cases force with
  | true =>
    obtain ⟨id, entryId, time, e', hnew, -⟩ := newEvent_forced i op c e
    exact .inr ⟨_, e', hnew, entryId, rfl⟩
  | false =>
    cases hposition : c.memo.lookup (.of i) with
    | some n => exact .inl ⟨n, rfl, newEvent_inFlight hposition⟩
    | none =>
      obtain ⟨id, entryId, time, e', hnew, -⟩ := newEvent_unless op hposition e
      exact .inr ⟨_, e', hnew, entryId, rfl⟩

theorem newEvent_moves (i : Instance) (op : Operation) (force : Bool) (c : Context)
    (e : Engine σ τ) : c.Moves i (e.newEvent i op force c).2.1 := by
  rcases newEvent_cases i op force c e with ⟨n, -, hnew⟩ | ⟨m, e', hnew, hentry⟩
  · rw [hnew]
    exact .still rfl rfl
  · rw [hnew]
    exact .enters rfl rfl hentry

theorem relation_moves {owner : Instance} {field : String} {related : List Instance}
    {action : RelationAction} (henabled : e.config.isEnabled .model = true) (c : Context) :
    c.Moves owner (e.relationChanged owner field related action c).1 := by
  by_cases hrelated : related = []
  · rw [hrelated, relation_empty]
    exact .still rfl rfl
  cases hanswer : e.answer (Probe.relation owner field related action).question with
  | true =>
    obtain ⟨e', hresult, -⟩ := relation_excluded (c := c) henabled hrelated hanswer
    rw [hresult]
    exact .still rfl rfl
  | false =>
    cases hfield : owner.entity.fieldDef? field with
    | none =>
      obtain ⟨e', hresult, -⟩ := relation_undeclared (c := c) henabled hrelated hanswer hfield
      rw [hresult]
      exact .still rfl rfl
    | some d =>
      cases hanswer' : (e.asked (Probe.relation owner field related action).question).answer
          (.field owner.entity field) with
      | true =>
        obtain ⟨e', hresult, -⟩ :=
          relation_fieldExcluded (c := c) henabled hrelated hanswer hfield hanswer'
        rw [hresult]
        exact .still rfl rfl
      | false =>
        cases hposition : c.memo.lookup (.of owner) with
        | some position =>
          obtain ⟨relationships, e', -, hresult, -⟩ :=
            relation_inFlight henabled hrelated hanswer hfield hanswer' hposition
          rw [hresult]
          exact .joins relationships hposition
        | none =>
          obtain ⟨relationships, id, entryId, time, e', -, hresult, -⟩ :=
            relation_new henabled hrelated hanswer hfield hanswer' hposition
          rw [hresult]
          exact .enters rfl rfl ⟨entryId, rfl⟩

theorem observe_moves (p : Probe) (c : Context) (e : Engine σ τ) :
    c.Moves p.subject (e.observe p c).1 := by
  cases henabled : e.config.isEnabled .model with
  | false =>
    rw [observe_disabled henabled]
    exact .still rfl rfl
  | true =>
    cases p with
    | beforeSave i prior =>
      cases hanswer : e.answer (Probe.beforeSave i prior).question with
      | true =>
        obtain ⟨e', hresult, -⟩ := beforeSave_excluded (c := c) henabled hanswer
        rw [observe, hresult]
        exact .still rfl rfl
      | false =>
        obtain ⟨started, e', hresult, -, -⟩ := beforeSave_admitted (c := c) henabled hanswer
        rw [observe, hresult]
        exact .still rfl rfl
    | afterSave i created touched =>
      cases hanswer : e.answer (Probe.afterSave i created touched).question with
      | true =>
        obtain ⟨e', hresult, -⟩ := afterSave_excluded (c := c) henabled hanswer
        rw [observe, hresult]
        exact .still rfl rfl
      | false =>
        obtain ⟨id, entryId, time, duration, e', m, hm, -, hresult, -⟩ :=
          afterSave_admitted (c := c) henabled hanswer
        rw [observe, hresult]
        obtain ⟨k, htaken, -⟩ := Context.takePending_eq i c
        refine .enters (c.takePending_events i) ?_ ⟨entryId, ?_⟩
        · rw [htaken]
        · rw [hm]
          rfl
    | afterDelete i =>
      cases hanswer : e.answer (Probe.afterDelete i).question with
      | true =>
        obtain ⟨e', hresult, -⟩ := afterDelete_excluded (c := c) henabled hanswer
        rw [observe, hresult]
        exact .still rfl rfl
      | false =>
        obtain ⟨id, entryId, time, e', m, hm, hresult, -⟩ :=
          afterDelete_admitted (c := c) henabled hanswer
        rw [observe, hresult]
        refine .enters rfl rfl ⟨entryId, ?_⟩
        rw [hm]
        rfl
    | relation owner field related action => exact relation_moves henabled c

theorem handle_tracks (hc : c.Tracks T) {call : ContextCall} (hcall : call.Within T)
    (e : Engine σ τ) : (e.handle call c).1.Tracks T := by
  cases call with
  | event i op force => exact hc.moves (hcall i rfl).1 (newEvent_moves i op force c e)
  | takeEvents => exact Context.tracks_nil T rfl
  | setActor actor => exact hc.congr rfl rfl
  | report p => exact hc.moves (hcall p.subject rfl).1 (observe_moves p c e)

theorem handleAll_tracks {calls : List ContextCall} (h : ∀ call ∈ calls, call.Within T)
    (actor : Option String) (e : Engine σ τ) : (e.handleAll actor calls).1.Tracks T := by
  induction calls using List.reverseRecOn with
  | nil => exact Context.tracks_nil T rfl
  | append_singleton calls call ih =>
    rw [handleAll_concat]
    refine handle_tracks (ih ?_) (h call ?_) _
    · intro call' hcall'
      exact h call' (List.mem_append_left _ hcall')
    · exact List.mem_append_right _ (List.mem_singleton_self call)

/-- Where types are no lookalikes, the event that is given is about the instance. -/
theorem given_isAbout (hc : c.Tracks T) (hT : T i.entity)
    (hlookalike : ∀ a b, T a → T b → ¬a.Lookalike b) (hkey : i.primaryKey ≠ none)
    (op : Operation) (force : Bool) (e : Engine σ τ) :
    ∃ m, e.given i op force c = some m ∧ m.entry.IsAbout i := by
  unfold given
  rcases newEvent_cases i op force c e with ⟨n, hn, hnew⟩ | ⟨m, e', hnew, id, hentry⟩
  · rw [hnew]
    exact hc.isAbout hT hlookalike hkey hn
  · rw [hnew]
    refine ⟨m, Context.getElem?_enter i m c, ?_⟩
    rw [hentry]
    exact EntityEntry.isAbout_ofInstance hkey id

theorem attributes_of_not_lookalike (hlookalike : ∀ a b, T a → T b → ¬a.Lookalike b)
    {calls : List ContextCall} (h : ∀ call ∈ calls, call.Within T) (actor : Option String)
    (e : Engine σ τ) : e.Attributes actor calls := by
  have hbefore : ∀ {before call after}, calls = before ++ call :: after →
      (e.handleAll actor before).1.Tracks T ∧ call.Within T := by
    rintro before call after rfl
    refine ⟨handleAll_tracks ?_ actor e, ?_⟩
    · intro call' hcall'
      exact h call' (List.mem_append_left _ hcall')
    · exact h call (List.mem_append_right _ List.mem_cons_self)
  refine ⟨?_, ?_⟩
  · intro before i op force after hcalls
    obtain ⟨htracks, hwithin⟩ := hbefore hcalls
    obtain ⟨hT, hkey⟩ := hwithin i rfl
    exact given_isAbout htracks hT hlookalike hkey op force _
  · intro before p after hcalls n m hn
    obtain ⟨htracks, hwithin⟩ := hbefore hcalls
    obtain ⟨hT, hkey⟩ := hwithin p.subject rfl
    rw [handleAll_concat] at hn
    exact (observe_moves p _ _).attaches htracks hT hlookalike hkey hn

/-- Who asks for an instance and then for another with the same key gets the event of the first. -/
theorem given_second {a b : Instance} (hkey : InstanceKey.of b = .of a) (op : Operation)
    (actor : Option String) (e : Engine σ τ) :
    ∃ m id, (e.handleAll actor [.event a op false]).2.given b op false
        (e.handleAll actor [.event a op false]).1 = some m ∧ m.entry = .ofInstance id a := by
  obtain ⟨id, entryId, time, e', hnew, -⟩ :=
    newEvent_unless (i := a) (c := { actor := actor }) op rfl e
  generalize hm : Context.event { actor := actor } a op id entryId time = m at hnew
  have hrun : e.handleAll actor [.event a op false] =
      (Context.enter a m { actor := actor }, e') := by
    show (e.newEvent a op false { actor := actor }).2 = _
    rw [hnew]
  have hposition : (Context.enter a m { actor := actor }).memo.lookup (.of b) = some 0 := by
    rw [hkey]
    show (Keyed.put (.of a) 0 []).lookup (.of a) = some 0
    rw [Keyed.lookup_put, if_pos rfl]
  refine ⟨m, entryId, ?_, ?_⟩
  · rw [hrun, given, newEvent_inFlight hposition]
    exact Context.getElem?_enter a m { actor := actor }
  · rw [← hm]
    rfl

/-- Whatever a host does with a context, about instances of some types, all calls get to events
about their own instances exactly if no two of the types are lookalikes. -/
theorem attributes_iff_not_lookalike (T : EntityType → Prop) (actor : Option String)
    (e : Engine σ τ) :
    (∀ calls : List ContextCall, (∀ call ∈ calls, call.Within T) → e.Attributes actor calls) ↔
      ∀ a b, T a → T b → ¬a.Lookalike b := by
  constructor
  · rintro h a b ha hb ⟨hname, hother⟩
    let first : Instance := { entity := a, primaryKey := some "1" }
    let second : Instance := { entity := b, primaryKey := some "1" }
    have hcalls : ∀ call ∈ [ContextCall.event first .modify false, .event second .modify false],
        call.Within T := by
      intro call hcall
      rcases List.mem_pair.mp hcall with rfl | rfl
      · exact ContextCall.within_event ha (Option.some_ne_none _) .modify false
      · exact ContextCall.within_event hb (Option.some_ne_none _) .modify false
    have hkey : InstanceKey.of second = .of first := by
      show InstanceKey.mk b.qualifiedName (some "1") = _
      rw [← hname]
      rfl
    obtain ⟨m, hm, hmirror, -⟩ := (h _ hcalls).gives [_] second .modify false [] rfl
    obtain ⟨m', id, hm', hentry⟩ := given_second hkey .modify actor e
    rw [hm', Option.some.injEq] at hm
    rw [← hm, hentry] at hmirror
    exact hother ((EntityMirror.ofType_eq_iff a b).mp hmirror)
  · intro hlookalike calls hcalls
    exact attributes_of_not_lookalike hlookalike hcalls actor e

/-- Orders of two applications, as the types of both are without a module. -/
def orderOf (application : String) : Instance where
  entity := { name := "Order", application := some application }
  primaryKey := some "1"

/-- The event of one application's order is asked for, and then that of the other's. -/
def bothOrders : List ContextCall :=
  [.event (orderOf "shop") .modify false, .event (orderOf "billing") .modify false]

theorem bothOrders_misattributed :
    (∀ call ∈ bothOrders, call.Within fun _ => True) ∧ ¬byDefault.Attributes none bothOrders := by
  refine ⟨?_, ?_⟩
  · intro call hcall
    rcases List.mem_pair.mp hcall with rfl | rfl <;>
      exact ContextCall.within_event trivial (Option.some_ne_none _) .modify false
  · intro h
    obtain ⟨m, hm, hmirror, -⟩ := h.gives [_] (orderOf "billing") .modify false [] rfl
    have hnames := congrArg (Option.map (·.entry.mirror.application.name)) hm
    rw [Option.map_some, hmirror] at hnames
    exact absurd hnames (by decide +kernel)

end Engine

end AuditTrail
