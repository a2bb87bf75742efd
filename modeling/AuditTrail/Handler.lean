import AuditTrail.Retention

/-
  The handler gathers events in a buffer and writes them to the store in generations. As soon as
  the buffer holds as many events as a batch, all of it is taken out as one generation and written
  in one transaction, together with the sweep of expired events. A generation that could not be
  written goes back to the front of the buffer. In the background, generations wait in a queue and
  are written when the queue is run.
-/
namespace AuditTrail

/-- Why events were not written. -/
structure HandlerError where
  /-- How many events it concerns. -/
  events : Nat
  source : StoreError
  deriving DecidableEq, Repr

/-- The text shown for an error. -/
def HandlerError.message (e : HandlerError) : String :=
  "Failed to persist " ++ Digits.text e.events ++ " buffered events: " ++ e.source.message

/-- What came of writing a generation. -/
structure FlushReport where
  events : Nat := 0
  swept : Swept := {}
  deriving DecidableEq, Repr

/-- A generation that is staged in a transaction and waits for its commit. -/
structure Prepared (τ : Type) where
  events : List EventRecord
  swept : Swept
  transaction : τ

/-- A generation in the background: still to be staged, with the configuration it was taken under,
or staged. -/
inductive Task (τ : Type) where
  | taken (events : List EventRecord) (config : Config)
  | prepared (p : Prepared τ)

/-- The events of a generation. -/
def Task.events {τ : Type} : Task τ → List EventRecord
  | .taken events _ => events
  | .prepared p => p.events

/-- The handler with its store and with what it reports to. -/
structure Handler (σ τ : Type) where
  store : σ
  buffer : List EventRecord := []
  /-- Generations to be written when the queue is run, in order. -/
  queue : List (Task τ) := []
  /-- Generations whose commit the store holds back. -/
  held : List (Prepared τ) := []
  flushes : Nat := 0
  failures : Nat := 0
  persisted : Nat := 0
  surroundings : Surroundings
  journal : Journal := {}

namespace Handler

variable {σ τ : Type}

/-- Changes the journal. -/
def report (f : Journal → Journal) (h : Handler σ τ) : Handler σ τ :=
  { h with journal := f h.journal }

/-- Reads the clock. -/
def now (h : Handler σ τ) : Timestamp × Handler σ τ :=
  let (time, surroundings) := h.surroundings.now
  (time, { h with surroundings := surroundings })

/-! Transactions. -/

/-- Rolls a transaction back; a failure of that is only reported. -/
def giveUp (S : Store σ τ) (t : τ) (h : Handler σ τ) : Handler σ τ :=
  match S.rollback t h.store with
  | (.ok (), s) => { h with store := s }
  | (.error e, s) =>
    { h with store := s }.report (·.note .warn "Rollback failed" [("error", e.message)])

/-- Sweeps within a transaction, which is given up if that fails. -/
def sweepWithin (S : Store σ τ) (config : Config) (now : Timestamp) (t : τ) (h : Handler σ τ) :
    Except StoreError (Swept × τ) × Handler σ τ :=
  match sweep S config now t h.store h.journal with
  | (.ok swept, t, s, j) => (.ok (swept, t), { h with store := s, journal := j })
  | (.error e, t, s, j) => (.error e, { h with store := s, journal := j }.giveUp S t)

/-- Stages a generation and the sweep in a transaction. -/
def prepare (S : Store σ τ) (events : List EventRecord) (config : Config) (h : Handler σ τ) :
    Except StoreError (Prepared τ) × Handler σ τ :=
  match S.start h.store with
  | (.error e, s) => (.error e, { h with store := s })
  | (.ok t, s) =>
    match S.insert events t s with
    | (.error e, t, s) => (.error e, { h with store := s }.giveUp S t)
    | (.ok _, t, s) =>
      let (now, h) := { h with store := s }.now
      match h.sweepWithin S config now t with
      | (.error e, h) => (.error e, h)
      | (.ok (swept, t), h) => (.ok ⟨events, swept, t⟩, h)

/-! Outcomes. -/

/-- Counts a finished generation by its outcome. -/
def countFlush (S : Store σ τ) (outcome : String) (j : Journal) : Journal :=
  j.count "autolog_flushes_total" [("outcome", outcome), ("store", S.name)] 1

/-- Reports the length of the buffer. -/
def gaugeBuffer (S : Store σ τ) (h : Handler σ τ) : Handler σ τ :=
  h.report (·.gauge "autolog_buffered_events" [("store", S.name)] h.buffer.length)

/-- Takes note of a generation that was written. -/
def succeed (S : Store σ τ) (events : List EventRecord) (swept : Swept) (h : Handler σ τ) :
    Except HandlerError FlushReport × Handler σ τ :=
  let h := { h with
    flushes := h.flushes + 1
    persisted := h.persisted + events.length }
  let h := h.report fun j => (countFlush S "success" j).count "autolog_events_persisted_total"
    [("store", S.name)] events.length
  (.ok ⟨events.length, swept⟩, h.gaugeBuffer S)

/-- Puts a generation that was not written back to the front of the buffer. -/
def fail (S : Store σ τ) (events : List EventRecord) (e : StoreError) (h : Handler σ τ) :
    Except HandlerError FlushReport × Handler σ τ :=
  let h := { h with
    failures := h.failures + 1
    buffer := events ++ h.buffer }
  let h := (h.report (countFlush S "failure")).gaugeBuffer S
  let h := h.report (·.note .error "Failed to flush audit events, keeping them buffered" [
    ("store", S.name),
    ("events", Digits.text events.length),
    ("backlog", Digits.text h.buffer.length),
    ("error", e.message)])
  (.error ⟨events.length, e⟩, h)

/-- Commits a staged generation. -/
def finish (S : Store σ τ) (p : Prepared τ) (h : Handler σ τ) :
    Except HandlerError FlushReport × Handler σ τ :=
  match S.commit p.transaction h.store with
  | (.ok (), s) => { h with store := s }.succeed S p.events p.swept
  | (.error e, s) => { h with store := s }.fail S p.events e

/-- Writes a generation. -/
def persist (S : Store σ τ) (events : List EventRecord) (config : Config) (h : Handler σ τ) :
    Except HandlerError FlushReport × Handler σ τ :=
  match h.prepare S events config with
  | (.ok p, h) => h.finish S p
  | (.error e, h) => h.fail S events e

/-! Gathering. -/

/-- Adds an event to the buffer. -/
def push (e : EventRecord) (h : Handler σ τ) : Handler σ τ := { h with buffer := h.buffer ++ [e] }

/-- How many events make a batch. -/
def threshold (config : Config) : Nat := max config.handler.batch 1

/-- Takes the whole buffer out. -/
def takeAll (h : Handler σ τ) : List EventRecord × Handler σ τ :=
  (h.buffer, { h with buffer := [] })

/-- Takes the whole buffer out if it holds a batch. -/
def takeIfDue (config : Config) (h : Handler σ τ) : Option (List EventRecord) × Handler σ τ :=
  if h.buffer.length < threshold config then (none, h)
  else
    let (events, h) := h.takeAll
    (some events, h)

/-- Hands a generation to the background. -/
def enqueue (events : List EventRecord) (config : Config) (h : Handler σ τ) : Handler σ τ :=
  { h with queue := h.queue ++ [.taken events config] }

/-- Writes the buffer, or hands it to the background, if it holds a batch. -/
def flushIfDue (S : Store σ τ) (config : Config) (h : Handler σ τ) :
    Except HandlerError (Option FlushReport) × Handler σ τ :=
  match h.takeIfDue config with
  | (none, h) => (.ok none, h)
  | (some events, h) =>
    if config.handler.background then (.ok none, h.enqueue events config)
    else
      let (result, h) := h.persist S events config
      (result.map some, h)

/-- Adds an event, and writes the buffer if it then holds a batch. -/
def record (S : Store σ τ) (config : Config) (e : EventRecord) (h : Handler σ τ) :
    Except HandlerError Unit × Handler σ τ :=
  let (result, h) := (h.push e).flushIfDue S config
  (result.map fun _ => (), h)

/-- Writes whatever is in the buffer. -/
def flush (S : Store σ τ) (config : Config) (h : Handler σ τ) :
    Except HandlerError FlushReport × Handler σ τ :=
  let (events, h) := h.takeAll
  if events.isEmpty then (.ok {}, h) else h.persist S events config

/-- Sweeps out expired events in a transaction of its own. -/
def sweepExpired (S : Store σ τ) (config : Config) (now : Timestamp) (h : Handler σ τ) :
    Except HandlerError Swept × Handler σ τ :=
  let refuse (e : StoreError) (h : Handler σ τ) : Except HandlerError Swept × Handler σ τ :=
    (.error ⟨0, e⟩, h.report (·.note .error "Retention sweep failed" [
      ("store", S.name), ("error", e.message)]))
  match S.start h.store with
  | (.error e, s) => refuse e { h with store := s }
  | (.ok t, s) =>
    match { h with store := s }.sweepWithin S config now t with
    | (.error e, h) => refuse e h
    | (.ok (swept, t), h) =>
      match S.commit t h.store with
      | (.ok (), s) => (.ok swept, { h with store := s })
      | (.error e, s) => refuse e { h with store := s }

/-! The background. -/

/-- Goes on with a staged generation: commits it, or lays it aside if the store holds it back. -/
def proceed (S : Store σ τ) (p : Prepared τ) (h : Handler σ τ) : Handler σ τ :=
  if S.ready p.transaction h.store then (h.finish S p).2 else { h with held := h.held ++ [p] }

/-- Goes on with a generation in the background. -/
def advance (S : Store σ τ) (h : Handler σ τ) : Task τ → Handler σ τ
  | .prepared p => h.proceed S p
  | .taken events config =>
    match h.prepare S events config with
    | (.ok p, h) => h.proceed S p
    | (.error e, h) => (h.fail S events e).2

/-- Goes on with everything in the queue, in order. -/
def runQueue (S : Store σ τ) (h : Handler σ τ) : Handler σ τ :=
  h.queue.foldl (advance S) { h with queue := [] }

/-- Puts the generations that the store no longer holds back at the end of the queue. -/
def wake (S : Store σ τ) (h : Handler σ τ) : Handler σ τ :=
  { h with
    queue := h.queue ++ (h.held.filter fun p => S.ready p.transaction h.store).map .prepared
    held := h.held.filter fun p => !S.ready p.transaction h.store }

/-- Finishes what is in the background and then writes what is in the buffer. -/
def shutdown (S : Store σ τ) (config : Config) (h : Handler σ τ) :
    Except HandlerError FlushReport × Handler σ τ :=
  (h.runQueue S).flush S config

end Handler

end AuditTrail
