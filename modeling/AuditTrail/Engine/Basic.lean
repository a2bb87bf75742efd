import AuditTrail.Context
import AuditTrail.Handler
import AuditTrail.Rule.Decision

/-
  The engine that a host talks to: settings, rules and the handler together. What a host does to its
  entities is first built up in a context; `complete` hands the events of a context over. Nothing
  that goes wrong in storing events comes back to the host: it is reported, and the events stay in
  the buffer.
-/
namespace AuditTrail

/-- The engine over a store with contents `σ` and open transactions `τ`. -/
structure Engine (σ τ : Type) where
  settings : Settings
  counter : VersionCounter
  rules : Rules := {}
  handler : Handler σ τ
  /-- The applications that log records can be traced to. -/
  applications : List String := []

namespace Engine

variable {σ τ : Type}

/-- An engine under a configuration. -/
def create (config : Config) (contents : σ) (surroundings : Surroundings) :
    Except ConfigError (Engine σ τ) :=
  (Settings.create config {}).map fun (settings, counter) =>
    { settings := settings
      counter := counter
      handler := { store := contents, surroundings := surroundings } }

/-- The snapshot in effect. -/
def snapshot (e : Engine σ τ) : Snapshot := e.settings.current

/-- The configuration in effect. -/
def config (e : Engine σ τ) : Config := e.settings.current.config

/-! Registration. -/

/-- Makes an application known. -/
def addApplication (name : String) (e : Engine σ τ) : Engine σ τ :=
  { e with applications := if e.applications.contains name then e.applications
      else e.applications ++ [name] }

/-- Changes the overrides in force. -/
def editRegistry (f : Registry → Registry) (e : Engine σ τ) : Engine σ τ :=
  { e with rules := { e.rules with registry := f e.rules.registry } }

/-- Replaces the source of the settings, which takes effect when they are resolved. -/
def replaceConfig (config : Config) (e : Engine σ τ) : Engine σ τ :=
  { e with settings := e.settings.replace config }

/-- Resolves the settings again and forgets remembered decisions. On an error nothing changes. -/
def invalidate (e : Engine σ τ) : Except ConfigError (Engine σ τ) :=
  (e.settings.invalidate e.counter).map fun (settings, counter) =>
    { e with settings := settings, counter := counter, rules := e.rules.invalidate }

/-! Reports. -/

/-- Changes the journal. -/
def report (f : Journal → Journal) (e : Engine σ τ) : Engine σ τ :=
  { e with handler := e.handler.report f }

/-- Announces something in the audit. -/
def announce (level : Level) (message : String) (e : Engine σ τ) : Engine σ τ :=
  e.report (·.announce level message)

/-- Counts a candidate that was excluded. -/
def countExcluded (c : Category) (e : Engine σ τ) : Engine σ τ :=
  e.report (·.count "autolog_events_excluded_total" [("category", c.name)] 1)

/-- Reads the clock. -/
def now (e : Engine σ τ) : Timestamp × Engine σ τ :=
  let (time, handler) := e.handler.now
  (time, { e with handler := handler })

/-- A new identifier. -/
def fresh (e : Engine σ τ) : Uuid × Engine σ τ :=
  let (id, surroundings) := e.handler.surroundings.fresh
  (id, { e with handler := { e.handler with surroundings := surroundings } })

/-! Rules. -/

/-- Asks the rules about a candidate. -/
def excludes (candidate : Candidate) (e : Engine σ τ) : Bool × Engine σ τ :=
  let (excluded, rules) := e.rules.shouldExclude e.snapshot candidate
  (excluded, { e with rules := rules })

/-- Asks the rules about a candidate and counts it if it is excluded. -/
def excludesCounted (c : Category) (candidate : Candidate) (e : Engine σ τ) :
    Bool × Engine σ τ :=
  let (excluded, e) := e.excludes candidate
  (excluded, if excluded then e.countExcluded c else e)

/-! Handing over. -/

/-- Hands an event to the handler on behalf of an observation; a failure is reported. -/
def record (S : Store σ τ) (event : EventRecord) (observation : String) (e : Engine σ τ) :
    Engine σ τ :=
  let (result, handler) := e.handler.record S e.config event
  let e := { e with handler := handler }
  match result with
  | .ok () => e
  | .error error =>
    e.report fun j =>
      (j.count "autolog_probe_failures_total" [("probe", observation)] 1).note .error
        "Audit event not persisted yet" [("probe", observation), ("error", error.message)]

/-- Hands over the events of a context, without modifications that changed nothing. -/
def complete (S : Store σ τ) (c : Context) (e : Engine σ τ) : Context × Engine σ τ :=
  (c.takeEvents.2, c.handedOver.foldl (fun e m => e.record S (.model m) "complete") e)

/-- Writes whatever is in the buffer. -/
def flush (S : Store σ τ) (e : Engine σ τ) : Except HandlerError FlushReport × Engine σ τ :=
  let (result, handler) := e.handler.flush S e.config
  (result, { e with handler := handler })

/-- Finishes what is in the background and writes the buffer. -/
def shutdown (S : Store σ τ) (e : Engine σ τ) : Except HandlerError FlushReport × Engine σ τ :=
  let e := e.report (·.note .info "Audit engine shutting down")
  let (result, handler) := e.handler.shutdown S e.config
  (result, { e with handler := handler })

/-- Goes on with everything in the background. -/
def runQueue (S : Store σ τ) (e : Engine σ τ) : Engine σ τ :=
  { e with handler := e.handler.runQueue S }

end Engine

end AuditTrail
