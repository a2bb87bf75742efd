import AuditTrail.Engine.Basic
import AuditTrail.Log.Emission

/-
  Observing log records of the host. A record is traced to an application by the file it comes
  from, or else by its module; records of this library itself are passed over.
-/
namespace AuditTrail

/-- The first part of a module's path. -/
def firstModule (path : String) : String :=
  String.ofList (path.toList.takeWhile fun c => c ≠ ':' ∧ c ≠ '.')

/-- The application that a log record is traced to: the last part of its file's path that is a known
application, or else the first part of its module if that is one. -/
def LogRecord.application? (known : List String) (r : LogRecord) : Option String :=
  let ofFile := r.file.bind fun file =>
    ((splitChars (fun c => c == '/' || c == '\\') [] file.toList).filter known.contains).getLast?
  let ofModule := (r.moduleName.map firstModule).filter known.contains
  ofFile.or ofModule

namespace Engine

variable {σ τ : Type}

/-- Whether a log record is one to be recorded, apart from exclusions. -/
def wants (r : LogRecord) (e : Engine σ τ) : Bool :=
  e.config.isEnabled .unspecified &&
    e.config.unspecified.loglevel.value ≤ r.level.value && !r.moduleName.any isOwnModule

/-- Records a log record. -/
def logRecorded (S : Store σ τ) (r : LogRecord) (e : Engine σ τ) : Engine σ τ :=
  if !e.wants r then e
  else
    let application := r.application? e.applications
    match e.excludesCounted .unspecified (.log application r.file) with
    | (true, e) => e
    | (false, e) =>
      let (id, e) := e.fresh
      let (time, e) := e.now
      e.record S (.unspecified {
        id := id
        createdAt := time
        message := r.message
        level := r.level
        line := r.line
        file := r.file
        application := .named application }) "log_record"

/-- Records log records that come in through a channel, after what waits in the background and
before what they add to it. -/
def forwardLogs (S : Store σ τ) (records : List LogRecord) (e : Engine σ τ) : Engine σ τ :=
  (records.foldl (fun e r => e.logRecorded S r) (e.runQueue S)).runQueue S

end Engine

end AuditTrail
