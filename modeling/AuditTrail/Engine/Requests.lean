import AuditTrail.Engine.Logs

/-
  Observing requests. At the end of a request the events of its context are handed over and then
  the request itself. A request that failed is also recorded as a log record.
-/
namespace AuditTrail

namespace Engine

variable {σ τ : Type}

/-- What is kept of a request. -/
def requestEvent (info : RequestInfo) (actor : Option String) (e : Engine σ τ) :
    RequestEvent × Engine σ τ :=
  let settings := e.config.request
  let (id, e) := e.fresh
  let (time, e) := e.now
  ({ id := id
     createdAt := time
     actor := actor
     uri := if settings.data.query then info.uri else info.path
     status := info.status
     method := Text.upper info.method
     application := .named info.application
     clientIp := if settings.ip then info.clientIp else none
     request := settings.data.capture .request info.requestBody
     response := settings.data.capture .response info.responseBody }, e)

/-- What a request is announced as. -/
def requestMessage (r : RequestEvent) : String :=
  "[" ++ r.method ++ "] [" ++ Digits.text r.status ++ "] " ++ r.actor.getD "Anonymous" ++ " at " ++
    r.uri ++ ((r.clientIp.map (" from " ++ ·)).getD "")

/-- Records a finished request with the events of its context. -/
def requestFinished (S : Store σ τ) (info : RequestInfo) (c : Context) (e : Engine σ τ) :
    Context × Engine σ τ :=
  let (c, e) := e.complete S c
  if !e.config.isEnabled .request then (c, e)
  else
    let candidate := Candidate.request info.handler info.method info.application info.status
    match e.excludesCounted .request candidate with
    | (true, e) =>
      (c, if e.config.request.logNotRecorded then
          e.report (·.note .info "Request was excluded and not recorded"
            [("method", info.method), ("status", Digits.text info.status)])
        else e)
    | (false, e) =>
      let (event, e) := e.requestEvent info c.actor
      let e := e.announce e.config.request.loglevel (requestMessage event)
      (c, e.record S (.request event) "request_finished")

/-- The level of a failure: critical up to the status of an internal error. -/
def failureLevel (status : Nat) : Level := if status ≤ 500 then .critical else .warning

/-- What a failure is announced as. -/
def failureMessage (info : RequestInfo) (error : String) : String :=
  "[" ++ Text.upper info.method ++ "] [" ++ Digits.text info.status ++ "] Exception: " ++
    if error.isEmpty then "UNKNOWN" else error

/-- Records a request that ended in an error. -/
def requestFailed (S : Store σ τ) (info : RequestInfo) (error : String) (c : Context)
    (e : Engine σ τ) : Context × Engine σ τ :=
  let level := failureLevel info.status
  let message := failureMessage info error
  let e := e.announce level message
  let e := e.logRecorded S { level := level, message := message, moduleName := info.handler }
  e.requestFinished S info c

end Engine

end AuditTrail
