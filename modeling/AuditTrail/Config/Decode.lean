import AuditTrail.Config.Basic
import AuditTrail.Json.Decoder
import AuditTrail.Toml.Reader

/-
  Reading the configuration from a structured value or a document. Patterns and durations are
  looked at first, so that a bad one is reported under its dotted key; then the sections are read,
  and last the rules that concern several settings are checked.
-/
namespace AuditTrail

namespace Decoder

def category : Decoder Category :=
  choice (Category.all.map fun c => (c.name, c))

def direction : Decoder Direction :=
  choice [("request", .request), ("response", .response)]

def contentType : Decoder ContentType :=
  choice [("application/json", .json)]

def severity : Decoder Severity :=
  choice ([Severity.trace, .debug, .info, .warn, .error].map fun s => (s.directive, s))

def logFormat : Decoder LogFormat :=
  choice ([LogFormat.pretty, .compact, .json].map fun f => (f.name, f))

/-- A field that holds a greatest age. -/
def ageField {σ : Type} (put : Option Duration → σ → σ) : Field σ :=
  field "max_age" maxAge put

def requestExclude : Decoder RequestExclude :=
  record [
    field "unknown" bool fun v e => { e with unknown := v },
    field "applications" (list pattern) fun v e => { e with applications := v },
    field "methods" (list string) fun v e => { e with methods := v.map Text.lower },
    field "status" (list (below 0x10000)) fun v e => { e with status := v }] {}

def capture : Decoder CaptureConfig :=
  record [
    field "enabled" (list direction) fun v c => { c with enabled := v },
    field "query" bool fun v c => { c with query := v },
    field "ignore" (list string) fun v c => { c with ignore := v },
    field "mask" (list string) fun v c => { c with mask := v },
    field "content_types" (list contentType) fun v c => { c with contentTypes := v }] {}

def request : Decoder RequestConfig :=
  record [
    field "loglevel" level fun v c => { c with loglevel := v },
    field "exclude" requestExclude fun v c => { c with exclude := v },
    field "data" capture fun v c => { c with data := v },
    field "ip" bool fun v c => { c with ip := v },
    field "log_request_was_not_recorded" bool fun v c => { c with logNotRecorded := v },
    ageField fun v c => { c with maxAge := v }] {}

def modelExclude : Decoder ModelExclude :=
  record [
    field "unknown" bool fun v e => { e with unknown := v },
    field "fields" (list pattern) fun v e => { e with fields := v },
    field "models" (list pattern) fun v e => { e with models := v },
    field "applications" (list pattern) fun v e => { e with applications := v }] {}

def model : Decoder ModelConfig :=
  record [
    field "loglevel" level fun v c => { c with loglevel := v },
    field "exclude" modelExclude fun v c => { c with exclude := v },
    field "detailed_message" bool fun v c => { c with detailedMessage := v },
    field "performance" bool fun v c => { c with performance := v },
    field "snapshot" bool fun v c => { c with snapshot := v },
    ageField fun v c => { c with maxAge := v }] {}

def unspecifiedExclude : Decoder UnspecifiedExclude :=
  record [
    field "unknown" bool fun v e => { e with unknown := v },
    field "files" (list pattern) fun v e => { e with files := v },
    field "applications" (list pattern) fun v e => { e with applications := v }] {}

def unspecified : Decoder UnspecifiedConfig :=
  record [
    field "loglevel" level fun v c => { c with loglevel := v },
    field "exclude" unspecifiedExclude fun v c => { c with exclude := v },
    ageField fun v c => { c with maxAge := v }] {}

def globals : Decoder GlobalsConfig :=
  record [
    field "exclude"
      (record [field "applications" (list pattern) fun v (_ : GlobalsConfig) => ⟨v⟩] {})
      fun v _ => v] {}

def handler : Decoder HandlerConfig :=
  record [
    field "batch" (below 0x10000000000000000) fun v c => { c with batch := v },
    { field "background" bool fun v c => { c with background := v } with
      names := ["background", "threading"] }] {}

def logging : Decoder LoggingConfig :=
  record [
    field "level" severity fun v c => { c with level := v },
    field "format" logFormat fun v c => { c with format := v },
    field "timestamps" bool fun v c => { c with timestamps := v },
    field "file_line" bool fun v c => { c with fileLine := v },
    field "filter" (optional string) fun v c => { c with filter := v },
    field "capture_events" bool fun v c => { c with captureEvents := v }] {}

/-- The whole configuration, without the rules that concern several settings. -/
def config : Decoder Config :=
  record [
    field "modules" (list category) fun v c => { c with modules := v },
    field "globals" globals fun v c => { c with globals := v },
    field "request" request fun v c => { c with request := v },
    field "model" model fun v c => { c with model := v },
    field "unspecified" unspecified fun v c => { c with unspecified := v },
    field "handler" handler fun v c => { c with handler := v },
    field "logging" logging fun v c => { c with logging := v }] {}

end Decoder

/-- Why a configuration was not accepted. -/
inductive ConfigError where
  /-- The document is malformed. -/
  | malformed
  /-- A value was not taken, in a configuration of the given notation. -/
  | value (w : Notation) (e : DecodeError)
  | invalidPattern (field : String) (e : PatternError)
  | invalidDuration (field : String) (e : DurationError)
  | invalid (rule : ConfigRule)
  deriving DecidableEq, Repr

/-- The text shown for an error, where it is this library's own. -/
def ConfigError.message? : ConfigError → Option String
  | .malformed => none
  | .value _ e => e.message?
  | .invalidPattern field e =>
    e.message?.map fun m => "Invalid search pattern in " ++ field ++ ": " ++ m
  | .invalidDuration field e => some ("Invalid duration for " ++ field ++ ": " ++ e.message)
  | .invalid rule => some ("Configuration validation error: " ++ rule.message)

namespace Config

/-- The value at the end of a path of keys. -/
def valueAt? (v : Json) (path : List String) : Option Json :=
  path.foldlM (fun v key => v.get? key) v

/-- The lists of patterns, in the order in which they are looked at. -/
def patternLists : List (List String) := [
  ["globals", "exclude", "applications"],
  ["request", "exclude", "applications"],
  ["model", "exclude", "applications"],
  ["model", "exclude", "models"],
  ["model", "exclude", "fields"],
  ["unspecified", "exclude", "applications"],
  ["unspecified", "exclude", "files"]]

/-- The written form of a pattern in a list, if the entry has the form of one. -/
def patternText? : Json → Option String
  | .string s => some s
  | .object ms =>
    match ms.lookup "type", ms.lookup "value" with
    | some (.string kind), some (.string value) => some (kind ++ ":" ++ value)
    | _, _ => none
  | _ => none

/-- The first bad pattern of a list of entries. -/
def badPattern? : List Json → Option PatternError
  | [] => none
  | v :: rest =>
    match patternText? v with
    | none => badPattern? rest
    | some text =>
      match Pattern.parse text with
      | .ok _ => badPattern? rest
      | .error e => some e

/-- The fault of a greatest age, if it is a text or a number. -/
def badAge? : Json → Option DurationError
  | .string s =>
    match Duration.parse s with
    | .ok _ => none
    | .error e => some e
  | .int n => if n < 0 then some .negative else none
  | .double x => if x.isFinite && x.isBelowZero then some .negative else none
  | _ => none

/-- Looks at the patterns and durations of a configuration. -/
def check (v : Json) : Except ConfigError Unit := do
  for path in patternLists do
    if let some (.array items) := valueAt? v path then
      if let some e := badPattern? items then
        throw (.invalidPattern (".".intercalate path) e)
  for c in Category.all do
    let path := [c.name, "max_age"]
    if let some age := valueAt? v path then
      if let some e := badAge? age then
        throw (.invalidDuration (".".intercalate path) e)

/-- Reads the sections and checks the rules. -/
def readSections (w : Notation) (v : Json) : Except ConfigError Config := do
  let c ← (Decoder.config w v).mapError (.value w)
  match c.broken? with
  | some rule => .error (.invalid rule)
  | none => .ok c

/-- The configuration given by a structured value. -/
def ofJson (v : Json) : Except ConfigError Config := do
  check v
  readSections .json v

mutual

/-- Whether all integers fit into 64 bits with a sign. -/
def hasWordIntegers : Json → Bool
  | .int n => -0x8000000000000000 ≤ n && n < 0x8000000000000000
  | .array items => itemsHaveWordIntegers items
  | .object ms => membersHaveWordIntegers ms
  | _ => true

/-- The same for all items. -/
def itemsHaveWordIntegers : List Json → Bool
  | [] => true
  | v :: rest => hasWordIntegers v && itemsHaveWordIntegers rest

/-- The same for all members. -/
def membersHaveWordIntegers : List (String × Json) → Bool
  | [] => true
  | (_, v) :: rest => hasWordIntegers v && membersHaveWordIntegers rest

end

/-- The configuration given by a document. -/
def ofText (text : String) : Except ConfigError Config :=
  match Toml.parse text with
  | none => .error .malformed
  | some v =>
    if hasWordIntegers v then do
      check v
      readSections .toml v
    else .error .malformed

end Config

end AuditTrail
