import AuditTrail.Config.Basic
import AuditTrail.Json.Basic

/-
  The configuration as a structured value. Patterns and durations appear in their written forms and
  levels as numbers.
-/
namespace AuditTrail

/-- A list of patterns. -/
def Json.patterns (ps : List Pattern) : Json := .array (ps.map fun p => .string p.toText)

/-- A list of texts. -/
def Json.texts (ss : List String) : Json := .array (ss.map .string)

/-- A greatest age, in whole seconds. -/
def Json.maxAge : Option Duration → Json
  | none => .null
  | some d => .string d.format

def Json.level (l : Level) : Json := .nat l.value.val

def RequestExclude.toJson (e : RequestExclude) : Json := .record [
  ("unknown", .bool e.unknown),
  ("applications", .patterns e.applications),
  ("methods", .texts e.methods),
  ("status", .array (e.status.map .nat))]

def CaptureConfig.toJson (c : CaptureConfig) : Json := .record [
  ("enabled", .texts (c.enabled.map (·.name))),
  ("query", .bool c.query),
  ("ignore", .texts c.ignore),
  ("mask", .texts c.mask),
  ("content_types", .texts (c.contentTypes.map (·.name)))]

def RequestConfig.toJson (c : RequestConfig) : Json := .record [
  ("loglevel", .level c.loglevel),
  ("exclude", c.exclude.toJson),
  ("data", c.data.toJson),
  ("ip", .bool c.ip),
  ("log_request_was_not_recorded", .bool c.logNotRecorded),
  ("max_age", .maxAge c.maxAge)]

def ModelExclude.toJson (e : ModelExclude) : Json := .record [
  ("unknown", .bool e.unknown),
  ("fields", .patterns e.fields),
  ("models", .patterns e.models),
  ("applications", .patterns e.applications)]

def ModelConfig.toJson (c : ModelConfig) : Json := .record [
  ("loglevel", .level c.loglevel),
  ("exclude", c.exclude.toJson),
  ("detailed_message", .bool c.detailedMessage),
  ("performance", .bool c.performance),
  ("snapshot", .bool c.snapshot),
  ("max_age", .maxAge c.maxAge)]

def UnspecifiedExclude.toJson (e : UnspecifiedExclude) : Json := .record [
  ("unknown", .bool e.unknown),
  ("files", .patterns e.files),
  ("applications", .patterns e.applications)]

def UnspecifiedConfig.toJson (c : UnspecifiedConfig) : Json := .record [
  ("loglevel", .level c.loglevel),
  ("exclude", c.exclude.toJson),
  ("max_age", .maxAge c.maxAge)]

def GlobalsConfig.toJson (c : GlobalsConfig) : Json := .record [
  ("exclude", .record [("applications", .patterns c.applications)])]

def HandlerConfig.toJson (c : HandlerConfig) : Json := .record [
  ("batch", .nat c.batch),
  ("background", .bool c.background)]

def LoggingConfig.toJson (c : LoggingConfig) : Json := .record [
  ("level", .string c.level.directive),
  ("format", .string c.format.name),
  ("timestamps", .bool c.timestamps),
  ("file_line", .bool c.fileLine),
  ("filter", .text? c.filter),
  ("capture_events", .bool c.captureEvents)]

def Config.toJson (c : Config) : Json := .record [
  ("modules", .texts (c.modules.map (·.name))),
  ("globals", c.globals.toJson),
  ("request", c.request.toJson),
  ("model", c.model.toJson),
  ("unspecified", c.unspecified.toJson),
  ("handler", c.handler.toJson),
  ("logging", c.logging.toJson)]

end AuditTrail
