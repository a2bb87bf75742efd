import AuditTrail.Level
import AuditTrail.Pattern
import AuditTrail.Time.Duration

/-
  The configuration: which categories of events are kept, what is excluded from them, how bodies of
  requests are captured, how events are batched, and how log output looks. Every part has its
  defaults. A configuration is resolved by adding the global exclusions to those of each category.
-/
namespace AuditTrail

/-- The categories of events. -/
inductive Category where
  | request
  | model
  | unspecified
  deriving DecidableEq, Repr

namespace Category

/-- All categories, in the order in which they are gone through. -/
def all : List Category := [.request, .model, .unspecified]

def name : Category → String
  | .request => "request"
  | .model => "model"
  | .unspecified => "unspecified"

/-- The category with a name. -/
def ofName? (name : String) : Option Category := all.find? (·.name == name)

end Category

/-- Which of the two bodies of an exchange. -/
inductive Direction where
  | request
  | response
  deriving DecidableEq, Repr

def Direction.name : Direction → String
  | .request => "request"
  | .response => "response"

/-- A kind of body that can be captured. -/
inductive ContentType where
  | json
  deriving DecidableEq, Repr

def ContentType.name : ContentType → String
  | .json => "application/json"

/-- Requests that are not recorded. Methods are in small letters. -/
structure RequestExclude where
  unknown : Bool := false
  applications : List Pattern := []
  methods : List String := ["get"]
  status : List Nat := [200]
  deriving DecidableEq, Repr

/-- How bodies are captured: keys in `ignore` are removed and values of keys in `mask` replaced. -/
structure CaptureConfig where
  enabled : List Direction := []
  query : Bool := false
  ignore : List String := []
  mask : List String := ["password"]
  contentTypes : List ContentType := [.json]
  deriving DecidableEq, Repr

structure RequestConfig where
  loglevel : Level := .info
  exclude : RequestExclude := {}
  data : CaptureConfig := {}
  ip : Bool := true
  logNotRecorded : Bool := true
  maxAge : Option Duration := none
  deriving DecidableEq, Repr

/-- Changes of entities that are not recorded. -/
structure ModelExclude where
  unknown : Bool := false
  fields : List Pattern := []
  models : List Pattern := []
  applications : List Pattern := []
  deriving DecidableEq, Repr

structure ModelConfig where
  loglevel : Level := .info
  exclude : ModelExclude := {}
  detailedMessage : Bool := true
  performance : Bool := false
  snapshot : Bool := false
  maxAge : Option Duration := none
  deriving DecidableEq, Repr

/-- Log records that are not recorded. -/
structure UnspecifiedExclude where
  unknown : Bool := false
  files : List Pattern := []
  applications : List Pattern := []
  deriving DecidableEq, Repr

structure UnspecifiedConfig where
  loglevel : Level := .info
  exclude : UnspecifiedExclude := {}
  maxAge : Option Duration := none
  deriving DecidableEq, Repr

/-- Applications that are excluded unless the configuration names others. -/
def defaultExcludedApplications : List Pattern :=
  [⟨.glob, "session*"⟩, ⟨.plain, "admin"⟩, ⟨.plain, "basehttp"⟩, ⟨.plain, "migrations"⟩,
    ⟨.plain, "contenttypes"⟩]

/-- Exclusions for all categories. -/
structure GlobalsConfig where
  applications : List Pattern := defaultExcludedApplications
  deriving DecidableEq, Repr

/-- How many events are gathered before they are stored, and whether they are stored in the
background. -/
structure HandlerConfig where
  batch : Nat := 1
  background : Bool := false
  deriving DecidableEq, Repr

/-- The layout of log output. -/
inductive LogFormat where
  | pretty
  | compact
  | json
  deriving DecidableEq, Repr

def LogFormat.name : LogFormat → String
  | .pretty => "pretty"
  | .compact => "compact"
  | .json => "json"

structure LoggingConfig where
  level : Severity := .info
  format : LogFormat := .compact
  timestamps : Bool := true
  fileLine : Bool := false
  filter : Option String := none
  captureEvents : Bool := false
  deriving DecidableEq, Repr

/-- The whole configuration. -/
structure Config where
  modules : List Category := Category.all
  globals : GlobalsConfig := {}
  request : RequestConfig := {}
  model : ModelConfig := {}
  unspecified : UnspecifiedConfig := {}
  handler : HandlerConfig := {}
  logging : LoggingConfig := {}
  deriving DecidableEq, Repr

/-- What a configuration breaks that no single part shows. -/
inductive ConfigRule where
  | emptyBatch
  | sharedKeys (keys : List String)
  deriving DecidableEq, Repr

def ConfigRule.message : ConfigRule → String
  | .emptyBatch => "handler.batch must be at least 1"
  | .sharedKeys keys =>
    "request.data.mask and request.data.ignore share keys: " ++ ", ".intercalate keys

/-- Adds the global exclusions to a category's own. -/
def RequestExclude.merge (globals : GlobalsConfig) (e : RequestExclude) : RequestExclude :=
  { e with applications := Pattern.union e.applications globals.applications }

/-- Adds the global exclusions to a category's own. -/
def ModelExclude.merge (globals : GlobalsConfig) (e : ModelExclude) : ModelExclude :=
  { e with applications := Pattern.union e.applications globals.applications }

/-- Adds the global exclusions to a category's own. -/
def UnspecifiedExclude.merge (globals : GlobalsConfig) (e : UnspecifiedExclude) :
    UnspecifiedExclude :=
  { e with applications := Pattern.union e.applications globals.applications }

/-- Whether bodies of one side of an exchange are captured. -/
def CaptureConfig.captures (c : CaptureConfig) (d : Direction) : Bool := c.enabled.contains d

/-- Whether bodies of a content type are captured. Parameters after a semicolon, blanks and case do
not count. -/
def CaptureConfig.accepts (c : CaptureConfig) (contentType : String) : Bool :=
  let essence := String.ofList (contentType.toList.takeWhile (· ≠ ';'))
  let essence := Text.asciiLower (Text.trim essence)
  c.contentTypes.any fun t => t.name == essence

namespace Config

/-- The rule that a configuration breaks, if any. -/
def broken? (c : Config) : Option ConfigRule :=
  if c.handler.batch = 0 then some .emptyBatch
  else
    let shared := c.request.data.mask.filter c.request.data.ignore.contains
    if shared = [] then none else some (.sharedKeys shared)

/-- The configuration with the global exclusions added to every category's. -/
def resolved (c : Config) : Config :=
  { c with
    request := { c.request with exclude := c.request.exclude.merge c.globals }
    model := { c.model with exclude := c.model.exclude.merge c.globals }
    unspecified := { c.unspecified with exclude := c.unspecified.exclude.merge c.globals } }

/-- Whether events of a category are kept at all. -/
def isEnabled (c : Config) (k : Category) : Bool := c.modules.contains k

/-- The greatest age of events of a category. -/
def maxAge (c : Config) : Category → Option Duration
  | .request => c.request.maxAge
  | .model => c.model.maxAge
  | .unspecified => c.unspecified.maxAge

/-- The level of a category. -/
def loglevel (c : Config) : Category → Level
  | .request => c.request.loglevel
  | .model => c.model.loglevel
  | .unspecified => c.unspecified.loglevel

end Config

end AuditTrail
