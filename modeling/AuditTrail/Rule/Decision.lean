import AuditTrail.Rule.Registry
import AuditTrail.Settings

/-
  Whether something observed is excluded. An inclusion that covers it decides first, then an
  exclusion, then what its type asks for, then the configured patterns, and last whether things
  without an application are excluded. The decision by the configured patterns is remembered for
  types of entities and fields until a snapshot of another version is asked about; the wildcard
  patterns made for a file pattern are remembered as well.
-/
namespace AuditTrail

/-- Something observed that may be excluded. -/
inductive Candidate where
  | model (entity : EntityType) (operation : Operation)
  | field (entity : EntityType) (field : String)
  | request (handler : Option String) (method : String) (application : Option String)
      (status : Nat)
  | log (application : Option String) (file : Option String)

/-- The sorts of candidates. -/
inductive CandidateKind where
  | model
  | field
  | request
  | unspecified
  deriving DecidableEq, Repr

namespace CandidateKind

def name : CandidateKind → String
  | .model => "Model"
  | .field => "Field"
  | .request => "Request"
  | .unspecified => "Unspecified"

end CandidateKind

def Candidate.kind : Candidate → CandidateKind
  | .model _ _ => .model
  | .field _ _ => .field
  | .request _ _ _ _ => .request
  | .log _ _ => .unspecified

/-! Decisions by the configured patterns. -/

/-- The names under which a type of entities is looked for. -/
def EntityType.names (e : EntityType) : List String :=
  e.name :: (e.moduleName.map (· ++ "." ++ e.name)).toList ++
    (e.application.map (· ++ "." ++ e.name)).toList

/-- The names under which a field is looked for. -/
def EntityType.fieldNames (e : EntityType) (field : String) : List String :=
  [field, e.name ++ "." ++ field] ++
    (e.application.map (· ++ "." ++ e.name ++ "." ++ field)).toList

/-- Whether an application, or the lack of one, is excluded. -/
def applicationExcluded (applications : List Pattern) (unknown : Bool) : Option String → Bool
  | some a => Pattern.anyMatch applications a
  | none => unknown

/-- Whether the patterns exclude a type of entities. -/
def ModelExclude.excludesType (x : ModelExclude) (e : EntityType) : Bool :=
  e.names.any (Pattern.anyMatch x.models) || e.moduleName.any (Pattern.anyMatch x.models) ||
    applicationExcluded x.applications x.unknown e.application

/-- Whether the patterns exclude a field. -/
def ModelExclude.excludesField (x : ModelExclude) (e : EntityType) (field : String) : Bool :=
  (e.fieldNames field).any (Pattern.anyMatch x.fields)

/-- Whether the settings exclude a request. -/
def RequestExclude.excludes (x : RequestExclude) (method : String) (application : Option String)
    (status : Nat) : Bool :=
  x.methods.contains (Text.lower method) || application.any (Pattern.anyMatch x.applications) ||
    x.status.contains status || (application.isNone && x.unknown)

/-- Splits a text at some characters. -/
def splitChars (separator : Char → Bool) (word : List Char) : List Char → List String
  | [] => [String.ofList word.reverse]
  | c :: cs =>
    if separator c then String.ofList word.reverse :: splitChars separator [] cs
    else splitChars separator (c :: word) cs

/-- The components of a path. -/
def pathParts (file : String) : List String :=
  (splitChars (fun c => c == '/' || c == '\\') [] file.toList).filter (· ≠ "")

/-- All trailing parts of a list, without the empty one. -/
def trailing {α : Type} : List α → List (List α)
  | [] => []
  | a :: as => (a :: as) :: trailing as

/-- The wildcard patterns for a directory in front, a name at the end and a directory in between. -/
def pathGlobs (value : String) : List Pattern :=
  [value ++ "/*", "/*" ++ value, "/*" ++ value ++ "/*"].filterMap fun g =>
    match Pattern.glob g with
    | .ok p => some p
    | .error _ => none

/-- Whether a pattern matches a trailing part of a path. -/
def Pattern.matchesTrailing (p : Pattern) (file : String) : Bool :=
  (trailing (pathParts file)).any fun ps => p.isMatch ("/".intercalate ps)

/-- Whether one of the wildcard patterns made for a value matches a path by its directories. -/
def anyGlobInPath (globs : List Pattern) (file : String) : Bool :=
  let normalized := "/" ++ "/".intercalate (pathParts file)
  let bare := String.ofList (normalized.toList.dropWhile (· == '/'))
  Pattern.anyMatch globs normalized || Pattern.anyMatch globs bare

/-- Whether a pattern matches a path by its trailing parts or its directories. -/
def Pattern.matchesPath (p : Pattern) (file : String) : Bool :=
  p.matchesTrailing file || anyGlobInPath (pathGlobs p.value) file

/-- Whether the patterns exclude a file. Regular expressions are compared with the whole path
only. -/
def UnspecifiedExclude.excludesFile (x : UnspecifiedExclude) (file : String) : Bool :=
  Pattern.anyMatch x.files file ||
    (x.files.filter (·.kind != .regex)).any (·.matchesPath file)

/-- Whether the settings exclude a log record. -/
def UnspecifiedExclude.excludes (x : UnspecifiedExclude) (application file : Option String) :
    Bool :=
  application.any (Pattern.anyMatch x.applications) || file.any x.excludesFile ||
    (application.isNone && x.unknown)

/-! Decisions with overrides and memory. -/

/-- What a remembered decision was about. -/
structure MemoKey where
  version : Nat
  entity : String
  application : Option String
  kind : CandidateKind
  detail : String
  deriving DecidableEq, Repr

/-- The overrides in force and the decisions remembered, all for one version. -/
structure Rules where
  registry : Registry := {}
  version : Nat := 0
  memo : List (MemoKey × Bool) := []
  /-- The wildcard patterns made for the values of file patterns. -/
  pathMemo : List (String × List Pattern) := []

namespace Rules

/-- Forgets all decisions and the wildcard patterns made for paths. -/
def invalidate (r : Rules) : Rules := { r with memo := [], pathMemo := [] }

/-- Forgets the decisions of other versions. -/
def forVersion (r : Rules) (version : Nat) : Rules :=
  if r.version = version then r else { r with version := version, memo := [] }

/-- Takes a decision from memory, or makes and remembers it. -/
def memoized (r : Rules) (version : Nat) (e : EntityType) (kind : CandidateKind) (detail : String)
    (decide : Bool) : Bool × Rules :=
  let r := r.forVersion version
  let key : MemoKey := ⟨version, e.qualifiedName, e.application, kind, detail⟩
  match r.memo.lookup key with
  | some hit => (hit, r)
  | none => (decide, { r with memo := (key, decide) :: r.memo })

/-- Whether an operation on a type of entities is excluded. -/
def modelExcluded (r : Rules) (s : Snapshot) (e : EntityType) (op : Operation) : Bool × Rules :=
  if (r.registry.modelInclusion? e.qualifiedName).any (·.operations.contains op) then (false, r)
  else if (r.registry.modelExclusion? e.qualifiedName).any (·.operations.contains op) then (true, r)
  else if e.ignore.complete || e.ignore.operations.contains op then (true, r)
  else r.memoized s.version e .model op.name (s.config.model.exclude.excludesType e)

/-- Whether a field is excluded. -/
def fieldExcluded (r : Rules) (s : Snapshot) (e : EntityType) (field : String) : Bool × Rules :=
  if (r.registry.modelInclusion? e.qualifiedName).any (·.fields.contains field) then (false, r)
  else if (r.registry.modelExclusion? e.qualifiedName).any (·.fields.contains field) then (true, r)
  else if e.ignore.complete || e.ignore.fields.contains field then (true, r)
  else r.memoized s.version e .field field (s.config.model.exclude.excludesField e field)

/-- Whether a request is excluded. -/
def requestExcluded (r : Rules) (s : Snapshot) (handler : Option String) (method : String)
    (application : Option String) (status : Nat) : Bool :=
  if (handler.bind r.registry.requestInclusion?).any (·.covers method) then false
  else if (handler.bind r.registry.requestExclusion?).any (·.covers method) then true
  else s.config.request.exclude.excludes method application status

/-- Takes the wildcard patterns for a value from memory, or makes and remembers them. -/
def globsFor (r : Rules) (value : String) : List Pattern × Rules :=
  match r.pathMemo.lookup value with
  | some globs => (globs, r)
  | none =>
    let globs := pathGlobs value
    (globs, { r with pathMemo := (value, globs) :: r.pathMemo })

/-- Whether a pattern matches a path by its trailing parts or its directories. -/
def pathMatches (r : Rules) (file : String) (p : Pattern) : Bool × Rules :=
  if p.matchesTrailing file then (true, r)
  else
    let (globs, r) := r.globsFor p.value
    (anyGlobInPath globs file, r)

/-- Whether one of several patterns matches a path; none is asked after the first that does. -/
def anyPathMatches (file : String) : List Pattern → Rules → Bool × Rules
  | [], r => (false, r)
  | p :: ps, r =>
    match r.pathMatches file p with
    | (true, r) => (true, r)
    | (false, r) => anyPathMatches file ps r

/-- Whether a log record's file is excluded. -/
def fileExcluded (r : Rules) (x : UnspecifiedExclude) (file : String) : Bool × Rules :=
  if Pattern.anyMatch x.files file then (true, r)
  else anyPathMatches file (x.files.filter (·.kind != .regex)) r

/-- Whether a log record is excluded. -/
def logExcluded (r : Rules) (s : Snapshot) (application file : Option String) : Bool × Rules :=
  let x := s.config.unspecified.exclude
  let unknown := application.isNone && x.unknown
  if application.any (Pattern.anyMatch x.applications) then (true, r)
  else
    match file with
    | none => (unknown, r)
    | some file =>
      match r.fileExcluded x file with
      | (true, r) => (true, r)
      | (false, r) => (unknown, r)

/-- Whether a candidate is excluded, and what is remembered afterwards. -/
def shouldExclude (r : Rules) (s : Snapshot) : Candidate → Bool × Rules
  | .model e op => r.modelExcluded s e op
  | .field e field => r.fieldExcluded s e field
  | .request handler method application status =>
    (r.requestExcluded s handler method application status, r)
  | .log application file => r.logExcluded s application file

end Rules

end AuditTrail
