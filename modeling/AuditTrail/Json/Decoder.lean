import AuditTrail.Json.Basic
import AuditTrail.Identity.Uuid
import AuditTrail.Level
import AuditTrail.Pattern
import AuditTrail.Time.Timestamp

/-
  Taking structured values for domain values. A record is read member by member in the order of the
  keys; unknown keys are passed over, a field may stand only once even under two names, and a list
  may stand for a record by giving the fields in their declared order. The first fault met decides
  the error.
-/
namespace AuditTrail

/-- Why a value was not taken. -/
inductive DecodeError where
  /-- The value has the wrong form. -/
  | mismatch
  | pattern (e : PatternError)
  | duration (e : DurationError)
  | level (e : LevelError)
  /-- Seconds and nanoseconds whose sum does not fit into a duration. The value is not refused for
  it: reading breaks off. -/
  | durationOverflow
  deriving DecidableEq, Repr

/-- The text shown for an error, where it is this library's own. -/
def DecodeError.message? : DecodeError → Option String
  | .mismatch => none
  | .pattern e => e.message?
  | .duration e => some e.message
  | .level e => some e.message
  | .durationOverflow => none

/-- The notation a value was written in. They differ in how the empty content of a named choice is
written out: null in structured values, an empty table or list in configuration documents. -/
inductive Notation where
  | json
  | toml
  deriving DecidableEq, Repr

/-- A way to take values for something. -/
abbrev Decoder (α : Type) := Notation → Json → Except DecodeError α

namespace Decoder

def bool : Decoder Bool
  | _, .bool b => .ok b
  | _, _ => .error .mismatch

def string : Decoder String
  | _, .string s => .ok s
  | _, _ => .error .mismatch

/-- A natural number below a bound. -/
def below (bound : Nat) : Decoder Nat
  | _, .int n => if 0 ≤ n ∧ n < bound then .ok n.toNat else .error .mismatch
  | _, _ => .error .mismatch

/-- A list of things. -/
def list {α : Type} (item : Decoder α) : Decoder (List α)
  | w, .array items => items.mapM (item w)
  | _, _ => .error .mismatch

/-- Null or something. -/
def optional {α : Type} (item : Decoder α) : Decoder (Option α)
  | _, .null => .ok none
  | w, v => (item w v).map some

/-- Any value; null counts as none. -/
def anything : Decoder (Option Json)
  | _, .null => .ok none
  | _, v => .ok (some v)

/-- Whether a value is the written-out empty content of a choice. -/
def isUnit : Notation → Json → Bool
  | .json, .null => true
  | .toml, .object [] => true
  | .toml, .array [] => true
  | _, _ => false

/-- One of several names, alone or with its empty content written out. -/
def choice {α : Type} (names : List (String × α)) : Decoder α
  | _, .string s => match names.lookup s with
    | some a => .ok a
    | none => .error .mismatch
  | w, .object [(s, v)] => match names.lookup s with
    | some a => if isUnit w v then .ok a else .error .mismatch
    | none => .error .mismatch
  | _, _ => .error .mismatch

/-- An identifier in one of its written forms. -/
def uuid : Decoder Uuid
  | _, .string s => match Uuid.parse s with
    | some u => .ok u
    | none => .error .mismatch
  | _, _ => .error .mismatch

/-- A point in time in its written form. -/
def timestamp : Decoder Timestamp
  | _, .string s => match Timestamp.parse s with
    | some t => .ok t
    | none => .error .mismatch
  | _, _ => .error .mismatch

/-- A level as a number or by name. -/
def level : Decoder Level
  | _, .int n =>
    if -0x8000000000000000 ≤ n ∧ n < 0x8000000000000000 then
      match Level.ofInt? n with
      | some l => .ok l
      | none => .error (.level (.outside n))
    else .error .mismatch
  | _, .string s => match Level.ofName? s with
    | some l => .ok l
    | none => .error (.level (.unknownName s))
  | _, _ => .error .mismatch

/-- A search pattern in its written form, or as a table of its kind and its value. -/
def pattern : Decoder Pattern
  | _, .string s => (Pattern.parse s).mapError .pattern
  | _, .object ms =>
    match ms.lookup "type", ms.lookup "value" with
    | some (.string kind), some (.string value) =>
      (Pattern.parse (kind ++ ":" ++ value)).mapError .pattern
    | _, _ => .error .mismatch
  | _, _ => .error .mismatch

/-! Records. -/

/-- When a field has to be given. -/
inductive Need where
  | always
  /-- Only where a list stands for the record. -/
  | inLists
  | never
  deriving DecidableEq

/-- A field of a record `σ`: its names, the first one first, and what its value does. -/
structure Field (σ : Type) where
  names : List String
  need : Need
  read : Notation → Json → σ → Except DecodeError σ

/-- A field that keeps its default if it is not given. -/
def field {σ α : Type} (name : String) (d : Decoder α) (put : α → σ → σ) : Field σ :=
  ⟨[name], .never, fun w v s => (d w v).map (put · s)⟩

/-- A field that has to be given. -/
def required {σ α : Type} (name : String) (d : Decoder α) (put : α → σ → σ) : Field σ :=
  ⟨[name], .always, fun w v s => (d w v).map (put · s)⟩

/-- A field that may be null, and may be left out of a record but not out of a list. -/
def nullable {σ α : Type} (name : String) (d : Decoder α) (put : Option α → σ → σ) : Field σ :=
  ⟨[name], .inLists, fun w v s => (optional d w v).map (put · s)⟩

/-- Reads the members of a record; `seen` are the first names of fields already read. -/
def readMembers {σ : Type} (fields : List (Field σ)) (w : Notation) (s : σ) (seen : List String) :
    List (String × Json) → Except DecodeError (σ × List String)
  | [] => .ok (s, seen)
  | (k, v) :: rest =>
    match fields.find? (·.names.contains k) with
    | none => readMembers fields w s seen rest
    | some f =>
      let name := f.names.headD ""
      if seen.contains name then .error .mismatch
      else do
        let s ← f.read w v s
        readMembers fields w s (name :: seen) rest

/-- Reads the items of a list that stands for a record. More of them than the record has fields are
passed over in documents and refused in structured values. -/
def readItems {σ : Type} (w : Notation) (s : σ) : List (Field σ) → List Json → Except DecodeError σ
  | [], [] => .ok s
  | [], _ :: _ => if w = .toml then .ok s else .error .mismatch
  | fields, [] => if fields.all (·.need == .never) then .ok s else .error .mismatch
  | f :: fields, v :: rest => do
    let s ← f.read w v s
    readItems w s fields rest

/-- Reads a record, starting from its defaults. -/
def record {σ : Type} (fields : List (Field σ)) (start : σ) : Decoder σ
  | w, .object ms => do
    let (s, seen) ← readMembers fields w start [] ms
    if fields.all fun f => f.need != .always || seen.contains (f.names.headD "") then .ok s
    else .error .mismatch
  | w, .array items => readItems w start fields items
  | _, _ => .error .mismatch

/-! Durations. -/

/-- A number below a bound under a key, or what stands for it if the key is missing. -/
def part (key : String) (bound : Nat) (missing : Except DecodeError Nat)
    (ms : List (String × Json)) : Except DecodeError Nat :=
  match ms.lookup key with
  | some v => below bound .json v
  | none => missing

/-- A duration as a record of seconds and, unless they have to be given, nanoseconds. Other keys
are refused. `overflow` is the error for a sum that does not fit. -/
def durationParts (nanosNeeded : Bool) (overflow : DecodeError) (ms : List (String × Json)) :
    Except DecodeError Duration := do
  let nanos ← part "nanos" 0x100000000 (if nanosNeeded then .error .mismatch else .ok 0) ms
  let secs ← part "secs" 0x10000000000000000 (.error .mismatch) ms
  if ms.any fun m => m.1 != "secs" && m.1 != "nanos" then .error .mismatch
  else
    match Duration.ofParts? secs.toUInt64 nanos with
    | some d => .ok d
    | none => .error overflow

/-- The greatest age of events: null, seconds as a number, a duration in its notation or a record of
seconds and nanoseconds. -/
def maxAge : Decoder (Option Duration)
  | _, .null => .ok none
  | _, .int n =>
    if n < 0 then
      if -0x8000000000000000 ≤ n then .error (.duration .negative) else .error .mismatch
    else if n < 0x10000000000000000 then .ok (some (.ofSecs n.toNat.toUInt64))
    else .error .mismatch
  | _, .double x => ((Duration.ofSeconds x).mapError .duration).map some
  | _, .string s => ((Duration.parse s).mapError .duration).map some
  | _, .object ms => (durationParts false .durationOverflow ms).map some
  | _, _ => .error .mismatch

/-- A measured duration: seconds and nanoseconds as a record or as a list. -/
def measured : Decoder Duration
  | _, .object ms => durationParts true .mismatch ms
  | _, .array [secs, nanos] => durationParts true .mismatch [("secs", secs), ("nanos", nanos)]
  | _, _ => .error .mismatch

end Decoder

end AuditTrail
