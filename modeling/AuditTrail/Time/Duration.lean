import AuditTrail.Number.Text
import AuditTrail.Text.Property

/-
  Spans of time with nanoseconds, and the notation `P[nY][nM][nW][nD][T[nH][nM][nS]]` for whole
  seconds. A year counts 365 days and a month 30. Reading gives exactly the sum of the components,
  or refuses a text that does not follow the notation or whose sum needs more than 64 bits.
-/
namespace AuditTrail

/-- A span of time: whole seconds in 64 bits and a part of a second in nanoseconds. -/
structure Duration where
  secs : UInt64
  nanos : Fin 1000000000
  deriving DecidableEq, Repr

/-- Why something is no duration. -/
inductive DurationError where
  | invalid (text : String)
  | negative
  | outOfRange (seconds : Double)
  deriving DecidableEq, Repr

namespace DurationError

/-- The text shown for an error. -/
def message : DurationError → String
  | .invalid text =>
    "'" ++ text ++ "' is not a valid duration (expected P[nY][nM][nW][nD][T[nH][nM][nS]])"
  | .negative => "Duration must not be negative"
  | .outOfRange x => "Duration " ++ x.plainText ++ " seconds cannot be represented"

end DurationError

namespace Duration

/-- A span of whole seconds. -/
def ofSecs (secs : UInt64) : Duration := ⟨secs, 0⟩

/-- The length in nanoseconds. -/
def toNanos (d : Duration) : Nat := d.secs.toNat * 1000000000 + d.nanos.val

/-- The span of a number of nanoseconds, if its seconds fit into 64 bits. -/
def ofNanos? (n : Nat) : Option Duration :=
  if n / 1000000000 < 0x10000000000000000 then
    some ⟨(n / 1000000000).toUInt64, ⟨n % 1000000000, Nat.mod_lt _ (by decide)⟩⟩
  else none

/-- Seconds and any number of nanoseconds, whole seconds of which are carried over. -/
def ofParts? (secs : UInt64) (nanos : Nat) : Option Duration :=
  ofNanos? (secs.toNat * 1000000000 + nanos)

/-- A quotient rounded to the nearest natural number, a half to the even neighbour. -/
def roundDiv (num den : Nat) : Nat :=
  let q := num / den
  match compare (2 * (num % den)) den with
  | .lt => q
  | .gt => q + 1
  | .eq => if q % 2 = 0 then q else q + 1

/-- A number of seconds with a fraction, rounded to the nanosecond. -/
def ofSeconds (x : Double) : Except DurationError Duration :=
  if x.isBelowZero then .error .negative
  else if !x.isFinite then .error (.outOfRange x)
  else
    match ofNanos? (roundDiv (x.mantissa * Nat.pow 2 x.power * 1000000000) (Nat.pow 2 1074)) with
    | some d => .ok d
    | none => .error (.outOfRange x)

/-! The notation. -/

def minute : Nat := 60
def hour : Nat := 60 * minute
def day : Nat := 24 * hour

/-- Designators of the date part with their lengths in seconds, in the order they have to come. -/
def dateUnits : List (Char × Nat) := [('Y', 365 * day), ('M', 30 * day), ('W', 7 * day), ('D', day)]

/-- Designators of the time part. -/
def timeUnits : List (Char × Nat) := [('H', hour), ('M', minute), ('S', 1)]

/-- A number as one of 64 bits, if it fits. -/
def word? (n : Nat) : Option UInt64 :=
  if n < 0x10000000000000000 then some n.toUInt64 else none

/-- Splits off a component: a run of digits and the designator of its unit. -/
def splitComponent (designator : Char) (cs : List Char) : Option (List Char × List Char) :=
  match cs.dropWhile Char.isDigit with
  | [] => none
  | c :: rest =>
    let digits := cs.takeWhile Char.isDigit
    if c = designator ∧ digits ≠ [] then some (digits, rest) else none

/-- Adds the components of a text to a total, going through the units in their order. Each number,
each product and each sum has to fit into 64 bits. -/
def addComponents : List (Char × Nat) → UInt64 → List Char → Option UInt64
  | [], total, cs => if cs = [] then some total else none
  | (designator, scale) :: units, total, cs =>
    match splitComponent designator cs with
    | none => addComponents units total cs
    | some (digits, rest) => do
      let value ← word? (Digits.number digits)
      let product ← word? (value.toNat * scale)
      let sum ← word? (total.toNat + product.toNat)
      addComponents units sum rest

/-- The seconds meant by the text after `P`. -/
def sumParts (cs : List Char) : Option UInt64 :=
  if cs = [] then none
  else
    match cs.dropWhile (· ≠ 'T') with
    | [] => addComponents dateUnits 0 cs
    | _ :: time => do
      let date ← addComponents dateUnits 0 (cs.takeWhile (· ≠ 'T'))
      if time.head?.any Char.isDigit then addComponents timeUnits date time else none

/-- Reads the notation, without regard to ASCII case and blanks around it. -/
def parse (text : String) : Except DurationError Duration :=
  match (Text.trim text).toList.map Char.toUpper with
  | 'P' :: rest =>
    match sumParts rest with
    | some seconds => .ok (ofSecs seconds)
    | none => .error (.invalid text)
  | _ => .error (.invalid text)

/-- One component, left out if it is zero. -/
def component (n : Nat) (designator : String) : String :=
  if n = 0 then "" else Digits.text n ++ designator

/-- Writes the whole seconds in the notation, with days as the largest unit. -/
def format (d : Duration) : String :=
  let secs := d.secs.toNat
  if secs = 0 then "PT0S"
  else
    let rest := secs % day
    let time := component (rest / hour) "H" ++ component (rest % hour / minute) "M" ++
      component (rest % minute) "S"
    "P" ++ component (secs / day) "D" ++ (if rest = 0 then "" else "T" ++ time)

end Duration

end AuditTrail
