import AuditTrail.Level
import AuditTrail.Number.Digits

/-
  What the library reports about its own work: lines of log output and counted measures. Lines of
  the audit are kept apart from the others.
-/
namespace AuditTrail

/-- A line of log output with its fields. -/
structure LogLine where
  audit : Bool
  severity : Severity
  message : String
  fields : List (String × String) := []
  deriving DecidableEq, Repr

/-- A measure with its labels. -/
structure MetricKey where
  name : String
  labels : List (String × String)
  deriving DecidableEq, Repr

/-- The written form of a measure: its name with the labels in the order of their names. -/
def MetricKey.toText (k : MetricKey) : String :=
  let labels := (k.labels.mergeSort fun a b => !(b.1 < a.1)).map fun (l, v) => l ++ "=" ++ v
  k.name ++ "\x7b" ++ ",".intercalate labels ++ "\x7d"

/-- Measures with their values, in the order in which they were first touched. -/
abbrev Metrics := List (MetricKey × Nat)

/-- Changes the value of a measure, which starts from zero. -/
def Metrics.change (f : Nat → Nat) (key : MetricKey) : Metrics → Metrics
  | [] => [(key, f 0)]
  | (k, n) :: rest => if k = key then (k, f n) :: rest else (k, n) :: Metrics.change f key rest

/-- Lines and measures so far, lines in order. -/
structure Journal where
  lines : List LogLine := []
  metrics : Metrics := []
  deriving DecidableEq, Repr

namespace Journal

/-- Writes a line. -/
def write (line : LogLine) (j : Journal) : Journal := { j with lines := j.lines ++ [line] }

/-- Writes a line that is not of the audit. -/
def note (severity : Severity) (message : String) (fields : List (String × String) := [])
    (j : Journal) : Journal :=
  j.write ⟨false, severity, message, fields⟩

/-- Writes a line of the audit. -/
def announce (level : Level) (message : String) (j : Journal) : Journal :=
  j.write ⟨true, level.severity, message, []⟩

/-- Adds to a counter. -/
def count (name : String) (labels : List (String × String)) (n : Nat) (j : Journal) : Journal :=
  { j with metrics := j.metrics.change (· + n) ⟨name, labels⟩ }

/-- Sets a gauge. -/
def gauge (name : String) (labels : List (String × String)) (n : Nat) (j : Journal) : Journal :=
  { j with metrics := j.metrics.change (fun _ => n) ⟨name, labels⟩ }

end Journal

end AuditTrail
