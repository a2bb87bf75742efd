import AuditTrail.Regex.Basic

/-
  The size of a regular expression once counts are written out, measured in bytes of an automaton
  over bytes: thirty-two for a state, and a set of characters as large as its ranges make it.
  Expressions above ten mebibytes are refused.
-/
namespace AuditTrail

open Text (Property)

/-- About how many ranges of code points a property has. -/
def Text.Property.rangeCount : Property → Nat
  | .category members =>
    Text.categorySpans.foldl (fun n (_, name) => if members.contains name then n + 1 else n) 0
  | .script name => ((Text.namedSet Text.scriptSets name).getD .empty).spans.size
  | .flag name => ((Text.namedSet Text.propertySets name).getD .empty).spans.size
  | .any => 1
  | .ascii => 1

/-- The bytes of a set: a state for each range of ASCII, some more for each range beyond. -/
def CharSet.size : CharSet → Nat
  | .none => 32
  | .span first last =>
    if last < 128 then 32
    else if first = last then (if last < 0x800 then 64 else if last < 0x10000 then 96 else 128)
    else 200
  | .property p => 32 + 65 * p.rangeCount
  | .union a b => a.size + b.size
  | .inter a b => a.size + b.size
  | .diff a b => a.size + b.size
  | .symmDiff a b => a.size + b.size
  | .compl a => a.size + 400
  | .anyCase a => a.size + 32
  | .anyAsciiCase a => a.size + 8

/-- The bytes of an expression. -/
def Regex.size : Regex → Nat
  | .empty => 32
  | .chars s => s.size
  | .look _ => 32
  | .seq a b => a.size + b.size
  | .alt a b => a.size + b.size + 40
  | .times a min max =>
    match max with
    | none => Nat.max min 1 * a.size + 40
    | some n => n * a.size + (n - min) * 40

/-- The greatest size of an expression that is accepted. -/
def Regex.sizeLimit : Nat := 10 * 0x100000

end AuditTrail
