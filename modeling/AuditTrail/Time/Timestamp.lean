import AuditTrail.Time.Calendar
import AuditTrail.Time.Duration

/-
  Points in time with nanoseconds, from the year -262143 to the year 262142, with their written
  form `2000-01-02T03:04:05.678Z` and the reading of several looser forms of it.
-/
namespace AuditTrail

open Calendar (Date)

/-- A point in time: whole seconds since 1970-01-01 and nanoseconds after them. A leap second counts
as a second of up to two thousand million nanoseconds. -/
structure Timestamp where
  secs : Int
  nanos : Nat
  deriving DecidableEq, Repr, Inhabited

namespace Timestamp

/-- The first year that can be represented. -/
def minYear : Int := -262143

/-- The last year that can be represented. -/
def maxYear : Int := 262142

/-- The first second that can be represented. -/
def minSecs : Int := (Date.mk minYear 1 1).toDays * 86400

/-- The last second that can be represented. -/
def maxSecs : Int := (Date.mk maxYear 12 31).toDays * 86400 + 86399

/-- Earlier than. -/
def before (a b : Timestamp) : Bool :=
  a.secs < b.secs || (a.secs == b.secs && a.nanos < b.nanos)

/-- The length of the longest span that can be taken off a point in time: the largest number of
milliseconds in 63 bits, in nanoseconds. -/
def maxSpanNanos : Nat := 0x7fffffffffffffff * 1000000

/-- The point in time a span earlier. Less than a second before a time within a leap second one
stays within the second it belongs to; otherwise a leap second counts on into the next one. -/
def back (t : Timestamp) (d : Duration) : Timestamp :=
  if 1000000000 ≤ t.nanos ∧ d.secs = 0 then ⟨t.secs, t.nanos - d.nanos.val⟩
  else
    let total : Int := t.secs * 1000000000 + t.nanos - d.toNanos
    ⟨total.fdiv 1000000000, (total.fmod 1000000000).toNat⟩

/-- The point in time a span earlier, if both can be represented. -/
def minus? (t : Timestamp) (d : Duration) : Option Timestamp :=
  if maxSpanNanos < d.toNanos then none
  else if minSecs ≤ (t.back d).secs ∧ (t.back d).secs ≤ maxSecs then some (t.back d)
  else none

/-- The point in time some nanoseconds later. -/
def plusNanos (t : Timestamp) (n : Nat) : Timestamp :=
  ⟨t.secs + ((t.nanos + n) / 1000000000 : Nat), (t.nanos + n) % 1000000000⟩

/-- Whole microseconds since 1970-01-01, later fractions dropped. -/
def toMicros (t : Timestamp) : Int := t.secs * 1000000 + (t.nanos / 1000 : Nat)

/-! The written form. -/

/-- The year: four digits, or a sign and at least five. -/
def yearText (y : Int) : String :=
  if 0 ≤ y ∧ y ≤ 9999 then Digits.padded 4 y.toNat
  else (if y < 0 then "-" else "+") ++ Digits.padded (if y < 0 then 4 else 5) y.natAbs

/-- The fraction of a second with none, three, six or nine places, whichever is enough. -/
def fractionText (nanos : Nat) : String :=
  if nanos = 0 then ""
  else if nanos % 1000000 = 0 then "." ++ Digits.padded 3 (nanos / 1000000)
  else if nanos % 1000 = 0 then "." ++ Digits.padded 6 (nanos / 1000)
  else "." ++ Digits.padded 9 nanos

/-- The written form. -/
def toText (t : Timestamp) : String :=
  let days := t.secs.fdiv 86400
  let rest := (t.secs.fmod 86400).toNat
  let date := Date.ofDays days
  let second := rest % 60 + t.nanos / 1000000000
  yearText date.year ++ "-" ++ Digits.padded 2 date.month ++ "-" ++ Digits.padded 2 date.day ++
    "T" ++ Digits.padded 2 (rest / 3600) ++ ":" ++ Digits.padded 2 (rest % 3600 / 60) ++ ":" ++
    Digits.padded 2 second ++ fractionText (t.nanos % 1000000000) ++ "Z"

/-! Reading. -/

/-- Something read at the front of a text, with the rest. -/
abbrev Reads (α : Type) := List Char → Option (α × List Char)

/-- Skips blanks. -/
def skipBlanks (cs : List Char) : List Char := cs.dropWhile Text.isBlank

/-- Takes a number of at least one and at most `width` digits off the front. -/
def takeNumber (width : Nat) : Reads Nat := fun cs =>
  let ds := (cs.take width).takeWhile Char.isDigit
  if ds = [] then none else some (Digits.number ds, cs.drop ds.length)

/-- Reads a number of at least one and at most `width` digits, after blanks. -/
def readNumber (width : Nat) : Reads Nat := fun cs => takeNumber width (skipBlanks cs)

/-- Reads a year: up to four digits, or a sign and any number of digits. -/
def readYear : Reads Int := fun cs =>
  match skipBlanks cs with
  | '-' :: rest => (takeNumber rest.length rest).map fun (n, r) => (-(n : Int), r)
  | '+' :: rest => (takeNumber rest.length rest).map fun (n, r) => ((n : Int), r)
  | rest => (takeNumber 4 rest).map fun (n, r) => ((n : Int), r)

/-- Takes a character off, after blanks. -/
def takeMark (mark : Char) (cs : List Char) : Option (List Char) :=
  match skipBlanks cs with
  | c :: rest => if c = mark then some rest else none
  | [] => none

/-- Reads the fraction of a second, if there is one; places after the ninth are passed over. -/
def readFraction : Reads Nat := fun cs =>
  match cs with
  | '.' :: rest =>
    let ds := rest.takeWhile Char.isDigit
    if ds = [] then none
    else
      let nine := ds.take 9
      some (Digits.number nine * Nat.pow 10 (9 - nine.length), rest.dropWhile Char.isDigit)
  | cs => some (0, cs)

/-- Reads a zone as seconds ahead of the world's time. -/
def readZone : Reads Int := fun cs =>
  match skipBlanks cs with
  | [] => none
  | 'Z' :: rest => some (0, rest)
  | 'z' :: rest => some (0, rest)
  | c :: rest =>
    if c = '+' ∨ c = '-' ∨ c = '\u2212' then
      match rest with
      | h1 :: h2 :: rest =>
        if h1.isDigit ∧ h2.isDigit then
          match rest.dropWhile fun c => c == ':' || Text.isBlank c with
          | m1 :: m2 :: rest =>
            if m1.isDigit ∧ m2.isDigit ∧ m1.toNat < 54 then
              let n : Int := Digits.number [h1, h2] * 3600 + Digits.number [m1, m2] * 60
              some (if c = '+' then n else -n, rest)
            else none
          | _ => none
        else none
      | _ => none
    else
      match c :: rest with
      | u :: t :: k :: rest =>
        if [u, t, k].map Char.toLower = ['u', 't', 'c'] then some (0, rest) else none
      | _ => none

/-- Reads a point in time. -/
def parse (text : String) : Option Timestamp := do
  let (year, r) ← readYear text.toList
  let r ← takeMark '-' r
  let (month, r) ← readNumber 2 r
  let r ← takeMark '-' r
  let (day, r) ← readNumber 2 r
  let r ← match r with
    | c :: r => if c = 'T' ∨ c = 't' ∨ c = ' ' then some r else none
    | [] => none
  let (hour, r) ← readNumber 2 r
  let r ← takeMark ':' r
  let (minute, r) ← readNumber 2 r
  let r ← takeMark ':' r
  let (second, r) ← readNumber 2 r
  let (nanos, r) ← readFraction r
  let (zone, r) ← readZone r
  let date : Date := ⟨year, month, day⟩
  if skipBlanks r = [] ∧ date.isValid ∧ minYear ≤ year ∧ year ≤ maxYear ∧
      hour ≤ 23 ∧ minute ≤ 59 ∧ second ≤ 60 ∧ zone.natAbs < 86400 then
    let clock : Int := hour * 3600 + minute * 60 + (min second 59 : Nat)
    let secs := date.toDays * 86400 + clock - zone
    if minSecs ≤ secs ∧ secs ≤ maxSecs then
      some ⟨secs, nanos + (if second = 60 then 1000000000 else 0)⟩
    else none
  else none

end Timestamp

end AuditTrail
