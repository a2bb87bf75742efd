import AuditTrail.Json.Basic
import AuditTrail.Number.Digits

/-
  Unquoted scalars of configuration documents: booleans, integers in four bases, floating-point
  numbers, and dates and times. Digits may be grouped by single underscores. A date or time becomes
  a record with its text under a key that no setting has.
-/
namespace AuditTrail.Toml

/-- Removes underscores, each of which has to stand between two digits. `digit` says what a digit
is and `after` whether one was just read. -/
def ungroup (digit : Char → Bool) (after : Bool) : List Char → Option (List Char)
  | [] => if after then some [] else none
  | '_' :: c :: rest =>
    if after ∧ digit c then (ungroup digit true rest).map (c :: ·) else none
  | c :: rest => if digit c then (ungroup digit true rest).map (c :: ·) else none

/-- A number in some base. -/
def baseNumber (base : Nat) (ds : List Char) : Nat :=
  ds.foldl (fun n c => base * n + (Digits.hexValue c).getD 0) 0

/-- Takes a sign off; true stands for minus. -/
def takeSign : List Char → Bool × List Char
  | '+' :: r => (false, r)
  | '-' :: r => (true, r)
  | r => (false, r)

/-- Decimal digits without a superfluous zero in front. -/
def wholeDigits (cs : List Char) : Option (List Char) :=
  match ungroup Char.isDigit false cs with
  | some ('0' :: _ :: _) => none
  | ds => ds

/-- Reads an integer. -/
def readInteger (cs : List Char) : Option Json :=
  match cs with
  | '0' :: 'x' :: r =>
    (ungroup (fun c => (Digits.hexValue c).isSome) false r).map fun ds => .int (baseNumber 16 ds)
  | '0' :: 'o' :: r =>
    (ungroup (fun c => '0' ≤ c && c ≤ '7') false r).map fun ds => .int (baseNumber 8 ds)
  | '0' :: 'b' :: r =>
    (ungroup (fun c => c == '0' || c == '1') false r).map fun ds => .int (baseNumber 2 ds)
  | cs =>
    let (minus, r) := takeSign cs
    (wholeDigits r).map fun ds =>
      .int (if minus then -(Digits.number ds : Int) else (Digits.number ds : Int))

/-- Reads a floating-point number. -/
def readDouble (cs : List Char) : Option Json :=
  let (minus, r) := takeSign cs
  let signed (x : Double) : Json := .double (if minus then x.negate else x)
  if r = ['i', 'n', 'f'] then some (signed .infinity)
  else if r = ['n', 'a', 'n'] then some (signed .undefined)
  else
    let mantissa := r.takeWhile fun c => c ≠ 'e' ∧ c ≠ 'E'
    let power := r.dropWhile fun c => c ≠ 'e' ∧ c ≠ 'E'
    let whole := mantissa.takeWhile (· ≠ '.')
    let fraction := mantissa.dropWhile (· ≠ '.')
    if fraction = [] ∧ power = [] then none
    else do
      let ds ← wholeDigits whole
      let fs ← match fraction with
        | [] => some []
        | _ :: fs => ungroup Char.isDigit false fs
      let e : Int ← match power with
        | [] => some 0
        | _ :: p =>
          let (down, p) := takeSign p
          (ungroup Char.isDigit false p).map fun es =>
            if down then -(Digits.number es : Int) else (Digits.number es : Int)
      let e := if e > 100000 then 100000 else if e < -100000 then -100000 else e
      some (signed (Double.ofDecimal (Digits.number (ds ++ fs)) (e - fs.length)))

/-! Dates and times. -/

/-- The key under which the text of a date or time stands. -/
def dateKey : String := "$__toml_private_datetime"

/-- Reads exactly `n` decimal digits. -/
def readDigits (n : Nat) (cs : List Char) : Option (Nat × List Char) :=
  let ds := cs.take n
  if ds.length = n ∧ ds.all Char.isDigit then some (Digits.number ds, cs.drop n) else none

/-- The number of days of a month. -/
def daysInMonth (year month : Nat) : Nat :=
  if month = 2 then
    if year % 4 = 0 ∧ (year % 100 ≠ 0 ∨ year % 400 = 0) then 29 else 28
  else if [4, 6, 9, 11].contains month then 30
  else 31

/-- Takes a date off the front. -/
def takeDate (cs : List Char) : Option (List Char) := do
  let (y, r) ← readDigits 4 cs
  let r ← match r with | '-' :: r => some r | _ => none
  let (m, r) ← readDigits 2 r
  let r ← match r with | '-' :: r => some r | _ => none
  let (d, r) ← readDigits 2 r
  if 1 ≤ m ∧ m ≤ 12 ∧ 1 ≤ d ∧ d ≤ daysInMonth y m then some r else none

/-- Takes the seconds of a time off the front, if there are any. -/
def takeSeconds : List Char → Option (List Char)
  | ':' :: r => do
    let (s, r) ← readDigits 2 r
    if 60 < s then none
    else
      match r with
      | '.' :: r => if r.head?.any Char.isDigit then some (r.dropWhile Char.isDigit) else none
      | r => some r
  | r => some r

/-- Takes a time of day off the front. -/
def takeTime (cs : List Char) : Option (List Char) := do
  let (h, r) ← readDigits 2 cs
  let r ← match r with | ':' :: r => some r | _ => none
  let (m, r) ← readDigits 2 r
  if h ≤ 23 ∧ m ≤ 59 then takeSeconds r else none

/-- Takes a zone off the front, if there is one. -/
def takeZone : List Char → Option (List Char)
  | [] => some []
  | 'Z' :: r => some r
  | 'z' :: r => some r
  | c :: r =>
    if c = '+' ∨ c = '-' then do
      let (h, r) ← readDigits 2 r
      let r ← match r with | ':' :: r => some r | _ => none
      let (m, r) ← readDigits 2 r
      if h ≤ 23 ∧ m ≤ 59 then some r else none
    else none

/-- Whether a text is a date, a time or both. -/
def isDateTime (cs : List Char) : Bool :=
  match takeTime cs with
  | some [] => true
  | _ =>
    match takeDate cs with
    | none => false
    | some [] => true
    | some (c :: r) =>
      if c = 'T' ∨ c = 't' ∨ c = ' ' then ((takeTime r).bind takeZone) == some [] else false

/-- Reads an unquoted scalar. -/
def readScalar (cs : List Char) : Option Json :=
  if cs = ['t', 'r', 'u', 'e'] then some (.bool true)
  else if cs = ['f', 'a', 'l', 's', 'e'] then some (.bool false)
  else if isDateTime cs then some (.object [(dateKey, .string (String.ofList cs))])
  else (readInteger cs).orElse fun _ => readDouble cs

end AuditTrail.Toml
