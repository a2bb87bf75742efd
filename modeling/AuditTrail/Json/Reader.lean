import AuditTrail.Json.Basic
import AuditTrail.Number.Digits

/-
  Reading structured values from text. Integers from `-2^63` to `2^64 - 1` stay integers; `-0`,
  larger ones and everything with a fraction or an exponent are floating-point numbers, made from
  the first digits that fit into 64 bits by one multiplication or division with a power of ten.
  Lists and records may be nested 127 deep. Every reader takes the text and gives what it read
  with the rest.
-/
namespace AuditTrail.Json

/-- A reader of something at the front of a text. -/
abbrev Reads (α : Type) := List Char → Option (α × List Char)

/-- Blanks between the parts of a value. -/
def isGap (c : Char) : Bool := c == ' ' || c == '\n' || c == '\t' || c == '\r'

/-- Skips blanks. -/
def skipGap (cs : List Char) : List Char := cs.dropWhile isGap

/-- The largest number of 64 bits. -/
def maxWord : Nat := 0xffffffffffffffff

/-- The largest exponent that is counted exactly. -/
def maxExponent : Nat := 0x7fffffff

/-- Takes leading digits into a number as long as it fits into 64 bits; gives the number, how many
digits were taken and the rest. -/
def takeDigits (n count : Nat) : List Char → Nat × Nat × List Char
  | [] => (n, count, [])
  | c :: cs =>
    if c.isDigit ∧ 10 * n + Digits.value c ≤ maxWord then
      takeDigits (10 * n + Digits.value c) (count + 1) cs
    else (n, count, c :: cs)

/-- Scales a number by a power of ten in floating-point arithmetic: first below `10 ^ -308` by
whole divisions, then one multiplication or division. Overflow is an error. -/
def scale (x : Float) (exponent : Int) : Nat → Option Float
  | 0 => none
  | fuel + 1 =>
    if exponent.natAbs ≤ 308 then
      let factor := Float.ofScientific 1 false exponent.natAbs
      if 0 ≤ exponent then
        let y := x * factor
        if y.isInf then none else some y
      else some (x / factor)
    else if x == 0.0 then some x
    else if 0 ≤ exponent then none
    else scale (x / 1e308) (exponent + 308) fuel

/-- The floating-point number `significand · 10 ^ exponent` with a sign. A significand other than
zero is gone after three whole divisions, so five rounds are enough. -/
def makeDouble (negative : Bool) (significand : Nat) (exponent : Int) : Option Json :=
  (scale significand.toUInt64.toFloat exponent 5).map fun x =>
    let d := Double.ofFloat x
    .double (if negative then d.negate else d)

/-- Reads the exponent after its letter and makes the number. -/
def readExponent (negative : Bool) (significand : Nat) (start : Int) : Reads Json := fun cs =>
  let (down, cs) := match cs with
    | '+' :: r => (false, r)
    | '-' :: r => (true, r)
    | r => (false, r)
  let digits := cs.takeWhile Char.isDigit
  let rest := cs.dropWhile Char.isDigit
  if digits = [] then none
  else
    let n := Digits.number digits
    if maxExponent < n then
      if significand ≠ 0 ∧ !down then none
      else
        let zero := Double.ofNat 0
        some (.double (if negative then zero.negate else zero), rest)
    else
      (makeDouble negative significand (if down then start - n else start + n)).map (·, rest)

/-- Ends a number whose digits are read: an exponent may follow. -/
def readTail (negative : Bool) (significand : Nat) (exponent : Int) : Reads Json := fun cs =>
  match cs with
  | 'e' :: r => readExponent negative significand exponent r
  | 'E' :: r => readExponent negative significand exponent r
  | r => (makeDouble negative significand exponent).map (·, r)

/-- Reads the digits after the point; those that no longer fit are passed over. -/
def readFraction (negative : Bool) (significand : Nat) (exponent : Int) : Reads Json := fun cs =>
  let (n, count, rest) := takeDigits significand 0 cs
  match rest with
  | c :: _ =>
    if c.isDigit then
      readTail negative n (exponent - count) (rest.dropWhile Char.isDigit)
    else if count = 0 then none
    else readTail negative n (exponent - count) rest
  | [] => if count = 0 then none else readTail negative n (exponent - count) rest

/-- Reads a number without its sign. -/
def readMagnitude (negative : Bool) : Reads Json := fun cs =>
  match cs with
  | [] => none
  | c :: _ =>
    if !c.isDigit then none
    else
      let leadingZero := c == '0' && (match cs.drop 1 with | d :: _ => d.isDigit | [] => false)
      if leadingZero then none
      else
        let (n, _, rest) := takeDigits 0 0 cs
        let dropped := rest.takeWhile Char.isDigit
        if dropped ≠ [] then
          match rest.dropWhile Char.isDigit with
          | '.' :: r => readFraction negative n dropped.length r
          | r => readTail negative n dropped.length r
        else
          match rest with
          | '.' :: r => readFraction negative n 0 r
          | 'e' :: r => readExponent negative n 0 r
          | 'E' :: r => readExponent negative n 0 r
          | r =>
            if !negative then some (.int n, r)
            else if n = 0 ∨ 0x8000000000000000 < n then
              some (.double (Double.ofFloat n.toUInt64.toFloat).negate, r)
            else some (.int (-n), r)

/-- Reads a number. -/
def readNumber : Reads Json
  | '-' :: cs => readMagnitude true cs
  | cs => readMagnitude false cs

/-- Reads four hexadecimal digits. -/
def readUnit : Reads Nat
  | a :: b :: c :: d :: rest => do
    let a ← Digits.hexValue a
    let b ← Digits.hexValue b
    let c ← Digits.hexValue c
    let d ← Digits.hexValue d
    some (((a * 16 + b) * 16 + c) * 16 + d, rest)
  | _ => none

/-- Reads what follows `\u`: a character, or the first half of a pair with its second half. -/
def readCodePoint : Reads Char := fun cs => do
  let (n, rest) ← readUnit cs
  if 0xD800 ≤ n ∧ n < 0xDC00 then
    match rest with
    | '\\' :: 'u' :: rest =>
      let (m, rest) ← readUnit rest
      if 0xDC00 ≤ m ∧ m < 0xE000 then
        some (Char.ofNat (0x10000 + (n - 0xD800) * 0x400 + (m - 0xDC00)), rest)
      else none
    | _ => none
  else if 0xDC00 ≤ n ∧ n < 0xE000 then none
  else some (Char.ofNat n, rest)

/-- The character of a short escape. -/
def shortEscape : Char → Option Char
  | '"' => some '"'
  | '\\' => some '\\'
  | '/' => some '/'
  | 'b' => some '\x08'
  | 'f' => some '\x0c'
  | 'n' => some '\n'
  | 'r' => some '\r'
  | 't' => some '\t'
  | _ => none

/-- Reads a text up to its closing quote; `done` holds what is read so far, last character first.
`fuel` bounds the number of characters. -/
def readChars (done : List Char) : Nat → Reads String
  | 0, _ => none
  | fuel + 1, cs =>
    match cs with
    | [] => none
    | '"' :: rest => some (String.ofList done.reverse, rest)
    | '\\' :: 'u' :: rest =>
      match readCodePoint rest with
      | some (c, rest) => readChars (c :: done) fuel rest
      | none => none
    | '\\' :: e :: rest =>
      match shortEscape e with
      | some c => readChars (c :: done) fuel rest
      | none => none
    | c :: rest => if c.toNat < 32 ∨ c = '\\' then none else readChars (c :: done) fuel rest

/-- Reads a text whose opening quote is gone. -/
def readString : Reads String := fun cs => readChars [] (cs.length + 1) cs

/-- Takes a word off the front. -/
def readWord (word : List Char) (value : Json) : Reads Json := fun cs =>
  if word.isPrefixOf cs then some (value, cs.drop word.length) else none

mutual

/-- Reads a value; `depth` is how many lists and records may still be opened. -/
def readValue : Nat → Nat → Reads Json
  | 0, _, _ => none
  | fuel + 1, depth, cs =>
    match skipGap cs with
    | [] => none
    | 'n' :: rest => readWord ['u', 'l', 'l'] .null rest
    | 't' :: rest => readWord ['r', 'u', 'e'] (.bool true) rest
    | 'f' :: rest => readWord ['a', 'l', 's', 'e'] (.bool false) rest
    | '"' :: rest => (readString rest).map fun (s, r) => (.string s, r)
    | '[' :: rest =>
      if depth ≤ 1 then none
      else
        match skipGap rest with
        | ']' :: r => some (.array [], r)
        | r => readItems fuel (depth - 1) [] r
    | '\x7b' :: rest =>
      if depth ≤ 1 then none
      else
        match skipGap rest with
        | '\x7d' :: r => some (.object [], r)
        | r => readMembers fuel (depth - 1) [] r
    | cs => readNumber cs

/-- Reads the items of a list up to its end; `done` holds those already read, last one first. -/
def readItems : Nat → Nat → List Json → Reads Json
  | 0, _, _, _ => none
  | fuel + 1, depth, done, cs =>
    match readValue fuel depth cs with
    | none => none
    | some (v, rest) =>
      match skipGap rest with
      | ',' :: r => readItems fuel depth (v :: done) r
      | ']' :: r => some (.array (v :: done).reverse, r)
      | _ => none

/-- Reads the members of a record up to its end. -/
def readMembers : Nat → Nat → List (String × Json) → Reads Json
  | 0, _, _, _ => none
  | fuel + 1, depth, done, cs =>
    match skipGap cs with
    | '"' :: rest =>
      match readString rest with
      | none => none
      | some (k, rest) =>
        match skipGap rest with
        | ':' :: rest =>
          match readValue fuel depth rest with
          | none => none
          | some (v, rest) =>
            match skipGap rest with
            | ',' :: r => readMembers fuel depth (insertMember k v done) r
            | '\x7d' :: r => some (.object (insertMember k v done), r)
            | _ => none
        | _ => none
    | _ => none

end

/-- Reads a whole text as one value. -/
def parse (text : String) : Option Json :=
  let cs := text.toList
  match readValue (2 * cs.length + 2) 128 cs with
  | some (v, rest) => if skipGap rest = [] then some v else none
  | none => none

/-- Reads bytes as one value; they have to be valid UTF-8. -/
def parseBytes (bytes : ByteArray) : Option Json :=
  (String.fromUTF8? bytes).bind parse

end AuditTrail.Json
