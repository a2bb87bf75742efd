import AuditTrail.Text.Property

/-
  Quoted text for messages: double quotes around it, a backslash before quotes and backslashes,
  short forms for the usual controls, and the code point in hexadecimal for characters that would
  not be visible on their own.
-/
namespace AuditTrail.Text

/-- One character as it stands inside quotes. -/
def quoteChar (c : Char) : String :=
  match c with
  | '\x00' => "\\0"
  | '\t' => "\\t"
  | '\r' => "\\r"
  | '\n' => "\\n"
  | '"' => "\\\""
  | '\\' => "\\\\"
  | c =>
    if isGraphemeExtend c || !isPrintable c then "\\u\x7b" ++ Digits.hexText c.toNat ++ "\x7d"
    else c.toString

/-- The text in quotes. -/
def quote (s : String) : String :=
  "\"" ++ String.join (s.toList.map quoteChar) ++ "\""

end AuditTrail.Text
