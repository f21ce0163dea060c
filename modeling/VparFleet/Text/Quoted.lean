import VparFleet.Text.Printable

/-!
# Quoted text

Messages quote text that came from outside, so that blanks, control characters and marks can be
seen.
-/

namespace VparFleet.Text

/-- A number in lower-case hexadecimal digits, without leading zeros. -/
def hexadecimal (n : Nat) : String :=
  String.ofList (Nat.toDigits 16 n)

/-- The written form of one character between double quotes: the usual short forms, the code point
in hexadecimal for a character that cannot be seen by itself, and else the character. -/
def quotedChar (c : Char) : String :=
  match c with
  | '\x00' => "\\0"
  | '\t' => "\\t"
  | '\r' => "\\r"
  | '\n' => "\\n"
  | '"' => "\\\""
  | '\\' => "\\\\"
  | c =>
    if isExtender c || isUnprintable c then "\\u\x7b" ++ hexadecimal c.toNat ++ "\x7d"
    else String.singleton c

/-- A text between double quotes. -/
def quoted (s : String) : String :=
  "\"" ++ String.join (s.toList.map quotedChar) ++ "\""

example : quoted "a\"b\n\u0301é" = "\"a\\\"b\\n\\u\x7b301\x7dé\"" := by decide +kernel

end VparFleet.Text
