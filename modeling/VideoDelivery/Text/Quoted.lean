import VideoDelivery.Text.Printable

/-!
# Quoted text

How a text is shown inside a message: between double quotes, with the usual escapes for tab, line
feed, carriage return, the double quote and the backslash, `\0` for the null character, and the
code point in lower-case hexadecimal between braces for every other character that is not plain. A
single quote stands for itself.
-/

namespace VideoDelivery.Text

/-- The digits of `n` in lower-case hexadecimal. -/
def hexDigits (n : Nat) : String := String.ofList (Nat.toDigits 16 n)

/-- One character of a quoted text. -/
def quotedChar (c : Char) : String :=
  if c = '"' then "\\\""
  else if c = '\\' then "\\\\"
  else if c = '\n' then "\\n"
  else if c = '\r' then "\\r"
  else if c = '\t' then "\\t"
  else if c = Char.ofNat 0 then "\\0"
  else if isPlain c then String.singleton c
  else "\\u\x7b" ++ hexDigits c.toNat ++ "\x7d"

/-- The text between double quotes, escaped where it does not show by itself. -/
def quoted (s : String) : String :=
  "\"" ++ String.join (s.toList.map quotedChar) ++ "\""

end VideoDelivery.Text
