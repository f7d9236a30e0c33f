import VideoDelivery.Json.Basic

/-!
# Writing JSON

A value is written in two layouts. The compact one has no white space. The pretty one puts every
item and every field on a line of its own, two spaces further in than its container, with a space
after the colon; an empty container is `[]` or `{}` on the line it stands in.

Strings escape the double quote, the backslash and the characters below the space, those with a
short escape by it and the others by their code; every other character stands for itself.
-/

namespace VideoDelivery.Json

/-- The last hexadecimal digit of `n`, in lower case. -/
def hexDigit (n : Nat) : Char := Nat.digitChar (n % 16)

/-- One character of a written string. -/
def escapedChar (c : Char) : List Char :=
  if c = '"' then ['\\', '"']
  else if c = '\\' then ['\\', '\\']
  else if c.toNat = 8 then ['\\', 'b']
  else if c.toNat = 12 then ['\\', 'f']
  else if c = '\n' then ['\\', 'n']
  else if c = '\r' then ['\\', 'r']
  else if c = '\t' then ['\\', 't']
  else if c.toNat < 0x20 then ['\\', 'u', '0', '0', hexDigit (c.toNat / 16), hexDigit c.toNat]
  else [c]

/-- A string as it is written, with its quotes. -/
def quotedChars (s : String) : List Char := '"' :: (s.toList.flatMap escapedChar ++ ['"'])

/-! ## Compact -/

mutual

/-- A value without white space. -/
def compactChars : Json → List Char
  | .null => ['n', 'u', 'l', 'l']
  | .bool true => ['t', 'r', 'u', 'e']
  | .bool false => ['f', 'a', 'l', 's', 'e']
  | .num n => n.digitText
  | .str s => quotedChars s
  | .arr items => '[' :: (compactItems items ++ [']'])
  | .obj fields => '\x7b' :: (compactFields fields ++ ['\x7d'])
termination_by structural v => v

/-- The items of an array between its brackets. -/
def compactItems : List Json → List Char
  | [] => []
  | v :: rest => compactChars v ++ (if rest.isEmpty then [] else [',']) ++ compactItems rest
termination_by structural vs => vs

/-- The fields of an object between its braces. -/
def compactFields : List (String × Json) → List Char
  | [] => []
  | (k, v) :: rest =>
    quotedChars k ++ ':' :: compactChars v ++ (if rest.isEmpty then [] else [',']) ++
      compactFields rest
termination_by structural fs => fs

end

/-- A value in the compact layout. -/
def compact (v : Json) : String := String.ofList v.compactChars

/-! ## Pretty -/

/-- The start of a line `depth` levels in. -/
def newLine (depth : Nat) : List Char := '\n' :: List.replicate (2 * depth) ' '

mutual

/-- A value in the pretty layout, on a line `depth` levels in. -/
def prettyChars (depth : Nat) : Json → List Char
  | .arr [] => ['[', ']']
  | .arr (v :: rest) => '[' :: (prettyItems (depth + 1) (v :: rest) ++ newLine depth ++ [']'])
  | .obj [] => ['\x7b', '\x7d']
  | .obj (f :: rest) =>
    '\x7b' :: (prettyFields (depth + 1) (f :: rest) ++ newLine depth ++ ['\x7d'])
  | .null => compactChars .null
  | .bool b => compactChars (.bool b)
  | .num n => compactChars (.num n)
  | .str s => compactChars (.str s)
termination_by structural v => v

/-- The items of an array, each on its line. -/
def prettyItems (depth : Nat) : List Json → List Char
  | [] => []
  | v :: rest =>
    newLine depth ++ prettyChars depth v ++ (if rest.isEmpty then [] else [',']) ++
      prettyItems depth rest
termination_by structural vs => vs

/-- The fields of an object, each on its line. -/
def prettyFields (depth : Nat) : List (String × Json) → List Char
  | [] => []
  | (k, v) :: rest =>
    newLine depth ++ quotedChars k ++ ':' :: ' ' :: prettyChars depth v ++
      (if rest.isEmpty then [] else [',']) ++ prettyFields depth rest
termination_by structural fs => fs

end

/-- A value in the pretty layout. -/
def pretty (v : Json) : String := String.ofList (v.prettyChars 0)

end VideoDelivery.Json
