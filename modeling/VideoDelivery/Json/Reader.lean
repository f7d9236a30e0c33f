import VideoDelivery.Json.Canonical
import VideoDelivery.Json.Fault

/-!
# Reading JSON

A reader takes a value off the front of a text and gives the rest, which is always shorter; the
loops over items and fields end because of it. The depth of nesting is limited, and the limit is
what the reader of a value recurses on.

The two loops `items` and `fields` take the reader of an item and of a field as an argument, so a
text can also be read straight into a form other than a JSON value, with its faults found in the
order in which the text has them. They run in any monad that can end in a fault, so what is read can
be noted down on the way, and the notes remain when a fault ends the reading.

* `Json.value` — one value, as it is written.
* `Json.ofText` — a whole text as data.
-/

namespace VideoDelivery.Json

/-- What was read off the front of a text, and the rest of it. -/
structure Read (α : Type) (text : List Char) where
  value : α
  rest : List Char
  shorter : rest.length < text.length

/-- A reader of something at the front of a text that does something else on the way. -/
abbrev ReaderIn (m : Type → Type) (α : Type) : Type := (text : List Char) → m (Read α text)

/-- A reader of something at the front of a text. -/
abbrev Reader (α : Type) : Type := ReaderIn (Except Fault) α

namespace Read

variable {α β : Type} {text longer : List Char}

/-- The result with its value changed. -/
def map (f : α → β) (r : Read α text) : Read β text := ⟨f r.value, r.rest, r.shorter⟩

/-- The same result for a longer text. -/
def within (r : Read α text) (h : text.length ≤ longer.length) : Read α longer :=
  ⟨r.value, r.rest, Nat.lt_of_lt_of_le r.shorter h⟩

end Read

section

variable {m : Type → Type} [MonadExceptOf Fault m] {α : Type}

/-- The reading ends in the given fault of the text. -/
def stop (fault : SyntaxFault) : m α := throw (.text fault)

/-- The reading ends because of the form of a value. -/
def refuse (fault : ShapeFault) : m α := throw (.shape fault)

end

/-! ## White space -/

/-- Space, tab, line feed and carriage return. -/
def isSpace (c : Char) : Bool := c = ' ' || c = '\t' || c = '\n' || c = '\r'

/-- The text from its first character that is no white space. -/
def skipSpace (text : List Char) : List Char := text.dropWhile isSpace

theorem skipSpace_length_le (text : List Char) : (skipSpace text).length ≤ text.length :=
  (List.dropWhile_sublist isSpace).length_le

theorem shorter_of_skipSpace {text rest : List Char} {c : Char}
    (h : skipSpace text = c :: rest) : rest.length < text.length := by
  have := skipSpace_length_le text
  rw [h, List.length_cons] at this
  omega

theorem notLonger_of_skipSpace {text rest : List Char} {c : Char}
    (h : skipSpace text = c :: rest) : rest.length ≤ text.length :=
  Nat.le_of_lt (shorter_of_skipSpace h)

/-! ## Words -/

/-- The rest of the text after `word`. -/
def word : (word text : List Char) → Except Fault { rest : List Char // rest.length ≤ text.length }
  | [], text => .ok ⟨text, Nat.le_refl _⟩
  | _ :: _, [] => stop .endInValue
  | w :: ws, c :: text =>
    if c = w then do
      let ⟨rest, h⟩ ← word ws text
      return ⟨rest, Nat.le_succ_of_le h⟩
    else stop .expectedWord

/-! ## Numbers -/

/-- The digits of a number so far: `significand * 10 ^ exponent`. Once the significand is full,
further digits are left out of it. -/
structure Digits where
  significand : Nat
  exponent : Int
  full : Bool
  inRange : significand ≤ maxInteger

/-- No digits. -/
def Digits.none : Digits := ⟨0, 0, false, Nat.zero_le _⟩

/-- The digit fits into the significand. -/
abbrev Digits.Fits (d : Digits) (digit : Nat) : Prop :=
  d.full = false ∧ d.significand * 10 + digit ≤ maxInteger

/-- The value of a decimal digit. -/
def digitValue (c : Char) : Nat := c.toNat - '0'.toNat

/-- A digit before the point; one that is left out still multiplies the number by ten. -/
def Digits.addWhole (d : Digits) (c : Char) : Digits :=
  if fits : d.Fits (digitValue c) then
    ⟨d.significand * 10 + digitValue c, d.exponent, false, fits.2⟩
  else ⟨d.significand, d.exponent + 1, true, d.inRange⟩

/-- A digit after the point. -/
def Digits.addFraction (d : Digits) (c : Char) : Digits :=
  if fits : d.Fits (digitValue c) then
    ⟨d.significand * 10 + digitValue c, d.exponent - 1, false, fits.2⟩
  else ⟨d.significand, d.exponent, true, d.inRange⟩

/-- The largest exponent that is counted. -/
def maxExponent : Nat := 0x7FFFFFFF

/-- The number of some digits scaled by the exponent that was written after them. -/
def scaled (negative : Bool) (d : Digits) (raise : Bool) (exponent : Nat) : Except Fault Number :=
  if maxExponent < exponent then
    if d.significand ≠ 0 ∧ raise then stop .numberOutOfRange
    else .ok (.float (.zero negative))
  else
    let e := if raise then d.exponent + exponent else d.exponent - exponent
    match Binary64.ofDecimal? negative d.significand e with
    | some x => .ok (.float x)
    | none => stop .numberOutOfRange

/-- The value of some decimal digits. -/
def natOfDigits (digits : List Char) : Nat := digits.foldl (fun n c => n * 10 + digitValue c) 0

/-- The fault of a number that goes on with something other than a digit. -/
def noDigit (text : List Char) : SyntaxFault :=
  if text.isEmpty then .endInValue else .invalidNumber

/-- The text without its leading digits. -/
def afterDigits (text : List Char) : List Char := text.dropWhile Char.isDigit

theorem afterDigits_length_le (text : List Char) : (afterDigits text).length ≤ text.length :=
  (List.dropWhile_sublist Char.isDigit).length_le

/-- The direction of an exponent and the text after its sign; without a sign it raises. -/
def exponentSign : List Char → Bool × List Char
  | '+' :: text => (true, text)
  | '-' :: text => (false, text)
  | text => (true, text)

theorem exponentSign_length_le (text : List Char) :
    (exponentSign text).2.length ≤ text.length := by
  unfold exponentSign
  split <;> simp

/-- A number whose exponent, after its letter, starts the text. -/
def exponentPart (negative : Bool) (d : Digits) (text : List Char) :
    Except Fault { r : Number × List Char // r.2.length ≤ text.length } :=
  let unsigned := (exponentSign text).2
  let digits := unsigned.takeWhile Char.isDigit
  if digits.isEmpty then stop (noDigit unsigned)
  else do
    let n ← scaled negative d (exponentSign text).1 (natOfDigits digits)
    return ⟨(n, afterDigits unsigned),
      Nat.le_trans (afterDigits_length_le unsigned) (exponentSign_length_le text)⟩

/-- A number whose digits have been read: an exponent may follow. -/
def fractionEnd (negative : Bool) (d : Digits) (text : List Char) :
    Except Fault { r : Number × List Char // r.2.length ≤ text.length } :=
  match text with
  | [] => do return ⟨(← scaled negative d true 0, []), Nat.le_refl _⟩
  | c :: rest =>
    if c = 'e' ∨ c = 'E' then do
      let ⟨r, h⟩ ← exponentPart negative d rest
      return ⟨r, Nat.le_succ_of_le h⟩
    else do return ⟨(← scaled negative d true 0, c :: rest), Nat.le_refl _⟩

/-- A number without point and exponent: an integer if it is in range, and not a negative zero. -/
def wholeNumber (negative : Bool) (d : Digits) : Except Fault Number :=
  if d.full then scaled negative d true 0
  else if negative then
    if outside : d.significand = 0 ∨ -(d.significand : Int) < minInteger then
      scaled negative d true 0
    else .ok (.int (-d.significand) ⟨by omega, by omega⟩)
  else .ok (.int d.significand ⟨by unfold minInteger; omega, Int.ofNat_le.2 d.inRange⟩)

/-- A number whose whole part has been read. -/
def wholeEnd (negative : Bool) (d : Digits) (text : List Char) :
    Except Fault { r : Number × List Char // r.2.length ≤ text.length } :=
  match text with
  | [] => do return ⟨(← wholeNumber negative d, []), Nat.le_refl _⟩
  | c :: rest =>
    if c = '.' then
      let digits := rest.takeWhile Char.isDigit
      if digits.isEmpty then stop (noDigit rest)
      else do
        -- a significand that was too full for a whole digit may still take one behind the point
        let d' := digits.foldl Digits.addFraction { d with full := false }
        let ⟨r, h⟩ ← fractionEnd negative d' (afterDigits rest)
        return ⟨r, Nat.le_succ_of_le (Nat.le_trans h (afterDigits_length_le rest))⟩
    else if c = 'e' ∨ c = 'E' then do
      let ⟨r, h⟩ ← exponentPart negative d rest
      return ⟨r, Nat.le_succ_of_le h⟩
    else do return ⟨(← wholeNumber negative d, c :: rest), Nat.le_refl _⟩

/-- A number without its sign. A leading zero stands alone before the point. -/
def unsignedNumber (negative : Bool) : Reader Number
  | [] => stop .endInValue
  | c :: text =>
    if ¬ c.isDigit then stop .invalidNumber
    else if c = '0' ∧ (text.takeWhile Char.isDigit).length ≠ 0 then stop .invalidNumber
    else do
      let digits := c :: text.takeWhile Char.isDigit
      let ⟨r, h⟩ ← wholeEnd negative (digits.foldl Digits.addWhole .none) (afterDigits text)
      return ⟨r.1, r.2, Nat.lt_succ_of_le (Nat.le_trans h (afterDigits_length_le text))⟩

/-- A number with its sign, if it has one. -/
def number : Reader Number
  | '-' :: text => do return (← unsignedNumber true text).within (Nat.le_succ _)
  | text => unsignedNumber false text

/-! ## Strings -/

/-- The value of a hexadecimal digit in either case. -/
def hexValue? (c : Char) : Option Nat :=
  if c.isDigit then some (c.toNat - '0'.toNat)
  else if 'a' ≤ c ∧ c ≤ 'f' then some (c.toNat - 'a'.toNat + 10)
  else if 'A' ≤ c ∧ c ≤ 'F' then some (c.toNat - 'A'.toNat + 10)
  else none

/-- Four hexadecimal digits. A text that ends within the four bytes they take ends in its string. -/
def fourHexDigits : Reader Nat
  | a :: b :: c :: d :: text =>
    match hexValue? a, hexValue? b, hexValue? c, hexValue? d with
    | some a, some b, some c, some d =>
      .ok ⟨((a * 16 + b) * 16 + c) * 16 + d, text, by simp only [List.length_cons]; omega⟩
    | _, _, _, _ => stop .invalidEscape
  | text => stop (if (String.ofList text).utf8ByteSize < 4 then .endInString else .invalidEscape)

/-- The code unit opens a surrogate pair. -/
def isHighSurrogate (n : Nat) : Bool := 0xD800 ≤ n && n ≤ 0xDBFF

/-- The code unit closes a surrogate pair. -/
def isLowSurrogate (n : Nat) : Bool := 0xDC00 ≤ n && n ≤ 0xDFFF

/-- The character of two surrogates. -/
def pairedChar (high low : Nat) : Char :=
  Char.ofNat (0x10000 + (high - 0xD800) * 0x400 + (low - 0xDC00))

/-- The second half of a surrogate pair, with its `\u`. -/
def lowSurrogate : Reader Nat
  | [] => stop .endInString
  | '\\' :: [] => stop .endInString
  | '\\' :: 'u' :: text => do
    let r ← fourHexDigits text
    if isLowSurrogate r.value then
      return r.within (by simp only [List.length_cons]; omega)
    else stop .loneSurrogate
  | _ :: _ => stop .unpairedEscape

/-- The character of an escape by code, after its `\u`. -/
def escapedCode (text : List Char) : Except Fault (Read Char text) := do
  let r ← fourHexDigits text
  if isLowSurrogate r.value then stop .loneSurrogate
  else if isHighSurrogate r.value then
    let low ← lowSurrogate r.rest
    return ⟨pairedChar r.value low.value, low.rest, Nat.lt_trans low.shorter r.shorter⟩
  else return r.map Char.ofNat

/-- The character of an escape, after its backslash. -/
def escaped : Reader Char
  | [] => stop .endInString
  | c :: text =>
    let short (d : Char) : Except Fault (Read Char (c :: text)) := .ok ⟨d, text, Nat.lt_succ_self _⟩
    if c = '"' ∨ c = '\\' ∨ c = '/' then short c
    else if c = 'b' then short (Char.ofNat 8)
    else if c = 'f' then short (Char.ofNat 12)
    else if c = 'n' then short '\n'
    else if c = 'r' then short '\r'
    else if c = 't' then short '\t'
    else if c = 'u' then do return (← escapedCode text).within (Nat.le_succ _)
    else stop .invalidEscape

/-- The characters of a string, after its opening quote. -/
def stringChars (text : List Char) : Except Fault (Read (List Char) text) :=
  match text with
  | [] => stop .endInString
  | c :: text =>
    if c = '"' then .ok ⟨[], text, Nat.lt_succ_self _⟩
    else if c = '\\' then do
      let e ← escaped text
      have := e.shorter
      let r ← stringChars e.rest
      return ⟨e.value :: r.value, r.rest, Nat.lt_succ_of_lt (Nat.lt_trans r.shorter e.shorter)⟩
    else if c.toNat < 0x20 then stop .controlCharacter
    else do
      let r ← stringChars text
      return ⟨c :: r.value, r.rest, Nat.lt_succ_of_lt r.shorter⟩
termination_by text.length
decreasing_by all_goals simp_wf; try omega

/-- A string, after its opening quote. -/
def string (text : List Char) : Except Fault (Read String text) := do
  return (← stringChars text).map String.ofList

/-! ## Scalars -/

/-- A value that is no container. -/
def scalar : Reader Json
  | [] => stop .endInValue
  | c :: text => do
    if c = 'n' then
      let ⟨rest, h⟩ ← word ['u', 'l', 'l'] text
      return ⟨.null, rest, Nat.lt_succ_of_le h⟩
    else if c = 't' then
      let ⟨rest, h⟩ ← word ['r', 'u', 'e'] text
      return ⟨.bool true, rest, Nat.lt_succ_of_le h⟩
    else if c = 'f' then
      let ⟨rest, h⟩ ← word ['a', 'l', 's', 'e'] text
      return ⟨.bool false, rest, Nat.lt_succ_of_le h⟩
    else if c = '"' then
      return ((← string text).map Json.str).within (Nat.le_succ _)
    else if c = '-' ∨ c.isDigit then
      return (← number (c :: text)).map Json.num
    else stop .expectedValue

/-! ## Containers -/

section

variable {m : Type → Type} [Monad m] [MonadExceptOf Fault m] {α σ : Type}

/-- The items of an array, from the first one on. -/
def moreItems (item : ReaderIn m α) (text : List Char) : m (Read (List α) text) := do
  let r ← item text
  match h : skipSpace r.rest with
  | [] => stop .endInArray
  | c :: rest =>
    have := Nat.lt_trans (shorter_of_skipSpace h) r.shorter
    if c = ']' then return ⟨[r.value], rest, this⟩
    else if c = ',' then
      -- a comma promises one more item
      match skipSpace rest with
      | [] => stop .endInValue
      | d :: _ =>
        if d = ']' then stop .trailingComma
        else
          let more ← moreItems item rest
          return ⟨r.value :: more.value, more.rest, Nat.lt_trans more.shorter this⟩
    else stop .expectedArrayCommaOrEnd
termination_by text.length

/-- The items of an array, after its opening bracket. -/
def items (item : ReaderIn m α) (text : List Char) : m (Read (List α) text) :=
  match h : skipSpace text with
  | [] => stop .endInArray
  | c :: rest =>
    if c = ']' then pure ⟨[], rest, shorter_of_skipSpace h⟩ else moreItems item text

/-- The rest of the text after a colon. -/
def colon (text : List Char) : m { rest : List Char // rest.length < text.length } :=
  match h : skipSpace text with
  | [] => stop .endInObject
  | c :: rest => if c = ':' then pure ⟨rest, shorter_of_skipSpace h⟩ else stop .expectedColon

/-- The fields of an object, from within the quotes of the first key on. What has been read so far
and a key decide how the value of the key is read. -/
def moreFields (field : σ → String → m (ReaderIn m σ)) (read : σ) (text : List Char) :
    m (Read σ text) := do
  let key ← liftExcept (string text)
  let reader ← field read key.value
  let ⟨afterColon, h₁⟩ ← colon key.rest
  let r ← reader afterColon
  match h : skipSpace r.rest with
  | [] => stop .endInObject
  | c :: rest =>
    have shorter := Nat.lt_trans (shorter_of_skipSpace h)
      (Nat.lt_trans r.shorter (Nat.lt_trans h₁ key.shorter))
    if c = '\x7d' then return ⟨r.value, rest, shorter⟩
    else if c = ',' then
      match h₂ : skipSpace rest with
      | [] => stop .endInValue
      | d :: rest' =>
        have shorter' := Nat.lt_trans (shorter_of_skipSpace h₂) shorter
        if d = '"' then
          let more ← moreFields field r.value rest'
          return ⟨more.value, more.rest, Nat.lt_trans more.shorter shorter'⟩
        else if d = '\x7d' then stop .trailingComma
        else stop .keyNotString
    else stop .expectedObjectCommaOrEnd
termination_by text.length

/-- The fields of an object, after its opening brace. -/
def fields (field : σ → String → m (ReaderIn m σ)) (start : σ) (text : List Char) :
    m (Read σ text) :=
  match h : skipSpace text with
  | [] => stop .endInObject
  | c :: rest =>
    if c = '\x7d' then pure ⟨start, rest, shorter_of_skipSpace h⟩
    else if c = '"' then do
      return (← moreFields field start rest).within (notLonger_of_skipSpace h)
    else stop .keyNotString

end

/-- A value as it is written, with up to `depth` containers around each other. -/
def value : (depth : Nat) → Reader Json
  | depth, text =>
    match h : skipSpace text with
    | [] => stop .endInValue
    | c :: rest =>
      have shorter := notLonger_of_skipSpace h
      if c = '[' then
        match depth with
        | 0 => stop .nestedTooDeep
        | depth + 1 => do return ((← items (value depth) rest).map Json.arr).within shorter
      else if c = '\x7b' then
        match depth with
        | 0 => stop .nestedTooDeep
        | depth + 1 => do
          let field (read : List (String × Json)) (key : String) :
              Except Fault (Reader (List (String × Json))) :=
            .ok fun text => do return (← value depth text).map fun v => read ++ [(key, v)]
          return ((← fields field [] rest).map Json.obj).within shorter
      else do
        return (← scalar (c :: rest)).within (h ▸ skipSpace_length_le text)

/-! ## Whole texts -/

/-- How many containers may stand around each other in a text. -/
def maxDepth : Nat := 127

/-- Nothing but white space follows what was read. -/
def toEnd {α : Type} {text : List Char} (r : Read α text) : Except Fault α :=
  if (skipSpace r.rest).isEmpty then .ok r.value else stop .trailingCharacters

/-- A text of one value, with up to `depth` containers around each other, as data. -/
def ofTextWithin (depth : Nat) (text : String) : Except Fault Json := do
  return canonical (← toEnd (← value depth text.toList))

/-- A text of one value, as data. -/
def ofText (text : String) : Except Fault Json := ofTextWithin maxDepth text

/-- The fault of a text whose next value is not of the wanted shape. A scalar is read first, so
that a broken one is reported as broken. -/
def wrongShape (wanted : Shape) (text : List Char) : Fault :=
  match skipSpace text with
  | '[' :: _ => .shape (.invalidType .sequence wanted)
  | '\x7b' :: _ => .shape (.invalidType .map wanted)
  | start =>
    match scalar start with
    | .ok r => .shape (.invalidType r.value.found wanted)
    | .error fault => fault

end VideoDelivery.Json
