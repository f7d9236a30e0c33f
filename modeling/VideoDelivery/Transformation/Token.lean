import VideoDelivery.Transformation.Parameter
import VideoDelivery.Json.Basic

/-!
# Tokens

A parameter with its value is written as one token of a URL segment: the code, an underscore and
the text of the value, or for the raw parameter its text alone. Only scalars have a text; an empty
string has none. A list is written by joining the texts of its elements, and where no element has
one the list has none either.

A parameter may give no token, for one of the reasons of `Omission`.
-/

namespace VideoDelivery

/-- A parameter as it stands in a segment. -/
inductive Token where
  /-- `code_value`. -/
  | coded (code value : String)
  /-- Text that is taken over as it is. -/
  | raw (text : String)
  deriving DecidableEq

/-- Why a parameter gives no token. -/
inductive Omission where
  /-- The name is no parameter in any spelling. -/
  | unknownName
  /-- The value has no text. -/
  | noText
  /-- There is no value, or no raw text. -/
  | absent
  deriving DecidableEq

namespace Token

/-- The token as it stands in a segment. -/
def text : Token → String
  | .coded code value => code ++ "_" ++ value
  | .raw text => text

/-- The token is text that is taken over. -/
def isRaw : Token → Bool
  | .coded .. => false
  | .raw _ => true

/-- The text of a scalar; an empty string and all that is no scalar have none. -/
def scalarText? : Json → Option String
  | .str s => if s = "" then none else some s
  | .num n => some n.text
  | .bool true => some "true"
  | .bool false => some "false"
  | .null | .arr _ | .obj _ => none

/-- The texts that a list of elements is joined from: in a range one for each element, otherwise
those of the elements that have one. -/
def pieces (join : Join) (elements : List Json) : List String :=
  let texts := elements.map scalarText?
  if join = .range then texts.map (·.getD "") else texts.filterMap id

/-- The text of a value. -/
def valueText? (join : Join) : Json → Option String
  | .arr elements =>
    if elements.all fun v => (scalarText? v).isNone then none
    else some (join.separator.intercalate (pieces join elements))
  | v => scalarText? v

/-- The token of a parameter in any spelling, or why there is none. -/
def encode (name : String) (value : Json) : Except Omission Token :=
  if Parameter.isRaw name then
    match value with
    | .str s => if s = "" then .error .absent else .ok (.raw s)
    | _ => .error .absent
  else
    match Parameter.find? name with
    | none => .error .unknownName
    | some p =>
      match valueText? p.join value with
      | some text => .ok (.coded p.code text)
      | none => .error (if value.isNull then .absent else .noText)

/-- The token of a parameter in any spelling, if it has one. -/
def ofParameter? (name : String) (value : Json) : Option Token := (encode name value).toOption

/-- Spellings of one name give the same token. -/
theorem encode_congr {a b : String} (h : Name.fold a = Name.fold b) (value : Json) :
    encode a value = encode b value := by
  simp [encode, Parameter.isRaw, h, Parameter.find?_congr h]

end Token

end VideoDelivery
