import VideoDelivery.Json.Basic
import VideoDelivery.Text.Quoted

/-!
# What can be wrong with a JSON text

A text that is no JSON has a `SyntaxFault`; a value that is not of the wanted form has a
`ShapeFault`. The message of a fault is part of the answer to whoever wrote the text.
-/

namespace VideoDelivery.Json

/-- Why a text is no JSON value. -/
inductive SyntaxFault where
  | endInValue
  | endInArray
  | endInObject
  | endInString
  | expectedValue
  | expectedWord
  | expectedArrayCommaOrEnd
  | expectedObjectCommaOrEnd
  | expectedColon
  | trailingComma
  | trailingCharacters
  | keyNotString
  | invalidNumber
  | numberOutOfRange
  | invalidEscape
  | unpairedEscape
  | loneSurrogate
  | controlCharacter
  | nestedTooDeep
  deriving DecidableEq

/-- The words of a fault of the text. -/
def SyntaxFault.message : SyntaxFault → String
  | .endInValue => "EOF while parsing a value"
  | .endInArray => "EOF while parsing a list"
  | .endInObject => "EOF while parsing an object"
  | .endInString => "EOF while parsing a string"
  | .expectedValue => "expected value"
  | .expectedWord => "expected ident"
  | .expectedArrayCommaOrEnd => "expected `,` or `]`"
  | .expectedObjectCommaOrEnd => "expected `,` or `\x7d`"
  | .expectedColon => "expected `:`"
  | .trailingComma => "trailing comma"
  | .trailingCharacters => "trailing characters"
  | .keyNotString => "key must be a string"
  | .invalidNumber => "invalid number"
  | .numberOutOfRange => "number out of range"
  | .invalidEscape => "invalid escape"
  | .unpairedEscape => "unexpected end of hex escape"
  | .loneSurrogate => "lone leading surrogate in hex escape"
  | .controlCharacter => "control character (\\u0000-\\u001F) found while parsing a string"
  | .nestedTooDeep => "recursion limit exceeded"

/-- What stands where something else was wanted: the kind of a value, and the value itself unless
it is a container. -/
inductive Found where
  | null
  | bool (b : Bool)
  | num (n : Number)
  | str (s : String)
  | sequence
  | map

/-- The kind of a value, as far as a message shows it. -/
def found : Json → Found
  | .null => .null
  | .bool b => .bool b
  | .num n => .num n
  | .str s => .str s
  | .arr _ => .sequence
  | .obj _ => .map

/-- What was found, with its value unless it is a container. -/
def Found.message : Found → String
  | .null => "null"
  | .bool b => "boolean `" ++ toString b ++ "`"
  | .num (.int n inRange) => "integer `" ++ (Number.int n inRange).text ++ "`"
  | .num (.float x) => "floating point `" ++ (Number.float x).text ++ "`"
  | .str s => "string " ++ Text.quoted s
  | .sequence => "sequence"
  | .map => "map"

/-- The forms a value can be wanted in. -/
inductive Shape where
  | map
  | sequence
  | string
  | stringOrMap
  | unit
  | props
  | asset
  | source
  | document
  deriving DecidableEq

/-- The wanted form as a message names it. -/
def Shape.message : Shape → String
  | .map => "a map"
  | .sequence => "a sequence"
  | .string => "a string"
  | .stringOrMap => "string or map"
  | .unit => "unit"
  | .props => "struct VideoProps"
  | .asset => "struct AssetRef"
  | .source => "struct VideoSource"
  | .document => "struct VideoDocument"

/-- Why a value is not of the wanted form. -/
inductive ShapeFault where
  | invalidType (found : Found) (wanted : Shape)
  | missingField (name : String)
  | duplicateField (name : String)
  | unknownField (name : String)
  | unknownVariant (name : String)
  | notOneKey
  | tooShort (length : Nat) (wanted : Shape) (size : Nat)
  | tooLong (length : Nat)
  | noChild
  | nullPoster
  | refused (message : String)

/-- The words of a fault of the form. -/
def ShapeFault.message : ShapeFault → String
  | .invalidType found wanted =>
    "invalid type: " ++ found.message ++ ", expected " ++ wanted.message
  | .missingField name => "missing field `" ++ name ++ "`"
  | .duplicateField name => "duplicate field `" ++ name ++ "`"
  | .unknownField name => "unknown field `" ++ name ++ "`, expected `context` or `props`"
  | .unknownVariant name =>
    "unknown variant `" ++ name ++ "`, expected one of `image`, `video`, `raw`"
  | .notOneKey => "invalid value: map, expected map with a single key"
  | .tooShort length wanted size =>
    "invalid length " ++ toString length ++ ", expected " ++ wanted.message ++ " with " ++
      toString size ++ " elements"
  | .tooLong length =>
    "invalid length " ++ toString length ++ ", expected fewer elements in array"
  | .noChild => "data did not match any variant of untagged enum ChildNode"
  | .nullPoster => "poster must not be null"
  | .refused message => message

/-- Why a value could not be read from a text. -/
inductive Fault where
  | text (fault : SyntaxFault)
  | shape (fault : ShapeFault)

/-- The words of a fault. -/
def Fault.message : Fault → String
  | .text fault => fault.message
  | .shape fault => fault.message

end VideoDelivery.Json
