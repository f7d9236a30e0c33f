import VideoDelivery.Document.Basic
import VideoDelivery.File.Fault
import VideoDelivery.Json.Reader

/-!
# Reading documents

A document is read straight from its text, so that the first fault of the text is the one that is
reported, whether the text is no JSON there or the value is not of the wanted form. It is an object
with the fields `context` and `props`, or a list of the two.

Each reader below stands in as many containers as its value has around it in a document, and leaves
the rest of the depth to the values within.

A child is read to its end before it is looked at. What else is done with it at that moment is up to
the caller (`readerLooking`); to read a document, nothing is (`reader`).
-/

namespace VideoDelivery.Document

open Json (Reader ReaderIn Fault fields items value maxDepth skipSpace stop refuse wrongShape)

section

variable {m : Type → Type} [Monad m] [MonadExceptOf Fault m] {α : Type}

/-- A reader of the fields of an object. -/
def inBraces (wanted : Json.Shape) (body : ReaderIn m α) : ReaderIn m α := fun text =>
  match h : skipSpace text with
  | [] => stop .endInValue
  | c :: rest =>
    if c = '\x7b' then do
      return (← body rest).within (Json.notLonger_of_skipSpace h)
    else throw (wrongShape wanted text)

/-- A reader of the items of a list. -/
def inBrackets (body : ReaderIn m α) : ReaderIn m α := fun text =>
  match h : skipSpace text with
  | [] => stop .endInValue
  | c :: rest =>
    if c = '[' then do
      return (← body rest).within (Json.notLonger_of_skipSpace h)
    else throw (wrongShape .sequence text)

/-- Any value, with up to `depth` containers around each other. -/
def anyValue (depth : Nat) : ReaderIn m Json := fun text => liftExcept (value depth text)

/-- Fields with any values, of which `depth` may be containers around each other. -/
def anyField (depth : Nat) (read : List (String × Json)) (key : String) :
    m (ReaderIn m (List (String × Json))) :=
  pure fun text => do return (← anyValue depth text).map fun v => read ++ [(key, v)]

/-- The map of some fields as they are written. -/
def mapOfWritten (written : List (String × Json)) : PropertyMap :=
  .ofList (Json.canonicalFields written)

/-- A layer of context. -/
def layer : ReaderIn m PropertyMap :=
  inBraces .map fun text => do return (← fields (anyField (maxDepth - 3)) [] text).map mapOfWritten

/-- The layers of context. -/
def layersReader : ReaderIn m (List PropertyMap) := inBrackets (items layer)

/-- One child, which is looked at as it is written. -/
def child (look : Json → m Unit) : ReaderIn m Child := fun text => do
  let r ← anyValue (maxDepth - 3) text
  look r.value
  match Child.ofWritten r.value with
  | some c => return ⟨c, r.rest, r.shorter⟩
  | none => refuse .noChild

/-- The children of the element. -/
def childrenReader (look : Json → m Unit) : ReaderIn m (List Child) :=
  inBrackets (items (child look))

/-- The properties read so far. -/
structure PropsSoFar where
  children : Option (List Child) := none
  attributes : List (String × Json) := []

/-- One property. Only the children may not be given twice. -/
def propsField (look : Json → m Unit) (read : PropsSoFar) (key : String) :
    m (ReaderIn m PropsSoFar) :=
  if key = "children" then
    if read.children.isSome then refuse (.duplicateField key)
    else pure fun text => do
      return (← childrenReader look text).map fun children =>
        { read with children := some children }
  else pure fun text => do
    return (← anyValue (maxDepth - 2) text).map fun v =>
      { read with attributes := read.attributes ++ [(key, v)] }

/-- The properties of the element. -/
def propsReader (look : Json → m Unit) : ReaderIn m Props :=
  inBraces .props fun text => do
    return (← fields (propsField look) {} text).map fun read =>
      ⟨read.children.getD [], mapOfWritten read.attributes⟩

/-- The parts of a document read so far. -/
structure SoFar where
  layers : Option (List PropertyMap) := none
  props : Option Props := none

/-- One part of a document. -/
def documentField (look : Json → m Unit) (read : SoFar) (key : String) : m (ReaderIn m SoFar) :=
  if key = "context" then
    if read.layers.isSome then refuse (.duplicateField key)
    else pure fun text => do
      return (← layersReader text).map fun layers => { read with layers := some layers }
  else if key = "props" then
    if read.props.isSome then refuse (.duplicateField key)
    else pure fun text => do
      return (← propsReader look text).map fun props => { read with props := some props }
  else refuse (.unknownField key)

/-- The end of a list of both parts. -/
def listEnd (d : Document) : ReaderIn m Document := fun text =>
  match h : skipSpace text with
  | [] => stop .endInArray
  | c :: rest =>
    if c = ']' then pure ⟨d, rest, Json.shorter_of_skipSpace h⟩
    else if c = ',' ∧ (skipSpace rest).head? = some ']' then stop .trailingComma
    else stop .trailingCharacters

/-- The fault of a list that ends before the properties. -/
def propsMissing : m α := refuse (.tooShort 1 .document 2)

/-- A document written as a list of its parts, after the opening bracket. -/
def listForm (look : Json → m Unit) : ReaderIn m Document := fun text =>
  match skipSpace text with
  | [] => stop .endInArray
  | c :: _ =>
    if c = ']' then propsMissing
    else do
      let layers ← layersReader text
      match h : skipSpace layers.rest with
      | [] => stop .endInArray
      | c :: rest =>
        if c = ']' then propsMissing
        else if c = ',' then
          match skipSpace rest with
          | [] => stop .endInValue
          | d :: _ =>
            if d = ']' then stop .trailingComma
            else
              let props ← propsReader look rest
              let r ← listEnd ⟨layers.value, props.value⟩ props.rest
              return ⟨r.value, r.rest, Nat.lt_trans r.shorter (Nat.lt_trans props.shorter
                (Nat.lt_trans (Json.shorter_of_skipSpace h) layers.shorter))⟩
        else stop .expectedArrayCommaOrEnd

/-- A document written as an object, after the opening brace. -/
def objectForm (look : Json → m Unit) : ReaderIn m Document := fun text => do
  let r ← fields (documentField look) {} text
  match r.value.props with
  | some props => return ⟨⟨r.value.layers.getD [], props⟩, r.rest, r.shorter⟩
  | none => refuse (.missingField "props")

/-- A document in either form, with a look at each of its children. -/
def readerLooking (look : Json → m Unit) : ReaderIn m Document := fun text =>
  match h : skipSpace text with
  | [] => stop .endInValue
  | c :: rest =>
    have shorter := Json.notLonger_of_skipSpace h
    if c = '\x7b' then do return (← objectForm look rest).within shorter
    else if c = '[' then do return (← listForm look rest).within shorter
    else throw (wrongShape .document text)

end

/-- A document in either form. -/
def reader : Reader Document := readerLooking fun _ => pure ()

/-- The error of a text that could not be read as a document. -/
def unreadable (reason : String) : Error := .serialization ("parse video document JSON: " ++ reason)

/-- A document from its text. -/
def ofText (text : String) : Except Error Document :=
  match reader text.toList >>= Json.toEnd with
  | .ok d => .ok d
  | .error fault => .error (unreadable fault.message)

/-- A document from a file, by the content of the file or why there is none. -/
def ofFile (path : String) : Except FileFault String → Except Error Document
  | .ok text => ofText text
  | .error fault =>
    if fault.isInReading then .error (unreadable fault.text)
    else .error (.validation ("open video document '" ++ path ++ "': " ++ fault.text))

end VideoDelivery.Document
