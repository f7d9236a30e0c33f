import VideoDelivery.CommandLine.Arguments
import VideoDelivery.Document.Reader

/-!
# Commands

The commands of the program: `render` writes the media element of a document, `diff` tells whether
going from one document to another makes a reload necessary, and `url` compiles a single delivery
URL. What a command does is a function of the contents of the files it names.
-/

namespace VideoDelivery.CommandLine

/-- What `url` is asked for. -/
structure UrlRequest where
  cloud : String
  publicId : String
  resourceType : String
  format : Option String
  secure : Bool
  steps : List String

/-- What the program is asked to do. -/
inductive Command where
  | render (path : String) (pretty : Bool)
  | diff (previous next : String)
  | url (request : UrlRequest)

/-- What a run leaves behind. -/
structure Outcome where
  exit : Nat
  stdout : String
  stderr : String
  deriving DecidableEq

/-- Why a command failed, and what caused that. -/
structure Failure where
  message : String
  cause : Option String := none

/-- The files that a command can see: what each path leads to. -/
abbrev Files := String → Except FileFault String

namespace Command

/-! ## From arguments -/

/-- The options of `render`: a file that has to be named, and a layout. -/
def render? (args : List String) : Option Command := do
  let given ← readOptions? [("in", .single), ("pretty", .flag)] args
  return .render (← pathOf? given "in") (given.lookup "pretty").isSome

/-- The options of `diff`: the two files, both of which have to be named. -/
def diff? (args : List String) : Option Command := do
  let given ← readOptions? [("prev", .single), ("next", .single)] args
  return .diff (← pathOf? given "prev") (← pathOf? given "next")

/-- The options of `url`: account and identifier have to be given, though they may be empty. -/
def url? (args : List String) : Option Command := do
  let given ← readOptions? [("cloud", .single), ("public-id", .single),
    ("resource-type", .single), ("format", .single), ("secure", .flag), ("step", .repeated)] args
  return .url {
    cloud := ← given.lookup "cloud"
    publicId := ← given.lookup "public-id"
    resourceType := (given.lookup "resource-type").getD "video"
    format := given.lookup "format"
    secure := (given.lookup "secure").isSome
    steps := valuesOf given "step" }

/-- The command that some arguments ask for; none if they are not understood. -/
def ofArguments? : List String → Option Command
  | "render" :: args => render? args
  | "diff" :: args => diff? args
  | "url" :: args => url? args
  | _ => none

/-- The files that a command names. -/
def paths : Command → List String
  | .render path _ => [path]
  | .diff previous next => [previous, next]
  | .url _ => []

/-! ## Running -/

/-- An error in a context that says what was being done. -/
def during {α : Type} (message : String) : Except Error α → Except Failure α
  | .ok a => .ok a
  | .error e => .error ⟨message, some e.message⟩

/-- An error by itself. -/
def plainly {α : Type} : Except Error α → Except Failure α
  | .ok a => .ok a
  | .error e => .error ⟨e.message, none⟩

/-- The document of a file, rendered. -/
def renderFile (files : Files) (path : String) : Except Failure Rendered := do
  let document ← during ("load video document '" ++ path ++ "'") (Document.ofFile path (files path))
  during ("render '" ++ path ++ "'") document.render

/-- A step from a JSON text. -/
def stepOfText (text : String) : Except Json.Fault Step :=
  match Json.skipSpace text.toList with
  | '\x7b' :: _ => do
    match Step.ofJson (← Json.ofText text) with
    | .ok step => return step
    | .error fault => .error (.shape fault)
  | [] => Json.stop .endInValue
  | start => .error (Json.wrongShape .map start)

/-- The steps of the `--step` options. -/
def stepsOf (texts : List String) : Except Failure (List Step) :=
  texts.mapM fun text =>
    match stepOfText text with
    | .ok step => .ok step
    | .error fault =>
      .error ⟨"parse --step '" ++ text ++ "' as a JSON object", some fault.message⟩

/-- The URL of a request. -/
def runUrl (r : UrlRequest) : Except Failure String := do
  let resourceType ← plainly (ResourceType.ofToken r.resourceType)
  let steps ← stepsOf r.steps
  plainly (Asset.url ⟨r.cloud, r.publicId, resourceType, r.format⟩ steps (.ofSecure r.secure))

/-- The rendered element and its fingerprint, with all keys in order. -/
def renderedJson (r : Rendered) : Json :=
  (Json.obj [("element", r.element.toJson),
    ("fingerprint", .str r.snapshot.fingerprint.text)]).canonical

/-- What a command writes: to the standard output and to the standard error. -/
def output (files : Files) : Command → Except Failure (String × String)
  | .render path pretty => do
    let json := renderedJson (← renderFile files path)
    return ((if pretty then json.pretty else json.compact) ++ "\n", "")
  | .diff previous next => do
    let before := (← renderFile files previous).snapshot
    let after := (← renderFile files next).snapshot
    return ((if before.needsReload after then "reload" else "keep") ++ "\n",
      before.fingerprint.text ++ " -> " ++ after.fingerprint.text ++ "\n")
  | .url request => do return ((← runUrl request) ++ "\n", "")

/-- A text with each of its lines four spaces in. -/
def indented (text : String) : String :=
  "    " ++ String.join (text.toList.map fun c =>
    if c = '\n' then "\n    " else String.singleton c)

/-- The message of a failure, with its cause in lines of its own. -/
def failureText (f : Failure) : String :=
  "Error: " ++ f.message ++
    (match f.cause with
    | some cause => "\n\nCaused by:\n" ++ indented cause
    | none => "") ++ "\n"

/-- Runs a command. -/
def run (files : Files) (c : Command) : Outcome :=
  match c.output files with
  | .ok (stdout, stderr) => ⟨0, stdout, stderr⟩
  | .error f => ⟨1, "", failureText f⟩

end Command

/-- How the program is called. -/
def usage : String :=
  "Usage: video-delivery <COMMAND>\n\nCommands:\n" ++
  "  render --in <FILE> [--pretty]\n" ++
  "  diff --prev <FILE> --next <FILE>\n" ++
  "  url --cloud <NAME> --public-id <ID> [--resource-type <TYPE>] [--format <EXTENSION>]" ++
  " [--secure] [--step <JSON>]...\n"

/-- Runs the program with some arguments; arguments that are not understood are a usage error. -/
def execute (args : List String) (files : Files) : Outcome :=
  match Command.ofArguments? args with
  | some command => command.run files
  | none => ⟨2, "", usage⟩

end VideoDelivery.CommandLine
