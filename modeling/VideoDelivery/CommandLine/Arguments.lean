/-!
# Command line arguments

The arguments after the name of a command are options: `--name value` or `--name=value`, and flags
`--name`. A value that starts with a hyphen has to be attached, unless it is the hyphen alone. After
`--` there are no more options; since no command takes other arguments, nothing may follow it.
-/

namespace VideoDelivery.CommandLine

/-- How often an option may be given, and whether it has a value. -/
inductive OptionKind where
  | flag
  | single
  | repeated
  deriving DecidableEq

/-- The options of a command, by name. -/
abbrev Options := List (String × OptionKind)

/-- The options that were given, in order; a flag has an empty value. -/
abbrev Given := List (String × String)

/-- The text can be the value of the option before it. -/
def isDetachedValue (s : String) : Bool :=
  match s.toList with
  | '-' :: _ :: _ => false
  | _ => true

/-- An argument `--name` or `--name=value`. -/
def splitOption? (arg : String) : Option (String × Option String) :=
  match arg.toList with
  | '-' :: '-' :: body =>
    let name := String.ofList (body.takeWhile (· ≠ '='))
    match body.dropWhile (· ≠ '=') with
    | [] => some (name, none)
    | _ :: value => some (name, some (String.ofList value))
  | _ => none

/-- The options that some arguments give. -/
def given? (options : Options) : List String → Option Given
  | [] => some []
  | ["--"] => some []
  | [arg] => do
    let (name, attached) ← splitOption? arg
    match ← options.lookup name, attached with
    | .flag, none => some [(name, "")]
    | .single, some value | .repeated, some value => some [(name, value)]
    | _, _ => none
  | arg :: next :: rest => do
    let (name, attached) ← splitOption? arg
    match ← options.lookup name, attached with
    | .flag, none => return (name, "") :: (← given? options (next :: rest))
    | .flag, some _ => none
    | _, some value => return (name, value) :: (← given? options (next :: rest))
    | _, none =>
      -- the value is the next argument, unless that looks like an option itself
      if isDetachedValue next then return (name, next) :: (← given? options rest) else none

/-- No option is given more often than it may be. -/
def wellGiven (options : Options) (given : Given) : Bool :=
  options.all fun o => o.2 = .repeated || given.countP (fun g => g.1 = o.1) ≤ 1

/-- The options that some arguments give, each as often as it may be given. -/
def readOptions? (options : Options) (args : List String) : Option Given := do
  let given ← given? options args
  if wellGiven options given then some given else none

/-- All values of an option. -/
def valuesOf (given : Given) (name : String) : List String :=
  (given.filter fun g => g.1 = name).map (·.2)

/-- The value of a file option; a path is not empty. -/
def pathOf? (given : Given) (name : String) : Option String := do
  let path ← given.lookup name
  if path = "" then none else some path

end VideoDelivery.CommandLine
