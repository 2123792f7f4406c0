import Sift.Text.Cut
import Sift.Text.Digits

/-!
# Arguments of a command

The arguments of a command are switches `--name` and settings `--name value` or `--name=value`, in
any order, each at most once.  A value that stands on its own does not start with a dash, unless
it is nothing but a dash.  A final `--` is allowed.

`Arguments.read` reads them, given the names that the command knows.
-/

namespace Sift

/-- What is wrong with the arguments of the program. -/
inductive UsageError where
  | missingCommand
  | unknownCommand (name : String)
  | unknownArgument (argument : String)
  | missingArgument (name : String)
  | repeatedArgument (name : String)
  | missingValue (name : String)
  | unexpectedValue (name : String)
  | notNumber (name value : String)
  deriving DecidableEq, Repr

/-- The wording of an error. -/
def UsageError.message : UsageError → String
  | .missingCommand => "a command is required: tokens, tree, compile or sql"
  | .unknownCommand name => s!"there is no command '{name}'"
  | .unknownArgument argument => s!"unexpected argument '{argument}'"
  | .missingArgument name => s!"the argument '--{name}' is required"
  | .repeatedArgument name => s!"the argument '--{name}' is given more than once"
  | .missingValue name => s!"the argument '--{name}' needs a value"
  | .unexpectedValue name => s!"the argument '--{name}' takes no value"
  | .notNumber name value => s!"the value '{value}' of '--{name}' is not a number of 64 bits"

/-- The names that a command knows. -/
structure ArgumentNames where
  switches : List String
  settings : List String
  deriving DecidableEq, Repr

/-- The arguments given, in their order. -/
structure Arguments where
  switches : List String
  settings : List (String × String)
  deriving DecidableEq, Repr

namespace Arguments

/-- The name in an argument that starts with two dashes, and the value if one is attached. -/
def named? (argument : String) : Option (String × Option String) :=
  match argument.toList with
  | '-' :: '-' :: rest =>
    match Text.cut '=' rest with
    | some (name, value) => some (String.ofList name, some (String.ofList value))
    | none => some (String.ofList rest, none)
  | _ => none

/-- Whether an argument cannot be a value on its own. -/
def isDashed (argument : String) : Bool :=
  match argument.toList with
  | '-' :: _ :: _ => true
  | _ => false

/-- The arguments with a switch in front. -/
def addSwitch (name : String) (a : Arguments) : Except UsageError Arguments :=
  if name ∈ a.switches then
    .error (.repeatedArgument name)
  else
    .ok { a with switches := name :: a.switches }

/-- The arguments with a setting in front. -/
def addSetting (name value : String) (a : Arguments) : Except UsageError Arguments :=
  if name ∈ a.settings.map Prod.fst then
    .error (.repeatedArgument name)
  else
    .ok { a with settings := (name, value) :: a.settings }

/-- The switches and settings in a list of arguments. -/
def read (names : ArgumentNames) : List String → Except UsageError Arguments
  | [] => .ok ⟨[], []⟩
  | ["--"] => .ok ⟨[], []⟩
  | argument :: rest =>
    match named? argument with
    | none => .error (.unknownArgument argument)
    | some (name, value) =>
      if name ∈ names.switches then
        match value with
        | none => do addSwitch name (← read names rest)
        | some _ => .error (.unexpectedValue name)
      else if name ∈ names.settings then
        match value, rest with
        | some value, rest => do addSetting name value (← read names rest)
        | none, value :: rest =>
          if isDashed value then
            .error (.missingValue name)
          else do
            addSetting name value (← read names rest)
        | none, [] => .error (.missingValue name)
      else
        .error (.unknownArgument argument)

/-! ## Values -/

/-- The value of a setting, if it is given. -/
def get? (a : Arguments) (name : String) : Option String :=
  a.settings.lookup name

/-- The value of a setting that has to be given. -/
def get (a : Arguments) (name : String) : Except UsageError String :=
  match a.get? name with
  | some value => .ok value
  | none => .error (.missingArgument name)

/-- The number of 64 bits that a text spells in digits, after at most one plus. -/
def word? (s : String) : Option UInt64 := do
  let n ← match s.toList with
    | '+' :: rest => Text.natural? rest
    | cs => Text.natural? cs
  if n < UInt64.size then some (UInt64.ofNat n) else none

/-- The number that a setting gives, if it is given. -/
def getWord? (a : Arguments) (name : String) : Except UsageError (Option UInt64) :=
  match a.get? name with
  | none => .ok none
  | some value =>
    match word? value with
    | some n => .ok (some n)
    | none => .error (.notNumber name value)

/-- Whether a switch is given. -/
def has (a : Arguments) (name : String) : Bool :=
  a.switches.contains name

end Arguments

end Sift
