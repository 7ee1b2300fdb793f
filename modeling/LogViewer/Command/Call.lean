import LogViewer.Text.Numeral

/-! Reading the arguments of a command. The program leaves this to the library typer; what stands
here is as much of that library as the commands make use of. Options begin with a hyphen and may
stand anywhere; a pair of hyphens ends them. An option's value is the next argument, whatever it
looks like, or follows an equals sign. The last one of an option's values counts. -/
namespace LogViewer

/-- What an option is. -/
inductive OptionKind where
  | valued
  /-- An option without a value, which turns what has the given name on or off. -/
  | switch (name : String) (on : Bool)
deriving DecidableEq, Repr

/-- The arguments that a command takes. -/
structure Signature where
  /-- The count of the arguments that are no options. -/
  arity : Nat
  /-- The options with their hyphens. -/
  options : List (String × OptionKind)

/-- The arguments of a command, told apart. Options come with the last one first. -/
structure Call where
  positional : List String := []
  values : List (String × String) := []
  switches : List (String × Bool) := []
deriving DecidableEq, Repr

namespace Call

def addPositional (argument : String) (call : Call) : Call :=
  { call with positional := call.positional ++ [argument] }

def addValue (name value : String) (call : Call) : Call :=
  { call with values := (name, value) :: call.values }

def addSwitch (name : String) (on : Bool) (call : Call) : Call :=
  { call with switches := (name, on) :: call.switches }

/-- Whether a switch is on; it is off to begin with. -/
def isOn (call : Call) (name : String) : Bool := (call.switches.lookup name).getD false

/-- The text of an option, or a default. -/
def text (call : Call) (name default : String) : String := (call.values.lookup name).getD default

/-- The whole number of an option, if the option is there; the outer option is empty if it is no
whole number, as which a decimal one like `2.0` counts. -/
def whole? (call : Call) (name : String) : Option (Option Int) :=
  match call.values.lookup name with
  | none => some none
  | some text => (Text.wholeDecimal? text).map some

/-- The number of an option, if the option is there; the outer option is empty if it is no number.
-/
def decimal? (call : Call) (name : String) : Option (Option Double) :=
  match call.values.lookup name with
  | none => some none
  | some text => (Text.decimalNumber? text).map some

end Call

/-- Whether an argument is an option: a hyphen alone is none. -/
def isOption (argument : String) : Bool :=
  argument.toList.head? = some '-' && argument ≠ "-"

/-- An option's name, and its value if an equals sign follows the name. -/
def optionParts (argument : String) : String × Option String :=
  match argument.toList.dropWhile (· != '=') with
  | [] => (argument, none)
  | _ :: value => (String.ofList (argument.toList.takeWhile (· != '=')), some (String.ofList value))

namespace Signature

/-- Takes the arguments one after the other; none if an option is unknown or has no value or one too
many. -/
def takeAll? (signature : Signature) (call : Call) : List String → Option Call
  | [] => some call
  | argument :: rest =>
    if argument = "--" then some (rest.foldl (fun call a => call.addPositional a) call)
    else if isOption argument then
      let (name, value?) := optionParts argument
      match signature.options.lookup name, value? with
      | some .valued, some value => takeAll? signature (call.addValue name value) rest
      | some .valued, none => match rest with
        | [] => none
        | value :: rest => takeAll? signature (call.addValue name value) rest
      | some (.switch name on), none => takeAll? signature (call.addSwitch name on) rest
      | _, _ => none
    else takeAll? signature (call.addPositional argument) rest

/-- The switch with which a command's usage is asked for. -/
def helpName : String := "--help"

/-- The call that some arguments make. A call for help needs no other argument. -/
def call? (signature : Signature) (arguments : List String) : Option Call := do
  let all := { signature with options := (helpName, .switch helpName true) :: signature.options }
  let call ← all.takeAll? {} arguments
  guard (call.isOn helpName ∨ call.positional.length = signature.arity)
  return call

end Signature

end LogViewer
