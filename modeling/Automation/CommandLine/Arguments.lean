/-!
Arguments of a command: options with a value, flags, and operands.
-/
namespace Automation.CommandLine

/-- An option or, if it takes no value, a flag. -/
structure Switch where
  name : String
  letter : Option Char
  takesValue : Bool

/-- Why a command line names no command to run. -/
inductive Refusal where
  | help
  | version
  | misuse
  deriving DecidableEq

structure Arguments where
  values : List (String × String) := []
  operands : List String := []

namespace Arguments

def value? (args : Arguments) (name : String) : Option String := args.values.lookup name

def has (args : Arguments) (name : String) : Bool := (args.value? name).isSome

/-- No switch may be given twice. -/
def give (args : Arguments) (switch : Switch) (value : String) : Except Refusal Arguments :=
  if args.has switch.name then .error .misuse
  else .ok { args with values := args.values ++ [(switch.name, value)] }

/-- What stands in the place of a value is one unless it begins like a switch. -/
def isValue (text : String) : Bool := text == "-" || !text.startsWith "-"

/-- Reads letters behind one dash. A last option without its value waits for the next argument. -/
def giveLetters (switches : List Switch) :
    Arguments → List Char → Except Refusal (Arguments × Option Switch)
  | args, [] => .ok (args, none)
  | args, c :: rest =>
    if c = 'h' then .error .help
    else match switches.find? (·.letter == some c) with
      | none => .error .misuse
      | some switch =>
        if switch.takesValue then
          match rest with
          | [] => .ok (args, some switch)
          | '=' :: value | value =>
            (args.give switch (String.ofList value)).map fun args => (args, none)
        else do giveLetters switches (← args.give switch "") rest

/-- Reads a name behind two dashes, and a value behind an equals sign. -/
def giveName (switches : List Switch) (args : Arguments) (text : List Char) :
    Except Refusal (Arguments × Option Switch) :=
  let name := text.takeWhile (· != '=')
  let value := text.drop (name.length + 1)
  let valued := name.length < text.length
  if String.ofList name = "help" ∧ !valued then .error .help
  else match switches.find? (·.name == String.ofList name) with
    | none => .error .misuse
    | some switch =>
      if valued then
        if switch.takesValue then
          (args.give switch (String.ofList value)).map fun args => (args, none)
        else .error .misuse
      else if switch.takesValue then .ok (args, some switch)
      else (args.give switch "").map fun args => (args, none)

/-- Reads all arguments, of which at most `room` are operands. -/
def scan (switches : List Switch) (room : Nat) :
    Arguments → List String → Except Refusal Arguments
  | args, [] => .ok args
  | args, text :: rest => do
    let (args, waiting) ← match text.toList with
      | ['-', '-'] =>
        if args.operands.length + rest.length ≤ room then
          return { args with operands := args.operands ++ rest }
        else .error .misuse
      | '-' :: '-' :: name => giveName switches args name
      | '-' :: c :: letters => giveLetters switches args (c :: letters)
      | _ =>
        if args.operands.length < room then
          .ok ({ args with operands := args.operands ++ [text] }, none)
        else .error .misuse
    match waiting, rest with
    | none, rest => scan switches room args rest
    | some switch, value :: rest =>
      if isValue value then
        let args ← args.give switch value
        scan switches room args rest
      else .error .misuse
    | some _, [] => .error .misuse
termination_by structural _ texts => texts

end Arguments
end Automation.CommandLine
