import Automation.Config
import Automation.Number.Literal
import Automation.Text.Blank
import Automation.Text.Case

/-!
Settings from environment variables.
-/
namespace Automation

/-- Names and values, as an environment lists them. -/
abbrev Variables := List (String × String)

inductive SettingError where
  | unreadable (name value cause : String)
  | duplicate (field : String)
  | noInterval
  deriving DecidableEq

/-- What the names of settings begin with. -/
def settingSign : String := "ACTIONFLOW_"

def SettingError.message : SettingError → String
  | unreadable name value cause =>
    cause ++ " while parsing value \x27" ++ value ++ "\x27 provided by " ++ name
  | duplicate field => "duplicate field \x60" ++ field ++ "\x60"
  | noInterval => settingSign ++ "SCHEDULER_INTERVAL_SECS must be at least 1"

namespace Config

/-- A setting from its text, or what is wrong with that. -/
abbrev Setter := String → Except String (Config → Config)

private def count (set : Nat → Config → Config) : Setter := fun text =>
  ((Natural.parse 0x10000000000000000 text).mapError Natural.Fault.message).map set

private def flag (set : Bool → Config → Config) : Setter
  | "true" => .ok (set true)
  | "false" => .ok (set false)
  | _ => .error "provided string was not \x60true\x60 or \x60false\x60"

def setters : List (String × Setter) :=
  [("max_loop_nesting", count fun n c => { c with maxLoopNesting := n }),
    ("max_loop_iterations", count fun n c => { c with maxLoopIterations := n }),
    ("webhook_timeout_secs", count fun n c => { c with webhookTimeoutSeconds := n }),
    ("store_timeout_secs", count fun n c => { c with storeTimeoutSeconds := n }),
    ("tool_timeout_secs", count fun n c => { c with toolTimeoutSeconds := n }),
    ("webhook_fail_on_error", flag fun b c => { c with webhookFailOnError := b })]

/-- Cuts the sign off the front of a name as often as it stands there. -/
def unsigned : Nat → List Char → List Char
  | 0, cs => cs
  | fuel + 1, cs =>
    if settingSign.toList.isPrefixOf cs then unsigned fuel (cs.drop settingSign.length) else cs

/-- The part of a variable's name that names a setting. -/
def settingName? (name : String) : Option String :=
  let cs := name.toList
  if settingSign.toList.isPrefixOf cs then some (String.ofList (unsigned cs.length cs)) else none

/-- Applies variables one after another; no setting may be given twice, in whatever case. -/
def assign : List String → Config → Variables → Except SettingError Config
  | _, config, [] => .ok config
  | seen, config, (name, value) :: rest =>
    match settingName? name with
    | none => assign seen config rest
    | some short =>
      let field := Text.lower short
      match setters.lookup field with
      | none => assign seen config rest
      | some setter =>
        if seen.contains field then .error (.duplicate field)
        else match setter value with
          | .ok set => assign (field :: seen) (set config) rest
          | .error cause => .error (.unreadable short value cause)

/-- What no variable sets has its default. -/
def ofVariables (env : Variables) : Except SettingError Config := assign [] {} env

end Config

structure SchedulerConfig where
  /-- From one look for due actions to the next. -/
  interval : Duration := .ofSeconds 60
  seedPath : Option String := none
  deriving DecidableEq

/-- An interval that cannot be read is as good as none. -/
def SchedulerConfig.ofVariables (env : Variables) : Except SettingError SchedulerConfig :=
  let seconds := ((env.lookup (settingSign ++ "SCHEDULER_INTERVAL_SECS")).bind fun text =>
    (Natural.parse 0x10000000000000000 text).toOption).getD 60
  if seconds = 0 then .error .noInterval
  else .ok {
    interval := .ofSeconds seconds
    seedPath := (env.lookup (settingSign ++ "SEED_PATH")).filter fun path =>
      !(Text.trim path).isEmpty }

end Automation
