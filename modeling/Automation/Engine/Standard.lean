import Automation.Engine.Dispatch
import Automation.Settings
import Automation.Tool.Records

/-!
The engine that runs unless somebody asks for another one.
-/
namespace Automation.Engine

/-- Calls public hosts only, takes its secrets from the environment and has the tools that read
records. -/
def standard (config : Config) (env : Variables) : Engine where
  config := config
  judge := Url.Guard.judge {}
  secrets := .ofEnvironment env
  tools := Toolbox.recordTools

end Automation.Engine
