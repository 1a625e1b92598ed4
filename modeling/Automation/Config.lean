import Automation.Duration

/-!
Limits and defaults for running actions.
-/
namespace Automation

structure Config where
  maxLoopNesting : Nat := 3
  maxLoopIterations : Nat := 1000
  webhookTimeoutSeconds : Nat := 30
  storeTimeoutSeconds : Nat := 10
  toolTimeoutSeconds : Nat := 30
  /-- A webhook step fails when the answer is no success. -/
  webhookFailOnError : Bool := true
  deriving DecidableEq

namespace Config

def webhookTimeout (c : Config) : Duration := .ofSeconds c.webhookTimeoutSeconds

def storeTimeout (c : Config) : Duration := .ofSeconds c.storeTimeoutSeconds

def toolTimeout (c : Config) : Duration := .ofSeconds c.toolTimeoutSeconds

end Config
end Automation
