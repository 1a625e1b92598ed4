import Automation.Engine.Basic

/-!
Steps that ask somebody else: webhooks and tools.
-/
namespace Automation.Engine

def sender (engine : Engine) : Webhook.Sender where
  judge := engine.judge
  secrets := engine.secrets
  maxTimeout := engine.config.webhookTimeout
  failOnError := engine.config.webhookFailOnError

/-- The log of an attempt as it is stored. -/
def loggedFields (ctx : Context) (stepId : String) (log : Webhook.Log) :
    Except StoreError Json.Members :=
  (Document.fieldsOf log.encode).map fun fields =>
    Json.Members.merge (.ofList [("workspaceId", .string ctx.workspaceId),
      ("executionId", .ofText? ctx.executionId), ("stepId", .string stepId)]) fields

/-- Stores the log of an attempt. -/
def writeWebhookLog (engine : Engine) (ctx : Context) (stepId : String) (log : Webhook.Log) :
    Work StoreError Unit := do
  let fields ← Work.ofExcept (loggedFields ctx stepId log)
  let _ ← (engine.store id).insert .webhookLogs fields

/-- Sends a webhook and stores the log of it, which is only lost when that fails. -/
def sendWebhook (engine : Engine) (ctx : Context) (stepId : String) (w : Webhook) :
    Work StepError Json.Value := do
  let delivery ← Work.ofProgram (engine.sender.send w)
  Work.ignoring (engine.writeWebhookLog ctx stepId delivery.log)
  let response ← Work.ofExcept delivery.outcome
  return response.encode

/-- The store as tools see it. A tool whose time is up first does not get to see the delay. -/
def toolStore (engine : Engine) : Connection ToolFailure :=
  let limit := engine.config.storeTimeout
  let failed (e : StoreError) : ToolFailure := .raised (.store e)
  if engine.config.toolTimeoutSeconds < engine.config.storeTimeoutSeconds then ⟨failed, .stalled⟩
  else .timed limit failed

def toolTimedOut (engine : Engine) (tool : String) : StepError :=
  .externalCall ("Tool '" ++ tool ++ "' timed out after " ++
    toString engine.config.toolTimeoutSeconds ++ "s")

/-- What a failed call of a tool means for the step. -/
def toolFailed (engine : Engine) (tool : String) : ToolFailure → StepError
  | .raised e => e
  | .stalled => engine.toolTimedOut tool

/-- Arguments that are missing are an empty object. -/
def toolArguments : Json.Value → Json.Value
  | .null => .object []
  | value => value

def callTool (engine : Engine) (ctx : Context) (tool : String) (arguments : Json.Value) :
    Work StepError Json.Value := do
  let caller : ToolContext := ⟨ctx.workspaceId, ctx.actorId, ctx.executionId⟩
  let result ← Work.mapError (engine.toolFailed tool)
    (engine.tools.call engine.toolStore tool (toolArguments arguments) caller)
  match result with
  | .success data => return .ofPairs [("tool", .string tool), ("data", data)]
  | .error text =>
    Work.fail (.externalCall ("Tool '" ++ tool ++ "' failed: " ++ text.getD "unknown error"))

end Automation.Engine
