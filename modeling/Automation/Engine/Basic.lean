import Automation.Audit
import Automation.Config
import Automation.Context
import Automation.Step.Command
import Automation.Tool.Basic
import Automation.Webhook.Delivery

/-!
An engine: what steps have at hand besides the store.
-/
namespace Automation

structure Engine where
  config : Config
  judge : String → Url.Verdict
  secrets : Webhook.Secrets
  tools : Toolbox

namespace Engine

/-- The store as it is seen by those whose failures embed those of the store. -/
def store {ε : Type} (engine : Engine) (failed : StoreError → ε) : Connection ε :=
  .timed engine.config.storeTimeout failed

/-- The store as steps see it. -/
def records (engine : Engine) : Connection StepError := engine.store .store

/-- Adds an entry to the audit log. -/
def writeAudit (engine : Engine) (entry : AuditEntry) : Work StoreError Unit := do
  let fields ← Work.ofExcept (Document.fieldsOf entry.encode)
  let _ ← (engine.store id).insert .auditLogs fields

/-- What a step in a context leaves in the audit log; it is only lost when that fails. -/
def audit (engine : Engine) (ctx : Context) (stepId : String) (entry : AuditEntry) :
    Work StepError Unit :=
  Work.ignoring (engine.writeAudit { entry with
    actorId := ctx.actorId
    metadata := some (.ofPairs [("executionId", .ofText? ctx.executionId),
      ("stepId", .string stepId)]) })

/-- The record to work on: the one that is named, or else that of the run. -/
def targetId (ctx : Context) (recordId : Option String) : Except StepError String :=
  match Command.nonBlank? recordId <|> ctx.recordId? with
  | some id => .ok id
  | none => .error (.validation "No record to operate on")

/-- The record to work on, as it is stored. -/
def targetRecord (engine : Engine) (ctx : Context) (recordId : Option String) :
    Work StepError Document := do
  let id ← Work.ofExcept (targetId ctx recordId)
  engine.records.requireIn ctx.workspaceId .records id

end Engine
end Automation
