import Automation.Store.Table

/-!
Why a step failed. Fatal errors end the whole run.
-/
namespace Automation

inductive StepError where
  | validation (text : String)
  | externalCall (text : String)
  | store (error : StoreError)
  | loopNestingExceeded (depth max : Nat)
  | iterationLimitExceeded (requested limit : Nat)
  | branchFailed (stepId message : String)
  | iterationFailed (index : Nat) (stepId message : String)
  | internal (text : String)
  deriving DecidableEq

namespace StepError

def isFatal : StepError → Bool
  | store error => error.isFatal
  | internal _ => true
  | validation _ | externalCall _ | loopNestingExceeded _ _ | iterationLimitExceeded _ _
  | branchFailed _ _ | iterationFailed _ _ _ => false

/-- The category an error belongs to. -/
def kind : StepError → String
  | validation _ => "validation"
  | externalCall _ => "external_call"
  | store _ => "store"
  | loopNestingExceeded _ _ | iterationLimitExceeded _ _ => "limit_exceeded"
  | branchFailed _ _ | iterationFailed _ _ _ => "nested_step"
  | internal _ => "internal"

def message : StepError → String
  | validation text => "Validation error: " ++ text
  | externalCall text => "External call failed: " ++ text
  | store error => error.message
  | loopNestingExceeded depth max =>
    "Loop nesting exceeded: depth " ++ toString depth ++ " is above the maximum of " ++ toString max
  | iterationLimitExceeded requested limit =>
    "Iteration limit exceeded: maxIterations " ++ toString requested ++ " is above the limit of " ++
      toString limit
  | branchFailed stepId message => "Branch step '" ++ stepId ++ "' failed: " ++ message
  | iterationFailed index stepId message =>
    "Loop iteration " ++ toString index ++ " failed at step '" ++ stepId ++ "': " ++ message
  | internal text => "Internal error: " ++ text

end StepError
end Automation
