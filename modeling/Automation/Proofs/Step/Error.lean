import Automation.Step.Error

/-!
What the text of an error tells: whether the error is fatal, and whether a step was refused for what it is.
-/
namespace Automation

namespace StepError

private def opening (text : String) : List Char := text.toList.take 7

/-- The openings of fatal messages. -/
private def fatalOpenings : List (List Char) :=
  ["Store unavailable", "Store serialization", "Internal error"].map opening

/-- Whatever comes behind it, the text has the opening of a fatal message or of another one. -/
private abbrev Tells (fatal : Bool) (text : String) : Prop :=
  7 ≤ text.toList.length ∧ (fatal = true ↔ opening text ∈ fatalOpenings)

private theorem Tells.append {fatal : Bool} {text : String} (h : Tells fatal text) (more : String) :
    Tells fatal (text ++ more) := by
  obtain ⟨long, known⟩ := h
  have same : opening (text ++ more) = opening text := by
    unfold opening
    rw [String.toList_append, List.take_append_of_le_length long]
  refine ⟨?_, same ▸ known⟩
  rw [String.toList_append, List.length_append]
  exact Nat.le_add_right_of_le long

private theorem tells_store (e : StoreError) : Tells e.isFatal e.message := by
  cases e with
  | notFound table id =>
    have start : Tells false (table.name ++ " document not found: ") := by
      cases table <;> decide +kernel
    exact start.append id
  | wrongWorkspace table id =>
    have start : Tells false (table.name ++ " document ") := by cases table <;> decide +kernel
    exact (start.append id).append _
  | timeout limit =>
    have start : Tells false "Store operation timed out after " := by decide +kernel
    exact start.append _
  | unavailable reason =>
    have start : Tells true "Store unavailable: " := by decide +kernel
    exact start.append reason
  | serialization reason =>
    have start : Tells true "Store serialization error: " := by decide +kernel
    exact start.append reason

private theorem tells_message (e : StepError) : Tells e.isFatal e.message := by
  cases e with
  | store error => exact tells_store error
  | validation text =>
    have start : Tells false "Validation error: " := by decide +kernel
    exact start.append text
  | externalCall text =>
    have start : Tells false "External call failed: " := by decide +kernel
    exact start.append text
  | internal text =>
    have start : Tells true "Internal error: " := by decide +kernel
    exact start.append text
  | loopNestingExceeded depth max =>
    have start : Tells false "Loop nesting exceeded: depth " := by decide +kernel
    exact ((start.append _).append _).append _
  | iterationLimitExceeded requested limit =>
    have start : Tells false "Iteration limit exceeded: maxIterations " := by decide +kernel
    exact ((start.append _).append _).append _
  | branchFailed stepId message =>
    have start : Tells false "Branch step '" := by decide +kernel
    exact ((start.append stepId).append _).append message
  | iterationFailed index stepId message =>
    have start : Tells false "Loop iteration " := by decide +kernel
    exact ((((start.append _).append _).append stepId).append _).append message

/-- A text that a fatal error has. -/
def FatalText (text : String) : Prop := ∃ e : StepError, e.isFatal = true ∧ e.message = text

/-- No fatal error has the text of another one. -/
theorem fatalText_message {e : StepError} : FatalText e.message ↔ e.isFatal = true := by
  constructor
  · rintro ⟨other, fatal, same⟩
    rw [(tells_message other).2] at fatal
    rw [(tells_message e).2]
    rwa [same] at fatal
  · exact fun fatal => ⟨e, fatal, rfl⟩

end StepError

/-- The errors with which a step is refused before it does anything: nobody knows its type, or it is a
loop without a bound, with too high a bound or too deep inside others. -/
inductive Refusal : StepError → Prop
  | unknownType (name : String) : Refusal (.validation ("Unknown step type: " ++ name))
  | noMaxIterations (stepId : String) : Refusal (.validation ("Loop step '" ++ stepId ++
      "' requires maxIterations of at least 1"))
  | tooManyIterations (requested limit : Nat) : Refusal (.iterationLimitExceeded requested limit)
  | nestedTooDeep (depth max : Nat) : Refusal (.loopNestingExceeded depth max)

/-- A text that tells of a refusal. -/
def RefusalText (text : String) : Prop := ∃ e : StepError, Refusal e ∧ e.message = text

/-- No text that begins with one of them begins with the other. -/
private abbrev Parts (a b : List Char) : Prop := ¬ a <+: b ∧ ¬ b <+: a

private theorem Parts.append {a b : List Char} (h : Parts a b) (more : List Char) :
    Parts (a ++ more) b := by
  obtain ⟨left, right⟩ := h
  refine ⟨fun longer => left ((List.prefix_append _ _).trans longer), fun shorter => ?_⟩
  rcases List.prefix_or_prefix_of_prefix shorter (List.prefix_append _ _) with h | h
  · exact right h
  · exact left h

private theorem prefix_append {start : List Char} {text : String} (h : start <+: text.toList)
    (more : String) : start <+: (text ++ more).toList := by
  rw [String.toList_append]
  exact h.trans (List.prefix_append _ _)

/-- How the messages of limits begin. -/
private def limits : List (List Char) := ["Itera".toList, "Loop n".toList]

/-- How the messages of refusals begin. -/
private def messages : List (List Char) := "Valid".toList :: limits

/-- How the texts of checks begin that refuse a step. -/
private def checks : List (List Char) := ["Unknown s".toList, "Loop st".toList]

/-- The text begins like none of the others, whatever comes behind it. -/
private def Apart (others : List (List Char)) (text : String) : Prop :=
  ∀ other ∈ others, Parts text.toList other

private theorem Apart.of {others : List (List Char)} {text : List Char}
    (h : ∀ other ∈ others, Parts text other) : Apart others (String.ofList text) := by
  rw [Apart, String.toList_ofList]
  exact h

private theorem Apart.append {others : List (List Char)} {text : String} (h : Apart others text)
    (more : String) : Apart others (text ++ more) := by
  intro other known
  rw [String.toList_append]
  exact (h other known).append more.toList

/-- The text of a check that refuses no step, whatever comes behind it. -/
def PlainCheck (text : String) : Prop := Apart checks text

theorem PlainCheck.of {text : List Char} (h : ∀ check ∈ checks, Parts text check) :
    PlainCheck (String.ofList text) :=
  Apart.of h

theorem PlainCheck.append {text : String} (h : PlainCheck text) (more : String) :
    PlainCheck (text ++ more) :=
  Apart.append h more

private theorem limit_of_refusal {e : StepError} (refusal : Refusal e) :
    (∃ text, e = .validation text) ∨ ∃ limit ∈ limits, limit <+: e.message.toList := by
  cases refusal with
  | unknownType | noMaxIterations => exact .inl ⟨_, rfl⟩
  | tooManyIterations requested limit =>
    have start : "Itera".toList <+: "Iteration limit exceeded: maxIterations ".toList := by decide
    exact .inr ⟨_, .head _, prefix_append (prefix_append (prefix_append start _) _) _⟩
  | nestedTooDeep depth max =>
    have start : "Loop n".toList <+: "Loop nesting exceeded: depth ".toList := by decide
    exact .inr ⟨_, .tail _ (.head _), prefix_append (prefix_append (prefix_append start _) _) _⟩

private theorem Apart.plain {text : String} (h : Apart messages text) : ¬ RefusalText text := by
  rintro ⟨e, refusal, rfl⟩
  rcases limit_of_refusal refusal with ⟨check, rfl⟩ | ⟨limit, known, begins⟩
  · have start : "Valid".toList <+: "Validation error: ".toList := by decide
    exact (h _ (.head _)).2 (prefix_append start check)
  · exact (h limit (.tail _ known)).2 begins

private theorem check_of_refusal {text : String} (refusal : Refusal (.validation text)) :
    ∃ check ∈ checks, check <+: text.toList := by
  cases refusal with
  | unknownType name =>
    have start : "Unknown s".toList <+: "Unknown step type: ".toList := by decide
    exact ⟨_, .head _, prefix_append start _⟩
  | noMaxIterations stepId =>
    have start : "Loop st".toList <+: "Loop step '".toList := by decide
    exact ⟨_, .tail _ (.head _), prefix_append (prefix_append start _) _⟩

namespace StepError

/-- The text of the error tells of no refusal. -/
def Plain (e : StepError) : Prop := ¬ RefusalText e.message

theorem plain_validation {text : String} (h : PlainCheck text) : (validation text).Plain := by
  rintro ⟨e, refusal, same⟩
  rcases limit_of_refusal refusal with ⟨other, rfl⟩ | ⟨limit, known, begins⟩
  · have same : other = text := by
      change "Validation error: " ++ other = "Validation error: " ++ text at same
      have chars := congrArg String.toList same
      rw [String.toList_append, String.toList_append] at chars
      exact String.toList_inj.mp (List.append_cancel_left chars)
    obtain ⟨check, known, begins⟩ := check_of_refusal refusal
    rw [same] at begins
    exact (h check known).2 begins
  · have start : Apart limits "Validation error: " := .of (by decide)
    rw [same] at begins
    exact (start.append text limit known).2 begins

theorem plain_externalCall (text : String) : (externalCall text).Plain := by
  have start : Apart messages "External call failed: " := .of (by decide)
  exact (start.append text).plain

theorem plain_branchFailed (stepId message : String) : (branchFailed stepId message).Plain := by
  have start : Apart messages "Branch step '" := .of (by decide)
  exact (((start.append stepId).append _).append message).plain

theorem plain_iterationFailed (index : Nat) (stepId message : String) :
    (iterationFailed index stepId message).Plain := by
  have start : Apart messages "Loop iteration " := .of (by decide)
  exact (((((start.append _).append _).append stepId).append _).append message).plain

theorem plain_store (e : StoreError) : (store e).Plain := by
  have named (table : Table) : Apart messages table.name := by
    cases table <;> exact .of (by decide)
  cases e with
  | notFound table id => exact (((named table).append _).append id).plain
  | wrongWorkspace table id => exact ((((named table).append _).append id).append _).plain
  | timeout limit =>
    have start : Apart messages "Store operation timed out after " := .of (by decide)
    exact (start.append _).plain
  | unavailable reason =>
    have start : Apart messages "Store unavailable: " := .of (by decide)
    exact (start.append reason).plain
  | serialization reason =>
    have start : Apart messages "Store serialization error: " := .of (by decide)
    exact (start.append reason).plain

/-- Nothing that ends a whole run is a refusal. -/
theorem plain_fatal {e : StepError} (fatal : e.isFatal = true) : e.Plain := by
  cases e with
  | store error => exact plain_store error
  | internal text =>
    have start : Apart messages "Internal error: " := .of (by decide)
    exact (start.append text).plain
  | validation | externalCall | loopNestingExceeded | iterationLimitExceeded | branchFailed
    | iterationFailed => cases fatal

end StepError
end Automation
