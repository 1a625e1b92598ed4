import Automation.Engine.Sequence
import Automation.Proofs.Json.Members

/-!
What the result of a step tells of the steps inside it: those of the branch that was taken, or those of
each iteration.
-/
namespace Automation

open Json (Value Members)

/-- The results that an output of a branch or an iteration tells. -/
def toldResults (output : Value) : List Value :=
  ((output.member? "stepResults").bind (·.asArray?)).getD []

/-- The results that the output of a step of the type tells. -/
def nestedResults (type : String) (output : Value) : List Value :=
  if type = StepType.condition.name then toldResults output
  else if type = StepType.loop.name then
    (((output.member? "iterations").bind (·.asArray?)).getD []).flatMap toldResults
  else []

/-- The results that are told right inside a result. -/
def insideResult (result : Value) : List Value :=
  match result.member? "stepType", result.member? "output" with
  | some (.string type), some output => nestedResults type output
  | _, _ => []

/-- The result is told by one of these at some level, or is one of them. -/
inductive Told (result : Value) : List Value → Prop
  | here {results : List Value} (h : result ∈ results) : Told result results
  | inside {outer : Value} {results : List Value} (h : outer ∈ results)
      (deeper : Told result (insideResult outer)) : Told result results

theorem StepResult.member?_encode (r : StepResult) (name : String) :
    r.encode.member? name = (r.members.lookup name).join :=
  Members.get?_present name r.members (by simp [members])

theorem member?_branchOutput (holds : Bool) (results : List StepResult) (key : String) :
    (Engine.branchOutput holds results).member? key =
      List.lookup key [("result", .bool holds), ("branch", .string (if holds then "then" else "else")),
        ("stepResults", StepResult.encodeAll results)] :=
  Members.member?_ofPairs (by simp)

theorem toldResults_branchOutput (holds : Bool) (results : List StepResult) :
    toldResults (Engine.branchOutput holds results) = results.map (·.encode) := by
  rw [toldResults, member?_branchOutput]
  rfl

theorem insideResult_encode (r : StepResult) :
    insideResult r.encode = (r.output.map (nestedResults r.stepType)).getD [] := by
  have type : r.encode.member? "stepType" = some (.string r.stepType) := r.member?_encode "stepType"
  have output : r.encode.member? "output" = r.output := r.member?_encode "output"
  rw [insideResult, type, output]
  cases r.output <;> rfl

theorem nestedResults_branchOutput (holds : Bool) (results : List StepResult) :
    nestedResults StepType.condition.name (Engine.branchOutput holds results) =
      results.map (·.encode) :=
  toldResults_branchOutput holds results

theorem nestedResults_loopOutput (truncated : Bool) (iterations : List (List StepResult)) :
    nestedResults StepType.loop.name (Engine.loopOutput truncated iterations) =
      iterations.flatMap fun results => results.map (·.encode) := by
  have told (index : Nat) (results : List StepResult) : toldResults (.ofPairs
      [("index", .ofNat index), ("stepResults", StepResult.encodeAll results)]) =
        results.map (·.encode) := by
    rw [toldResults, Members.member?_ofPairs (by simp)]
    rfl
  have shown : (Engine.loopOutput truncated iterations).member? "iterations" =
      some (.array (iterations.mapIdx fun index results => .ofPairs
        [("index", .ofNat index), ("stepResults", StepResult.encodeAll results)])) :=
    Members.member?_ofPairs (by simp)
  rw [nestedResults, if_neg (by decide), if_pos rfl, shown]
  simp only [Option.bind_some, Value.asArray?, Option.getD_some, List.mapIdx_eq_zipIdx_map,
    List.flatMap_map, told]
  have places := List.flatMap_map (·.1) (fun results => results.map (·.encode)) iterations.zipIdx
  rw [List.zipIdx_map_fst] at places
  exact places.symm

theorem nestedResults_plain {type : StepType} (known : ∀ name, type ≠ .unknown name)
    (hc : type ≠ .condition) (hl : type ≠ .loop) (output : Value) :
    nestedResults type.name output = [] := by
  cases type with
  | condition => exact absurd rfl hc
  | loop => exact absurd rfl hl
  | unknown name => exact absurd rfl (known name)
  | _ => rfl

end Automation
