import Automation.Condition.Evaluation
import Automation.Work

/-!
Finding records by conditions on their data.
-/
namespace Automation

/-- Records of an object type of a workspace that are not archived and meet the conditions. -/
structure RecordSearch where
  workspaceId : String
  objectTypeId : String
  conditions : List Condition

namespace RecordSearch

def query (search : RecordSearch) : Query :=
  .byText [("workspaceId", search.workspaceId), ("objectTypeId", search.objectTypeId)]

def isArchived (doc : Document) : Bool := (doc.get? "archived").bind (·.asBool?) == some true

def accepts (search : RecordSearch) (doc : Document) : Bool :=
  !isArchived doc && Condition.allHold search.conditions ((doc.get? "data").getD .null)

/-- The first records found, at most `limit` of them. -/
def run {ε : Type} (search : RecordSearch) (c : Connection ε) (limit : Nat) :
    Work ε (List Document) := do
  let docs ← c.query .records search.query
  return (docs.filter search.accepts).take limit

end RecordSearch
end Automation
