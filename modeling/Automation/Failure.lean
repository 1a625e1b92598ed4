import Automation.Text.Split

/-!
A failure as it is told to a user: what was attempted, and why it went wrong, one cause below the
other.
-/
namespace Automation

structure Failure where
  message : String
  causes : List String := []
  deriving DecidableEq

namespace Failure

def of (message : String) : Failure := { message }

/-- The same failure as the cause of a larger one. -/
def during (f : Failure) (message : String) : Failure := ⟨message, f.message :: f.causes⟩

/-- Everything in one line. -/
def chain (f : Failure) : String := ": ".intercalate (f.message :: f.causes)

private def padded (n : Nat) : String :=
  let digits := toString n
  String.ofList (List.replicate (5 - digits.length) ' ') ++ digits

/-- Lines of one cause; the further ones stand below the text of the first. -/
private def causeText (start indent cause : String) : String :=
  start ++ ("\n" ++ indent).intercalate (Text.splitAll '\n' cause)

private def numbered : Nat → List String → List String
  | _, [] => []
  | n, cause :: rest => causeText (padded n ++ ": ") "       " cause :: numbered (n + 1) rest

/-- Causes on lines of their own, numbered if there are several. -/
def report (f : Failure) : String :=
  let causes := match f.causes with
    | [cause] => [causeText "    " "    " cause]
    | causes => numbered 0 causes
  let tail := if causes.isEmpty then "" else "\n\nCaused by:\n" ++ "\n".intercalate causes
  "Error: " ++ f.message ++ tail ++ "\n"

end Failure
end Automation
