import Automation.Failure
import Automation.Store.Seed

/-!
Documents that are read from files.
-/
namespace Automation

/-- The text of the file at a path, or why it cannot be read. -/
abbrev Files := String → Except String String

namespace Files

def missing : String := "No such file or directory (os error 2)"

/-- Files that have been read before. -/
def ofList (texts : List (String × Except String String)) : Files := fun path =>
  (texts.lookup path).getD (.error missing)

private def read {α : Type} (files : Files) (path what : String)
    (parse : String → Except String α) : Except Failure α := do
  let failed (verb cause : String) : Failure :=
    (Failure.of cause).during ("Failed to " ++ verb ++ " " ++ what ++ path)
  let text ← (files path).mapError (failed "read")
  (parse text).mapError (failed "parse")

def document {α : Type} (files : Files) (decode : Decode.Decoder α) (path : String) :
    Except Failure α :=
  files.read path "" fun text => (Yaml.decode decode text).mapError (·.message .document)

def seed (files : Files) (path : String) : Except Failure SeedData :=
  files.read path "seed file " fun text => (SeedData.parse text).mapError (·.message)

end Files
end Automation
