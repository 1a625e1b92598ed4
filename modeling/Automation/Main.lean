import Automation.CommandLine.Exit
import Std.Time.DateTime.Timestamp

/-!
The program as it runs: it reads files and the environment, and prints what a call leaves behind.
-/
namespace Automation.Main

/-- The variables that the process was started with. -/
def env : IO Variables := do
  let text ← try IO.FS.readFile "/proc/self/environ" catch _ => pure ""
  return (Text.splitAll '\x00' text).filterMap (Text.splitOnce '=')

def readFile (path : String) : IO (Except String String) := do
  try return .ok (← IO.FS.readFile path)
  catch
    | .noFileOrDirectory _ _ _ => return .error Files.missing
    | e => return .error e.toString

/-- The files that arguments name, read ahead. -/
def files (args : List String) : IO Files := do
  let paths := match CommandLine.Command.parse args with
    | .ok command => command.paths
    | .error _ => []
  let texts ← paths.mapM fun path => do return (path, ← readFile path)
  return .ofList texts

def clock : IO Time.Instant := do
  let ns := (← Std.Time.Timestamp.now).toNanosecondsSinceUnixEpoch.val
  return ⟨ns / 1000000000, (ns % 1000000000).toNat⟩

private def hex (width n : Nat) : String :=
  let digits := Nat.toDigits 16 n
  String.ofList (List.replicate (width - digits.length) '0' ++ digits)

/-- Thirty-two random digits in groups, with those that tell a random id from others. -/
def idOf (n : Nat) : String :=
  "-".intercalate [hex 8 (n % 0x100000000), hex 4 ((n >>> 32) % 0x10000),
    hex 4 (0x4000 + (n >>> 48) % 0x1000), hex 4 (0x8000 + (n >>> 60) % 0x4000),
    hex 12 ((n >>> 74) % 0x1000000000000)]

def randomNumber : IO Nat := do
  let parts ← (List.range 5).mapM fun _ => IO.rand 0 0x3FFFFFFF
  return parts.foldl (fun n part => n <<< 30 + part) 0

/-- Answers what a program asks. No connection is ever made. -/
def answer (store : IO.Ref MemoryStore) : (effect : Effect) → IO effect.Reply
  | .store op => do
    let number ← randomNumber
    let (result, next) := (← store.get).perform ⟨fun _ => idOf number, ← clock⟩ op
    store.set next
    return .answered result
  | .exchange _ _ => return .unreachable
  | .clock => clock

def run {α : Type} (store : IO.Ref MemoryStore) : Program α → IO α
  | .done value => return value
  | .ask effect next => do run store (next (← answer store effect))

def perform (job : CommandLine.Job) : IO CommandLine.Exit := do
  let number ← randomNumber
  let stamp : Stamp := ⟨fun n => idOf (number + n <<< 74), ← clock⟩
  let store ← IO.mkRef (MemoryStore.ofSeed stamp job.seed)
  return .ofResult (← run store job.work.run)

end Automation.Main

def main (args : List String) : IO UInt32 := do
  let env ← Automation.Main.env
  let files ← Automation.Main.files args
  let exit ← match Automation.CommandLine.prepare env files args with
    | .error exit => pure exit
    | .ok job => Automation.Main.perform job
  IO.print exit.stdout
  IO.eprint exit.stderr
  return exit.code.toUInt32
