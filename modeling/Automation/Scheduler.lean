import Automation.Engine.Standard
import Automation.Files

/-!
Running actions when their time has come.
-/
namespace Automation.Scheduler

/-- What the store of a scheduler holds in the beginning. -/
def seed (config : SchedulerConfig) (files : Files) : Except Failure SeedData :=
  match config.seedPath with
  | some path => files.seed path
  | none => .ok {}

/-- Runs the scheduled actions whose time comes after `since` and not after `now`. -/
def tick (engine : Engine) (since now : Time.Instant) : Work Failure (List ExecutionReport) :=
  (engine.runDue since now).mapError fun e =>
    (Failure.of e.message).during "Due-schedule scan failed"

end Automation.Scheduler
