import Trackpad.Gesture.State
import Trackpad.Input.Kind
import Trackpad.Output.Command
import Trackpad.Timing.Scheduler

/-!
# Record — what the log is told

Log records are values; `Record.line` is the text a log shows for one. The records of debug level
account for every change of the primary state.
-/

namespace Trackpad.Log

/-- How much a record matters. -/
inductive Level where
  | warn
  | info
  | debug
  | trace
deriving DecidableEq

/-- The level as a log shows it. -/
def Level.name : Level → String
  | warn => "WARN"
  | info => "INFO"
  | debug => "DEBUG"
  | trace => "TRACE"

/-- One thing the log is told. -/
inductive Record where
  /-- The primary state changes for a reason; it may change to itself. -/
  | transition (source target : State) (reason : String)
  /-- A gesture is dropped and recognition is at rest again. -/
  | reset (source : State)
  /-- A sample was classified. -/
  | classified (action : Action) (kind : Kind) (state : State)
  /-- A callback arrived that was no longer live. -/
  | stale (slot : Slot) (ticket : Ticket)
  /-- A sample met a state that nothing handles. -/
  | unhandled (state : State)
  /-- A command was received. -/
  | received (command : Command)
deriving DecidableEq

namespace Record

/-- How much a record matters. -/
def level : Record → Level
  | transition .. | reset _ => .debug
  | classified .. | stale .. => .trace
  | unhandled _ => .warn
  | received _ => .info

/-- What a record says. -/
def text : Record → String
  | transition source target reason =>
    "state transition: " ++ source.name ++ " -> " ++ target.name ++ " (" ++ reason ++ ")"
  | reset source => "context reset from " ++ source.name
  | classified action kind state =>
    action.name ++ " classified as " ++ kind.title ++ " in " ++ state.name
  | stale slot ticket => "dropping stale " ++ slot.title ++ " timer #" ++ toString ticket.raw
  | unhandled state => "no handler registered for " ++ state.name
  | received command => "pointer command: " ++ command.describe

/-- A record as a log shows it. -/
def line (r : Record) : String := r.level.name ++ " " ++ r.text

end Record

end Trackpad.Log
