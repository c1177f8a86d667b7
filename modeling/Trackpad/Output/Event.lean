import Trackpad.Log.Record

/-!
# Event — what recognition lets the outside see

While a sample or a callback is handled, commands go out and the log is told things. Both are
events, kept in one list in the order they happen in, so that a receiver which writes to the log
itself puts its records in the right places.
-/

namespace Trackpad

/-- A command that goes out, or a record for the log. -/
inductive Event where
  | command (c : Command)
  | record (r : Log.Record)
deriving DecidableEq

namespace Event

/-- The command of an event that is one. -/
def command? : Event → Option Command
  | command c => some c
  | record _ => none

/-- The log record of an event that is one. -/
def record? : Event → Option Log.Record
  | command _ => none
  | record r => some r

/-- The commands among some events, in order. -/
def commands (events : List Event) : List Command := events.filterMap command?

/-- The log records among some events, in order. -/
def records (events : List Event) : List Log.Record := events.filterMap record?

@[simp] theorem commands_nil : commands [] = [] := rfl

@[simp] theorem commands_append (a b : List Event) :
    commands (a ++ b) = commands a ++ commands b := by
  simp [commands]

@[simp] theorem records_nil : records [] = [] := rfl

@[simp] theorem records_append (a b : List Event) :
    records (a ++ b) = records a ++ records b := by
  simp [records]

end Event

end Trackpad
