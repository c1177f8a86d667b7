import Trackpad.Output.Event

/-!
# Sink — receivers of commands

A sink is any state with the seven operations of the class `Sink`; each gives the next state and
what the receiver writes to the log. There are three of them here: a `Recording` keeps the commands
and writes nothing, a `Relay` hands everything on to another sink, and a `Journal` keeps the
commands and writes a record for each. `Sink.consume` feeds a sink with events.
-/

namespace Trackpad

/-- States `κ` that receive commands. -/
class Sink (κ : Type) where
  moveTo : κ → Point → Bool → κ × List Log.Record
  click : κ → MouseButton → κ × List Log.Record
  press : κ → MouseButton → κ × List Log.Record
  release : κ → MouseButton → κ × List Log.Record
  scroll : κ → Float → Float → κ × List Log.Record
  scrollWithShift : κ → Float → Float → κ × List Log.Record
  scrollWithCtrl : κ → Float → Float → κ × List Log.Record

/-- Delivers a command: calls the operation it stands for. -/
def Command.applyTo {κ : Type} [Sink κ] (c : Command) (sink : κ) : κ × List Log.Record :=
  match c with
  | move position drag => Sink.moveTo sink position drag
  | click button => Sink.click sink button
  | press button => Sink.press sink button
  | release button => Sink.release sink button
  | scroll dx dy => Sink.scroll sink dx dy
  | scrollWithShift dx dy => Sink.scrollWithShift sink dx dy
  | scrollWithCtrl dx dy => Sink.scrollWithCtrl sink dx dy

namespace Sink

variable {κ : Type} [Sink κ]

/-- Delivers commands one after the other. -/
def deliver (sink : κ) : List Command → κ × List Log.Record
  | [] => (sink, [])
  | c :: rest =>
    let first := c.applyTo sink
    let others := deliver first.1 rest
    (others.1, first.2 ++ others.2)

/-- Delivers the commands among some events, and gathers the log: the records among the events and
those of the sink, in the order they happen in. -/
def consume (sink : κ) : List Event → κ × List Log.Record
  | [] => (sink, [])
  | .command c :: rest =>
    let first := c.applyTo sink
    let others := consume first.1 rest
    (others.1, first.2 ++ others.2)
  | .record r :: rest =>
    let others := consume sink rest
    (others.1, r :: others.2)

/-- The records among the events make no difference to the sink. -/
theorem consume_fst (sink : κ) (events : List Event) :
    (consume sink events).1 = (deliver sink (Event.commands events)).1 := by
  induction events generalizing sink with
  | nil => rfl
  | cons e rest ih =>
    cases e with
    | command c => exact ih _
    | record r => exact ih _

end Sink

/-- A sink that keeps the commands, oldest first, and writes nothing to the log. -/
structure Recording where
  commands : List Command := []
deriving DecidableEq

namespace Recording

/-- Keeps a further command. -/
def keep (r : Recording) (c : Command) : Recording × List Log.Record :=
  (⟨r.commands ++ [c]⟩, [])

instance : Sink Recording where
  moveTo r position drag := r.keep (.move position drag)
  click r button := r.keep (.click button)
  press r button := r.keep (.press button)
  release r button := r.keep (.release button)
  scroll r dx dy := r.keep (.scroll dx dy)
  scrollWithShift r dx dy := r.keep (.scrollWithShift dx dy)
  scrollWithCtrl r dx dy := r.keep (.scrollWithCtrl dx dy)

/-- A delivered command is the one that is kept. -/
@[simp] theorem applyTo_eq (c : Command) (r : Recording) : c.applyTo r = r.keep c := by
  cases c <;> rfl

end Recording

/-- A sink that hands every call on to another one. -/
structure Relay (κ : Type) where
  target : κ

namespace Relay

variable {κ : Type} [Sink κ]

/-- The relay after its target has answered. -/
def after (answer : κ × List Log.Record) : Relay κ × List Log.Record :=
  (⟨answer.1⟩, answer.2)

instance : Sink (Relay κ) where
  moveTo r position drag := after (Sink.moveTo r.target position drag)
  click r button := after (Sink.click r.target button)
  press r button := after (Sink.press r.target button)
  release r button := after (Sink.release r.target button)
  scroll r dx dy := after (Sink.scroll r.target dx dy)
  scrollWithShift r dx dy := after (Sink.scrollWithShift r.target dx dy)
  scrollWithCtrl r dx dy := after (Sink.scrollWithCtrl r.target dx dy)

/-- A relayed command does at the target what it would do there directly. -/
@[simp] theorem applyTo_eq (c : Command) (r : Relay κ) :
    c.applyTo r = after (c.applyTo r.target) := by
  cases c <;> rfl

end Relay

/-- A sink that keeps the commands, oldest first, and writes a record of each to the log. -/
structure Journal where
  commands : List Command := []
deriving DecidableEq

namespace Journal

/-- Keeps and reports a further command. -/
def keep (j : Journal) (c : Command) : Journal × List Log.Record :=
  (⟨j.commands ++ [c]⟩, [.received c])

instance : Sink Journal where
  moveTo j position drag := j.keep (.move position drag)
  click j button := j.keep (.click button)
  press j button := j.keep (.press button)
  release j button := j.keep (.release button)
  scroll j dx dy := j.keep (.scroll dx dy)
  scrollWithShift j dx dy := j.keep (.scrollWithShift dx dy)
  scrollWithCtrl j dx dy := j.keep (.scrollWithCtrl dx dy)

/-- A delivered command is the one that is kept and reported. -/
@[simp] theorem applyTo_eq (c : Command) (j : Journal) : c.applyTo j = j.keep c := by
  cases c <;> rfl

end Journal

end Trackpad
