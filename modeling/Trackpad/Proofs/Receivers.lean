import Trackpad.Proofs.Host
import Trackpad.Recognizer.Attached

/-!
# Receivers — what the sinks make of a run

A recording, a relay to one, and a journal are three sinks that keep commands. All there is to know
of each is which sink has kept which commands, and what it writes to the log of a command that comes
(`Sink.Keeps`). What such a sink makes of a list of commands, of the events of a call and of a whole
run follows from this alone.

A sink is fed after each call. It makes no difference when it is fed: what it makes of the events of
a run, call by call, it makes of all of them together (`Attached.run_eq`).
-/

namespace Trackpad

/-! ## Sinks that keep commands -/

theorem Log.Record.line_received (c : Command) :
    (received c).line = "INFO pointer command: " ++ c.describe := by
  show "INFO" ++ " " ++ ("pointer command: " ++ c.describe) = _
  rw [← String.append_assoc]
  rfl

namespace Event

/-- What a sink that writes `report` of a command adds to the log where an event happens. -/
def reported (report : Command → List Log.Record) : Event → List Log.Record
  | command c => report c
  | record r => [r]

/-- The record of an event, where commands are recorded too. -/
def entry : Event → Log.Record
  | command c => .received c
  | record r => r

theorem flatMap_reported_nothing (events : List Event) :
    events.flatMap (reported fun _ => []) = records events := by
  induction events with
  | nil => rfl
  | cons e rest ih =>
    rw [List.flatMap_cons, ih]
    cases e <;> rfl

theorem flatMap_reported_received (events : List Event) :
    events.flatMap (reported fun c => [.received c]) = events.map entry := by
  rw [List.map_eq_flatMap]
  congr 1
  funext e
  cases e <;> rfl

end Event

namespace Sink

/-- To feed events to a sink in two parts is to feed them one after the other. -/
theorem consume_append {κ : Type} [Sink κ] (sink : κ) (first second : List Event) :
    consume sink (first ++ second) =
      ((consume (consume sink first).1 second).1,
        (consume sink first).2 ++ (consume (consume sink first).1 second).2) := by
  induction first generalizing sink with
  | nil => rfl
  | cons e rest ih =>
    cases e with
    | command c => simp only [List.cons_append, consume, ih, List.append_assoc]
    | record r => simp only [List.cons_append, consume, ih]

/-- The sink `hold kept` has kept `kept`, oldest first, and it will keep whatever comes. Of each
command that comes it writes `report` to the log. -/
def Keeps {κ : Type} [Sink κ] (hold : List Command → κ) (report : Command → List Log.Record) :
    Prop :=
  ∀ (c : Command) (kept : List Command), c.applyTo (hold kept) = (hold (kept ++ [c]), report c)

namespace Keeps

variable {κ : Type} [Sink κ] {hold : List Command → κ} {report : Command → List Log.Record}

theorem deliver (h : Keeps hold report) (kept commands : List Command) :
    deliver (hold kept) commands = (hold (kept ++ commands), commands.flatMap report) := by
  induction commands generalizing kept with
  | nil => rw [List.append_nil]; rfl
  | cons c rest ih =>
    rw [Sink.deliver, h c kept, ih, List.append_assoc, List.flatMap_cons]
    rfl

theorem consume (h : Keeps hold report) (kept : List Command) (events : List Event) :
    consume (hold kept) events =
      (hold (kept ++ Event.commands events), events.flatMap (Event.reported report)) := by
  induction events generalizing kept with
  | nil => rw [Event.commands_nil, List.append_nil]; rfl
  | cons e rest ih =>
    cases e with
    | command c =>
      rw [Sink.consume, h c kept, ih, List.append_assoc]
      rfl
    | record r =>
      rw [Sink.consume, ih]
      rfl

theorem relay (h : Keeps hold report) : Keeps (fun kept => Relay.mk (hold kept)) report := by
  intro c kept
  rw [Relay.applyTo_eq, h c kept]
  rfl

theorem recording : Keeps Recording.mk fun _ => [] := fun c kept => Recording.applyTo_eq c ⟨kept⟩

theorem journal : Keeps Journal.mk fun c => [.received c] :=
  fun c kept => Journal.applyTo_eq c ⟨kept⟩

end Keeps

end Sink

/-! ## Runs -/

/-- What a run with a sink attached comes to. -/
structure Attached.Outcome (κ σ : Type) where
  /-- The value of each call, and the recognizer after it. -/
  replies : List (Answer × Recognizer σ)
  /-- The log of the run. -/
  log : List Log.Record
  /-- The sink at the end. -/
  sink : κ

namespace Attached

variable {κ σ γ : Type} [Sink κ]

/-- Recognizer and sink at the end of a run. -/
def after (step : Recognizer σ → γ → Reply σ Answer) (a : Attached κ σ) (calls : List γ) :
    Attached κ σ :=
  calls.foldl (fun current c => (current.perform step c).next) a

/-- What a run comes to. -/
def run (step : Recognizer σ → γ → Reply σ Answer) (a : Attached κ σ) (calls : List γ) :
    Outcome κ σ where
  replies := (a.replay step calls).map fun report => (report.value, report.next.recognizer)
  log := (a.replay step calls).flatMap (·.log)
  sink := (a.after step calls).sink

/-- It makes no difference to a sink whether it is fed call by call or with the run as a whole. -/
theorem after_and_log_eq (step : Recognizer σ → γ → Reply σ Answer) (a : Attached κ σ)
    (calls : List γ) :
    ((a.after step calls).sink, (a.replay step calls).flatMap (·.log)) =
      Sink.consume a.sink (Recognizer.emitted step a.recognizer calls) := by
  induction calls generalizing a with
  | nil => rfl
  | cons c rest ih =>
    -- The sink that the first call leaves is the one that the rest of the run feeds.
    let first := a.perform step c
    have hevents : Recognizer.emitted step a.recognizer (c :: rest) =
        (step a.recognizer c).events ++ Recognizer.emitted step first.next.recognizer rest := rfl
    have hfirst : Sink.consume a.sink (step a.recognizer c).events = (first.next.sink, first.log) :=
      rfl
    rw [hevents, Sink.consume_append, hfirst, ← ih first.next]
    rfl

/-- A run comes to what the recognizer does by itself, and to what the sink makes of its events. -/
theorem run_eq (step : Recognizer σ → γ → Reply σ Answer) (a : Attached κ σ) (calls : List γ) :
    let fed := Sink.consume a.sink (Recognizer.emitted step a.recognizer calls)
    a.run step calls =
      { replies := (Recognizer.replay step a.recognizer calls).map fun r => (r.value, r.next)
        log := fed.2
        sink := fed.1 } := by
  intro fed
  rw [run, recognizer_replay]
  exact congrArg (fun fed : κ × List Log.Record => Outcome.mk _ fed.2 fed.1)
    (after_and_log_eq step a calls)

variable {hold : List Command → κ} {report : Command → List Log.Record}

/-- What a run comes to if the sink keeps commands. -/
theorem run_of_keeps (h : Sink.Keeps hold report) (step : Recognizer σ → γ → Reply σ Answer)
    (r : Recognizer σ) (kept : List Command) (calls : List γ) :
    run step ⟨r, hold kept⟩ calls =
      { replies := (Recognizer.replay step r calls).map fun reply => (reply.value, reply.next)
        log := (Recognizer.emitted step r calls).flatMap (Event.reported report)
        sink := hold (kept ++ Recognizer.sentIn step r calls) } := by
  rw [run_eq, h.consume]
  rfl

end Attached

/-! ## Result -/

namespace Attached

open Recognizer

variable {σ γ : Type} [Scheduler σ]

/-- **The sinks agree.** A recording, a relay to one and a journal that have kept the same commands
take a list of commands. Each has kept the list then too, after what it kept before; the journal has
told the log of each command in turn, at info level, and the others have told it nothing. Now attach
them to a recognizer and let it run. With each of them every call gives the value, and leaves the
recognizer, that it gives and leaves without a sink; each keeps the commands that are sent; and the
log is the one of the recognizer, with the record of the journal at the place of each command.
Delivered to an empty recording, what was kept makes the same recording again. -/
theorem receivers_agree (h : Host σ γ) (config : Config) (timers : σ) (calls : List γ)
    (earlier : List Command) :
    (∀ commands,
      Sink.deliver (Recording.mk earlier) commands = (⟨earlier ++ commands⟩, []) ∧
      Sink.deliver (Relay.mk (Recording.mk earlier)) commands = (⟨⟨earlier ++ commands⟩⟩, []) ∧
      Sink.deliver (Journal.mk earlier) commands =
        (⟨earlier ++ commands⟩, commands.map .received) ∧
      (Sink.deliver (Journal.mk earlier) commands).2.map Log.Record.line =
        commands.map fun c => "INFO pointer command: " ++ c.describe) ∧
    let start := new config timers
    let replies := (Recognizer.replay h.step start calls).map fun reply => (reply.value, reply.next)
    let events := emitted h.step start calls
    let kept := earlier ++ sentIn h.step start calls
    run h.step ⟨start, Recording.mk earlier⟩ calls = ⟨replies, Event.records events, ⟨kept⟩⟩ ∧
    run h.step ⟨start, Relay.mk (Recording.mk earlier)⟩ calls =
      ⟨replies, Event.records events, ⟨⟨kept⟩⟩⟩ ∧
    run h.step ⟨start, Journal.mk earlier⟩ calls = ⟨replies, events.map Event.entry, ⟨kept⟩⟩ ∧
    Sink.deliver {} kept = (Recording.mk kept, []) := by
  have hsilent (commands : List Command) :
      (commands.flatMap fun _ => ([] : List Log.Record)) = [] := by simp
  have hjournal (commands : List Command) : Sink.deliver (Journal.mk earlier) commands =
      (⟨earlier ++ commands⟩, commands.map .received) := by
    rw [Sink.Keeps.journal.deliver, List.map_eq_flatMap]
  refine ⟨fun commands => ⟨?_, ?_, hjournal commands, ?_⟩, ?_⟩
  · rw [Sink.Keeps.recording.deliver, hsilent]
  · rw [Sink.Keeps.recording.relay.deliver, hsilent]
  · rw [hjournal, List.map_map]
    exact List.map_congr_left fun c _ => Log.Record.line_received c
  · intro start replies events kept
    refine ⟨?_, ?_, ?_, ?_⟩
    · rw [run_of_keeps .recording, Event.flatMap_reported_nothing]
    · rw [run_of_keeps (.relay .recording), Event.flatMap_reported_nothing]
    · rw [run_of_keeps .journal, Event.flatMap_reported_received]
    · rw [show ({} : Recording) = ⟨[]⟩ from rfl, Sink.Keeps.recording.deliver, hsilent]
      rfl

/-- A drag after a tap, in the log of a journal. -/
example :
    let tap := TimedCall.tapping ⟨10, 10⟩ 0 40
    let drag := [TimedCall.handleAt (.single .hoverEnter ⟨10, 10⟩ 60),
      .handleAt (.single .hoverMove ⟨12, 10⟩ 70)]
    let journaling : Attached Journal Queue := ⟨new {} (Queue.startingAt 0), {}⟩
    (((journaling.after performTimed tap).run performTimed drag).log.filter
        fun r => r.level ≠ .trace).map Log.Record.line =
      ["DEBUG state transition: IDLE -> HOVER_TRACKING (finger over pad)",
        "DEBUG state transition: HOVER_TRACKING -> DRAG_ACTIVE (tap then move)",
        "INFO pointer command: Press(Left)",
        "INFO pointer command: Move \x7b position: (12.0, 10.0), drag: true \x7d"] := by
  decide +kernel

end Attached

end Trackpad
