import Trackpad.Recognizer.Basic
import Trackpad.Timing.Queue

/-!
# Timed — a recognizer that keeps its own clock

Over a `Queue`, a recognizer can deliver its own callbacks: `advanceTo` delivers everything that is
due by a time, one by one, and then moves the clock there; `handleAt` does so for the time of a
sample and then takes the sample. No callback schedules another, so at most as many are delivered as
were pending, and that number bounds the recursion (`drain`).
-/

namespace Trackpad.Recognizer

/-- Delivers what is due by `time`, at most `fuel` callbacks, and counts those that had an
effect. -/
def drain (time : Time) : Nat → Recognizer Queue → Reply Queue Nat
  | 0, r => ⟨0, [], r⟩
  | fuel + 1, r =>
    match r.timers.popDue? time with
    | none => ⟨0, [], r⟩
    | some (c, rest) =>
      let first := { r with timers := rest }.onTimer c.slot c.ticket
      let others := drain time fuel first.next
      ⟨(if first.value then 1 else 0) + others.value, first.events ++ others.events, others.next⟩

/-- Moves the clock and delivers nothing. -/
def moveTo (r : Recognizer Queue) (time : Time) : Recognizer Queue :=
  { r with timers := r.timers.moveTo time }

/-- Delivers what is due by `time`, by deadline, and moves the clock there. The value is the number
of callbacks that had an effect. -/
def advanceTo (r : Recognizer Queue) (time : Time) : Reply Queue Nat :=
  let drained := drain time r.timers.pending.length r
  { drained with next := drained.next.moveTo time }

/-- Advances to the time of a sample, then takes it. -/
def handleAt (r : Recognizer Queue) (s : Sample) : Reply Queue Bool :=
  let advanced := r.advanceTo s.time
  let handled := advanced.next.handle s
  { handled with events := advanced.events ++ handled.events }

end Trackpad.Recognizer
