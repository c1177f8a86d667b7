import Trackpad.Recognizer.Timed

/-!
# Call — the calls a recognizer takes, as values

`Call` lists the calls that make sense over every scheduler, `TimedCall` those over a `Queue`. A run
is a list of calls; `replay` performs it from left to right and keeps the reply to each call, so
that what a run did can be read off the list.
-/

namespace Trackpad

/-- What a call gives back, whichever call it is. -/
inductive Answer where
  /-- Whether a sample was consumed, or a callback had an effect. -/
  | truth (b : Bool)
  /-- How many callbacks had an effect. -/
  | count (n : Nat)
  /-- Nothing to tell. -/
  | done
deriving DecidableEq

/-- A call that makes sense over every scheduler. -/
inductive Call where
  | handle (s : Sample)
  | onTimer (slot : Slot) (ticket : Ticket)
  | reset
deriving DecidableEq

/-- A call that makes sense over a queue. -/
inductive TimedCall where
  | plain (c : Call)
  | handleAt (s : Sample)
  | advanceTo (time : Time)
deriving DecidableEq

namespace Recognizer

/-- Performs a call. -/
def perform {σ : Type} [Scheduler σ] (r : Recognizer σ) : Call → Reply σ Answer
  | .handle s => (r.handle s).map .truth
  | .onTimer slot ticket => (r.onTimer slot ticket).map .truth
  | .reset => r.reset.map fun _ => .done

/-- Performs a call over a queue. -/
def performTimed (r : Recognizer Queue) : TimedCall → Reply Queue Answer
  | .plain c => r.perform c
  | .handleAt s => (r.handleAt s).map .truth
  | .advanceTo time => (r.advanceTo time).map .count

variable {σ γ : Type}

/-- Performs calls one after the other and keeps the replies. -/
def replay (step : Recognizer σ → γ → Reply σ Answer) (r : Recognizer σ) :
    List γ → List (Reply σ Answer)
  | [] => []
  | c :: rest =>
    let reply := step r c
    reply :: replay step reply.next rest

/-- The recognizer at the end of a run. -/
def after (step : Recognizer σ → γ → Reply σ Answer) (r : Recognizer σ) (calls : List γ) :
    Recognizer σ :=
  calls.foldl (fun current c => (step current c).next) r

/-- Everything that a run lets out, oldest first. -/
def emitted (step : Recognizer σ → γ → Reply σ Answer) (r : Recognizer σ) (calls : List γ) :
    List Event :=
  (replay step r calls).flatMap (·.events)

theorem after_append (step : Recognizer σ → γ → Reply σ Answer) (r : Recognizer σ)
    (first second : List γ) :
    after step r (first ++ second) = after step (after step r first) second := by
  simp [after]

end Recognizer

end Trackpad
