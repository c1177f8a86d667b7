import Trackpad.Output.Sink
import Trackpad.Recognizer.Call

/-!
# Attached — a recognizer and the sink it feeds

Recognition never looks at the sink. `Attached.feed` takes the reply of a call and hands its events
to the sink, which gives the log of the call: the records of recognition and those of the sink, in
the order they happen in.
-/

namespace Trackpad

/-- A recognizer and the sink it feeds. -/
structure Attached (κ σ : Type) where
  recognizer : Recognizer σ
  sink : κ

/-- What a call gives back, with a sink attached. -/
structure Attached.Report (κ σ α : Type) where
  /-- The value of the call. -/
  value : α
  /-- The log of the call. -/
  log : List Log.Record
  /-- Recognizer and sink after the call. -/
  next : Attached κ σ

namespace Attached

variable {κ σ α : Type} [Sink κ]

/-- Feeds the sink with the events of a reply. -/
def feed (sink : κ) (reply : Reply σ α) : Report κ σ α :=
  let fed := Sink.consume sink reply.events
  { value := reply.value, log := fed.2, next := ⟨reply.next, fed.1⟩ }

/-- Performs a call and feeds the sink. -/
def perform {γ : Type} (step : Recognizer σ → γ → Reply σ Answer) (a : Attached κ σ) (call : γ) :
    Report κ σ Answer :=
  feed a.sink (step a.recognizer call)

/-- Performs calls one after the other and keeps the reports. -/
def replay {γ : Type} (step : Recognizer σ → γ → Reply σ Answer) (a : Attached κ σ) :
    List γ → List (Report κ σ Answer)
  | [] => []
  | c :: rest =>
    let report := a.perform step c
    report :: replay step report.next rest

/-- The recognizer goes its way whatever sink is attached. -/
theorem recognizer_replay {γ : Type} (step : Recognizer σ → γ → Reply σ Answer)
    (a : Attached κ σ) (calls : List γ) :
    (a.replay step calls).map (fun report => (report.value, report.next.recognizer)) =
      (Recognizer.replay step a.recognizer calls).map fun reply => (reply.value, reply.next) := by
  induction calls generalizing a with
  | nil => rfl
  | cons c rest ih => simp [replay, Recognizer.replay, ih, perform, feed]

end Attached

end Trackpad
