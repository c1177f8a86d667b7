import Trackpad.Proofs.Host

/-!
# Account — the log accounts for every change of state

Every change of the primary state is told to the log at debug level, with the state before it and
the state after it, and so is every reset of a gesture in flight. Nothing else is told at that
level. So a reader who starts at rest and goes where the records send it (`Log.follow`) never finds
a record that speaks of another state than the one it stands in, and after every call it stands in
the state of the recognizer.

`Turn.Accounted` says this of a turn. Each operation of a turn keeps it, a change of state by the
record that comes with it, and so does every reaction, which is a chain of operations.
-/

namespace Trackpad

/-! ## Reading the log -/

namespace Log

/-- Where a record of a change sends the reader who stands at `cursor`; `none` if it speaks of
another state, or of no change. -/
def Record.lead? (cursor : State) : Record → Option State
  | transition source target _ => if source = cursor then some target else none
  | reset source => if source = cursor ∧ source ≠ .idle then some .idle else none
  | classified .. | stale .. | unhandled _ | received _ => none

/-- The records of debug level. -/
def debugging (records : List Record) : List Record :=
  records.filter fun r => r.level = .debug

/-- Where the records of debug level send the reader, one after the other. -/
def follow (cursor : State) (records : List Record) : Option State :=
  (debugging records).foldlM Record.lead? cursor

/-- Texts that tell of changes, from one name of a state to another, each from where the last one
ended. -/
inductive Recounts : String → List String → String → Prop where
  | done (name : String) : Recounts name [] name
  | transition {source target last : String} {rest : List String} (reason : String)
      (h : Recounts target rest last) :
      Recounts source
        (("state transition: " ++ source ++ " -> " ++ target ++ " (" ++ reason ++ ")") :: rest) last
  | reset {source last : String} {rest : List String} (hsource : source ≠ "IDLE")
      (h : Recounts "IDLE" rest last) :
      Recounts source (("context reset from " ++ source) :: rest) last

variable {cursor next last : State} {records : List Record}

@[simp] theorem follow_nil (cursor : State) : follow cursor [] = some cursor := rfl

theorem follow_append (cursor : State) (first second : List Record) :
    follow cursor (first ++ second) = (follow cursor first).bind fun c => follow c second := by
  simp only [follow, debugging, List.filter_append, List.foldlM_append]
  rfl

/-- Records of other levels are passed over. -/
theorem follow_singleton_of_level {r : Record} (h : r.level ≠ .debug) (cursor : State) :
    follow cursor [r] = some cursor := by
  simp [follow, debugging, h]

theorem follow_transition (source target : State) (reason : String) :
    follow source [.transition source target reason] = some target := by
  simp [follow, debugging, Record.level, Record.lead?]

theorem follow_reset {source : State} (h : source ≠ .idle) :
    follow source [.reset source] = some .idle := by
  simp [follow, debugging, Record.level, Record.lead?, h]

/-- What a record that leads on says. -/
theorem Recounts.of_lead? {r : Record} {name : String} {rest : List String}
    (hlead : r.lead? cursor = some next) (h : Recounts next.name rest name) :
    Recounts cursor.name (r.text :: rest) name := by
  cases r with
  | transition source target reason =>
    simp only [Record.lead?, Option.ite_none_right_eq_some, Option.some.injEq] at hlead
    obtain ⟨rfl, rfl⟩ := hlead
    exact .transition reason h
  | reset source =>
    simp only [Record.lead?, Option.ite_none_right_eq_some, Option.some.injEq] at hlead
    obtain ⟨⟨rfl, hidle⟩, rfl⟩ := hlead
    exact .reset (fun hname => hidle (State.name_injective hname)) h
  | classified _ _ _ | stale _ _ | unhandled _ | received _ => cases hlead

/-- What the records of debug level say, if they can be followed. -/
theorem recounts_of_follow (h : follow cursor records = some last) :
    Recounts cursor.name ((debugging records).map Record.text) last.name := by
  unfold follow at h
  generalize debugging records = told at h
  induction told generalizing cursor with
  | nil =>
    cases h
    exact .done _
  | cons r rest ih =>
    rw [List.foldlM_cons] at h
    obtain ⟨next, hlead, hrest⟩ := Option.bind_eq_some_iff.1 h
    exact .of_lead? hlead (ih hrest)

end Log

/-! ## Reactions -/

section

variable {σ : Type}

theorem Turn.records_log (t : Turn σ) (r : Log.Record) :
    Event.records (t.log r).trace = Event.records t.trace ++ [r] := by
  simp [Turn.log, Turn.tell, Event.records, Event.record?]

/-- What a turn has told the log leads from the state `source` to the state of the turn. -/
def Turn.Accounted (source : State) (t : Turn σ) : Prop :=
  Log.follow source (Event.records t.trace) = some t.state

namespace Turn.Accounted

variable {source : State} {t u : Turn σ}

/-- What changes neither the state nor the trace. -/
theorem of_same (h : t.Accounted source) (hstate : u.state = t.state) (htrace : u.trace = t.trace) :
    u.Accounted source := by
  unfold Accounted
  rw [hstate, htrace]
  exact h

theorem emit (h : t.Accounted source) (c : Command) : (t.emit c).Accounted source := by
  have hrecords : Event.records (t.emit c).trace = Event.records t.trace := by
    simp [Turn.emit, Turn.tell, Event.records, Event.record?]
  unfold Accounted
  rw [hrecords]
  exact h

theorem log (h : t.Accounted source) {r : Log.Record} (hr : r.level ≠ .debug) :
    (t.log r).Accounted source := by
  unfold Accounted at h ⊢
  rw [Turn.records_log, Log.follow_append, h]
  exact Log.follow_singleton_of_level hr t.state

/-- A change of state comes with a record of it. -/
theorem transition (h : t.Accounted source) (target : State) (reason : String) :
    (t.transition target reason).Accounted source := by
  unfold Accounted at h ⊢
  show Log.follow source
    (Event.records (t.log (.transition t.state target reason)).trace) = some target
  rw [Turn.records_log, Log.follow_append, h]
  exact Log.follow_transition t.state target reason

theorem pressPad (h : t.Accounted source) (reason : String) :
    (t.pressPad reason).Accounted source :=
  .emit (.transition h _ _) _

theorem classify (h : t.Accounted source) (s : Sample) : (t.classify s).Accounted source :=
  .log (.of_same h rfl rfl) nofun

theorem beginPinch (h : t.Accounted source) (s : Sample) : (t.beginPinch s).Accounted source :=
  .of_same (.transition h _ _) rfl rfl

theorem scrollTo (h : t.Accounted source) (s : Sample) : (t.scrollTo s).Accounted source := by
  obtain ⟨p, -, hscroll⟩ := t.scrollTo_eq s
  rw [hscroll]
  exact .of_same (h.emit _) rfl rfl

theorem pinchTo (h : t.Accounted source) (s : Sample) : (t.pinchTo s).Accounted source := by
  obtain ⟨p, hstill | ⟨step, hzoom⟩⟩ := t.pinchTo_eq s
  · rw [hstill]
    exact .of_same h rfl rfl
  · rw [hzoom]
    exact .of_same (h.emit _) rfl rfl

theorem endPinch (h : t.Accounted source) (reason : String) :
    (t.endPinch reason).Accounted source :=
  .transition (.of_same h rfl rfl) _ _

variable [Scheduler σ]

theorem begins {s : Sample} (h : t.Accounted source) (hbegins : t.Begins s u) :
    u.Accounted source := by
  have htouched : (t.update (·.touch s.position s.time)).Accounted source := .of_same h rfl rfl
  cases hbegins with
  | tap _ | pinch _ => exact htouched.transition _ _
  | two _ => exact .of_same (htouched.transition _ _) rfl rfl
  | press _ => exact htouched.pressPad _
  | nothing _ => exact htouched

theorem acceptTap (h : t.Accounted source) (s : Sample) : (t.acceptTap s).Accounted source :=
  .transition (.of_same h rfl rfl) _ _

theorem beginDrag (h : t.Accounted source) (s : Sample) : (t.beginDrag s).Accounted source := by
  have hcleared : (((t.update fun c => { c with window := .idle }).disarm .doubleTapExpiry).disarm
      .delayedClick).Accounted source := .of_same h rfl rfl
  have hdragging := hcleared.transition .dragActive "tap then move"
  have hmoved := (hdragging.emit (.press .left)).emit (.move s.position true)
  exact .of_same hmoved rfl rfl

theorem endDrag (h : t.Accounted source) (reason : String) : (t.endDrag reason).Accounted source :=
  .transition (.of_same (.emit (.of_same h rfl rfl) _) rfl rfl) _ _

theorem dropTwoFingerTap (h : t.Accounted source) : t.dropTwoFingerTap.Accounted source :=
  .of_same h rfl rfl

/-- A reset is told unless the reader stands at rest, where it leads. -/
theorem reset (h : t.Accounted source) : t.reset.Accounted source := by
  have hstopped : t.disarmAll.Accounted source := .of_same h rfl rfl
  unfold Accounted at hstopped ⊢
  by_cases hidle : t.state = .idle
  · simp only [Turn.reset, if_pos hidle]
    exact hstopped.trans (congrArg some hidle)
  · simp only [Turn.reset, if_neg hidle]
    show Log.follow source (Event.records (t.disarmAll.log (.reset t.state)).trace) = some .idle
    rw [Turn.records_log, Log.follow_append, hstopped]
    exact Log.follow_reset hidle

/-- Whatever a handler makes of a sample. -/
theorem reacts {s : Sample} {state : State} {outcome : Bool × Turn σ} (h : t.Accounted source)
    (hreacts : t.Reacts s state outcome) : outcome.2.Accounted source := by
  cases hreacts with
  | ignored _ | jittered _ _ | kept _ | thinned _ _ => exact h
  | touched _ hbegins => exact h.begins hbegins
  | approached _ | slid _ _ | strayed _ _ | withdrawn _ | finished _ => exact h.transition _ _
  | departed _ | taken _ => exact .transition (.of_same h rfl rfl) _ _
  | pressed _ => exact h.pressPad _
  | pointed _ _ | held _ => exact h.emit _
  | grabbed _ _ => exact h.beginDrag s
  | dragged _ => exact .of_same (h.emit _) rfl rfl
  | dropped _ => exact h.endDrag _
  | tapped _ _ => exact h.acceptTap s
  | clicked _ _ => exact .transition (.dropTwoFingerTap (h.emit _)) _ _
  | lifted _ _ => exact h.dropTwoFingerTap.transition _ _
  | moved _ => exact .scrollTo (h.dropTwoFingerTap.transition _ _) s
  | wheeled _ => exact h.scrollTo s
  | pinched _ _ => exact h.pinchTo s
  | parted _ _ | ended _ => exact h.endPinch _
  | released _ => exact .transition (h.emit _) _ _

theorem dispatch (h : t.Accounted source) (s : Sample) :
    (Registry.standard.dispatch s t).2.Accounted source := by
  obtain ⟨label, hreacts⟩ := t.reacts_dispatch s
  have hnoted : (t.noteSample label s).Accounted source := .of_same h rfl rfl
  exact hnoted.reacts hreacts

/-- Whatever a sample leads to. -/
theorem route (h : t.Accounted source) (s : Sample) :
    (t.route .standard s).2.Accounted source := by
  have hroutes := t.routes s
  generalize (t.route .standard s).2 = u at hroutes ⊢
  cases hroutes with
  | ignored => exact h
  | pinched _ _ => exact h.beginPinch s
  | pressed _ => exact .of_same (h.pressPad _) rfl rfl
  | dropped _ => exact h.reset
  | lifted _ => exact h.dispatch s
  | handed _ => exact (h.classify s).dispatch s

/-- Whatever a callback leads to, live or stale. -/
theorem deliver (h : t.Accounted source) (slot : Slot) (ticket : Ticket) :
    (t.deliver slot ticket).2.Accounted source := by
  simp only [Turn.deliver]
  split
  · exact h.log (by simp [Log.Record.level])
  · rename_i slots _
    have haccepted : ((t.update fun c => { c with slots := slots }).note
        ("timer " ++ slot.title)).Accounted source := .of_same h rfl rfl
    cases slot with
    | delayedClick =>
      simp only [Turn.expire, Turn.onDelayedClick]
      split
      · exact haccepted
      · exact haccepted.emit _
    | doubleTapExpiry =>
      simp only [Turn.expire, Turn.onDoubleTapExpiry]
      split
      · exact .of_same haccepted rfl rfl
      · exact haccepted
    | twoFingerTapExpiry => exact .of_same haccepted rfl rfl
    | dragTimeout =>
      simp only [Turn.expire, Turn.onDragTimeout]
      split
      · exact haccepted.endDrag _
      · exact haccepted

end Turn.Accounted

end

/-! ## Calls and runs -/

namespace Recognizer

variable {σ : Type} [Scheduler σ]

omit [Scheduler σ] in
/-- No record is told yet, and none is needed. -/
theorem accounted_turn (r : Recognizer σ) : r.turn.Accounted r.state := Log.follow_nil r.state

theorem follow_idles {r q : Recognizer σ} {told : List Event} (h : r.Idles told q) :
    Log.follow r.state (Event.records told) = some q.state := by
  induction h with
  | start => rfl
  | clock _ _ ih => exact ih
  | @callback _ p slot ticket _ ih =>
    rw [Event.records_append, Log.follow_append, ih]
    exact p.accounted_turn.deliver slot ticket

theorem follow_grant {r : Recognizer σ} (hb : r.handlers = .standard) (req : Request) :
    Log.follow r.state (Event.records (r.grant req).events) = some (r.grant req).next.state := by
  cases req with
  | nothing => rfl
  | sample s =>
    rw [grant_sample hb]
    exact r.accounted_turn.route s
  | reset => exact r.accounted_turn.reset

end Recognizer

namespace Host

open Recognizer

variable {σ γ : Type} [Scheduler σ] {h : Host σ γ} {r : Recognizer σ}

theorem follow_step (hb : r.handlers = .standard) (c : γ) :
    Log.follow r.state (Event.records (h.step r c).events) = some (h.step r c).next.state := by
  have hidles := h.idles r c
  rw [h.events_step, h.next_step, Event.records_append, Log.follow_append, follow_idles hidles]
  exact follow_grant (hidles.handlers.trans hb) (h.request c)

/-- From call to call the reader stands where the recognizer does. -/
theorem follow_emitted (hb : r.handlers = .standard) (calls : List γ) :
    Log.follow r.state (Event.records (emitted h.step r calls)) =
      some (after h.step r calls).state := by
  induction calls generalizing r with
  | nil => rfl
  | cons c rest ih =>
    have hfirst : emitted h.step r (c :: rest) =
        (h.step r c).events ++ emitted h.step (h.step r c).next rest := rfl
    rw [hfirst, Event.records_append, Log.follow_append, follow_step hb c]
    exact ih ((h.handlers_step r c).trans hb)

end Host

/-! ## Result -/

namespace Recognizer

variable {σ γ : Type} [Scheduler σ]

/-- **The log accounts for the state.** Take any run and read its records of debug level in order,
standing at rest first. Each record tells of a change from the state the reader stands in, or of a
reset from it, if it is not rest; no other record is of that level; and at the end, that is after
every call, the reader stands in the state of the recognizer. The texts of these records say so, by
the names of the states. -/
theorem log_accounts_for_state (h : Host σ γ) (config : Config) (timers : σ) (calls : List γ) :
    let start := new config timers
    let told := Event.records (emitted h.step start calls)
    let q := after h.step start calls
    Log.follow .idle told = some q.state ∧
      Log.Recounts "IDLE" ((Log.debugging told).map Log.Record.text) q.state.name := by
  intro start told q
  have hfollow : Log.follow .idle told = some q.state :=
    Host.follow_emitted (r := new config timers) rfl calls
  exact ⟨hfollow, Log.recounts_of_follow hfollow⟩

/-- A tap that becomes a drag, which times out, and a reset. -/
example :
    let tap := TimedCall.tapping ⟨10, 10⟩ 0 40
    let drag := [TimedCall.handleAt (.single .hoverEnter ⟨10, 10⟩ 60),
      .handleAt (.single .hoverMove ⟨12, 10⟩ 70), .advanceTo 300, .plain .reset]
    let told := Event.records (emitted performTimed (new {} (Queue.startingAt 0)) (tap ++ drag))
    (Log.debugging told).map Log.Record.line =
      ["DEBUG state transition: IDLE -> SINGLE_TAP_PENDING (single tap pending)",
        "DEBUG state transition: SINGLE_TAP_PENDING -> IDLE (tap)",
        "DEBUG state transition: IDLE -> HOVER_TRACKING (finger over pad)",
        "DEBUG state transition: HOVER_TRACKING -> DRAG_ACTIVE (tap then move)",
        "DEBUG state transition: DRAG_ACTIVE -> HOVER_TRACKING (drag timeout)",
        "DEBUG context reset from HOVER_TRACKING"] := by
  decide +kernel

end Recognizer

end Trackpad
