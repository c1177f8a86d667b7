import Trackpad.Proofs.Batch
import Trackpad.Proofs.Stale
import Trackpad.Recognizer.Attached

/-!
# Reset — everything ends, from any state

A reset, or a cancel of the platform, takes back every callback that is live, and no other: what a
host has scheduled on its own stays pending, in its order (`Slots.timers_disarmAll`). Of the context
only the capacity of the history is left.

From there every callback is stale, whoever delivers it. A host's entries may still come due, and
the clock may go as far as it likes: nothing is answered but false and zero, and nothing is sent
(`Recognizer.Inert`). That lasts until a sample arms a slot, because nothing else can
(`Recognizer.slots_after_of_unarmed`). Neither the registry nor what the context held before makes
any difference.
-/

namespace Trackpad

/-! ## Taking back what is live -/

namespace Slots

/-- A slot holds the ticket. -/
def Holds (s : Slots) (ticket : Ticket) : Prop := ∃ slot ∈ Slot.all, s.get? slot = some ticket

instance (s : Slots) (ticket : Ticket) : Decidable (s.Holds ticket) :=
  inferInstanceAs (Decidable (∃ slot ∈ Slot.all, s.get? slot = some ticket))

@[simp] theorem get?_empty (slot : Slot) : ({} : Slots).get? slot = none := by
  cases slot <;> rfl

theorem not_holds_empty (ticket : Ticket) : ¬({} : Slots).Holds ticket := by
  rintro ⟨slot, -, hlive⟩
  rw [get?_empty] at hlive
  cases hlive

/-- A disarmed slot takes back the callback that it holds, and the queue keeps the others. -/
theorem timers_disarm (s : Slots) (slot : Slot) (q : Queue) :
    (s.disarm slot q).2 =
      { q with pending := q.pending.filter fun c => s.get? slot ≠ some c.ticket } := by
  unfold disarm
  split
  · rename_i ticket hlive
    have hcancel (c : Callback) :
        decide (c.ticket ≠ ticket) = decide (s.get? slot ≠ some c.ticket) := by
      rw [hlive, decide_eq_decide, ne_eq, ne_eq, Option.some.injEq, eq_comm]
    show { q with pending := q.pending.filter fun c => decide (c.ticket ≠ ticket) } = _
    simp only [hcancel]
  · rename_i hnone
    have hall : q.pending.filter (fun c => s.get? slot ≠ some c.ticket) = q.pending :=
      List.filter_eq_self.2 fun c _ => by simp [hnone]
    rw [hall]

/-- Slots that are disarmed one after the other take back what each of them held at first. -/
theorem timers_foldl_disarm (slots : List Slot) (s : Slots) (q : Queue) :
    (slots.foldl (fun acc slot => acc.1.disarm slot acc.2) (s, q)).2 =
      { q with pending := q.pending.filter fun c => ∀ slot ∈ slots, s.get? slot ≠ some c.ticket } := by
  induction slots generalizing s q with
  | nil => simp
  | cons slot rest ih =>
    -- A slot that comes a second time is empty by then, and has been seen to already.
    have hrest (c : Callback) :
        ((∀ other ∈ rest, (s.disarm slot q).1.get? other ≠ some c.ticket) ∧
          s.get? slot ≠ some c.ticket) ↔
            ∀ other ∈ slot :: rest, s.get? other ≠ some c.ticket := by
      rw [List.forall_mem_cons, and_comm]
      refine and_congr_right fun hslot => forall₂_congr fun other _ => ?_
      by_cases hother : other = slot
      · subst hother
        simp [hslot]
      · rw [get?_disarm_ne s hother]
    show (rest.foldl (fun acc slot => acc.1.disarm slot acc.2)
      ((s.disarm slot q).1, (s.disarm slot q).2)).2 = _
    rw [ih, timers_disarm]
    simp only [List.filter_filter, ← Bool.decide_and, hrest]

/-- All slots together take back exactly what they hold. -/
theorem timers_disarmAll (s : Slots) (q : Queue) :
    (s.disarmAll q).2 = { q with pending := q.pending.filter fun c => ¬s.Holds c.ticket } := by
  have hheld (c : Callback) :
      (∀ slot ∈ Slot.all, s.get? slot ≠ some c.ticket) ↔ ¬s.Holds c.ticket := by
    simp only [Holds, not_exists, not_and, ne_eq]
  rw [disarmAll, timers_foldl_disarm]
  simp only [hheld]

end Slots

namespace Recognizer

/-- The recognizer that is left when everything is dropped. -/
def stopped (r : Recognizer Queue) : Recognizer Queue :=
  { r with
    context := .fresh r.context.history.capacity
    timers :=
      { r.timers with pending := r.timers.pending.filter fun c => ¬r.context.slots.Holds c.ticket } }

theorem next_reset (r : Recognizer Queue) : r.reset.next = r.stopped := by
  have htimers : r.turn.reset.timers = (r.context.slots.disarmAll r.timers).2 :=
    congrArg Stance.timers r.turn.stance_reset
  have hcontext : r.turn.reset.context = .fresh r.context.history.capacity := by
    simp only [Turn.reset]
    split <;> rfl
  show { r with context := r.turn.reset.context, timers := r.turn.reset.timers } = r.stopped
  rw [hcontext, htimers, Slots.timers_disarmAll]
  rfl

/-- Where nothing is live there is nothing to drop. -/
theorem stopped_stopped (r : Recognizer Queue) : r.stopped.stopped = r.stopped := by
  have hall : r.stopped.timers.pending.filter (fun c => ¬r.stopped.context.slots.Holds c.ticket) =
      r.stopped.timers.pending :=
    List.filter_eq_self.2 fun c _ => decide_eq_true (Slots.not_holds_empty c.ticket)
  rw [stopped, hall]
  rfl

/-! ## Nothing is live -/

/-- Nothing comes of any callback: neither of one that a host delivers, nor of those that the clock
delivers when it is advanced, which only leave the queue. -/
structure Inert (r : Recognizer Queue) : Prop where
  onTimer : ∀ slot ticket, (⟨slot, ticket, r⟩ : Delivery).IsDropped
  advanceTo : ∀ time, (r.advanceTo time).value = 0 ∧ (r.advanceTo time).sent = [] ∧
    (r.advanceTo time).next = r.withTimers (r.timers.advanceTo time).2

theorem isDropped_of_empty {r : Recognizer Queue} (h : r.context.slots = {}) (slot : Slot)
    (ticket : Ticket) : (⟨slot, ticket, r⟩ : Delivery).IsDropped := by
  refine Delivery.isDropped_of_not_isAccepted fun haccepted => ?_
  have hlive : r.context.slots.get? slot = some ticket := Delivery.isAccepted_iff.1 haccepted
  rw [h, Slots.get?_empty] at hlive
  cases hlive

theorem deliverAll_of_empty {r : Recognizer Queue} (h : r.context.slots = {})
    (cs : List Callback) :
    (r.deliverAll cs).value = 0 ∧ (r.deliverAll cs).sent = [] ∧ (r.deliverAll cs).next = r := by
  induction cs with
  | nil => exact ⟨rfl, rfl, rfl⟩
  | cons c rest ih =>
    obtain ⟨hvalue, hnext, hsent⟩ : (r.onTimer c.slot c.ticket).value = false ∧
        (r.onTimer c.slot c.ticket).next = r ∧ (r.onTimer c.slot c.ticket).sent = [] :=
      isDropped_of_empty h c.slot c.ticket
    have hothers : r.deliverAll (c :: rest) =
        (r.onTimer c.slot c.ticket).followedBy (r.deliverAll rest) := by
      rw [deliverAll, hnext]
    refine ⟨?_, ?_, ?_⟩
    · rw [hothers, Reply.followedBy, hvalue, ih.1]
      rfl
    · rw [hothers, Reply.sent_followedBy, hsent, ih.2.1]
      rfl
    · rw [hothers]
      exact ih.2.2

theorem inert_of_empty {r : Recognizer Queue} (h : r.context.slots = {}) : r.Inert where
  onTimer := isDropped_of_empty h
  advanceTo := by
    intro time
    rw [advanceTo_eq_deliverAll]
    exact deliverAll_of_empty (r := r.withTimers (r.timers.advanceTo time).2) h _

/-- No sample of the run leaves a slot armed. -/
def Unarmed : Recognizer Queue → List TimedCall → Prop
  | _, [] => True
  | r, c :: rest =>
    (c.sample? ≠ none → (r.performTimed c).next.context.slots = {}) ∧
      Unarmed (r.performTimed c).next rest

/-- Without a sample no slot is armed. -/
theorem slots_performTimed_of_empty {r : Recognizer Queue} (h : r.context.slots = {})
    {c : TimedCall} (hc : c.sample? = none) : (r.performTimed c).next.context.slots = {} := by
  cases c with
  | plain call =>
    cases call with
    | handle s => cases hc
    | onTimer slot ticket =>
      have hnext : (r.onTimer slot ticket).next = r := ((inert_of_empty h).onTimer slot ticket).2.1
      show (r.onTimer slot ticket).next.context.slots = {}
      rw [hnext, h]
    | reset =>
      show r.reset.next.context.slots = {}
      rw [next_reset]
      rfl
  | handleAt s => cases hc
  | advanceTo time =>
    have hnext := ((inert_of_empty h).advanceTo time).2.2
    show (r.advanceTo time).next.context.slots = {}
    rw [hnext]
    exact h

theorem slots_after_of_unarmed {r : Recognizer Queue} (h : r.context.slots = {})
    {calls : List TimedCall} (unarmed : Unarmed r calls) :
    (after performTimed r calls).context.slots = {} := by
  induction calls generalizing r with
  | nil => exact h
  | cons c rest ih =>
    obtain ⟨hsample, hrest⟩ := unarmed
    have hnext : (r.performTimed c).next.context.slots = {} := by
      by_cases hc : c.sample? = none
      · exact slots_performTimed_of_empty h hc
      · exact hsample hc
    exact ih hnext hrest

end Recognizer

/-! ## The calls that drop everything -/

/-- The call drops everything: a reset, or a sample with which the platform cancels. -/
def Call.Drops : Call → Prop
  | reset => True
  | handle s => s.action = .cancel
  | onTimer .. => False

namespace Recognizer

theorem perform_of_drops (r : Recognizer Queue) {c : Call} (h : c.Drops) :
    (r.perform c).next = r.stopped ∧ (r.perform c).sent = [] := by
  cases c with
  | reset => exact ⟨r.next_reset, r.reset_does.2⟩
  | handle s =>
    obtain ⟨hnext, hsent⟩ := r.handle_of_cancel h
    exact ⟨hnext.trans r.next_reset, hsent⟩
  | onTimer slot ticket => exact h.elim

end Recognizer

theorem Attached.sink_feed_of_quiet {κ σ α : Type} [Sink κ] (sink : κ) {reply : Reply σ α}
    (h : reply.sent = []) : (feed sink reply).next.sink = sink := by
  have hcommands : Event.commands reply.events = [] := h
  show (Sink.consume sink reply.events).1 = sink
  rw [Sink.consume_fst, hcommands]
  rfl

namespace Recognizer

/-- **A reset ends everything.** Whatever context, registry, configuration and queue a recognizer
has, after a reset, or a sample with which the platform cancels: nothing is sent, and whatever sink
is attached stays as it is. The context is a fresh one, with the old capacity of the history. The
queue has lost the callbacks whose tickets were live, and no other: the rest is there in its order,
and the clock and the counter of tickets stand where they stood. From there, in every run, as long
as no sample arms a slot: a callback that a host delivers is answered with false, changes nothing
and sends nothing, and advancing the clock counts no callback, sends nothing, and changes nothing
but the queue. To drop everything a second time changes nothing. -/
theorem reset_ends_everything (r : Recognizer Queue) (c : Call) (drops : c.Drops) :
    let reply := r.perform c
    reply.sent = [] ∧
    (∀ (κ : Type) [Sink κ] (sink : κ), (Attached.feed sink reply).next.sink = sink) ∧
    reply.next.context = .fresh r.context.history.capacity ∧
    reply.next.timers = { r.timers with
      pending := r.timers.pending.filter fun e => ¬r.context.slots.Holds e.ticket } ∧
    (∀ calls, Unarmed reply.next calls → (after performTimed reply.next calls).Inert) ∧
    ∀ again : Call, again.Drops →
      (reply.next.perform again).next = reply.next ∧ (reply.next.perform again).sent = [] := by
  intro reply
  obtain ⟨hnext, hsent⟩ : reply.next = r.stopped ∧ reply.sent = [] := r.perform_of_drops drops
  rw [hnext]
  refine ⟨hsent, fun κ _ sink => Attached.sink_feed_of_quiet sink hsent, rfl, rfl,
    fun calls unarmed => ?_, fun again hagain => ?_⟩
  · exact inert_of_empty (slots_after_of_unarmed rfl unarmed)
  · obtain ⟨hsecond, hquiet⟩ := r.stopped.perform_of_drops hagain
    exact ⟨hsecond.trans r.stopped_stopped, hquiet⟩

/-- A drag is cancelled while a tap waits and a host has callbacks of its own in the queue, one of
them for the slot of the drag. They come due later, and nothing comes of them. -/
theorem reset_ends_everything_in_drag :
    let r : Recognizer Queue := {
      config := {}
      context := { state := .dragActive, window := .armed 90, slots :=
        { delayedClick := some ⟨7⟩, doubleTapExpiry := some ⟨8⟩, dragTimeout := some ⟨3⟩ } }
      handlers := .empty
      timers := { now := 50, nextId := 9, pending :=
        [⟨.dragTimeout, ⟨5⟩, 60⟩, ⟨.dragTimeout, ⟨3⟩, 70⟩, ⟨.delayedClick, ⟨7⟩, 80⟩,
          ⟨.delayedClick, ⟨2⟩, 65⟩, ⟨.doubleTapExpiry, ⟨8⟩, 90⟩] } }
    let cancelled := (r.perform (.handle (.single .cancel ⟨10, 10⟩ 55))).next
    let later := after performTimed cancelled
      [.plain (.onTimer .dragTimeout ⟨3⟩), .handleAt (.single .hoverMove ⟨10, 10⟩ 62)]
    cancelled.timers.pending = [⟨.dragTimeout, ⟨5⟩, 60⟩, ⟨.delayedClick, ⟨2⟩, 65⟩] ∧
      (later.onTimer .delayedClick ⟨7⟩).value = false ∧ (later.advanceTo 200).value = 0 ∧
      (later.advanceTo 200).sent = [] := by
  intro r cancelled later
  have hended := reset_ends_everything r (.handle (.single .cancel ⟨10, 10⟩ 55)) rfl
  obtain ⟨-, -, -, htimers, hinert, -⟩ := hended
  have hlater : later.Inert :=
    hinert [.plain (.onTimer .dragTimeout ⟨3⟩), .handleAt (.single .hoverMove ⟨10, 10⟩ 62)]
      ⟨fun hsample => absurd rfl hsample, fun _ => by decide +kernel, trivial⟩
  obtain ⟨hvalue, hsent, -⟩ := hlater.advanceTo 200
  refine ⟨?_, (hlater.onTimer .delayedClick ⟨7⟩).1, hvalue, hsent⟩
  rw [htimers]
  decide +kernel

end Recognizer

end Trackpad
