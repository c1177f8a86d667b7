import Trackpad.Proofs.Exchange
import Trackpad.Proofs.Twins

/-!
# Diagnostics — what is kept for information steers nothing

The capacity of the debug history and the double-tap timeout of the platform are kept for hosts to
look at, and of the flags of a sample recognition reads one bit. Two runs that differ in nothing
else have the same effect, call by call, the histories apart (`Difference.effect_eq`). And the
histories differ in length only: the one of the smaller capacity is the end of the other
(`History.Trails.push`).
-/

namespace Trackpad

/-- Samples that differ in flags at most, and not in the one that has a meaning. -/
def Sample.SameButFlags (s s' : Sample) : Prop :=
  s' = s.withFlags s'.flags ∧
    s'.flags.bits &&& SampleFlags.twoFinger.bits = s.flags.bits &&& SampleFlags.twoFinger.bits

theorem Sample.SameButFlags.resembles {s s' : Sample} (h : s.SameButFlags s') :
    s.Resembles s' := by
  obtain ⟨hsame, hflag⟩ := h
  have htwo : s'.isTwoFinger = s.isTwoFinger := by
    unfold isTwoFinger Mask.contains
    rw [hflag]
  rw [hsame] at htwo ⊢
  exact ⟨rfl, rfl, rfl, rfl, rfl, htwo⟩

/-! ## Histories of different capacities -/

namespace History

/-- The last `n` entries, or all if there are fewer. -/
def latest (h : History) (n : Nat) : List String :=
  h.entries.drop (h.entries.length - min n h.entries.length)

theorem latest_eq_drop (h : History) (n : Nat) :
    h.latest n = h.entries.drop (h.entries.length - n) := by
  rw [latest]
  congr 1
  omega

/-- The history of the smaller capacity is the end of the other. -/
structure Trails (small large : Nat) (h h' : History) : Prop where
  capacity : h.capacity = small
  capacity' : h'.capacity = large
  entries : h.entries = h'.latest small

theorem Trails.push {small large : Nat} (hle : small ≤ large) {h h' : History}
    (ht : Trails small large h h') (entry : String) :
    Trails small large (h.push entry) (h'.push entry) where
  capacity := (h.capacity_push entry).trans ht.capacity
  capacity' := (h'.capacity_push entry).trans ht.capacity'
  entries := by
    have hentries := ht.entries
    rw [latest_eq_drop] at hentries ⊢
    by_cases hsmall : small = 0
    · -- Nothing is kept, and none of the other's entries is asked for.
      rw [push_of_zero (ht.capacity.trans hsmall), hentries, hsmall]
      simp only [Nat.sub_zero, List.drop_length]
    · have hc : h.capacity ≠ 0 := ht.capacity ▸ hsmall
      have hc' : h'.capacity ≠ 0 := by
        rw [ht.capacity']
        omega
      rw [entries_push hc, entries_push hc', hentries, ht.capacity, ht.capacity']
      -- Both drop from the front of the entries of the larger, and as far in the end.
      simp only [List.length_append, List.length_drop, List.length_singleton]
      rw [List.drop_append_of_le_length (by rw [List.length_drop]; omega), List.drop_drop,
        List.drop_drop]
      congr 2
      omega

theorem Trails.fresh {small large : Nat} {h h' : History} (ht : Trails small large h h') :
    Trails small large (.ofCapacity h.capacity) (.ofCapacity h'.capacity) :=
  ⟨ht.capacity, ht.capacity', List.drop_nil.symm⟩

end History

/-! ## Runs -/

/-- The runs may differ in flags without a meaning and in their histories. -/
def Difference.flags : Difference where
  sample := Sample.SameButFlags
  last := Eq
  history _ _ := True
  resembles := Sample.SameButFlags.resembles
  time := by
    rintro s s' ⟨hsame, -⟩
    rw [hsame]
    rfl
  last_refl _ := rfl
  push _ _ := trivial
  push_entry _ _ _ _ _ _ := trivial
  fresh _ := trivial

/-- The runs may differ in the capacities of their histories. -/
def Difference.capacities {small large : Nat} (hle : small ≤ large) : Difference :=
  .ofSameSamples Eq (History.Trails small large) (fun _ => rfl) (fun h entry => h.push hle entry)
    fun h => h.fresh

theorem Window.Rel.eq {w w' : Window} (h : Window.Rel Eq w w') : w = w' := by
  cases h with
  | idle => rfl
  | armed h => rw [h]

/-- What recognition does in a call, and all that it will depend on: the answer, the events, the
scheduler, and the context without its history. -/
def Reply.effect {σ : Type} (reply : Reply σ Answer) : Answer × List Event × σ × Context :=
  (reply.value, reply.events, reply.next.timers, reply.next.context.withoutHistory)

/-- The history after a call is the end of another one, of `n` entries or all. -/
def Reply.HistoryTrails {σ : Type} (n : Nat) (reply reply' : Reply σ Answer) : Prop :=
  reply.next.context.history.entries = reply'.next.context.history.latest n

variable {σ : Type} [Scheduler σ]

/-- Contexts that are alike at the same times, and after the same sample, differ in their histories
only. -/
theorem Difference.withoutHistory_eq {d : Difference} (hlast : ∀ l l', d.last l l' → l = l')
    {c c' : Context} (h : (d.likeness σ).Contexts c c') : c'.withoutHistory = c.withoutHistory := by
  have hdress (c : Context) : c.withoutHistory =
      { c.bare with
        kind := c.kind
        position := c.position
        startTime := c.startTime
        lastTapTime := c.lastTapTime
        window := c.window } := rfl
  obtain ⟨hkind, hposition⟩ := Prod.mk.inj (hlast _ _ h.last)
  have hstart : c.startTime = c'.startTime := h.startTime
  have htap : c.lastTapTime = c'.lastTapTime := h.lastTapTime
  rw [hdress, hdress, h.bare, hkind, hposition, hstart, htap, h.window.eq]

theorem Difference.effect_eq {d : Difference} (hlast : ∀ l l', d.last l l' → l = l')
    {reply reply' : Reply σ Answer} (h : (d.likeness σ).Replies reply reply') :
    reply'.effect = reply.effect := by
  have htimers : reply'.next.timers = reply.next.timers := h.next.turns.timers.symm
  have hcontext : reply'.next.context.withoutHistory = reply.next.context.withoutHistory :=
    withoutHistory_eq hlast h.next.turns.context
  simp only [Reply.effect, h.value, h.events, htimers, hcontext]

namespace Recognizer

/-- **Diagnostics are inert.** Take two configurations with the same slop, whatever capacities and
timeouts they have, and two runs that differ in flags without a meaning only. Then call by call both
give the same values and events, and lead to the same scheduler and the same context, histories
apart. If the runs do not differ at all, each history of the smaller capacity `n` holds the last
entries of the other history, `n` of them or all. -/
theorem diagnostics_are_inert {config config' : Config}
    (same : config'.touchSlop = config.touchSlop) :
    (∀ (σ : Type) [Scheduler σ] (timers : σ) (calls calls' : List Call),
      List.Forall₂ (Call.Rel Sample.SameButFlags) calls calls' →
        (replay perform (new config' timers) calls').map Reply.effect =
          (replay perform (new config timers) calls).map Reply.effect) ∧
    (∀ (timers : Queue) (calls calls' : List TimedCall),
      List.Forall₂ (TimedCall.Rel Sample.SameButFlags Eq) calls calls' →
        (replay performTimed (new config' timers) calls').map Reply.effect =
          (replay performTimed (new config timers) calls).map Reply.effect) ∧
    (config.historyCapacity ≤ config'.historyCapacity →
      (∀ (σ : Type) [Scheduler σ] (timers : σ) (calls : List Call),
        List.Forall₂ (Reply.HistoryTrails config.historyCapacity)
          (replay perform (new config timers) calls)
          (replay perform (new config' timers) calls)) ∧
      ∀ (timers : Queue) (calls : List TimedCall),
        List.Forall₂ (Reply.HistoryTrails config.historyCapacity)
          (replay performTimed (new config timers) calls)
          (replay performTimed (new config' timers) calls)) := by
  have hflags {σ : Type} [Scheduler σ] (timers : σ) :
      (Difference.flags.likeness σ).Pairs (new config timers) (new config' timers) :=
    .new same rfl trivial
  have heffect {σ : Type} [Scheduler σ] {reply reply' : Reply σ Answer}
      (h : (Difference.flags.likeness σ).Replies reply reply') : reply'.effect = reply.effect :=
    Difference.effect_eq (fun _ _ hl => hl) h
  refine ⟨fun σ _ timers calls calls' hcalls => ?_, fun timers calls calls' hcalls => ?_,
    fun hle => ?_⟩
  · exact Difference.map_eq (fun _ _ => heffect) (Difference.replay (hflags timers) hcalls)
  · exact Difference.map_eq (fun _ _ => heffect) (Difference.replayTimed (hflags timers) hcalls)
  · have hpairs {σ : Type} [Scheduler σ] (timers : σ) :
        ((Difference.capacities hle).likeness σ).Pairs (new config timers) (new config' timers) :=
      .new same rfl ⟨rfl, rfl, List.drop_nil.symm⟩
    have htrails {σ : Type} [Scheduler σ] {reply reply' : Reply σ Answer}
        (h : ((Difference.capacities hle).likeness σ).Replies reply reply') :
        reply.HistoryTrails config.historyCapacity reply' :=
      h.next.turns.context.history.entries
    refine ⟨fun σ _ timers calls => ?_, fun timers calls => ?_⟩
    · exact (Difference.replay_self (fun _ => rfl) (hpairs timers) calls).imp fun _ _ => htrails
    · exact (Difference.replayTimed_self (fun _ => rfl) (hpairs timers) calls).imp
        fun _ _ => htrails

/-- A drag after a tap, with a history of two entries and one of all, and with flags that have no
meaning set or not. -/
theorem diagnostics_are_inert_in_drag :
    let small : Config := { doubleTapTimeout := .ofMillis 50, historyCapacity := 2 }
    let samples := [Sample.single .down ⟨10, 10⟩ 0, .single .up ⟨10, 10⟩ 40,
      .single .hoverEnter ⟨10, 10⟩ 60, .single .hoverMove ⟨12, 10⟩ 70]
    let calls := samples.map TimedCall.handleAt
    let flagged := samples.map fun s => TimedCall.handleAt (s.withFlags ⟨0x83⟩)
    let kept := fun reply : Reply Queue Answer => reply.next.context.history.entries.length
    (replay performTimed (new {} (Queue.startingAt 0)) flagged).map Reply.effect =
        (replay performTimed (new small (Queue.startingAt 0)) calls).map Reply.effect ∧
      List.Forall₂ (Reply.HistoryTrails 2)
        (replay performTimed (new small (Queue.startingAt 0)) calls)
        (replay performTimed (new {} (Queue.startingAt 0)) calls) ∧
      (replay performTimed (new small (Queue.startingAt 0)) calls).map kept = [1, 2, 2, 2] ∧
      (replay performTimed (new {} (Queue.startingAt 0)) calls).map kept = [1, 2, 3, 4] := by
  intro small samples calls flagged kept
  have hcalls : List.Forall₂ (TimedCall.Rel Sample.SameButFlags Eq) calls flagged := by
    rw [List.forall₂_map_left_iff, List.forall₂_map_right_iff, List.forall₂_same]
    intro s hs
    have hflags : s.flags = Mask.empty := by
      simp only [samples, List.mem_cons, List.not_mem_nil, or_false] at hs
      rcases hs with rfl | rfl | rfl | rfl <;> rfl
    refine .handleAt ⟨rfl, ?_⟩
    rw [hflags]
    exact (by decide : (0x83 : UInt32) &&& 0x40 = 0 &&& 0x40)
  have same : ({} : Config).touchSlop = small.touchSlop := rfl
  have hall := diagnostics_are_inert same
  exact ⟨hall.2.1 _ calls flagged hcalls, (hall.2.2 (by decide)).2 _ calls,
    by decide +kernel, by decide +kernel⟩

end Recognizer

end Trackpad
