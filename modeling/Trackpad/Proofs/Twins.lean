import Mathlib.Data.List.Forall2
import Trackpad.Proofs.Likeness

/-!
# Twins — recognizers that are alike, run side by side

Two recognizers that are alike in the sense of a `Likeness` answer the same call with the same value
and the same events, and are alike afterwards (`Pairs.perform`). So do whole runs, call by call
(`Pairs.replay`). Over queues this needs clocks that advance alike (`Clocks`): then the two queues
pop callbacks of the same slots and tickets, and since these can be delivered as a batch, the
recognizers stay alike (`Pairs.performTimed`).
-/

namespace Trackpad

/-- The same call, with related samples. -/
inductive Call.Rel (sample : Sample → Sample → Prop) : Call → Call → Prop
  | handle {s s' : Sample} (h : sample s s') : Call.Rel sample (.handle s) (.handle s')
  | onTimer (slot : Slot) (ticket : Ticket) :
      Call.Rel sample (.onTimer slot ticket) (.onTimer slot ticket)
  | reset : Call.Rel sample .reset .reset

theorem Call.Rel.refl {sample : Sample → Sample → Prop} (h : ∀ s, sample s s) (c : Call) :
    Call.Rel sample c c := by
  cases c with
  | handle s => exact .handle (h s)
  | onTimer slot ticket => exact .onTimer slot ticket
  | reset => exact .reset

/-- The same call, with related samples and times. -/
inductive TimedCall.Rel (sample : Sample → Sample → Prop) (time : Time → Time → Prop) :
    TimedCall → TimedCall → Prop
  | plain {c c' : Call} (h : Call.Rel sample c c') :
      TimedCall.Rel sample time (.plain c) (.plain c')
  | handleAt {s s' : Sample} (h : sample s s') :
      TimedCall.Rel sample time (.handleAt s) (.handleAt s')
  | advanceTo {t t' : Time} (h : time t t') :
      TimedCall.Rel sample time (.advanceTo t) (.advanceTo t')

theorem TimedCall.Rel.refl {sample : Sample → Sample → Prop} {time : Time → Time → Prop}
    (hs : ∀ s, sample s s) (ht : ∀ t, time t t) (c : TimedCall) :
    TimedCall.Rel sample time c c := by
  cases c with
  | plain c => exact .plain (.refl hs c)
  | handleAt s => exact .handleAt (hs s)
  | advanceTo t => exact .advanceTo (ht t)

namespace Likeness

variable {σ τ : Type} [Scheduler σ] [Scheduler τ] (L : Likeness σ τ)

/-- Recognizers with the standard handlers that are alike. -/
structure Pairs (r : Recognizer σ) (r' : Recognizer τ) : Prop where
  standard : r.handlers = .standard
  standard' : r'.handlers = .standard
  turns : L.Turns r.turn r'.turn

/-- The same answer, the same events, and recognizers that are alike. -/
structure Replies {α : Type} (reply : Reply σ α) (reply' : Reply τ α) : Prop where
  value : reply'.value = reply.value
  events : reply'.events = reply.events
  next : L.Pairs reply.next reply'.next

variable {L} {r : Recognizer σ} {r' : Recognizer τ}

theorem Replies.map {α β : Type} {reply : Reply σ α} {reply' : Reply τ α}
    (h : L.Replies reply reply') (f : α → β) : L.Replies (reply.map f) (reply'.map f) :=
  { h with value := congrArg f h.value }

namespace Pairs

theorem new {config config' : Config} (hslop : config'.touchSlop = config.touchSlop) {q : σ} {p : τ}
    (hq : L.timers q p)
    (hh : L.history (.ofCapacity config.historyCapacity) (.ofCapacity config'.historyCapacity)) :
    L.Pairs (Recognizer.new config q) (Recognizer.new config' p) :=
  ⟨rfl, rfl, hslop, rfl, hq, rfl, L.stamp_zero, L.stamp_zero, .idle, L.last_refl _, hh⟩

theorem conclude (h : L.Pairs r r') {α : Type} {o : α × Turn σ} {o' : α × Turn τ}
    (ho : L.Outcomes o o') : L.Replies (r.conclude o) (r'.conclude o') where
  value := ho.value
  events := ho.turns.trace
  next :=
    { standard := h.standard
      standard' := h.standard'
      turns := { slop := h.turns.slop, trace := rfl, timers := ho.turns.timers,
                 context := ho.turns.context } }

theorem handle (h : L.Pairs r r') {s s' : Sample} (hs : L.sample s s') :
    L.Replies (r.handle s) (r'.handle s') := by
  unfold Recognizer.handle
  rw [h.standard, h.standard']
  exact h.conclude (.route h.turns hs)

theorem onTimer (h : L.Pairs r r') (slot : Slot) (ticket : Ticket) :
    L.Replies (r.onTimer slot ticket) (r'.onTimer slot ticket) :=
  h.conclude (.deliver h.turns slot ticket)

theorem reset (h : L.Pairs r r') : L.Replies r.reset r'.reset :=
  h.conclude (.pure () h.turns.reset)

theorem perform (h : L.Pairs r r') {c c' : Call} (hc : Call.Rel L.sample c c') :
    L.Replies (r.perform c) (r'.perform c') := by
  cases hc with
  | handle hs => exact (h.handle hs).map Answer.truth
  | onTimer slot ticket => exact (h.onTimer slot ticket).map Answer.truth
  | reset => exact h.reset.map fun _ => Answer.done

theorem setTimers (h : L.Pairs r r') {q : σ} {p : τ} (hq : L.timers q p) :
    L.Pairs (r.withTimers q) (r'.withTimers p) where
  standard := h.standard
  standard' := h.standard'
  turns := { slop := h.turns.slop, trace := rfl, timers := hq, context := h.turns.context }

/-- What is delivered may differ in its deadlines. -/
theorem deliverAll (h : L.Pairs r r') {cs ds : List Callback}
    (hcs : List.Forall₂ (fun c d => d.slot = c.slot ∧ d.ticket = c.ticket) cs ds) :
    L.Replies (r.deliverAll cs) (r'.deliverAll ds) := by
  induction hcs generalizing r r' with
  | nil => exact ⟨rfl, rfl, h⟩
  | @cons c d cs ds hcd _ ih =>
    obtain ⟨hslot, hticket⟩ := hcd
    have hfirst := h.onTimer c.slot c.ticket
    have hothers := ih hfirst.next
    simp only [Recognizer.deliverAll, Reply.followedBy, hslot, hticket]
    refine ⟨?_, ?_, hothers.next⟩
    · simp only [hfirst.value, hothers.value]
    · simp only [hfirst.events, hothers.events]

/-- What each call keeps alike, a run does. -/
theorem replay {γ : Type} {step : Recognizer σ → γ → Reply σ Answer}
    {step' : Recognizer τ → γ → Reply τ Answer} {rel : γ → γ → Prop}
    (hstep : ∀ r r' c c', L.Pairs r r' → rel c c' → L.Replies (step r c) (step' r' c'))
    (h : L.Pairs r r') {cs cs' : List γ} (hcs : List.Forall₂ rel cs cs') :
    List.Forall₂ L.Replies (Recognizer.replay step r cs) (Recognizer.replay step' r' cs') := by
  induction hcs generalizing r r' with
  | nil => exact .nil
  | cons hc _ ih => 
    have hfirst := hstep _ _ _ _ h hc
    exact .cons hfirst (ih hfirst.next)

end Pairs

/-! ## Clocks -/

/-- Queues that are alike stay so when they are advanced to related times, and pop callbacks of the
same slots and tickets. -/
structure Clocks (L : Likeness Queue Queue) (time : Time → Time → Prop) : Prop where
  of_sample {s s' : Sample} (h : L.sample s s') : time s.time s'.time
  advanceTo {q p : Queue} (h : L.timers q p) {t t' : Time} (ht : time t t') :
    List.Forall₂ (fun c d => d.slot = c.slot ∧ d.ticket = c.ticket) (q.advanceTo t).1
        (p.advanceTo t').1 ∧
      L.timers (q.advanceTo t).2 (p.advanceTo t').2

namespace Pairs

variable {L : Likeness Queue Queue} {time : Time → Time → Prop} {r r' : Recognizer Queue}

theorem advanceTo (h : L.Pairs r r') (hclocks : L.Clocks time) {t t' : Time} (ht : time t t') :
    L.Replies (r.advanceTo t) (r'.advanceTo t') := by
  obtain ⟨hpopped, hleft⟩ := hclocks.advanceTo h.turns.timers ht
  rw [Recognizer.advanceTo_eq_deliverAll, Recognizer.advanceTo_eq_deliverAll]
  exact (h.setTimers hleft).deliverAll hpopped

theorem handleAt (h : L.Pairs r r') (hclocks : L.Clocks time) {s s' : Sample}
    (hs : L.sample s s') : L.Replies (r.handleAt s) (r'.handleAt s') := by
  have hadvanced := h.advanceTo hclocks (hclocks.of_sample hs)
  have hhandled := hadvanced.next.handle hs
  refine ⟨hhandled.value, ?_, hhandled.next⟩
  simp only [Recognizer.handleAt, hadvanced.events, hhandled.events]

theorem performTimed (h : L.Pairs r r') (hclocks : L.Clocks time) {c c' : TimedCall}
    (hc : TimedCall.Rel L.sample time c c') :
    L.Replies (r.performTimed c) (r'.performTimed c') := by
  cases hc with
  | plain hc => exact h.perform hc
  | handleAt hs => exact (h.handleAt hclocks hs).map Answer.truth
  | advanceTo ht => exact (h.advanceTo hclocks ht).map Answer.count

end Pairs

end Likeness

/-! ## Runs over the same scheduler -/

/-- In what two runs over the same scheduler may differ, all their times being the same. -/
structure Difference where
  sample : Sample → Sample → Prop
  last : Kind × Point → Kind × Point → Prop
  history : History → History → Prop
  resembles {s s' : Sample} (h : sample s s') : s.Resembles s'
  time {s s' : Sample} (h : sample s s') : s.time = s'.time
  last_refl (l : Kind × Point) : last l l
  push {h h' : History} (hh : history h h') (entry : String) :
    history (h.push entry) (h'.push entry)
  push_entry {h h' : History} (hh : history h h') {s s' : Sample} (hs : sample s s')
    (state : State) (label : String) :
    history (h.push ("[" ++ state.name ++ "] " ++ s.entry label))
      (h'.push ("[" ++ state.name ++ "] " ++ s'.entry label))
  fresh {h h' : History} (hh : history h h') :
    history (.ofCapacity h.capacity) (.ofCapacity h'.capacity)

theorem Sample.Resembles.of_eq {s s' : Sample} (h : s = s') : s.Resembles s' := by
  subst h
  exact ⟨rfl, rfl, rfl, rfl, rfl, rfl⟩

namespace Difference

/-- Where the samples are the same, so are their entries in the histories. -/
def ofSameSamples (last : Kind × Point → Kind × Point → Prop) (history : History → History → Prop)
    (last_refl : ∀ l, last l l)
    (push : ∀ {h h' : History}, history h h' → ∀ entry, history (h.push entry) (h'.push entry))
    (fresh : ∀ {h h' : History}, history h h' →
      history (.ofCapacity h.capacity) (.ofCapacity h'.capacity)) : Difference where
  sample := Eq
  last := last
  history := history
  resembles := Sample.Resembles.of_eq
  time h := congrArg Sample.time h
  last_refl := last_refl
  push := push
  push_entry hh _ _ hs state label := by
    subst hs
    exact push hh _
  fresh := fresh

variable (d : Difference) {σ : Type} [Scheduler σ]

def likeness (σ : Type) [Scheduler σ] : Likeness σ σ where
  timers := Eq
  sample := d.sample
  stamp := Eq
  last := d.last
  history := d.history
  schedule := by rintro q _ rfl slot; exact ⟨rfl, rfl⟩
  cancel := by rintro q _ rfl ticket; rfl
  resembles := d.resembles
  stamp_zero := rfl
  stamp_time := d.time
  stamp_expiry h := congrArg (fun t : Time => t.plus Slot.doubleTapExpiry.delayMillis) (d.time h)
  last_refl := d.last_refl
  push := d.push
  push_entry := d.push_entry
  fresh := d.fresh

theorem clocks : (d.likeness Queue).Clocks Eq where
  of_sample := d.time
  advanceTo := by
    rintro q _ rfl t _ rfl
    exact ⟨List.forall₂_same.2 fun c _ => ⟨rfl, rfl⟩, rfl⟩

variable {d}

theorem replay {r r' : Recognizer σ} (h : (d.likeness σ).Pairs r r') {calls calls' : List Call}
    (hcalls : List.Forall₂ (Call.Rel d.sample) calls calls') :
    List.Forall₂ (d.likeness σ).Replies (Recognizer.replay Recognizer.perform r calls)
      (Recognizer.replay Recognizer.perform r' calls') := by
  refine h.replay ?_ hcalls
  exact fun _ _ _ _ hpair hc => hpair.perform hc

theorem replayTimed {r r' : Recognizer Queue} (h : (d.likeness Queue).Pairs r r')
    {calls calls' : List TimedCall}
    (hcalls : List.Forall₂ (TimedCall.Rel d.sample Eq) calls calls') :
    List.Forall₂ (d.likeness Queue).Replies (Recognizer.replay Recognizer.performTimed r calls)
      (Recognizer.replay Recognizer.performTimed r' calls') := by
  refine h.replay ?_ hcalls
  exact fun _ _ _ _ hpair hc => hpair.performTimed d.clocks hc

theorem replay_self (hs : ∀ s, d.sample s s) {r r' : Recognizer σ}
    (h : (d.likeness σ).Pairs r r') (calls : List Call) :
    List.Forall₂ (d.likeness σ).Replies (Recognizer.replay Recognizer.perform r calls)
      (Recognizer.replay Recognizer.perform r' calls) :=
  replay h (List.forall₂_same.2 fun c _ => .refl hs c)

theorem replayTimed_self (hs : ∀ s, d.sample s s) {r r' : Recognizer Queue}
    (h : (d.likeness Queue).Pairs r r') (calls : List TimedCall) :
    List.Forall₂ (d.likeness Queue).Replies (Recognizer.replay Recognizer.performTimed r calls)
      (Recognizer.replay Recognizer.performTimed r' calls) :=
  replayTimed h (List.forall₂_same.2 fun c _ => .refl hs (fun _ => rfl) c)

/-- What cannot be told apart in one reply, cannot in those of a run. -/
theorem map_eq {α : Type} {f : Reply σ Answer → α}
    (hf : ∀ reply reply', (d.likeness σ).Replies reply reply' → f reply' = f reply)
    {replies replies' : List (Reply σ Answer)}
    (h : List.Forall₂ (d.likeness σ).Replies replies replies') :
    replies'.map f = replies.map f := by
  induction h with
  | nil => rfl
  | cons hfirst _ ih => rw [List.map_cons, List.map_cons, hf _ _ hfirst, ih]

end Difference

end Trackpad
