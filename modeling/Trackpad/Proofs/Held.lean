import Trackpad.Proofs.Run

/-!
# Held — which buttons are down

A button is held after some commands if the last of them that presses or releases it presses it
(`Held`). Two states stand for a button that is held (`State.button?`): a drag for the left one, a
press of the pad for the middle one.

As far as buttons go, a call does one of six things (`Grasp`). It follows that a state never stands
for a button that is up, and that nothing is released or dragged that is not held (`Grip.run`). The
converse, that a button is only held in its state, is false: see `Trackpad.Proofs.Broken`.
-/

namespace Trackpad

/-! ## Commands -/

/-- What a command does to a button: down, up, or nothing. -/
def Command.effect? (b : MouseButton) : Command → Option Bool
  | press other => if other = b then some true else none
  | release other => if other = b then some false else none
  | _ => none

/-- The button is down after these commands: the last one that presses or releases it presses it. -/
def Held (b : MouseButton) (sent : List Command) : Prop :=
  sent.reverse.findSome? (·.effect? b) = some true

instance (b : MouseButton) (sent : List Command) : Decidable (Held b sent) :=
  inferInstanceAs (Decidable (_ = _))

theorem not_held_nil (b : MouseButton) : ¬Held b [] := nofun

/-- The later commands decide, if any of them concerns the button. -/
theorem held_append {b : MouseButton} {past now : List Command} :
    Held b (past ++ now) ↔
      (now.reverse.findSome? (·.effect? b)).or (past.reverse.findSome? (·.effect? b)) =
        some true := by
  rw [Held, List.reverse_append, List.findSome?_append]

theorem held_append_press (b : MouseButton) (past : List Command) :
    Held b (past ++ [.press b]) := by
  simp [held_append, Command.effect?]

theorem not_held_append_release (b : MouseButton) (past : List Command) :
    ¬Held b (past ++ [.release b]) := by
  simp [held_append, Command.effect?]

/-- Commands that do not concern the button change nothing about it. -/
theorem held_append_iff {b : MouseButton} {past now : List Command}
    (h : ∀ c ∈ now, c.effect? b = none) : Held b (past ++ now) ↔ Held b past := by
  have hnone : now.reverse.findSome? (·.effect? b) = none :=
    List.findSome?_eq_none_iff.2 fun c hc => h c (List.mem_reverse.1 hc)
  rw [held_append, hnone, Option.none_or]
  rfl

/-- A held button remains so until it is released. -/
theorem Held.append {b : MouseButton} {past now : List Command} (h : Held b past)
    (hnow : .release b ∉ now) : Held b (past ++ now) := by
  rw [held_append]
  cases hlast : now.reverse.findSome? (·.effect? b) with
  | none => rwa [Option.none_or]
  | some down =>
    obtain ⟨c, hc, heffect⟩ := List.exists_of_findSome?_eq_some hlast
    cases down with
    | true => rfl
    | false =>
      -- Only a release lets a button up.
      have hrelease : c = .release b := by
        cases c <;> simp_all [Command.effect?]
      exact absurd (hrelease ▸ List.mem_reverse.1 hc) hnow

/-- What is held was pressed. -/
theorem Held.press_mem {b : MouseButton} {sent : List Command} (h : Held b sent) :
    .press b ∈ sent := by
  obtain ⟨c, hc, heffect⟩ := List.exists_of_findSome?_eq_some h
  have hpress : c = .press b := by
    cases c <;> simp_all [Command.effect?]
  exact hpress ▸ List.mem_reverse.1 hc

/-- The command neither presses nor releases nor drags. -/
def Command.IsQuiet : Command → Prop
  | press _ | release _ | move _ true => False
  | _ => True

theorem Command.IsWheel.isQuiet {c : Command} (h : c.IsWheel) : c.IsQuiet := by
  cases c <;> trivial

theorem Command.IsQuiet.effect? {c : Command} (h : c.IsQuiet) (b : MouseButton) :
    c.effect? b = none := by
  cases c <;> first | rfl | exact h.elim

/-! ## What a call does to the buttons -/

/-- The button that a state stands for. -/
def State.button? : State → Option MouseButton
  | dragActive => some .left
  | physicalClick => some .middle
  | _ => none

theorem State.button?_eq_left_iff {s : State} : s.button? = some .left ↔ s = dragActive := by
  cases s <;> simp [button?]

theorem State.button?_eq_middle_iff {s : State} : s.button? = some .middle ↔ s = physicalClick := by
  cases s <;> simp [button?]

theorem State.button?_ne_right (s : State) : s.button? ≠ some .right := by
  cases s <;> nofun

theorem State.button?_eq_none_iff {s : State} :
    s.button? = none ↔ s ≠ dragActive ∧ s ≠ physicalClick := by
  cases s <;> simp [button?]

namespace Call

/-- The call reports that the button under the pad goes down. -/
def IsButtonPress (c : Call) : Prop := ∃ s, c = .handle s ∧ s.action = .buttonPress

/-- The call gives up the gesture in flight, whatever it is: a reset, a cancel, or the second
contact of a pinch. -/
def Abandons : Call → Prop
  | reset => True
  | handle s => s.action = .cancel ∨ (s.action = .pointerDown ∧ s.pointerCount = 2)
  | onTimer .. => False

end Call

/-- What a call can do to the buttons: the state before it, its commands, and the state after. -/
inductive Grasp (c : Call) : State → List Command → State → Prop where
  | quiet {state target : State} {sent : List Command} (hsent : ∀ cmd ∈ sent, cmd.IsQuiet)
      (hsame : target.button? = state.button?) : Grasp c state sent target
  | pressPad {state : State} (hpress : c.IsButtonPress ∨ state = .idle) :
      Grasp c state [.press .middle] .physicalClick
  | beginDrag {state : State} (p : Point) (hstate : state = .hoverTracking) :
      Grasp c state [.press .left, .move p true] .dragActive
  | drag {state : State} {b : MouseButton} (p : Point) (hb : state.button? = some b) :
      Grasp c state [.move p true] state
  | letGo {state target : State} {b : MouseButton} (hb : state.button? = some b)
      (hfree : target.button? = none) : Grasp c state [.release b] target
  | abandon {state target : State} (hc : c.Abandons) (hfree : target.button? = none) :
      Grasp c state [] target

/-- A deed of the table grasps as it fits. -/
theorem Deed.grasp {σ : Type} [Scheduler σ] {v : Stance σ} {d : Deed} {c : Context} {slop : Float}
    {s : Sample} (hc : c.state = v.state) (hf : d.Fits c slop s) :
    Grasp (.handle s) v.state d.sends (d.apply v).state := by
  have hnil : ∀ cmd ∈ ([] : List Command), cmd.IsQuiet := List.forall_mem_nil _
  cases d with
  | nothing => exact .quiet hnil rfl
  | point p => exact .quiet (List.forall_mem_singleton.2 trivial) rfl
  | hold p =>
    have hs : v.state = .physicalClick := hc ▸ hf
    exact .drag p (State.button?_eq_middle_iff.2 hs)
  | wheel cmd => exact .quiet (List.forall_mem_singleton.2 hf.2.isQuiet) rfl
  | enter target =>
    obtain ⟨hdrag, hpad, hfrom⟩ := hf
    have hfree : target.button? = none := State.button?_eq_none_iff.2 ⟨hdrag, hpad⟩
    rcases hfrom with ⟨-, hpinch⟩ | hother
    · exact .abandon (.inr hpinch) hfree
    · rw [hc] at hother
      exact .quiet hnil (hfree.trans (State.button?_eq_none_iff.2 hother).symm)
  | pressPad => exact .pressPad (hf.imp (⟨s, rfl, ·⟩) fun h => hc ▸ h.1)
  | releasePad =>
    have hs : v.state = .physicalClick := hc ▸ hf
    exact .letGo (State.button?_eq_middle_iff.2 hs) rfl
  | acceptTap deadline =>
    have hs : v.state = .singleTapPending := hc ▸ hf.1.2.1
    exact .quiet hnil (by rw [hs]; rfl)
  | touchTwo =>
    have hs : v.state = .idle := hc ▸ hf
    exact .quiet hnil (by rw [hs]; rfl)
  | liftTwo clicks =>
    have hs : v.state = .twoFingerTapPending := hc ▸ hf
    refine .quiet (fun cmd hcmd => ?_) (by rw [hs]; rfl)
    cases clicks with
    | false => cases hcmd
    | true => exact List.mem_singleton.1 hcmd ▸ trivial
  | scrollTwo cmd =>
    have hs : v.state = .twoFingerTapPending := hc ▸ hf.1
    exact .quiet (List.forall_mem_singleton.2 hf.2.isQuiet) (by rw [hs]; rfl)
  | beginDrag p => exact .beginDrag p (hc ▸ hf.1.2)
  | keepDrag p =>
    have hs : v.state = .dragActive := hc ▸ hf
    exact .drag p (State.button?_eq_left_iff.2 hs)
  | endDrag =>
    have hs : v.state = .dragActive := hc ▸ hf
    exact .letGo (State.button?_eq_left_iff.2 hs) rfl
  | drop => exact .abandon (.inl hf) rfl

/-- A live callback lets the left button go, if it ends a drag, and nothing else. -/
theorem Stance.grasp_expire {σ : Type} (v : Stance σ) (slot : Slot) (c : Call) :
    Grasp c v.state (v.expirySends slot) (v.expire slot).state := by
  cases slot with
  | delayedClick =>
    refine .quiet (fun cmd hcmd => ?_) rfl
    simp only [Stance.expirySends] at hcmd
    split at hcmd
    · exact List.mem_singleton.1 hcmd ▸ trivial
    · cases hcmd
  | doubleTapExpiry | twoFingerTapExpiry => exact .quiet (List.forall_mem_nil _) rfl
  | dragTimeout =>
    simp only [Stance.expirySends, Stance.expire]
    split
    · rename_i hdrag
      exact .letGo (State.button?_eq_left_iff.2 hdrag) rfl
    · exact .quiet (List.forall_mem_nil _) rfl

namespace Recognizer

variable {σ : Type} [Scheduler σ]

theorem grasp_perform {r : Recognizer σ} (hb : r.handlers = .standard) (c : Call) :
    Grasp c r.state (r.perform c).sent (r.perform c).next.state := by
  cases c with
  | handle s =>
    obtain ⟨d, hf, hst, hse⟩ := handle_does hb s
    have hnext : (r.perform (.handle s)).next.state = (d.apply r.stance).state :=
      congrArg Stance.state hst
    have hsent : (r.perform (.handle s)).sent = d.sends := hse
    rw [hnext, hsent]
    exact Deed.grasp (v := r.stance) rfl hf
  | onTimer slot ticket =>
    by_cases hl : r.context.slots.get? slot = some ticket
    · obtain ⟨hst, hse⟩ := onTimer_of_live hl
      have hnext : (r.perform (.onTimer slot ticket)).next.state =
          ((r.stance.vacate slot).expire slot).state := congrArg Stance.state hst
      have hsent : (r.perform (.onTimer slot ticket)).sent =
          (r.stance.vacate slot).expirySends slot := by
        rw [show (r.perform (.onTimer slot ticket)).sent = _ from hse]
        cases slot <;> rfl
      rw [hnext, hsent]
      exact (r.stance.vacate slot).grasp_expire slot _
    · obtain ⟨hst, hse⟩ := onTimer_of_stale hl
      have hnext : (r.perform (.onTimer slot ticket)).next = r := hst
      have hsent : (r.perform (.onTimer slot ticket)).sent = [] := hse
      rw [hnext, hsent]
      exact .quiet (List.forall_mem_nil _) rfl
  | reset =>
    obtain ⟨hst, hse⟩ := r.reset_does
    have hnext : (r.perform .reset).next.state = .idle := congrArg Stance.state hst
    have hsent : (r.perform .reset).sent = [] := hse
    rw [hnext, hsent]
    exact .abandon trivial rfl

end Recognizer

/-! ## What is released or dragged is held -/

/-- What a command needs of those that went out before it. -/
def Command.Backed (past : List Command) : Command → Prop
  | press b => b ≠ .right
  | release b => Held b past
  | move _ true => Held .left past ∨ Held .middle past
  | _ => True

/-- Every one of these commands finds before it what it needs. -/
def AllBacked (past : List Command) : List Command → Prop
  | [] => True
  | c :: rest => c.Backed past ∧ AllBacked (past ++ [c]) rest

theorem allBacked_append {past first second : List Command} :
    AllBacked past (first ++ second) ↔
      AllBacked past first ∧ AllBacked (past ++ first) second := by
  induction first generalizing past with
  | nil => simp [AllBacked]
  | cons c rest ih => simp [AllBacked, ih, and_assoc]

theorem allBacked_of_quiet {past sent : List Command} (h : ∀ c ∈ sent, c.IsQuiet) :
    AllBacked past sent := by
  induction sent generalizing past with
  | nil => trivial
  | cons c rest ih =>
    have hc : c.IsQuiet := h c List.mem_cons_self
    refine ⟨?_, ih fun d hd => h d (List.mem_cons_of_mem c hd)⟩
    unfold Command.Backed
    split <;> trivial

/-- The commands so far fit the state: the button that it stands for is held, and every release and
every drag found its button down. -/
structure Grip (sent : List Command) (state : State) : Prop where
  held : ∀ b, state.button? = some b → Held b sent
  backed : AllBacked [] sent

namespace Grip

variable {sent now : List Command} {state target : State} {c : Call}

theorem start : Grip [] .idle := ⟨nofun, trivial⟩

/-- What a call does to the buttons keeps the grip. -/
theorem grasp (h : Grip sent state) (hg : Grasp c state now target) :
    Grip (sent ++ now) target := by
  have hsplit (hnow : AllBacked sent now) : AllBacked [] (sent ++ now) :=
    allBacked_append.2 ⟨h.backed, hnow⟩
  cases hg with
  | quiet hsent hsame =>
    refine ⟨fun b hb => ?_, hsplit (allBacked_of_quiet hsent)⟩
    rw [held_append_iff fun cmd hcmd => (hsent cmd hcmd).effect? b]
    exact h.held b (hsame ▸ hb)
  | pressPad _ =>
    refine ⟨fun b hb => ?_, hsplit ⟨nofun, trivial⟩⟩
    obtain rfl : .middle = b := Option.some.inj hb
    exact held_append_press _ _
  | beginDrag p _ =>
    have hpress := held_append_press .left sent
    refine ⟨fun b hb => ?_, hsplit ⟨nofun, .inl hpress, trivial⟩⟩
    obtain rfl : .left = b := Option.some.inj hb
    rw [List.append_cons]
    exact hpress.append (by simp)
  | drag p hstate =>
    refine ⟨fun b hb => (h.held b hb).append (by simp), hsplit ⟨?_, trivial⟩⟩
    -- The two buttons that a state can stand for are the two that may drag.
    have hheld := h.held _ hstate
    cases state with
    | dragActive => exact .inl (Option.some.inj hstate ▸ hheld)
    | physicalClick => exact .inr (Option.some.inj hstate ▸ hheld)
    | _ => cases hstate
  | letGo hb hfree =>
    exact ⟨fun b hother => absurd (hfree.symm.trans hother) nofun, hsplit ⟨h.held _ hb, trivial⟩⟩
  | abandon _ hfree =>
    exact ⟨fun b hother => absurd (hfree.symm.trans hother) nofun, hsplit trivial⟩

/-- Every command of a grip found before it what it needs. -/
theorem backed_at (h : Grip sent state) {before after : List Command} {cmd : Command}
    (hsent : sent = before ++ cmd :: after) : cmd.Backed before := by
  have hall := h.backed
  rw [hsent, allBacked_append] at hall
  exact hall.2.1

/-- Whatever calls are made, the commands fit the state. -/
theorem run {σ : Type} [Scheduler σ] (config : Config) (timers : σ) (calls : List Call) :
    Grip (Recognizer.sentIn Recognizer.perform (.new config timers) calls)
      (Recognizer.after Recognizer.perform (.new config timers) calls).state := by
  let ends := Recognizer.after Recognizer.perform (.new config timers) calls
  have hrun : ends.handlers = .standard ∧
      Grip ([] ++ Recognizer.sentIn Recognizer.perform (.new config timers) calls) ends.state :=
    Recognizer.sentIn_keeps (P := fun sent r => r.handlers = .standard ∧ Grip sent r.state)
      (fun _ r c _ h =>
        ⟨(r.handlers_perform c).trans h.1, h.2.grasp (Recognizer.grasp_perform h.1 c)⟩)
      ⟨rfl, start⟩
  exact hrun.2

end Grip

namespace Recognizer

/-- **Releases and drags find their button down.** Whatever samples, callbacks and resets come, in
whatever order, and whatever the scheduler does: a button that is released is held then, only the
left and the middle one are ever pressed or released, a movement that drags comes while one of the
two is held, and between two calls the left button is held during a drag and the middle one while
the pad is pressed. -/
theorem releases_and_drags_are_held {σ : Type} [Scheduler σ] (config : Config) (timers : σ)
    (calls : List Call) :
    let sent := sentIn perform (new config timers) calls
    let state := (after perform (new config timers) calls).state
    (∀ before b later, sent = before ++ .release b :: later → Held b before) ∧
    (∀ b, .press b ∈ sent ∨ .release b ∈ sent → b = .left ∨ b = .middle) ∧
    (∀ before p later, sent = before ++ .move p true :: later →
      Held .left before ∨ Held .middle before) ∧
    (state = .dragActive → Held .left sent) ∧ (state = .physicalClick → Held .middle sent) := by
  intro sent state
  have hgrip : Grip sent state := Grip.run config timers calls
  have hpress {b : MouseButton} (hb : .press b ∈ sent) : b ≠ .right := by
    obtain ⟨before, later, hsent⟩ := List.append_of_mem hb
    exact hgrip.backed_at hsent
  refine ⟨fun before b later => hgrip.backed_at, fun b hb => ?_,
    fun before p later => hgrip.backed_at, fun hs => ?_, fun hs => ?_⟩
  · have hne : b ≠ .right := by
      rcases hb with hb | hb
      · exact hpress hb
      · -- What is released is held, and what is held was pressed.
        obtain ⟨before, later, hsent⟩ := List.append_of_mem hb
        have hheld : Held b before := hgrip.backed_at hsent
        refine hpress ?_
        rw [hsent]
        exact List.mem_append_left _ hheld.press_mem
    cases b <;> simp_all
  · exact hgrip.held _ (State.button?_eq_left_iff.2 hs)
  · exact hgrip.held _ (State.button?_eq_middle_iff.2 hs)

end Recognizer

end Trackpad
