import Trackpad.Proofs.Silence
import Trackpad.Proofs.Slop
import Trackpad.Proofs.TwoFingers

/-!
# Motionless — a contact that is lifted where it came down

From a finite position to itself there is no distance at all (`Point.distance_self`): what is finite
leaves exactly zero when it is taken from itself. So a contact that does not move is within every
slop above zero, and clicks: with one finger after the delay of the click, with two fingers at once,
if they are lifted in time. A slop of zero is accepted as well, but both comparisons are strict, and
with it no contact is within the slop.
-/

namespace Trackpad

/-! ## No distance -/

section

open Float.Model

theorem sub_self_of_isFinite {x : Float} (h : x.isFinite = true) : x - x = 0 := by
  have hzero : UnpackedFloat.sub Format.binary64 x.toModel.unpack x.toModel.unpack =
      .zero .positive := by
    have hfinite : x.toModel.unpack.isFinite = true := h
    generalize x.toModel.unpack = u at hfinite ⊢
    cases u with
    | infinity sign => cases hfinite
    | notANumber => cases hfinite
    | zero sign => cases sign <;> rfl
    | finite sign mantissa exponent hpos =>
      have hcancels (m : Int) :
          UnpackedFloat.normalize Format.binary64 (m - m) (min exponent exponent) .positive =
            .zero .positive := by
        rw [Int.sub_self]
        rfl
      exact hcancels _
  show Float.ofModel (pack (UnpackedFloat.sub Format.binary64 x.toModel.unpack
    x.toModel.unpack)) = 0
  rw [hzero]
  decide

end

theorem Point.distance_self {p : Point} (hx : p.x.isFinite = true) (hy : p.y.isFinite = true) :
    p.distance p = 0 := by
  rw [distance, sub_self_of_isFinite hx, sub_self_of_isFinite hy]
  decide

/-- A contact of a kind that is lifted where it came down, at a finite position. -/
structure IsMotionless (kind : Kind) (down up : Sample) : Prop where
  contact : IsContact kind Sample.KeepsContact down [] up
  inPlace : up.position = down.position
  finite : down.position.x.isFinite = true ∧ down.position.y.isFinite = true

namespace IsMotionless

variable {kind : Kind} {down up : Sample}

theorem distance_eq (h : IsMotionless kind down up) : down.position.distance up.position = 0 := by
  rw [h.inPlace]
  exact Point.distance_self h.finite.1 h.finite.2

/-- It stays in place by every slop above zero. -/
theorem staysInPlace_iff (h : IsMotionless kind down up) (slop : Float) :
    StaysInPlace down.position slop [] up ↔ 0 < slop := by
  rw [StaysInPlace, h.distance_eq]
  exact and_iff_right (List.forall_mem_nil _)

end IsMotionless

namespace Recognizer

variable {r : Recognizer Queue} {down up : Sample}

/-! ## One finger -/

/-- A tap that is accepted clicks once its time has come, and nothing else is sent meanwhile. -/
theorem sent_advanceTo_of_accepts {c : TimedCall} (hr : r.Ready [c]) (h : r.Accepts c) {time : Time}
    (hdue : (r.facing c).timers.now.plus 150 ≤ time) :
    ((r.performTimed c).next.advanceTo time).sent = [.click .left] := by
  obtain ⟨ticket, hw⟩ := Waiting.of_accepts hr h
  have htracked := hr.next.tracked
  have hlapses : (TimedCall.advanceTo time).Lapses ((r.facing c).timers.now.plus 150) :=
    ⟨time, rfl, hdue⟩
  have hclickers := hw.clickers_eq htracked.toSound (c := .advanceTo time)
  rw [if_pos hlapses] at hclickers
  have hcount := (r.performTimed c).next.count_lapse (.advanceTo time)
  rw [hclickers, lapse_of_time (c := .advanceTo time) rfl] at hcount
  rcases sent_advanceTo_of_coherent htracked.coherent time with hnil | hclick | hrelease
  · rw [hnil] at hcount
    cases hcount
  · exact hclick
  · rw [hrelease] at hcount
    cases hcount

/-- The finger is near enough when it is lifted, and if the slop is zero it is not. -/
theorem tracks_of_motionless (hb : r.handlers = .standard) (hs : r.state = .idle)
    (h : IsMotionless .singleFinger down up) :
    ((r.performTimed (.handleAt down)).next.facing (.handleAt up)).Tracks down.position
      r.config.touchSlop [] :=
  (carried_tracks (σ := Queue) down.position r.config.touchSlop).facing [] (.handleAt up)
    (tracks_performTimed (c := .handleAt down) hb hs rfl h.contact.comesDown h.contact.isOfKind)

theorem accepts_of_motionless (hb : r.handlers = .standard) (hs : r.state = .idle)
    (h : IsMotionless .singleFinger down up) (hslop : 0 < r.config.touchSlop) :
    (r.performTimed (.handleAt down)).next.Accepts (.handleAt up) := by
  have htaps := (tracks_of_motionless hb hs h).taps_iff h.contact.goesUp
  exact ⟨up, rfl, htaps.2 ((h.staysInPlace_iff _).2 hslop)⟩

theorem does_of_missed (hb : r.handlers = .standard) (hs : r.state = .idle)
    (h : IsMotionless .singleFinger down up) (hslop : ¬0 < r.config.touchSlop) :
    (r.performTimed (.handleAt down)).next.Does (.handleAt up) (.enter .idle) := by
  have htracks := tracks_of_motionless hb hs h
  obtain ⟨hstate, hstart⟩ := htracks.inPlace (List.forall_mem_nil _)
  have hb' : (r.performTimed (.handleAt down)).next.handlers = .standard :=
    (r.handlers_performTimed _).trans hb
  refine Does.of_turn hb' rfl (Turn.route_of_far h.contact.goesUp hstate fun hnear => hslop ?_)
  have hnear' : down.position.distance up.position < r.config.touchSlop := by
    rw [← hstart, ← htracks.sameSlop]
    exact hnear
  rwa [h.distance_eq] at hnear'

/-! ## Two fingers -/

/-- Two fingers that are lifted in time click if the slop is above zero. -/
theorem does_of_motionless (hr : r.Ready [.handleAt down, .handleAt up]) (hs : r.state = .idle)
    (h : IsMotionless .twoFinger down up) (hdown : r.timers.now ≤ down.time)
    (hup : down.time ≤ up.time) :
    (r.performTimed (.handleAt down)).next.Does (.handleAt up)
      (.liftTwo (up.time < down.time.plus 100 ∧ 0 < r.config.touchSlop)) := by
  have hb : r.handlers = .standard := hr.tracked.standard
  have htouch : r.TouchesTwo down := by
    refine ⟨?_, h.contact.comesDown, h.contact.isOfKind⟩
    rw [state_facing_of_not_drag (hs.trans_ne nofun), hs]
  have hnow : (r.performTimed (.handleAt down)).next.timers.now = down.time :=
    now_performTimed (c := .handleAt down) hb rfl rfl hdown
  have hdoes := (htouch.awaits hb hdown).1.lift hr.next.tracked (hnow ▸ hup) h.contact.goesUp
  rwa [h.distance_eq, config_performTimed] at hdoes

/-! ## Runs -/

/-- **What does not move clicks.** Take any usable configuration, and any state of rest that samples
and jumps of the clock lead to, whatever timers and window they have left. Let a contact come down
at a finite position and go up there again, at times that do not go back. If the slop is above zero
and it is one finger, lifting it sends nothing by itself, and when the clock is advanced by 150
milliseconds from there exactly one left click goes out and nothing else. If it is two fingers that
are lifted less than 100 milliseconds later, lifting them sends one right click, after what the
callbacks send that are due by then. If the slop is zero, which is usable too, neither is
recognized: lifting the contact sends nothing and schedules nothing.
Fewer than `2 ^ 64` callbacks are scheduled, so that no ticket is handed out twice. -/
theorem motionless_contact_clicks (config : Config) (start : Time) (begin : Recognizer Queue)
    (made : tryNew config (Queue.startingAt start) = .ok begin) (calls : List TimedCall)
    (timed : ∀ c ∈ calls, c.IsTimed) (kind : Kind) (down up : Sample)
    (motionless : IsMotionless kind down up)
    (room : schedulings begin (calls ++ [.handleAt down, .handleAt up]) < 2 ^ 64) :
    let r := after performTimed begin calls
    let pressed := (r.performTimed (.handleAt down)).next
    let lifted := pressed.performTimed (.handleAt up)
    r.state = .idle → r.timers.now ≤ down.time → down.time ≤ up.time →
    up.time.toNat + 160 < 2 ^ 64 →
      (0 < config.touchSlop →
        (kind = .singleFinger →
          lifted.sent = pressed.lapse (.handleAt up) ∧
          (lifted.next.advanceTo (up.time + 150)).sent = [.click .left]) ∧
        (kind = .twoFinger → up.time.toNat < down.time.toNat + 100 →
          lifted.sent = pressed.lapse (.handleAt up) ++ [.click .right] ∧
          lifted.sent.count (.click .right) = 1)) ∧
      (¬0 < config.touchSlop → kind = .singleFinger ∨ kind = .twoFinger →
        lifted.sent = pressed.lapse (.handleAt up) ∧
        (pressed.facing (.handleAt up)).ArmsNothing lifted.next) := by
  intro r pressed lifted hs hdown hup hlast
  obtain ⟨-, rfl⟩ := tryNew_eq_ok_iff.1 made
  have hready : r.Ready [.handleAt down, .handleAt up] := by
    refine (Ready.start (fun c hc => ?_) room).run
    rcases List.mem_append.1 hc with hc | hc
    · exact (timed c hc).isDriven
    · rcases List.mem_pair.1 hc with rfl | rfl <;> trivial
  have hb : r.handlers = .standard := hready.tracked.standard
  have hconfig : r.config = config := config_after _ calls
  have hnow : pressed.timers.now = down.time :=
    now_performTimed (c := .handleAt down) hb rfl rfl hdown
  refine ⟨fun hslop => ⟨?_, ?_⟩, fun hslop hkind => ?_⟩
  · rintro rfl
    have haccepts : pressed.Accepts (.handleAt up) :=
      accepts_of_motionless hb hs motionless (hconfig ▸ hslop)
    obtain ⟨deadline, hdoes⟩ := Does.of_accepts hready.next.tracked.standard haccepts
    refine ⟨hdoes.sent.trans (List.append_nil _), sent_advanceTo_of_accepts hready.next haccepts ?_⟩
    rw [now_facing (c := .handleAt up) rfl (hnow ▸ hup), UInt64.le_iff_toNat_le, Time.toNat_plus,
      UInt64.toNat_add]
    have h150 : (150 : UInt64).toNat = 150 := rfl
    omega
  · rintro rfl hintime
    have hclicks : up.time < down.time.plus 100 ∧ 0 < r.config.touchSlop := by
      refine ⟨?_, hconfig ▸ hslop⟩
      rw [UInt64.lt_iff_toNat_lt, Time.toNat_plus]
      have h100 : (100 : UInt64).toNat = 100 := rfl
      omega
    have hdoes := does_of_motionless hready hs motionless hdown hup
    rw [decide_eq_true hclicks] at hdoes
    have hquiet : (pressed.lapse (.handleAt up)).count (.click .right) = 0 := by
      refine List.count_eq_zero.2 fun hmem => ?_
      have htwos : Command.click .right ∈ twos (pressed.lapse (.handleAt up)) :=
        List.mem_filter.2 ⟨hmem, rfl⟩
      rw [twos_lapse] at htwos
      cases htwos
    have hsent : lifted.sent = pressed.lapse (.handleAt up) ++ [.click .right] := hdoes.sent
    refine ⟨hsent, ?_⟩
    rw [hsent, List.count_append, hquiet]
    rfl
  · have hmissed : ∃ d : Deed, pressed.Does (.handleAt up) d ∧ d.sends = [] ∧
        d.schedulings = 0 := by
      rcases hkind with rfl | rfl
      · exact ⟨_, does_of_missed hb hs motionless (hconfig ▸ hslop), rfl, rfl⟩
      · have hdoes := does_of_motionless hready hs motionless hdown hup
        rw [hconfig, decide_eq_false fun hclicks => hslop hclicks.2] at hdoes
        exact ⟨_, hdoes, rfl, rfl⟩
    obtain ⟨d, hdoes, hsends, hnone⟩ := hmissed
    refine ⟨?_, Deed.armsNothing hnone hdoes.stance⟩
    rw [hdoes.sent, hsends, List.append_nil]

/-- By a slop of a tenth, a finger taps while an earlier tap still waits, which it replaces. -/
theorem motionless_contact_clicks_anew :
    let begin := new { touchSlop := 0.1 } (Queue.startingAt 0)
    let pressed := after performTimed begin
      (TimedCall.tapping ⟨10, 10⟩ 0 40 ++ [.handleAt (.single .down ⟨50, 60⟩ 100)])
    let lifted := pressed.performTimed (.handleAt (.single .up ⟨50, 60⟩ 150))
    lifted.sent = [] ∧ (lifted.next.advanceTo 300).sent = [.click .left] := by
  intro begin pressed lifted
  have hcontact : IsContact .singleFinger Sample.KeepsContact (.single .down ⟨50, 60⟩ 100) []
      (.single .up ⟨50, 60⟩ 150) := ⟨rfl, by decide, List.forall_mem_nil _, rfl⟩
  have hall := motionless_contact_clicks { touchSlop := 0.1 } 0 begin
    (tryNew_eq_ok_iff.2 ⟨by decide +kernel, rfl⟩) (TimedCall.tapping ⟨10, 10⟩ 0 40) (by decide)
    .singleFinger (.single .down ⟨50, 60⟩ 100) (.single .up ⟨50, 60⟩ 150)
    ⟨hcontact, rfl, by decide +kernel⟩ (by decide +kernel) (by decide +kernel) (by decide +kernel)
    (by decide) (by decide)
  obtain ⟨hsent, hclick⟩ := (hall.1 (by decide +kernel)).1 rfl
  exact ⟨hsent.trans (by decide +kernel), hclick⟩

/-- A slop of zero is usable, and with it a finger that does not move is no tap. -/
theorem motionless_contact_missed_at_zero_slop :
    let config : Config := { touchSlop := 0 }
    let begin := new config (Queue.startingAt 0)
    let lifted := after performTimed begin (TimedCall.tapping ⟨10, 10⟩ 0 40)
    config.fault? = none ∧ tryNew config (Queue.startingAt 0) = .ok begin ∧ begin.state = .idle ∧
      (lifted.advanceTo 190).sent.count (.click .left) ≠ 1 := by
  intro config begin lifted
  have husable : config.fault? = none := by decide +kernel
  exact ⟨husable, tryNew_eq_ok_iff.2 ⟨husable, rfl⟩, rfl, by decide +kernel⟩

end Recognizer

end Trackpad
