import TripComputer.Proofs.Capture.Sides

/-!
# Road speed without a debounce

Every edge is a pulse, and the time between two edges counts if fewer ticks than the freshness of
an edge have come between them.  The countdown of freshness is tied to the pulse that armed it by
`Measuring`: what is left of it is what the ticks since that pulse have left.  `Following` is the case
in which nothing is held back and every edge is a pulse.
-/

namespace TripComputer.Capture

/-- An edge, with the number of ticks before it. -/
structure Stamp where
  ticks : Nat
  time : UInt32
deriving DecidableEq, Repr

/-- The cycles from an edge to the next one, unless the earlier one has lapsed by then. -/
def Stamp.cyclesTo (reset : Nat) (earlier later : Stamp) : UInt32 :=
  if later.ticks - earlier.ticks < reset then Clock.interval earlier.time later.time else 0

/-- All cycles between consecutive edges. -/
def cyclesBetween (reset : Nat) (edges : List Stamp) : Nat :=
  ((List.zipWith (Stamp.cyclesTo reset) edges edges.tail).map UInt32.toNat).sum

/-- The road-speed edges among some actions, which come after a number of ticks. -/
def vssStamps (ticks : Nat) : List Action → List Stamp
  | [] => []
  | .vssEdge now :: rest => ⟨ticks, now⟩ :: vssStamps ticks rest
  | .tick _ :: rest => vssStamps (ticks + 1) rest
  | _ :: rest => vssStamps ticks rest

theorem vssStamps_cons {action : Action} (noEdge : action.isVssEdge = false)
    (noTick : action.isTick = false) (ticks : Nat) (rest : List Action) :
    vssStamps ticks (action :: rest) = vssStamps ticks rest := by
  cases action with
  | event event =>
      cases event with
      | wakeRequest => rfl
      | interrupt interrupt now =>
          cases interrupt with
          | timerOverflow => cases noTick
          | vssEdge => cases noEdge
          | injectorOpen => rfl
          | injectorClose => rfl
          | analogSample channel value => rfl
  | install parameters => rfl
  | drain => rfl
  | takeLoopDue => rfl
  | takeEvents => rfl

/-- What is left of the freshness of the last edge, if there has been one. -/
def freshTicks (reset ticks : Nat) : Option Stamp → Nat
  | none => 0
  | some edge => reset - (ticks - edge.ticks)

/-- Pulses are measured from the last one, as long as it is recent. -/
structure Measuring (reset ticks : Nat) (last : Option Stamp) (side : VssSide) : Prop where
  resets : side.parameters.vssResetTicks.toNat = reset
  past : ∀ pulse ∈ last, pulse.ticks ≤ ticks
  lastVss : ∀ pulse ∈ last, side.lastVss = pulse.time
  countdown : side.countdown.toNat = freshTicks reset ticks last
  goodVss : side.goodVss = true ↔ 0 < freshTicks reset ticks last

/-- The road-speed side without a debounce, after some ticks and a last edge. -/
structure Following (reset ticks : Nat) (last : Option Stamp) (side : VssSide) : Prop
    extends Measuring reset ticks last side where
  undebounced : side.parameters.vssPauseTicks = 0
  settled : side.debounceCountdown = 0

/-- What an edge credits, where there may have been none before it. -/
def cyclesSince (reset : Nat) (last : Option Stamp) (edge : Stamp) : UInt32 :=
  last.elim 0 fun earlier => earlier.cyclesTo reset edge

variable {reset ticks : Nat} {last : Option Stamp} {capture : Capture}

theorem cyclesBetween_append_cons (edge : Stamp) (rest : List Stamp) :
    cyclesBetween reset (last.toList ++ edge :: rest) =
      (cyclesSince reset last edge).toNat + cyclesBetween reset (edge :: rest) := by
  cases last with
  | none => exact (Nat.zero_add _).symm
  | some earlier => exact List.sum_cons

/-- What road-speed edges add to the counters, where there may have been one before them. -/
def countedAfter (reset : Nat) (last : Option Stamp) (edges : List Stamp) : Trip where
  vssPulses := edges.length.toUInt32
  injectorPulses := 0
  vssCycles := (cyclesBetween reset (last.toList ++ edges)).toUInt64
  injectorCycles := 0
  injectorOpenCycles := 0

theorem countedAfter_nil : countedAfter reset last [] = 0 := by
  cases last with
  | none => rfl
  | some edge => rfl

theorem countedAfter_cons (edge : Stamp) (rest : List Stamp) :
    countedAfter reset last (edge :: rest) =
      Trip.vssCredit (cyclesSince reset last edge) + countedAfter reset (some edge) rest := by
  have pulses : (rest.length + 1).toUInt32 = 1 + rest.length.toUInt32 := by
    rw [Nat.add_comm]
    exact UInt32.ofNat_add 1 rest.length
  have cycles (first : UInt32) (others : Nat) :
      (first.toNat + others).toUInt64 = first.toUInt64 + others.toUInt64 := by
    rw [← UInt64.ofNat_uInt32ToNat first]
    exact UInt64.ofNat_add first.toNat others
  rw [countedAfter, cyclesBetween_append_cons, cycles, List.length_cons, pulses]
  rfl

theorem ageDebounce_of_settled (settled : capture.debounceCountdown = 0) (now : UInt32) :
    capture.ageDebounce now = capture := by
  have idle : ¬capture.debounceCountdown > 0 := by rw [settled]; decide
  exact if_neg idle

/-- Without an edge that the debounce holds back, a tick credits nothing. -/
theorem raw_onTick_of_settled (settled : capture.debounceCountdown = 0) (now : UInt32) :
    (capture.onTick now).raw = capture.raw := by
  obtain ⟨aged, before, after⟩ := onTick_spec capture now
  rw [after.raw, ageDebounce_of_settled (before.debounceCountdown.trans settled), before.raw]

theorem freshTicks_succ (past : ∀ edge ∈ last, edge.ticks ≤ ticks) :
    freshTicks reset (ticks + 1) last = freshTicks reset ticks last - 1 := by
  cases last with
  | none => rfl
  | some edge =>
      have before := past edge rfl
      simp only [freshTicks]
      omega

namespace Measuring

theorem cycles_eq (measuring : Measuring reset ticks last capture.vssSide) (now : UInt32) :
    (if capture.fresh.goodVss then Clock.interval capture.lastVss now else 0) =
      cyclesSince reset last ⟨ticks, now⟩ := by
  cases last with
  | none => exact if_neg fun good => Nat.lt_irrefl 0 (measuring.goodVss.mp good)
  | some edge =>
      have seen : capture.lastVss = edge.time := measuring.lastVss edge rfl
      rw [seen]
      exact if_congr (measuring.goodVss.trans Nat.sub_pos_iff_lt) rfl rfl

theorem raw_creditVss (measuring : Measuring reset ticks last capture.vssSide) (now : UInt32) :
    (capture.creditVss now).raw =
      capture.raw + Trip.vssCredit (cyclesSince reset last ⟨ticks, now⟩) := by
  rw [← measuring.cycles_eq, ← Trip.creditVss_eq_add]
  rfl

theorem creditVss (measuring : Measuring reset ticks last capture.vssSide) (lapsing : 0 < reset)
    (now : UInt32) :
    Measuring reset ticks (some ⟨ticks, now⟩) (capture.creditVss now).vssSide := by
  have armed : freshTicks reset ticks (some ⟨ticks, now⟩) = reset := by
    rw [freshTicks, Nat.sub_self, Nat.sub_zero]
  exact
    { resets := measuring.resets
      past := by rintro _ ⟨⟩; exact Nat.le_refl ticks
      lastVss := by rintro _ ⟨⟩; rfl
      countdown := measuring.resets.trans armed.symm
      goodVss := iff_of_true rfl (armed.symm ▸ lapsing) }

theorem ageVss (measuring : Measuring reset ticks last capture.vssSide) :
    Measuring reset (ticks + 1) last capture.ageVss.vssSide := by
  have aged := Wanes.ageVss capture
  have left : freshTicks reset (ticks + 1) last = freshTicks reset ticks last - 1 :=
    freshTicks_succ measuring.past
  obtain ⟨counted, fresh⟩ := ageVss_spec capture
  have counting : capture.vssCountdown.toNat = freshTicks reset ticks last := measuring.countdown
  have was : capture.fresh.goodVss = true ↔ 0 < freshTicks reset ticks last := measuring.goodVss
  have good : capture.ageVss.fresh.goodVss = true ↔ 0 < freshTicks reset ticks last - 1 := by
    rw [fresh, counting]
    split
    next one => exact iff_of_false Bool.false_ne_true (by omega)
    next => exact was.trans (by omega)
  exact
    { resets := (congrArg (·.vssResetTicks.toNat) (parameters_ageVss capture)).trans
        measuring.resets
      past := fun pulse seen => Nat.le_succ_of_le (measuring.past pulse seen)
      lastVss := fun pulse seen => aged.lastVss.trans (measuring.lastVss pulse seen)
      countdown := by rw [left, ← counting]; exact counted
      goodVss := left ▸ good }

end Measuring

namespace Following

theorem start {parameters : CaptureParameters} (undebounced : parameters.vssPauseTicks = 0) :
    Following parameters.vssResetTicks.toNat 0 none (Capture.new parameters).vssSide where
  resets := rfl
  past := nofun
  lastVss := nofun
  countdown := rfl
  goodVss := iff_of_false Bool.false_ne_true (Nat.lt_irrefl 0)
  undebounced := undebounced
  settled := rfl

theorem onVssEdge (following : Following reset ticks last capture.vssSide) (lapsing : 0 < reset)
    (now : UInt32) :
    Following reset ticks (some ⟨ticks, now⟩) (capture.onVssEdge now).vssSide := by
  have atOnce : capture.onVssEdge now = capture.creditVss now := if_pos following.undebounced
  rw [atOnce]
  exact ⟨following.toMeasuring.creditVss lapsing now, following.undebounced, following.settled⟩

theorem raw_onVssEdge (following : Following reset ticks last capture.vssSide) (now : UInt32) :
    (capture.onVssEdge now).raw =
      capture.raw + Trip.vssCredit (cyclesSince reset last ⟨ticks, now⟩) := by
  have atOnce : capture.onVssEdge now = capture.creditVss now := if_pos following.undebounced
  rw [atOnce, following.toMeasuring.raw_creditVss]

theorem ageVss (following : Following reset ticks last capture.vssSide) :
    Following reset (ticks + 1) last capture.ageVss.vssSide where
  toMeasuring := following.toMeasuring.ageVss
  undebounced := (congrArg CaptureParameters.vssPauseTicks (parameters_ageVss capture)).trans
    following.undebounced
  settled := (Wanes.ageVss capture).debounceCountdown.trans following.settled

/-- A tick ages the road-speed side and does nothing else to it. -/
theorem onTick (following : Following reset ticks last capture.vssSide) (now : UInt32) :
    Following reset (ticks + 1) last (capture.onTick now).vssSide := by
  have timed : Following reset ticks last
      (capture.countSystemCycles now).ageInjector.vssSide := by
    rw [vssSide_ageInjector]
    exact following
  rw [Capture.onTick, (sides_schedule _).2, ageDebounce_of_settled timed.ageVss.settled]
  exact timed.ageVss

/-- The counts of a run that goes on after a last edge. -/
theorem run {tally : Tally} (following : Following reset ticks last tally.capture.vssSide)
    (lapsing : 0 < reset) (actions : List Action)
    (fixed : ∀ action ∈ actions, action.isInstall = false) :
    (tally.run actions).total.vssPart =
      tally.total.vssPart + countedAfter reset last (vssStamps ticks actions) := by
  -- an edge becomes the last one, a tick makes the last one older
  induction actions generalizing ticks last tally with
  | nil =>
      rw [vssStamps, countedAfter_nil, add_zero]
      rfl
  | cons action rest induction =>
      obtain ⟨first, others⟩ := List.forall_mem_cons.mp fixed
      rw [Tally.run_cons]
      cases action using Action.vssCases with
      | edge now =>
          have stamped : Following reset ticks (some ⟨ticks, now⟩)
              (tally.act (.vssEdge now)).capture.vssSide := by
            rw [Tally.capture_act, act_vssEdge]
            exact following.onVssEdge lapsing now
          have credited : (tally.act (.vssEdge now)).total =
              tally.total + Trip.vssCredit (cyclesSince reset last ⟨ticks, now⟩) := by
            rw [Tally.total_event, handle, handleInterrupt, following.raw_onVssEdge, Tally.total,
              add_assoc]
          rw [induction stamped others, credited, Trip.vssPart_add_vssCredit, add_assoc, vssStamps,
            countedAfter_cons]
      | tick now =>
          have aged : Following reset (ticks + 1) last
              (tally.act (.tick now)).capture.vssSide := by
            rw [Tally.capture_act, act_tick]
            exact following.onTick now
          have uncredited : (tally.act (.tick now)).total = tally.total := by
            rw [Tally.total_event, handle, handleInterrupt,
              raw_onTick_of_settled following.settled, Tally.total]
          rw [induction aged others, uncredited, vssStamps]
      | install parameters => cases first
      | other action noEdge noTick fixed =>
          have kept : Following reset ticks last (tally.act action).capture.vssSide := by
            rw [Tally.capture_act, vssSide_act tally.capture noEdge noTick fixed]
            exact following
          rw [induction kept others, tally.vssPart_act noEdge noTick, vssStamps_cons noEdge noTick]

end Following

/-- An edge follows another at a spacing, before that one lapses. -/
def Stamp.Spaced (reset : Nat) (spacing : UInt32) (earlier later : Stamp) : Prop :=
  later.ticks - earlier.ticks < reset ∧ later.time = earlier.time + spacing

instance (reset : Nat) (spacing : UInt32) (earlier later : Stamp) :
    Decidable (earlier.Spaced reset spacing later) :=
  inferInstanceAs (Decidable (_ ∧ _))

theorem Stamp.Spaced.cyclesTo {spacing : UInt32} {earlier later : Stamp}
    (spaced : earlier.Spaced reset spacing later) : earlier.cyclesTo reset later = spacing := by
  obtain ⟨fresh, time⟩ := spaced
  rw [Stamp.cyclesTo, if_pos fresh, time, Clock.interval, UInt32.add_comm, UInt32.add_sub_cancel]

theorem cyclesBetween_of_spaced {spacing : UInt32} {edges : List Stamp}
    (chain : edges.IsChain (Stamp.Spaced reset spacing)) :
    cyclesBetween reset edges = (edges.length - 1) * spacing.toNat := by
  induction edges with
  | nil => exact (Nat.zero_mul _).symm
  | cons earlier rest induction =>
      cases rest with
      | nil => exact (Nat.zero_mul _).symm
      | cons later others =>
          obtain ⟨spaced, further⟩ := List.isChain_cons_cons.mp chain
          have first : cyclesBetween reset ((some earlier).toList ++ later :: others) =
              (cyclesSince reset (some earlier) later).toNat +
                cyclesBetween reset (later :: others) := cyclesBetween_append_cons later others
          rw [Option.toList_some, List.singleton_append] at first
          rw [first, induction further, cyclesSince, Option.elim_some, spaced.cyclesTo]
          simp only [List.length_cons]
          rw [Nat.add_sub_cancel, Nat.add_sub_cancel, Nat.succ_mul, Nat.add_comm]

/-- Without a debounce every road-speed edge is a pulse, and the cycles are those between
consecutive edges that have fewer than the reset ticks between them, whatever else happens. -/
theorem undebounced_edges_counted (parameters : CaptureParameters) (actions : List Action)
    (undebounced : parameters.vssPauseTicks = 0) (lapsing : 1 ≤ parameters.vssResetTicks.toNat)
    (fixed : ∀ action ∈ actions, action.isInstall = false) :
    let reset := parameters.vssResetTicks.toNat
    let edges := vssStamps 0 actions
    let total := ((Tally.new parameters).run actions).total
    total.vssPulses = edges.length.toUInt32 ∧
      total.vssCycles = (cyclesBetween reset edges).toUInt64 ∧
      ∀ spacing, edges.IsChain (Stamp.Spaced reset spacing) →
        total.vssCycles = ((edges.length - 1) * spacing.toNat).toUInt64 := by
  intro reset edges total
  have start : Following reset 0 none (Tally.new parameters).capture.vssSide :=
    .start undebounced
  have counted : total.vssPart = countedAfter reset none edges :=
    (start.run lapsing actions fixed).trans (zero_add _)
  have cycles : total.vssCycles = (cyclesBetween reset edges).toUInt64 :=
    congrArg Trip.vssCycles counted
  refine ⟨congrArg Trip.vssPulses counted, cycles, fun spacing chain => ?_⟩
  rw [← cyclesBetween_of_spaced chain]
  exact cycles

/-- Three edges, five cycles apart, around the time at which the clock wraps and a drain. -/
theorem three_edges_around_wrap_and_drain :
    let parameters := { CaptureParameters.inert with vssResetTicks := 2 }
    let actions : List Action :=
      [.vssEdge 4294967293, .tick 4294967294, .injectorClose 4294967295, .drain, .vssEdge 2,
        .event .wakeRequest, .tick 5, .vssEdge 7]
    let total := ((Tally.new parameters).run actions).total
    parameters.vssPauseTicks = 0 ∧ 1 ≤ parameters.vssResetTicks.toNat ∧
      (∀ action ∈ actions, action.isInstall = false) ∧
      (vssStamps 0 actions).IsChain (Stamp.Spaced parameters.vssResetTicks.toNat 5) ∧
      total.vssPulses = 3 ∧ total.vssCycles = 10 := by
  intro parameters actions total
  have undebounced : parameters.vssPauseTicks = 0 := rfl
  have lapsing : 1 ≤ parameters.vssResetTicks.toNat := by decide
  have fixed : ∀ action ∈ actions, action.isInstall = false := by decide
  have chain : (vssStamps 0 actions).IsChain
      (Stamp.Spaced parameters.vssResetTicks.toNat 5) := by decide
  obtain ⟨pulses, _, spaced⟩ := undebounced_edges_counted parameters actions undebounced lapsing fixed
  exact ⟨undebounced, lapsing, fixed, chain, pulses, spaced 5 chain⟩

end TripComputer.Capture
