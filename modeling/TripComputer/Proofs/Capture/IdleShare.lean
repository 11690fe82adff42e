import TripComputer.Proofs.Capture.ElapsedTime

/-!
# The idle trip holds a share of the raw trip

Whatever is credited to the idle trip is credited to the raw trip as well.  So its counters
are no larger, as long as those of the raw trip do not wrap: its cycles cannot, because they
are elapsed cycles, and its pulses cannot before there have been as many edges.
-/

namespace TripComputer.Capture

/-- Two pulse counters of which the second has counted a part of what the first has, and the
first no more than the edges, of which some may be held back. -/
def Counted (held edges : Nat) (raw idle : UInt32) : Prop :=
  ∃ all part, part ≤ all ∧ all + held ≤ edges ∧ raw = all.toUInt32 ∧ idle = part.toUInt32

namespace Counted

variable {held edges : Nat} {raw idle : UInt32}

theorem more (counted : Counted held edges raw idle) {many : Nat} (enough : edges ≤ many) :
    Counted held many raw idle := by
  obtain ⟨all, part, share, bound, rest⟩ := counted
  exact ⟨all, part, share, Nat.le_trans bound enough, rest⟩

theorem creditRaw (counted : Counted held edges raw idle) :
    Counted held (edges + 1) (raw + 1) idle := by
  obtain ⟨all, part, share, bound, rfl, rfl⟩ := counted
  refine ⟨all + 1, part, by omega, by omega, ?_, rfl⟩
  simp [UInt32.ofNat_add]

theorem credit (counted : Counted held edges raw idle) :
    Counted held (edges + 1) (raw + 1) (idle + 1) := by
  obtain ⟨all, part, share, bound, rfl, rfl⟩ := counted
  refine ⟨all + 1, part + 1, by omega, by omega, ?_, ?_⟩ <;> simp [UInt32.ofNat_add]

theorem creditIf (counted : Counted held edges raw idle) (accepted : Prop)
    [Decidable accepted] :
    Counted held (edges + 1) (raw + if accepted then 1 else 0) idle ∧
      Counted held (edges + 1) (raw + if accepted then 1 else 0)
        (idle + if accepted then 1 else 0) := by
  by_cases yes : accepted
  · rw [if_pos yes]
    exact ⟨counted.creditRaw, counted.credit⟩
  · rw [if_neg yes, UInt32.add_zero, UInt32.add_zero]
    exact ⟨counted.more (Nat.le_succ edges), counted.more (Nat.le_succ edges)⟩

theorem le (counted : Counted held edges raw idle) (few : edges < 2 ^ 32) : idle ≤ raw := by
  obtain ⟨all, part, share, bound, rfl, rfl⟩ := counted
  rw [UInt32.le_iff_toNat_le, Nat.toUInt32_eq, Nat.toUInt32_eq, UInt32.toNat_ofNat',
    UInt32.toNat_ofNat', Nat.mod_eq_of_lt (by omega), Nat.mod_eq_of_lt (by omega)]
  exact share

end Counted

/-- Whether the debounce holds back an edge, as a number of edges. -/
def heldBack (capture : Capture) : Nat :=
  if capture.debounceCountdown = 0 then 0 else 1

/-- The idle trip within the raw trip, after so many edges of the road-speed sensor and of the
injectors. -/
structure IdleShare (vssEdges injectorEdges : Nat) (capture : Capture) : Prop where
  vssPulses : Counted capture.heldBack vssEdges capture.raw.vssPulses capture.rawIdle.vssPulses
  injectorPulses :
    Counted 0 injectorEdges capture.raw.injectorPulses capture.rawIdle.injectorPulses
  vssCycles : capture.rawIdle.vssCycles.toNat ≤ capture.raw.vssCycles.toNat
  injectorCycles : capture.rawIdle.injectorCycles.toNat ≤ capture.raw.injectorCycles.toNat
  injectorOpenCycles :
    capture.rawIdle.injectorOpenCycles.toNat ≤ capture.raw.injectorOpenCycles.toNat

/-- Where the larger total does not wrap, crediting both or only the larger one keeps them
in order. -/
theorem le_add_of_le {raw idle : UInt64} (cycles : UInt32) (share : idle.toNat ≤ raw.toNat)
    (room : raw.toNat + cycles.toNat < 2 ^ 64) :
    (idle + cycles.toUInt64).toNat ≤ (raw + cycles.toUInt64).toNat ∧
      idle.toNat ≤ (raw + cycles.toUInt64).toNat := by
  simp only [UInt64.toNat_add, UInt32.toNat_toUInt64]
  omega

/-- The idle trip takes the credit of a closing, or does not. -/
theorem rawIdle_onInjectorClose (capture : Capture) (now : UInt32) :
    (capture.onInjectorClose now).rawIdle = capture.rawIdle ∨
      (capture.onInjectorClose now).rawIdle = capture.rawIdle +
        Trip.injectorCredit (capture.judgeDuration now).1 capture.engineCycle := by
  obtain ⟨_, rawIdle, _, cycle, _⟩ := judgeDuration_spec capture now
  by_cases idle : (capture.parameters.trackIdle && !capture.fresh.goodVss) = true
  · right
    rw [← rawIdle, ← cycle, ← Trip.creditInjector_eq_add]
    exact if_pos idle
  · left
    rw [← rawIdle]
    exact if_neg idle

variable {vssEdges injectorEdges first now time drained drainedOpen : Nat}
  {capture later : Capture}

namespace IdleShare

/-- Where nothing is credited yet, only an edge that is held back is to come. -/
theorem uncredited (capture : Capture) (raw : capture.raw = .zero) (rawIdle : capture.rawIdle = .zero) :
    IdleShare capture.heldBack 0 capture := by
  constructor <;> rw [raw, rawIdle]
  · exact ⟨0, 0, Nat.le_refl 0, Nat.le_of_eq (Nat.zero_add _), rfl, rfl⟩
  · exact ⟨0, 0, Nat.le_refl 0, Nat.le_refl 0, rfl, rfl⟩

theorem more (share : IdleShare vssEdges injectorEdges capture) {vssMany injectorMany : Nat}
    (vssEnough : vssEdges ≤ vssMany) (injectorEnough : injectorEdges ≤ injectorMany) :
    IdleShare vssMany injectorMany capture :=
  { share with
    vssPulses := share.vssPulses.more vssEnough
    injectorPulses := share.injectorPulses.more injectorEnough }

theorem le (share : IdleShare vssEdges injectorEdges capture)
    (few : vssEdges + injectorEdges < 2 ^ 32) (counter : Counter) :
    capture.rawIdle.get counter ≤ capture.raw.get counter := by
  rw [UInt64.le_iff_toNat_le]
  cases counter with
  | vssPulses =>
      have pulses := share.vssPulses.le (by omega)
      simpa [Trip.get, UInt32.le_iff_toNat_le] using pulses
  | injectorPulses =>
      have pulses := share.injectorPulses.le (by omega)
      simpa [Trip.get, UInt32.le_iff_toNat_le] using pulses
  | vssCycles => exact share.vssCycles
  | injectorCycles => exact share.injectorCycles
  | injectorOpenCycles => exact share.injectorOpenCycles

theorem wanes (share : IdleShare vssEdges injectorEdges capture) (wanes : Wanes capture later) :
    IdleShare vssEdges injectorEdges later := by
  obtain ⟨raw, rawIdle, debounceCountdown, _⟩ := wanes
  obtain ⟨vssPulses, injectorPulses, vssCycles, injectorCycles, injectorOpenCycles⟩ := share
  constructor <;> simpa only [heldBack, raw, rawIdle, debounceCountdown]

theorem creditVss (share : IdleShare vssEdges injectorEdges capture)
    (timely : VssTimely first now drained capture) (ordered : now ≤ time)
    (bounded : time < 2 ^ 64) :
    IdleShare (vssEdges + 1) injectorEdges (capture.creditVss time.toUInt32) := by
  have interval := timely.interval_le ordered
  obtain ⟨both, rawOnly⟩ := le_add_of_le
    (if capture.fresh.goodVss then Clock.interval capture.lastVss time.toUInt32 else 0)
    share.vssCycles (by omega)
  by_cases idle : (capture.parameters.trackIdle && !capture.fresh.goodInjector) = true
  · have rawIdle : (capture.creditVss time.toUInt32).rawIdle = capture.rawIdle.creditVss
        (if capture.fresh.goodVss then Clock.interval capture.lastVss time.toUInt32 else 0) :=
      if_pos idle
    constructor <;> rw [rawIdle]
    · exact share.vssPulses.credit
    · exact share.injectorPulses
    · exact both
    · exact share.injectorCycles
    · exact share.injectorOpenCycles
  · have rawIdle : (capture.creditVss time.toUInt32).rawIdle = capture.rawIdle := if_neg idle
    constructor <;> rw [rawIdle]
    · exact share.vssPulses.creditRaw
    · exact share.injectorPulses
    · exact rawOnly
    · exact share.injectorCycles
    · exact share.injectorOpenCycles

theorem onVssEdge (share : IdleShare vssEdges injectorEdges capture)
    (timely : VssTimely first now drained capture) (ordered : now ≤ time)
    (bounded : time < 2 ^ 64) :
    IdleShare (vssEdges + 1) injectorEdges (capture.onVssEdge time.toUInt32) := by
  rcases onVssEdge_cases capture time.toUInt32 with ignored | atOnce | ⟨settled, pause, pauses, held⟩
  · rw [ignored]
    exact share.more (Nat.le_succ vssEdges) (Nat.le_refl injectorEdges)
  · rw [atOnce]
    exact share.creditVss timely ordered bounded
  · rw [held]
    refine { share with vssPulses := ?_ }
    obtain ⟨all, part, partOfAll, bound, counters⟩ := share.vssPulses
    refine ⟨all, part, partOfAll, ?_, counters⟩
    simp only [heldBack, settled, pauses, if_true, if_false] at bound ⊢
    omega

theorem onTick (share : IdleShare vssEdges injectorEdges capture)
    (timely : VssTimely first now drained capture) (ordered : now ≤ time)
    (bounded : time < 2 ^ 64) :
    IdleShare vssEdges injectorEdges (capture.onTick time.toUInt32) := by
  obtain ⟨aged, before, after⟩ := onTick_spec capture time.toUInt32
  have agedShare := share.wanes before
  have agedTimely := timely.wanes before
  apply IdleShare.wanes _ after
  rcases ageDebounce_cases aged time.toUInt32 with same | ⟨held, ⟨left, goesOn, counted⟩ | ends⟩
  · rw [same]
    exact agedShare
  · rw [counted]
    refine { agedShare with vssPulses := ?_ }
    simpa only [heldBack, held, goesOn, if_false] using agedShare.vssPulses
  · -- the edge that is released now was counted when it came
    obtain ⟨all, part, partOfAll, bound, counters⟩ := agedShare.vssPulses
    simp only [heldBack, held, if_false] at bound
    obtain ⟨others, rfl⟩ := Nat.exists_eq_add_of_le' (Nat.le_of_add_left_le bound)
    have released : IdleShare others injectorEdges { aged with debounceCountdown := 0 } := by
      refine { agedShare with vssPulses := ⟨all, part, partOfAll, ?_, counters⟩ }
      simp only [heldBack, if_true]
      omega
    have releasedTimely : VssTimely first now drained { aged with debounceCountdown := 0 } :=
      agedTimely
    rw [ends]
    exact released.creditVss releasedTimely ordered bounded

theorem onInjectorOpen (share : IdleShare vssEdges injectorEdges capture) (now : UInt32) :
    IdleShare vssEdges injectorEdges (capture.onInjectorOpen now) := by
  obtain ⟨raw, rawIdle, _⟩ := onInjectorOpen_spec capture now
  have same := sameVss_onInjectorOpen capture now
  obtain ⟨vssPulses, injectorPulses, vssCycles, injectorCycles, injectorOpenCycles⟩ := share
  constructor <;> simpa only [heldBack, raw, rawIdle, same.debounceCountdown]

theorem onInjectorClose (share : IdleShare vssEdges injectorEdges capture)
    (timely : InjectorTimely first now drained drainedOpen capture) (ordered : now ≤ time)
    (bounded : time < 2 ^ 64) :
    IdleShare vssEdges (injectorEdges + 1) (capture.onInjectorClose time.toUInt32) := by
  have judged := timely.judged_le ordered
  obtain ⟨opening, after, before, _, total, _⟩ := timely
  obtain ⟨bothCycles, rawCycles⟩ :=
    le_add_of_le capture.engineCycle share.injectorCycles (by omega)
  obtain ⟨bothOpen, rawOpen⟩ :=
    le_add_of_le (capture.judgeDuration time.toUInt32).1 share.injectorOpenCycles (by omega)
  obtain ⟨rawPulse, bothPulse⟩ :=
    share.injectorPulses.creditIf ((capture.judgeDuration time.toUInt32).1 > 0)
  obtain ⟨vssPulses, _, vssCycles, _, _⟩ := share
  have raw := raw_onInjectorClose capture time.toUInt32
  have held : (capture.onInjectorClose time.toUInt32).heldBack = capture.heldBack := by
    rw [heldBack, (sameVss_onInjectorClose capture time.toUInt32).debounceCountdown]
    rfl
  rcases rawIdle_onInjectorClose capture time.toUInt32 with kept | credited
  · constructor <;> rw [raw, kept]
    · rw [held]
      change Counted _ _ (capture.raw.vssPulses + 0) _
      rwa [UInt32.add_zero]
    · exact rawPulse
    · change _ ≤ (capture.raw.vssCycles + 0).toNat
      rwa [UInt64.add_zero]
    · exact rawCycles
    · exact rawOpen
  · constructor <;> rw [raw, credited]
    · rw [held]
      change Counted _ _ (capture.raw.vssPulses + 0) (capture.rawIdle.vssPulses + 0)
      rwa [UInt32.add_zero, UInt32.add_zero]
    · exact bothPulse
    · change (capture.rawIdle.vssCycles + 0).toNat ≤ (capture.raw.vssCycles + 0).toNat
      rwa [UInt64.add_zero, UInt64.add_zero]
    · exact bothCycles
    · exact bothOpen

end IdleShare

end TripComputer.Capture
