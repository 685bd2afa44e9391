import LogosRln.Core.Run
import LogosRln.RateLimit

/-!
# One spiked clock reading

The retain candidate of a reservation is read off the wall clock, so a clock
that jumps ahead offers a far-future candidate.  The floor follows it only as
far as the rows at or below it reach, and a row is pinned to the candidate when
an earlier reservation under the same spike was made at the window's lower
edge.  Without such a row the epochs ahead of the honest history stay open;
with one the next reservation closes every epoch below the spiked window.
-/

namespace LogosRln.ClockSpike

open RateLimit Run

/-- What a request reads of its registry's clock: the current epoch and the
configured `max_epoch_gap`. -/
structure Clock where
  nowEpoch : UInt64
  gap : UInt64

/-- A request for a slot on behalf of a membership with this rate limit. -/
structure Request where
  rlnIdentifierHex : String
  epoch : UInt64
  rateLimit : UInt64

inductive Refusal where
  | outsideWindow
  | unavailable (error : AllocError)
  deriving DecidableEq

def Clock.accepts (clock : Clock) (epoch : UInt64) : Bool :=
  epochInWindow epoch clock.nowEpoch clock.gap

/-- The window's lower edge, the candidate `generate_proof` passes on. -/
def Clock.retainFloor (clock : Clock) : UInt64 :=
  saturatingSub clock.nowEpoch clock.gap

/-- The freshness gate and the allocator behind it. -/
def reserveAt (alloc : AllocationState) (clock : Clock) (request : Request) :
    Except Refusal (UInt64 × AllocationState) :=
  if !clock.accepts request.epoch then .error .outsideWindow
  else
    (reserveSlot alloc request.rlnIdentifierHex request.epoch clock.retainFloor
      request.rateLimit).mapError .unavailable

/-- A refused request leaves the allocation state as it found it. -/
def step (alloc : AllocationState) (reading : Clock × Request) :
    AllocationState × Except Refusal UInt64 :=
  match reserveAt alloc reading.1 reading.2 with
  | .ok (slot, alloc') => (alloc', .ok slot)
  | .error refusal => (alloc, .error refusal)

/-- The epochs in which a run took slots. -/
def reservedEpochs (alloc : AllocationState) (readings : List (Clock × Request)) : Set UInt64 :=
  {epoch | ∃ event ∈ trace step alloc readings,
    event.input.2.epoch = epoch ∧ ∃ slot, event.output = .ok slot}

/-- The slot budget of the request's application is not used up. -/
def Affordable (alloc : AllocationState) (request : Request) : Prop :=
  usedSlots alloc.allocations request.rlnIdentifierHex request.epoch < request.rateLimit

instance (alloc : AllocationState) (request : Request) : Decidable (Affordable alloc request) :=
  inferInstanceAs (Decidable (_ < _))

/-- Every epoch ahead of the reserved ones is served to whoever can afford it,
under any clock whose window holds it. -/
def FutureOpen (reserved : Set UInt64) (alloc : AllocationState) : Prop :=
  ∀ clock request, clock.accepts request.epoch → (∀ epoch ∈ reserved, epoch < request.epoch) →
    Affordable alloc request → ∃ taken, reserveAt alloc clock request = .ok taken

/-- A floor at most one past a reserved epoch. -/
def Behind (reserved : Set UInt64) (floor : UInt64) : Prop :=
  floor = 0 ∨ ∃ epoch ∈ reserved, floor ≤ saturatingSucc epoch

/-- The request takes no slot while a row sits at the retain candidate, unless
the candidate is no further than the history reaches. -/
def Unpinned (reserved : Set UInt64) (clock : Clock) (alloc : AllocationState)
    (request : Request) : Prop :=
  clock.accepts request.epoch → Affordable alloc request →
    (∃ row ∈ alloc.allocations, row.epoch = clock.retainFloor) → Behind reserved clock.retainFloor

/-! ## One reservation -/

theorem accepts_iff {clock : Clock} {epoch : UInt64} :
    clock.accepts epoch ↔
      clock.retainFloor ≤ epoch ∧ epoch ≤ saturatingAdd clock.nowEpoch clock.gap := by
  simp [Clock.accepts, Clock.retainFloor, epochInWindow]

/-- A floor is behind the history exactly when it closes no epoch ahead of it. -/
theorem behind_iff {reserved : Set UInt64} {floor : UInt64} :
    Behind reserved floor ↔ ∀ epoch, (∀ past ∈ reserved, past < epoch) → floor ≤ epoch := by
  constructor
  · rintro (rfl | ⟨past, hpast, hfloor⟩) epoch hahead
    · exact UInt64.zero_le
    · exact UInt64.le_trans hfloor (saturatingSucc_le (hahead past hpast))
  · intro hopen
    by_contra hbehind
    obtain ⟨hzero, hpast⟩ := not_or.mp hbehind
    have hahead : ∀ past ∈ reserved, past < floor - 1 := by
      intro past hmember
      have hsucc := fun hle => hpast ⟨past, hmember, hle⟩
      simp only [saturatingSucc] at hsucc
      split at hsucc <;> grind
    have hle := hopen (floor - 1) hahead
    grind

/-- An admitted request that can afford it is served exactly when its epoch is
not below the persisted floor. -/
theorem reserveAt_ok_iff {alloc : AllocationState} {clock : Clock} {request : Request}
    (haccepts : clock.accepts request.epoch) (hafford : Affordable alloc request) :
    (∃ taken, reserveAt alloc clock request = .ok taken) ↔ alloc.pruneFloor ≤ request.epoch := by
  have hwindow := (accepts_iff.mp haccepts).1
  have hthreshold : reserveThreshold alloc clock.retainFloor ≤ request.epoch ↔
      alloc.pruneFloor ≤ request.epoch := by
    rw [← UInt64.not_lt, lt_reserveThreshold_iff hwindow, UInt64.not_lt]
  cases htake : takeSlot alloc.allocations request.rlnIdentifierHex request.epoch
      request.rateLimit with
  | error error =>
      exact absurd hafford (UInt64.not_lt.mpr (takeSlot_eq_error_iff.mp htake).2)
  | ok taken =>
      rw [← hthreshold]
      by_cases hbelow : request.epoch < reserveThreshold alloc clock.retainFloor
      · simp [reserveAt, haccepts, reserveSlot, hbelow, Except.mapError,
          UInt64.not_le.mpr hbelow]
      · simp [reserveAt, haccepts, reserveSlot, hbelow, htake, Except.mapError, Except.map,
          UInt64.not_lt.mp hbelow]

theorem reserveAt_eq_ok_iff {alloc alloc' : AllocationState} {clock : Clock} {request : Request}
    {slot : UInt64} :
    reserveAt alloc clock request = .ok (slot, alloc') ↔
      clock.accepts request.epoch ∧ reserveSlot alloc request.rlnIdentifierHex request.epoch
        clock.retainFloor request.rateLimit = .ok (slot, alloc') := by
  cases haccepts : clock.accepts request.epoch with
  | false => simp [reserveAt, haccepts]
  | true =>
      cases hslot : reserveSlot alloc request.rlnIdentifierHex request.epoch clock.retainFloor
        request.rateLimit <;> simp [reserveAt, haccepts, hslot, Except.mapError]

/-- A request is refused and changes nothing, or it takes a slot, moves the
floor to the threshold and leaves a row in its own epoch beside old ones. -/
theorem step_cases (alloc : AllocationState) (clock : Clock) (request : Request) :
    (∃ refusal, step alloc (clock, request) = (alloc, .error refusal)) ∨
      ∃ slot alloc', step alloc (clock, request) = (alloc', .ok slot) ∧
        clock.accepts request.epoch ∧ Affordable alloc request ∧
        alloc'.pruneFloor = reserveThreshold alloc clock.retainFloor ∧
        ∀ row ∈ alloc'.allocations, alloc'.pruneFloor ≤ row.epoch ∧
          (row.epoch = request.epoch ∨ ∃ old ∈ alloc.allocations, old.epoch = row.epoch) := by
  cases hreserve : reserveAt alloc clock request with
  | error refusal => exact Or.inl ⟨refusal, by simp [step, hreserve]⟩
  | ok taken =>
      obtain ⟨slot, alloc'⟩ := taken
      obtain ⟨haccepts, hslot⟩ := reserveAt_eq_ok_iff.mp hreserve
      obtain ⟨-, allocations, htake, rfl⟩ := reserveSlot_eq_ok_iff.mp hslot
      obtain ⟨hused, hlimit, -⟩ := takeSlot_spec htake
      have hafford : Affordable alloc request := by
        rw [Affordable, ← hused]
        exact hlimit
      have hstep := congrArg (fun reserved => match reserved with
        | .ok (slot, alloc') => (alloc', Except.ok slot)
        | .error refusal => (alloc, Except.error refusal)) hreserve
      refine Or.inr ⟨slot, _, hstep, haccepts, hafford, rfl, ?_⟩
      intro row hrow
      obtain ⟨hmember, hkept⟩ := List.mem_filter.mp hrow
      exact ⟨by simpa using hkept, epoch_of_mem_takeSlot htake hmember⟩

/-! ## The honest history -/

/-- An epoch ahead of the floor and of every row. -/
def Ahead (epoch : UInt64) (alloc : AllocationState) : Prop :=
  alloc.pruneFloor ≤ epoch ∧ ∀ row ∈ alloc.allocations, row.epoch < epoch

/-- Slots taken below an epoch leave it ahead. -/
theorem ahead_run {epoch : UInt64} {alloc : AllocationState}
    {readings : List (Clock × Request)} (hahead : Ahead epoch alloc)
    (hreserved : ∀ past ∈ reservedEpochs alloc readings, past < epoch) :
    Ahead epoch (run step alloc readings) := by
  induction readings generalizing alloc with
  | nil => exact hahead
  | cons reading readings ih =>
      obtain ⟨clock, request⟩ := reading
      have hrest : ∀ past ∈ reservedEpochs (step alloc (clock, request)).1 readings,
          past < epoch := by
        rintro past ⟨event, hevent, hpast⟩
        exact hreserved past ⟨event, List.mem_cons_of_mem _ hevent, hpast⟩
      refine ih ?_ hrest
      rcases step_cases alloc clock request with
        ⟨refusal, hstep⟩ | ⟨slot, alloc', hstep, -, -, hfloor, hrows⟩
      · rw [hstep]
        exact hahead
      · have hpast : request.epoch < epoch :=
          hreserved _ ⟨_, List.mem_cons_self, rfl, slot, by rw [hstep]⟩
        rw [hstep]
        refine ⟨?_, fun row hrow => ?_⟩
        · rw [hfloor]
          exact reserveThreshold_le hahead.1 fun row hrow _ => Or.inl (hahead.2 row hrow)
        · rcases (hrows row hrow).2 with hnew | ⟨old, hold, hepoch⟩
          · exact hnew ▸ hpast
          · exact hepoch ▸ hahead.2 old hold

/-! ## The spike -/

/-- An epoch the floor has not passed, with every row either behind it or at
the spiked candidate and beyond. -/
def Reachable (epoch candidate : UInt64) (alloc : AllocationState) : Prop :=
  alloc.pruneFloor ≤ epoch ∧
    ∀ row ∈ alloc.allocations, row.epoch < epoch ∨ candidate ≤ row.epoch

theorem reachable_step {reserved : Set UInt64} {clock : Clock} {alloc : AllocationState}
    {request : Request} {epoch : UInt64} (hahead : ∀ past ∈ reserved, past < epoch)
    (hreachable : Reachable epoch clock.retainFloor alloc)
    (hunpinned : Unpinned reserved clock alloc request) :
    Reachable epoch clock.retainFloor (step alloc (clock, request)).1 := by
  rcases step_cases alloc clock request with
    ⟨refusal, hstep⟩ | ⟨slot, alloc', hstep, haccepts, hafford, hfloor, hrows⟩
  · rw [hstep]
    exact hreachable
  · rw [hstep]
    refine ⟨?_, fun row hrow => ?_⟩
    · rw [hfloor]
      refine reserveThreshold_le hreachable.1 fun row hrow hcandidate => ?_
      rcases hreachable.2 row hrow with hbehind | hpast
      · exact Or.inl hbehind
      · -- a row that is neither behind nor beyond sits at the candidate
        have hat := UInt64.le_antisymm hcandidate hpast
        exact Or.inr (behind_iff.mp (hunpinned haccepts hafford ⟨row, hrow, hat⟩) epoch hahead)
    · rcases (hrows row hrow).2 with hnew | ⟨old, hold, hepoch⟩
      · exact Or.inr (hnew ▸ (accepts_iff.mp haccepts).1)
      · exact hepoch ▸ hreachable.2 old hold

theorem pruneFloor_le_step (alloc : AllocationState) (clock : Clock) (request : Request) :
    alloc.pruneFloor ≤ (step alloc (clock, request)).1.pruneFloor := by
  rcases step_cases alloc clock request with
    ⟨refusal, hstep⟩ | ⟨slot, alloc', hstep, -, -, hfloor, -⟩
  · rw [hstep]
    exact UInt64.le_refl _
  · rw [hstep, hfloor]
    exact pruneFloor_le_reserveThreshold alloc _

/-- No row is below the floor. -/
def AboveFloor (alloc : AllocationState) : Prop :=
  ∀ row ∈ alloc.allocations, alloc.pruneFloor ≤ row.epoch

theorem aboveFloor_step {alloc : AllocationState} (habove : AboveFloor alloc)
    (reading : Clock × Request) : AboveFloor (step alloc reading).1 := by
  rcases step_cases alloc reading.1 reading.2 with
    ⟨refusal, hstep⟩ | ⟨slot, alloc', hstep, -, -, -, hrows⟩
  · rw [hstep]
    exact habove
  · rw [hstep]
    exact fun row hrow => (hrows row hrow).1

theorem aboveFloor_run (readings : List (Clock × Request)) :
    AboveFloor (run step {} readings) := by
  have hinit : AboveFloor {} := by simp [AboveFloor]
  exact @invariant_run _ _ _ step (fun _ _ => True) AboveFloor
    (fun _ reading habove _ => aboveFloor_step habove reading) _ _ hinit (guarded_true _ _)

/-- A served request that finds a row at the candidate drags the floor there. -/
theorem retainFloor_le_step {alloc : AllocationState} {clock : Clock} {request : Request}
    {row : EpochAllocation} (habove : AboveFloor alloc) (hrow : row ∈ alloc.allocations)
    (hcandidate : row.epoch = clock.retainFloor) (haccepts : clock.accepts request.epoch)
    (hafford : Affordable alloc request) :
    clock.retainFloor ≤ (step alloc (clock, request)).1.pruneFloor := by
  have hopen : alloc.pruneFloor ≤ request.epoch :=
    UInt64.le_trans (habove row hrow) (hcandidate ▸ (accepts_iff.mp haccepts).1)
  obtain ⟨taken, htaken⟩ := (reserveAt_ok_iff haccepts hafford).mpr hopen
  rcases step_cases alloc clock request with
    ⟨refusal, hstep⟩ | ⟨slot, alloc', hstep, -, -, hfloor, -⟩
  · simp [step, htaken] at hstep
  · rw [hstep, hfloor, ← hcandidate]
    exact le_reserveThreshold hrow

/-- The machine under one clock reading. -/
def spikedStep (clock : Clock) (alloc : AllocationState) (request : Request) :
    AllocationState × Except Refusal UInt64 :=
  step alloc (clock, request)

theorem pruneFloor_le_spike (clock : Clock) (alloc : AllocationState) (spike : List Request) :
    alloc.pruneFloor ≤ (run (spikedStep clock) alloc spike).pruneFloor := by
  induction spike generalizing alloc with
  | nil => exact UInt64.le_refl _
  | cons request spike ih => exact UInt64.le_trans (pruneFloor_le_step alloc clock request) (ih _)

/-- The floor after the spike closes no epoch ahead of the history exactly when
no served request found a row pinned to the candidate. -/
theorem guarded_iff_floor {reserved : Set UInt64} {clock : Clock} {alloc : AllocationState}
    {spike : List Request} (habove : AboveFloor alloc)
    (hahead : ∀ epoch, (∀ past ∈ reserved, past < epoch) →
      Reachable epoch clock.retainFloor alloc) :
    Guarded (spikedStep clock) (Unpinned reserved clock) alloc spike ↔
      ∀ epoch, (∀ past ∈ reserved, past < epoch) →
        (run (spikedStep clock) alloc spike).pruneFloor ≤ epoch := by
  constructor
  · intro hguarded epoch hepoch
    exact (invariant_run (fun _ _ => reachable_step hepoch) (hahead epoch hepoch) hguarded).1
  · intro hopen
    induction spike generalizing alloc with
    | nil => trivial
    | cons request spike ih =>
        have hunpinned : Unpinned reserved clock alloc request := by
          rintro haccepts hafford ⟨row, hrow, hcandidate⟩
          refine behind_iff.mpr fun epoch hepoch => ?_
          have hpinned := retainFloor_le_step habove hrow hcandidate haccepts hafford
          exact UInt64.le_trans hpinned
            (UInt64.le_trans (pruneFloor_le_spike clock _ spike) (hopen epoch hepoch))
        exact ⟨hunpinned, ih (aboveFloor_step habove (clock, request))
          (fun epoch hepoch => reachable_step hepoch (hahead epoch hepoch) hunpinned) hopen⟩

/-- The future is open exactly when the floor closes no epoch ahead of the
history. -/
theorem futureOpen_iff {reserved : Set UInt64} {alloc : AllocationState}
    (habove : AboveFloor alloc) :
    FutureOpen reserved alloc ↔
      ∀ epoch, (∀ past ∈ reserved, past < epoch) → alloc.pruneFloor ≤ epoch := by
  constructor
  · intro hopen epoch hepoch
    by_contra hbelow
    -- below the floor no row is left, so one slot is affordable there
    let request : Request := ⟨"", epoch, 1⟩
    have hafford : Affordable alloc request := by
      have hnone : alloc.allocations.find? (EpochAllocation.isFor "" epoch) = none := by
        refine List.find?_eq_none.mpr fun row hrow => ?_
        have hrowAbove := habove row hrow
        simp only [EpochAllocation.isFor, Bool.and_eq_true, beq_iff_eq]
        rintro ⟨-, rfl⟩
        exact hbelow hrowAbove
      simp [Affordable, request, usedSlots, hnone]
    have haccepts : (Clock.mk epoch 0).accepts request.epoch := by
      simp [accepts_iff, Clock.retainFloor, saturatingSub, saturatingAdd, request]
    have hserved := hopen ⟨epoch, 0⟩ request haccepts hepoch hafford
    exact hbelow ((reserveAt_ok_iff haccepts hafford).mp hserved)
  · intro hfloor clock request haccepts hepoch hafford
    exact (reserveAt_ok_iff haccepts hafford).mpr (hfloor request.epoch hepoch)

/-- After any history of reservations and any requests under one spiked clock,
the epochs ahead of the history stay open exactly when no request that takes a
slot finds a row pinned to the spiked candidate. -/
theorem futureOpen_after_spike_iff (history : List (Clock × Request)) (clock : Clock)
    (spike : List Request) :
    FutureOpen (reservedEpochs {} history) (run (spikedStep clock) (run step {} history) spike) ↔
      Guarded (spikedStep clock) (Unpinned (reservedEpochs {} history) clock)
        (run step {} history) spike := by
  have habove := aboveFloor_run history
  have hspiked := @invariant_run _ _ _ (spikedStep clock) (fun _ _ => True) AboveFloor
    (fun _ request habove _ => aboveFloor_step habove (clock, request)) _ spike habove
    (guarded_true _ _)
  rw [futureOpen_iff hspiked, guarded_iff_floor habove]
  intro epoch hepoch
  have hahead : Ahead epoch (run step {} history) :=
    ahead_run ⟨UInt64.zero_le, by simp⟩ hepoch
  exact ⟨hahead.1, fun row hrow => Or.inl (hahead.2 row hrow)⟩

/-- A clock at 1 000 000 with a gap of one, a first request at the window's
lower edge and a second one: epoch 12 is refused from then on, although only
epoch 10 was reserved before. -/
theorem two_requests_brick_the_future :
    ¬ ∀ (history : List (Clock × Request)) (clock : Clock) (spike : List Request), 1 ≤ clock.gap →
      FutureOpen (reservedEpochs {} history)
        (run (spikedStep clock) (run step {} history) spike) := by
  intro hclaim
  have hopen := hclaim [(⟨10, 1⟩, ⟨"a", 10, 5⟩)] ⟨1000000, 1⟩
    [⟨"a", 999999, 5⟩, ⟨"a", 1000000, 5⟩] (by decide)
  obtain ⟨taken, htaken⟩ := hopen ⟨12, 1⟩ ⟨"a", 12, 5⟩ (by decide)
    (by rintro epoch ⟨event, hevent, rfl, -⟩
        rw [List.mem_singleton.mp hevent]
        decide) (by decide +kernel)
  have hrefused : reserveAt (run (spikedStep ⟨1000000, 1⟩) (run step {}
      [(⟨10, 1⟩, ⟨"a", 10, 5⟩)]) [⟨"a", 999999, 5⟩, ⟨"a", 1000000, 5⟩]) ⟨12, 1⟩ ⟨"a", 12, 5⟩ =
        .error (.unavailable .epochBelowFloor) := by
    decide +kernel
  rw [hrefused] at htaken
  cases htaken

end LogosRln.ClockSpike
