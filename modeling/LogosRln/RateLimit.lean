import Mathlib.Data.Set.Basic

/-!
# Rate-limit slots

Epoch derivation and the per-application `message_id` allocation.  Rows are
keyed by `(rln_identifier, epoch)`; a persisted, monotone floor stands for the
rows that were pruned below it.  The set of spent slots is the purpose of the
two together: a reservation takes a slot outside the set, puts it in, and takes
nothing out.
-/

namespace LogosRln.RateLimit

/-- One application's slot usage within one epoch: `used` is the next unused
`message_id`. -/
structure EpochAllocation where
  rlnIdentifier : String
  epoch : UInt64
  used : UInt64
  deriving DecidableEq

/-- The MAC-covered reservation state.  `epochSizeSec = 0` means that no epoch
size has been adopted yet. -/
structure AllocationState where
  allocations : List EpochAllocation := []
  epochSizeSec : UInt64 := 0
  pruneFloor : UInt64 := 0
  deriving DecidableEq

inductive AllocError where
  | budgetExhausted
  | epochBelowFloor
  deriving DecidableEq

/-- `floor(now_unix / epoch_size_sec)`, a zero size read as one. -/
def currentEpoch (nowUnix epochSizeSec : UInt64) : UInt64 :=
  nowUnix / max epochSizeSec 1

def saturatingSucc (epoch : UInt64) : UInt64 :=
  if epoch + 1 = 0 then epoch else epoch + 1

def saturatingSub (left right : UInt64) : UInt64 :=
  if right ≤ left then left - right else 0

def saturatingAdd (left right : UInt64) : UInt64 :=
  if left ≤ left + right then left + right else UInt64.ofNat (UInt64.size - 1)

def EpochAllocation.isFor (rlnIdentifierHex : String) (epoch : UInt64)
    (row : EpochAllocation) : Bool :=
  row.rlnIdentifier == rlnIdentifierHex && row.epoch == epoch

/-- The floor a reservation would advance to: one past the highest allocated
epoch at or below the candidate, never past the candidate, never back. -/
def reserveThreshold (alloc : AllocationState) (retainFloorCandidate : UInt64) : UInt64 :=
  let highest := ((alloc.allocations.filter fun row => row.epoch ≤ retainFloorCandidate).map
    fun row => saturatingSucc row.epoch).max?
  match highest with
  | some highest => max alloc.pruneFloor (min retainFloorCandidate highest)
  | none => alloc.pruneFloor

/-- `iter_mut().find(..)` and `row.used += 1`. -/
def bumpRow (rlnIdentifierHex : String) (epoch : UInt64) :
    List EpochAllocation → List EpochAllocation
  | [] => []
  | row :: rows =>
      if row.isFor rlnIdentifierHex epoch then { row with used := row.used + 1 } :: rows
      else row :: bumpRow rlnIdentifierHex epoch rows

/-- The slot taken and the rows that record it. -/
def takeSlot (allocations : List EpochAllocation) (rlnIdentifierHex : String)
    (epoch rateLimit : UInt64) : Except AllocError (UInt64 × List EpochAllocation) :=
  match allocations.find? (EpochAllocation.isFor rlnIdentifierHex epoch) with
  | some row =>
      if rateLimit ≤ row.used then .error .budgetExhausted
      else .ok (row.used, bumpRow rlnIdentifierHex epoch allocations)
  | none =>
      if rateLimit = 0 then .error .budgetExhausted
      else .ok (0, allocations ++ [⟨rlnIdentifierHex, epoch, 1⟩])

def reserveSlot (alloc : AllocationState) (rlnIdentifierHex : String)
    (epoch retainFloorCandidate rateLimit : UInt64) :
    Except AllocError (UInt64 × AllocationState) :=
  let threshold := reserveThreshold alloc retainFloorCandidate
  if epoch < threshold then .error .epochBelowFloor
  else
    (takeSlot alloc.allocations rlnIdentifierHex epoch rateLimit).map fun (slot, allocations) =>
      (slot, { alloc with
        pruneFloor := threshold
        allocations := allocations.filter fun row => threshold ≤ row.epoch })

/-- `(now - gap ..= now + gap).contains(&epoch)`, both ends saturating. -/
def epochInWindow (epoch nowEpoch gap : UInt64) : Bool :=
  saturatingSub nowEpoch gap ≤ epoch && epoch ≤ saturatingAdd nowEpoch gap

/-- Slots already issued for one application and epoch, as far as the rows
remember. -/
def usedSlots (allocations : List EpochAllocation) (rlnIdentifierHex : String)
    (epoch : UInt64) : UInt64 :=
  ((allocations.find? (EpochAllocation.isFor rlnIdentifierHex epoch)).map
    EpochAllocation.used).getD 0

def remaining (allocations : List EpochAllocation) (rlnIdentifierHex : String)
    (epoch rateLimit : UInt64) : UInt64 :=
  saturatingSub rateLimit (usedSlots allocations rlnIdentifierHex epoch)

/-! ## The threshold -/

private theorem le_max_left (left right : UInt64) : left ≤ max left right := by
  rw [show max left right = if left ≤ right then right else left from rfl]
  split <;> grind

private theorem lt_max_iff (epoch left right : UInt64) :
    epoch < max left right ↔ epoch < left ∨ epoch < right := by
  rw [show max left right = if left ≤ right then right else left from rfl]
  split <;> grind

private theorem min_le_left (left right : UInt64) : min left right ≤ left := by
  rw [show min left right = if left ≤ right then left else right from rfl]
  split <;> grind

private theorem min_eq_or (left right : UInt64) : min left right = left ∨ min left right = right := by
  rw [show min left right = if left ≤ right then left else right from rfl]
  split <;> simp

theorem max?_eq_some_iff {epochs : List UInt64} {highest : UInt64} :
    epochs.max? = some highest ↔ highest ∈ epochs ∧ ∀ epoch ∈ epochs, epoch ≤ highest := by
  have hor : ∀ left right : UInt64, max left right = left ∨ max left right = right := by
    intro left right
    rw [show max left right = if left ≤ right then right else left from rfl]
    split <;> simp
  have hle : ∀ left right bound : UInt64, max left right ≤ bound ↔ left ≤ bound ∧ right ≤ bound := by
    intro left right bound
    rw [show max left right = if left ≤ right then right else left from rfl]
    split <;> grind
  have : Std.MaxEqOr UInt64 := ⟨hor⟩
  have : Std.LawfulOrderMax UInt64 := .of_max_le_iff hle hor
  exact List.max?_eq_some_iff

theorem le_saturatingSucc (epoch : UInt64) : epoch ≤ saturatingSucc epoch := by
  simp only [saturatingSucc]
  split <;> grind

theorem saturatingSucc_le {epoch bound : UInt64} (hlt : epoch < bound) :
    saturatingSucc epoch ≤ bound := by
  simp only [saturatingSucc]
  split <;> grind

theorem pruneFloor_le_reserveThreshold (alloc : AllocationState) (candidate : UInt64) :
    alloc.pruneFloor ≤ reserveThreshold alloc candidate := by
  simp only [reserveThreshold]
  split
  · exact le_max_left _ _
  · exact UInt64.le_refl _

/-- The floor advances past no epoch that the candidate, or every allocated
epoch at or below the candidate, stays behind. -/
theorem reserveThreshold_le {alloc : AllocationState} {candidate epoch : UInt64}
    (hfloor : alloc.pruneFloor ≤ epoch)
    (hrows : ∀ row ∈ alloc.allocations, row.epoch ≤ candidate →
      row.epoch < epoch ∨ candidate ≤ epoch) :
    reserveThreshold alloc candidate ≤ epoch := by
  by_contra habove
  simp only [reserveThreshold] at habove
  split at habove
  · rename_i highest hhighest
    rcases (lt_max_iff _ _ _).mp (UInt64.not_le.mp habove) with hbelow | hcapped
    · exact absurd hfloor (UInt64.not_le.mpr hbelow)
    · obtain ⟨row, hrow, rfl⟩ := List.mem_map.mp (max?_eq_some_iff.mp hhighest).1
      obtain ⟨hmember, hcandidate⟩ := List.mem_filter.mp hrow
      rcases hrows row hmember (by simpa using hcandidate) with hpast | hbehind
      · have hsucc := saturatingSucc_le hpast
        rcases min_eq_or candidate (saturatingSucc row.epoch) with hmin | hmin <;>
          rw [hmin] at hcapped
        · have hle := min_le_left (saturatingSucc row.epoch) candidate
          grind
        · exact absurd hsucc (UInt64.not_le.mpr hcapped)
      · have hle := UInt64.le_trans (min_le_left candidate (saturatingSucc row.epoch)) hbehind
        exact absurd hle (UInt64.not_le.mpr hcapped)
  · exact habove hfloor

/-- A row at the candidate lets the floor advance all the way to it. -/
theorem le_reserveThreshold {alloc : AllocationState} {row : EpochAllocation}
    (hrow : row ∈ alloc.allocations) : row.epoch ≤ reserveThreshold alloc row.epoch := by
  have hlisted : saturatingSucc row.epoch ∈ (alloc.allocations.filter fun other =>
      decide (other.epoch ≤ row.epoch)).map fun other => saturatingSucc other.epoch :=
    List.mem_map.mpr ⟨row, List.mem_filter.mpr ⟨hrow, by simp⟩, rfl⟩
  simp only [reserveThreshold]
  split
  · rename_i highest hhighest
    have hhighest := (max?_eq_some_iff.mp hhighest).2 _ hlisted
    have hsucc := UInt64.le_trans (le_saturatingSucc row.epoch) hhighest
    rw [show min row.epoch highest = row.epoch from if_pos hsucc]
    rw [show max alloc.pruneFloor row.epoch = if alloc.pruneFloor ≤ row.epoch then row.epoch
      else alloc.pruneFloor from rfl]
    split <;> grind
  · rename_i hnone
    rw [List.max?_eq_none_iff] at hnone
    rw [hnone] at hlisted
    cases hlisted

/-- Within the window the threshold refuses exactly what the persisted floor
refuses. -/
theorem lt_reserveThreshold_iff {alloc : AllocationState} {candidate epoch : UInt64}
    (hwindow : candidate ≤ epoch) :
    epoch < reserveThreshold alloc candidate ↔ epoch < alloc.pruneFloor := by
  constructor
  · intro hlt
    simp only [reserveThreshold] at hlt
    split at hlt
    · rename_i highest _
      rcases (lt_max_iff _ _ _).mp hlt with hfloor | hcandidate
      · exact hfloor
      · have hmin : min candidate highest ≤ epoch :=
          UInt64.le_trans (min_le_left _ _) hwindow
        exact absurd hmin (UInt64.not_le.mpr hcandidate)
    · exact hlt
  · intro hlt
    exact UInt64.lt_of_lt_of_le hlt (pruneFloor_le_reserveThreshold alloc candidate)

/-! ## Taking a slot -/

/-- Bumping an application's row in an epoch counts one more slot there and
nothing elsewhere. -/
theorem usedSlots_bumpRow {rlnIdentifierHex : String} {epoch : UInt64}
    {allocations : List EpochAllocation}
    (hfound : (allocations.find? (EpochAllocation.isFor rlnIdentifierHex epoch)).isSome)
    (otherIdentifier : String) (otherEpoch : UInt64) :
    usedSlots (bumpRow rlnIdentifierHex epoch allocations) otherIdentifier otherEpoch =
      if otherIdentifier = rlnIdentifierHex ∧ otherEpoch = epoch then
        usedSlots allocations rlnIdentifierHex epoch + 1
      else usedSlots allocations otherIdentifier otherEpoch := by
  induction allocations with
  | nil => simp at hfound
  | cons row rows ih =>
      by_cases hrow : row.isFor rlnIdentifierHex epoch
      · simp only [bumpRow, hrow, if_true, usedSlots, List.find?_cons]
        simp only [EpochAllocation.isFor, Bool.and_eq_true, beq_iff_eq] at hrow ⊢
        grind
      · have hrest : (rows.find? (EpochAllocation.isFor rlnIdentifierHex epoch)).isSome := by
          simpa [List.find?_cons, hrow] using hfound
        have ih := ih hrest
        simp only [bumpRow, hrow, usedSlots, List.find?_cons, Bool.false_eq_true, if_false] at ih ⊢
        simp only [EpochAllocation.isFor, Bool.and_eq_true, beq_iff_eq] at hrow ih ⊢
        grind

theorem usedSlots_append_of_find_eq_none {rlnIdentifierHex : String} {epoch used : UInt64}
    {allocations : List EpochAllocation}
    (hnone : allocations.find? (EpochAllocation.isFor rlnIdentifierHex epoch) = none)
    (otherIdentifier : String) (otherEpoch : UInt64) :
    usedSlots (allocations ++ [⟨rlnIdentifierHex, epoch, used⟩]) otherIdentifier otherEpoch =
      if otherIdentifier = rlnIdentifierHex ∧ otherEpoch = epoch then used
      else usedSlots allocations otherIdentifier otherEpoch := by
  by_cases hother : otherIdentifier = rlnIdentifierHex ∧ otherEpoch = epoch
  · obtain ⟨rfl, rfl⟩ := hother
    simp [usedSlots, List.find?_append, hnone, EpochAllocation.isFor]
  · have hnew : EpochAllocation.isFor otherIdentifier otherEpoch ⟨rlnIdentifierHex, epoch, used⟩ =
        false := by
      simp only [EpochAllocation.isFor, Bool.and_eq_false_iff, beq_eq_false_iff_ne]
      grind
    simp [usedSlots, List.find?_append, hnew, hother]

/-- Pruning below an epoch forgets no slot of that epoch. -/
theorem usedSlots_filter {threshold epoch : UInt64} (hepoch : threshold ≤ epoch)
    (allocations : List EpochAllocation) (rlnIdentifierHex : String) :
    usedSlots (allocations.filter fun row => threshold ≤ row.epoch) rlnIdentifierHex epoch =
      usedSlots allocations rlnIdentifierHex epoch := by
  have hkept : ∀ row : EpochAllocation, row.isFor rlnIdentifierHex epoch = true →
      threshold ≤ row.epoch := by
    intro row hrow
    simp only [EpochAllocation.isFor, Bool.and_eq_true, beq_iff_eq] at hrow
    exact hrow.2 ▸ hepoch
  have hfind : (allocations.filter fun row => threshold ≤ row.epoch).find?
      (EpochAllocation.isFor rlnIdentifierHex epoch) =
        allocations.find? (EpochAllocation.isFor rlnIdentifierHex epoch) := by
    rw [List.find?_filter]
    congr 1
    funext row
    cases hrow : row.isFor rlnIdentifierHex epoch with
    | false => simp
    | true => simp [hkept row hrow]
  rw [usedSlots, usedSlots, hfind]

theorem length_bumpRow (rlnIdentifierHex : String) (epoch : UInt64)
    (allocations : List EpochAllocation) :
    (bumpRow rlnIdentifierHex epoch allocations).length = allocations.length := by
  induction allocations with
  | nil => rfl
  | cons row rows ih =>
      simp only [bumpRow]
      split <;> simp [ih]

/-- A slot is refused exactly when the limit is already used up. -/
theorem takeSlot_eq_error_iff {allocations : List EpochAllocation} {rlnIdentifierHex : String}
    {epoch rateLimit : UInt64} {error : AllocError} :
    takeSlot allocations rlnIdentifierHex epoch rateLimit = .error error ↔
      error = .budgetExhausted ∧ rateLimit ≤ usedSlots allocations rlnIdentifierHex epoch := by
  cases hfind : allocations.find? (EpochAllocation.isFor rlnIdentifierHex epoch) with
  | some row =>
      simp only [takeSlot, usedSlots, hfind, Option.map_some, Option.getD_some]
      split
      · simp [*, @eq_comm _ error]
      · simp [*]
  | none =>
      simp only [takeSlot, usedSlots, hfind, Option.map_none, Option.getD_none]
      split
      · simp [*, @eq_comm _ error]
      · simp [*]

/-- The slot taken is the number of slots used, below the limit, and the rows
afterwards count it and nothing else. -/
theorem takeSlot_spec {allocations allocations' : List EpochAllocation}
    {rlnIdentifierHex : String} {epoch rateLimit slot : UInt64}
    (htake : takeSlot allocations rlnIdentifierHex epoch rateLimit = .ok (slot, allocations')) :
    slot = usedSlots allocations rlnIdentifierHex epoch ∧ slot < rateLimit ∧
      ∀ otherIdentifier otherEpoch, usedSlots allocations' otherIdentifier otherEpoch =
        if otherIdentifier = rlnIdentifierHex ∧ otherEpoch = epoch then slot + 1
        else usedSlots allocations otherIdentifier otherEpoch := by
  simp only [takeSlot] at htake
  split at htake
  · rename_i row hrow
    split at htake
    · cases htake
    · rename_i hlimit
      have hused : usedSlots allocations rlnIdentifierHex epoch = row.used := by
        simp [usedSlots, hrow]
      cases htake
      refine ⟨hused.symm, UInt64.not_le.mp hlimit, fun otherIdentifier otherEpoch => ?_⟩
      rw [usedSlots_bumpRow (by simp [hrow]), hused]
  · rename_i hnone
    split at htake
    · cases htake
    · rename_i hlimit
      cases htake
      refine ⟨by simp [usedSlots, hnone], by grind, fun otherIdentifier otherEpoch => ?_⟩
      rw [usedSlots_append_of_find_eq_none hnone, UInt64.zero_add]

/-- Only a new row grows the list, and by one. -/
theorem length_takeSlot_le {allocations allocations' : List EpochAllocation}
    {rlnIdentifierHex : String} {epoch rateLimit slot : UInt64}
    (htake : takeSlot allocations rlnIdentifierHex epoch rateLimit = .ok (slot, allocations')) :
    allocations'.length ≤
      if allocations.any (EpochAllocation.isFor rlnIdentifierHex epoch) then allocations.length
      else allocations.length + 1 := by
  simp only [takeSlot] at htake
  split at htake
  · rename_i row hrow
    have hany : allocations.any (EpochAllocation.isFor rlnIdentifierHex epoch) := by
      simpa using ⟨row, List.mem_of_find?_eq_some hrow, List.find?_some hrow⟩
    split at htake
    · cases htake
    · cases htake
      simp [hany, length_bumpRow]
  · rename_i hnone
    have hany : allocations.any (EpochAllocation.isFor rlnIdentifierHex epoch) = false := by
      simpa using List.find?_eq_none.mp hnone
    split at htake
    · cases htake
    · cases htake
      simp [hany]

theorem epoch_of_mem_bumpRow {rlnIdentifierHex : String} {epoch : UInt64}
    {allocations : List EpochAllocation} {row : EpochAllocation}
    (hrow : row ∈ bumpRow rlnIdentifierHex epoch allocations) :
    ∃ old ∈ allocations, old.epoch = row.epoch := by
  induction allocations with
  | nil => simp [bumpRow] at hrow
  | cons head rows ih =>
      simp only [bumpRow] at hrow
      split at hrow
      · rcases List.mem_cons.mp hrow with rfl | hrow
        · exact ⟨head, List.mem_cons_self, rfl⟩
        · exact ⟨row, List.mem_cons_of_mem _ hrow, rfl⟩
      · rcases List.mem_cons.mp hrow with rfl | hrow
        · exact ⟨row, List.mem_cons_self, rfl⟩
        · obtain ⟨old, hold, hepoch⟩ := ih hrow
          exact ⟨old, List.mem_cons_of_mem _ hold, hepoch⟩

/-- The rows after a reservation sit in its own epoch or in one that had a row
before. -/
theorem epoch_of_mem_takeSlot {allocations allocations' : List EpochAllocation}
    {rlnIdentifierHex : String} {epoch rateLimit slot : UInt64} {row : EpochAllocation}
    (htake : takeSlot allocations rlnIdentifierHex epoch rateLimit = .ok (slot, allocations'))
    (hrow : row ∈ allocations') :
    row.epoch = epoch ∨ ∃ old ∈ allocations, old.epoch = row.epoch := by
  simp only [takeSlot] at htake
  split at htake
  · split at htake
    · cases htake
    · cases htake
      exact Or.inr (epoch_of_mem_bumpRow hrow)
  · split at htake
    · cases htake
    · cases htake
      rcases List.mem_append.mp hrow with hrow | hrow
      · exact Or.inr ⟨row, hrow, rfl⟩
      · rw [List.mem_singleton] at hrow
        exact Or.inl (by rw [hrow])

/-! ## Spent slots -/

/-- One `message_id` of one application in one epoch. -/
structure Slot where
  rlnIdentifier : String
  epoch : UInt64
  messageId : UInt64
  deriving DecidableEq

/-- The slots no reservation may take again: those below the floor and those
the rows count. -/
def AllocationState.spent (alloc : AllocationState) : Set Slot :=
  {slot | slot.epoch < alloc.pruneFloor ∨
    slot.messageId < usedSlots alloc.allocations slot.rlnIdentifier slot.epoch}

theorem reserveSlot_eq_ok_iff {alloc alloc' : AllocationState} {rlnIdentifierHex : String}
    {epoch candidate rateLimit slot : UInt64} :
    reserveSlot alloc rlnIdentifierHex epoch candidate rateLimit = .ok (slot, alloc') ↔
      reserveThreshold alloc candidate ≤ epoch ∧
        ∃ allocations, takeSlot alloc.allocations rlnIdentifierHex epoch rateLimit =
            .ok (slot, allocations) ∧
          alloc' = { alloc with
            pruneFloor := reserveThreshold alloc candidate
            allocations := allocations.filter fun row =>
              reserveThreshold alloc candidate ≤ row.epoch } := by
  simp only [reserveSlot]
  split
  · rename_i hbelow
    simp [UInt64.not_le.mpr hbelow]
  · rename_i habove
    cases takeSlot alloc.allocations rlnIdentifierHex epoch rateLimit with
    | error error => simp [Except.map]
    | ok taken =>
        obtain ⟨taken, allocations⟩ := taken
        simp only [Except.map, Except.ok.injEq, Prod.mk.injEq, UInt64.not_lt.mp habove, true_and]
        constructor
        · rintro ⟨rfl, rfl⟩
          exact ⟨allocations, ⟨rfl, rfl⟩, rfl⟩
        · rintro ⟨_, ⟨rfl, rfl⟩, rfl⟩
          exact ⟨rfl, rfl⟩

/-- A reservation takes an unspent slot below the limit, spends it, and makes
no spent slot available again. -/
theorem reserveSlot_spec {alloc alloc' : AllocationState} {rlnIdentifierHex : String}
    {epoch candidate rateLimit messageId : UInt64}
    (hreserve : reserveSlot alloc rlnIdentifierHex epoch candidate rateLimit =
      .ok (messageId, alloc')) :
    ⟨rlnIdentifierHex, epoch, messageId⟩ ∉ alloc.spent ∧
      ⟨rlnIdentifierHex, epoch, messageId⟩ ∈ alloc'.spent ∧ alloc.spent ⊆ alloc'.spent ∧
      messageId < rateLimit ∧ alloc'.epochSizeSec = alloc.epochSizeSec := by
  obtain ⟨hthreshold, allocations, htake, rfl⟩ := reserveSlot_eq_ok_iff.mp hreserve
  obtain ⟨hmessageId, hlimit, hused⟩ := takeSlot_spec htake
  have hfloor := pruneFloor_le_reserveThreshold alloc candidate
  have hsucc : messageId < messageId + 1 := by grind
  refine ⟨?_, Or.inr ?_, ?_, hlimit, rfl⟩
  · rintro (hbelow | hcounted)
    · exact absurd (UInt64.le_trans hfloor hthreshold) (UInt64.not_le.mpr hbelow)
    · exact UInt64.lt_irrefl _ (hmessageId ▸ hcounted)
  · simpa [usedSlots_filter hthreshold, hused] using hsucc
  · rintro ⟨otherIdentifier, otherEpoch, otherId⟩ hspent
    by_cases hkept : reserveThreshold alloc candidate ≤ otherEpoch
    · refine Or.inr ?_
      rcases hspent with hbelow | hcounted
      · exact absurd (UInt64.le_trans hfloor hkept) (UInt64.not_le.mpr hbelow)
      · simp only [usedSlots_filter hkept, hused]
        split
        · rename_i hsame
          obtain ⟨rfl, rfl⟩ := hsame
          exact UInt64.lt_trans (hmessageId ▸ hcounted) hsucc
        · exact hcounted
    · exact Or.inl (UInt64.not_le.mp hkept)

/-- What a reservation keeps of the row count. -/
theorem length_reserveSlot_le {alloc alloc' : AllocationState} {rlnIdentifierHex : String}
    {epoch candidate rateLimit slot : UInt64}
    (hreserve : reserveSlot alloc rlnIdentifierHex epoch candidate rateLimit =
      .ok (slot, alloc')) :
    alloc'.allocations.length ≤
      if alloc.allocations.any (EpochAllocation.isFor rlnIdentifierHex epoch) then
        alloc.allocations.length
      else alloc.allocations.length + 1 := by
  obtain ⟨-, allocations, htake, rfl⟩ := reserveSlot_eq_ok_iff.mp hreserve
  exact (List.length_filter_le _ _).trans (length_takeSlot_le htake)

/-- Nothing remains exactly when the limit is used up. -/
theorem remaining_eq_zero_iff {allocations : List EpochAllocation} {rlnIdentifierHex : String}
    {epoch rateLimit : UInt64} :
    remaining allocations rlnIdentifierHex epoch rateLimit = 0 ↔
      rateLimit ≤ usedSlots allocations rlnIdentifierHex epoch := by
  simp only [remaining, saturatingSub]
  split
  · grind
  · grind

end LogosRln.RateLimit
