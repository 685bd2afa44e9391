import LogosRln.SealedStore.Reference

/-!
# The quota read and the reservation

`remaining_budget` answers what `reserve_message_id` would do, from its own
tests: it compares the epoch with the persisted floor where the reservation
compares it with a freshly computed threshold, and it never looks at the row
cap.  Inside the window the floor and the threshold refuse the same epochs; the
row cap, and a section whose credential was never written, are where the two
part.
-/

namespace LogosRln.SealedStore.Quota

open RegistryId Crypto Format Lifecycle RateLimit Files

/-- `remaining_budget` under the arguments of a reservation. -/
def quota (args : ReserveArgs) (store : Store) : Except ApiError UInt64 :=
  remainingBudget args.hash args.rlnIdentifierHex args.epoch args.rateLimit args.epochSizeSec store

/-- The answer of a reservation whose ledger write succeeds. -/
def reservation (libs : Libraries) (args : ReserveArgs) (store : Store) (disk : Disk) :
    Except ApiError UInt64 :=
  (reserveMessageId libs args .ok store disk).result

/-- The three agreements between a quota read and a reservation. -/
structure Agrees (libs : Libraries) (args : ReserveArgs) (store : Store) (disk : Disk) : Prop where
  positive : (∃ left, quota args store = .ok left ∧ 0 < left) ↔
    ∃ slot, reservation libs args store disk = .ok slot
  zero : quota args store = .ok 0 ↔
    (∃ error, reservation libs args store disk = .error error ∧ error.kind = .budgetExhausted) ∨
      store.inner.hasCredential args.hash = false
  refused : ∀ error, quota args store = .error error ↔
    reservation libs args store disk = .error error ∧
      (error.kind = .permanent ∨ error.kind = .internal)

def SizeMatches (args : ReserveArgs) (alloc : AllocationState) : Prop :=
  alloc.epochSizeSec = 0 ∨ alloc.epochSizeSec = args.epochSizeSec

/-- The reservation needs no new row, or a new row fits under the cap. -/
def HasRoom (args : ReserveArgs) (alloc : AllocationState) : Prop :=
  alloc.allocations.any (EpochAllocation.isFor args.rlnIdentifierHex args.epoch) = true ∨
    alloc.allocations.length < writeRowCap

/-- A member in good standing whose counters match the epoch size has room in
its section; a section without a credential is exhausted in this epoch. -/
def Mirrored (args : ReserveArgs) (inner : Inner) : Prop :=
  if inner.hasCredential args.hash then
    inner.isQuarantined args.hash = true ∨
      ∀ alloc, inner.sections[args.hash]? = some alloc → SizeMatches args alloc →
        HasRoom args alloc
  else
    ∀ alloc, inner.sections[args.hash]? = some alloc →
      SizeMatches args alloc ∧ HasRoom args alloc ∧ alloc.pruneFloor ≤ args.epoch ∧
        args.rateLimit ≤ usedSlots alloc.allocations args.rlnIdentifierHex args.epoch

variable {libs : Libraries} {args : ReserveArgs} {store : Store} {disk : Disk}

/-! ## What each side answers -/

theorem reservationGuards_some (args : ReserveArgs) (alloc : AllocationState) :
    reservationGuards false (some alloc) args.epochSizeSec = .ok () ∧ SizeMatches args alloc ∨
      reservationGuards false (some alloc) args.epochSizeSec =
        .error (epochSizeRefusal args.epochSizeSec alloc.epochSizeSec) ∧
        ¬ SizeMatches args alloc := by
  by_cases hsize : SizeMatches args alloc
  · refine .inl ⟨?_, hsize⟩
    simp only [reservationGuards, Bool.false_eq_true, if_false]
    rw [if_neg]
    rintro ⟨hzero, hne⟩
    exact hsize.elim hzero hne
  · refine .inr ⟨?_, hsize⟩
    simp only [reservationGuards, Bool.false_eq_true, if_false]
    rw [if_pos]
    simpa only [SizeMatches, not_or] using hsize

/-- The choice of a slot in a section of good standing, inside the window. -/
inductive Choice (args : ReserveArgs) (alloc : AllocationState) :
    Except ApiError (UInt64 × AllocationState) → Prop
  | wrongSize (hsize : ¬ SizeMatches args alloc) :
      Choice args alloc (.error (epochSizeRefusal args.epochSizeSec alloc.epochSizeSec))
  | full (hsize : SizeMatches args alloc) (hroom : ¬ HasRoom args alloc) :
      Choice args alloc (.error fullSection)
  | belowFloor (hsize : SizeMatches args alloc) (hroom : HasRoom args alloc)
      (hfloor : args.epoch < alloc.pruneFloor) : Choice args alloc (.error floorRefusal)
  | exhausted (hsize : SizeMatches args alloc) (hroom : HasRoom args alloc)
      (hfloor : alloc.pruneFloor ≤ args.epoch)
      (hused : args.rateLimit ≤ usedSlots alloc.allocations args.rlnIdentifierHex args.epoch) :
      Choice args alloc (.error budgetRefusal)
  | taken (slot : UInt64) (alloc' : AllocationState) (hsize : SizeMatches args alloc)
      (hroom : HasRoom args alloc) (hfloor : alloc.pruneFloor ≤ args.epoch)
      (hused : usedSlots alloc.allocations args.rlnIdentifierHex args.epoch < args.rateLimit) :
      Choice args alloc (.ok (slot, alloc'))

theorem choice_chooseSlot {inner : Inner} {alloc : AllocationState}
    (hwindow : args.retainFloor ≤ args.epoch) (hstanding : inner.isQuarantined args.hash = false)
    (hsection : inner.sections[args.hash]? = some alloc) :
    Choice args alloc (chooseSlot args inner) := by
  simp only [chooseSlot, hstanding, hsection]
  rcases reservationGuards_some args alloc with ⟨hguards, hsize⟩ | ⟨hguards, hsize⟩
  · simp only [hguards]
    split
    · rename_i hfull
      refine .full hsize ?_
      simpa [HasRoom, not_or] using hfull
    · rename_i hroom
      have hroom : HasRoom args alloc := by
        simp only [Bool.and_eq_true, Bool.not_eq_true', decide_eq_true_eq, not_and, not_le,
          ge_iff_le] at hroom
        by_cases hrow : alloc.allocations.any
            (EpochAllocation.isFor args.rlnIdentifierHex args.epoch) = true
        · exact .inl hrow
        · exact .inr (hroom (Bool.not_eq_true _ ▸ hrow))
      cases hreserve : reserveSlot alloc args.rlnIdentifierHex args.epoch args.retainFloor
          args.rateLimit with
      | ok taken =>
          obtain ⟨slot, reservedAlloc⟩ := taken
          obtain ⟨hthreshold, allocations, htake, -⟩ := reserveSlot_eq_ok_iff.mp hreserve
          obtain ⟨hslot, hlimit, -⟩ := takeSlot_spec htake
          exact .taken slot _ hsize hroom
            (UInt64.le_trans (pruneFloor_le_reserveThreshold _ _) hthreshold) (hslot ▸ hlimit)
      | error error =>
          simp only [reserveSlot] at hreserve
          split at hreserve
          · rename_i hbelow
            cases hreserve
            exact .belowFloor hsize hroom ((lt_reserveThreshold_iff hwindow).mp hbelow)
          · rename_i habove
            have hfloor : alloc.pruneFloor ≤ args.epoch :=
              UInt64.not_lt.mp (mt (lt_reserveThreshold_iff hwindow).mpr habove)
            cases htake : takeSlot alloc.allocations args.rlnIdentifierHex args.epoch
                args.rateLimit with
            | ok taken => simp [htake, Except.map] at hreserve
            | error takeError =>
                obtain ⟨rfl, hused⟩ := takeSlot_eq_error_iff.mp htake
                simp only [htake, Except.map, Except.error.injEq] at hreserve
                subst hreserve
                exact .exhausted hsize hroom hfloor hused
  · simp only [hguards]
    exact .wrongSize hsize

theorem reservation_eq (args : ReserveArgs) (disk : Disk)
    (hcoherent : Coherent libs store.inner) (hunlocked : store.inner.session.isSome) :
    reservation libs args store disk = (chooseSlot args store.inner).map Prod.fst := by
  obtain ⟨session, hsession⟩ := Option.isSome_iff_exists.mp hunlocked
  obtain ⟨uuid, huuid⟩ := hcoherent.storeUuid_of_session
  have hheld := hcoherent.sessionHeld hunlocked
  cases hchoose : chooseSlot args store.inner with
  | error error =>
      simp [reservation, reserveMessageId, hheld, hsession, hchoose, refuse, Except.map]
  | ok chosen =>
      obtain ⟨slot, alloc⟩ := chosen
      simp [reservation, reserveMessageId, hheld, hsession, hchoose, writeAllocations,
        huuid hunlocked, WriteOutcome.result, Except.map]

theorem quota_of_member {alloc : AllocationState}
    (hmember : store.inner.hasCredential args.hash = true)
    (hstanding : store.inner.isQuarantined args.hash = false)
    (hsection : store.inner.sections[args.hash]? = some alloc) :
    ¬ SizeMatches args alloc ∧ quota args store =
        .error (epochSizeRefusal args.epochSizeSec alloc.epochSizeSec) ∨
      SizeMatches args alloc ∧ args.epoch < alloc.pruneFloor ∧
        quota args store = .error floorRefusal ∨
      SizeMatches args alloc ∧ alloc.pruneFloor ≤ args.epoch ∧ quota args store =
        .ok (remaining alloc.allocations args.rlnIdentifierHex args.epoch args.rateLimit) := by
  simp only [quota, remainingBudget, hmember, hstanding, hsection, Bool.not_true,
    Bool.false_eq_true, if_false, Option.getD_some]
  rcases reservationGuards_some args alloc with ⟨hguards, hsize⟩ | ⟨hguards, hsize⟩
  · simp only [hguards]
    split
    · rename_i hfloor
      exact .inr (.inl ⟨hsize, hfloor, rfl⟩)
    · rename_i hfloor
      exact .inr (.inr ⟨hsize, UInt64.not_lt.mp hfloor, rfl⟩)
  · simp only [hguards]
    exact .inl ⟨hsize, trivial⟩

/-! ## Agreement -/

theorem kind_floorRefusal : floorRefusal.kind = .permanent := rfl

theorem kind_fullSection : fullSection.kind = .permanent := rfl

theorem kind_budgetRefusal : budgetRefusal.kind = .budgetExhausted := rfl

theorem kind_epochSizeRefusal (configured bound : UInt64) :
    (epochSizeRefusal configured bound).kind = .permanent := rfl

/-- A refusal both sides give, permanent or internal, is an agreement. -/
theorem agrees_of_same_error {error : ApiError}
    (hkind : error.kind = .permanent ∨ error.kind = .internal)
    (hmember : store.inner.hasCredential args.hash = true)
    (hquota : quota args store = .error error)
    (hreservation : reservation libs args store disk = .error error) :
    Agrees libs args store disk := by
  refine ⟨?_, ?_, ?_⟩
  · simp [hquota, hreservation]
  · rcases hkind with hkind | hkind <;> simp [hquota, hreservation, hmember, hkind]
  · intro other
    simp only [hquota, hreservation, Except.error.injEq]
    constructor
    · rintro rfl
      exact ⟨rfl, hkind⟩
    · exact fun hother => hother.1

/-- For a member in good standing the two sides agree unless its section is
full and the reservation needs a new row. -/
theorem agrees_iff_of_standing {alloc : AllocationState}
    (hreservation : reservation libs args store disk = (chooseSlot args store.inner).map Prod.fst)
    (hwindow : args.retainFloor ≤ args.epoch)
    (hmember : store.inner.hasCredential args.hash = true)
    (hstanding : store.inner.isQuarantined args.hash = false)
    (hsection : store.inner.sections[args.hash]? = some alloc) :
    Agrees libs args store disk ↔ (SizeMatches args alloc → HasRoom args alloc) := by
  have hchoice := choice_chooseSlot hwindow hstanding hsection
  have hquota := quota_of_member hmember hstanding hsection
  generalize chooseSlot args store.inner = chosen at hchoice hreservation
  cases hchoice with
  | wrongSize hsize =>
      have hquota : quota args store =
          .error (epochSizeRefusal args.epochSizeSec alloc.epochSizeSec) := by
        simpa [hsize] using hquota
      have hagrees := agrees_of_same_error (.inl (kind_epochSizeRefusal _ _)) hmember hquota
        hreservation
      exact iff_of_true hagrees fun h => absurd h hsize
  | full hsize hroom =>
      refine iff_of_false (fun hagrees => ?_) fun h => hroom (h hsize)
      have hrefused := (hagrees.refused fullSection).mpr ⟨hreservation, .inl kind_fullSection⟩
      rcases hquota with ⟨hwrong, -⟩ | ⟨-, -, hquota⟩ | ⟨-, -, hquota⟩
      · exact hwrong hsize
      · rw [hquota] at hrefused
        revert hrefused
        simp [floorRefusal, fullSection]
      · rw [hquota] at hrefused
        cases hrefused
  | belowFloor hsize hroom hfloor =>
      have hquota : quota args store = .error floorRefusal := by
        simpa [hsize, hfloor, UInt64.not_le.mpr hfloor] using hquota
      exact iff_of_true
        (agrees_of_same_error (.inl kind_floorRefusal) hmember hquota hreservation) fun _ => hroom
  | exhausted hsize hroom hfloor hused =>
      have hquota : quota args store = .ok 0 := by
        have hzero := remaining_eq_zero_iff.mpr hused
        simpa [hsize, UInt64.not_lt.mpr hfloor, hfloor, hzero] using hquota
      refine iff_of_true ⟨?_, ?_, ?_⟩ fun _ => hroom
      · simp [hquota, hreservation, Except.map]
      · simp [hquota, hreservation, Except.map, kind_budgetRefusal]
      · intro error
        simp only [hquota, hreservation, Except.map, Except.error.injEq, reduceCtorEq, false_iff]
        rintro ⟨rfl, hkind⟩
        simp [kind_budgetRefusal] at hkind
  | taken slot alloc' hsize hroom hfloor hused =>
      have hpositive : remaining alloc.allocations args.rlnIdentifierHex args.epoch
          args.rateLimit ≠ 0 := by
        rw [Ne, remaining_eq_zero_iff]
        exact UInt64.not_le.mpr hused
      have hquota : quota args store = .ok (remaining alloc.allocations args.rlnIdentifierHex
          args.epoch args.rateLimit) := by
        simpa [hsize, UInt64.not_lt.mpr hfloor, hfloor] using hquota
      refine iff_of_true ⟨?_, ?_, ?_⟩ fun _ => hroom
      · simp only [hquota, hreservation, Except.map, Except.ok.injEq, exists_eq', iff_true]
        exact ⟨_, rfl, UInt64.pos_iff_ne_zero.mpr hpositive⟩
      · simp [hquota, hreservation, Except.map, hpositive, hmember]
      · simp [hquota, hreservation, Except.map]

/-- Without a credential the quota reads zero, which a reservation agrees with
unless a leftover section lets it succeed or refuse for good. -/
theorem agrees_iff_of_not_member
    (hreservation : reservation libs args store disk = (chooseSlot args store.inner).map Prod.fst)
    (hwindow : args.retainFloor ≤ args.epoch)
    (hmember : store.inner.hasCredential args.hash = false)
    (hstanding : store.inner.isQuarantined args.hash = false) :
    Agrees libs args store disk ↔ ∀ alloc, store.inner.sections[args.hash]? = some alloc →
      SizeMatches args alloc ∧ HasRoom args alloc ∧ alloc.pruneFloor ≤ args.epoch ∧
        args.rateLimit ≤ usedSlots alloc.allocations args.rlnIdentifierHex args.epoch := by
  have hquota : quota args store = .ok 0 := by simp [quota, remainingBudget, hmember]
  -- Both agreements left to check say that the reservation answers nothing the
  -- quota would have to show.
  have hagrees : Agrees libs args store disk ↔
      ∃ error, reservation libs args store disk = .error error ∧ error.kind ≠ .permanent ∧
        error.kind ≠ .internal := by
    constructor
    · intro hagrees
      cases hanswer : reservation libs args store disk with
      | ok slot =>
          obtain ⟨left, hleft, hpositive⟩ := hagrees.positive.mpr ⟨slot, hanswer⟩
          rw [hquota] at hleft
          cases hleft
          exact absurd hpositive (by decide)
      | error error =>
          refine ⟨error, rfl, fun hkind => ?_, fun hkind => ?_⟩
          · have := (hagrees.refused error).mpr ⟨hanswer, .inl hkind⟩
            simp [hquota] at this
          · have := (hagrees.refused error).mpr ⟨hanswer, .inr hkind⟩
            simp [hquota] at this
    · rintro ⟨error, hanswer, hpermanent, hinternal⟩
      refine ⟨?_, ?_, ?_⟩
      · simp only [hquota, hanswer, Except.ok.injEq, reduceCtorEq, exists_false, iff_false]
        rintro ⟨_, rfl, hpositive⟩
        exact absurd hpositive (by decide)
      · simp [hquota, hmember]
      · intro other
        simp only [hquota, hanswer, Except.error.injEq, reduceCtorEq, false_iff]
        rintro ⟨rfl, hkind | hkind⟩
        · exact hpermanent hkind
        · exact hinternal hkind
  rw [hagrees, hreservation]
  cases hsection : store.inner.sections[args.hash]? with
  | none =>
      simp [chooseSlot, hstanding, hsection, reservationGuards, Except.map, noSuchMembership]
  | some alloc =>
      have hchoice := choice_chooseSlot hwindow hstanding hsection
      simp only [Option.some.injEq, forall_eq']
      generalize chooseSlot args store.inner = chosen at hchoice
      cases hchoice with
      | wrongSize hsize => simp [Except.map, hsize, kind_epochSizeRefusal]
      | full hsize hroom => simp [Except.map, hroom, kind_fullSection]
      | belowFloor hsize hroom hfloor =>
          simp [Except.map, UInt64.not_le.mpr hfloor, kind_floorRefusal]
      | exhausted hsize hroom hfloor hused =>
          simp [Except.map, hsize, hroom, hfloor, hused, kind_budgetRefusal]
      | taken slot alloc' hsize hroom hfloor hused =>
          simp [Except.map, hused]

/-- In every reachable unlocked store and inside the window, the quota read and
the reservation agree exactly when the membership is mirrored: the row cap and
leftover sections are the only disagreements. -/
theorem quota_agrees_iff_mirrored (libs : Libraries) (disk : Disk) (ops : List Op) (store : Store)
    (hstore : (Run.run (step libs) { disk } ops).store = some store)
    (hunlocked : store.inner.session.isSome) (args : ReserveArgs)
    (hwindow : args.retainFloor ≤ args.epoch) :
    Agrees libs args store (Run.run (step libs) { disk } ops).disk ↔ Mirrored args store.inner := by
  have hcoherent := coherent_run disk ops hstore
  have hreservation := reservation_eq args (Run.run (step libs) { disk } ops).disk hcoherent
    hunlocked
  cases hmember : store.inner.hasCredential args.hash with
  | false =>
      have hstanding : store.inner.isQuarantined args.hash = false := by
        rw [← Bool.not_eq_true]
        intro hquarantined
        simp [hcoherent.quarantined _ hquarantined] at hmember
      rw [agrees_iff_of_not_member hreservation hwindow hmember hstanding, Mirrored, if_neg]
      simp [hmember]
  | true =>
      rw [Mirrored, if_pos hmember]
      cases hstanding : store.inner.isQuarantined args.hash with
      | true =>
          refine iff_of_true ?_ (.inl rfl)
          have hkind : quarantinedError.kind = .permanent ∨ quarantinedError.kind = .internal :=
            .inr rfl
          refine agrees_of_same_error hkind hmember ?_ ?_
          · simp [quota, remainingBudget, hmember, hstanding, reservationGuards]
          · simp [hreservation, chooseSlot, hstanding, reservationGuards, Except.map]
      | false =>
          have hcensus : args.hash ∉ store.inner.censusQuarantined := by
            intro hmem
            simp [isQuarantined_iff.mpr (.inl hmem)] at hstanding
          obtain ⟨alloc, hsection⟩ :=
            OrderedMap.mem_iff_exists.mp (hcoherent.sectioned _ hmember hcensus)
          rw [agrees_iff_of_standing hreservation hwindow hmember hstanding hsection]
          simp [hsection]

/-! ### Where the two part -/

/-- One member, and one section left behind by an insert whose cache write
failed. -/
def memberOps : List Op :=
  [.openStore Reference.env, Reference.unlockOp,
    .insert { Reference.registration 1 with hash := "ab" } Reference.nonce Reference.writes,
    .insert { Reference.registration 2 with hash := "cd" } Reference.nonce
      ⟨.ok, .failed false "disk full", .ok⟩]

/-- The `n`-th application of the member in one live epoch. -/
def appArgs (n : ℕ) : ReserveArgs :=
  ⟨"ab", bytesToHex (ByteFraming.bigEndian 32 n), 1, 0, 10, 600⟩

def leftoverArgs : ReserveArgs := ⟨"cd", "aa", 1, 0, 10, 600⟩

/-- As many applications as the member's section may hold. -/
def fullOps (n : ℕ) : List Op :=
  memberOps ++ (List.range n).map fun i => .reserve (appArgs i) .ok

def appRows (n : ℕ) : List EpochAllocation :=
  (List.range n).map fun i => ⟨(appArgs i).rlnIdentifierHex, 1, 1⟩

/-- The member's counters after `n` applications reserved one slot each. -/
def appCounters (n : ℕ) : AllocationState where
  allocations := appRows n
  epochSizeSec := if n = 0 then 0 else 600
  pruneFloor := 0

structure Reserved (store : Store) (n : ℕ) : Prop where
  lockHeld : store.inner.lockHeld = true
  session : store.inner.session.isSome = true
  storeUuid : store.inner.storeUuid.isSome = true
  standing : store.inner.isQuarantined "ab" = false
  member : store.inner.hasCredential "ab" = true
  counters : store.inner.sections["ab"]? = some (appCounters n)

theorem find?_appRows {n m : ℕ} (hnm : n ≤ m) (hm : m < 256 ^ 32) :
    (appRows n).find? (EpochAllocation.isFor (appArgs m).rlnIdentifierHex 1) = none := by
  rw [List.find?_eq_none]
  intro row hrow
  obtain ⟨i, hi, rfl⟩ := List.mem_map.mp hrow
  have hlt : i < n := List.mem_range.mp hi
  simp only [EpochAllocation.isFor, appArgs, Bool.and_eq_true, beq_iff_eq, not_and]
  intro heq
  have hbytes := congrArg hexToVec heq
  simp only [hexToVec_bytesToHex, Option.some.injEq] at hbytes
  have := ByteFraming.bigEndian_injective (by omega) hm hbytes
  omega

theorem any_appRows {n m : ℕ} (hnm : n ≤ m) (hm : m < 256 ^ 32) :
    (appRows n).any (EpochAllocation.isFor (appArgs m).rlnIdentifierHex 1) = false := by
  simpa [List.find?_eq_none, List.any_eq_false] using find?_appRows hnm hm

theorem sizeMatches_appCounters (n m : ℕ) : SizeMatches (appArgs m) (appCounters n) := by
  by_cases hn : n = 0
  · exact .inl (by simp [appCounters, hn])
  · exact .inr (by simp [appCounters, hn, appArgs])

/-- A full section has no room for one more application. -/
theorem not_hasRoom_appCounters {n : ℕ} (hfull : writeRowCap ≤ n) (hn : n < 256 ^ 32) :
    ¬ HasRoom (appArgs n) (appCounters n) := by
  rintro (hrow | hlength)
  · exact absurd (hrow.symm.trans (any_appRows le_rfl hn)) (by decide)
  · simp only [appCounters, appRows, List.length_map, List.length_range] at hlength
    omega

theorem reserveSlot_appCounters {n : ℕ} (hroom : n < writeRowCap) :
    reserveSlot (appCounters n) (appArgs n).rlnIdentifierHex 1 0 10 =
      .ok (0, { appCounters n with allocations := appRows (n + 1) }) := by
  have hpast : (appRows n).filter (fun row => row.epoch ≤ 0) = [] := by
    simp [appRows, List.filter_eq_nil_iff]
  have hthreshold : reserveThreshold (appCounters n) 0 = 0 := by
    simp only [reserveThreshold, appCounters, hpast, List.map_nil, List.max?_nil]
  have hkept : ∀ rows : List EpochAllocation,
      rows.filter (fun row => (0 : UInt64) ≤ row.epoch) = rows := by
    simp
  rw [reserveSlot_eq_ok_iff, hthreshold]
  refine ⟨by simp, appRows (n + 1), ?_, ?_⟩
  · have hnone := find?_appRows (le_refl n) (lt_trans hroom (by decide))
    simp only [takeSlot, appCounters, hnone]
    simp [appRows, List.range_succ]
  · rw [hkept]
    rfl

theorem chooseSlot_reserved {store : Store} {n : ℕ} (hreserved : Reserved store n)
    (hroom : n < writeRowCap) :
    chooseSlot (appArgs n) store.inner = .ok (0, appCounters (n + 1)) := by
  have hnew : (appCounters n).allocations.any
      (EpochAllocation.isFor (appArgs n).rlnIdentifierHex (appArgs n).epoch) = false :=
    any_appRows le_rfl (lt_trans hroom (by decide))
  have hlength : (appCounters n).allocations.length = n := by simp [appCounters, appRows]
  have hguards : reservationGuards false (some (appCounters n)) (appArgs n).epochSizeSec =
      .ok () := by
    rcases reservationGuards_some (appArgs n) (appCounters n) with ⟨hguards, -⟩ | ⟨-, hsize⟩
    · exact hguards
    · exact absurd (sizeMatches_appCounters n n) hsize
  have hreserve : reserveSlot (appCounters n) (appArgs n).rlnIdentifierHex (appArgs n).epoch
      (appArgs n).retainFloor (appArgs n).rateLimit = _ := reserveSlot_appCounters hroom
  have hhash : (appArgs n).hash = "ab" := rfl
  simp only [chooseSlot, hhash, hreserved.standing, hreserved.counters, hguards, hnew, hlength,
    hreserve, Bool.not_false, Bool.true_and, ge_iff_le, decide_eq_true_eq, not_le.mpr hroom,
    if_false]
  rfl

theorem reserved_step {world : World} {store : Store} {n : ℕ} (hstore : world.store = some store)
    (hreserved : Reserved store n) (hroom : n < writeRowCap) :
    ∃ store', (step Reference.libraries world (.reserve (appArgs n) .ok)).1.store = some store' ∧
      Reserved store' (n + 1) := by
  obtain ⟨session, hsession⟩ := Option.isSome_iff_exists.mp hreserved.session
  obtain ⟨uuid, huuid⟩ := Option.isSome_iff_exists.mp hreserved.storeUuid
  have hreserve := reserveMessageId_cases Reference.libraries (appArgs n) .ok store world.disk
    fun _ => huuid
  have hchosen := chooseSlot_reserved hreserved hroom
  refine ⟨_, by simp only [step, hstore, withReply]; rfl, ?_⟩
  rcases hreserve with ⟨error, heq⟩ | ⟨_, slot, alloc, hunlocked, hslot, ⟨_, hfailed, -⟩ | ⟨-, heq⟩⟩
  · have hok := congrArg Reply.result heq
    simp [reserveMessageId, hreserved.lockHeld, hsession, hchosen, writeAllocations, huuid,
      WriteOutcome.result, Except.map, refuse] at hok
  · exact absurd rfl hfailed
  · cases hchosen.symm.trans hslot
    rw [heq]
    refine ⟨?_, ?_, ?_, ?_, ?_, ?_⟩
    · simpa [publish, withCounters] using hreserved.lockHeld
    · simpa [publish, withCounters] using hreserved.session
    · simpa [publish, withCounters] using hreserved.storeUuid
    · simpa [publish, withCounters, Inner.isQuarantined] using hreserved.standing
    · simpa [publish, withCounters, Inner.hasCredential] using hreserved.member
    · simp [publish, withCounters, appArgs]

theorem memberOps_store :
    (Run.run (step Reference.libraries) {} memberOps).store.isSome = true := by
  decide +kernel

theorem reserved_run {n : ℕ} (hroom : n ≤ writeRowCap) :
    ∃ store, (Run.run (step Reference.libraries) {} (fullOps n)).store = some store ∧
      Reserved store n := by
  induction n with
  | zero =>
      refine ⟨_, (Option.some_get memberOps_store).symm, ?_⟩
      constructor <;> decide +kernel
  | succ n ih =>
      obtain ⟨store, hstore, hreserved⟩ := ih (by omega)
      obtain ⟨store', hstep, hnext⟩ := reserved_step hstore hreserved (by omega)
      refine ⟨store', ?_, hnext⟩
      simpa [fullOps, List.range_succ, Run.run_append] using hstep

/-- Once the member's section is full, another application is shown a full
budget and refused for good; and the leftover section issues slots while its
quota reads zero. -/
theorem quota_disagrees :
    (∃ store, (Run.run (step Reference.libraries) {} (fullOps writeRowCap)).store = some store ∧
      store.inner.session.isSome ∧
      ¬ Agrees Reference.libraries (appArgs writeRowCap) store
        (Run.run (step Reference.libraries) {} (fullOps writeRowCap)).disk) ∧
    ∃ store, (Run.run (step Reference.libraries) {} memberOps).store = some store ∧
      store.inner.session.isSome ∧
      ¬ Agrees Reference.libraries leftoverArgs store
        (Run.run (step Reference.libraries) {} memberOps).disk := by
  constructor
  · obtain ⟨store, hstore, hreserved⟩ := reserved_run le_rfl
    refine ⟨store, hstore, hreserved.session, fun hagrees => ?_⟩
    have hreservation := reservation_eq (appArgs writeRowCap) (Run.run (step Reference.libraries) {}
      (fullOps writeRowCap)).disk (coherent_run {} _ hstore) hreserved.session
    have hroom := (agrees_iff_of_standing hreservation (by decide) hreserved.member
      hreserved.standing hreserved.counters).mp hagrees (sizeMatches_appCounters _ _)
    exact not_hasRoom_appCounters le_rfl (by decide) hroom
  · refine ⟨_, (Option.some_get memberOps_store).symm, by decide +kernel, fun hagrees => ?_⟩
    have hquota : quota leftoverArgs ((Run.run (step Reference.libraries) {} memberOps).store.get
        memberOps_store) = .ok 0 := by decide +kernel
    obtain ⟨left, hleft, hpositive⟩ := hagrees.positive.mpr ⟨0, by decide +kernel⟩
    rw [hquota] at hleft
    cases hleft
    exact absurd hpositive (by decide)

/-- The agreement at a concrete reachable store. -/
theorem quota_agrees_iff_mirrored_memberOps :
    ∃ store, (Run.run (step Reference.libraries) {} memberOps).store = some store ∧
      (Agrees Reference.libraries (appArgs 0) store
        (Run.run (step Reference.libraries) {} memberOps).disk ↔
          Mirrored (appArgs 0) store.inner) :=
  ⟨_, (Option.some_get memberOps_store).symm,
    quota_agrees_iff_mirrored Reference.libraries {} memberOps _
      (Option.some_get memberOps_store).symm (by decide +kernel) (appArgs 0) (by decide)⟩

end LogosRln.SealedStore.Quota
