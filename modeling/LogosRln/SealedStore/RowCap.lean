import LogosRln.SealedStore.HealthyWrites
import LogosRln.SealedStore.Quota

/-!
# The row cap against the prune

A reservation that needs a new row is checked against the row cap before the
floor advances, on the rows as they stand.  The rows that the same reservation
would prune still count, so a section full of past epochs refuses an
application that would have left it almost empty.
-/

namespace LogosRln.SealedStore.RowCap

open Format RateLimit Files Quota HealthyWrites

/-- The rows a reservation would persist: its new row beside the old ones, less
those below its threshold. -/
def grownRows (args : ReserveArgs) (alloc : AllocationState) : List EpochAllocation :=
  (alloc.allocations ++ [EpochAllocation.mk args.rlnIdentifierHex args.epoch 1]).filter fun row =>
    reserveThreshold alloc args.retainFloor ≤ row.epoch

/-- The reservation is answered as full only if the section it would persist is
over the cap. -/
def FullOnlyIfGrown (libs : Libraries) (args : ReserveArgs) (write : WriteOutcome) (store : Store)
    (disk : Disk) : Prop :=
  (reserveMessageId libs args write store disk).result = .error fullSection →
    ∃ alloc, store.inner.sections[args.hash]? = some alloc ∧
      writeRowCap < (grownRows args alloc).length

/-- A membership in good standing whose section has no room for this
application has no row to prune either, the new one included. -/
def NothingToPrune (args : ReserveArgs) (inner : Inner) : Prop :=
  ∀ alloc, inner.sections[args.hash]? = some alloc → inner.isQuarantined args.hash = false →
    SizeMatches args alloc → ¬ HasRoom args alloc →
      reserveThreshold alloc args.retainFloor ≤ args.epoch ∧
        ∀ row ∈ alloc.allocations, reserveThreshold alloc args.retainFloor ≤ row.epoch

variable {libs : Libraries} {args : ReserveArgs} {write : WriteOutcome} {store : Store}
  {disk : Disk}

/-! ## When a reservation is answered as full -/

theorem epochSizeRefusal_ne_fullSection (configured bound : UInt64) :
    epochSizeRefusal configured bound ≠ fullSection := by
  intro heq
  have hfirst := congrArg (fun error : ApiError => error.message.toList.head?) heq
  have hconfigured : "configured epoch_size_sec ".toList.head? = some 'c' := by decide
  have hallocation : fullSection.message.toList.head? = some 'a' := by simp [fullSection]
  simp only [hallocation] at hfirst
  simp only [epochSizeRefusal, toString, String.toList_append, List.append_assoc,
    List.head?_append, hconfigured] at hfirst
  cases hfirst

theorem allocRefusal_ne_fullSection (error : AllocError) : allocRefusal error ≠ fullSection := by
  cases error <;> simp [allocRefusal, fullSection, budgetRefusal, floorRefusal]

theorem chooseSlot_eq_full_iff {inner : Inner} :
    chooseSlot args inner = .error fullSection ↔
      ∃ alloc, inner.sections[args.hash]? = some alloc ∧ inner.isQuarantined args.hash = false ∧
        SizeMatches args alloc ∧ ¬ HasRoom args alloc := by
  cases hstanding : inner.isQuarantined args.hash with
  | true =>
      have hne : quarantinedError ≠ fullSection := by
        simp [quarantinedError, fullSection, ApiError.internal]
      simp [chooseSlot, hstanding, reservationGuards, hne]
  | false =>
      cases hsection : inner.sections[args.hash]? with
      | none =>
          have hne : noSuchMembership ≠ fullSection := by simp [noSuchMembership, fullSection]
          simp [chooseSlot, hstanding, hsection, reservationGuards, hne]
      | some alloc =>
          simp only [chooseSlot, hstanding, hsection, Option.some.injEq, exists_eq_left', true_and]
          rcases reservationGuards_some args alloc with ⟨hguards, hsize⟩ | ⟨hguards, hsize⟩
          · simp only [hguards, hsize, true_and]
            have hroom : HasRoom args alloc ↔
                ¬ ((!alloc.allocations.any
                  (EpochAllocation.isFor args.rlnIdentifierHex args.epoch) &&
                    decide (alloc.allocations.length ≥ writeRowCap)) = true) := by
              simp only [HasRoom, Bool.and_eq_true, Bool.not_eq_true', decide_eq_true_eq]
              grind
            rw [hroom, not_not]
            split
            · simp [*]
            · rename_i hfits
              simp only [hfits]
              split
              · simpa using allocRefusal_ne_fullSection _
              · simp
          · simp [hguards, hsize, epochSizeRefusal_ne_fullSection]

/-- An unlocked store answers as full exactly when the choice of a slot does:
no ledger error reads like it. -/
theorem reserveMessageId_eq_full_iff (hheld : store.inner.lockHeld = true)
    (hunlocked : store.inner.session.isSome) :
    (reserveMessageId libs args write store disk).result = .error fullSection ↔
      chooseSlot args store.inner = .error fullSection := by
  obtain ⟨session, hsession⟩ := Option.isSome_iff_exists.mp hunlocked
  cases hchosen : chooseSlot args store.inner with
  | error error => simp [reserveMessageId, hheld, hsession, hchosen, refuse]
  | ok chosen =>
      obtain ⟨slot, alloc⟩ := chosen
      simp only [reserveMessageId, hheld, hsession, hchosen, writeAllocations, Bool.not_true,
        Bool.false_eq_true, if_false, Option.isNone_some, reduceCtorEq, iff_false]
      intro hfull
      cases huuid : store.inner.storeUuid with
      | none =>
          simp only [huuid, Except.map, Except.error.injEq] at hfull
          exact absurd hfull (by simp [notProvisioned, fullSection, ApiError.internal])
      | some uuid =>
          cases hwritten : write.result with
          | error error =>
              simp only [huuid, hwritten, Except.map, Except.error.injEq] at hfull
              have hkind := congrArg ApiError.kind hfull
              cases hkind
          | ok _ => simp [huuid, hwritten, Except.map] at hfull

/-! ## The rows a reservation would leave -/

theorem length_grownRows_le (args : ReserveArgs) (alloc : AllocationState) :
    (grownRows args alloc).length ≤ alloc.allocations.length + 1 := by
  simpa [grownRows] using List.length_filter_le
    (fun row => decide (reserveThreshold alloc args.retainFloor ≤ row.epoch))
    (alloc.allocations ++ [EpochAllocation.mk args.rlnIdentifierHex args.epoch 1])

/-- A section within the cap outgrows it exactly when it is full and nothing is
pruned. -/
theorem cap_lt_grownRows_iff {alloc : AllocationState}
    (hrows : alloc.allocations.length ≤ maxRowsPerSection) (hroom : ¬ HasRoom args alloc) :
    writeRowCap < (grownRows args alloc).length ↔
      reserveThreshold alloc args.retainFloor ≤ args.epoch ∧
        ∀ row ∈ alloc.allocations, reserveThreshold alloc args.retainFloor ≤ row.epoch := by
  have hfull : alloc.allocations.length = writeRowCap := by
    have hcap := (not_or.mp hroom).2
    exact le_antisymm hrows (not_lt.mp hcap)
  have hgrown : (alloc.allocations ++
      [EpochAllocation.mk args.rlnIdentifierHex args.epoch 1]).length = writeRowCap + 1 := by
    simp [hfull]
  have hkept : writeRowCap < (grownRows args alloc).length ↔
      (grownRows args alloc).length = (alloc.allocations ++
        [EpochAllocation.mk args.rlnIdentifierHex args.epoch 1]).length := by
    have hle := length_grownRows_le args alloc
    omega
  rw [hkept, grownRows, List.length_filter_eq_length_iff]
  simp only [List.mem_append, List.mem_singleton, decide_eq_true_eq, or_imp, forall_and,
    forall_eq]
  exact and_comm

/-- The rows of every reachable store fit the cap of the read path. -/
theorem rowsFit_run (disk : Disk) (ops : List Op)
    (hstore : (Run.run (step libs) { disk } ops).store = some store) : RowsFit store.inner := by
  have hrun : (Run.run (step libs) { disk } ops).Satisfies libs (fun _ => True)
      fun inner _ => RowsFit inner := by
    refine Run.invariant_run ?_ ?_ (Run.guarded_true _ ops)
    · exact satisfies_step (fun _ _ _ _ _ _ => ⟨trivial, rowsFit_openedInner⟩)
        fun _ _ _ _ _ _ _ _ _ _ hrows heffect => ⟨trivial, hrows.effect heffect⟩
    · exact ⟨trivial, by simp⟩
  exact (hrun.store store hstore).2

/-- In every reachable unlocked store, a reservation is answered as full only
if it would outgrow the cap exactly when a full section has nothing to prune
for it. -/
theorem fullOnlyIfGrown_iff (libs : Libraries) (disk : Disk) (ops : List Op) (store : Store)
    (hstore : (Run.run (step libs) { disk } ops).store = some store)
    (hunlocked : store.inner.session.isSome) (args : ReserveArgs) (write : WriteOutcome) :
    FullOnlyIfGrown libs args write store (Run.run (step libs) { disk } ops).disk ↔
      NothingToPrune args store.inner := by
  have hheld := (coherent_run disk ops hstore).sessionHeld hunlocked
  have hrows := rowsFit_run disk ops hstore
  rw [FullOnlyIfGrown, reserveMessageId_eq_full_iff hheld hunlocked, chooseSlot_eq_full_iff]
  constructor
  · intro hgrown alloc hsection hstanding hsize hroom
    obtain ⟨alloc', hsection', hcap⟩ := hgrown ⟨alloc, hsection, hstanding, hsize, hroom⟩
    cases hsection.symm.trans hsection'
    exact (cap_lt_grownRows_iff (hrows.counters _ _ hsection) hroom).mp hcap
  · rintro hprune ⟨alloc, hsection, hstanding, hsize, hroom⟩
    exact ⟨alloc, hsection, (cap_lt_grownRows_iff (hrows.counters _ _ hsection) hroom).mpr
      (hprune alloc hsection hstanding hsize hroom)⟩

/-- The last application of the member, two hundred epochs on. -/
def laterArgs : ReserveArgs := ⟨"ab", (appArgs 0).rlnIdentifierHex, 200, 199, 10, 600⟩

theorem reserveThreshold_appCounters {n : ℕ} (hrows : 0 < n) :
    reserveThreshold (appCounters n) 199 = 2 := by
  have hepochs : ((appRows n).filter fun row => row.epoch ≤ (199 : UInt64)).map
      (fun row => saturatingSucc row.epoch) = List.replicate n 2 := by
    rw [List.filter_eq_self.mpr]
    · refine List.eq_replicate_iff.mpr ⟨by simp [appRows], fun epoch hepoch => ?_⟩
      obtain ⟨row, hrow, rfl⟩ := List.mem_map.mp hepoch
      obtain ⟨i, -, rfl⟩ := List.mem_map.mp hrow
      exact (by decide : saturatingSucc 1 = 2)
    · intro row hrow
      obtain ⟨i, -, rfl⟩ := List.mem_map.mp hrow
      exact (by decide : decide ((1 : UInt64) ≤ 199) = true)
  have hhighest : (List.replicate n (2 : UInt64)).max? = some 2 :=
    max?_eq_some_iff.mpr ⟨by simp; omega, by simp⟩
  simp only [reserveThreshold, appCounters, hepochs, hhighest]
  decide

theorem not_hasRoom_laterArgs {n : ℕ} (hfull : writeRowCap ≤ n) :
    ¬ HasRoom laterArgs (appCounters n) := by
  rintro (hrow | hlength)
  · obtain ⟨row, hrow, hfor⟩ := List.any_eq_true.mp hrow
    obtain ⟨i, -, rfl⟩ := List.mem_map.mp hrow
    simp [EpochAllocation.isFor, laterArgs] at hfor
  · simp only [appCounters, appRows, List.length_map, List.length_range] at hlength
    omega

theorem sizeMatches_laterArgs {n : ℕ} (hrows : 0 < n) : SizeMatches laterArgs (appCounters n) :=
  .inr (by simp [appCounters, laterArgs, hrows.ne'])

/-- No row of the section would survive the later reservation. -/
theorem not_kept_appCounters {n : ℕ} (hrows : 0 < n) :
    ¬ ∀ row ∈ (appCounters n).allocations,
      reserveThreshold (appCounters n) laterArgs.retainFloor ≤ row.epoch := by
  intro hkept
  have hrow := hkept _ (List.mem_map.mpr ⟨0, List.mem_range.mpr hrows, rfl⟩)
  rw [show laterArgs.retainFloor = 199 from rfl, reserveThreshold_appCounters hrows] at hrow
  exact absurd hrow (by decide : ¬ (2 : UInt64) ≤ 1)

/-- A section full of epoch-1 rows refuses an application two hundred epochs
later, although its reservation would prune every one of them. -/
theorem past_epochs_fill_the_section :
    ∃ store, (Run.run (step Reference.libraries) {} (fullOps writeRowCap)).store = some store ∧
      store.inner.session.isSome ∧
      epochInWindow laterArgs.epoch 200 1 ∧ laterArgs.retainFloor = saturatingSub 200 1 ∧
      ¬ FullOnlyIfGrown Reference.libraries laterArgs .ok store
        (Run.run (step Reference.libraries) {} (fullOps writeRowCap)).disk := by
  have hpositive : 0 < writeRowCap := by decide
  obtain ⟨store, hstore, hreserved⟩ := reserved_run le_rfl
  refine ⟨store, hstore, hreserved.session, by decide, by decide, fun hgrown => ?_⟩
  have hroom := not_hasRoom_laterArgs (le_refl writeRowCap)
  have hfull : chooseSlot laterArgs store.inner = .error fullSection :=
    chooseSlot_eq_full_iff.mpr ⟨_, hreserved.counters, hreserved.standing,
      sizeMatches_laterArgs hpositive, hroom⟩
  obtain ⟨alloc, hsection, hcap⟩ :=
    hgrown ((reserveMessageId_eq_full_iff hreserved.lockHeld hreserved.session).mpr hfull)
  have halloc : alloc = appCounters writeRowCap :=
    Option.some.inj (hsection.symm.trans hreserved.counters)
  rw [halloc] at hcap hsection
  have hkept := (cap_lt_grownRows_iff (rowsFit_run {} _ hstore |>.counters _ _ hsection)
    hroom).mp hcap
  exact not_kept_appCounters hpositive hkept.2

/-- The equivalence at a concrete reachable store. -/
theorem fullOnlyIfGrown_iff_memberOps :
    ∃ store, (Run.run (step Reference.libraries) {} memberOps).store = some store ∧
      (FullOnlyIfGrown Reference.libraries (appArgs 0) .ok store
        (Run.run (step Reference.libraries) {} memberOps).disk ↔
          NothingToPrune (appArgs 0) store.inner) := by
  obtain ⟨store, hstore, hreserved⟩ := reserved_run (Nat.zero_le writeRowCap)
  exact ⟨store, hstore, fullOnlyIfGrown_iff Reference.libraries {} memberOps store hstore
    hreserved.session (appArgs 0) .ok⟩

end LogosRln.SealedStore.RowCap
