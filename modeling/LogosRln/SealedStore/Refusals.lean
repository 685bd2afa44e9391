import LogosRln.SealedStore.Quota

/-!
# What a failed reservation leaves

Every guard of a reservation runs before the counters move, so a refusal leaves
the store and the directory alone.  A failed ledger write comes after: memory
keeps the advanced counters of a success and publishes them, the slot is
wasted, and only the copy of the ledger that a later unlock verifies still
describes the file last written.
-/

namespace LogosRln.SealedStore.Refusals

open RegistryId Format RateLimit Files Quota

/-- The error of a reservation whose ledger write failed. -/
def ledgerSaveError (error : String) : ApiError :=
  .internal s!"allocations save: {error}"

/-- Memory with its copy of the ledger put back to what another store holds. -/
def withLedgerOf (written inner : Inner) : Inner :=
  { inner with rawSections := written.rawSections, rootMacRaw := written.rootMacRaw }

/-- After a failed ledger write: memory and its publication are those of a
success but for the copy of the ledger, the other files are untouched, and the
ledger file is the old one or the one a success writes. -/
structure WastedSlot (store : Store) (disk : Disk) (write : WriteOutcome)
    (success failure : Reply UInt64) : Prop where
  issued : ∃ slot, success.result = .ok slot
  memory : failure.store.inner = withLedgerOf store.inner success.store.inner
  published : failure.store.snapshot = success.store.snapshot
  ledger : failure.disk.allocations =
    if write.lands then success.disk.allocations else disk.allocations
  otherFiles : { failure.disk with allocations := disk.allocations } = disk

variable {libs : Libraries} {args : ReserveArgs} {write : WriteOutcome} {store : Store}
  {disk : Disk}

/-! ## Reading the error -/

theorem head?_ledgerSaveError (error : String) :
    (ledgerSaveError error).message.toList.head? = some 'a' := by
  simp [ledgerSaveError, ApiError.internal, toString]

/-- No guard answers like a failed ledger write. -/
theorem ne_ledgerSaveError {guardError : ApiError} (error : String)
    (hguard : guardError.kind ≠ .internal ∨ guardError.message.toList.head? ≠ some 'a') :
    guardError ≠ ledgerSaveError error := by
  rintro rfl
  rcases hguard with hkind | hhead
  · exact hkind rfl
  · exact hhead (head?_ledgerSaveError error)

theorem chooseSlot_ne_ledgerSaveError {inner : Inner} {guardError : ApiError}
    (hrefused : chooseSlot args inner = .error guardError) (error : String) :
    guardError ≠ ledgerSaveError error := by
  simp only [chooseSlot, reservationGuards] at hrefused
  split at hrefused
  · rename_i hguards
    cases hrefused
    split at hguards
    · cases hguards
      exact ne_ledgerSaveError error (.inr (by simp [quarantinedError, ApiError.internal]))
    · split at hguards
      · cases hguards
        exact ne_ledgerSaveError error (.inl (by decide))
      · split at hguards
        · cases hguards
          exact ne_ledgerSaveError error (.inl (by simp [epochSizeRefusal]))
        · cases hguards
  · split at hrefused
    · cases hrefused
      exact ne_ledgerSaveError error (.inl (by decide))
    · split at hrefused
      · cases hrefused
        exact ne_ledgerSaveError error (.inl (by decide))
      · split at hrefused
        · rename_i allocError _
          cases hrefused
          cases allocError <;> exact ne_ledgerSaveError error (.inl (by decide))
        · cases hrefused

/-! ## The two kinds of failure -/

/-- A reservation past its guards writes the ledger of the advanced counters. -/
theorem reserveMessageId_of_chosen {session : Session} {slot : UInt64} {alloc : AllocationState}
    (hheld : store.inner.lockHeld = true) (hsession : store.inner.session = some session)
    (hchosen : chooseSlot args store.inner = .ok (slot, alloc)) :
    reserveMessageId libs args write store disk =
      let ledger := writeAllocations libs write (withCounters store.inner args.hash alloc) disk
      ⟨ledger.result.map fun _ => slot, publish ledger.inner, ledger.disk⟩ := by
  simp [reserveMessageId, hheld, hsession, hchosen, withCounters]

/-- A failed ledger write leaves memory alone and says so. -/
theorem writeAllocations_failed {inner : Inner} {session : Session} {uuid : Bytes16}
    (hunlocked : Unlocked inner session uuid) (landed : Bool) (saveError : String) :
    writeAllocations libs (.failed landed saveError) inner disk =
      ⟨.error (ledgerSaveError saveError), inner,
        ledgerDisk libs (.failed landed saveError) session.keys uuid inner disk⟩ := by
  simp only [writeAllocations, hunlocked.session, hunlocked.storeUuid, WriteOutcome.result,
    ledgerDisk]
  rfl

theorem writeAllocations_ok {inner : Inner} {session : Session} {uuid : Bytes16}
    (hunlocked : Unlocked inner session uuid) :
    writeAllocations libs .ok inner disk =
      ⟨.ok (), ledgerInner libs .ok session.keys uuid inner,
        ledgerDisk libs .ok session.keys uuid inner disk⟩ := by
  rcases writeAllocations_cases libs hunlocked .ok disk with ⟨_, hfailed, -⟩ | ⟨-, heq⟩
  · exact absurd rfl hfailed
  · exact heq

/-- A reservation refuses before anything moves, succeeds, or fails its ledger
write. -/
theorem reserveMessageId_outcome {uuid : Bytes16}
    (huuid : store.inner.session.isSome → store.inner.storeUuid = some uuid) :
    (∃ error, (∀ saveError, error ≠ ledgerSaveError saveError) ∧
        reserveMessageId libs args write store disk = refuse error store disk) ∨
      (∃ slot, (reserveMessageId libs args write store disk).result = .ok slot) ∨
      ∃ saveError, (reserveMessageId libs args write store disk).result =
          .error (ledgerSaveError saveError) ∧
        WastedSlot store disk write (reserveMessageId libs args .ok store disk)
          (reserveMessageId libs args write store disk) := by
  cases hheld : store.inner.lockHeld with
  | false =>
      refine .inl ⟨closedError, fun saveError => ?_, by simp [reserveMessageId, hheld]⟩
      exact ne_ledgerSaveError saveError (.inr (by simp [closedError, ApiError.internal]))
  | true =>
      cases hsession : store.inner.session with
      | none =>
          refine .inl ⟨⟨.locked, _⟩, fun saveError => ?_, by
            simp only [reserveMessageId, hheld, hsession, Option.isNone_none, Bool.not_true,
              Bool.false_eq_true, if_false, if_true]
            rfl⟩
          exact ne_ledgerSaveError saveError (.inl (by simp))
      | some session =>
          have huuid := huuid (by simp [hsession])
          cases hchosen : chooseSlot args store.inner with
          | error error =>
              exact .inl ⟨error, chooseSlot_ne_ledgerSaveError hchosen,
                by simp [reserveMessageId, hheld, hsession, hchosen]⟩
          | ok chosen =>
              obtain ⟨slot, alloc⟩ := chosen
              have hreserved := fun write => @reserveMessageId_of_chosen libs args write store disk
                session slot alloc hheld hsession hchosen
              have hunlocked : Unlocked (withCounters store.inner args.hash alloc) session uuid :=
                ⟨hheld, hsession, huuid⟩
              have hwritten := @writeAllocations_ok libs disk _ session uuid hunlocked
              refine .inr ?_
              cases write with
              | ok => exact .inl ⟨slot, by simp [hreserved, hwritten, Except.map]⟩
              | failed landed saveError =>
                  have hfailed := @writeAllocations_failed libs disk _ session uuid hunlocked
                    landed saveError
                  refine .inr ⟨saveError, by simp [hreserved, hfailed, Except.map], ?_⟩
                  simp only [hreserved, hwritten, hfailed]
                  refine ⟨⟨slot, rfl⟩, ?_, ?_, ?_, rfl⟩
                  · simp [publish, withLedgerOf, SealedStore.ledgerInner, withCounters]
                  · rfl
                  · cases landed <;> rfl

/-- In every reachable store, a failed reservation that did not fail its ledger
write leaves the store and all files as they were, and one that did leaves
memory as a success would but for its copy of the ledger. -/
theorem failed_reservation (libs : Libraries) (disk : Disk) (ops : List Op) (store : Store)
    (hstore : (Run.run (step libs) { disk } ops).store = some store) (args : ReserveArgs)
    (write : WriteOutcome) (error : ApiError)
    (hfailed : (reserveMessageId libs args write store
      (Run.run (step libs) { disk } ops).disk).result = .error error) :
    ((∀ saveError, error ≠ ledgerSaveError saveError) →
        reserveMessageId libs args write store (Run.run (step libs) { disk } ops).disk =
          refuse error store (Run.run (step libs) { disk } ops).disk) ∧
      ((∃ saveError, error = ledgerSaveError saveError) →
        WastedSlot store (Run.run (step libs) { disk } ops).disk write
          (reserveMessageId libs args .ok store (Run.run (step libs) { disk } ops).disk)
          (reserveMessageId libs args write store (Run.run (step libs) { disk } ops).disk)) := by
  generalize (Run.run (step libs) { disk } ops).disk = reached at hfailed
  obtain ⟨uuid, huuid⟩ := (coherent_run disk ops hstore).storeUuid_of_session
  rcases @reserveMessageId_outcome libs args write store reached uuid huuid with
    ⟨guardError, hguard, hrefused⟩ | ⟨slot, hserved⟩ | ⟨saveError, hsave, hwasted⟩
  · rw [hrefused] at hfailed ⊢
    cases hfailed
    exact ⟨fun _ => rfl, fun ⟨saveError, herror⟩ => absurd herror (hguard saveError)⟩
  · rw [hserved] at hfailed
    cases hfailed
  · rw [hsave] at hfailed
    cases hfailed
    exact ⟨fun hguard => absurd rfl (hguard saveError), fun _ => hwasted⟩

/-! ### A wasted slot -/

def diskFull : WriteOutcome := .failed false "disk full"

theorem reserve_diskFull {store : Store} {disk : Disk} (hreserved : Reserved store 0) :
    (reserveMessageId Reference.libraries (appArgs 0) diskFull store disk).result =
      .error (ledgerSaveError "disk full") := by
  obtain ⟨session, hsession⟩ := Option.isSome_iff_exists.mp hreserved.session
  obtain ⟨uuid, huuid⟩ := Option.isSome_iff_exists.mp hreserved.storeUuid
  have hunlocked : Unlocked (withCounters store.inner (appArgs 0).hash (appCounters 1)) session
    uuid := ⟨hreserved.lockHeld, hsession, huuid⟩
  rw [reserveMessageId_of_chosen hreserved.lockHeld hsession
    (chooseSlot_reserved hreserved (by decide)), diskFull, writeAllocations_failed hunlocked]
  rfl

/-- A success and a failed ledger write of one call leave different memory. -/
theorem failed_write_keeps_ledger_copy :
    ∃ store, (Run.run (step Reference.libraries) {} memberOps).store = some store ∧
      (reserveMessageId Reference.libraries (appArgs 0) diskFull store
        (Run.run (step Reference.libraries) {} memberOps).disk).result =
          .error (ledgerSaveError "disk full") ∧
      (reserveMessageId Reference.libraries (appArgs 0) diskFull store
          (Run.run (step Reference.libraries) {} memberOps).disk).store.inner ≠
        (reserveMessageId Reference.libraries (appArgs 0) .ok store
          (Run.run (step Reference.libraries) {} memberOps).disk).store.inner := by
  obtain ⟨store, hstore, hreserved⟩ := reserved_run (Nat.zero_le writeRowCap)
  refine ⟨store, hstore, reserve_diskFull hreserved, fun hsame => ?_⟩
  have hrows := congrArg (fun inner : Inner =>
    (inner.rawSections["ab"]?).map fun stored => stored.allocations.length) hsame
  obtain rfl : store = (Run.run (step Reference.libraries) {} memberOps).store.get
      memberOps_store := Option.some.inj (hstore.symm.trans (Option.some_get _).symm)
  exact absurd hrows (by decide +kernel)

/-- The failure of a full disk. -/
theorem failed_reservation_diskFull :
    ∃ store, (Run.run (step Reference.libraries) {} memberOps).store = some store ∧
      WastedSlot store (Run.run (step Reference.libraries) {} memberOps).disk diskFull
        (reserveMessageId Reference.libraries (appArgs 0) .ok store
          (Run.run (step Reference.libraries) {} memberOps).disk)
        (reserveMessageId Reference.libraries (appArgs 0) diskFull store
          (Run.run (step Reference.libraries) {} memberOps).disk) := by
  obtain ⟨store, hstore, hreserved⟩ := reserved_run (Nat.zero_le writeRowCap)
  exact ⟨store, hstore, (failed_reservation Reference.libraries {} memberOps store hstore
    (appArgs 0) diskFull (ledgerSaveError "disk full") (reserve_diskFull hreserved)).2 ⟨_, rfl⟩⟩

end LogosRln.SealedStore.Refusals
