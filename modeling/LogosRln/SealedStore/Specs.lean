import LogosRln.SealedStore.Store

/-!
# What each store operation can do

One lemma for each operation, naming every state it can leave in memory and on
disk.  Invariants are proved from these and never look inside an operation.
-/

namespace LogosRln.SealedStore

open RegistryId Crypto Format Lifecycle RateLimit Files

variable (libs : Libraries)

/-! ## Opening -/

/-- What a ledger, adopted or not, contributes to an opened store. -/
def loadedFrom (sealedStore : Option SealedFile) (census : Finset String) :
    Option AllocationsFile → LoadedAllocations × Finset String
  | some file => adoptAllocations sealedStore census file
  | none => (.empty, quarantineAll sealedStore census)

/-- The state `open` builds from the files it adopts. -/
def openedInner (libs : Libraries) (sealedStore : Option SealedFile)
    (ledger : Option AllocationsFile) (cache : StringMap CacheState) : Inner :=
  let loaded := loadedFrom sealedStore (censusFailures libs sealedStore) ledger
  { sealedStore
    storeUuid := sealedStore.bind fun file => parseUuid file.storeUuid
    sections := loaded.1.sections
    cache
    censusQuarantined := loaded.2
    keyedQuarantined := ∅
    session := none
    rawSections := loaded.1.rawSections
    rootMacRaw := loaded.1.rootMacRaw
    lockHeld := true }

/-- The ledger and the cache add to an opened state what the adopted ledger
contributes, and leave both durable files adoptable. -/
theorem openFiles_spec (env : OpenEnv) (sealedStore : Option SealedFile) (disk : Disk) :
    ∃ cache disk', openFiles libs env sealedStore disk =
        (publish (openedInner libs sealedStore (readLedger disk.allocations) cache), disk') ∧
      disk'.sealedText = disk.sealedText ∧
      readLedger disk'.allocations = readLedger disk.allocations := by
  obtain ⟨cache', aside', hcache⟩ := loadCache_disk env sealedStore
    (loadAllocations env sealedStore (censusFailures libs sealedStore) disk).2
  rcases loadAllocations_eq env sealedStore (censusFailures libs sealedStore) disk with
    ⟨ledger, hledger, hload⟩ | ⟨allocations, aside, hledger, hmoved, hload⟩
  · refine ⟨_, _, by simp only [openFiles, hload, openedInner, loadedFrom, hledger]; rfl, ?_⟩
    rw [hload] at hcache
    simp [hcache]
  · refine ⟨_, _, by simp only [openFiles, hload, openedInner, loadedFrom, hledger]; rfl, ?_⟩
    rw [hload] at hcache
    simp [hcache, hmoved, hledger]

/-- A successful `open`: its state comes from the sealed file and the ledger it
can adopt, and both stay adoptable. -/
structure Opened (libs : Libraries) (env : OpenEnv) (disk disk' : Disk)
    (cache : StringMap CacheState) : Prop where
  opens : openStore libs env disk = (.ok (publish (openedInner libs (readSealed disk.sealedText)
    (readLedger disk.allocations) cache)), disk')
  sealedText : readSealed disk'.sealedText = readSealed disk.sealedText
  allocations : readLedger disk'.allocations = readLedger disk.allocations
  loaded : (loadSealed env disk).1 = .ok (readSealed disk.sealedText)
  storeUuid : ∀ file, readSealed disk.sealedText = some file →
    ∃ uuid, parseUuid file.storeUuid = some uuid

/-- `open` refuses and changes nothing, or succeeds. -/
theorem openStore_cases (env : OpenEnv) (disk : Disk) :
    (∃ error, openStore libs env disk = (.error error, disk)) ∨
      ∃ cache disk', Opened libs env disk disk' cache := by
  by_cases hold : disk.oldFormat ∧ ¬ disk.sealedText.present
  · exact .inl ⟨oldFormatRefusal, by simp [openStore, hold]⟩
  cases hlock : env.lock with
  | wouldBlock error => exact .inl ⟨_, by simp only [openStore, if_neg hold, hlock]; rfl⟩
  | failed error => exact .inl ⟨_, by simp only [openStore, if_neg hold, hlock]; rfl⟩
  | taken =>
  have hlocked : openStore libs env disk = openLocked libs env disk := by
    simp only [openStore, if_neg hold, hlock]
  cases hread : readSealed disk.sealedText with
  | some file =>
      cases huuid : parseUuid file.storeUuid with
      | none => exact .inl ⟨badUuid, by
          simp [hlocked, openLocked, loadSealed_of_readSealed hread, huuid]⟩
      | some uuid =>
          obtain ⟨cache, disk', hopen, hsealed, hledger⟩ :=
            openFiles_spec libs env (some file) disk
          refine .inr ⟨cache, disk', ?_, by rw [hsealed], hledger,
            by rw [loadSealed_of_readSealed hread, hread], fun other hother => ?_⟩
          · simp [hlocked, openLocked, loadSealed_of_readSealed hread, huuid, hopen,
              hread]
          · cases hread.symm.trans hother
            exact ⟨uuid, huuid⟩
  | none =>
      rcases loadSealed_of_readSealed_none env hread with
        ⟨error, hload⟩ | ⟨sealedText, aside, hmoved, hload⟩
      · exact .inl ⟨error, by simp [hlocked, openLocked, hload]⟩
      · obtain ⟨cache, disk', hopen, hsealed, hledger⟩ :=
          openFiles_spec libs env none { disk with sealedText, aside }
        refine .inr ⟨cache, disk', ?_, by rw [hsealed, hread]; exact hmoved, hledger,
          by rw [hload, hread], by simp [hread]⟩
        simp [hlocked, openLocked, hload, hopen, hread]

/-! ## Unlocking -/

/-- The header `unlock` provisions an empty store with. -/
def provisionedFile (params : KdfParams) (keys : SubKeys) (uuid : Bytes16) : SealedFile :=
  .provision params (bytesToHex keys.verify.toList) (bytesToHex uuid.toList)

/-- What a successful verifying unlock has checked. -/
structure Authenticated (libs : Libraries) (password : String) (inner : Inner) (file : SealedFile)
    (uuid : Bytes16) (keys : SubKeys) : Prop where
  lockHeld : inner.lockHeld = true
  sealedStore : inner.sealedStore = some file
  storeUuid : inner.storeUuid = some uuid
  derived : deriveKeys libs password file.kdf = .ok keys
  verifier : keys.verify.toList = (hexToVec file.verifier).getD []
  someStanding : allQuarantined inner = false

/-- The state a verifying unlock commits. -/
def authenticatedInner (libs : Libraries) (password : String) (inner : Inner) (file : SealedFile)
    (uuid : Bytes16) (keys : SubKeys) : Inner :=
  { inner with
    keyedQuarantined := keyedFailures libs keys uuid file inner
    session := some ⟨password, keys⟩ }

/-- What provisioning starts from and draws. -/
structure Provisions (libs : Libraries) (password : String) (random : UnlockRandom) (inner : Inner)
    (params : KdfParams) (keys : SubKeys) (uuid : Bytes16) : Prop where
  lockHeld : inner.lockHeld = true
  empty : inner.credentialCount = 0
  generated : KdfParams.generate random.salt = .ok params
  derived : deriveKeys libs password params = .ok keys
  drawn : inner.storeUuid.or random.uuid = some uuid

theorem authenticate_cases (password : String) (store : Store) (disk : Disk)
    (hheld : store.inner.lockHeld = true) (hstanding : allQuarantined store.inner = false) :
    (∃ error, authenticate libs password store disk = refuse error store disk) ∨
      ∃ file uuid keys unlocked, Authenticated libs password store.inner file uuid keys ∧
        authenticate libs password store disk = ⟨.ok unlocked,
          publish (authenticatedInner libs password store.inner file uuid keys), disk⟩ := by
  cases hsealed : store.inner.sealedStore with
  | none => exact .inl ⟨_, by simp only [authenticate, hsealed]; rfl⟩
  | some file =>
      cases huuid : store.inner.storeUuid with
      | none => exact .inl ⟨_, by simp only [authenticate, hsealed, huuid]; rfl⟩
      | some uuid =>
          cases hkeys : deriveKeys libs password file.kdf with
          | error error => exact .inl ⟨error, by simp only [authenticate, hsealed, huuid, hkeys]⟩
          | ok keys =>
              by_cases hverifier : keys.verify.toList = (hexToVec file.verifier).getD []
              · exact .inr ⟨file, uuid, keys, _,
                  ⟨hheld, hsealed, huuid, hkeys, hverifier, hstanding⟩, by
                    simp only [authenticate, hsealed, huuid, hkeys, ctEq_iff.mpr hverifier,
                      Bool.not_true, Bool.false_eq_true, if_false, authenticatedInner]
                    rfl⟩
              · have hmismatch : ctEq keys.verify.toList ((hexToVec file.verifier).getD []) =
                    false := by
                  rw [← Bool.not_eq_true, ctEq_iff]
                  exact hverifier
                exact .inl ⟨_, by
                  simp only [authenticate, hsealed, huuid, hkeys, hmismatch, Bool.not_false,
                    if_true]
                  rfl⟩

theorem provisionStore_cases (password : String) (random : UnlockRandom) (write : WriteOutcome)
    (store : Store) (disk : Disk) (hheld : store.inner.lockHeld = true)
    (hempty : store.inner.credentialCount = 0) :
    (∃ error, provisionStore libs password random write store disk = refuse error store disk) ∨
      ∃ params keys uuid, Provisions libs password random store.inner params keys uuid ∧
        ((∃ error, write ≠ .ok ∧ provisionStore libs password random write store disk =
            refuse error store { disk with
              sealedText := writeText write (libs.sealedLength (provisionedFile params keys uuid))
                (provisionedFile params keys uuid) disk.sealedText }) ∨
          write = .ok ∧ provisionStore libs password random write store disk =
            ⟨.ok 0, publish { store.inner with
                sealedStore := some (provisionedFile params keys uuid)
                storeUuid := some uuid
                session := some ⟨password, keys⟩ },
              { disk with
                sealedText := writeText write
                  (libs.sealedLength (provisionedFile params keys uuid))
                  (provisionedFile params keys uuid) disk.sealedText }⟩) := by
  cases hparams : KdfParams.generate random.salt with
  | error error => exact .inl ⟨_, by simp only [provisionStore, hparams]; rfl⟩
  | ok params =>
      cases hkeys : deriveKeys libs password params with
      | error error => exact .inl ⟨error, by simp only [provisionStore, hparams, hkeys]⟩
      | ok keys =>
          cases huuid : store.inner.storeUuid.or random.uuid with
          | none => exact .inl ⟨_, by simp only [provisionStore, hparams, hkeys, huuid]; rfl⟩
          | some uuid =>
              refine .inr ⟨params, keys, uuid, ⟨hheld, hempty, hparams, hkeys, huuid⟩, ?_⟩
              cases write with
              | ok =>
                  exact .inr ⟨rfl, by
                    simp only [provisionStore, hparams, hkeys, huuid, WriteOutcome.result,
                      provisionedFile]⟩
              | failed landed error =>
                  exact .inl ⟨_, by simp, by
                    simp only [provisionStore, hparams, hkeys, huuid, WriteOutcome.result,
                      provisionedFile]
                    rfl⟩

/-- `unlock` refuses and changes nothing, provisions an empty store, or verifies
a provisioned one. -/
theorem unlock_cases (password : String) (random : UnlockRandom) (write : WriteOutcome)
    (store : Store) (disk : Disk) :
    (∃ error, unlock libs password random write store disk = refuse error store disk) ∨
      (∃ params keys uuid, Provisions libs password random store.inner params keys uuid ∧
        ((∃ error, write ≠ .ok ∧ unlock libs password random write store disk =
            refuse error store { disk with
              sealedText := writeText write (libs.sealedLength (provisionedFile params keys uuid))
                (provisionedFile params keys uuid) disk.sealedText }) ∨
          write = .ok ∧ unlock libs password random write store disk =
            ⟨.ok 0, publish { store.inner with
                sealedStore := some (provisionedFile params keys uuid)
                storeUuid := some uuid
                session := some ⟨password, keys⟩ },
              { disk with
                sealedText := writeText write
                  (libs.sealedLength (provisionedFile params keys uuid))
                  (provisionedFile params keys uuid) disk.sealedText }⟩)) ∨
      ∃ file uuid keys unlocked, Authenticated libs password store.inner file uuid keys ∧
        0 < store.inner.credentialCount ∧
        unlock libs password random write store disk = ⟨.ok unlocked,
          publish (authenticatedInner libs password store.inner file uuid keys), disk⟩ := by
  cases hheld : store.inner.lockHeld with
  | false => exact .inl ⟨closedError, by simp [unlock, hheld]⟩
  | true =>
      by_cases hempty : store.inner.credentialCount = 0
      · have hunlock : unlock libs password random write store disk =
            provisionStore libs password random write store disk := by
          simp [unlock, hheld, hempty]
        rw [hunlock]
        rcases provisionStore_cases libs password random write store disk hheld hempty with
          hrefused | hprovisioned
        · exact .inl hrefused
        · exact .inr (.inl hprovisioned)
      · cases hstanding : allQuarantined store.inner with
        | true =>
            exact .inl ⟨allQuarantinedError, by
              simp [unlock, hheld, hstanding, Nat.pos_of_ne_zero hempty]⟩
        | false =>
            have hunlock : unlock libs password random write store disk =
                authenticate libs password store disk := by
              simp [unlock, hheld, hstanding, hempty]
            rw [hunlock]
            rcases authenticate_cases libs password store disk hheld hstanding with
              hrefused | ⟨file, uuid, keys, unlocked, hauth, heq⟩
            · exact .inl hrefused
            · exact .inr (.inr ⟨file, uuid, keys, unlocked, hauth, Nat.pos_of_ne_zero hempty, heq⟩)

/-- A session, with what it writes under. -/
structure Unlocked (inner : Inner) (session : Session) (uuid : Bytes16) : Prop where
  lockHeld : inner.lockHeld = true
  session : inner.session = some session
  storeUuid : inner.storeUuid = some uuid

/-! ## Writing the ledger -/

/-- A restamped section reads back as the counters it was stamped from. -/
@[simp]
theorem toAllocationState_stampSection (keys : SubKeys) (uuid : Bytes16) (hash : String)
    (alloc : AllocationState) :
    toAllocationState (stampSection libs keys uuid hash alloc) = alloc := by
  have hrow : toAllocation ∘ toAllocRow = id := by
    funext row
    rfl
  simp [toAllocationState, stampSection, hrow]

theorem getElem?_writtenSections (keys : SubKeys) (uuid : Bytes16) (inner : Inner)
    (hash : String) :
    (writtenSections libs keys uuid inner)[hash]? = inner.sections[hash]?.bind fun alloc =>
      if inner.isQuarantined hash then inner.rawSections[hash]?
      else some (stampSection libs keys uuid hash alloc) := by
  rw [writtenSections, Std.ExtTreeMap.getElem?_filterMap']

/-- The sections a write carries: restamped counters, or what was loaded. -/
theorem writtenSections_cases {keys : SubKeys} {uuid : Bytes16} {inner : Inner} {hash : String}
    {stored : Section} (hstored : (writtenSections libs keys uuid inner)[hash]? = some stored) :
    ∃ alloc, inner.sections[hash]? = some alloc ∧
      (inner.isQuarantined hash = true ∧ inner.rawSections[hash]? = some stored ∨
        inner.isQuarantined hash = false ∧ stored = stampSection libs keys uuid hash alloc) := by
  rw [getElem?_writtenSections, Option.bind_eq_some_iff] at hstored
  obtain ⟨alloc, halloc, hstored⟩ := hstored
  refine ⟨alloc, halloc, ?_⟩
  cases hquarantined : inner.isQuarantined hash with
  | true =>
      rw [if_pos hquarantined] at hstored
      exact .inl ⟨rfl, hstored⟩
  | false =>
      rw [if_neg (by simp [hquarantined])] at hstored
      exact .inr ⟨rfl, (Option.some.inj hstored).symm⟩

/-- Memory after a ledger write. -/
def ledgerInner (libs : Libraries) (write : WriteOutcome) (keys : SubKeys) (uuid : Bytes16)
    (inner : Inner) : Inner :=
  if write = .ok then
    { inner with
      rawSections := writtenSections libs keys uuid inner
      rootMacRaw := some (writtenRoot libs keys uuid inner) }
  else inner

/-- The directory after a ledger write. -/
def ledgerDisk (libs : Libraries) (write : WriteOutcome) (keys : SubKeys) (uuid : Bytes16)
    (inner : Inner) (disk : Disk) : Disk :=
  { disk with
    allocations := writeText write (libs.allocationsLength (ledgerFile libs keys uuid inner))
      (ledgerFile libs keys uuid inner) disk.allocations }

@[simp]
theorem ledgerInner_sealedStore (write : WriteOutcome) (keys : SubKeys) (uuid : Bytes16)
    (inner : Inner) : (ledgerInner libs write keys uuid inner).sealedStore = inner.sealedStore := by
  cases write <;> rfl

@[simp]
theorem ledgerInner_storeUuid (write : WriteOutcome) (keys : SubKeys) (uuid : Bytes16)
    (inner : Inner) : (ledgerInner libs write keys uuid inner).storeUuid = inner.storeUuid := by
  cases write <;> rfl

@[simp]
theorem ledgerInner_sections (write : WriteOutcome) (keys : SubKeys) (uuid : Bytes16)
    (inner : Inner) : (ledgerInner libs write keys uuid inner).sections = inner.sections := by
  cases write <;> rfl

@[simp]
theorem ledgerInner_cache (write : WriteOutcome) (keys : SubKeys) (uuid : Bytes16)
    (inner : Inner) : (ledgerInner libs write keys uuid inner).cache = inner.cache := by
  cases write <;> rfl

@[simp]
theorem ledgerInner_censusQuarantined (write : WriteOutcome) (keys : SubKeys) (uuid : Bytes16)
    (inner : Inner) : (ledgerInner libs write keys uuid inner).censusQuarantined = inner.censusQuarantined := by
  cases write <;> rfl

@[simp]
theorem ledgerInner_keyedQuarantined (write : WriteOutcome) (keys : SubKeys) (uuid : Bytes16)
    (inner : Inner) : (ledgerInner libs write keys uuid inner).keyedQuarantined = inner.keyedQuarantined := by
  cases write <;> rfl

@[simp]
theorem ledgerInner_session (write : WriteOutcome) (keys : SubKeys) (uuid : Bytes16)
    (inner : Inner) : (ledgerInner libs write keys uuid inner).session = inner.session := by
  cases write <;> rfl

@[simp]
theorem ledgerInner_lockHeld (write : WriteOutcome) (keys : SubKeys) (uuid : Bytes16)
    (inner : Inner) : (ledgerInner libs write keys uuid inner).lockHeld = inner.lockHeld := by
  cases write <;> rfl

theorem writeAllocations_cases {inner : Inner} {session : Session} {uuid : Bytes16}
    (hunlocked : Unlocked inner session uuid) (write : WriteOutcome) (disk : Disk) :
    (∃ error, write ≠ .ok ∧ writeAllocations libs write inner disk =
        ⟨.error error, ledgerInner libs write session.keys uuid inner,
          ledgerDisk libs write session.keys uuid inner disk⟩) ∨
      write = .ok ∧ writeAllocations libs write inner disk =
        ⟨.ok (), ledgerInner libs write session.keys uuid inner,
          ledgerDisk libs write session.keys uuid inner disk⟩ := by
  cases write with
  | ok =>
      exact .inr ⟨rfl, by
        simp only [writeAllocations, hunlocked.session, hunlocked.storeUuid, WriteOutcome.result,
          ledgerInner, ledgerDisk, ledgerFile, if_true]⟩
  | failed landed error =>
      exact .inl ⟨_, by simp, by
        simp only [writeAllocations, hunlocked.session, hunlocked.storeUuid, WriteOutcome.result,
          ledgerInner, ledgerDisk, reduceCtorEq, if_false]
        rfl⟩

/-! ## Reserving -/

/-- What a chosen slot was checked against: a membership in good standing with
counters of the call's epoch size, room for the row, and a slot they give. -/
structure Chosen (args : ReserveArgs) (inner : Inner) (slot : UInt64) (alloc' : AllocationState)
    (alloc taken : AllocationState) : Prop where
  standing : inner.isQuarantined args.hash = false
  counters : inner.sections[args.hash]? = some alloc
  size : alloc.epochSizeSec = 0 ∨ alloc.epochSizeSec = args.epochSizeSec
  room : alloc.allocations.any (EpochAllocation.isFor args.rlnIdentifierHex args.epoch) = true ∨
    alloc.allocations.length < writeRowCap
  reserves : reserveSlot alloc args.rlnIdentifierHex args.epoch args.retainFloor args.rateLimit =
    .ok (slot, taken)
  adopted : alloc' = { taken with epochSizeSec := args.epochSizeSec }

theorem chooseSlot_spec {args : ReserveArgs} {inner : Inner} {slot : UInt64}
    {alloc' : AllocationState} (hchosen : chooseSlot args inner = .ok (slot, alloc')) :
    ∃ alloc taken, Chosen args inner slot alloc' alloc taken := by
  cases hstanding : inner.isQuarantined args.hash with
  | true => simp [chooseSlot, hstanding, reservationGuards] at hchosen
  | false =>
      cases hcounters : inner.sections[args.hash]? with
      | none => simp [chooseSlot, hstanding, hcounters, reservationGuards] at hchosen
      | some alloc =>
          by_cases hsize : alloc.epochSizeSec ≠ 0 ∧ alloc.epochSizeSec ≠ args.epochSizeSec
          · simp [chooseSlot, hstanding, hcounters, reservationGuards, hsize] at hchosen
          · simp only [chooseSlot, hstanding, hcounters, reservationGuards, Bool.false_eq_true,
              if_false, if_neg hsize] at hchosen
            split at hchosen
            · cases hchosen
            · rename_i hroom
              cases hreserve : reserveSlot alloc args.rlnIdentifierHex args.epoch
                  args.retainFloor args.rateLimit with
              | error error => simp [hreserve] at hchosen
              | ok reserved =>
                  obtain ⟨slot', taken⟩ := reserved
                  simp only [hreserve, Except.ok.injEq, Prod.mk.injEq] at hchosen
                  obtain ⟨rfl, rfl⟩ := hchosen
                  refine ⟨alloc, taken, hstanding, hcounters, ?_, ?_, hreserve, rfl⟩
                  · rwa [not_and_or, not_not, not_not] at hsize
                  · rw [Bool.not_eq_true, Bool.and_eq_false_iff] at hroom
                    simpa using hroom

/-- Memory with the counters of one membership replaced. -/
def withCounters (inner : Inner) (hash : String) (alloc : AllocationState) : Inner :=
  { inner with sections := inner.sections.insert hash alloc }

/-- A reservation refuses and changes nothing, or advances the counters and
writes the ledger. -/
theorem reserveMessageId_cases (args : ReserveArgs) (write : WriteOutcome) (store : Store)
    (disk : Disk) {uuid : Bytes16}
    (huuid : store.inner.session.isSome → store.inner.storeUuid = some uuid) :
    (∃ error, reserveMessageId libs args write store disk = refuse error store disk) ∨
      ∃ session slot alloc, Unlocked store.inner session uuid ∧
        chooseSlot args store.inner = .ok (slot, alloc) ∧
        ((∃ error, write ≠ .ok ∧ reserveMessageId libs args write store disk =
            ⟨.error error, publish (ledgerInner libs write session.keys uuid
                (withCounters store.inner args.hash alloc)),
              ledgerDisk libs write session.keys uuid
                (withCounters store.inner args.hash alloc) disk⟩) ∨
          write = .ok ∧ reserveMessageId libs args write store disk =
            ⟨.ok slot, publish (ledgerInner libs write session.keys uuid
                (withCounters store.inner args.hash alloc)),
              ledgerDisk libs write session.keys uuid
                (withCounters store.inner args.hash alloc) disk⟩) := by
  cases hheld : store.inner.lockHeld with
  | false => exact .inl ⟨closedError, by simp [reserveMessageId, hheld]⟩
  | true =>
      cases hsession : store.inner.session with
      | none =>
          exact .inl ⟨_, by
            simp only [reserveMessageId, hheld, hsession, Option.isNone_none, Bool.not_true,
              Bool.false_eq_true, if_false, if_true]
            rfl⟩
      | some session =>
          cases hchoose : chooseSlot args store.inner with
          | error error => exact .inl ⟨error, by simp [reserveMessageId, hheld, hsession, hchoose]⟩
          | ok chosen =>
              obtain ⟨slot, alloc⟩ := chosen
              have hunlocked : Unlocked store.inner session uuid :=
                ⟨hheld, hsession, huuid (by simp [hsession])⟩
              have hadvanced : Unlocked (withCounters store.inner args.hash alloc) session uuid :=
                ⟨hheld, hsession, hunlocked.storeUuid⟩
              have hreserve : reserveMessageId libs args write store disk =
                  let ledger := writeAllocations libs write
                    (withCounters store.inner args.hash alloc) disk
                  ⟨ledger.result.map fun _ => slot, publish ledger.inner, ledger.disk⟩ := by
                simp [reserveMessageId, hheld, hsession, hchoose, withCounters]
              refine .inr ⟨session, slot, alloc, hunlocked, rfl, ?_⟩
              rcases writeAllocations_cases libs hadvanced write disk with
                ⟨error, hfailed, hwrite⟩ | ⟨hok, hwrite⟩
              · exact .inl ⟨error, hfailed, by rw [hreserve, hwrite]; rfl⟩
              · exact .inr ⟨hok, by rw [hreserve, hwrite]; rfl⟩

/-! ## Inserting -/

/-- The entry `insert` seals for a registration. -/
def SealsEntry (libs : Libraries) (keys : SubKeys) (uuid : Bytes16) (registration : Registration)
    (nonce : Option Bytes24) (entry : SealedEntry) : Prop :=
  ∃ plaintext drawn ct, nonce = some drawn ∧
    libs.credentialToVec registration.credential = .ok plaintext ∧
    libs.encrypt keys.sealKey drawn
      (credentialAad registration.hash registration.identity uuid) plaintext = some ct ∧
    entry = ⟨registration.identity, bytesToHex drawn.toList, bytesToHex ct⟩

def withEntry (file : SealedFile) (hash : String) (entry : SealedEntry) : SealedFile :=
  { file with credentials := file.credentials.insert hash entry }

/-- Memory after the ledger and the cache of an insert are written. -/
def sectionedInner (libs : Libraries) (registration : Registration) (keys : SubKeys)
    (uuid : Bytes16) (inner : Inner) : Inner :=
  insertCacheRow registration
    (ledgerInner libs .ok keys uuid (insertSection registration.hash inner))

@[simp]
theorem sectionedInner_sealedStore (registration : Registration) (keys : SubKeys) (uuid : Bytes16)
    (inner : Inner) :
    (sectionedInner libs registration keys uuid inner).sealedStore = inner.sealedStore := rfl

@[simp]
theorem sectionedInner_storeUuid (registration : Registration) (keys : SubKeys) (uuid : Bytes16)
    (inner : Inner) :
    (sectionedInner libs registration keys uuid inner).storeUuid = inner.storeUuid := rfl

@[simp]
theorem sectionedInner_session (registration : Registration) (keys : SubKeys) (uuid : Bytes16)
    (inner : Inner) :
    (sectionedInner libs registration keys uuid inner).session = inner.session := rfl

@[simp]
theorem sectionedInner_lockHeld (registration : Registration) (keys : SubKeys) (uuid : Bytes16)
    (inner : Inner) :
    (sectionedInner libs registration keys uuid inner).lockHeld = inner.lockHeld := rfl

@[simp]
theorem sectionedInner_sections (registration : Registration) (keys : SubKeys) (uuid : Bytes16)
    (inner : Inner) : (sectionedInner libs registration keys uuid inner).sections =
      (insertSection registration.hash inner).sections := rfl

@[simp]
theorem sectionedInner_censusQuarantined (registration : Registration) (keys : SubKeys) (uuid : Bytes16)
    (inner : Inner) : (sectionedInner libs registration keys uuid inner).censusQuarantined =
      (insertSection registration.hash inner).censusQuarantined := rfl

@[simp]
theorem sectionedInner_keyedQuarantined (registration : Registration) (keys : SubKeys) (uuid : Bytes16)
    (inner : Inner) : (sectionedInner libs registration keys uuid inner).keyedQuarantined =
      (insertSection registration.hash inner).keyedQuarantined := rfl

/-- Memory once the credential is in the sealed file. -/
def committedInner (libs : Libraries) (registration : Registration) (keys : SubKeys)
    (uuid : Bytes16) (inner : Inner) (file : SealedFile) (entry : SealedEntry) : Inner :=
  { sectionedInner libs registration keys uuid inner with
    sealedStore := some (withEntry file registration.hash entry) }

theorem insertCredential_cases {inner : Inner} {session : Session} {uuid : Bytes16}
    (hunlocked : Unlocked inner session uuid) (registration : Registration)
    (nonce : Option Bytes24) (write : WriteOutcome) (disk : Disk) :
    (∃ error, insertCredential libs registration nonce write inner disk =
        ⟨.error error, inner, disk⟩) ∨
      ∃ file entry, inner.sealedStore = some file ∧
        SealsEntry libs session.keys uuid registration nonce entry ∧
        let committed := { inner with sealedStore := some (withEntry file registration.hash entry) }
        let disk' := { disk with
          sealedText := writeText write (libs.sealedLength (withEntry file registration.hash entry))
            (withEntry file registration.hash entry) disk.sealedText }
        ((∃ error, write ≠ .ok ∧ insertCredential libs registration nonce write inner disk =
            ⟨.error error, committed, disk'⟩) ∨
          write = .ok ∧ insertCredential libs registration nonce write inner disk =
            ⟨.ok (), committed, disk'⟩) := by
  cases hplain : libs.credentialToVec registration.credential with
  | error error =>
      exact .inl ⟨_, by
        simp only [insertCredential, hunlocked.session, hunlocked.storeUuid, hplain]; rfl⟩
  | ok plaintext =>
      cases hseal : sealBytes libs.toPrimitives session.keys.sealKey nonce
          (credentialAad registration.hash registration.identity uuid) plaintext with
      | error error =>
          exact .inl ⟨_, by
            simp only [insertCredential, hunlocked.session, hunlocked.storeUuid, hplain, hseal]
            rfl⟩
      | ok sealedBytes =>
          obtain ⟨nonce', ct⟩ := sealedBytes
          have hdrawn : nonce = some nonce' ∧ libs.encrypt session.keys.sealKey nonce'
              (credentialAad registration.hash registration.identity uuid) plaintext = some ct := by
            simp only [sealBytes] at hseal
            split at hseal
            · cases hseal
            · split at hseal
              · rename_i hencrypt
                cases hseal
                exact ⟨rfl, hencrypt⟩
              · cases hseal
          cases hsealed : inner.sealedStore with
          | none =>
              exact .inl ⟨_, by
                simp only [insertCredential, hunlocked.session, hunlocked.storeUuid, hplain, hseal,
                  hsealed]
                rfl⟩
          | some file =>
              refine .inr ⟨file, ⟨registration.identity, bytesToHex nonce'.toList, bytesToHex ct⟩,
                rfl, ⟨plaintext, nonce', ct, hdrawn.1, hplain, hdrawn.2, rfl⟩, ?_⟩
              cases write with
              | ok =>
                  exact .inr ⟨rfl, by
                    simp only [insertCredential, hunlocked.session, hunlocked.storeUuid, hplain,
                      hseal, hsealed, WriteOutcome.result, withEntry]⟩
              | failed landed error =>
                  exact .inl ⟨_, by simp, by
                    simp only [insertCredential, hunlocked.session, hunlocked.storeUuid, hplain,
                      hseal, hsealed, WriteOutcome.result, withEntry]
                    rfl⟩

/-- The directory after a cache write. -/
def cacheDisk (libs : Libraries) (write : WriteOutcome) (inner : Inner) (disk : Disk) : Disk :=
  { disk with
    cache := writeText write (libs.cacheLength { entries := inner.cache })
      { entries := inner.cache } disk.cache }

theorem writeCache_cases (write : WriteOutcome) (inner : Inner) (disk : Disk) :
    (∃ error, write ≠ .ok ∧
        writeCache libs write inner disk = (.error error, cacheDisk libs write inner disk)) ∨
      write = .ok ∧ writeCache libs write inner disk = (.ok (), cacheDisk libs write inner disk) := by
  cases write with
  | ok => exact .inr ⟨rfl, by simp only [writeCache, WriteOutcome.result, cacheDisk]⟩
  | failed landed error =>
      exact .inl ⟨_, by simp, by simp only [writeCache, WriteOutcome.result, cacheDisk]; rfl⟩

/-- The directory after the ledger and the cache of an insert are written. -/
def sectionedDisk (libs : Libraries) (registration : Registration) (writes : InsertWrites)
    (keys : SubKeys) (uuid : Bytes16) (inner : Inner) (disk : Disk) : Disk :=
  cacheDisk libs writes.cache (sectionedInner libs registration keys uuid inner)
    (ledgerDisk libs .ok keys uuid (insertSection registration.hash inner) disk)

/-- The directory after the sealed write of an insert. -/
def committedDisk (libs : Libraries) (registration : Registration) (writes : InsertWrites)
    (keys : SubKeys) (uuid : Bytes16) (inner : Inner) (file : SealedFile) (entry : SealedEntry)
    (disk : Disk) : Disk :=
  { sectionedDisk libs registration writes keys uuid inner disk with
    sealedText := writeText writes.sealedText
      (libs.sealedLength (withEntry file registration.hash entry))
      (withEntry file registration.hash entry) disk.sealedText }

/-- How far an insert got: the ledger write failed; the ledger is written but
no credential; or the credential is in memory and its write failed or
succeeded. -/
inductive InsertOutcome (libs : Libraries) (registration : Registration) (nonce : Option Bytes24)
    (writes : InsertWrites) (store : Store) (disk : Disk) (keys : SubKeys) (uuid : Bytes16) :
    Reply Unit → Prop
  | ledgerFailed (error : ApiError) (hfailed : writes.allocations ≠ .ok) :
      InsertOutcome libs registration nonce writes store disk keys uuid
        ⟨.error error, { store with inner := insertSection registration.hash store.inner },
          ledgerDisk libs writes.allocations keys uuid
            (insertSection registration.hash store.inner) disk⟩
  | sectioned (error : ApiError) (hledger : writes.allocations = .ok) :
      InsertOutcome libs registration nonce writes store disk keys uuid
        ⟨.error error,
          { store with inner := sectionedInner libs registration keys uuid store.inner },
          sectionedDisk libs registration writes keys uuid store.inner disk⟩
  | sealFailed (error : ApiError) (file : SealedFile) (entry : SealedEntry)
      (hledger : writes.allocations = .ok) (hcache : writes.cache = .ok)
      (hsealed : store.inner.sealedStore = some file)
      (hentry : SealsEntry libs keys uuid registration nonce entry) :
      InsertOutcome libs registration nonce writes store disk keys uuid
        ⟨.error error,
          { store with inner := committedInner libs registration keys uuid store.inner file entry },
          committedDisk libs registration writes keys uuid store.inner file entry disk⟩
  | committed (file : SealedFile) (entry : SealedEntry)
      (hledger : writes.allocations = .ok) (hcache : writes.cache = .ok)
      (hwrite : writes.sealedText = .ok) (hsealed : store.inner.sealedStore = some file)
      (hentry : SealsEntry libs keys uuid registration nonce entry) :
      InsertOutcome libs registration nonce writes store disk keys uuid
        ⟨.ok (), publish (committedInner libs registration keys uuid store.inner file entry),
          committedDisk libs registration writes keys uuid store.inner file entry disk⟩

/-- An insert refuses and changes nothing, or gets as far as its outcome
says. -/
theorem insert_cases (registration : Registration) (nonce : Option Bytes24) (writes : InsertWrites)
    (store : Store) (disk : Disk) {uuid : Bytes16}
    (huuid : store.inner.session.isSome → store.inner.storeUuid = some uuid) :
    (∃ error, insert libs registration nonce writes store disk = refuse error store disk) ∨
      ∃ session, Unlocked store.inner session uuid ∧
        InsertOutcome libs registration nonce writes store disk session.keys uuid
          (insert libs registration nonce writes store disk) := by
  cases hheld : store.inner.lockHeld with
  | false => exact .inl ⟨closedError, by simp [insert, hheld]⟩
  | true =>
      cases hsession : store.inner.session with
      | none =>
          exact .inl ⟨lockedBeforeRegistering, by simp [insert, hheld, hsession]⟩
      | some session =>
          have hunlocked : Unlocked store.inner session uuid :=
            ⟨hheld, hsession, huuid (by simp [hsession])⟩
          have hsectioned : Unlocked (insertSection registration.hash store.inner) session uuid :=
            ⟨hheld, hsession, hunlocked.storeUuid⟩
          have hcached : Unlocked (sectionedInner libs registration session.keys uuid store.inner)
              session uuid := ⟨hheld, hsession, hunlocked.storeUuid⟩
          refine .inr ⟨session, hunlocked, ?_⟩
          simp only [insert, hheld, hsession, Option.isNone_some, Bool.not_true,
            Bool.false_eq_true, if_false]
          rcases writeAllocations_cases libs hsectioned writes.allocations disk with
            ⟨error, hfailed, hwrite⟩ | ⟨hledger, hwrite⟩
          · simpa only [hwrite, ledgerInner, if_neg hfailed] using .ledgerFailed error hfailed
          · have hstage : insertCacheRow registration (ledgerInner libs writes.allocations
                session.keys uuid (insertSection registration.hash store.inner)) =
                sectionedInner libs registration session.keys uuid store.inner := by
              rw [hledger, sectionedInner]
            simp only [hwrite, hstage]
            rcases writeCache_cases libs writes.cache
                (sectionedInner libs registration session.keys uuid store.inner)
                (ledgerDisk libs writes.allocations session.keys uuid
                  (insertSection registration.hash store.inner) disk) with
              ⟨error, -, hcache⟩ | ⟨hcacheOk, hcache⟩
            · simp only [hcache]
              rw [hledger]
              exact .sectioned error hledger
            · simp only [hcache]
              rw [hledger]
              rcases insertCredential_cases libs hcached registration nonce
                  writes.sealedText (cacheDisk libs writes.cache
                    (sectionedInner libs registration session.keys uuid store.inner)
                    (ledgerDisk libs .ok session.keys uuid
                      (insertSection registration.hash store.inner) disk)) with
                ⟨error, hcommit⟩ | ⟨file, entry, hfile, hentry, ⟨error, -, hcommit⟩ | ⟨hok, hcommit⟩⟩
              · rw [hcommit]
                exact .sectioned error hledger
              · rw [hcommit]
                exact .sealFailed error file entry hledger hcacheOk hfile hentry
              · rw [hcommit]
                exact .committed file entry hledger hcacheOk hok hfile hentry

/-! ## The cache -/

/-- An update of the cache touches no other state and no other file. -/
theorem updateCache_cases (hash : String) (mutate : CacheState → CacheState) (now : UInt64)
    (write : WriteOutcome) (store : Store) (disk : Disk) :
    (∃ error, updateCache libs hash mutate now write store disk = refuse error store disk) ∨
      ∃ cache, (∃ error, updateCache libs hash mutate now write store disk =
          ⟨.error error, { store with inner := { store.inner with cache } },
            cacheDisk libs write { store.inner with cache } disk⟩) ∨
        ∃ prior, write = .ok ∧ updateCache libs hash mutate now write store disk =
          ⟨.ok prior, publish { store.inner with cache },
            cacheDisk libs write { store.inner with cache } disk⟩ := by
  cases hheld : store.inner.lockHeld with
  | false => exact .inl ⟨closedError, by simp [updateCache, hheld]⟩
  | true =>
      cases hmember : store.inner.hasCredential hash with
      | false => exact .inl ⟨noSuchMembership, by simp [updateCache, hheld, hmember]⟩
      | true =>
          refine .inr ⟨store.inner.cache.insert hash
            (observeRow mutate now ((store.inner.cache[hash]?).getD {})), ?_⟩
          rcases writeCache_cases libs write { store.inner with
              cache := store.inner.cache.insert hash
                (observeRow mutate now ((store.inner.cache[hash]?).getD {})) } disk with
            ⟨error, -, hwrite⟩ | ⟨hok, hwrite⟩
          · exact .inl ⟨error, by
              simp only [updateCache, hheld, hmember, Bool.not_true, Bool.false_eq_true, if_false]
              simp only [hheld] at hwrite
              simp only [hwrite]⟩
          · exact .inr ⟨((store.inner.cache[hash]?).getD {}).state, hok, by
              simp only [updateCache, hheld, hmember, Bool.not_true, Bool.false_eq_true, if_false]
              simp only [hheld] at hwrite
              simp only [hwrite]⟩

end LogosRln.SealedStore
