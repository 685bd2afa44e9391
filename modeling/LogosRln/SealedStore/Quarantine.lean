import LogosRln.SealedStore.Reference

/-!
# Quarantine across the module's own writes

Quarantine is recomputed at each unlock from the files alone, so a membership
stays quarantined only while they keep a reason.  A write restamps every section
but the quarantined ones and always writes a root that covers what it carries.
A reason of the membership's own survives that.  A root mismatch does not, unless
a carried tag is malformed and the written root cannot verify either.
-/

namespace LogosRln.SealedStore.Quarantine

open RegistryId Crypto Format Lifecycle RateLimit Files

/-! ## What a ledger write must start from -/

/-- The membership fails its own checks, whatever the root says. -/
def OwnCheckFails (libs : Libraries) (keys : SubKeys) (uuid : Bytes16) (hash : String)
    (inner : Inner) : Prop :=
  ∀ file entry, inner.sealedStore = some file → file.credentials[hash]? = some entry →
    ownCheck libs keys uuid hash entry inner.rawSections = false

/-- A ledger written from here still gives the next unlock a reason. -/
def Shielded (libs : Libraries) (hash : String) (inner : Inner) : Prop :=
  ∀ session uuid, Unlocked inner session uuid →
    OwnCheckFails libs session.keys uuid hash inner ∨ CarriesMalformed inner

/-- The sealed file has room for the hash under the read cap. -/
def RoomFor (hash : String) (inner : Inner) : Prop :=
  ∀ file, inner.sealedStore = some file → hash ∉ file.credentials →
    file.credentials.size < maxCredentials

/-- Unlocks use the one password, inserts are of other hashes and find room, and
every ledger write that lands starts from a shielded state. -/
def Admissible (libs : Libraries) (password hash : String) (world : World) : Op → Prop
  | .unlock given _ _ => given = password
  | .insert registration _ writes => registration.hash ≠ hash ∧
      ∀ store, world.store = some store → RoomFor registration.hash store.inner ∧
        (writes.allocations.lands = true →
          Shielded libs hash (insertSection registration.hash store.inner))
  | .reserve args write => ∀ store slot alloc, world.store = some store →
      chooseSlot args store.inner = .ok (slot, alloc) → write.lands = true →
        Shielded libs hash (withCounters store.inner args.hash alloc)
  | _ => True

/-! ## The invariant -/

/-- What no write changes about a membership and its store. -/
structure Lineage where
  kdf : KdfParams
  storeUuid : String
  entry : SealedEntry

/-- The sealed file is of this lineage and `open` adopts it, unless its text is
too long. -/
structure Lineage.Of (lineage : Lineage) (hash : String) (file : SealedFile) : Prop where
  kdf : file.kdf = lineage.kdf
  storeUuid : file.storeUuid = lineage.storeUuid
  entry : file.credentials[hash]? = some lineage.entry
  count : file.credentials.size ≤ maxCredentials
  format : file.format = formatSealed
  version : file.version = formatVersion

section Invariant

variable (libs : Libraries) (password hash : String) (lineage : Lineage)

/-- Whatever keys the password derives, these sections and this root do not
clear the membership. -/
def Caught (rawSections : StringMap Section) (rootMacRaw : Option Bytes32) : Prop :=
  ∀ keys uuid, deriveKeys libs password lineage.kdf = .ok keys →
    parseUuid lineage.storeUuid = some uuid →
    passes libs keys uuid hash lineage.entry rawSections rootMacRaw = false

structure OnDisk (disk : Disk) : Prop where
  sealedText : ∃ size file, disk.sealedText = .text size (.ok file) ∧ lineage.Of hash file
  ledger : ∀ ledger, readLedger disk.allocations = some ledger →
    ledger.storeUuid = lineage.storeUuid →
    Caught libs password hash lineage ledger.sections (hexToBytes32 ledger.rootMac)

/-- A session sees the membership quarantined, and the next unlock will find
the reason again or find no credential to open at all. -/
structure InMemory (inner : Inner) : Prop where
  sealedStore : ∃ file, inner.sealedStore = some file ∧ lineage.Of hash file
  sessionPassword : ∀ session, inner.session = some session → session.password = password
  quarantined : inner.session.isSome → inner.isQuarantined hash = true
  census : recomputes libs hash lineage.entry.identity = false → hash ∈ inner.censusQuarantined
  caught : Caught libs password hash lineage inner.rawSections inner.rootMacRaw ∨
    inner.session = none ∧ allQuarantined inner = true

end Invariant

variable {libs : Libraries} {password hash : String} {lineage : Lineage}

theorem Lineage.Of.hasCredential {inner : Inner} {file : SealedFile}
    (hsealed : inner.sealedStore = some file) (hof : lineage.Of hash file) :
    inner.hasCredential hash = true :=
  hasCredential_iff.mpr ⟨file, hsealed, OrderedMap.mem_iff_exists.mpr ⟨_, hof.entry⟩⟩

theorem Lineage.Of.credentialCount_ne_zero {inner : Inner} {file : SealedFile}
    (hsealed : inner.sealedStore = some file) (hof : lineage.Of hash file) :
    inner.credentialCount ≠ 0 :=
  (credentialCount_pos (hof.hasCredential hsealed)).ne'

/-- Sealing another hash keeps the lineage while there is room. -/
theorem Lineage.Of.withEntry {file : SealedFile} (hof : lineage.Of hash file) {other : String}
    (hother : other ≠ hash) (hroom : other ∉ file.credentials →
      file.credentials.size < maxCredentials) (entry : SealedEntry) :
    lineage.Of hash (withEntry file other entry) where
  kdf := hof.kdf
  storeUuid := hof.storeUuid
  entry := by
    simpa [SealedStore.withEntry, Std.ExtTreeMap.getElem?_insert, hother] using hof.entry
  count := by
    have hcount := hof.count
    simp only [SealedStore.withEntry, Std.ExtTreeMap.size_insert]
    split
    · exact hcount
    · rename_i hnew
      exact hroom hnew
  format := hof.format
  version := hof.version

/-- With a session the reason is in the ledger itself. -/
theorem InMemory.caught_of_session {inner : Inner}
    (hinner : InMemory libs password hash lineage inner) (hsession : inner.session.isSome) :
    Caught libs password hash lineage inner.rawSections inner.rootMacRaw := by
  rcases hinner.caught with hcaught | ⟨hnone, -⟩
  · exact hcaught
  · simp [hnone] at hsession

/-! ## Opening and unlocking -/

theorem caught_of_missing {rawSections : StringMap Section} {rootMacRaw : Option Bytes32}
    (hmissing : rawSections[hash]? = none) :
    Caught libs password hash lineage rawSections rootMacRaw := by
  intro keys uuid _ _
  simp [passes, ownCheck, hmissing]

/-- The quarantine reason of an opened store is in the ledger it adopted, or
every credential is quarantined with the ledger. -/
theorem caught_openedInner {file : SealedFile} {ledger : Option AllocationsFile}
    {cache : StringMap CacheState}
    (hledger : ∀ read, ledger = some read → read.storeUuid = file.storeUuid →
      Caught libs password hash lineage read.sections (hexToBytes32 read.rootMac)) :
    Caught libs password hash lineage (openedInner libs (some file) ledger cache).rawSections
        (openedInner libs (some file) ledger cache).rootMacRaw ∨
      (openedInner libs (some file) ledger cache).session = none ∧
        allQuarantined (openedInner libs (some file) ledger cache) = true := by
  cases ledger with
  | none =>
      left
      exact caught_of_missing (by simp [openedInner, loadedFrom, LoadedAllocations.empty])
  | some read =>
      by_cases huuid : read.storeUuid = file.storeUuid
      · left
        rw [rawSections_openedInner huuid, rootMacRaw_openedInner huuid]
        exact hledger read rfl huuid
      · right
        refine ⟨rfl, ?_⟩
        rw [allQuarantined_iff rfl]
        intro other hother
        refine mem_loadedFrom_census.mpr (.inr ⟨hother, ?_⟩)
        rintro _ ⟨⟩ hsame
        exact absurd hsame huuid

theorem inMemory_openedInner {disk : Disk} {env : OpenEnv} {cache : StringMap CacheState}
    (hdisk : OnDisk libs password hash lineage disk)
    (hloaded : (loadSealed env disk).1 = .ok (readSealed disk.sealedText)) :
    InMemory libs password hash lineage
      (openedInner libs (readSealed disk.sealedText) (readLedger disk.allocations) cache) ∧
      ∃ file, readSealed disk.sealedText = some file ∧ lineage.Of hash file := by
  obtain ⟨size, file, htext, hof⟩ := hdisk.sealedText
  have hread : readSealed disk.sealedText = some file := by
    by_cases hsize : size ≤ maxFileBytes
    · rw [htext, readSealed_text hsize hof.count hof.format hof.version]
    · simp [loadSealed, htext, hsize] at hloaded
  refine ⟨?_, file, hread, hof⟩
  rw [hread]
  refine ⟨⟨file, rfl, hof⟩, by simp [openedInner], by simp [openedInner], fun hfails => ?_,
    caught_openedInner fun read hledger huuid => hdisk.ledger read hledger
      (huuid.trans hof.storeUuid)⟩
  refine mem_loadedFrom_census.mpr (.inl (mem_censusFailures.mpr ⟨_, hof.entry, hfails⟩))

/-- A directory whose durable files read the same keeps the reason. -/
theorem OnDisk.of_opened {disk disk' : Disk} (hdisk : OnDisk libs password hash lineage disk)
    {file : SealedFile} (hread : readSealed disk.sealedText = some file)
    (hof : lineage.Of hash file) (hsealed : readSealed disk'.sealedText = readSealed disk.sealedText)
    (hledger : readLedger disk'.allocations = readLedger disk.allocations) :
    OnDisk libs password hash lineage disk' := by
  refine ⟨?_, fun ledger hsome => hdisk.ledger ledger (hledger ▸ hsome)⟩
  obtain ⟨size, htext, -⟩ := readSealed_eq_some (hsealed.trans hread)
  exact ⟨size, file, htext, hof⟩

/-- A verifying unlock finds the membership again. -/
theorem inMemory_authenticatedInner {inner : Inner} {file : SealedFile} {uuid : Bytes16}
    {keys : SubKeys} (hcoherent : Coherent libs inner)
    (hinner : InMemory libs password hash lineage inner)
    (hauth : Authenticated libs password inner file uuid keys) :
    InMemory libs password hash lineage
      (authenticatedInner libs password inner file uuid keys) := by
  obtain ⟨_, hsealed, hof⟩ := hinner.sealedStore
  cases hauth.sealedStore.symm.trans hsealed
  have hcaught : Caught libs password hash lineage inner.rawSections inner.rootMacRaw := by
    rcases hinner.caught with hcaught | ⟨-, hall⟩
    · exact hcaught
    · exact absurd (hall.symm.trans hauth.someStanding) (by decide)
  have huuid : parseUuid lineage.storeUuid = some uuid := by
    rw [← hof.storeUuid, ← hauth.storeUuid, hcoherent.storeUuid, hsealed, Option.bind_some]
  have hpasses := hcaught keys uuid (hof.kdf ▸ hauth.derived) huuid
  refine ⟨⟨file, hsealed, hof⟩, ?_, fun _ => ?_, hinner.census, .inl hcaught⟩
  · rintro _ ⟨⟩
    rfl
  · by_cases hcensus : hash ∈ inner.censusQuarantined
    · exact isQuarantined_iff.mpr (.inl hcensus)
    · refine isQuarantined_iff.mpr (.inr ((mem_keyedFailures_iff hof.entry hcensus).mpr ?_))
      have hrecomputes : recomputes libs hash lineage.entry.identity = true := by
        by_contra hfails
        exact hcensus (hinner.census (Bool.eq_false_iff.mpr hfails))
      rintro ⟨hopens, hsection, hroot⟩
      simp [passes, ownCheck, hrecomputes, hopens, hsection, hroot] at hpasses

/-! ## Writing -/

/-- A ledger written from a shielded state keeps the reason. -/
theorem caught_written {inner : Inner} {session : Session} {uuid : Bytes16} {file : SealedFile}
    (hunlocked : Unlocked inner session uuid) (hsealed : inner.sealedStore = some file)
    (hof : lineage.Of hash file) (hquarantined : inner.isQuarantined hash = true)
    (hkeys : deriveKeys libs password lineage.kdf = .ok session.keys)
    (huuid : parseUuid lineage.storeUuid = some uuid) (hshielded : Shielded libs hash inner) :
    Caught libs password hash lineage (writtenSections libs session.keys uuid inner)
      (some (writtenRoot libs session.keys uuid inner)) := by
  intro keys _ hderived hparsed
  cases hkeys.symm.trans hderived
  cases huuid.symm.trans hparsed
  rw [← Bool.not_eq_true, passes, Bool.and_eq_true, rootOk_writtenRoot_iff,
    wellFormedMacs_writtenSections_iff]
  rintro ⟨hown, hcarried⟩
  rcases hshielded session uuid hunlocked with hfails | hmalformed
  · -- the membership's own section was carried as it was
    have hraw := hfails file lineage.entry hsealed hof.entry
    simp only [ownCheck, Bool.and_eq_true] at hown
    obtain ⟨⟨hrecomputes, hopens⟩, hsection⟩ := hown
    obtain ⟨stored, hstored, hmac⟩ := any_sectionMacOk_iff.mp hsection
    obtain ⟨-, -, ⟨-, hloaded⟩ | ⟨hstanding, -⟩⟩ := writtenSections_cases libs hstored
    · simp [ownCheck, hrecomputes, hopens, hloaded, hmac] at hraw
    · simp [hquarantined] at hstanding
  · exact hcarried hmalformed

/-- One ledger write, landed or not, from a state shielded if it lands. -/
theorem kept_ledger {inner : Inner} {disk : Disk} {session : Session} {uuid : Bytes16}
    (write : WriteOutcome) (hcoherent : Coherent libs inner)
    (hunlocked : Unlocked inner session uuid) (hdisk : OnDisk libs password hash lineage disk)
    (hinner : InMemory libs password hash lineage inner)
    (hshielded : write.lands = true → Shielded libs hash inner) :
    OnDisk libs password hash lineage (ledgerDisk libs write session.keys uuid inner disk) ∧
      InMemory libs password hash lineage (ledgerInner libs write session.keys uuid inner) := by
  obtain ⟨file, hsealed, hof⟩ := hinner.sealedStore
  have hsession : inner.session.isSome := by simp [hunlocked.session]
  have hquarantined := hinner.quarantined hsession
  have hkeys : deriveKeys libs password lineage.kdf = .ok session.keys := by
    rw [← hof.kdf, ← hinner.sessionPassword session hunlocked.session]
    exact hcoherent.sessionKeys session file hunlocked.session hsealed
  have huuid : parseUuid lineage.storeUuid = some uuid := by
    rw [← hof.storeUuid, ← hunlocked.storeUuid, hcoherent.storeUuid, hsealed, Option.bind_some]
  have hwritten : write.lands = true → Caught libs password hash lineage
      (writtenSections libs session.keys uuid inner)
      (some (writtenRoot libs session.keys uuid inner)) := fun hlands =>
    caught_written hunlocked hsealed hof hquarantined hkeys huuid (hshielded hlands)
  constructor
  · refine ⟨hdisk.sealedText, fun ledger hread hsame => ?_⟩
    rcases readLedger_writeText hread with ⟨rfl, hlands⟩ | ⟨hread, -⟩
    · rw [hexToBytes32_ledgerFile_rootMac]
      exact hwritten hlands
    · exact hdisk.ledger ledger hread hsame
  · refine ⟨⟨file, by simp [hsealed], hof⟩, by simpa using hinner.sessionPassword, fun _ => ?_, ?_, .inl ?_⟩
    · simpa [isQuarantined_iff] using hquarantined
    · simpa using hinner.census
    · by_cases hok : write = .ok
      · simpa [ledgerInner, hok] using hwritten (by simp [hok, WriteOutcome.lands])
      · simpa [ledgerInner, hok] using hinner.caught_of_session hsession

theorem inMemory_insertSection {inner : Inner} (hinner : InMemory libs password hash lineage inner)
    (hsession : inner.session.isSome) {other : String} (hother : other ≠ hash) :
    InMemory libs password hash lineage (insertSection other inner) := by
  refine ⟨hinner.sealedStore, hinner.sessionPassword, fun _ => ?_, fun hfails => ?_,
    .inl (hinner.caught_of_session hsession)⟩
  · exact isQuarantined_insertSection.mpr ⟨hother.symm, hinner.quarantined hsession⟩
  · exact Finset.mem_erase.mpr ⟨hother.symm, hinner.census hfails⟩

/-- The cache row of an insert and its sealed write keep the reason. -/
theorem inMemory_committedInner {inner : Inner} {keys : SubKeys} {uuid : Bytes16}
    {registration : Registration} {file : SealedFile}
    {entry : SealedEntry} (hinner : InMemory libs password hash lineage
      (sectionedInner libs registration keys uuid inner))
    (hsession : inner.session.isSome) (hof : lineage.Of hash (withEntry file registration.hash entry)) :
    InMemory libs password hash lineage
      (committedInner libs registration keys uuid inner file entry) where
  sealedStore := ⟨_, rfl, hof⟩
  sessionPassword := hinner.sessionPassword
  quarantined := hinner.quarantined
  census := hinner.census
  caught := .inl (hinner.caught_of_session hsession)

/-- A sealed write of the lineage, landed or not. -/
theorem OnDisk.sealedWrite {disk : Disk} (hdisk : OnDisk libs password hash lineage disk)
    (write : WriteOutcome) (size : ℕ) {file : SealedFile} (hof : lineage.Of hash file) :
    OnDisk libs password hash lineage
      { disk with sealedText := writeText write size file disk.sealedText } := by
  refine ⟨?_, hdisk.ledger⟩
  simp only [writeText]
  split
  · exact ⟨size, file, rfl, hof⟩
  · exact hdisk.sealedText

theorem inMemory_endSession {inner : Inner} (hinner : InMemory libs password hash lineage inner)
    (held : Bool) :
    InMemory libs password hash lineage { inner with lockHeld := held, session := none } where
  sealedStore := hinner.sealedStore
  sessionPassword := by simp
  quarantined := by simp
  census := hinner.census
  caught := hinner.caught.imp_right fun hshut => ⟨rfl, hshut.2⟩

/-! ## Every run -/

/-- Everything an admissible insert leaves before its sealed write. -/
theorem kept_sectioned {inner : Inner} {disk : Disk} {session : Session} {uuid : Bytes16}
    {registration : Registration} (writes : InsertWrites) (hcoherent : Coherent libs inner)
    (hunlocked : Unlocked inner session uuid) (hother : registration.hash ≠ hash)
    (hshielded : Shielded libs hash (insertSection registration.hash inner))
    (hdisk : OnDisk libs password hash lineage disk)
    (hinner : InMemory libs password hash lineage inner) :
    OnDisk libs password hash lineage
        (sectionedDisk libs registration writes session.keys uuid inner disk) ∧
      InMemory libs password hash lineage
        (sectionedInner libs registration session.keys uuid inner) := by
  have hinserted : Unlocked (insertSection registration.hash inner) session uuid :=
    ⟨hunlocked.lockHeld, hunlocked.session, hunlocked.storeUuid⟩
  have hsession : inner.session.isSome := by simp [hunlocked.session]
  obtain ⟨hdisk', hinner'⟩ := kept_ledger .ok (hcoherent.insertSection registration.hash) hinserted
    hdisk (inMemory_insertSection hinner hsession hother) fun _ => hshielded
  exact ⟨⟨hdisk'.sealedText, hdisk'.ledger⟩, hinner'.sealedStore, hinner'.sessionPassword,
    hinner'.quarantined, hinner'.census, hinner'.caught⟩

/-- Everything an admissible insert leaves once the credential is in memory. -/
theorem kept_committed {inner : Inner} {disk : Disk} {session : Session} {uuid : Bytes16}
    {registration : Registration} {file : SealedFile} {entry : SealedEntry}
    (writes : InsertWrites) (hcoherent : Coherent libs inner)
    (hunlocked : Unlocked inner session uuid) (hother : registration.hash ≠ hash)
    (hshielded : Shielded libs hash (insertSection registration.hash inner))
    (hroom : RoomFor registration.hash inner) (hsealed : inner.sealedStore = some file)
    (hdisk : OnDisk libs password hash lineage disk)
    (hinner : InMemory libs password hash lineage inner) :
    OnDisk libs password hash lineage
        (committedDisk libs registration writes session.keys uuid inner file entry disk) ∧
      InMemory libs password hash lineage
        (committedInner libs registration session.keys uuid inner file entry) := by
  obtain ⟨_, hsome, hof⟩ := hinner.sealedStore
  cases hsome.symm.trans hsealed
  have hof' := hof.withEntry hother (hroom file hsealed) entry
  obtain ⟨hdisk', hinner'⟩ := kept_sectioned writes hcoherent hunlocked hother hshielded hdisk hinner
  exact ⟨hdisk'.sealedWrite writes.sealedText _ hof',
    inMemory_committedInner hinner' (by simp [hunlocked.session]) hof'⟩

/-- Every effect of an admissible call keeps the membership caught. -/
theorem kept_effect {world : World} {store : Store} {op : Op} {answer : Answer} {inner' : Inner}
    {disk' : Disk} (hstore : world.store = some store)
    (hadmissible : Admissible libs password hash world op) (hcoherent : Coherent libs store.inner)
    (hdisk : OnDisk libs password hash lineage world.disk)
    (hinner : InMemory libs password hash lineage store.inner)
    (heffect : Effect libs store.inner world.disk op answer inner' disk') :
    OnDisk libs password hash lineage disk' ∧ InMemory libs password hash lineage inner' := by
  obtain ⟨sealedFile, hsealedStore, hof⟩ := hinner.sealedStore
  cases heffect with
  | refused => exact ⟨hdisk, hinner⟩
  | closed => exact ⟨hdisk, inMemory_endSession hinner false⟩
  | locked => exact ⟨hdisk, inMemory_endSession hinner store.inner.lockHeld⟩
  | provisionFailed error hprovisions =>
      exact absurd hprovisions.empty (hof.credentialCount_ne_zero hsealedStore)
  | provisioned hprovisions =>
      exact absurd hprovisions.empty (hof.credentialCount_ne_zero hsealedStore)
  | authenticated unlocked hauth =>
      obtain rfl := hadmissible
      exact ⟨hdisk, inMemory_authenticatedInner hcoherent hinner hauth⟩
  | @insertLedgerFailed registration nonce writes session uuid error hunlocked hfailed =>
      obtain ⟨hother, hinsert⟩ := hadmissible
      have hinserted := inMemory_insertSection hinner (by simp [hunlocked.session]) hother
      exact ⟨(kept_ledger writes.allocations (hcoherent.insertSection _)
        ⟨hunlocked.lockHeld, hunlocked.session, hunlocked.storeUuid⟩ hdisk hinserted
        (hinsert store hstore).2).1, hinserted⟩
  | @insertSectioned registration nonce writes session uuid error hunlocked hledger =>
      obtain ⟨hother, hinsert⟩ := hadmissible
      obtain ⟨-, hshielded⟩ := hinsert store hstore
      exact kept_sectioned writes hcoherent hunlocked hother
        (hshielded (by simp [hledger, WriteOutcome.lands])) hdisk hinner
  | @insertSealFailed registration nonce writes session uuid file entry error hunlocked hledger _
      hsealed =>
      obtain ⟨hother, hinsert⟩ := hadmissible
      obtain ⟨hroom, hshielded⟩ := hinsert store hstore
      exact kept_committed writes hcoherent hunlocked hother
        (hshielded (by simp [hledger, WriteOutcome.lands])) hroom hsealed hdisk hinner
  | @inserted registration nonce writes session uuid file entry hunlocked hledger _ _ hsealed =>
      obtain ⟨hother, hinsert⟩ := hadmissible
      obtain ⟨hroom, hshielded⟩ := hinsert store hstore
      exact kept_committed writes hcoherent hunlocked hother
        (hshielded (by simp [hledger, WriteOutcome.lands])) hroom hsealed hdisk hinner
  | reserveFailed error hunlocked hchosen =>
      obtain ⟨alloc, taken, hspec⟩ := chooseSlot_spec hchosen
      exact kept_ledger _ (hcoherent.withCounters _ _)
        ⟨hunlocked.lockHeld, hunlocked.session, hunlocked.storeUuid⟩ hdisk
        ⟨hinner.sealedStore, hinner.sessionPassword, hinner.quarantined, hinner.census,
          hinner.caught⟩ (hadmissible store _ _ hstore hchosen)
  | reserved hunlocked hchosen =>
      exact kept_ledger _ (hcoherent.withCounters _ _)
        ⟨hunlocked.lockHeld, hunlocked.session, hunlocked.storeUuid⟩ hdisk
        ⟨hinner.sealedStore, hinner.sessionPassword, hinner.quarantined, hinner.census,
          hinner.caught⟩ (hadmissible store _ _ hstore hchosen)
  | cacheUpdated answer cache =>
      exact ⟨⟨hdisk.sealedText, hdisk.ledger⟩, hinner.sealedStore, hinner.sessionPassword,
        hinner.quarantined, hinner.census, hinner.caught⟩

/-- The membership's files and memory, as a property of the machine. -/
def Kept (libs : Libraries) (password hash : String) (lineage : Lineage) (world : World) : Prop :=
  world.Satisfies libs (OnDisk libs password hash lineage)
    fun inner _ => InMemory libs password hash lineage inner

theorem kept_step (world : World) (op : Op) (hkept : Kept libs password hash lineage world)
    (hadmissible : Admissible libs password hash world op) :
    Kept libs password hash lineage (step libs world op).1 := by
  refine satisfies_step ?_ ?_ world op hkept hadmissible
  · intro env disk disk' cache hdisk hopened
    obtain ⟨hinner, file, hread, hof⟩ := @inMemory_openedInner libs password hash lineage disk env
      cache hdisk hopened.loaded
    exact ⟨hdisk.of_opened hread hof hopened.sealedText hopened.allocations, hinner⟩
  · intro world store op answer inner' disk' hstore hadmissible hcoherent hdisk hinner heffect
    exact kept_effect hstore hadmissible hcoherent hdisk hinner heffect

/-- A reservation of the membership never succeeds. -/
theorem not_reserved_of_kept {world : World} (hkept : Kept libs password hash lineage world)
    {args : ReserveArgs} {write : WriteOutcome} (hhash : args.hash = hash) (slot : UInt64) :
    (step libs world (.reserve args write)).2 ≠ .reserved (.ok slot) := by
  intro hanswer
  cases hstore : world.store with
  | none => simp [step, hstore] at hanswer
  | some store =>
      obtain ⟨hcoherent, hinner⟩ := hkept.store store hstore
      obtain ⟨store', disk', answer, hstep, heffect⟩ : ∃ store' disk' answer,
          step libs world (.reserve args write) = (⟨disk', some store'⟩, answer) ∧
            Effect libs store.inner world.disk (.reserve args write) answer store'.inner disk' :=
        step_effect hstore hcoherent (by simp) (by simp)
      rw [hstep] at hanswer
      obtain rfl : answer = .reserved (.ok slot) := hanswer
      generalize store'.inner = inner' at heffect
      cases heffect with
      | refused _ _ herror => simp [Answer.isError, isOk] at herror
      | reserved hunlocked hchosen =>
          obtain ⟨alloc, taken, hspec⟩ := chooseSlot_spec hchosen
          have hquarantined := hinner.quarantined (by simp [hunlocked.session])
          rw [← hhash, hspec.standing] at hquarantined
          cases hquarantined

/-! ## Where the reason comes from -/

/-- A reason the census finds is in the entry or in the ledger's sections. -/
theorem caught_of_census {file : SealedFile} {ledger : Option AllocationsFile}
    {cache : StringMap CacheState} {entry : SealedEntry}
    (hentry : file.credentials[hash]? = some entry)
    (hcensus : hash ∈ (openedInner libs (some file) ledger cache).censusQuarantined)
    {read : AllocationsFile} (hread : ledger = some read) (huuid : read.storeUuid = file.storeUuid) :
    Caught libs password hash ⟨file.kdf, file.storeUuid, entry⟩ read.sections
      (hexToBytes32 read.rootMac) := by
  rcases mem_loadedFrom_census.mp hcensus with hcensus | ⟨-, hmissing⟩
  · obtain ⟨_, hsome, hfails⟩ := mem_censusFailures.mp hcensus
    cases hentry.symm.trans hsome
    intro keys uuid _ _
    simp [passes, ownCheck, hfails]
  · exact caught_of_missing (Std.ExtTreeMap.getElem?_eq_none (hmissing read hread huuid))

/-- A reason a keyed pass finds is in the entry or in the ledger. -/
theorem caught_of_keyed {file : SealedFile} {ledger : Option AllocationsFile}
    {cache : StringMap CacheState} {entry : SealedEntry} {keys : SubKeys} {uuid : Bytes16}
    (hentry : file.credentials[hash]? = some entry)
    (hcensus : hash ∉ (openedInner libs (some file) ledger cache).censusQuarantined)
    (hauth : Authenticated libs password (openedInner libs (some file) ledger cache) file uuid keys)
    (hkeyed : hash ∈ keyedFailures libs keys uuid file (openedInner libs (some file) ledger cache))
    {read : AllocationsFile} (hread : ledger = some read) (huuid : read.storeUuid = file.storeUuid) :
    Caught libs password hash ⟨file.kdf, file.storeUuid, entry⟩ read.sections
      (hexToBytes32 read.rootMac) := by
  intro keys' uuid' hderived hparsed
  cases hauth.derived.symm.trans hderived
  cases hauth.storeUuid.symm.trans hparsed
  rw [mem_keyedFailures_iff hentry hcensus] at hkeyed
  subst hread
  rw [rawSections_openedInner huuid, rootMacRaw_openedInner huuid] at hkeyed
  rw [← Bool.not_eq_true, passes, ownCheck, Bool.and_eq_true, Bool.and_eq_true, Bool.and_eq_true]
  rintro ⟨⟨⟨-, hopens⟩, hsection⟩, hroot⟩
  exact hkeyed ⟨hopens, hsection, hroot⟩

/-- When the first unlock leaves a membership quarantined, the files hold the
reason. -/
theorem onDisk_of_quarantined {disk : Disk} {env : OpenEnv} {random : UnlockRandom}
    {write : WriteOutcome} {store : Store}
    (hstore : (Run.run (step libs) { disk }
      [.openStore env, .unlock password random write]).store = some store)
    (hquarantined : store.inner.isQuarantined hash = true) :
    ∃ lineage, OnDisk libs password hash lineage disk := by
  have hcoherent := coherent_run disk _ hstore
  rcases openStore_cases libs { env with lock := ({ disk } : World).lockOutcome env } disk with
    ⟨error, heq⟩ | ⟨cache, disk', ⟨heq, -, -, -, huuid⟩⟩
  · simp [step, heq] at hstore
  · let opened := openedInner libs (readSealed disk.sealedText) (readLedger disk.allocations) cache
    have hopen : (step libs { disk } (.openStore env)).1 = ⟨disk', some (publish opened)⟩ := by
      simp only [step, heq]
      rfl
    obtain ⟨store', _, answer, hstep, heffect⟩ := @step_effect libs ⟨disk', some (publish opened)⟩
      (publish opened) rfl (coherent_openedInner huuid) (.unlock password random write) (by simp)
      (by simp)
    simp only [Run.run_cons, Run.run_nil, hopen, hstep, Option.some.injEq] at hstore
    subst hstore
    obtain ⟨file, hfile, hmember⟩ := hasCredential_iff.mp (hcoherent.quarantined hash hquarantined)
    obtain ⟨entry, hentry⟩ := OrderedMap.mem_iff_exists.mp hmember
    -- only a verifying unlock can find more than the census did
    have hopened : readSealed disk.sealedText = some file ∧
        (hash ∈ opened.censusQuarantined ∨ hash ∉ opened.censusQuarantined ∧
          ∃ uuid keys, Authenticated libs password opened file uuid keys ∧
            hash ∈ keyedFailures libs keys uuid file opened) := by
      have hcensusOnly : opened.isQuarantined hash = true → hash ∈ opened.censusQuarantined := by
        intro hopened
        rcases isQuarantined_iff.mp hopened with hcensus | hkeyed
        · exact hcensus
        · simp [opened, openedInner] at hkeyed
      generalize store'.inner = inner' at hfile hquarantined heffect
      change Effect libs opened disk' _ _ _ _ at heffect
      cases heffect with
      | refused => exact ⟨hfile, .inl (hcensusOnly hquarantined)⟩
      | provisionFailed => exact ⟨hfile, .inl (hcensusOnly hquarantined)⟩
      | provisioned =>
          obtain rfl := Option.some.inj hfile
          simp [provisionedFile, SealedFile.provision] at hmember
      | @authenticated _ _ _ _ uuid keys _ hauth =>
          cases hfile.symm.trans hauth.sealedStore
          refine ⟨hfile, ?_⟩
          by_cases hcensus : hash ∈ opened.censusQuarantined
          · exact .inl hcensus
          · refine .inr ⟨hcensus, uuid, keys, hauth, ?_⟩
            exact (isQuarantined_iff.mp hquarantined).resolve_left hcensus
    obtain ⟨hread, hreason⟩ := hopened
    refine ⟨⟨file.kdf, file.storeUuid, entry⟩, ?_, fun read hledger hsame => ?_⟩
    · obtain ⟨size, htext, -, hcount, hformat, hversion⟩ := readSealed_eq_some hread
      exact ⟨size, file, htext, rfl, rfl, hentry, hcount, hformat, hversion⟩
    · simp only [opened, hread] at hreason
      rcases hreason with hcensus | ⟨hcensus, uuid, keys, hauth, hkeyed⟩
      · exact caught_of_census hentry hcensus hledger hsame
      · exact caught_of_keyed hentry hcensus hauth hkeyed hledger hsame

/-- Without a reason of its own and without a malformed tag carried, a
quarantined membership is cleared by one insert of another hash and the next
unlock, with the counters it was loaded with. -/
theorem lifted_of_unshielded {world : World} {store : Store} {session : Session} {uuid : Bytes16}
    {file : SealedFile} {entry : SealedEntry} {registration : Registration} {plaintext ct : Bytes}
    (nonce : Bytes24) (random : UnlockRandom) (write : WriteOutcome)
    (hstore : world.store = some store) (hcoherent : Coherent libs store.inner)
    (hunlocked : Unlocked store.inner session uuid) (hsealed : store.inner.sealedStore = some file)
    (hverifier : session.keys.verify.toList = (hexToVec file.verifier).getD [])
    (hentry : file.credentials[hash]? = some entry)
    (hcensus : hash ∉ store.inner.censusQuarantined)
    (hown : ownCheck libs session.keys uuid hash entry store.inner.rawSections = true)
    (hother : registration.hash ≠ hash)
    (hcarried : ¬ CarriesMalformed (insertSection registration.hash store.inner))
    (hplain : libs.credentialToVec registration.credential = .ok plaintext)
    (hencrypt : libs.encrypt session.keys.sealKey nonce
      (credentialAad registration.hash registration.identity uuid) plaintext = some ct) :
    ∃ cleared, (Run.run (step libs) world [.insert registration (some nonce) ⟨.ok, .ok, .ok⟩, .lock,
        .unlock session.password random write]).store = some cleared ∧
      cleared.inner.lockHeld = true ∧ cleared.inner.session.isSome ∧
      cleared.inner.isQuarantined hash = false ∧
      cleared.inner.sections[hash]? = store.inner.sections[hash]? := by
  let sealedEntry : SealedEntry :=
    ⟨registration.identity, bytesToHex nonce.toList, bytesToHex ct⟩
  let relocked := relockedInner libs registration session.keys uuid store.inner file sealedEntry
  have hentry' : (withEntry file registration.hash sealedEntry).credentials[hash]? =
      some entry := by
    simpa [withEntry, Std.ExtTreeMap.getElem?_insert, hother] using hentry
  refine ⟨_, run_insert_relock nonce random write hstore hcoherent hunlocked hsealed hverifier
    hplain hencrypt, hunlocked.lockHeld, rfl, ?_, ?_⟩
  · have hpasses : passes libs session.keys uuid hash entry relocked.rawSections
        relocked.rootMacRaw = true := by
      simp only [ownCheck, Bool.and_eq_true] at hown
      have hsection : hash ∈ (insertSection registration.hash store.inner).sections := by
        refine mem_insertSection_sections.mpr (.inr (hcoherent.sectioned hash ?_ hcensus))
        exact hasCredential_iff.mpr ⟨file, hsealed, OrderedMap.mem_iff_exists.mpr ⟨_, hentry⟩⟩
      exact passes_written hown.1.1 hown.1.2 hsection hcarried fun _ => hown.2
    rw [Bool.eq_false_iff, Ne, isQuarantined_iff]
    rintro (hcensus' | hkeyed)
    · exact hcensus (Finset.mem_of_mem_erase hcensus')
    · exact not_mem_keyedFailures_of_passes hentry' hpasses hkeyed
  · change (insertSection registration.hash store.inner).sections[hash]? = _
    simp only [insertSection]
    split <;> simp [Std.ExtTreeMap.getElem?_insert, Std.ExtTreeMap.getElem?_insertIfNew, hother]

/-! ## Concrete runs -/

def memberArgs : ReserveArgs := ⟨Reference.member, "aa", 1, 0, 10, 600⟩

/-- An honest store up to its first registration. -/
def registeredOps : List Op :=
  [.openStore Reference.env, Reference.unlockOp, Reference.insertOp 1]

/-- The same store after one reservation. -/
def reservedOps : List Op := registeredOps ++ [.reserve memberArgs .ok]

/-- An outside edit: one section of the current ledger replaced by an older
one, both durable files laid out anew. -/
def spliced (hash : String) (older current : Disk) : Disk :=
  match current.sealedText, older.allocations, current.allocations with
  | .text _ (.ok file), .text _ (.ok old), .text _ (.ok ledger) =>
      { current with
        sealedText := .text 4096 (.ok file)
        allocations := .text 4096 (.ok { ledger with
          sections := (old.sections[hash]?).elim ledger.sections
            fun stored => ledger.sections.insert hash stored }) }
  | _, _, _ => current

theorem spliced_allocations {hash : String} {older current : Disk} {size size' size'' : ℕ}
    {file : SealedFile} {old ledger : AllocationsFile} {stored : Section}
    (hfile : current.sealedText = .text size (.ok file))
    (hold : older.allocations = .text size' (.ok old))
    (hledger : current.allocations = .text size'' (.ok ledger))
    (hstored : old.sections[hash]? = some stored) :
    (spliced hash older current).allocations =
      .text 4096 (.ok { ledger with sections := ledger.sections.insert hash stored }) := by
  simp [spliced, hfile, hold, hledger, hstored]

def tamperedDisk : Disk :=
  spliced Reference.member (Run.run (step Reference.libraries) {} registeredOps).disk
    (Run.run (step Reference.libraries) {} reservedOps).disk

def registeredInner : Inner :=
  committedInner Reference.libraries (Reference.registration 1) Reference.keys Reference.uuid
    Reference.provisionedInner (provisionedFile Reference.params Reference.keys Reference.uuid)
    (Reference.entry 1)

def spent : AllocationState where
  allocations := [⟨"aa", 1, 1⟩]
  epochSizeSec := 600
  pruneFloor := 0

theorem run_registered :
    Run.run (step Reference.libraries) {} registeredOps =
      ⟨committedDisk Reference.libraries (Reference.registration 1) Reference.writes Reference.keys
        Reference.uuid Reference.provisionedInner
        (provisionedFile Reference.params Reference.keys Reference.uuid) (Reference.entry 1)
        Reference.provisionedDisk, some (publish registeredInner)⟩ := by
  have hrun : Run.run (step Reference.libraries) {} registeredOps =
      (step Reference.libraries (Run.run (step Reference.libraries) {}
        [.openStore Reference.env, Reference.unlockOp]) (Reference.insertOp 1)).1 := rfl
  rw [hrun, Reference.run_provisioned, publish,
    Reference.step_insertOp Reference.unlocked_provisionedInner rfl]
  rfl

theorem sections_registeredInner :
    registeredInner.sections =
      (∅ : StringMap AllocationState).insertIfNew Reference.member {} := rfl

theorem isQuarantined_registeredInner (hash : String) :
    registeredInner.isQuarantined hash = false := rfl

/-- On untouched counters the member's reservation takes slot zero. -/
theorem chooseSlot_untouched {inner : Inner}
    (hstanding : inner.isQuarantined Reference.member = false)
    (hsection : inner.sections[Reference.member]? = some {}) :
    chooseSlot memberArgs inner = .ok (0, spent) := by
  have hreserve : reserveSlot {} memberArgs.rlnIdentifierHex memberArgs.epoch
      memberArgs.retainFloor memberArgs.rateLimit =
      .ok (0, { spent with epochSizeSec := 0 }) := by decide
  have hhash : memberArgs.hash = Reference.member := rfl
  simp only [chooseSlot, hhash, hstanding, hsection, reservationGuards, hreserve]
  rfl

theorem chooseSlot_registered : chooseSlot memberArgs registeredInner = .ok (0, spent) := by
  refine chooseSlot_untouched (isQuarantined_registeredInner _) ?_
  rw [sections_registeredInner, Std.ExtTreeMap.getElem?_insertIfNew]
  simp

theorem run_reserved :
    Run.run (step Reference.libraries) {} reservedOps =
      ⟨ledgerDisk Reference.libraries .ok Reference.keys Reference.uuid
          (withCounters registeredInner Reference.member spent)
          (Run.run (step Reference.libraries) {} registeredOps).disk,
        some (publish (ledgerInner Reference.libraries .ok Reference.keys Reference.uuid
          (withCounters registeredInner Reference.member spent)))⟩ := by
  have hunlocked : Unlocked (publish registeredInner).inner ⟨"pw", Reference.keys⟩
      Reference.uuid := ⟨rfl, rfl, rfl⟩
  have hreserve := fun disk => @reserve_of_chosen Reference.libraries memberArgs
    (publish registeredInner) disk _ _ 0 spent hunlocked chooseSlot_registered
  rw [reservedOps, Run.run_append, Run.run_cons, Run.run_nil, run_registered]
  simp only [step, withReply, hreserve]
  rfl

/-- The spliced ledger: the older section, no slot spent, under the current
root. -/
def tamperedLedger : AllocationsFile :=
  Reference.ledgerWith Reference.untouchedSection
    (bytesToHex (writtenRoot Reference.libraries Reference.keys Reference.uuid
      (withCounters registeredInner Reference.member spent)).toList)

theorem tamperedDisk_sealedText :
    tamperedDisk.sealedText = .text 4096 (.ok Reference.memberFile) := by
  rw [tamperedDisk, run_reserved, run_registered]
  rfl

theorem getElem?_olderLedger :
    (writtenSections Reference.libraries Reference.keys Reference.uuid
      (insertSection Reference.member Reference.provisionedInner))[Reference.member]? =
        some Reference.untouchedSection := by
  have hsection : (insertSection Reference.member
      Reference.provisionedInner).sections[Reference.member]? = some {} := by
    change ((∅ : StringMap AllocationState).insertIfNew Reference.member {})[Reference.member]? = _
    rw [Std.ExtTreeMap.getElem?_insertIfNew]
    simp
  have hstanding : (insertSection Reference.member
      Reference.provisionedInner).isQuarantined Reference.member = false := rfl
  rw [getElem?_writtenSections, hsection, hstanding]
  rfl

theorem tamperedDisk_allocations :
    tamperedDisk.allocations = .text 4096 (.ok tamperedLedger) := by
  have hsections : (writtenSections Reference.libraries Reference.keys Reference.uuid
      (withCounters registeredInner Reference.member spent)).insert Reference.member
        Reference.untouchedSection =
      (∅ : StringMap Section).insert Reference.member Reference.untouchedSection := by
    refine Std.ExtTreeMap.ext_getElem? fun hash => ?_
    simp only [Std.ExtTreeMap.getElem?_insert, getElem?_writtenSections,
      withCounters, sections_registeredInner, Std.ExtTreeMap.getElem?_insertIfNew]
    by_cases hhash : compare Reference.member hash = .eq <;> simp [hhash]
  rw [tamperedDisk, run_reserved, run_registered]
  rw [spliced_allocations rfl rfl rfl getElem?_olderLedger]
  simp only [ledgerFile, hsections]
  rfl

/-- The older section's own data is beyond reproach. -/
theorem ownCheck_tamperedLedger :
    ownCheck Reference.libraries Reference.keys Reference.uuid Reference.member
      (Reference.entry 1) tamperedLedger.sections = true := by
  have hrecomputes : recomputes Reference.libraries Reference.member
      (Reference.entry 1).identity = true := Reference.recomputes_registration 1
  have hopens : credentialOpens Reference.libraries Reference.keys
      (credentialAad Reference.member (Reference.entry 1).identity Reference.uuid)
      (Reference.entry 1) = true :=
    credentialOpens_of_sealsEntry Reference.laws (Reference.sealsEntry 1)
  rw [ownCheck, hrecomputes, hopens, tamperedLedger, Reference.ledgerWith_member, Option.any_some,
    Reference.untouchedSection, sectionMacOk_stampSection]
  rfl

/-- The tag of the member's counters. -/
def memberMac (alloc : AllocationState) : Bytes32 :=
  sectionMac Reference.libraries Reference.keys Reference.member alloc.epochSizeSec
    alloc.pruneFloor (alloc.allocations.map toAllocRow) Reference.uuid

def memberRoot (alloc : AllocationState) : Bytes32 :=
  rootMac Reference.libraries Reference.keys ((∅ : StringMap Bytes32).insert Reference.member
    (memberMac alloc)) Reference.uuid

theorem memberRoot_ne : (memberRoot {}).toList ≠ (memberRoot spent).toList := by
  decide +kernel

theorem storedMacs_tamperedLedger :
    storedMacs tamperedLedger.sections =
      (∅ : StringMap Bytes32).insert Reference.member (memberMac {}) := by
  refine Std.ExtTreeMap.ext_getElem? fun hash => ?_
  simp only [storedMacs, tamperedLedger, Reference.ledgerWith,
    Std.ExtTreeMap.getElem?_filterMap', Std.ExtTreeMap.getElem?_insert]
  split
  · rw [Option.bind_some, Reference.untouchedSection, stampSection, hexToBytes32_bytesToHex]
    rfl
  · simp

theorem writtenRoot_spent :
    writtenRoot Reference.libraries Reference.keys Reference.uuid
      (withCounters registeredInner Reference.member spent) = memberRoot spent := by
  have hmacs : writtenMacs (writtenSections Reference.libraries Reference.keys Reference.uuid
      (withCounters registeredInner Reference.member spent)) =
      (∅ : StringMap Bytes32).insert Reference.member (memberMac spent) := by
    refine Std.ExtTreeMap.ext_getElem? fun hash => ?_
    rw [writtenMacs, Std.ExtTreeMap.getElem?_map, getElem?_writtenSections]
    have hsections : (withCounters registeredInner Reference.member spent).sections =
        registeredInner.sections.insert Reference.member spent := rfl
    rw [hsections, Std.ExtTreeMap.getElem?_insert, Std.ExtTreeMap.getElem?_insert]
    have hstanding : (withCounters registeredInner Reference.member spent).isQuarantined hash =
        false := rfl
    by_cases hsame : compare Reference.member hash = .eq
    · obtain rfl := Std.LawfulEqCmp.compare_eq_iff_eq.mp hsame
      rw [if_pos hsame, if_pos hsame, Option.bind_some, hstanding]
      simp only [Bool.false_eq_true, if_false, Option.map_some, stampSection,
        hexToBytes32_bytesToHex, Option.getD_some]
      rfl
    · rw [if_neg hsame, if_neg hsame, sections_registeredInner,
        Std.ExtTreeMap.getElem?_insertIfNew]
      simp [hsame]
  rw [writtenRoot, hmacs, memberRoot]

/-- The current root does not cover the older section. -/
theorem rootOk_tamperedLedger :
    rootOk Reference.libraries Reference.keys Reference.uuid tamperedLedger.sections
      (hexToBytes32 tamperedLedger.rootMac) = false := by
  have hroot : hexToBytes32 tamperedLedger.rootMac = some (memberRoot spent) :=
    (hexToBytes32_bytesToHex _).trans (congrArg some writtenRoot_spent)
  rw [Bool.eq_false_iff, Ne, rootOk_iff, storedMacs_tamperedLedger, hroot, Option.some.injEq]
  rintro ⟨-, hsame⟩
  exact memberRoot_ne (congrArg List.Vector.toList hsame.symm)

theorem run_caught : ∃ opened, Reference.Loaded tamperedLedger Reference.untouchedSection opened ∧
    ∃ disk, Run.run (step Reference.libraries) { disk := tamperedDisk }
      [.openStore Reference.env, Reference.unlockOp] =
        ⟨disk, some (publish (Reference.unlockedInner opened))⟩ :=
  Reference.run_loaded tamperedDisk_sealedText (by decide) tamperedDisk_allocations (by decide)
    (by simp [Reference.untouchedSection, stampSection])

/-- The first unlock catches the splice. -/
theorem isQuarantined_caught {opened : Inner}
    (hloaded : Reference.Loaded tamperedLedger Reference.untouchedSection opened) :
    (Reference.unlockedInner opened).isQuarantined Reference.member = true := by
  rw [isQuarantined_iff]
  right
  simp only [Reference.unlockedInner, authenticatedInner]
  rw [mem_keyedFailures_iff Reference.memberFile_entry hloaded.census, hloaded.rawSections,
    hloaded.rootMacRaw, rootOk_tamperedLedger]
  rintro ⟨-, -, hroot⟩
  cases hroot

/-- The tampered store unlocked, one insert of another membership, and the next
unlock. -/
def launderingOps : List Op :=
  [.openStore Reference.env, Reference.unlockOp] ++
    [Reference.insertOp 2, .lock, Reference.unlockOp]

end LogosRln.SealedStore.Quarantine
