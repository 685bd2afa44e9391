import LogosRln.SealedStore.HealthyWrites

/-!
# What the store writes and what it can read back

The read path caps the credentials of the sealed file, the sections of the
ledger, the rows of a section and the bytes of every file.  The write path caps
the rows alone.  As long as the other caps are met by what is already there
and what a call adds, the directory stays one that the next open adopts whole.
-/

namespace LogosRln.SealedStore.Capacity

open RegistryId Crypto Format Lifecycle RateLimit Files HealthyWrites

/-! ## Files the next open adopts -/

/-- The caps the next open enforces on the two durable files. -/
structure WithinCaps (disk : Disk) : Prop where
  sealedText : disk.sealedText = .missing ∨ ∃ size file, disk.sealedText = .text size (.ok file) ∧
    size ≤ maxFileBytes ∧ checkSealedCaps file = .ok ()
  allocations : disk.allocations = .missing ∨ ∃ size file,
    disk.allocations = .text size (.ok file) ∧ size ≤ maxFileBytes ∧
      checkAllocationsCaps file = .ok ()

/-- Every file is missing or adopted whole, under a header that spells the
uuid as the writer does. -/
structure Adoptable (disk : Disk) : Prop where
  sealedText : disk.sealedText = .missing ∨ (readSealed disk.sealedText).isSome
  allocations : disk.allocations = .missing ∨ (readLedger disk.allocations).isSome
  cache : disk.cache = .missing ∨ ∃ size file, disk.cache = .text size (.ok file) ∧
    size ≤ maxFileBytes
  oldFormat : disk.oldFormat = false
  spelling : ∀ file, readSealed disk.sealedText = some file →
    ∃ uuid : Bytes16, file.storeUuid = bytesToHex uuid.toList

theorem checkSealedCaps_eq_ok_iff {file : SealedFile} :
    checkSealedCaps file = .ok () ↔ file.credentials.size ≤ maxCredentials := by
  simp only [checkSealedCaps]
  split
  · simpa using by omega
  · simpa using by omega

theorem Adoptable.withinCaps {disk : Disk} (hadoptable : Adoptable disk) : WithinCaps disk where
  sealedText := by
    refine hadoptable.sealedText.imp_right fun hread => ?_
    obtain ⟨file, hfile⟩ := Option.isSome_iff_exists.mp hread
    obtain ⟨size, htext, hsize, hcount, -, -⟩ := readSealed_eq_some hfile
    exact ⟨size, file, htext, hsize, checkSealedCaps_eq_ok_iff.mpr hcount⟩
  allocations := by
    refine hadoptable.allocations.imp_right fun hread => ?_
    obtain ⟨file, hfile⟩ := Option.isSome_iff_exists.mp hread
    obtain ⟨size, htext, hsize, hcaps⟩ := readLedger_eq_some hfile
    exact ⟨size, file, htext, hsize, hcaps⟩

variable {libs : Libraries} {passwords : Set String}

theorem loadSealed_of_adoptable {disk : Disk} (env : OpenEnv) (hadoptable : Adoptable disk) :
    loadSealed env disk = (.ok (readSealed disk.sealedText), disk) := by
  rcases hadoptable.sealedText with hmissing | hread
  · simp [loadSealed, hmissing]
  · obtain ⟨file, hfile⟩ := Option.isSome_iff_exists.mp hread
    rw [loadSealed_of_readSealed hfile, hfile]

theorem loadAllocations_of_adoptable {disk : Disk} (env : OpenEnv)
    (sealedStore : Option SealedFile) (census : Finset String) (hadoptable : Adoptable disk) :
    loadAllocations env sealedStore census disk =
      (loadedFrom sealedStore census (readLedger disk.allocations), disk) := by
  rcases hadoptable.allocations with hmissing | hread
  · simp [loadAllocations, hmissing, loadedFrom]
  · obtain ⟨ledger, hledger⟩ := Option.isSome_iff_exists.mp hread
    rcases loadAllocations_eq env sealedStore census disk with
      ⟨read, hread, hload⟩ | ⟨_, _, hnone, -, -⟩
    · rw [hload, hread, loadedFrom]
    · rw [hledger] at hnone
      cases hnone

theorem loadCache_of_adoptable {disk : Disk} (env : OpenEnv) (sealedStore : Option SealedFile)
    (hadoptable : Adoptable disk) : (loadCache env sealedStore disk).2 = disk := by
  rcases hadoptable.cache with hmissing | ⟨size, file, htext, hsize⟩
  · simp [loadCache, hmissing]
  · simp [loadCache, htext, hsize]

/-- An adoptable directory opens without moving or changing a file. -/
theorem openStore_of_adoptable {env : OpenEnv} {disk : Disk} (hlock : env.lock = .taken)
    (hadoptable : Adoptable disk) :
    ∃ cache, openStore libs env disk = (.ok (publish (openedInner libs
      (readSealed disk.sealedText) (readLedger disk.allocations) cache)), disk) := by
  have hspelled : ((readSealed disk.sealedText).any fun file =>
      (parseUuid file.storeUuid).isNone) = false := by
    cases hread : readSealed disk.sealedText with
    | none => rfl
    | some file =>
        obtain ⟨uuid, huuid⟩ := hadoptable.spelling file hread
        simp [huuid]
  have hfiles : openFiles libs env (readSealed disk.sealedText) disk =
      (publish (openedInner libs (readSealed disk.sealedText) (readLedger disk.allocations)
        (loadCache env (readSealed disk.sealedText) disk).1), disk) := by
    simp only [openFiles, loadAllocations_of_adoptable env _ _ hadoptable,
      loadCache_of_adoptable env _ hadoptable]
    rfl
  refine ⟨(loadCache env (readSealed disk.sealedText) disk).1, ?_⟩
  simp [openStore, hadoptable.oldFormat, hlock, openLocked, loadSealed_of_adoptable env hadoptable,
    hspelled, hfiles]

/-! ## The keys on disk and the memory beside it -/

/-- No two of the passwords derive different keys with one verifier. -/
def Distinguishes (libs : Libraries) (passwords : Set String) : Prop :=
  ∀ first ∈ passwords, ∀ second ∈ passwords, ∀ params keys keys',
    deriveKeys libs first params = .ok keys → deriveKeys libs second params = .ok keys' →
      keys.verify = keys'.verify → keys = keys'

/-- The sealed file was written under the keys of one password, and every
membership it lists is sound under them. -/
structure SealedUnder (libs : Libraries) (password : String) (keys : SubKeys) (disk : Disk)
    (file : SealedFile) : Prop where
  derived : deriveKeys libs password file.kdf = .ok keys
  verifier : keys.verify.toList = (hexToVec file.verifier).getD []
  sound : ∀ hash, ∃ uuid, OnDisk libs password hash keys uuid disk

/-- An adoptable directory whose memberships are sound under a known
password. -/
structure Kept (libs : Libraries) (passwords : Set String) (disk : Disk) : Prop where
  adoptable : Adoptable disk
  sealedUnder : ∀ file, readSealed disk.sealedText = some file →
    ∃ password ∈ passwords, ∃ keys, SealedUnder libs password keys disk file

/-- What an open of the directory would put in memory. -/
def reopened (libs : Libraries) (disk : Disk) : Inner :=
  openedInner libs (readSealed disk.sealedText) (readLedger disk.allocations) ∅

/-- Memory is what an open of the directory would find, with nobody
quarantined and a session under a known password. -/
structure Mirrors (libs : Libraries) (passwords : Set String) (inner : Inner) (disk : Disk) :
    Prop where
  sealedStore : inner.sealedStore = readSealed disk.sealedText
  sections : inner.sections = (reopened libs disk).sections
  rawSections : inner.rawSections = (reopened libs disk).rawSections
  rootMacRaw : inner.rootMacRaw = (reopened libs disk).rootMacRaw
  standing : ∀ hash, inner.isQuarantined hash = false
  session : ∀ session file, inner.session = some session → inner.sealedStore = some file →
    session.password ∈ passwords ∧ session.keys.verify.toList = (hexToVec file.verifier).getD []

variable {password other : String} {keys keys' : SubKeys} {inner : Inner} {disk : Disk}
  {file : SealedFile}

/-- Whoever opens the verifier derives the keys the file was written under. -/
theorem SealedUnder.of_verifier (hdistinct : Distinguishes libs passwords)
    (hsealed : SealedUnder libs password keys disk file) (hpassword : password ∈ passwords)
    (hother : other ∈ passwords) (hread : readSealed disk.sealedText = some file)
    (hderived : deriveKeys libs other file.kdf = .ok keys')
    (hverifier : keys'.verify.toList = (hexToVec file.verifier).getD []) :
    SealedUnder libs other keys' disk file := by
  have hverify : keys.verify = keys'.verify :=
    List.Vector.eq _ _ (hsealed.verifier.trans hverifier.symm)
  obtain rfl := hdistinct password hpassword other hother file.kdf keys keys' hsealed.derived
    hderived hverify
  refine ⟨hderived, hverifier, fun hash => ?_⟩
  obtain ⟨uuid, hdisk⟩ := hsealed.sound hash
  refine ⟨uuid, fun listed entry hlisted hentry => ?_⟩
  cases hread.symm.trans hlisted
  obtain ⟨ledger, hledger, huuid, hsound⟩ := hdisk file entry hread hentry
  exact ⟨ledger, hledger, huuid, hderived, hsound.storeUuid, hsound.passes⟩

/-- Nobody is quarantined where every listed membership is sound. -/
theorem standing_of_inMemory (hcoherent : Coherent libs inner)
    (hsound : ∀ file, inner.sealedStore = some file →
      ∃ password keys, ∀ hash, ∃ uuid, InMemory libs password hash keys uuid inner)
    (hash : String) : inner.isQuarantined hash = false := by
  rw [Bool.eq_false_iff]
  intro hquarantined
  obtain ⟨file, hfile, hmember⟩ := hasCredential_iff.mp (hcoherent.quarantined hash hquarantined)
  obtain ⟨entry, hentry⟩ := OrderedMap.mem_iff_exists.mp hmember
  obtain ⟨password, keys, hall⟩ := hsound file hfile
  obtain ⟨uuid, hinner⟩ := hall hash
  rw [(hinner file entry hfile hentry).1] at hquarantined
  cases hquarantined

theorem Mirrors.inMemory (hmirrors : Mirrors libs passwords inner disk) {hash : String}
    {uuid : Bytes16} (hdisk : OnDisk libs password hash keys uuid disk) :
    InMemory libs password hash keys uuid inner := by
  intro file entry hfile hentry
  have hopened : InMemory libs password hash keys uuid (reopened libs disk) :=
    inMemory_openedInner hdisk
  rw [hmirrors.sealedStore] at hfile
  obtain ⟨-, hsound⟩ := hopened file entry hfile hentry
  refine ⟨hmirrors.standing hash, ?_⟩
  rw [hmirrors.rawSections, hmirrors.rootMacRaw]
  exact hsound

/-- An open of a kept directory quarantines nobody. -/
theorem standing_openedInner (hkept : Kept libs passwords disk) (cache : StringMap CacheState)
    (hash : String) :
    (openedInner libs (readSealed disk.sealedText) (readLedger disk.allocations) cache).isQuarantined
      hash = false := by
  have huuid : ∀ file, readSealed disk.sealedText = some file →
      ∃ uuid, parseUuid file.storeUuid = some uuid := by
    intro file hfile
    obtain ⟨uuid, hspelled⟩ := hkept.adoptable.spelling file hfile
    exact ⟨uuid, by rw [hspelled, parseUuid_bytesToHex]⟩
  refine standing_of_inMemory (coherent_openedInner huuid) (fun file hfile => ?_) hash
  obtain ⟨password, -, keys, hsealed⟩ := hkept.sealedUnder file hfile
  refine ⟨password, keys, fun hash => ?_⟩
  obtain ⟨uuid, hdisk⟩ := hsealed.sound hash
  exact ⟨uuid, inMemory_openedInner hdisk⟩

theorem mirrors_openedInner (hkept : Kept libs passwords disk) (cache : StringMap CacheState) :
    Mirrors libs passwords
      (openedInner libs (readSealed disk.sealedText) (readLedger disk.allocations) cache) disk where
  sealedStore := rfl
  sections := rfl
  rawSections := rfl
  rootMacRaw := rfl
  standing := standing_openedInner hkept cache
  session := by simp [openedInner]

/-- The verifying unlock of a known password quarantines nobody. -/
theorem standing_authenticatedInner (hdistinct : Distinguishes libs passwords)
    (hkept : Kept libs passwords disk) (hmirrors : Mirrors libs passwords inner disk)
    (hcoherent : Coherent libs inner) (hcoherent' : Coherent libs
      (authenticatedInner libs password inner file uuid keys)) (hpassword : password ∈ passwords)
    (hauth : Authenticated libs password inner file uuid keys) (hash : String) :
    (authenticatedInner libs password inner file uuid keys).isQuarantined hash = false := by
  refine standing_of_inMemory hcoherent' (fun _ _ => ⟨password, keys, fun hash => ?_⟩) hash
  have hread : readSealed disk.sealedText = some file :=
    hmirrors.sealedStore.symm.trans hauth.sealedStore
  obtain ⟨first, hfirst, keys', hsealed⟩ := hkept.sealedUnder file hread
  have hunder := hsealed.of_verifier hdistinct hfirst hpassword hread hauth.derived hauth.verifier
  obtain ⟨uuid', hdisk⟩ := hunder.sound hash
  exact ⟨uuid', inMemory_authenticatedInner hcoherent (hmirrors.inMemory hdisk) hauth⟩

/-! ## Calls that leave room -/

/-- A new membership finds a free place, and the three texts of the insert are
within the file cap. -/
structure InsertFits (libs : Libraries) (registration : Registration) (keys : SubKeys)
    (uuid : Bytes16) (inner : Inner) (file : SealedFile) (entry : SealedEntry) : Prop where
  place : registration.hash ∈ file.credentials ∨ file.credentials.size < maxCredentials
  sealedText : libs.sealedLength (withEntry file registration.hash entry) ≤ maxFileBytes
  allocations : libs.allocationsLength (ledgerFile libs keys uuid
    (insertSection registration.hash inner)) ≤ maxFileBytes
  cache : libs.cacheLength { entries := (insertCacheRow registration inner).cache } ≤ maxFileBytes

/-- What a call would write is within the caps of the next open. -/
def Room (libs : Libraries) (passwords : Set String) (world : World) : Op → Prop
  | .unlock password random _ => password ∈ passwords ∧
      ∀ store params keys uuid, world.store = some store →
        Provisions libs password random store.inner params keys uuid →
        libs.sealedLength (provisionedFile params keys uuid) ≤ maxFileBytes
  | .insert registration nonce _ =>
      recomputes libs registration.hash registration.identity = true ∧
        ∀ store session uuid file entry, world.store = some store →
          Unlocked store.inner session uuid → store.inner.sealedStore = some file →
          SealsEntry libs session.keys uuid registration nonce entry →
          InsertFits libs registration session.keys uuid store.inner file entry
  | .reserve args _ => ∀ store session uuid slot alloc, world.store = some store →
      Unlocked store.inner session uuid → chooseSlot args store.inner = .ok (slot, alloc) →
      libs.allocationsLength (ledgerFile libs session.keys uuid
        (withCounters store.inner args.hash alloc)) ≤ maxFileBytes
  | .updateCache _ _ _ _ => False
  | _ => True

/-- A call that is answered without an error and leaves room. -/
structure Fits (libs : Libraries) (passwords : Set String) (world : World) (op : Op) : Prop where
  answered : (step libs world op).2.isError = false
  room : Room libs passwords world op

/-- Counters belong to listed memberships. -/
theorem Mirrors.listed (hmirrors : Mirrors libs passwords inner disk)
    (hsealed : inner.sealedStore = some file) {hash : String} (hmember : hash ∈ inner.sections) :
    hash ∈ file.credentials := by
  rw [hmirrors.sections] at hmember
  obtain ⟨alloc, halloc⟩ := OrderedMap.mem_iff_exists.mp hmember
  rw [hmirrors.sealedStore] at hsealed
  simp only [reopened, openedInner, hsealed] at halloc
  obtain ⟨_, _, -, -, hlisted, -, -⟩ := getElem?_loadedFrom_sections.mp halloc
  exact hlisted

/-- Without a credential there are no counters. -/
theorem Mirrors.sections_eq_empty (hmirrors : Mirrors libs passwords inner disk)
    (hempty : inner.credentialCount = 0) : inner.sections = ∅ := by
  have hnone : ∀ hash, hash ∉ inner.sections := by
    intro hash hmember
    cases hsealed : inner.sealedStore with
    | some file =>
        have hlisted := hmirrors.listed hsealed hmember
        have hcount := credentialCount_pos (hasCredential_iff.mpr ⟨file, hsealed, hlisted⟩)
        omega
    | none =>
        rw [hmirrors.sections] at hmember
        obtain ⟨alloc, halloc⟩ := OrderedMap.mem_iff_exists.mp hmember
        rw [hmirrors.sealedStore] at hsealed
        rw [reopened, hsealed] at halloc
        cases hledger : readLedger disk.allocations <;>
          simp [hledger, openedInner, loadedFrom, adoptAllocations, LoadedAllocations.empty] at halloc
  exact Std.ExtTreeMap.eq_empty_iff_forall_not_mem.mpr hnone

/-- The counters just written are those a reopening finds. -/
theorem sections_reopened_of_written {written : Inner} {uuid : Bytes16}
    (hsealed : readSealed disk.sealedText = some file)
    (hledger : readLedger disk.allocations = some (ledgerFile libs keys uuid written))
    (hspelled : file.storeUuid = bytesToHex uuid.toList)
    (hstanding : ∀ hash, written.isQuarantined hash = false)
    (hlisted : ∀ hash, hash ∈ written.sections → hash ∈ file.credentials) :
    (reopened libs disk).sections = written.sections := by
  ext hash alloc
  simp only [reopened, openedInner, hsealed]
  rw [getElem?_loadedFrom_sections]
  have hstamped : (ledgerFile libs keys uuid written).sections[hash]? =
      (written.sections[hash]?).map (stampSection libs keys uuid hash) := by
    rw [ledgerFile, getElem?_writtenSections]
    cases written.sections[hash]? <;> simp [hstanding hash]
  constructor
  · rintro ⟨read, stored, hread, -, -, hstored, rfl⟩
    cases hledger.symm.trans hread
    rw [hstamped, Option.map_eq_some_iff] at hstored
    obtain ⟨counters, hcounters, rfl⟩ := hstored
    rw [toAllocationState_stampSection, hcounters]
  · intro halloc
    refine ⟨_, _, hledger, hspelled.symm, hlisted hash (OrderedMap.mem_iff_exists.mpr ⟨_, halloc⟩),
      by rw [hstamped, halloc, Option.map_some], ?_⟩
    rw [toAllocationState_stampSection]

/-! ## What each successful call keeps -/

/-- The directory and the memory after a ledger write from `written`. -/
structure LedgerWritten (libs : Libraries) (session : Session) (uuid : Bytes16) (written : Inner)
    (inner' : Inner) (disk' : Disk) (file' : SealedFile) : Prop where
  sealedText : readSealed disk'.sealedText = some file'
  allocations : readLedger disk'.allocations = some (ledgerFile libs session.keys uuid written)
  sealedStore : inner'.sealedStore = some file'
  unlocked : inner'.session = some session
  sections : inner'.sections = written.sections
  rawSections : inner'.rawSections = writtenSections libs session.keys uuid written
  rootMacRaw : inner'.rootMacRaw = some (writtenRoot libs session.keys uuid written)
  quarantined : inner'.isQuarantined = written.isQuarantined

theorem mirrors_of_written {session : Session} {uuid : Bytes16} {written inner' : Inner}
    {disk' : Disk} (hwritten : LedgerWritten libs session uuid written inner' disk' file)
    (hspelled : file.storeUuid = bytesToHex uuid.toList)
    (hstanding : ∀ hash, written.isQuarantined hash = false)
    (hlisted : ∀ hash, hash ∈ written.sections → hash ∈ file.credentials)
    (hsession : session.password ∈ passwords ∧
      session.keys.verify.toList = (hexToVec file.verifier).getD []) :
    Mirrors libs passwords inner' disk' where
  sealedStore := hwritten.sealedStore.trans hwritten.sealedText.symm
  sections := hwritten.sections.trans (sections_reopened_of_written hwritten.sealedText
    hwritten.allocations hspelled hstanding hlisted).symm
  rawSections := by
    rw [hwritten.rawSections, reopened, hwritten.sealedText, hwritten.allocations,
      rawSections_openedInner hspelled.symm]
    rfl
  rootMacRaw := by
    rw [hwritten.rootMacRaw, reopened, hwritten.sealedText, hwritten.allocations,
      rootMacRaw_openedInner hspelled.symm, hexToBytes32_ledgerFile_rootMac]
  standing := by rw [hwritten.quarantined]; exact hstanding
  session := by
    intro session' file' hsome hfile
    cases hwritten.unlocked.symm.trans hsome
    cases hwritten.sealedStore.symm.trans hfile
    exact hsession

theorem kept_of_written {session : Session} {uuid : Bytes16} {written inner' : Inner}
    {disk' : Disk} (hwritten : LedgerWritten libs session uuid written inner' disk' file)
    (hcoherent' : Coherent libs inner') (hspelled : file.storeUuid = bytesToHex uuid.toList)
    (hsession : session.password ∈ passwords ∧
      session.keys.verify.toList = (hexToVec file.verifier).getD [])
    (hsound : ∀ hash, ∃ uuid, OnDisk libs session.password hash session.keys uuid disk')
    (hcache : disk'.cache = .missing ∨ ∃ size file, disk'.cache = .text size (.ok file) ∧
      size ≤ maxFileBytes) (holdFormat : disk'.oldFormat = false) : Kept libs passwords disk' where
  adoptable :=
    { sealedText := .inr (by rw [hwritten.sealedText]; rfl)
      allocations := .inr (by rw [hwritten.allocations]; rfl)
      cache := hcache
      oldFormat := holdFormat
      spelling := by
        intro file' hfile
        cases hwritten.sealedText.symm.trans hfile
        exact ⟨uuid, hspelled⟩ }
  sealedUnder := by
    intro file' hfile
    cases hwritten.sealedText.symm.trans hfile
    exact ⟨session.password, hsession.1, session.keys,
      hcoherent'.sessionKeys session file hwritten.unlocked hwritten.sealedStore, hsession.2, hsound⟩

/-- The uuid a session writes under is the one its header spells. -/
theorem Mirrors.spelled {session : Session} {uuid : Bytes16}
    (hmirrors : Mirrors libs passwords inner disk) (hadoptable : Adoptable disk)
    (hcoherent : Coherent libs inner) (hunlocked : Unlocked inner session uuid)
    (hsealed : inner.sealedStore = some file) : file.storeUuid = bytesToHex uuid.toList := by
  obtain ⟨uuid', hspelled⟩ := hadoptable.spelling file (hmirrors.sealedStore.symm.trans hsealed)
  have huuid := hunlocked.storeUuid
  rw [hcoherent.storeUuid, hsealed, Option.bind_some, hspelled, parseUuid_bytesToHex] at huuid
  rw [hspelled, Option.some.inj huuid]

/-- Provisioning an empty store leaves nothing to lose. -/
theorem kept_provisioned {random : UnlockRandom} {params : KdfParams} {uuid : Bytes16}
    (hkept : Kept libs passwords disk) (hmirrors : Mirrors libs passwords inner disk)
    (hpassword : password ∈ passwords)
    (hprovisions : Provisions libs password random inner params keys uuid)
    (hsize : libs.sealedLength (provisionedFile params keys uuid) ≤ maxFileBytes) :
    let inner' := { inner with
      sealedStore := some (provisionedFile params keys uuid)
      storeUuid := some uuid
      session := some ⟨password, keys⟩ }
    let disk' := { disk with
      sealedText := writeText .ok (libs.sealedLength (provisionedFile params keys uuid))
        (provisionedFile params keys uuid) disk.sealedText }
    Kept libs passwords disk' ∧ Mirrors libs passwords inner' disk' := by
  intro inner' disk'
  have hread : readSealed disk'.sealedText = some (provisionedFile params keys uuid) :=
    readSealed_text hsize (by simp [provisionedFile, SealedFile.provision]) rfl rfl
  have hverifier : keys.verify.toList =
      (hexToVec (provisionedFile params keys uuid).verifier).getD [] := by
    simp [provisionedFile, SealedFile.provision]
  constructor
  · refine ⟨⟨.inr (by rw [hread]; rfl), hkept.adoptable.allocations, hkept.adoptable.cache,
      hkept.adoptable.oldFormat, ?_⟩, ?_⟩
    · intro file hfile
      cases hread.symm.trans hfile
      exact ⟨uuid, rfl⟩
    · intro file hfile
      cases hread.symm.trans hfile
      refine ⟨password, hpassword, keys, hprovisions.derived, hverifier, fun hash => ⟨uuid, ?_⟩⟩
      intro file entry hfile hentry
      cases hread.symm.trans hfile
      simp [provisionedFile, SealedFile.provision] at hentry
  · have hempty : (reopened libs disk').sections = ∅ := by
      rw [Std.ExtTreeMap.eq_empty_iff_forall_not_mem]
      intro hash hmember
      obtain ⟨alloc, halloc⟩ := OrderedMap.mem_iff_exists.mp hmember
      simp only [reopened, openedInner, hread] at halloc
      obtain ⟨_, _, -, -, hlisted, -, -⟩ := getElem?_loadedFrom_sections.mp halloc
      simp [provisionedFile, SealedFile.provision] at hlisted
    have hraw : ∀ sealedStore sealedStore' : Option SealedFile,
        (openedInner libs sealedStore (readLedger disk.allocations) ∅).rawSections =
          (openedInner libs sealedStore' (readLedger disk.allocations) ∅).rawSections ∧
        (openedInner libs sealedStore (readLedger disk.allocations) ∅).rootMacRaw =
          (openedInner libs sealedStore' (readLedger disk.allocations) ∅).rootMacRaw := by
      intro sealedStore sealedStore'
      cases readLedger disk.allocations with
      | none => exact ⟨rfl, rfl⟩
      | some ledger =>
          simp only [openedInner, loadedFrom, adoptAllocations]
          cases sealedStore <;> cases sealedStore' <;> simp <;> grind
    refine ⟨hread.symm, ?_, ?_, ?_, hmirrors.standing, ?_⟩
    · exact (hmirrors.sections_eq_empty hprovisions.empty).trans hempty.symm
    · exact hmirrors.rawSections.trans (hraw _ _).1
    · exact hmirrors.rootMacRaw.trans (hraw _ _).2
    · intro session file hsession hfile
      obtain rfl := Option.some.inj hsession
      obtain rfl := Option.some.inj hfile
      exact ⟨hpassword, hverifier⟩

theorem Mirrors.standing_insertSection (hmirrors : Mirrors libs passwords inner disk)
    (hash other : String) : (insertSection hash inner).isQuarantined other = false := by
  rw [Bool.eq_false_iff]
  intro hquarantined
  have hold := (isQuarantined_insertSection.mp hquarantined).2
  rw [hmirrors.standing] at hold
  cases hold

theorem sections_subset_insertSection {hash other : String}
    (hlisted : ∀ hash, hash ∈ inner.sections → hash ∈ file.credentials) (entry : SealedEntry)
    (hmember : other ∈ (insertSection hash inner).sections) :
    other ∈ (withEntry file hash entry).credentials := by
  rcases mem_insertSection_sections.mp hmember with rfl | hold
  · simp [withEntry]
  · simp [withEntry, hlisted other hold]

theorem size_withEntry_le {hash : String} {entry : SealedEntry}
    (hcount : file.credentials.size ≤ maxCredentials)
    (hplace : hash ∈ file.credentials ∨ file.credentials.size < maxCredentials) :
    (withEntry file hash entry).credentials.size ≤ maxCredentials := by
  simp only [withEntry, Std.ExtTreeMap.size_insert]
  split
  · exact hcount
  · rename_i hnew
    exact hplace.resolve_left hnew

/-- A ledger write from counters of listed memberships, nobody quarantined, is
rereadable. -/
theorem rereadable_of_fits {written : Inner} {file' : SealedFile} {uuid : Bytes16}
    (hstanding : ∀ hash, written.isQuarantined hash = false)
    (hlisted : ∀ hash, hash ∈ written.sections → hash ∈ file'.credentials)
    (hcount : file'.credentials.size ≤ maxCredentials)
    (hsize : libs.allocationsLength (ledgerFile libs keys uuid written) ≤ maxFileBytes)
    (hspelled : ∀ file, written.sealedStore = some file →
      file.storeUuid = bytesToHex uuid.toList) : Rereadable libs keys uuid written where
  carried := by
    rintro ⟨hash, _, hquarantined, -⟩
    rw [hstanding hash] at hquarantined
    cases hquarantined
  size := hsize
  count := by
    calc (writtenSections libs keys uuid written).size
        ≤ written.sections.size := Std.ExtTreeMap.size_filterMap_le_size
      _ ≤ file'.credentials.size := OrderedMap.size_le_of_forall_mem hlisted
      _ ≤ maxSections := hcount
  spelling := hspelled

theorem readLedger_of_rereadable {written : Inner} {uuid : Bytes16} (hrows : RowsFit written)
    (hreread : Rereadable libs keys uuid written) :
    readLedger (.text (libs.allocationsLength (ledgerFile libs keys uuid written))
      (.ok (ledgerFile libs keys uuid written))) = some (ledgerFile libs keys uuid written) :=
  readLedger_text hreread.size (checkAllocationsCaps_eq_ok_iff.mpr ⟨hreread.count,
    fun _ _ hstored => hrows.written keys uuid hstored⟩) rfl rfl

/-- What the machine keeps, in memory. -/
structure InStep (libs : Libraries) (passwords : Set String) (inner : Inner) (disk : Disk) :
    Prop where
  tidy : Tidy libs inner disk
  rows : RowsFit inner
  mirrors : Mirrors libs passwords inner disk

/-- A call that fits is admissible. -/
theorem admissible_of_fits {world : World} {op : Op} {store : Store} {inner' : Inner}
    {disk' : Disk} (hstore : world.store = some store)
    (hstanding : ∀ hash, store.inner.isQuarantined hash = false)
    (hfits : Fits libs passwords world op)
    (heffect : Effect libs store.inner world.disk op (step libs world op).2 inner' disk') :
    Admissible libs world op := by
  have hanswered := hfits.answered
  generalize (step libs world op).2 = answer at hanswered heffect
  cases op with
  | insert registration nonce writes =>
      refine ⟨hfits.room.1, fun store' hstore' => ⟨fun hquarantined => ?_, fun _ => ?_⟩⟩
      · cases hstore.symm.trans hstore'
        rw [hstanding] at hquarantined
        cases hquarantined
      · cases heffect with
        | inserted hunlocked hledger hcache hwrite => simp [hwrite, WriteOutcome.lands]
        | refused _ _ herror => simp [hanswered] at herror
        | insertLedgerFailed => simp [Answer.isError, isOk] at hanswered
        | insertSectioned => simp [Answer.isError, isOk] at hanswered
        | insertSealFailed => simp [Answer.isError, isOk] at hanswered
  | _ => trivial

theorem InsertFits.rereadable {registration : Registration} {entry : SealedEntry} {uuid : Bytes16}
    (hfits : InsertFits libs registration keys uuid inner file entry)
    (hmirrors : Mirrors libs passwords inner disk) (hsealed : inner.sealedStore = some file)
    (hspelled : file.storeUuid = bytesToHex uuid.toList)
    (hcount : file.credentials.size ≤ maxCredentials) :
    Rereadable libs keys uuid (insertSection registration.hash inner) := by
  refine @rereadable_of_fits libs keys _ (withEntry file registration.hash entry) uuid ?_ ?_ ?_
    hfits.allocations ?_
  · exact hmirrors.standing_insertSection registration.hash
  · exact fun hash => sections_subset_insertSection (fun _ => hmirrors.listed hsealed) entry
  · exact size_withEntry_le hcount hfits.place
  · intro file' hfile
    cases hsealed.symm.trans hfile
    exact hspelled

theorem kept_inserted {registration : Registration} {session : Session} {uuid : Bytes16}
    {entry : SealedEntry} (hcoherent : Coherent libs inner) (hkept : Kept libs passwords disk)
    (hinner : InStep libs passwords inner disk) (hunlocked : Unlocked inner session uuid)
    (hsealed : inner.sealedStore = some file)
    (hfits : InsertFits libs registration session.keys uuid inner file entry)
    (hcoherent' : Coherent libs (committedInner libs registration session.keys uuid inner file entry))
    (hsound : ∀ hash, ∃ uuid', OnDisk libs session.password hash session.keys uuid'
      (committedDisk libs registration ⟨.ok, .ok, .ok⟩ session.keys uuid inner file entry disk)) :
    Kept libs passwords
        (committedDisk libs registration ⟨.ok, .ok, .ok⟩ session.keys uuid inner file entry disk) ∧
      Mirrors libs passwords (committedInner libs registration session.keys uuid inner file entry)
        (committedDisk libs registration ⟨.ok, .ok, .ok⟩ session.keys uuid inner file entry disk) := by
  have hmirrors := hinner.mirrors
  have hspelled := hmirrors.spelled hkept.adoptable hcoherent hunlocked hsealed
  obtain ⟨_, -, -, hcount, hformat, hversion⟩ :=
    readSealed_eq_some (hmirrors.sealedStore.symm.trans hsealed)
  have hreread := hfits.rereadable hmirrors hsealed hspelled hcount
  have hwritten : LedgerWritten libs session uuid (insertSection registration.hash inner)
      (committedInner libs registration session.keys uuid inner file entry)
      (committedDisk libs registration ⟨.ok, .ok, .ok⟩ session.keys uuid inner file entry disk)
      (withEntry file registration.hash entry) :=
    { sealedText := readSealed_text hfits.sealedText (size_withEntry_le hcount hfits.place) hformat
        hversion
      allocations := readLedger_of_rereadable (hinner.rows.insertSection _) hreread
      sealedStore := rfl
      unlocked := hunlocked.session
      sections := rfl
      rawSections := rfl
      rootMacRaw := rfl
      quarantined := rfl }
  have hsession := hmirrors.session session file hunlocked.session hsealed
  exact ⟨kept_of_written hwritten hcoherent' hspelled hsession hsound
      (.inr ⟨_, _, rfl, hfits.cache⟩) hkept.adoptable.oldFormat,
    mirrors_of_written hwritten hspelled (hmirrors.standing_insertSection _)
      (fun hash => sections_subset_insertSection (fun _ => hmirrors.listed hsealed) entry) hsession⟩

theorem kept_reserved {args : ReserveArgs} {session : Session} {uuid : Bytes16} {slot : UInt64}
    {alloc : AllocationState} (hcoherent : Coherent libs inner) (hkept : Kept libs passwords disk)
    (hinner : InStep libs passwords inner disk) (hunlocked : Unlocked inner session uuid)
    (hsealed : inner.sealedStore = some file)
    (hchosen : chooseSlot args inner = .ok (slot, alloc))
    (hreread : Rereadable libs session.keys uuid (withCounters inner args.hash alloc))
    (hlisted : ∀ hash, hash ∈ (withCounters inner args.hash alloc).sections →
      hash ∈ file.credentials)
    (hcoherent' : Coherent libs
      (ledgerInner libs .ok session.keys uuid (withCounters inner args.hash alloc)))
    (hsound : ∀ hash, ∃ uuid', OnDisk libs session.password hash session.keys uuid'
      (ledgerDisk libs .ok session.keys uuid (withCounters inner args.hash alloc) disk)) :
    Kept libs passwords
        (ledgerDisk libs .ok session.keys uuid (withCounters inner args.hash alloc) disk) ∧
      Mirrors libs passwords
        (ledgerInner libs .ok session.keys uuid (withCounters inner args.hash alloc))
        (ledgerDisk libs .ok session.keys uuid (withCounters inner args.hash alloc) disk) := by
  have hmirrors := hinner.mirrors
  have hspelled := hmirrors.spelled hkept.adoptable hcoherent hunlocked hsealed
  have hread : readSealed disk.sealedText = some file := hmirrors.sealedStore.symm.trans hsealed
  have hwritten : LedgerWritten libs session uuid (withCounters inner args.hash alloc)
      (ledgerInner libs .ok session.keys uuid (withCounters inner args.hash alloc))
      (ledgerDisk libs .ok session.keys uuid (withCounters inner args.hash alloc) disk) file :=
    { sealedText := hread
      allocations := readLedger_of_rereadable (hinner.rows.withCounters hchosen) hreread
      sealedStore := hsealed
      unlocked := hunlocked.session
      sections := rfl
      rawSections := rfl
      rootMacRaw := rfl
      quarantined := rfl }
  have hsession := hmirrors.session session file hunlocked.session hsealed
  exact ⟨kept_of_written hwritten hcoherent' hspelled hsession hsound hkept.adoptable.cache
      hkept.adoptable.oldFormat,
    mirrors_of_written hwritten hspelled hmirrors.standing hlisted hsession⟩

/-- A reservation counts for a listed membership only. -/
theorem listed_withCounters {args : ReserveArgs} {slot : UInt64} {alloc : AllocationState}
    (hmirrors : Mirrors libs passwords inner disk) (hsealed : inner.sealedStore = some file)
    (hchosen : chooseSlot args inner = .ok (slot, alloc)) {hash : String}
    (hmember : hash ∈ (withCounters inner args.hash alloc).sections) : hash ∈ file.credentials := by
  obtain ⟨before, _, hspec⟩ := chooseSlot_spec hchosen
  simp only [withCounters, Std.ExtTreeMap.mem_insert, Std.compare_eq_iff_eq] at hmember
  rcases hmember with rfl | hold
  · exact hmirrors.listed hsealed (OrderedMap.mem_iff_exists.mpr ⟨_, hspec.counters⟩)
  · exact hmirrors.listed hsealed hold

/-- Every effect of a call that fits keeps directory and memory in step. -/
theorem inStep_effect (hlaws : Laws libs) (hdistinct : Distinguishes libs passwords)
    {world : World} {op : Op} {store : Store} {inner' : Inner} {disk' : Disk}
    (hfits : Fits libs passwords world op) (hstore : world.store = some store)
    (hcoherent : Coherent libs store.inner) (hkept : Kept libs passwords world.disk)
    (hinner : InStep libs passwords store.inner world.disk)
    (heffect : Effect libs store.inner world.disk op (step libs world op).2 inner' disk') :
    Kept libs passwords disk' ∧ InStep libs passwords inner' disk' := by
  have hmirrors := hinner.mirrors
  have hadmissible := admissible_of_fits hstore hmirrors.standing hfits heffect
  have htidy' := tidy_effect hlaws hstore hadmissible hcoherent hinner.tidy heffect
  have hrows' := hinner.rows.effect heffect
  have hcoherent' := hcoherent.effect heffect
  -- a ledger write in good standing leaves every membership sound
  have hwrite : ∀ session, inner'.session = some session →
      wroteLedger op (step libs world op).2 = true → WritesRereadable libs world op →
      (∀ hash, inner'.isQuarantined hash = false) →
      ∀ hash, ∃ uuid, OnDisk libs session.password hash session.keys uuid disk' := by
    intro session hsession hwrote hreread hstanding hash
    obtain ⟨uuid, hdisk, -⟩ := sound_after_write hlaws hstore hadmissible hcoherent hinner.tidy
      hinner.rows hwrote hreread hsession (hstanding hash) heffect
    exact ⟨uuid, hdisk⟩
  suffices hsteps : Kept libs passwords disk' ∧ Mirrors libs passwords inner' disk' from
    ⟨hsteps.1, htidy', hrows', hsteps.2⟩
  have hanswered := hfits.answered
  have hroom := hfits.room
  generalize (step libs world op).2 = answer at hanswered heffect hwrite
  cases heffect with
  | refused _ _ herror =>
      rw [hanswered] at herror
      cases herror
  | closed => exact ⟨hkept, hmirrors.sealedStore, hmirrors.sections, hmirrors.rawSections,
      hmirrors.rootMacRaw, hmirrors.standing, by simp⟩
  | locked => exact ⟨hkept, hmirrors.sealedStore, hmirrors.sections, hmirrors.rawSections,
      hmirrors.rootMacRaw, hmirrors.standing, by simp⟩
  | provisionFailed => simp [Answer.isError, isOk] at hanswered
  | provisioned hprovisions =>
      exact kept_provisioned hkept hmirrors hroom.1 hprovisions
        (hroom.2 store _ _ _ hstore hprovisions)
  | @authenticated password _ _ file uuid keys _ hauth =>
      have hstanding := standing_authenticatedInner hdistinct hkept hmirrors hcoherent hcoherent'
        hroom.1 hauth
      refine ⟨hkept, hmirrors.sealedStore, hmirrors.sections, hmirrors.rawSections,
        hmirrors.rootMacRaw, hstanding, ?_⟩
      intro session file' hsession hfile
      obtain rfl := Option.some.inj hsession
      cases hauth.sealedStore.symm.trans hfile
      exact ⟨hroom.1, hauth.verifier⟩
  | insertLedgerFailed => simp [Answer.isError, isOk] at hanswered
  | insertSectioned => simp [Answer.isError, isOk] at hanswered
  | insertSealFailed => simp [Answer.isError, isOk] at hanswered
  | @inserted registration nonce writes session uuid file entry hunlocked hledger hcache hsealOk
      hsealed hentry =>
      obtain rfl : writes = ⟨.ok, .ok, .ok⟩ := by
        cases writes
        simp_all
      have hfits := hroom.2 store session uuid file entry hstore hunlocked hsealed hentry
      refine kept_inserted hcoherent hkept hinner hunlocked hsealed hfits hcoherent' ?_
      refine hwrite session hunlocked.session rfl ?_ ?_
      · intro store' session' uuid' written hstore' hunlocked' hwritten
        cases hstore.symm.trans hstore'
        cases hunlocked.session.symm.trans hunlocked'.session
        cases hunlocked.storeUuid.symm.trans hunlocked'.storeUuid
        obtain rfl := Option.some.inj hwritten
        obtain ⟨_, -, -, hcount, -, -⟩ :=
          readSealed_eq_some (hmirrors.sealedStore.symm.trans hsealed)
        exact hfits.rereadable hmirrors hsealed
          (hmirrors.spelled hkept.adoptable hcoherent hunlocked hsealed) hcount
      · exact hmirrors.standing_insertSection registration.hash
  | reserveFailed => simp [Answer.isError, isOk] at hanswered
  | @reserved args session uuid slot alloc hunlocked hchosen =>
      obtain ⟨file, hsealed⟩ := Option.isSome_iff_exists.mp
        (hcoherent.sessionSealed (by simp [hunlocked.session]))
      obtain ⟨_, -, -, hcount, -, -⟩ :=
        readSealed_eq_some (hmirrors.sealedStore.symm.trans hsealed)
      have hlisted : ∀ hash, hash ∈ (withCounters store.inner args.hash alloc).sections →
          hash ∈ file.credentials := fun hash => listed_withCounters hmirrors hsealed hchosen
      have hspelled := hmirrors.spelled hkept.adoptable hcoherent hunlocked hsealed
      have hreread : Rereadable libs session.keys uuid (withCounters store.inner args.hash alloc) := by
        refine rereadable_of_fits hmirrors.standing hlisted hcount
          (hroom store session uuid slot alloc hstore hunlocked hchosen) fun file' hfile => ?_
        cases hsealed.symm.trans hfile
        exact hspelled
      refine kept_reserved hcoherent hkept hinner hunlocked hsealed hchosen hreread hlisted
        hcoherent' ?_
      refine hwrite session hunlocked.session rfl ?_ hmirrors.standing
      intro store' session' uuid' written hstore' hunlocked' hwritten
      cases hstore.symm.trans hstore'
      cases hunlocked.session.symm.trans hunlocked'.session
      cases hunlocked.storeUuid.symm.trans hunlocked'.storeUuid
      simp only [HealthyWrites.written, hchosen, Option.some.injEq] at hwritten
      exact hwritten ▸ hreread
  | cacheUpdated => exact hroom.elim

/-! ## Runs and the next open -/

theorem disk_eq_of_opened {env : OpenEnv} {disk disk' : Disk} {cache : StringMap CacheState}
    (hadoptable : Adoptable disk) (hopened : Opened libs env disk disk' cache) : disk' = disk := by
  have hlock : env.lock = .taken := by
    have hopens := hopened.opens
    simp only [openStore, hadoptable.oldFormat, Bool.false_eq_true, false_and, if_false] at hopens
    cases hlock : env.lock with
    | taken => rfl
    | wouldBlock error => simp [hlock] at hopens
    | failed error => simp [hlock] at hopens
  obtain ⟨_, hopens⟩ := @openStore_of_adoptable libs env disk hlock hadoptable
  exact congrArg Prod.snd (hopened.opens.symm.trans hopens)

theorem inStep_step (hlaws : Laws libs) (hdistinct : Distinguishes libs passwords) (world : World)
    (op : Op) (hworld : world.Satisfies libs (Kept libs passwords) (InStep libs passwords))
    (hfits : Fits libs passwords world op) :
    (step libs world op).1.Satisfies libs (Kept libs passwords) (InStep libs passwords) := by
  refine step_satisfies hworld (fun _ hkept => hkept) (fun _ _ _ hinner => hinner) ?_ ?_
  · intro env disk disk' cache hkept hopened
    obtain rfl := disk_eq_of_opened hkept.adoptable hopened
    exact ⟨hkept, tidy_openedInner rfl, rowsFit_openedInner, mirrors_openedInner hkept cache⟩
  · intro store inner' disk' hstore hcoherent hkept hinner heffect
    exact inStep_effect hlaws hdistinct hfits hstore hcoherent hkept hinner heffect

/-- An empty directory is kept. -/
theorem kept_empty : Kept libs passwords {} where
  adoptable := ⟨.inl rfl, .inl rfl, .inl rfl, rfl, by simp⟩
  sealedUnder := by simp

/-- The same memberships with the same counters. -/
structure SameMemberships (before after : Inner) : Prop where
  credentials : ∀ hash : String, (after.sealedStore.bind fun file => file.credentials[hash]?) =
    before.sealedStore.bind fun file => file.credentials[hash]?
  sections : after.sections = before.sections

/-- Where no membership is listed, none is looked up. -/
theorem getElem?_credentials_of_empty (hempty : inner.credentialCount = 0) (hash : String) :
    (inner.sealedStore.bind fun file => file.credentials[hash]?) = none := by
  cases hsealed : inner.sealedStore with
  | none => rfl
  | some file =>
      have hsize : file.credentials.size = 0 := by simpa [Inner.credentialCount, hsealed] using hempty
      rw [← Std.ExtTreeMap.eq_empty_iff_size_eq_zero] at hsize
      simp [hsize]

/-- The unlock after an open: whatever it answers, memberships and counters are
those of the directory and nothing moves. -/
theorem unlock_reopened (hdistinct : Distinguishes libs passwords)
    (hkept : Kept libs passwords disk) {cache : StringMap CacheState} {random : UnlockRandom}
    {write : WriteOutcome} {answer : Answer} {inner' : Inner} {disk' : Disk}
    (hpassword : password ∈ passwords)
    (hcoherent : Coherent libs
      (openedInner libs (readSealed disk.sealedText) (readLedger disk.allocations) cache))
    (heffect : Effect libs
      (openedInner libs (readSealed disk.sealedText) (readLedger disk.allocations) cache) disk
      (.unlock password random write) answer inner' disk') :
    disk'.aside = disk.aside ∧ SameMemberships (reopened libs disk) inner' ∧
      ∀ hash, inner'.isQuarantined hash = false := by
  have hmirrors := @mirrors_openedInner libs passwords disk hkept cache
  have hcoherent' := hcoherent.effect heffect
  cases heffect with
  | refused => exact ⟨rfl, ⟨fun _ => rfl, rfl⟩, hmirrors.standing⟩
  | provisionFailed => exact ⟨rfl, ⟨fun _ => rfl, rfl⟩, hmirrors.standing⟩
  | provisioned hprovisions =>
      refine ⟨rfl, ⟨fun hash => ?_, rfl⟩, hmirrors.standing⟩
      have hnone : ((reopened libs disk).sealedStore.bind fun file => file.credentials[hash]?) =
          none := getElem?_credentials_of_empty hprovisions.empty hash
      rw [hnone]
      simp [provisionedFile, SealedFile.provision]
  | authenticated unlocked hauth =>
      exact ⟨rfl, ⟨fun _ => rfl, rfl⟩,
        standing_authenticatedInner hdistinct hkept hmirrors hcoherent hcoherent' hpassword hauth⟩

/-- A session's password authenticates against the directory of its store. -/
theorem authenticated_reopened {session : Session} (hcoherent : Coherent libs inner)
    (hkept : Kept libs passwords disk) (hmirrors : Mirrors libs passwords inner disk)
    (hsession : inner.session = some session) (hcount : 0 < inner.credentialCount)
    (cache : StringMap CacheState) :
    ∃ file uuid, Authenticated libs session.password
      (openedInner libs (readSealed disk.sealedText) (readLedger disk.allocations) cache) file uuid
      session.keys := by
  obtain ⟨file, hsealed⟩ := Option.isSome_iff_exists.mp
    (hcoherent.sessionSealed (by simp [hsession]))
  have hread : readSealed disk.sealedText = some file := hmirrors.sealedStore.symm.trans hsealed
  obtain ⟨uuid, hspelled⟩ := hkept.adoptable.spelling file hread
  refine ⟨file, uuid, rfl, hread, ?_, hcoherent.sessionKeys session file hsession hsealed,
    (hmirrors.session session file hsession hsealed).2, ?_⟩
  · simp only [openedInner, hread, Option.bind_some]
    rw [hspelled, parseUuid_bytesToHex]
  · rw [Bool.eq_false_iff, Ne, allQuarantined_iff hread]
    intro hall
    have hnonempty : file.credentials ≠ ∅ := by
      intro hempty
      simp [Inner.credentialCount, hsealed, hempty] at hcount
    rw [Ne, Std.ExtTreeMap.eq_empty_iff_forall_not_mem] at hnonempty
    push Not at hnonempty
    obtain ⟨hash, hmember⟩ := hnonempty
    have hstanding := @standing_openedInner libs passwords disk hkept cache hash
    rw [isQuarantined_iff.mpr (.inl (hall hash hmember))] at hstanding
    cases hstanding

/-- Let a run start from an empty directory and every call succeed and leave
room.  The durable files are within the caps of the next open; a close, an open
and an unlock with the session's password move nothing aside, quarantine nobody
and find the same memberships and counters, and with at least one membership
the unlock succeeds. -/
theorem rereads_what_it_writes (libs : Libraries) (hlaws : Laws libs) (passwords : Set String)
    (hdistinct : Distinguishes libs passwords) (ops : List Op)
    (hguard : Run.Guarded (step libs) (Fits libs passwords) {} ops) :
    let reached := Run.run (step libs) {} ops
    WithinCaps reached.disk ∧
      ∀ store session env random write, reached.store = some store →
        store.inner.session = some session → env.lock = .taken →
        let final := Run.run (step libs) reached
          [.close, .openStore env, .unlock session.password random write]
        final.disk.aside = reached.disk.aside ∧
          ∃ store', final.store = some store' ∧ SameMemberships store.inner store'.inner ∧
            (∀ hash, store'.inner.isQuarantined hash = false) ∧
            (0 < store.inner.credentialCount →
              final.disk = reached.disk ∧ store'.inner.session = some session) := by
  intro reached
  have hreached : reached.Satisfies libs (Kept libs passwords) (InStep libs passwords) :=
    Run.invariant_run (inStep_step hlaws hdistinct) ⟨kept_empty, by simp⟩ hguard
  refine ⟨hreached.disk.adoptable.withinCaps, ?_⟩
  intro store session env random write hstore hsession hlock final
  obtain ⟨hcoherent, -, -, hmirrors⟩ := hreached.store store hstore
  have hkept := hreached.disk
  obtain ⟨cache, hopens⟩ := @openStore_of_adoptable libs env reached.disk hlock hkept.adoptable
  have hpassword : session.password ∈ passwords := by
    obtain ⟨file, hsealed⟩ := Option.isSome_iff_exists.mp
      (hcoherent.sessionSealed (by simp [hsession]))
    exact (hmirrors.session session file hsession hsealed).1
  let opened := openedInner libs (readSealed reached.disk.sealedText)
    (readLedger reached.disk.allocations) cache
  have hfinal : final = (step libs ⟨reached.disk, some (publish opened)⟩
      (.unlock session.password random write)).1 := by
    have hclosed : (step libs reached .close).1 = ⟨reached.disk, some (close store)⟩ := by
      simp only [step, hstore, Option.map_some]
    have hlockOutcome : (⟨reached.disk, some (close store)⟩ : World).lockOutcome env = env.lock :=
      rfl
    have hopen : (step libs ⟨reached.disk, some (close store)⟩ (.openStore env)).1 =
        ⟨reached.disk, some (publish opened)⟩ := by
      simp only [step, hlockOutcome, hopens, opened]
    simp only [final, Run.run_cons, Run.run_nil, hclosed, hopen]
  have hcoherent' : Coherent libs opened := coherent_openedInner fun file hfile => by
    obtain ⟨uuid, hspelled⟩ := hkept.adoptable.spelling file hfile
    exact ⟨uuid, by rw [hspelled, parseUuid_bytesToHex]⟩
  obtain ⟨store', disk', answer, hstep, heffect⟩ := @step_effect libs
    ⟨reached.disk, some (publish opened)⟩ (publish opened) rfl hcoherent'
    (.unlock session.password random write) (by simp) (by simp)
  obtain ⟨haside, hsame, hstanding⟩ := unlock_reopened hdistinct hkept hpassword hcoherent' heffect
  rw [hstep] at hfinal
  rw [hfinal]
  refine ⟨haside, store', rfl, ⟨fun hash => ?_, ?_⟩, hstanding, fun hcount => ?_⟩
  · rw [hsame.credentials hash, hmirrors.sealedStore]
    rfl
  · rw [hsame.sections, hmirrors.sections]
  · obtain ⟨file, uuid, hauth⟩ := authenticated_reopened hcoherent hkept hmirrors hsession hcount
      cache
    have hopenedCount : 0 < (publish opened).inner.credentialCount := by
      have hsealed : opened.sealedStore = store.inner.sealedStore := hmirrors.sealedStore.symm
      simpa [publish, Inner.credentialCount, hsealed] using hcount
    obtain ⟨unlocked, hunlock⟩ := @unlock_of_authenticated libs session.password random write
      (publish opened) reached.disk file uuid session.keys hauth hopenedCount
    simp only [step, withReply, hunlock, Prod.mk.injEq, World.mk.injEq, Option.some.injEq] at hstep
    obtain ⟨⟨rfl, rfl⟩, -⟩ := hstep
    exact ⟨rfl, rfl⟩

/-! ## Where an insert exceeds the caps -/

/-- A successful insert from within the caps stays within them exactly when a
new membership finds a free place and both durable texts fit. -/
theorem withinCaps_committedDisk_iff {registration : Registration} {session : Session}
    {uuid : Bytes16} {entry : SealedEntry} (hinner : InStep libs passwords inner disk)
    (hsealed : inner.sealedStore = some file) :
    WithinCaps (committedDisk libs registration ⟨.ok, .ok, .ok⟩ session.keys uuid inner file entry
        disk) ↔
      (registration.hash ∈ file.credentials ∨ file.credentials.size < maxCredentials) ∧
        libs.sealedLength (withEntry file registration.hash entry) ≤ maxFileBytes ∧
        libs.allocationsLength (ledgerFile libs session.keys uuid
          (insertSection registration.hash inner)) ≤ maxFileBytes := by
  have hmirrors := hinner.mirrors
  obtain ⟨_, -, -, hcount, -, -⟩ := readSealed_eq_some (hmirrors.sealedStore.symm.trans hsealed)
  constructor
  · intro hcaps
    obtain ⟨size, file', htext, hsize, hsealedCaps⟩ := hcaps.sealedText.resolve_left (by
      simp [committedDisk, writeText, WriteOutcome.lands])
    obtain ⟨size', ledger, hledger, hsize', -⟩ := hcaps.allocations.resolve_left (by
      simp [committedDisk, sectionedDisk, cacheDisk, ledgerDisk, writeText, WriteOutcome.lands])
    cases htext
    cases hledger
    refine ⟨?_, hsize, hsize'⟩
    have hnew := checkSealedCaps_eq_ok_iff.mp hsealedCaps
    by_contra hnone
    rw [not_or] at hnone
    simp only [withEntry, Std.ExtTreeMap.size_insert, Std.ExtTreeMap.contains_iff_mem,
      if_neg hnone.1] at hnew
    exact hnone.2 hnew
  · rintro ⟨hplace, hsize, hsize'⟩
    refine ⟨.inr ⟨_, _, rfl, hsize, checkSealedCaps_eq_ok_iff.mpr
      (size_withEntry_le hcount hplace)⟩, .inr ⟨_, _, rfl, hsize', ?_⟩⟩
    refine checkAllocationsCaps_eq_ok_iff.mpr ⟨?_, fun _ _ hstored =>
      (hinner.rows.insertSection _).written session.keys uuid hstored⟩
    calc (writtenSections libs session.keys uuid (insertSection registration.hash inner)).size
        ≤ (insertSection registration.hash inner).sections.size :=
          Std.ExtTreeMap.size_filterMap_le_size
      _ ≤ (withEntry file registration.hash entry).credentials.size :=
          OrderedMap.size_le_of_forall_mem fun hash =>
            sections_subset_insertSection (fun _ => hmirrors.listed hsealed) entry
      _ ≤ maxSections := size_withEntry_le hcount hplace

/-- Memberships inserted one after the other, each answered without an error,
until the caps are exceeded: no open adopts the sealed file. -/
theorem exceeded_of_inserts {count : ℕ} (hmany : maxCredentials < count) (hcount : count ≤ 65536) :
    let ops := [.openStore Reference.env, Reference.unlockOp] ++
      (List.range count).map Reference.insertOp
    let reached := Run.run (step Reference.libraries) {} ops
    Run.Guarded (step Reference.libraries)
        (fun world op => (step Reference.libraries world op).2.isError = false) {} ops ∧
      (∃ store, reached.store = some store ∧ store.inner.credentialCount = count) ∧
      ¬ WithinCaps reached.disk ∧
      ∀ env store, (openStore Reference.libraries env reached.disk).1 = .ok store →
        store.inner.sealedStore = none := by
  intro ops reached
  obtain ⟨inner, disk, file, hrun, hanswered, -, hsealed, htext, hsize, -⟩ :=
    Reference.run_inserts hcount
  have hprovisioned := Reference.run_provisioned
  have hreached : reached = ⟨disk, some (publish inner)⟩ := by
    simp only [reached, ops]
    rw [Run.run_append, hprovisioned, hrun]
  have hcaps : checkSealedCaps file ≠ .ok () := by
    rw [Ne, checkSealedCaps_eq_ok_iff, hsize]
    omega
  have hread : readSealed disk.sealedText = none := by
    rw [htext, readSealed, if_neg]
    omega
  refine ⟨?_, ⟨publish inner, by rw [hreached], ?_⟩, ?_, ?_⟩
  · rw [Run.guarded_append, hprovisioned]
    exact ⟨⟨Reference.answered_open, Reference.answered_unlock, trivial⟩, hanswered⟩
  · simp [publish, Inner.credentialCount, hsealed, hsize]
  · rw [hreached]
    intro hwithin
    obtain ⟨size, file', htext', -, hok⟩ := hwithin.sealedText.resolve_left (by simp [htext])
    cases htext.symm.trans htext'
    exact hcaps hok
  · intro env store hopen
    rw [hreached] at hopen
    rcases openStore_cases Reference.libraries env disk with ⟨error, heq⟩ | ⟨cache, disk', hopened⟩
    · rw [heq] at hopen
      cases hopen
    · rw [hopened.opens, hread] at hopen
      cases hopen
      rfl

/-- One membership more than the cap. -/
theorem capacity_exceeded :
    let ops := [.openStore Reference.env, Reference.unlockOp] ++
      (List.range 1025).map Reference.insertOp
    let reached := Run.run (step Reference.libraries) {} ops
    Run.Guarded (step Reference.libraries)
        (fun world op => (step Reference.libraries world op).2.isError = false) {} ops ∧
      (∃ store, reached.store = some store ∧ store.inner.credentialCount = 1025) ∧
      ¬ WithinCaps reached.disk ∧
      ∀ env store, (openStore Reference.libraries env reached.disk).1 = .ok store →
        store.inner.sealedStore = none :=
  exceeded_of_inserts (by decide) (by decide)

theorem insertFits_first :
    InsertFits Reference.libraries (Reference.registration 1) Reference.keys Reference.uuid
      Reference.provisionedInner
      (provisionedFile Reference.params Reference.keys Reference.uuid) (Reference.entry 1) where
  place := .inr (by simp [provisionedFile, SealedFile.provision, maxCredentials])
  sealedText := by
    have hsize := Reference.sealedLength_member
    rw [Reference.memberFile, Reference.member] at hsize
    exact hsize
  allocations := Reference.allocationsLength_first
  cache := Reference.cacheLength_first

/-- The guarded theorem on the first insert into an empty directory. -/
theorem rereads_what_it_writes_first :
    let reached := Run.run (step Reference.libraries) {}
      [.openStore Reference.env, Reference.unlockOp, Reference.insertOp 1]
    WithinCaps reached.disk ∧
      ∀ store session env random write, reached.store = some store →
        store.inner.session = some session → env.lock = .taken →
        let final := Run.run (step Reference.libraries) reached
          [.close, .openStore env, .unlock session.password random write]
        final.disk.aside = reached.disk.aside ∧
          ∃ store', final.store = some store' ∧ SameMemberships store.inner store'.inner ∧
            (∀ hash, store'.inner.isQuarantined hash = false) ∧
            (0 < store.inner.credentialCount →
              final.disk = reached.disk ∧ store'.inner.session = some session) := by
  refine rereads_what_it_writes Reference.libraries Reference.laws {"pw"} ?_
    [.openStore Reference.env, Reference.unlockOp, Reference.insertOp 1] ?_
  · rintro first hfirst second hsecond params keys keys' hkeys hkeys' -
    rw [Set.mem_singleton_iff.mp hfirst] at hkeys
    rw [Set.mem_singleton_iff.mp hsecond] at hkeys'
    exact Except.ok.inj (hkeys.symm.trans hkeys')
  · have hprovisioned := Reference.run_provisioned
    rw [publish] at hprovisioned
    have hinsert := @Reference.step_insertOp Reference.provisionedInner
      (buildSnapshot Reference.provisionedInner) Reference.provisionedDisk "pw" _
      Reference.unlocked_provisionedInner rfl 1
    have hsplit : [.openStore Reference.env, Reference.unlockOp, Reference.insertOp 1] =
        [.openStore Reference.env, Reference.unlockOp] ++ [Reference.insertOp 1] := rfl
    rw [hsplit, Run.guarded_append, hprovisioned]
    refine ⟨⟨⟨Reference.answered_open, trivial⟩, ⟨Reference.answered_unlock, rfl, ?_⟩, trivial⟩,
      ⟨?_, ?_⟩, trivial⟩
    · intro store params keys uuid hstore hprovisions
      obtain rfl := Option.some.inj hstore
      obtain rfl : Reference.params = params := Except.ok.inj hprovisions.generated
      obtain rfl : Reference.keys = keys :=
        Except.ok.inj (Reference.deriveKeys_params.symm.trans hprovisions.derived)
      obtain rfl : Reference.uuid = uuid := Option.some.inj hprovisions.drawn
      have hsize := Reference.sealedLength_provisioned
      exact hsize.trans (by decide)
    · rw [hinsert]
      rfl
    · refine ⟨Reference.recomputes_registration 1, ?_⟩
      intro store session uuid file entry hstore hunlocked hsealed hentry
      obtain rfl := Option.some.inj hstore
      obtain rfl : ⟨"pw", Reference.keys⟩ = session := Option.some.inj hunlocked.session
      obtain rfl : Reference.uuid = uuid := Option.some.inj hunlocked.storeUuid
      obtain rfl : provisionedFile Reference.params Reference.keys Reference.uuid = file :=
        Option.some.inj hsealed
      obtain rfl := Reference.eq_entry hentry
      exact insertFits_first

end LogosRln.SealedStore.Capacity
