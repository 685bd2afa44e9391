import LogosRln.Core.Run
import LogosRln.SealedStore.Specs

/-!
# The store as a machine

One persistence directory and at most one store on it.  Calls arrive in any
order, writes succeed or fail as the environment decides, and a crash drops the
store and keeps the directory.  A crash between two writes of one call is that
call with the second write failing without landing, followed by the crash.
-/

namespace LogosRln.SealedStore

open RegistryId Crypto Format Lifecycle RateLimit Files

structure World where
  disk : Disk := {}
  store : Option Store := none

inductive Op where
  | openStore (env : OpenEnv)
  | close
  | lock
  | unlock (password : String) (random : UnlockRandom) (write : WriteOutcome)
  | insert (registration : Registration) (nonce : Option Bytes24) (writes : InsertWrites)
  | reserve (args : ReserveArgs) (write : WriteOutcome)
  | updateCache (hash : String) (mutate : CacheState → CacheState) (now : UInt64)
      (write : WriteOutcome)
  | crash

inductive Answer where
  | opened (result : Except OpenError Unit)
  | unlocked (result : Except ApiError ℕ)
  | inserted (result : Except ApiError Unit)
  | reserved (result : Except ApiError UInt64)
  | cacheUpdated (result : Except ApiError MembershipState)
  | done
  deriving DecidableEq

/-- `current_or_uninit` without a store. -/
def uninitialized : ApiError :=
  .internal "store not initialized (no instance persistence path from the host, unreadable keystore, or another process holds the keystore lock)"

/-- The lock a second `open` meets while a store of this directory holds it. -/
def World.lockOutcome (world : World) (env : OpenEnv) : LockOutcome :=
  if world.store.any fun store => store.inner.lockHeld then
    .wouldBlock "another process holds the lock on rln_keystore.lock"
  else env.lock

def withReply {A : Type} (answer : Except ApiError A → Answer) (reply : Reply A) :
    World × Answer :=
  (⟨reply.disk, some reply.store⟩, answer reply.result)

def step (libs : Libraries) (world : World) : Op → World × Answer
  | .openStore env =>
      match openStore libs { env with lock := world.lockOutcome env } world.disk with
      | (.ok store, disk) => (⟨disk, some store⟩, .opened (.ok ()))
      | (.error error, disk) => (⟨disk, world.store⟩, .opened (.error error))
  | .close => ({ world with store := world.store.map close }, .done)
  | .lock => ({ world with store := world.store.map lock }, .done)
  | .unlock password random write =>
      match world.store with
      | none => (world, .unlocked (.error uninitialized))
      | some store =>
          withReply .unlocked (unlock libs password random write store world.disk)
  | .insert registration nonce writes =>
      match world.store with
      | none => (world, .inserted (.error uninitialized))
      | some store =>
          withReply .inserted (insert libs registration nonce writes store world.disk)
  | .reserve args write =>
      match world.store with
      | none => (world, .reserved (.error uninitialized))
      | some store =>
          withReply .reserved (reserveMessageId libs args write store world.disk)
  | .updateCache hash mutate now write =>
      match world.store with
      | none => (world, .cacheUpdated (.error uninitialized))
      | some store =>
          withReply .cacheUpdated (updateCache libs hash mutate now write store world.disk)
  | .crash => ({ world with store := none }, .done)

variable {libs : Libraries}

/-! ## What every reachable store satisfies -/

/-- Memory is consistent with itself, whatever the files held: a session comes
with the lock, a provisioned header and the keys its password derives; only
credentials are quarantined; and a credential in good census standing has
counters. -/
structure Coherent (libs : Libraries) (inner : Inner) : Prop where
  sessionHeld : inner.session.isSome → inner.lockHeld = true
  storeUuid : inner.storeUuid = inner.sealedStore.bind fun file => parseUuid file.storeUuid
  uuidParses : ∀ file, inner.sealedStore = some file → (parseUuid file.storeUuid).isSome
  sessionSealed : inner.session.isSome → inner.sealedStore.isSome
  sessionKeys : ∀ session file, inner.session = some session → inner.sealedStore = some file →
    deriveKeys libs session.password file.kdf = .ok session.keys
  quarantined : ∀ hash, inner.isQuarantined hash = true → inner.hasCredential hash = true
  sectioned : ∀ hash, inner.hasCredential hash = true → hash ∉ inner.censusQuarantined →
    hash ∈ inner.sections

theorem hasCredential_iff {inner : Inner} {hash : String} :
    inner.hasCredential hash = true ↔
      ∃ file, inner.sealedStore = some file ∧ hash ∈ file.credentials := by
  cases hsealed : inner.sealedStore with
  | none => simp [Inner.hasCredential, hsealed]
  | some file => simp [Inner.hasCredential, hsealed]

theorem credentialCount_pos {inner : Inner} {hash : String}
    (hmember : inner.hasCredential hash = true) : 0 < inner.credentialCount := by
  obtain ⟨file, hsealed, hmember⟩ := hasCredential_iff.mp hmember
  have hnonempty : file.credentials.size ≠ 0 := by
    rw [Ne, ← Std.ExtTreeMap.eq_empty_iff_size_eq_zero]
    rintro hempty
    simp [hempty] at hmember
  simpa [Inner.credentialCount, hsealed] using Nat.pos_of_ne_zero hnonempty

theorem isQuarantined_iff {inner : Inner} {hash : String} :
    inner.isQuarantined hash = true ↔
      hash ∈ inner.censusQuarantined ∨ hash ∈ inner.keyedQuarantined := by
  simp [Inner.isQuarantined]

/-- A parsed uuid is the one provisioned. -/
@[simp]
theorem parseUuid_bytesToHex (uuid : Bytes16) : parseUuid (bytesToHex uuid.toList) = some uuid := by
  simp [parseUuid]

theorem mem_keyedFailures_credential {keys : SubKeys} {uuid : Bytes16} {file : SealedFile}
    {inner : Inner} {hash : String} (hkeyed : hash ∈ keyedFailures libs keys uuid file inner) :
    hash ∈ file.credentials := by
  simp only [keyedFailures, credentialFailures, sectionFailures, rootFailures,
    Finset.mem_union, OrderedMap.mem_keysWhere] at hkeyed
  rw [OrderedMap.mem_iff_exists]
  rcases hkeyed with (⟨entry, hentry, -⟩ | ⟨entry, hentry, -⟩) | hroot
  · exact ⟨entry, hentry⟩
  · exact ⟨entry, hentry⟩
  · split at hroot
    · simp at hroot
    · obtain ⟨entry, hentry, -⟩ := OrderedMap.mem_keysWhere.mp hroot
      exact ⟨entry, hentry⟩

theorem mem_quarantineAll_some {file : SealedFile} {census : Finset String} {hash : String} :
    hash ∈ quarantineAll (some file) census ↔ hash ∈ census ∨ hash ∈ file.credentials := by
  simp [quarantineAll]

theorem mem_censusFailures {file : SealedFile} {hash : String} :
    hash ∈ censusFailures libs (some file) ↔
      ∃ entry, file.credentials[hash]? = some entry ∧
        recomputes libs hash entry.identity = false := by
  simp [censusFailures]

/-- The census an opened store starts with. -/
theorem mem_loadedFrom_census {file : SealedFile} {census : Finset String}
    {ledger : Option AllocationsFile} {hash : String} :
    hash ∈ (loadedFrom (some file) census ledger).2 ↔
      hash ∈ census ∨ hash ∈ file.credentials ∧
        ∀ read, ledger = some read → read.storeUuid = file.storeUuid → hash ∉ read.sections := by
  cases ledger with
  | none => simp [loadedFrom, mem_quarantineAll_some]
  | some read =>
      by_cases huuid : file.storeUuid = read.storeUuid
      · simp [loadedFrom, adoptAllocations, huuid, OrderedMap.mem_iff_exists]
      · simp [loadedFrom, adoptAllocations, huuid, mem_quarantineAll_some, Ne.symm huuid]

/-- The counters an opened store starts with: those of the adopted ledger's
sections that belong to a credential. -/
theorem getElem?_loadedFrom_sections {file : SealedFile} {census : Finset String}
    {ledger : Option AllocationsFile} {hash : String} {alloc : AllocationState} :
    (loadedFrom (some file) census ledger).1.sections[hash]? = some alloc ↔
      ∃ read stored, ledger = some read ∧ read.storeUuid = file.storeUuid ∧
        hash ∈ file.credentials ∧ read.sections[hash]? = some stored ∧
        alloc = toAllocationState stored := by
  cases ledger with
  | none => simp [loadedFrom, LoadedAllocations.empty]
  | some read =>
      by_cases huuid : file.storeUuid = read.storeUuid
      · simp only [loadedFrom, adoptAllocations, huuid, ne_eq, not_true_eq_false, if_false,
          Std.ExtTreeMap.getElem?_filterMap]
        by_cases hmem : hash ∈ file.credentials
        · simp [hmem, Option.bind_eq_some_iff, @eq_comm _ alloc]
        · simp [hmem]
      · simp [loadedFrom, adoptAllocations, huuid, Ne.symm huuid]

/-- Counters and raw sections of an opened store come from its ledger. -/
theorem openedInner_sections {sealedStore : Option SealedFile} {ledger : Option AllocationsFile}
    {cache : StringMap CacheState} {hash : String} {alloc : AllocationState}
    (halloc : (openedInner libs sealedStore ledger cache).sections[hash]? = some alloc) :
    ∃ read stored, ledger = some read ∧ read.sections[hash]? = some stored ∧
      alloc = toAllocationState stored := by
  cases sealedStore with
  | none => cases ledger <;> simp [openedInner, loadedFrom, adoptAllocations,
      LoadedAllocations.empty] at halloc
  | some file =>
      obtain ⟨read, stored, hread, -, -, hstored, halloc⟩ :=
        getElem?_loadedFrom_sections.mp halloc
      exact ⟨read, stored, hread, hstored, halloc⟩

theorem openedInner_rawSections {sealedStore : Option SealedFile}
    {ledger : Option AllocationsFile} {cache : StringMap CacheState} {hash : String}
    {stored : Section}
    (hstored : (openedInner libs sealedStore ledger cache).rawSections[hash]? = some stored) :
    ∃ read, ledger = some read ∧ read.sections[hash]? = some stored := by
  cases ledger with
  | none => cases sealedStore <;> simp [openedInner, loadedFrom, LoadedAllocations.empty] at hstored
  | some read =>
      refine ⟨read, rfl, ?_⟩
      cases sealedStore with
      | none => simpa [openedInner, loadedFrom, adoptAllocations] using hstored
      | some file =>
          by_cases huuid : file.storeUuid = read.storeUuid <;>
            simpa [openedInner, loadedFrom, adoptAllocations, huuid] using hstored

/-- A ledger of the same store is kept raw, with its root. -/
theorem rawSections_openedInner {file : SealedFile} {read : AllocationsFile}
    (huuid : read.storeUuid = file.storeUuid) (cache : StringMap CacheState) :
    (openedInner libs (some file) (some read) cache).rawSections = read.sections := by
  simp [openedInner, loadedFrom, adoptAllocations, huuid]

theorem rootMacRaw_openedInner {file : SealedFile} {read : AllocationsFile}
    (huuid : read.storeUuid = file.storeUuid) (cache : StringMap CacheState) :
    (openedInner libs (some file) (some read) cache).rootMacRaw = hexToBytes32 read.rootMac := by
  simp [openedInner, loadedFrom, adoptAllocations, huuid]

theorem coherent_openedInner {sealedStore : Option SealedFile}
    {ledger : Option AllocationsFile} {cache : StringMap CacheState}
    (huuid : ∀ file, sealedStore = some file → ∃ uuid, parseUuid file.storeUuid = some uuid) :
    Coherent libs (openedInner libs sealedStore ledger cache) where
  sessionHeld := by simp [openedInner]
  storeUuid := rfl
  uuidParses file hfile := by
    obtain ⟨uuid, huuid⟩ := huuid file hfile
    simp [huuid]
  sessionSealed := by simp [openedInner]
  sessionKeys := by simp [openedInner]
  quarantined hash hquarantined := by
    rw [isQuarantined_iff] at hquarantined
    simp only [openedInner, Finset.notMem_empty, or_false] at hquarantined
    rw [hasCredential_iff]
    cases sealedStore with
    | none =>
        have hcensus : (loadedFrom none (censusFailures libs none) ledger).2 = ∅ := by
          cases ledger <;> rfl
        simp [hcensus] at hquarantined
    | some file =>
        refine ⟨file, rfl, ?_⟩
        rcases mem_loadedFrom_census.mp hquarantined with hcensus | ⟨hmember, -⟩
        · obtain ⟨entry, hentry, -⟩ := mem_censusFailures.mp hcensus
          exact OrderedMap.mem_iff_exists.mpr ⟨entry, hentry⟩
        · exact hmember
  sectioned hash hmember hcensus := by
    obtain ⟨file, hfile, hmember⟩ := hasCredential_iff.mp hmember
    simp only [openedInner] at hfile hcensus ⊢
    subst hfile
    rw [mem_loadedFrom_census] at hcensus
    push Not at hcensus
    obtain ⟨read, hread, hsame, hsection⟩ := hcensus.2 hmember
    obtain ⟨stored, hstored⟩ := OrderedMap.mem_iff_exists.mp hsection
    rw [OrderedMap.mem_iff_exists]
    exact ⟨_, getElem?_loadedFrom_sections.mpr ⟨read, stored, hread, hsame, hmember, hstored, rfl⟩⟩

/-! ## What one call can do to a store -/

/-- A call that only reports an error. -/
def Answer.isError : Answer → Bool
  | .opened result => !isOk result
  | .unlocked result => !isOk result
  | .inserted result => !isOk result
  | .reserved result => !isOk result
  | .cacheUpdated result => !isOk result
  | .done => false

/-- Every way a call can change the memory of a store and its directory. -/
inductive Effect (libs : Libraries) (inner : Inner) (disk : Disk) :
    Op → Answer → Inner → Disk → Prop
  | refused (op : Op) (answer : Answer) (herror : answer.isError = true) :
      Effect libs inner disk op answer inner disk
  | closed : Effect libs inner disk .close .done
      { inner with lockHeld := false, session := none } disk
  | locked : Effect libs inner disk .lock .done { inner with session := none } disk
  | provisionFailed {password random write params keys uuid} (error : ApiError)
      (hprovisions : Provisions libs password random inner params keys uuid) (hfailed : write ≠ .ok) :
      Effect libs inner disk (.unlock password random write) (.unlocked (.error error)) inner
        { disk with
          sealedText := writeText write (libs.sealedLength (provisionedFile params keys uuid))
            (provisionedFile params keys uuid) disk.sealedText }
  | provisioned {password random params keys uuid}
      (hprovisions : Provisions libs password random inner params keys uuid) :
      Effect libs inner disk (.unlock password random .ok) (.unlocked (.ok 0))
        { inner with
          sealedStore := some (provisionedFile params keys uuid)
          storeUuid := some uuid
          session := some ⟨password, keys⟩ }
        { disk with
          sealedText := writeText .ok (libs.sealedLength (provisionedFile params keys uuid))
            (provisionedFile params keys uuid) disk.sealedText }
  | authenticated {password random write file uuid keys} (unlocked : ℕ)
      (hauth : Authenticated libs password inner file uuid keys)
      (hcredentials : 0 < inner.credentialCount) :
      Effect libs inner disk (.unlock password random write) (.unlocked (.ok unlocked))
        (authenticatedInner libs password inner file uuid keys) disk
  | insertLedgerFailed {registration nonce writes session uuid} (error : ApiError)
      (hunlocked : Unlocked inner session uuid) (hfailed : writes.allocations ≠ .ok) :
      Effect libs inner disk (.insert registration nonce writes) (.inserted (.error error))
        (insertSection registration.hash inner)
        (ledgerDisk libs writes.allocations session.keys uuid
          (insertSection registration.hash inner) disk)
  | insertSectioned {registration nonce writes session uuid} (error : ApiError)
      (hunlocked : Unlocked inner session uuid) (hledger : writes.allocations = .ok) :
      Effect libs inner disk (.insert registration nonce writes) (.inserted (.error error))
        (sectionedInner libs registration session.keys uuid inner)
        (sectionedDisk libs registration writes session.keys uuid inner disk)
  | insertSealFailed {registration nonce writes session uuid file entry} (error : ApiError)
      (hunlocked : Unlocked inner session uuid) (hledger : writes.allocations = .ok)
      (hcache : writes.cache = .ok) (hsealed : inner.sealedStore = some file)
      (hentry : SealsEntry libs session.keys uuid registration nonce entry) :
      Effect libs inner disk (.insert registration nonce writes) (.inserted (.error error))
        (committedInner libs registration session.keys uuid inner file entry)
        (committedDisk libs registration writes session.keys uuid inner file entry disk)
  | inserted {registration nonce writes session uuid file entry}
      (hunlocked : Unlocked inner session uuid) (hledger : writes.allocations = .ok)
      (hcache : writes.cache = .ok) (hwrite : writes.sealedText = .ok)
      (hsealed : inner.sealedStore = some file)
      (hentry : SealsEntry libs session.keys uuid registration nonce entry) :
      Effect libs inner disk (.insert registration nonce writes) (.inserted (.ok ()))
        (committedInner libs registration session.keys uuid inner file entry)
        (committedDisk libs registration writes session.keys uuid inner file entry disk)
  | reserveFailed {args write session uuid slot alloc} (error : ApiError)
      (hunlocked : Unlocked inner session uuid)
      (hchosen : chooseSlot args inner = .ok (slot, alloc)) (hfailed : write ≠ .ok) :
      Effect libs inner disk (.reserve args write) (.reserved (.error error))
        (ledgerInner libs write session.keys uuid (withCounters inner args.hash alloc))
        (ledgerDisk libs write session.keys uuid (withCounters inner args.hash alloc) disk)
  | reserved {args session uuid slot alloc} (hunlocked : Unlocked inner session uuid)
      (hchosen : chooseSlot args inner = .ok (slot, alloc)) :
      Effect libs inner disk (.reserve args .ok) (.reserved (.ok slot))
        (ledgerInner libs .ok session.keys uuid (withCounters inner args.hash alloc))
        (ledgerDisk libs .ok session.keys uuid (withCounters inner args.hash alloc) disk)
  | cacheUpdated {hash mutate now write} (answer : Answer) (cache : StringMap CacheState) :
      Effect libs inner disk (.updateCache hash mutate now write) answer { inner with cache }
        (cacheDisk libs write { inner with cache } disk)

theorem Coherent.storeUuid_of_session {inner : Inner} (hcoherent : Coherent libs inner) :
    ∃ uuid, inner.session.isSome → inner.storeUuid = some uuid := by
  cases hsession : inner.session with
  | none => exact ⟨List.Vector.replicate 16 0, by simp⟩
  | some session =>
      obtain ⟨file, hfile⟩ := Option.isSome_iff_exists.mp
        (hcoherent.sessionSealed (by simp [hsession]))
      obtain ⟨uuid, huuid⟩ := Option.isSome_iff_exists.mp (hcoherent.uuidParses file hfile)
      exact ⟨uuid, fun _ => by rw [hcoherent.storeUuid, hfile, Option.bind_some, huuid]⟩

/-- A call on a store answers with one of the effects. -/
theorem step_effect {world : World} {store : Store} (hstore : world.store = some store)
    (hcoherent : Coherent libs store.inner) {op : Op} (hopen : ∀ env, op ≠ .openStore env)
    (hcrash : op ≠ .crash) :
    ∃ store' disk' answer, step libs world op = (⟨disk', some store'⟩, answer) ∧
      Effect libs store.inner world.disk op answer store'.inner disk' := by
  obtain ⟨uuid, huuid⟩ := hcoherent.storeUuid_of_session
  cases op with
  | openStore env => exact absurd rfl (hopen env)
  | crash => exact absurd rfl hcrash
  | close => exact ⟨_, _, _, by simp only [step, hstore]; rfl, .closed⟩
  | lock => exact ⟨_, _, _, by simp only [step, hstore]; rfl, .locked⟩
  | unlock password random write =>
      refine ⟨_, _, _, by simp only [step, hstore, withReply]; rfl, ?_⟩
      rcases unlock_cases libs password random write store world.disk with
        ⟨error, heq⟩ | ⟨params, keys, uuid, hprovisions, ⟨error, hfailed, heq⟩ | ⟨rfl, heq⟩⟩ |
          ⟨file, uuid, keys, unlocked, hauth, hcount, heq⟩
      · rw [heq]
        exact .refused _ _ rfl
      · rw [heq]
        exact .provisionFailed error hprovisions hfailed
      · rw [heq]
        exact .provisioned hprovisions
      · rw [heq]
        exact .authenticated unlocked hauth hcount
  | insert registration nonce writes =>
      refine ⟨_, _, _, by simp only [step, hstore, withReply]; rfl, ?_⟩
      rcases insert_cases libs registration nonce writes store world.disk huuid with
        ⟨error, heq⟩ | ⟨session, hunlocked, houtcome⟩
      · rw [heq]
        exact .refused _ _ rfl
      · generalize insert libs registration nonce writes store world.disk = reply at houtcome ⊢
        cases houtcome with
        | ledgerFailed error hfailed => exact .insertLedgerFailed error hunlocked hfailed
        | sectioned error hledger => exact .insertSectioned error hunlocked hledger
        | sealFailed error file entry hledger hcache hsealed hentry =>
            exact .insertSealFailed error hunlocked hledger hcache hsealed hentry
        | committed file entry hledger hcache hwrite hsealed hentry =>
            exact .inserted hunlocked hledger hcache hwrite hsealed hentry
  | reserve args write =>
      refine ⟨_, _, _, by simp only [step, hstore, withReply]; rfl, ?_⟩
      rcases reserveMessageId_cases libs args write store world.disk huuid with
        ⟨error, heq⟩ | ⟨session, slot, alloc, hunlocked, hchosen, ⟨error, hfailed, heq⟩ | ⟨rfl, heq⟩⟩
      · rw [heq]
        exact .refused _ _ rfl
      · rw [heq]
        exact .reserveFailed error hunlocked hchosen hfailed
      · rw [heq]
        exact .reserved hunlocked hchosen
  | updateCache hash mutate now write =>
      refine ⟨_, _, _, by simp only [step, hstore, withReply]; rfl, ?_⟩
      rcases updateCache_cases libs hash mutate now write store world.disk with
        ⟨error, heq⟩ | ⟨cache, ⟨error, heq⟩ | ⟨prior, -, heq⟩⟩
      · rw [heq]
        exact .refused _ _ rfl
      · rw [heq]
        exact .cacheUpdated _ cache
      · rw [heq]
        exact .cacheUpdated _ cache

/-! ## Reachable stores are coherent -/

theorem isQuarantined_insertSection {inner : Inner} {hash other : String} :
    (insertSection hash inner).isQuarantined other = true ↔
      other ≠ hash ∧ inner.isQuarantined other = true := by
  simp [Inner.isQuarantined, insertSection]
  grind

/-- An insert adds a section for its hash and drops none. -/
theorem mem_insertSection_sections {inner : Inner} {hash other : String} :
    other ∈ (insertSection hash inner).sections ↔ other = hash ∨ other ∈ inner.sections := by
  simp only [insertSection]
  split <;> simp [Std.LawfulEqCmp.compare_eq_iff_eq, @eq_comm _ hash]

theorem Coherent.insertSection {inner : Inner} (hcoherent : Coherent libs inner) (hash : String) :
    Coherent libs (insertSection hash inner) where
  sessionHeld := hcoherent.sessionHeld
  storeUuid := hcoherent.storeUuid
  uuidParses := hcoherent.uuidParses
  sessionSealed := hcoherent.sessionSealed
  sessionKeys := hcoherent.sessionKeys
  quarantined other hother := hcoherent.quarantined other (isQuarantined_insertSection.mp hother).2
  sectioned other hmember hcensus := by
    rw [mem_insertSection_sections]
    by_cases hsame : other = hash
    · exact .inl hsame
    · refine .inr (hcoherent.sectioned other hmember fun hmem => hcensus ?_)
      exact Finset.mem_erase.mpr ⟨hsame, hmem⟩

/-- Coherence does not look at the cache, the raw ledger or its root. -/
theorem Coherent.congr {inner inner' : Inner} (hcoherent : Coherent libs inner)
    (hsealed : inner'.sealedStore = inner.sealedStore)
    (huuid : inner'.storeUuid = inner.storeUuid) (hsections : inner'.sections = inner.sections)
    (hcensus : inner'.censusQuarantined = inner.censusQuarantined)
    (hkeyed : inner'.keyedQuarantined = inner.keyedQuarantined)
    (hsession : inner'.session = inner.session) (hheld : inner'.lockHeld = inner.lockHeld) :
    Coherent libs inner' := by
  obtain ⟨sealedStore, storeUuid, sections, cache, census, keyed, session, raw, root, held⟩ := inner'
  subst hsealed huuid hsections hcensus hkeyed hsession hheld
  exact ⟨hcoherent.sessionHeld, hcoherent.storeUuid, hcoherent.uuidParses,
    hcoherent.sessionSealed, hcoherent.sessionKeys, hcoherent.quarantined, hcoherent.sectioned⟩

theorem Coherent.sectionedInner {inner : Inner} (hcoherent : Coherent libs inner)
    (registration : Registration) (keys : SubKeys) (uuid : Bytes16) :
    Coherent libs (sectionedInner libs registration keys uuid inner) :=
  (hcoherent.insertSection registration.hash).congr rfl rfl rfl rfl rfl rfl rfl

theorem Coherent.committedInner {inner : Inner} (hcoherent : Coherent libs inner)
    (registration : Registration) (keys : SubKeys) (uuid : Bytes16) {file : SealedFile}
    (hsealed : inner.sealedStore = some file) (entry : SealedEntry) :
    Coherent libs (committedInner libs registration keys uuid inner file entry) := by
  have hsectioned := hcoherent.sectionedInner registration keys uuid
  have hold : (SealedStore.sectionedInner libs registration keys uuid inner).sealedStore =
      some file := hsealed
  have hmember : ∀ {other : String}, other ∈ file.credentials →
      other ∈ (withEntry file registration.hash entry).credentials := by
    intro other hother
    simp [withEntry, hother]
  refine ⟨hsectioned.sessionHeld, ?_, ?_, fun _ => rfl, ?_, ?_, ?_⟩
  · simpa only [SealedStore.committedInner, sectionedInner_storeUuid, withEntry, hsealed,
      Option.bind_some] using hcoherent.storeUuid
  · intro committed hcommitted
    obtain rfl := Option.some.inj hcommitted
    simpa only [withEntry] using hcoherent.uuidParses file hsealed
  · rintro session _ hsession ⟨⟩
    exact hcoherent.sessionKeys session file hsession hsealed
  · intro other hother
    obtain ⟨_, hfile, hcredential⟩ := hasCredential_iff.mp (hsectioned.quarantined other hother)
    cases hold.symm.trans hfile
    exact hasCredential_iff.mpr ⟨_, rfl, hmember hcredential⟩
  · intro other hother hcensus
    by_cases hsame : other = registration.hash
    · exact mem_insertSection_sections.mpr (.inl hsame)
    · refine hsectioned.sectioned other (hasCredential_iff.mpr ⟨file, hold, ?_⟩) hcensus
      obtain ⟨_, ⟨⟩, hcredential⟩ := hasCredential_iff.mp hother
      simpa [withEntry, Ne.symm hsame] using hcredential

theorem Coherent.withCounters {inner : Inner} (hcoherent : Coherent libs inner) (hash : String)
    (alloc : AllocationState) : Coherent libs (withCounters inner hash alloc) where
  sessionHeld := hcoherent.sessionHeld
  storeUuid := hcoherent.storeUuid
  uuidParses := hcoherent.uuidParses
  sessionSealed := hcoherent.sessionSealed
  sessionKeys := hcoherent.sessionKeys
  quarantined := hcoherent.quarantined
  sectioned other hmember hcensus := by
    have := hcoherent.sectioned other hmember hcensus
    simp [SealedStore.withCounters, this]

theorem Coherent.ledgerInner {inner : Inner} (hcoherent : Coherent libs inner)
    (write : WriteOutcome) (keys : SubKeys) (uuid : Bytes16) :
    Coherent libs (ledgerInner libs write keys uuid inner) :=
  hcoherent.congr (by simp) (by simp) (by simp) (by simp) (by simp) (by simp) (by simp)

/-- An empty store quarantines nothing. -/
theorem Coherent.not_isQuarantined_of_empty {inner : Inner} (hcoherent : Coherent libs inner)
    (hempty : inner.credentialCount = 0) (hash : String) : inner.isQuarantined hash = false := by
  rw [← Bool.not_eq_true]
  intro hquarantined
  have hpositive := credentialCount_pos (hcoherent.quarantined hash hquarantined)
  omega

/-- Every effect keeps a store coherent. -/
theorem Coherent.effect {inner inner' : Inner} {disk disk' : Disk} {op : Op} {answer : Answer}
    (hcoherent : Coherent libs inner) (heffect : Effect libs inner disk op answer inner' disk') :
    Coherent libs inner' := by
  cases heffect with
  | refused => exact hcoherent
  | closed => exact ⟨by simp, hcoherent.storeUuid, hcoherent.uuidParses, by simp, by simp,
      hcoherent.quarantined, hcoherent.sectioned⟩
  | locked => exact ⟨by simp, hcoherent.storeUuid, hcoherent.uuidParses, by simp, by simp,
      hcoherent.quarantined, hcoherent.sectioned⟩
  | provisionFailed => exact hcoherent
  | provisioned hprovisions =>
      refine ⟨fun _ => hprovisions.lockHeld, ?_, ?_, fun _ => rfl, ?_, ?_, ?_⟩
      · simp [provisionedFile, SealedFile.provision]
      · intro file hfile
        obtain rfl := Option.some.inj hfile
        simp [provisionedFile, SealedFile.provision]
      · rintro _ _ ⟨⟩ ⟨⟩
        exact hprovisions.derived
      · intro hash hquarantined
        have hfalse := hcoherent.not_isQuarantined_of_empty hprovisions.empty hash
        exact absurd hquarantined (by simpa [Inner.isQuarantined] using hfalse)
      · intro hash hmember
        obtain ⟨_, ⟨⟩, hmember⟩ := hasCredential_iff.mp hmember
        simp [provisionedFile, SealedFile.provision] at hmember
  | authenticated unlocked hauth =>
      refine ⟨fun _ => hauth.lockHeld, hcoherent.storeUuid, hcoherent.uuidParses,
        fun _ => by simp [authenticatedInner, hauth.sealedStore], ?_, ?_, hcoherent.sectioned⟩
      · rintro _ file ⟨⟩ hfile
        cases hauth.sealedStore.symm.trans hfile
        exact hauth.derived
      · intro hash hquarantined
        rcases isQuarantined_iff.mp hquarantined with hcensus | hkeyed
        · exact hcoherent.quarantined hash (isQuarantined_iff.mpr (.inl hcensus))
        · exact hasCredential_iff.mpr ⟨_, hauth.sealedStore, mem_keyedFailures_credential hkeyed⟩
  | insertLedgerFailed => exact hcoherent.insertSection _
  | insertSectioned => exact hcoherent.sectionedInner _ _ _
  | insertSealFailed error hunlocked hledger hcache hsealed =>
      exact hcoherent.committedInner _ _ _ hsealed _
  | inserted hunlocked hledger hcache hwrite hsealed =>
      exact hcoherent.committedInner _ _ _ hsealed _
  | reserveFailed => exact (hcoherent.withCounters _ _).ledgerInner _ _ _
  | reserved => exact (hcoherent.withCounters _ _).ledgerInner _ _ _
  | cacheUpdated => exact hcoherent.congr rfl rfl rfl rfl rfl rfl rfl

/-- A property of the directory, and one of the memory of the store on it. -/
structure World.Satisfies (libs : Libraries) (onDisk : Disk → Prop)
    (inMemory : Inner → Disk → Prop) (world : World) : Prop where
  disk : onDisk world.disk
  store : ∀ store, world.store = some store →
    Coherent libs store.inner ∧ inMemory store.inner world.disk

/-- One step of the machine, from properties before it to properties after it:
enough that calls without an effect keep them, that `open` establishes them,
and that every effect does. -/
theorem step_satisfies {onDisk onDisk' : Disk → Prop} {inMemory inMemory' : Inner → Disk → Prop}
    {world : World} {op : Op} (hworld : world.Satisfies libs onDisk inMemory)
    (hidle : ∀ disk, onDisk disk → onDisk' disk)
    (hkept : ∀ inner disk, (∃ env, op = .openStore env) → inMemory inner disk →
      inMemory' inner disk)
    (hopened : ∀ env disk disk' cache, onDisk disk → Opened libs env disk disk' cache →
      onDisk' disk' ∧ inMemory' (openedInner libs (readSealed disk.sealedText)
        (readLedger disk.allocations) cache) disk')
    (heffect : ∀ (store : Store) inner' disk', world.store = some store →
      Coherent libs store.inner → onDisk world.disk → inMemory store.inner world.disk →
      Effect libs store.inner world.disk op (step libs world op).2 inner' disk' →
      onDisk' disk' ∧ inMemory' inner' disk') :
    (step libs world op).1.Satisfies libs onDisk' inMemory' := by
  by_cases hopen : ∃ env, op = .openStore env
  · obtain ⟨env, rfl⟩ := hopen
    rcases openStore_cases libs { env with lock := world.lockOutcome env } world.disk with
      ⟨error, heq⟩ | ⟨cache, disk', hopened'⟩
    · simp only [step, heq]
      refine ⟨hidle _ hworld.disk, fun store hstore => ?_⟩
      obtain ⟨hcoherent, hinner⟩ := hworld.store store hstore
      exact ⟨hcoherent, hkept _ _ ⟨env, rfl⟩ hinner⟩
    · obtain ⟨hdisk, hinner⟩ := hopened _ world.disk disk' cache hworld.disk hopened'
      simp only [step, hopened'.opens]
      refine ⟨hdisk, ?_⟩
      rintro _ ⟨⟩
      exact ⟨coherent_openedInner hopened'.storeUuid, hinner⟩
  by_cases hcrash : op = .crash
  · subst hcrash
    exact ⟨hidle _ hworld.disk, by simp [step]⟩
  cases hstore : world.store with
  | none =>
      have hunchanged : (step libs world op).1 = world := by
        obtain ⟨disk, store⟩ := world
        simp only at hstore
        subst hstore
        cases op with
        | openStore env => exact absurd ⟨env, rfl⟩ hopen
        | crash => exact absurd rfl hcrash
        | _ => rfl
      rw [hunchanged]
      exact ⟨hidle _ hworld.disk, by simp [hstore]⟩
  | some store =>
      obtain ⟨hcoherent, hinner⟩ := hworld.store store hstore
      obtain ⟨store', disk', answer, hstep, heff⟩ := step_effect hstore hcoherent
        (fun env heq => hopen ⟨env, heq⟩) hcrash
      obtain ⟨hdisk', hinner'⟩ := heffect store _ _ hstore hcoherent hworld.disk hinner
        (by rw [hstep]; exact heff)
      rw [hstep]
      refine ⟨hdisk', ?_⟩
      rintro _ ⟨⟩
      exact ⟨hcoherent.effect heff, hinner'⟩

/-- The step rule of the store machine: what `open` establishes and every
admissible effect keeps, every admissible step keeps. -/
theorem satisfies_step {onDisk : Disk → Prop} {inMemory : Inner → Disk → Prop}
    {guard : World → Op → Prop}
    (hopened : ∀ env disk disk' cache, onDisk disk → Opened libs env disk disk' cache →
      onDisk disk' ∧ inMemory (openedInner libs (readSealed disk.sealedText)
        (readLedger disk.allocations) cache) disk')
    (heffect : ∀ (world : World) (store : Store) op answer inner' disk',
      world.store = some store → guard world op → Coherent libs store.inner →
      onDisk world.disk → inMemory store.inner world.disk →
      Effect libs store.inner world.disk op answer inner' disk' →
      onDisk disk' ∧ inMemory inner' disk')
    (world : World) (op : Op) (hworld : world.Satisfies libs onDisk inMemory)
    (hguard : guard world op) : (step libs world op).1.Satisfies libs onDisk inMemory :=
  step_satisfies hworld (fun _ hdisk => hdisk) (fun _ _ _ hinner => hinner) hopened
    fun store inner' disk' hstore hcoherent hdisk hinner heff =>
      heffect world store op _ inner' disk' hstore hguard hcoherent hdisk hinner heff

/-- A store opened on a directory and unlocked once. -/
theorem effect_of_open_unlock {disk : Disk} {env : OpenEnv} {password : String}
    {random : UnlockRandom} {write : WriteOutcome} {store : Store}
    (hstore : (Run.run (step libs) { disk }
      [.openStore env, .unlock password random write]).store = some store) :
    ∃ cache disk' disk'' answer,
      Opened libs { env with lock := ({ disk } : World).lockOutcome env } disk disk' cache ∧
      Effect libs (openedInner libs (readSealed disk.sealedText) (readLedger disk.allocations) cache)
        disk' (.unlock password random write) answer store.inner disk'' := by
  rcases openStore_cases libs { env with lock := ({ disk } : World).lockOutcome env } disk with
    ⟨error, heq⟩ | ⟨cache, disk', hopened⟩
  · simp [step, heq] at hstore
  · let opened := openedInner libs (readSealed disk.sealedText) (readLedger disk.allocations) cache
    have hopen : (step libs { disk } (.openStore env)).1 = ⟨disk', some (publish opened)⟩ := by
      simp only [step, hopened.opens]
      rfl
    obtain ⟨store', disk'', answer, hstep, heffect⟩ := @step_effect libs
      ⟨disk', some (publish opened)⟩ (publish opened) rfl (coherent_openedInner hopened.storeUuid)
      (.unlock password random write) (by simp) (by simp)
    simp only [Run.run_cons, Run.run_nil, hopen, hstep, Option.some.injEq] at hstore
    subst hstore
    exact ⟨cache, disk', disk'', answer, hopened, heffect⟩

/-- Whatever the directory held at first, every reachable store is coherent. -/
theorem coherent_run (disk : Disk) (ops : List Op) {store : Store}
    (hstore : (Run.run (step libs) { disk } ops).store = some store) :
    Coherent libs store.inner := by
  have hrun : (Run.run (step libs) { disk } ops).Satisfies libs (fun _ => True)
      fun _ _ => True := by
    refine Run.invariant_run ?_ ⟨trivial, by simp⟩ (Run.guarded_true _ _)
    exact satisfies_step (fun _ _ _ _ _ _ => ⟨trivial, trivial⟩)
      fun _ _ _ _ _ _ _ _ _ _ _ _ => ⟨trivial, trivial⟩
  exact (hrun.store store hstore).1

end LogosRln.SealedStore
