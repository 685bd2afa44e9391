import LogosRln.Api
import LogosRln.SealedStore.Files

/-!
# The sealed store

Session state over the format, crypto and file layers: the open-time census,
unlock-time keyed verification, credential sealing, the MAC-covered allocation
ledger, the cache sidecar and the reservation of a `message_id`.  Every method
runs under one mutex, so each is a function from the store and its directory to
a reply, the store and the directory.
-/

namespace LogosRln.SealedStore

open RegistryId Crypto Format Lifecycle RateLimit Files

/-- Third-party code the store calls: the cryptographic primitives, the JSON
coding of a credential, and the length of the JSON text of each file. -/
structure Libraries extends Primitives where
  credentialToVec : StoredCredential → Except String Bytes
  credentialFromSlice : Bytes → Except String StoredCredential
  sealedLength : SealedFile → ℕ
  allocationsLength : AllocationsFile → ℕ
  cacheLength : CacheFile → ℕ

structure Session where
  password : String
  keys : SubKeys
  deriving DecidableEq

/-- `sealedStore` is the source's `sealed`, a word Lean reserves; `lockHeld`
says whether `lock` still holds the directory's sentinel. -/
structure Inner where
  sealedStore : Option SealedFile
  storeUuid : Option Bytes16
  sections : StringMap AllocationState
  cache : StringMap CacheState
  censusQuarantined : Finset String
  keyedQuarantined : Finset String
  session : Option Session
  rawSections : StringMap Section
  rootMacRaw : Option Bytes32
  lockHeld : Bool

/-- `snapshot` is the read-only publication of the last mutation. -/
structure Store where
  inner : Inner
  snapshot : StringMap MembershipRecord

/-- A method's reply, with the store and the directory it leaves. -/
structure Reply (A : Type) where
  result : Except ApiError A
  store : Store
  disk : Disk

def refuse {A : Type} (error : ApiError) (store : Store) (disk : Disk) : Reply A :=
  ⟨.error error, store, disk⟩

/-! ## Helpers -/

def Inner.isQuarantined (inner : Inner) (hash : String) : Bool :=
  hash ∈ inner.censusQuarantined || hash ∈ inner.keyedQuarantined

def Inner.hasCredential (inner : Inner) (hash : String) : Bool :=
  inner.sealedStore.any fun file => file.credentials.contains hash

def Inner.credentialCount (inner : Inner) : ℕ :=
  (inner.sealedStore.map fun file => file.credentials.size).getD 0

def buildSnapshot (inner : Inner) : StringMap MembershipRecord :=
  match inner.sealedStore with
  | none => ∅
  | some file => file.credentials.map fun hash entry =>
      { hash
        identity := entry.identity
        cache := (inner.cache[hash]?).getD {}
        alloc := (inner.sections[hash]?).getD {}
        quarantined := inner.isQuarantined hash }

/-- The store with `inner` published. -/
def publish (inner : Inner) : Store := ⟨inner, buildSnapshot inner⟩

def closedError : ApiError := .internal "keystore is closed"

def notProvisioned : ApiError := .internal "sealed store is not provisioned"

def lockedBeforeRegistering : ApiError := ⟨.locked, "unlock_keystore before registering"⟩

def quarantinedError : ApiError := .internal "entry quarantined (metadata tamper)"

def noSuchMembership : ApiError := ⟨.unknownMembership, "no such membership_hash"⟩

def deriveKeys (libs : Libraries) (password : String) (params : KdfParams) :
    Except ApiError SubKeys :=
  match MasterKey.derive libs.toPrimitives password params with
  | .ok masterKey => .ok (SubKeys.derive libs.toPrimitives masterKey)
  | .error error => .error (.internal s!"kdf: {error.display}")

def isOk {E A : Type} : Except E A → Bool
  | .ok _ => true
  | .error _ => false

def credentialOpens (libs : Libraries) (keys : SubKeys) (aad : Bytes) (entry : SealedEntry) :
    Bool :=
  match hexToVec entry.nonce with
  | none => false
  | some nonce =>
      match hexToVec entry.ct with
      | none => false
      | some ct =>
          match unsealBytes libs.toPrimitives keys.sealKey nonce aad ct with
          | .ok plaintext => isOk (libs.credentialFromSlice plaintext)
          | .error _ => false

def sectionMac (libs : Libraries) (keys : SubKeys) (hash : String) (epochSizeSec pruneFloor : UInt64)
    (rows : List AllocRow) (uuid : Bytes16) : Bytes32 :=
  libs.hmacSha256 keys.ledger (sectionMacPayload hash epochSizeSec pruneFloor rows uuid)

def sectionMacOk (libs : Libraries) (keys : SubKeys) (hash : String) (stored : Section)
    (uuid : Bytes16) : Bool :=
  let expected := sectionMac libs keys hash stored.epochSizeSec stored.pruneFloor
    stored.allocations uuid
  match hexToVec stored.mac with
  | some mac => ctEq expected.toList mac
  | none => false

def rootMac (libs : Libraries) (keys : SubKeys) (macs : StringMap Bytes32) (uuid : Bytes16) :
    Bytes32 :=
  libs.hmacSha256 keys.ledger (rootMacPayload macs uuid)

/-! ## Opening -/

/-- The unkeyed census: every map key must recompute from its identity
block. -/
def recomputes (libs : Libraries) (hash : String) (identity : IdentityBlock) : Bool :=
  (hexToBytes32 identity.identityCommitment).map
    (membershipHash libs.sha256 identity.registryId) == some hash

def censusFailures (libs : Libraries) (sealedStore : Option SealedFile) : Finset String :=
  match sealedStore with
  | none => ∅
  | some file => OrderedMap.keysWhere file.credentials fun hash entry =>
      !recomputes libs hash entry.identity

def parseUuid (storeUuid : String) : Option Bytes16 :=
  (hexToVec storeUuid).bind (toArray 16)

def oldFormatRefusal : OpenError :=
  .oldFormatPresent "an old-format RLN keystore (rln_keystore.json) was found; this version uses a new incompatible format with no migration — back up rln_keystore.json and move it out of the persistence dir to start fresh (memberships must be re-registered), or run a previous module version"

def badUuid : OpenError :=
  .unreadable s!"{sealedFile} carries a store_uuid that is not 16-byte hex — refusing to guess; restore the file from a backup"

/-- The last part of `open`: the ledger and the cache under an adopted sealed
file. -/
def openFiles (libs : Libraries) (env : OpenEnv) (sealedStore : Option SealedFile) (disk : Disk) :
    Store × Disk :=
  let loaded := loadAllocations env sealedStore (censusFailures libs sealedStore) disk
  let cache := loadCache env sealedStore loaded.2
  (publish
    { sealedStore
      storeUuid := sealedStore.bind fun file => parseUuid file.storeUuid
      sections := loaded.1.1.sections
      cache := cache.1
      censusQuarantined := loaded.1.2
      keyedQuarantined := ∅
      session := none
      rawSections := loaded.1.1.rawSections
      rootMacRaw := loaded.1.1.rootMacRaw
      lockHeld := true }, cache.2)

/-- The part of `open` after the directory lock is taken. -/
def openLocked (libs : Libraries) (env : OpenEnv) (disk : Disk) : Except OpenError Store × Disk :=
  match loadSealed env disk with
  | (.error error, disk) => (.error error, disk)
  | (.ok sealedStore, disk) =>
      if sealedStore.any fun file => (parseUuid file.storeUuid).isNone then (.error badUuid, disk)
      else
        let opened := openFiles libs env sealedStore disk
        (.ok opened.1, opened.2)

def openStore (libs : Libraries) (env : OpenEnv) (disk : Disk) : Except OpenError Store × Disk :=
  if disk.oldFormat ∧ ¬ disk.sealedText.present then (.error oldFormatRefusal, disk)
  else
    match env.lock with
    | .wouldBlock error =>
        (.error (.dirLockHeld s!"could not take the exclusive keystore lock in {env.dir} ({error}); another process may be using this persistence path"), disk)
    | .failed error =>
        (.error (.unreadable s!"keystore lock file in {env.dir}: {error}"), disk)
    | .taken => openLocked libs env disk

def close (store : Store) : Store :=
  { store with inner := { store.inner with lockHeld := false, session := none } }

def lock (store : Store) : Store :=
  { store with inner := { store.inner with session := none } }

/-! ## Unlocking -/

/-- The random draws of `unlock`; `none` is a missing CSPRNG. -/
structure UnlockRandom where
  salt : Option Bytes16
  uuid : Option Bytes16

def allQuarantined (inner : Inner) : Bool :=
  inner.sealedStore.any fun file =>
    file.credentials.toList.all fun entry => entry.1 ∈ inner.censusQuarantined

def allQuarantinedError : ApiError :=
  .internal "every keystore entry is quarantined (metadata tamper or a missing/rolled-back rln_allocations.json); restore the keystore files from a backup"

/-- First keyed pass: the credential AEAD. -/
def credentialFailures (libs : Libraries) (keys : SubKeys) (uuid : Bytes16) (file : SealedFile)
    (inner : Inner) : Finset String :=
  OrderedMap.keysWhere file.credentials fun hash entry =>
    hash ∉ inner.censusQuarantined &&
      !credentialOpens libs keys (credentialAad hash entry.identity uuid) entry

/-- Second keyed pass: the section MAC of every entry still in good standing. -/
def sectionFailures (libs : Libraries) (keys : SubKeys) (uuid : Bytes16) (file : SealedFile)
    (inner : Inner) : Finset String :=
  OrderedMap.keysWhere file.credentials fun hash _ =>
    hash ∉ inner.censusQuarantined &&
      hash ∉ credentialFailures libs keys uuid file inner &&
      !(inner.rawSections[hash]?).any fun stored => sectionMacOk libs keys hash stored uuid

def storedMacs (rawSections : StringMap Section) : StringMap Bytes32 :=
  rawSections.filterMap fun _ stored => hexToBytes32 stored.mac

/-- The root, recomputed over the section MACs as stored. -/
def rootOk (libs : Libraries) (keys : SubKeys) (uuid : Bytes16) (rawSections : StringMap Section)
    (rootMacRaw : Option Bytes32) : Bool :=
  (storedMacs rawSections).size == rawSections.size &&
    rootMacRaw.any fun stored =>
      ctEq (rootMac libs keys (storedMacs rawSections) uuid).toList stored.toList

/-- Third keyed pass: a root mismatch quarantines every entry. -/
def rootFailures (libs : Libraries) (keys : SubKeys) (uuid : Bytes16) (file : SealedFile)
    (inner : Inner) : Finset String :=
  if inner.rawSections.isEmpty || rootOk libs keys uuid inner.rawSections inner.rootMacRaw then ∅
  else OrderedMap.keysWhere file.credentials fun hash _ => hash ∉ inner.censusQuarantined

def keyedFailures (libs : Libraries) (keys : SubKeys) (uuid : Bytes16) (file : SealedFile)
    (inner : Inner) : Finset String :=
  credentialFailures libs keys uuid file inner ∪ sectionFailures libs keys uuid file inner ∪
    rootFailures libs keys uuid file inner

/-- The (re-)provisioning branch of `unlock`: any password unlocks an empty
store and becomes its password. -/
def provisionStore (libs : Libraries) (password : String) (random : UnlockRandom)
    (write : WriteOutcome) (store : Store) (disk : Disk) : Reply ℕ :=
  match KdfParams.generate random.salt with
  | .error error => refuse (.internal s!"kdf params: {error.display}") store disk
  | .ok params =>
      match deriveKeys libs password params with
      | .error error => refuse error store disk
      | .ok keys =>
          match store.inner.storeUuid.or random.uuid with
          | none => refuse (.internal "no CSPRNG for the store uuid") store disk
          | some uuid =>
              let file := SealedFile.provision params (bytesToHex keys.verify.toList)
                (bytesToHex uuid.toList)
              let disk := { disk with
                sealedText := writeText write (libs.sealedLength file) file disk.sealedText }
              match write.result with
              | .error error => refuse (.internal s!"sealed store save: {error}") store disk
              | .ok () =>
                  ⟨.ok 0, publish { store.inner with
                    sealedStore := some file
                    storeUuid := some uuid
                    session := some ⟨password, keys⟩ }, disk⟩

/-- The verifying branch of `unlock`. -/
def authenticate (libs : Libraries) (password : String) (store : Store) (disk : Disk) : Reply ℕ :=
  match store.inner.sealedStore with
  | none => refuse (.internal "sealed store state desynchronized") store disk
  | some file =>
      match store.inner.storeUuid with
      | none => refuse notProvisioned store disk
      | some uuid =>
          match deriveKeys libs password file.kdf with
          | .error error => refuse error store disk
          | .ok keys =>
              if !ctEq keys.verify.toList ((hexToVec file.verifier).getD []) then
                refuse ⟨.badPassword, "password does not open the existing keystore"⟩ store disk
              else
                let keyed := keyedFailures libs keys uuid file store.inner
                let unlocked := (file.credentials.toList.filter fun entry =>
                  entry.1 ∉ store.inner.censusQuarantined && entry.1 ∉ keyed).length
                ⟨.ok unlocked, publish { store.inner with
                  keyedQuarantined := keyed
                  session := some ⟨password, keys⟩ }, disk⟩

def unlock (libs : Libraries) (password : String) (random : UnlockRandom) (write : WriteOutcome)
    (store : Store) (disk : Disk) : Reply ℕ :=
  if !store.inner.lockHeld then refuse closedError store disk
  else if store.inner.credentialCount > 0 ∧ allQuarantined store.inner then
    refuse allQuarantinedError store disk
  else if store.inner.credentialCount = 0 then
    provisionStore libs password random write store disk
  else authenticate libs password store disk

/-! ## Writing the ledger -/

def toAllocRow (row : EpochAllocation) : AllocRow :=
  ⟨row.rlnIdentifier, row.epoch, row.used⟩

/-- A section restamped under the session's ledger key. -/
def stampSection (libs : Libraries) (keys : SubKeys) (uuid : Bytes16) (hash : String)
    (alloc : AllocationState) : Section :=
  let rows := alloc.allocations.map toAllocRow
  { epochSizeSec := alloc.epochSizeSec
    pruneFloor := alloc.pruneFloor
    allocations := rows
    mac := bytesToHex
      (sectionMac libs keys hash alloc.epochSizeSec alloc.pruneFloor rows uuid).toList }

/-- The sections a write carries: a quarantined one exactly as loaded, every
other one restamped. -/
def writtenSections (libs : Libraries) (keys : SubKeys) (uuid : Bytes16) (inner : Inner) :
    StringMap Section :=
  inner.sections.filterMap fun hash alloc =>
    if inner.isQuarantined hash then inner.rawSections[hash]?
    else some (stampSection libs keys uuid hash alloc)

/-- The tags the written root covers; a tag that is not 32-byte hex counts as
zeros. -/
def writtenMacs (sections : StringMap Section) : StringMap Bytes32 :=
  sections.map fun _ stored =>
    (hexToBytes32 stored.mac).getD (List.Vector.replicate 32 0)

def writtenRoot (libs : Libraries) (keys : SubKeys) (uuid : Bytes16) (inner : Inner) : Bytes32 :=
  rootMac libs keys (writtenMacs (writtenSections libs keys uuid inner)) uuid

def ledgerFile (libs : Libraries) (keys : SubKeys) (uuid : Bytes16) (inner : Inner) :
    AllocationsFile where
  format := formatAllocations
  version := formatVersion
  storeUuid := bytesToHex uuid.toList
  sections := writtenSections libs keys uuid inner
  rootMac := bytesToHex (writtenRoot libs keys uuid inner).toList

/-- What a write to the directory leaves: its result, the state in memory and
the directory. -/
structure Written where
  result : Except ApiError Unit
  inner : Inner
  disk : Disk

def writeAllocations (libs : Libraries) (write : WriteOutcome) (inner : Inner) (disk : Disk) :
    Written :=
  match inner.session with
  | none => ⟨.error lockedBeforeRegistering, inner, disk⟩
  | some session =>
      match inner.storeUuid with
      | none => ⟨.error notProvisioned, inner, disk⟩
      | some uuid =>
          let file := ledgerFile libs session.keys uuid inner
          let disk := { disk with
            allocations := writeText write (libs.allocationsLength file) file disk.allocations }
          match write.result with
          | .error error => ⟨.error (.internal s!"allocations save: {error}"), inner, disk⟩
          | .ok () =>
              ⟨.ok (), { inner with
                rawSections := file.sections
                rootMacRaw := some (writtenRoot libs session.keys uuid inner) }, disk⟩

def writeCache (libs : Libraries) (write : WriteOutcome) (inner : Inner) (disk : Disk) :
    Except ApiError Unit × Disk :=
  let file : CacheFile := { entries := inner.cache }
  let disk := { disk with cache := writeText write (libs.cacheLength file) file disk.cache }
  match write.result with
  | .error error => (.error (.internal s!"cache save: {error}"), disk)
  | .ok () => (.ok (), disk)

/-! ## Inserting -/

/-- A registration as `insert` receives it. -/
structure Registration where
  hash : String
  identity : IdentityBlock
  credential : StoredCredential
  rateLimit : UInt64

structure InsertWrites where
  allocations : WriteOutcome
  cache : WriteOutcome
  sealedText : WriteOutcome

/-- The sections an insert starts from: a quarantined hash restarts with fresh
counters, an existing section keeps its own. -/
def insertSection (hash : String) (inner : Inner) : Inner :=
  { inner with
    censusQuarantined := inner.censusQuarantined.erase hash
    keyedQuarantined := inner.keyedQuarantined.erase hash
    sections :=
      if inner.isQuarantined hash then inner.sections.insert hash {}
      else inner.sections.insertIfNew hash {} }

/-- Step (c) of `insert`: seal the credential and write the sealed file. -/
def insertCredential (libs : Libraries) (registration : Registration) (nonce : Option Bytes24)
    (write : WriteOutcome) (inner : Inner) (disk : Disk) : Written :=
  match inner.session with
  | none => ⟨.error lockedBeforeRegistering, inner, disk⟩
  | some session =>
      match inner.storeUuid with
      | none => ⟨.error notProvisioned, inner, disk⟩
      | some uuid =>
          match libs.credentialToVec registration.credential with
          | .error error => ⟨.error (.internal s!"credential serialize: {error}"), inner, disk⟩
          | .ok plaintext =>
              let aad := credentialAad registration.hash registration.identity uuid
              match sealBytes libs.toPrimitives session.keys.sealKey nonce aad plaintext with
              | .error error =>
                  ⟨.error (.internal s!"credential seal: {error.display}"), inner, disk⟩
              | .ok (nonce, ct) =>
                  match inner.sealedStore with
                  | none => ⟨.error notProvisioned, inner, disk⟩
                  | some file =>
                      let entry : SealedEntry :=
                        ⟨registration.identity, bytesToHex nonce.toList, bytesToHex ct⟩
                      let file := { file with
                        credentials := file.credentials.insert registration.hash entry }
                      let disk := { disk with
                        sealedText :=
                          writeText write (libs.sealedLength file) file disk.sealedText }
                      let inner := { inner with sealedStore := some file }
                      match write.result with
                      | .error error =>
                          ⟨.error (.internal s!"sealed store save: {error}"), inner, disk⟩
                      | .ok () => ⟨.ok (), inner, disk⟩

def insertCacheRow (registration : Registration) (inner : Inner) : Inner :=
  { inner with
    cache := inner.cache.insert registration.hash
      { state := .pending, rateLimit := some registration.rateLimit } }

/-- `insert`: the section, the cache row, then the credential.  A failed step
leaves its changes in memory and publishes nothing. -/
def insert (libs : Libraries) (registration : Registration) (nonce : Option Bytes24)
    (writes : InsertWrites) (store : Store) (disk : Disk) : Reply Unit :=
  if !store.inner.lockHeld then refuse closedError store disk
  else if store.inner.session.isNone then refuse lockedBeforeRegistering store disk
  else
    let ledger := writeAllocations libs writes.allocations
      (insertSection registration.hash store.inner) disk
    match ledger.result with
    | .error error => ⟨.error error, { store with inner := ledger.inner }, ledger.disk⟩
    | .ok () =>
        let inner := insertCacheRow registration ledger.inner
        match writeCache libs writes.cache inner ledger.disk with
        | (.error error, disk) => ⟨.error error, { store with inner }, disk⟩
        | (.ok (), disk) =>
            let commit := insertCredential libs registration nonce writes.sealedText inner disk
            match commit.result with
            | .error error => ⟨.error error, { store with inner := commit.inner }, commit.disk⟩
            | .ok () => ⟨.ok (), publish commit.inner, commit.disk⟩

/-! ## Reading a credential -/

def unsealError (error : CryptoError) : ApiError :=
  match error with
  | .badPassword => ⟨.badPassword, "session password no longer opens this entry"⟩
  | other => .internal s!"credential unseal: {other.display}"

def unsealCredential (libs : Libraries) (hash : String) (store : Store) :
    Except ApiError StoredCredential :=
  if store.inner.isQuarantined hash then .error quarantinedError
  else
    match store.inner.session with
    | none => .error ⟨.locked, "unlock_keystore before selecting"⟩
    | some session =>
        match store.inner.sealedStore.bind fun file => file.credentials[hash]? with
        | none => .error noSuchMembership
        | some entry =>
            match store.inner.storeUuid with
            | none => .error notProvisioned
            | some uuid =>
                match hexToVec entry.nonce with
                | none => .error (.internal "malformed credential nonce")
                | some nonce =>
                    match hexToVec entry.ct with
                    | none => .error (.internal "malformed credential ciphertext")
                    | some ct =>
                        match unsealBytes libs.toPrimitives session.keys.sealKey nonce
                            (credentialAad hash entry.identity uuid) ct with
                        | .error error => .error (unsealError error)
                        | .ok plaintext =>
                            (libs.credentialFromSlice plaintext).mapError fun error =>
                              .internal s!"credential parse: {error}"

/-! ## The cache and the counters -/

/-- The mutated row, stamped at its first active-like state. -/
def observeRow (mutate : CacheState → CacheState) (now : UInt64) (row : CacheState) : CacheState :=
  let updated := mutate row
  if updated.firstActiveAt.isNone && updated.state.isActiveLike then
    { updated with firstActiveAt := some now }
  else updated

/-- `update_cache`, answering the state before the mutation. -/
def updateCache (libs : Libraries) (hash : String) (mutate : CacheState → CacheState)
    (now : UInt64) (write : WriteOutcome) (store : Store) (disk : Disk) :
    Reply MembershipState :=
  if !store.inner.lockHeld then refuse closedError store disk
  else if !store.inner.hasCredential hash then refuse noSuchMembership store disk
  else
    let row := (store.inner.cache[hash]?).getD {}
    let inner := { store.inner with
      cache := store.inner.cache.insert hash (observeRow mutate now row) }
    match writeCache libs write inner disk with
    | (.error error, disk) => ⟨.error error, { store with inner }, disk⟩
    | (.ok (), disk) => ⟨.ok row.state, publish inner, disk⟩

/-- The production value of `WRITE_ROW_CAP`. -/
def writeRowCap : ℕ := maxRowsPerSection

def epochSizeRefusal (configured bound : UInt64) : ApiError :=
  ⟨.permanent, s!"configured epoch_size_sec {configured} differs from {bound} — the size this membership's allocations are bound to; a rebased epoch numbering could reissue spent slots. Register a fresh membership under the new size"⟩

def fullSection : ApiError :=
  ⟨.permanent, "allocation section is full (too many distinct rln_identifier/epoch rows); register a fresh membership"⟩

def floorRefusal : ApiError :=
  ⟨.permanent, "epoch is below the persisted allocation floor (backwards clock step or a widened max_epoch_gap re-admitted a pruned epoch); refusing to reissue a possibly spent slot"⟩

def budgetRefusal : ApiError :=
  ⟨.budgetExhausted, "epoch rate-limit budget exhausted; retry next epoch"⟩

def allocRefusal : AllocError → ApiError
  | .budgetExhausted => budgetRefusal
  | .epochBelowFloor => floorRefusal

def reservationGuards (quarantined : Bool) (alloc : Option AllocationState)
    (epochSizeSec : UInt64) : Except ApiError Unit :=
  if quarantined then .error quarantinedError
  else
    match alloc with
    | none => .error noSuchMembership
    | some alloc =>
        if alloc.epochSizeSec ≠ 0 ∧ alloc.epochSizeSec ≠ epochSizeSec then
          .error (epochSizeRefusal epochSizeSec alloc.epochSizeSec)
        else .ok ()

structure ReserveArgs where
  hash : String
  rlnIdentifierHex : String
  epoch : UInt64
  retainFloor : UInt64
  rateLimit : UInt64
  epochSizeSec : UInt64
  deriving DecidableEq

/-- The part of `reserve_message_id` before the ledger write: the slot and the
counters that record it. -/
def chooseSlot (args : ReserveArgs) (inner : Inner) : Except ApiError (UInt64 × AllocationState) :=
  match reservationGuards (inner.isQuarantined args.hash) inner.sections[args.hash]?
      args.epochSizeSec with
  | .error error => .error error
  | .ok () =>
      match inner.sections[args.hash]? with
      | none => .error noSuchMembership
      | some alloc =>
          let rowExists :=
            alloc.allocations.any (EpochAllocation.isFor args.rlnIdentifierHex args.epoch)
          if !rowExists && alloc.allocations.length ≥ writeRowCap then .error fullSection
          else
            match reserveSlot alloc args.rlnIdentifierHex args.epoch args.retainFloor
                args.rateLimit with
            | .error error => .error (allocRefusal error)
            | .ok (slot, alloc) => .ok (slot, { alloc with epochSizeSec := args.epochSizeSec })

def reserveMessageId (libs : Libraries) (args : ReserveArgs) (write : WriteOutcome)
    (store : Store) (disk : Disk) : Reply UInt64 :=
  if !store.inner.lockHeld then refuse closedError store disk
  else if store.inner.session.isNone then
    refuse ⟨.locked, "unlock_keystore before generate_proof"⟩ store disk
  else
    match chooseSlot args store.inner with
    | .error error => refuse error store disk
    | .ok (slot, alloc) =>
        let ledger := writeAllocations libs write
          { store.inner with sections := store.inner.sections.insert args.hash alloc } disk
        ⟨ledger.result.map fun _ => slot, publish ledger.inner, ledger.disk⟩

def remainingBudget (hash rlnIdentifierHex : String) (epoch rateLimit epochSizeSec : UInt64)
    (store : Store) : Except ApiError UInt64 :=
  if !store.inner.hasCredential hash then .ok 0
  else
    let alloc := (store.inner.sections[hash]?).getD {}
    match reservationGuards (store.inner.isQuarantined hash) (some alloc) epochSizeSec with
    | .error error => .error error
    | .ok () =>
        if epoch < alloc.pruneFloor then .error floorRefusal
        else .ok (remaining alloc.allocations rlnIdentifierHex epoch rateLimit)

end LogosRln.SealedStore
