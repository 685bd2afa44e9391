import Mathlib.Data.Nat.ModEq
import LogosRln.SealedStore.Progress

/-!
# A small executable stand-in for the third-party code

Concrete runs need concrete libraries.  This instance keeps the shape of the
real ones: a digest of 32 bytes that depends on every input byte, an AEAD whose
ciphertext carries a tag over key, nonce and associated data, a reversible
coding of the credential, and the exact length of the pretty-printed JSON of a
file whose strings need no escapes.  It makes no claim of strength.
-/

namespace LogosRln.SealedStore.Reference

open RegistryId ByteFraming Crypto Format Lifecycle RateLimit Files

/-- The low 32 bytes of a polynomial in the input bytes. -/
def digest (data : Bytes) : Bytes32 :=
  ⟨bigEndian 32 (data.foldl (fun acc (b : UInt8) => acc * 1000003 + b.toNat + 1) 7),
    length_bigEndian 32 _⟩

def aeadTag (key : Bytes32) (nonce : Bytes24) (aad msg : Bytes) : Bytes :=
  (digest (key.toList ++ nonce.toList ++ lengthPrefixed 8 aad ++ msg)).toList

def encrypt (key : Bytes32) (nonce : Bytes24) (aad msg : Bytes) : Option Bytes :=
  some (aeadTag key nonce aad msg ++ msg)

def decrypt (key : Bytes32) (nonce : Bytes24) (aad ct : Bytes) : Option Bytes :=
  if ct.take 32 = aeadTag key nonce aad (ct.drop 32) then some (ct.drop 32) else none

/-! ## Coding a credential -/

/-- A string as its number of characters and four bytes for each. -/
def putChars (text : String) : Bytes :=
  bigEndian 4 text.toList.length ++ text.toList.flatMap fun c => bigEndian 4 c.toNat

def readBigEndian (data : Bytes) : ℕ :=
  data.foldl (fun acc (b : UInt8) => acc * 256 + b.toNat) 0

def readChars : ℕ → Bytes → List Char × Bytes
  | 0, data => ([], data)
  | count + 1, data =>
      let rest := readChars count (data.drop 4)
      (Char.ofNat (readBigEndian (data.take 4)) :: rest.1, rest.2)

def takeChars (data : Bytes) : String × Bytes :=
  let read := readChars (readBigEndian (data.take 4)) (data.drop 4)
  (String.ofList read.1, read.2)

def credentialToVec (credential : StoredCredential) : Except String Bytes :=
  .ok (putChars credential.identityCommitment ++ putChars credential.identitySecretHash ++
    putChars credential.registryId)

def credentialFromSlice (data : Bytes) : Except String StoredCredential :=
  let commitment := takeChars data
  let secretHash := takeChars commitment.2
  let registry := takeChars secretHash.2
  .ok ⟨commitment.1, secretHash.1, registry.1⟩

/-! ## Lengths of pretty-printed JSON -/

def digits (value : ℕ) : ℕ :=
  (Nat.toDigits 10 value).length

/-- The line of a property of a nested object: indentation, quoted key, colon, value,
comma and line break. -/
def property (depth : ℕ) (key : String) (valueLength : ℕ) : ℕ :=
  2 * depth + (utf8 key).length + 2 + 2 + valueLength + 2

def quoted (text : String) : ℕ :=
  (utf8 text).length + 2

/-- Braces or brackets around entries on lines of their own, the last without
its comma. -/
def block (depth entries : ℕ) : ℕ :=
  if entries = 0 then 2 else 1 + 1 + (entries - 1) + 2 * depth + 1

def entryLength (hash : String) (entry : SealedEntry) : ℕ :=
  let identity := block 3 (property 4 "registry_id" (quoted entry.identity.registryId) +
    property 4 "rln_identifier" (quoted entry.identity.rlnIdentifier) +
    property 4 "identity_commitment" (quoted entry.identity.identityCommitment) +
    property 4 "submitted_at" (digits entry.identity.submittedAt.toNat))
  property 2 hash (block 2 (property 3 "identity" identity + property 3 "nonce" (quoted entry.nonce) +
    property 3 "ct" (quoted entry.ct)))

def sealedLength (file : SealedFile) : ℕ :=
  let kdf := block 1 (property 2 "m_cost_kib" (digits file.kdf.mCostKib.toNat) +
    property 2 "t_cost" (digits file.kdf.tCost.toNat) +
    property 2 "p_cost" (digits file.kdf.pCost.toNat) + property 2 "salt" (quoted file.kdf.salt))
  block 0 (property 1 "format" (quoted file.format) + property 1 "version" (digits file.version.toNat) +
    property 1 "kdf" kdf + property 1 "verifier" (quoted file.verifier) +
    property 1 "store_uuid" (quoted file.storeUuid) +
    property 1 "credentials" (block 1
      (file.credentials.toList.map fun entry => entryLength entry.1 entry.2).sum))

def rowLength (row : AllocRow) : ℕ :=
  8 + block 4 (property 5 "rln_identifier" (quoted row.rlnIdentifier) +
    property 5 "epoch" (digits row.epoch.toNat) + property 5 "used" (digits row.used.toNat)) + 2

def sectionLength (hash : String) (stored : Section) : ℕ :=
  property 2 hash (block 2 (property 3 "epoch_size_sec" (digits stored.epochSizeSec.toNat) +
    property 3 "prune_floor" (digits stored.pruneFloor.toNat) +
    property 3 "allocations" (block 3 (stored.allocations.map rowLength).sum) +
    property 3 "mac" (quoted stored.mac)))

def allocationsLength (file : AllocationsFile) : ℕ :=
  block 0 (property 1 "format" (quoted file.format) + property 1 "version" (digits file.version.toNat) +
    property 1 "store_uuid" (quoted file.storeUuid) +
    property 1 "sections" (block 1
      (file.sections.toList.map fun entry => sectionLength entry.1 entry.2).sum) +
    property 1 "root_mac" (quoted file.rootMac))

def stateLength : MembershipState → ℕ
  | .unknown => 9
  | .pending => 9
  | .failed => 8
  | .active => 8
  | .gracePeriod => 14
  | .expired => 9
  | .erasedAwaitsWithdrawal => 26
  | .erased => 8
  | .slashed => 9

def rowStateLength (hash : String) (row : CacheState) : ℕ :=
  let optional {A : Type} (key : String) (length : A → ℕ) (value : Option A) : ℕ :=
    (value.map fun value => property 3 key (length value)).getD 0
  property 2 hash (block 2 (property 3 "state" (stateLength row.state) +
    optional "leaf_index" (fun value : UInt64 => digits value.toNat) row.leafIndex +
    optional "rate_limit" (fun value : UInt64 => digits value.toNat) row.rateLimit +
    optional "failed_reason" quoted row.failedReason +
    optional "retryable" (fun value : Bool => if value then 4 else 5) row.retryable +
    optional "tx_result" quoted row.txResult +
    optional "first_active_at" (fun value : UInt64 => digits value.toNat) row.firstActiveAt))

def cacheLength (file : CacheFile) : ℕ :=
  block 0 (property 1 "format" (quoted file.format) + property 1 "version" (digits file.version.toNat) +
    property 1 "entries" (block 1
      (file.entries.toList.map fun entry => rowStateLength entry.1 entry.2).sum))

def libraries : Libraries where
  argon2Params _ _ _ := true
  argon2id mCostKib tCost pCost password salt :=
    some (digest (putU64 mCostKib.toUInt64 ++ putU64 tCost.toUInt64 ++ putU64 pCost.toUInt64 ++
      lengthPrefixed 8 password ++ salt))
  hkdfExpand masterKey info := digest (masterKey.toList ++ info)
  hmacSha256 key payload := digest (key.toList ++ payload)
  sha256 := digest
  encrypt := encrypt
  decrypt := decrypt
  credentialToVec := credentialToVec
  credentialFromSlice := credentialFromSlice
  sealedLength := sealedLength
  allocationsLength := allocationsLength
  cacheLength := cacheLength

/-! ## A concrete environment -/

def env : OpenEnv where
  dir := "/persist"
  lock := .taken
  now := 1700000000
  canRename _ := true

def random : UnlockRandom where
  salt := some (List.Vector.replicate 16 1)
  uuid := some (List.Vector.replicate 16 2)

def nonce : Option Bytes24 := some (List.Vector.replicate 24 3)

def registryId : String := "logos:1:0000000000000000000000000000000000000000000000000000000000000007"

def commitment (n : ℕ) : Bytes32 := ⟨bigEndian 32 n, length_bigEndian 32 n⟩

/-- A consistent registration under the `n`-th commitment. -/
def registration (n : ℕ) : Registration where
  hash := membershipHash digest registryId (commitment n)
  identity := ⟨registryId, "", bytesToHex (commitment n).toList, 0⟩
  credential := ⟨bytesToHex (commitment n).toList, "00", registryId⟩
  rateLimit := 10

def writes : InsertWrites := ⟨.ok, .ok, .ok⟩

def insertOp (n : ℕ) : Op := .insert (registration n) nonce writes

def unlockOp : Op := .unlock "pw" random .ok

/-- Sealing and coding are undone by opening and decoding. -/
theorem laws : Laws libraries where
  decrypt_encrypt key nonce aad msg ct hct := by
    obtain rfl := Option.some.inj hct
    have hlength : (aeadTag key nonce aad msg).length = 32 := List.Vector.toList_length _
    simp [libraries, decrypt, hlength]
  decodes credential bytes hbytes := rfl

/-! ## The store on an empty directory -/

def params : KdfParams where
  mCostKib := 65536
  tCost := 3
  pCost := 1
  salt := bytesToHex (List.Vector.replicate 16 (1 : UInt8)).toList

def uuid : Bytes16 := List.Vector.replicate 16 2

def masterKey : Bytes32 :=
  digest (putU64 65536 ++ putU64 3 ++ putU64 1 ++ lengthPrefixed 8 (utf8 "pw") ++
    (List.Vector.replicate 16 (1 : UInt8)).toList)

def keys : SubKeys := SubKeys.derive libraries.toPrimitives masterKey

theorem deriveKeys_params : deriveKeys libraries "pw" params = .ok keys := by
  have hsalt : hexToVec params.salt = some (List.Vector.replicate 16 (1 : UInt8)).toList :=
    hexToVec_bytesToHex _
  simp only [deriveKeys, MasterKey.derive, hsalt, keys, masterKey]
  rfl

/-- Memory after the first unlock. -/
def provisionedInner : Inner :=
  { openedInner libraries none none ∅ with
    sealedStore := some (provisionedFile params keys uuid)
    storeUuid := some uuid
    session := some ⟨"pw", keys⟩ }

def provisionedDisk : Disk where
  sealedText := .text (sealedLength (provisionedFile params keys uuid))
    (.ok (provisionedFile params keys uuid))

theorem run_provisioned :
    Run.run (step libraries) {} [.openStore env, unlockOp] =
      ⟨provisionedDisk, some (publish provisionedInner)⟩ := by
  have hopen : (step libraries {} (.openStore env)).1 =
      ⟨{}, some (publish (openedInner libraries none none ∅))⟩ := rfl
  have hprovisions : Provisions libraries "pw" random (openedInner libraries none none ∅) params keys
      uuid := ⟨rfl, rfl, rfl, deriveKeys_params, rfl⟩
  have hunlock := @unlock_of_empty libraries "pw" random
    (publish (openedInner libraries none none ∅)) {} params keys uuid hprovisions
  have hstep : (step libraries ⟨{}, some (publish (openedInner libraries none none ∅))⟩
      unlockOp).1 = ⟨provisionedDisk, some (publish provisionedInner)⟩ := by
    simp only [unlockOp, step, withReply, hunlock]
    rfl
  rw [Run.run_cons, hopen, Run.run_cons, Run.run_nil, hstep]

theorem answered_open : (step libraries {} (.openStore env)).2.isError = false := rfl

theorem answered_unlock :
    (step libraries (step libraries {} (.openStore env)).1 unlockOp).2.isError = false := by
  have hopen : (step libraries {} (.openStore env)).1 =
      ⟨{}, some (publish (openedInner libraries none none ∅))⟩ := rfl
  have hprovisions : Provisions libraries "pw" random (openedInner libraries none none ∅) params keys
      uuid := ⟨rfl, rfl, rfl, deriveKeys_params, rfl⟩
  have hunlock := @unlock_of_empty libraries "pw" random
    (publish (openedInner libraries none none ∅)) {} params keys uuid hprovisions
  rw [hopen]
  simp only [unlockOp, step, withReply, hunlock]
  rfl

def entry (n : ℕ) : SealedEntry where
  identity := (registration n).identity
  nonce := bytesToHex (List.Vector.replicate 24 (3 : UInt8)).toList
  ct :=
    let aad := credentialAad (registration n).hash (registration n).identity uuid
    let plaintext := putChars (registration n).credential.identityCommitment ++
      putChars (registration n).credential.identitySecretHash ++
      putChars (registration n).credential.registryId
    bytesToHex (aeadTag keys.sealKey (List.Vector.replicate 24 3) aad plaintext ++ plaintext)

theorem sealsEntry (n : ℕ) : SealsEntry libraries keys uuid (registration n) nonce (entry n) :=
  ⟨_, List.Vector.replicate 24 3, _, rfl, rfl, rfl, rfl⟩

theorem eq_entry {n : ℕ} {sealedEntry : SealedEntry}
    (hentry : SealsEntry libraries keys uuid (registration n) nonce sealedEntry) :
    entry n = sealedEntry := by
  obtain ⟨plaintext, drawn, ct, hdrawn, hplain, hencrypt, rfl⟩ := hentry
  obtain rfl := Option.some.inj hdrawn
  obtain rfl := Except.ok.inj hplain
  obtain rfl := Option.some.inj hencrypt
  rfl

theorem step_insertOp {inner : Inner} {snapshot : StringMap MembershipRecord} {disk : Disk}
    {password : String} {file : SealedFile} (hunlocked : Unlocked inner ⟨password, keys⟩ uuid)
    (hsealed : inner.sealedStore = some file) (n : ℕ) :
    step libraries ⟨disk, some ⟨inner, snapshot⟩⟩ (insertOp n) =
      (⟨committedDisk libraries (registration n) writes keys uuid inner file (entry n) disk,
        some (publish (committedInner libraries (registration n) keys uuid inner file (entry n)))⟩,
        .inserted (.ok ())) := by
  have hinsert := @insert_of_unlocked libraries (registration n) ⟨inner, snapshot⟩ disk _ uuid file
    (List.Vector.replicate 24 3) _ _ hunlocked hsealed rfl rfl
  simp only [step, insertOp, nonce, writes, hinsert, withReply]
  rfl

theorem recomputes_registration (n : ℕ) :
    recomputes libraries (registration n).hash (registration n).identity = true := by
  simp [recomputes, registration, libraries]

theorem unlocked_provisionedInner : Unlocked provisionedInner ⟨"pw", keys⟩ uuid := ⟨rfl, rfl, rfl⟩

/-- Different small commitments have different hashes. -/
theorem hash_injective {first second : ℕ} (hfirst : first < 65536) (hsecond : second < 65536)
    (hsame : (registration first).hash = (registration second).hash) : first = second := by
  have hdigest := congrArg hexToVec hsame
  simp only [registration, membershipHash, hexToVec_bytesToHex, Option.some.injEq] at hdigest
  let head : ℕ := (utf8 registryId ++ [0] ++ bigEndian 30 0).foldl
    (fun acc (b : UInt8) => acc * 1000003 + b.toNat + 1) 7
  -- commitments below 65536 differ in their last two bytes at most
  have hdigest_eq : ∀ n < 65536,
      (digest (utf8 registryId ++ [0] ++ (commitment n).toList)).toList =
        bigEndian 32 (((head * 1000003 + 1) * 1000003 + 1 + (n / 256 * 1000003 + n % 256)) % 256 ^ 32) := by
    intro n hn
    have hbytes : (commitment n).toList =
        bigEndian 30 (n / 256 / 256) ++ [UInt8.ofNat (n / 256 % 256)] ++ [UInt8.ofNat (n % 256)] :=
      rfl
    have hzero : n / 256 / 256 = 0 := by omega
    have hhigh : (UInt8.ofNat (n / 256 % 256)).toNat = n / 256 := by
      rw [UInt8.toNat_ofNat']
      omega
    have hlow : (UInt8.ofNat (n % 256)).toNat = n % 256 := by
      rw [UInt8.toNat_ofNat']
      omega
    have hpolynomial : (head * 1000003 + 1) * 1000003 + 1 + (n / 256 * 1000003 + n % 256) =
        (head * 1000003 + n / 256 + 1) * 1000003 + n % 256 + 1 := by ring
    rw [bigEndian_mod, hbytes, hzero, hpolynomial]
    simp only [digest, List.Vector.toList_mk, ← List.append_assoc, List.foldl_concat, hhigh, hlow]
    rfl
  rw [hdigest_eq first hfirst, hdigest_eq second hsecond] at hdigest
  have hmod : Nat.ModEq (256 ^ 32)
      ((head * 1000003 + 1) * 1000003 + 1 + (first / 256 * 1000003 + first % 256))
      ((head * 1000003 + 1) * 1000003 + 1 + (second / 256 * 1000003 + second % 256)) :=
    bigEndian_injective (Nat.mod_lt _ (by norm_num)) (Nat.mod_lt _ (by norm_num)) hdigest
  have hsmall : ∀ n < 65536, n / 256 * 1000003 + n % 256 < 256 ^ 32 := by
    intro n hn
    norm_num
    omega
  have hlast := (Nat.ModEq.add_left_cancel' _ hmod).eq_of_lt_of_lt (hsmall first hfirst)
    (hsmall second hsecond)
  omega
theorem isQuarantined_provisionedInner (hash : String) :
    provisionedInner.isQuarantined hash = false := rfl

theorem sections_provisionedInner : provisionedInner.sections = ∅ := rfl

/-- Any number of memberships inserted one after the other, every call answered
without an error. -/
theorem run_inserts {count : ℕ} (hcount : count ≤ 65536) :
    ∃ inner disk file, Run.run (step libraries) ⟨provisionedDisk, some (publish provisionedInner)⟩
        ((List.range count).map insertOp) = ⟨disk, some (publish inner)⟩ ∧
      Run.Guarded (step libraries) (fun world op => (step libraries world op).2.isError = false)
        ⟨provisionedDisk, some (publish provisionedInner)⟩ ((List.range count).map insertOp) ∧
      Unlocked inner ⟨"pw", keys⟩ uuid ∧ inner.sealedStore = some file ∧
      disk.sealedText = .text (sealedLength file) (.ok file) ∧ file.credentials.size = count ∧
      ∀ hash, hash ∈ file.credentials → ∃ n < count, hash = (registration n).hash := by
  induction count with
  | zero =>
      exact ⟨provisionedInner, provisionedDisk, provisionedFile params keys uuid, rfl, trivial,
        unlocked_provisionedInner, rfl, rfl, rfl, by simp [provisionedFile, SealedFile.provision]⟩
  | succ count ih =>
      obtain ⟨inner, disk, file, hrun, hguard, hunlocked, hsealed, -, hsize, hlisted⟩ :=
        ih (by omega)
      have hinsert := @step_insertOp inner (buildSnapshot inner) disk "pw" file hunlocked hsealed
        count
      rw [List.range_succ, List.map_append, Run.run_append, hrun, Run.guarded_append, hrun]
      have hfresh : (registration count).hash ∉ file.credentials := by
        intro hmember
        obtain ⟨n, hn, hsame⟩ := hlisted _ hmember
        have := hash_injective (by omega) (by omega) hsame
        omega
      refine ⟨_, _, withEntry file (registration count).hash (entry count),
        congrArg Prod.fst hinsert, ⟨hguard, congrArg (fun result => result.2.isError) hinsert,
          trivial⟩, ⟨hunlocked.lockHeld, hunlocked.session, hunlocked.storeUuid⟩, rfl, rfl, ?_, ?_⟩
      · simp [withEntry, Std.ExtTreeMap.size_insert, hfresh, hsize]
      · intro hash hmember
        simp only [withEntry, Std.ExtTreeMap.mem_insert, Std.compare_eq_iff_eq] at hmember
        rcases hmember with rfl | hold
        · exact ⟨count, by omega, rfl⟩
        · obtain ⟨n, hn, hhash⟩ := hlisted hash hold
          exact ⟨n, by omega, hhash⟩

/-! ## One member under any ledger -/

def member : String := (registration 1).hash

theorem hash_two_ne_member : (registration 2).hash ≠ member :=
  fun hsame => absurd (hash_injective (by decide) (by decide) hsame) (by decide)

def memberFile : SealedFile := withEntry (provisionedFile params keys uuid) member (entry 1)

theorem memberFile_entry : memberFile.credentials[member]? = some (entry 1) := by
  simp [memberFile, withEntry]

theorem parseUuid_memberFile : parseUuid memberFile.storeUuid = some uuid := by
  have hheader : memberFile.storeUuid = bytesToHex uuid.toList := rfl
  rw [hheader, parseUuid_bytesToHex]

theorem verifier_memberFile : keys.verify.toList = (hexToVec memberFile.verifier).getD [] := by
  have hheader : memberFile.verifier = bytesToHex keys.verify.toList := rfl
  rw [hheader, hexToVec_bytesToHex, Option.getD_some]

theorem readSealed_memberFile {size : ℕ} (hsize : size ≤ maxFileBytes) :
    readSealed (.text size (.ok memberFile)) = some memberFile :=
  readSealed_text hsize (by simp [memberFile, withEntry, provisionedFile, SealedFile.provision,
    maxCredentials, Std.ExtTreeMap.size_insert]) rfl rfl

/-- The member's section as its insert stamps it. -/
def untouchedSection : Section := stampSection libraries keys uuid member {}

/-- A ledger of the store that holds one section of the member. -/
def ledgerWith (stored : Section) (rootMac : String) : AllocationsFile where
  format := formatAllocations
  version := formatVersion
  storeUuid := bytesToHex uuid.toList
  sections := (∅ : StringMap Section).insert member stored
  rootMac := rootMac

theorem storeUuid_ledgerWith (stored : Section) (rootMac : String) :
    (ledgerWith stored rootMac).storeUuid = memberFile.storeUuid := rfl

theorem ledgerWith_member (stored : Section) (rootMac : String) :
    (ledgerWith stored rootMac).sections[member]? = some stored := by
  simp [ledgerWith]

theorem getElem?_ledgerWith {stored found : Section} {rootMac hash : String}
    (hfound : (ledgerWith stored rootMac).sections[hash]? = some found) : found = stored := by
  simp only [ledgerWith, Std.ExtTreeMap.getElem?_insert] at hfound
  split at hfound
  · exact (Option.some.inj hfound).symm
  · simp at hfound

theorem readLedger_ledgerWith {size : ℕ} {stored : Section} {rootMac : String}
    (hsize : size ≤ maxFileBytes) (hrows : stored.allocations.length ≤ maxRowsPerSection) :
    readLedger (.text size (.ok (ledgerWith stored rootMac))) = some (ledgerWith stored rootMac) := by
  have hcaps : checkAllocationsCaps (ledgerWith stored rootMac) = .ok () := by
    rw [checkAllocationsCaps_eq_ok_iff]
    refine ⟨by simp [ledgerWith, maxSections, Std.ExtTreeMap.size_insert], ?_⟩
    intro hash found hfound
    rw [getElem?_ledgerWith hfound]
    exact hrows
  exact readLedger_text hsize hcaps rfl rfl

/-- What the member's directory opens as under a ledger. -/
structure Loaded (ledger : AllocationsFile) (stored : Section) (inner : Inner) : Prop where
  lockHeld : inner.lockHeld = true
  sealedStore : inner.sealedStore = some memberFile
  storeUuid : inner.storeUuid = some uuid
  census : member ∉ inner.censusQuarantined
  counters : inner.sections[member]? = some (toAllocationState stored)
  rawSections : inner.rawSections = ledger.sections
  rootMacRaw : inner.rootMacRaw = hexToBytes32 ledger.rootMac

theorem loaded_openedInner (stored : Section) (rootMac : String) (cache : StringMap CacheState) :
    Loaded (ledgerWith stored rootMac) stored
      (openedInner libraries (some memberFile) (some (ledgerWith stored rootMac)) cache) where
  lockHeld := rfl
  sealedStore := rfl
  storeUuid := parseUuid_memberFile
  census hcensus := by
    rcases mem_loadedFrom_census.mp hcensus with hcensus | ⟨-, hmissing⟩
    · obtain ⟨_, hsome, hfails⟩ := mem_censusFailures.mp hcensus
      cases memberFile_entry.symm.trans hsome
      exact absurd (hfails.symm.trans (recomputes_registration 1)) (by decide)
    · exact hmissing _ rfl (storeUuid_ledgerWith stored rootMac)
        (OrderedMap.mem_iff_exists.mpr ⟨_, ledgerWith_member stored rootMac⟩)
  counters := getElem?_loadedFrom_sections.mpr ⟨_, stored, rfl, storeUuid_ledgerWith stored rootMac,
    OrderedMap.mem_iff_exists.mpr ⟨_, memberFile_entry⟩, ledgerWith_member stored rootMac, rfl⟩
  rawSections := rawSections_openedInner (storeUuid_ledgerWith stored rootMac) cache
  rootMacRaw := rootMacRaw_openedInner (storeUuid_ledgerWith stored rootMac) cache

theorem Loaded.authenticated {ledger : AllocationsFile} {stored : Section} {inner : Inner}
    (hloaded : Loaded ledger stored inner) :
    Authenticated libraries "pw" inner memberFile uuid keys where
  lockHeld := hloaded.lockHeld
  sealedStore := hloaded.sealedStore
  storeUuid := hloaded.storeUuid
  derived := deriveKeys_params
  verifier := verifier_memberFile
  someStanding := by
    rw [Bool.eq_false_iff, Ne, allQuarantined_iff hloaded.sealedStore]
    exact fun hall => hloaded.census
      (hall member (OrderedMap.mem_iff_exists.mpr ⟨_, memberFile_entry⟩))

/-- The member's store once it is unlocked. -/
def unlockedInner (opened : Inner) : Inner :=
  authenticatedInner libraries "pw" opened memberFile uuid keys

theorem Loaded.unlocked {ledger : AllocationsFile} {stored : Section} {inner : Inner}
    (hloaded : Loaded ledger stored inner) : Unlocked (unlockedInner inner) ⟨"pw", keys⟩ uuid :=
  ⟨hloaded.lockHeld, rfl, hloaded.storeUuid⟩

/-- The member's directory opens and unlocks under any readable ledger of the
store. -/
theorem run_loaded {disk : Disk} {size size' : ℕ} {stored : Section} {rootMac : String}
    (hsealed : disk.sealedText = .text size (.ok memberFile)) (hsize : size ≤ maxFileBytes)
    (hledger : disk.allocations = .text size' (.ok (ledgerWith stored rootMac)))
    (hsize' : size' ≤ maxFileBytes) (hrows : stored.allocations.length ≤ maxRowsPerSection) :
    ∃ opened, Loaded (ledgerWith stored rootMac) stored opened ∧
      ∃ disk', Run.run (step libraries) { disk } [.openStore env, unlockOp] =
        ⟨disk', some (publish (unlockedInner opened))⟩ := by
  obtain ⟨cache, disk', hopen, -, -⟩ := @openStore_of_readSealed libraries env disk memberFile rfl
    (by rw [hsealed, readSealed_memberFile hsize]) (by rw [parseUuid_memberFile]; rfl)
  rw [hledger, readLedger_ledgerWith hsize' hrows] at hopen
  have hloaded := loaded_openedInner stored rootMac cache
  generalize openedInner libraries (some memberFile) (some (ledgerWith stored rootMac)) cache =
    opened at hopen hloaded
  have hlock : ({ disk } : World).lockOutcome env = env.lock := rfl
  have hstep : (step libraries { disk } (.openStore env)).1 =
      ⟨disk', some (publish opened)⟩ := by
    simp only [step, hlock, hopen]
  have hcount : 0 < (publish opened).inner.credentialCount :=
    credentialCount_pos (hasCredential_iff.mpr ⟨memberFile, hloaded.sealedStore,
      OrderedMap.mem_iff_exists.mpr ⟨_, memberFile_entry⟩⟩)
  obtain ⟨unlocked, hunlock⟩ := @unlock_of_authenticated libraries "pw" random .ok
    (publish opened) disk' memberFile uuid keys hloaded.authenticated hcount
  refine ⟨opened, hloaded, disk', ?_⟩
  rw [Run.run_cons, hstep, Run.run_cons, Run.run_nil]
  simp only [unlockOp, step, withReply, hunlock]
  rfl

/-! ## Lengths of the first files -/

theorem block_le (depth entries : ℕ) : block depth entries ≤ entries + 2 * depth + 2 := by
  simp only [block]
  split <;> omega

theorem property_eq (depth : ℕ) (key : String) (length : ℕ) :
    property depth key length = 2 * depth + (utf8 key).length + 6 + length := by
  simp only [property]
  omega

theorem block_property_le (rest value : ℕ) (key : String) :
    block 0 (rest + property 1 key value) ≤ block 0 (rest + property 1 key 2) + value := by
  have hleft : rest + property 1 key value ≠ 0 := by
    rw [property_eq]
    omega
  have hright : rest + property 1 key 2 ≠ 0 := by
    rw [property_eq]
    omega
  rw [block, if_neg hleft, block, if_neg hright, property_eq, property_eq]
  omega

/-- The length of a sealed file is at most its header's and its entries'. -/
theorem sealedLength_le (file : SealedFile) :
    sealedLength file ≤ sealedLength { file with credentials := ∅ } +
      ((file.credentials.toList.map fun entry => entryLength entry.1 entry.2).sum + 4) :=
  (block_property_le _ _ _).trans (Nat.add_le_add_left (block_le 1 _) _)

/-- The bytes of a coded credential. -/
def plaintext (n : ℕ) : Bytes :=
  putChars (registration n).credential.identityCommitment ++
    putChars (registration n).credential.identitySecretHash ++
    putChars (registration n).credential.registryId

theorem quoted_ct (n : ℕ) : quoted (entry n).ct = 2 * (32 + (plaintext n).length) + 2 := by
  have hct : (entry n).ct = bytesToHex (aeadTag keys.sealKey (List.Vector.replicate 24 3)
      (credentialAad (registration n).hash (registration n).identity uuid) (plaintext n) ++
        plaintext n) := rfl
  have htag : (aeadTag keys.sealKey (List.Vector.replicate 24 3)
      (credentialAad (registration n).hash (registration n).identity uuid) (plaintext n)).length =
        32 := List.Vector.toList_length _
  rw [quoted, hct, length_utf8_bytesToHex, List.length_append, htag]

theorem credentials_memberFile : memberFile.credentials.toList = [(member, entry 1)] :=
  OrderedMap.toList_eq_singleton (by
    simp [memberFile, withEntry, provisionedFile, SealedFile.provision,
      Std.ExtTreeMap.size_insert]) memberFile_entry

theorem length_plaintext : (plaintext 1).length ≤ 1000 := by
  decide +kernel

theorem length_member : (utf8 member).length ≤ 100 := by
  decide +kernel

theorem quoted_nonce : quoted (entry 1).nonce ≤ 100 := by
  decide +kernel

theorem length_identity :
    property 4 "registry_id" (quoted (entry 1).identity.registryId) +
      property 4 "rln_identifier" (quoted (entry 1).identity.rlnIdentifier) +
      property 4 "identity_commitment" (quoted (entry 1).identity.identityCommitment) +
      property 4 "submitted_at" (digits (entry 1).identity.submittedAt.toNat) ≤ 400 := by
  decide +kernel

theorem entryLength_member : entryLength member (entry 1) ≤ 4000 := by
  have hidentity := length_identity
  have hnonce := quoted_nonce
  have hplaintext := length_plaintext
  have hmember := length_member
  have hkeys : (utf8 "identity").length = 8 ∧ (utf8 "nonce").length = 5 ∧
      (utf8 "ct").length = 2 := by decide
  rw [entryLength]
  generalize property 4 "registry_id" (quoted (entry 1).identity.registryId) +
    property 4 "rln_identifier" (quoted (entry 1).identity.rlnIdentifier) +
    property 4 "identity_commitment" (quoted (entry 1).identity.identityCommitment) +
    property 4 "submitted_at" (digits (entry 1).identity.submittedAt.toNat) = identity at *
  rw [quoted_ct]
  generalize quoted (entry 1).nonce = nonce at *
  generalize (plaintext 1).length = plain at *
  have hinner := block_le 3 identity
  have houter := block_le 2 (property 3 "identity" (block 3 identity) + property 3 "nonce" nonce +
    property 3 "ct" (2 * (32 + plain) + 2))
  simp only [property_eq] at *
  omega

theorem sealedLength_provisioned :
    sealedLength (provisionedFile params keys uuid) ≤ 1000 := by
  decide +kernel

theorem sealedLength_member : sealedLength memberFile ≤ maxFileBytes := by
  have hfile := sealedLength_le memberFile
  have hheader : sealedLength { memberFile with credentials := ∅ } ≤ 1000 :=
    sealedLength_provisioned
  rw [credentials_memberFile, List.map_singleton, List.sum_singleton] at hfile
  calc sealedLength memberFile ≤ _ := hfile
    _ ≤ 1000 + (4000 + 4) := by
      have hentry := entryLength_member
      gcongr
    _ ≤ maxFileBytes := by decide

theorem cacheLength_first :
    cacheLength { entries := (insertCacheRow (registration 1) provisionedInner).cache } ≤
      maxFileBytes := by
  decide +kernel

/-- The ledger text of the first insert is far below the cap. -/
theorem allocationsLength_first :
    allocationsLength (ledgerFile libraries keys uuid
      (insertSection (registration 1).hash provisionedInner)) ≤ maxFileBytes := by
  decide +kernel

end LogosRln.SealedStore.Reference
