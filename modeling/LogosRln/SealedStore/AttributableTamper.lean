import Mathlib.Algebra.Order.BigOperators.Group.List
import LogosRln.SealedStore.CanonicalBytes
import LogosRln.SealedStore.CrashedInsert
import LogosRln.SealedStore.LedgerTamper

/-!
# Tampering that is attributed

A credential edited under its associated data no longer opens, and contents
edited under a stored tag no longer verify.  The root covers the stored tags and
nothing else, so it verifies still.  The edited memberships are quarantined, and
the ones beside them open and unlock as they were.
-/

namespace LogosRln.SealedStore.AttributableTamper

open RegistryId Crypto Format Lifecycle RateLimit Files HealthyWrites Capacity CrashedInsert

/-! ## What an edit changes -/

/-- Two entries carry one identity and the same sealed bytes. -/
structure SameCredential (left right : SealedEntry) : Prop where
  identity : left.identity = right.identity
  nonce : hexToVec left.nonce = hexToVec right.nonce
  ct : hexToVec left.ct = hexToVec right.ct

/-- Two sections have the same contents, their rows in any order. -/
structure SameSection (left right : Section) : Prop where
  epochSizeSec : left.epochSizeSec = right.epochSizeSec
  pruneFloor : left.pruneFloor = right.pruneFloor
  rows : left.allocations.Perm right.allocations

/-- The sealed file and the ledger after an edit of exactly these memberships: the
headers, the listings, the stored tags and the root are what they were. -/
structure Tampers (tampered : Finset String) (file file' : SealedFile)
    (ledger ledger' : AllocationsFile) : Prop where
  header : file' = { file with credentials := file'.credentials }
  root : ledger' = { ledger with sections := ledger'.sections }
  listed : ∀ hash, hash ∈ file'.credentials ↔ hash ∈ file.credentials
  tags : ∀ hash : String, (ledger'.sections[hash]?).map Section.mac =
    (ledger.sections[hash]?).map Section.mac
  entries : ∀ hash, hash ∉ tampered → file'.credentials[hash]? = file.credentials[hash]?
  sections : ∀ hash, hash ∉ tampered → ledger'.sections[hash]? = ledger.sections[hash]?
  members : ∀ hash ∈ tampered, hash ∈ file.credentials
  changed : ∀ (hash : String) (entry entry' : SealedEntry) (stored stored' : Section),
    hash ∈ tampered → file.credentials[hash]? = some entry →
    file'.credentials[hash]? = some entry' → ledger.sections[hash]? = some stored →
    ledger'.sections[hash]? = some stored' →
    ¬ (SameCredential entry' entry ∧ SameSection stored' stored)

/-- What a JSON text of `size` bytes can hold of a sealed file. -/
structure SealedHeldBy (size : ℕ) (file : SealedFile) : Prop where
  hash : ∀ hash, hash ∈ file.credentials → (utf8 hash).length ≤ size
  identity : ∀ (hash : String) (entry : SealedEntry), file.credentials[hash]? = some entry →
    (utf8 entry.identity.registryId).length ≤ size ∧
      (utf8 entry.identity.rlnIdentifier).length ≤ size ∧
      (utf8 entry.identity.identityCommitment).length ≤ size

/-- Ideal cryptography against one edit: what opens in the edited file was sealed in
the file as it was, byte for byte, and no edited section shares the tag of its
contents with the section it replaces. -/
structure Ideal (libs : Libraries) (keys : SubKeys) (uuid : Bytes16) (file file' : SealedFile)
    (ledger ledger' : AllocationsFile) : Prop where
  sealedEntries : ∀ (hash : String) (entry' : SealedEntry),
    file'.credentials[hash]? = some entry' →
    credentialOpens libs keys (credentialAad hash entry'.identity uuid) entry' = true →
    ∃ origin entry, file.credentials[origin]? = some entry ∧
      credentialAad hash entry'.identity uuid = credentialAad origin entry.identity uuid ∧
      hexToVec entry'.nonce = hexToVec entry.nonce ∧ hexToVec entry'.ct = hexToVec entry.ct
  tags : ∀ (hash : String) (stored stored' : Section), ledger.sections[hash]? = some stored →
    ledger'.sections[hash]? = some stored' →
    libs.hmacSha256 keys.ledger (LedgerTamper.payloadOf uuid hash stored') =
      libs.hmacSha256 keys.ledger (LedgerTamper.payloadOf uuid hash stored) →
    LedgerTamper.payloadOf uuid hash stored' = LedgerTamper.payloadOf uuid hash stored

/-- Four texts of at most `size` bytes hold the files of an edit. -/
structure TextsHold (size : ℕ) (file file' : SealedFile) (ledger ledger' : AllocationsFile) :
    Prop where
  bound : size < 256 ^ 4
  file : SealedHeldBy size file
  file' : SealedHeldBy size file'
  ledger : LedgerTamper.HeldBy size ledger
  ledger' : LedgerTamper.HeldBy size ledger'

/-- Files every listed membership passes all checks in. -/
structure Genuine (libs : Libraries) (keys : SubKeys) (uuid : Bytes16) (file : SealedFile)
    (ledger : AllocationsFile) : Prop where
  storeUuid : parseUuid file.storeUuid = some uuid
  sameStore : ledger.storeUuid = file.storeUuid
  passes : ∀ (hash : String) (entry : SealedEntry), file.credentials[hash]? = some entry →
    passes libs keys uuid hash entry ledger.sections (hexToBytes32 ledger.rootMac) = true

variable {libs : Libraries} {passwords : Set String} {password : String} {keys : SubKeys}
  {uuid : Bytes16} {tampered : Finset String} {size : ℕ} {file file' : SealedFile}
  {ledger ledger' : AllocationsFile} {hash : String} {disk : Disk}

theorem SealedHeldBy.fits (hheld : SealedHeldBy size file) (hsize : size < 256 ^ 4)
    {entry : SealedEntry} (hentry : file.credentials[hash]? = some entry) :
    Fits hash ∧ IdentityFits entry.identity := by
  obtain ⟨hregistry, happlication, hcommitment⟩ := hheld.identity hash entry hentry
  refine ⟨(hheld.hash hash (OrderedMap.mem_iff_exists.mpr ⟨entry, hentry⟩)).trans_lt hsize, ?_⟩
  exact ⟨hregistry.trans_lt hsize, happlication.trans_lt hsize, hcommitment.trans_lt hsize⟩

/-- What a history of the module leaves is genuine under the keys of whoever opens
its verifier. -/
theorem genuine_of_kept (hkept : Kept libs passwords disk)
    (hdistinct : Distinguishes libs passwords) (hfile : readSealed disk.sealedText = some file)
    (hledger : readLedger disk.allocations = some ledger)
    (huuid : parseUuid file.storeUuid = some uuid) (hpassword : password ∈ passwords)
    (hderived : deriveKeys libs password file.kdf = .ok keys)
    (hverifier : keys.verify.toList = (hexToVec file.verifier).getD [])
    (hmember : hash ∈ file.credentials) : Genuine libs keys uuid file ledger := by
  obtain ⟨other, hother, keys', hunder⟩ := hkept.sealedUnder file hfile
  have hsealed := hunder.of_verifier hdistinct hother hpassword hfile hderived hverifier
  have hsound : ∀ (hash : String) (entry : SealedEntry), file.credentials[hash]? = some entry →
      ledger.storeUuid = file.storeUuid ∧
        passes libs keys uuid hash entry ledger.sections (hexToBytes32 ledger.rootMac) = true := by
    intro hash entry hentry
    obtain ⟨uuid', hdisk⟩ := hsealed.sound hash
    obtain ⟨ledger', hledger', hsame, hsound⟩ := hdisk file entry hfile hentry
    cases hledger.symm.trans hledger'
    cases huuid.symm.trans hsound.storeUuid
    exact ⟨hsame, hsound.passes⟩
  obtain ⟨entry, hentry⟩ := OrderedMap.mem_iff_exists.mp hmember
  exact ⟨huuid, (hsound hash entry hentry).1, fun hash entry hentry =>
    (hsound hash entry hentry).2⟩

/-- The tag a section claims, once it verifies, is the tag of its contents. -/
theorem tag_of_sectionMacOk {stored : Section}
    (hmac : sectionMacOk libs keys hash stored uuid = true) :
    hexToBytes32 stored.mac =
      some (libs.hmacSha256 keys.ledger (LedgerTamper.payloadOf uuid hash stored)) := by
  simp only [sectionMacOk, sectionMac] at hmac
  split at hmac
  · next mac hhex =>
      rw [ctEq_iff] at hmac
      rw [hexToBytes32, hhex, Option.bind_some, ← hmac]
      exact toArray_toList _
  · cases hmac

/-- An edited credential does not open, or it seals what it sealed. -/
theorem sameCredential_of_opens (ideal : Ideal libs keys uuid file file' ledger ledger')
    (holds : TextsHold size file file' ledger ledger') {entry entry' : SealedEntry}
    (hentry : file.credentials[hash]? = some entry)
    (hentry' : file'.credentials[hash]? = some entry')
    (hopens : credentialOpens libs keys (credentialAad hash entry'.identity uuid) entry' = true) :
    SameCredential entry' entry := by
  obtain ⟨origin, sealedEntry, horigin, haad, hnonce, hct⟩ :=
    ideal.sealedEntries hash entry' hentry' hopens
  obtain ⟨hhash, hidentity⟩ := holds.file'.fits holds.bound hentry'
  obtain ⟨hhash', hidentity'⟩ := holds.file.fits holds.bound horigin
  obtain ⟨rfl, hsame, -⟩ := credentialAad_inj hhash hhash' hidentity hidentity' haad
  cases hentry.symm.trans horigin
  exact ⟨hsame, hnonce, hct⟩

/-- The store an open of the edited files gives. -/
def opened (libs : Libraries) (file' : SealedFile) (ledger' : AllocationsFile)
    (cache : StringMap CacheState) : Inner :=
  openedInner libs (some file') (some ledger') cache

theorem storeUuid_opened (libs : Libraries) (file' : SealedFile) (ledger' : AllocationsFile)
    (cache : StringMap CacheState) :
    (opened libs file' ledger' cache).storeUuid = parseUuid file'.storeUuid := by
  simp only [opened, openedInner, Option.bind_some]

/-! ## The root does not see the edit -/

section Edit

variable (tampers : Tampers tampered file file' ledger ledger')

include tampers

theorem Tampers.tag_eq (hash : String) :
    ((ledger'.sections[hash]?).bind fun stored => hexToBytes32 stored.mac) =
      (ledger.sections[hash]?).bind fun stored => hexToBytes32 stored.mac := by
  have htags := congrArg (fun mac => mac.bind hexToBytes32) (tampers.tags hash)
  simpa [Option.bind_map, Function.comp_def] using htags

theorem Tampers.storedMacs : storedMacs ledger'.sections = storedMacs ledger.sections := by
  apply Std.ExtTreeMap.ext_getElem?
  intro hash
  simp only [SealedStore.storedMacs, Std.ExtTreeMap.getElem?_filterMap']
  exact tampers.tag_eq hash

theorem Tampers.wellFormedMacs (hwell : WellFormedMacs ledger.sections) :
    WellFormedMacs ledger'.sections := by
  intro hash stored' hstored'
  have hmacs := tampers.tags hash
  have htags := tampers.tag_eq hash
  rw [hstored', Option.map_some] at hmacs
  obtain ⟨stored, hstored, -⟩ := Option.map_eq_some_iff.mp hmacs.symm
  rw [hstored', hstored, Option.bind_some, Option.bind_some] at htags
  rw [htags]
  exact hwell hash stored hstored

theorem Tampers.rootMac : ledger'.rootMac = ledger.rootMac := by
  rw [tampers.root]

theorem Tampers.rootOk
    (hroot : rootOk libs keys uuid ledger.sections (hexToBytes32 ledger.rootMac) = true) :
    rootOk libs keys uuid ledger'.sections (hexToBytes32 ledger'.rootMac) = true := by
  obtain ⟨hwell, hclaimed⟩ := rootOk_iff.mp hroot
  apply rootOk_iff.mpr
  rw [tampers.rootMac, tampers.storedMacs]
  exact ⟨tampers.wellFormedMacs hwell, hclaimed⟩

theorem Tampers.sameStore (genuine : Genuine libs keys uuid file ledger) :
    ledger'.storeUuid = file'.storeUuid := by
  rw [tampers.root, tampers.header]
  exact genuine.sameStore

/-- A membership beside the edit passes as it did. -/
theorem Tampers.passes_untouched (genuine : Genuine libs keys uuid file ledger)
    (huntouched : hash ∉ tampered) {entry : SealedEntry}
    (hentry : file'.credentials[hash]? = some entry) :
    passes libs keys uuid hash entry ledger'.sections (hexToBytes32 ledger'.rootMac) = true := by
  have hpasses := genuine.passes hash entry ((tampers.entries hash huntouched).symm.trans hentry)
  simp only [passes, ownCheck, Bool.and_eq_true] at hpasses
  obtain ⟨⟨⟨hrecomputes, hopens⟩, hsection⟩, hroot⟩ := hpasses
  have hsection' := hsection
  rw [← tampers.sections hash huntouched] at hsection'
  simp only [passes, ownCheck, hrecomputes, hopens, hsection', tampers.rootOk hroot, Bool.and_self]

/-! ## The edit is seen -/

/-- An edited section does not verify under its stored tag, or it has the contents
it had. -/
theorem Tampers.sameSection (genuine : Genuine libs keys uuid file ledger)
    (ideal : Ideal libs keys uuid file file' ledger ledger')
    (holds : TextsHold size file file' ledger ledger') {entry : SealedEntry}
    {stored stored' : Section} (hentry : file.credentials[hash]? = some entry)
    (hstored : ledger.sections[hash]? = some stored)
    (hstored' : ledger'.sections[hash]? = some stored')
    (hmac : sectionMacOk libs keys hash stored' uuid = true) : SameSection stored' stored := by
  have hpasses := genuine.passes hash entry hentry
  simp only [passes, ownCheck, Bool.and_eq_true] at hpasses
  obtain ⟨⟨-, hsection⟩, -⟩ := hpasses
  obtain ⟨original, horiginal, hgenuine⟩ := any_sectionMacOk_iff.mp hsection
  cases hstored.symm.trans horiginal
  have htags := tampers.tag_eq hash
  rw [hstored, hstored', Option.bind_some, Option.bind_some] at htags
  have hclaimed := tag_of_sectionMacOk hmac
  have hgenuineTag := tag_of_sectionMacOk hgenuine
  have hpayload := ideal.tags hash stored stored' hstored hstored'
    (Option.some.inj (hclaimed.symm.trans (htags.trans hgenuineTag)))
  obtain ⟨-, -, hepoch, hfloor, hrows⟩ := sectionMacPayload_inj
    (holds.ledger'.sectionFits holds.bound hstored')
    (holds.ledger.sectionFits holds.bound hstored) hpayload
  exact ⟨hepoch, hfloor, hrows⟩

/-! ## What opens -/

/-- Only edited memberships fail the census. -/
theorem Tampers.tampered_of_census (genuine : Genuine libs keys uuid file ledger)
    {cache : StringMap CacheState}
    (hcensus : hash ∈ (opened libs file' ledger' cache).censusQuarantined) : hash ∈ tampered := by
  by_contra huntouched
  have hchecks : ∀ entry, file'.credentials[hash]? = some entry →
      recomputes libs hash entry.identity = true ∧ hash ∈ ledger'.sections := by
    intro entry hentry
    have hpasses := tampers.passes_untouched genuine huntouched hentry
    simp only [passes, ownCheck, Bool.and_eq_true] at hpasses
    obtain ⟨⟨⟨hrecomputes, -⟩, hsection⟩, -⟩ := hpasses
    obtain ⟨stored, hstored, -⟩ := any_sectionMacOk_iff.mp hsection
    exact ⟨hrecomputes, OrderedMap.mem_iff_exists.mpr ⟨stored, hstored⟩⟩
  rcases mem_loadedFrom_census.mp hcensus with hfails | ⟨hlisted, hmissing⟩
  · obtain ⟨entry, hentry, hfails⟩ := mem_censusFailures.mp hfails
    rw [(hchecks entry hentry).1] at hfails
    cases hfails
  · obtain ⟨entry, hentry⟩ := OrderedMap.mem_iff_exists.mp hlisted
    exact hmissing ledger' rfl (tampers.sameStore genuine) (hchecks entry hentry).2

/-- The keyed checks and the census together find the edited memberships. -/
theorem Tampers.failed_iff (genuine : Genuine libs keys uuid file ledger)
    (ideal : Ideal libs keys uuid file file' ledger ledger')
    (holds : TextsHold size file file' ledger ledger') (cache : StringMap CacheState)
    (hmember : hash ∈ file'.credentials) :
    (hash ∈ (opened libs file' ledger' cache).censusQuarantined ∨
      hash ∈ keyedFailures libs keys uuid file' (opened libs file' ledger' cache)) ↔
      hash ∈ tampered := by
  obtain ⟨entry', hentry'⟩ := OrderedMap.mem_iff_exists.mp hmember
  have hraw : (opened libs file' ledger' cache).rawSections = ledger'.sections :=
    rawSections_openedInner (tampers.sameStore genuine) cache
  have hroot : (opened libs file' ledger' cache).rootMacRaw = hexToBytes32 ledger'.rootMac :=
    rootMacRaw_openedInner (tampers.sameStore genuine) cache
  constructor
  · rintro (hcensus | hkeyed)
    · exact tampers.tampered_of_census genuine hcensus
    · by_contra huntouched
      have hpasses := tampers.passes_untouched genuine huntouched hentry'
      rw [← hraw, ← hroot] at hpasses
      exact not_mem_keyedFailures_of_passes hentry' hpasses hkeyed
  · intro htampered
    by_contra hneither
    rw [not_or] at hneither
    obtain ⟨hcensus, hkeyed⟩ := hneither
    rw [mem_keyedFailures_iff hentry' hcensus, not_not, hraw] at hkeyed
    obtain ⟨hopens, hsection, -⟩ := hkeyed
    obtain ⟨stored', hstored', hmac⟩ := any_sectionMacOk_iff.mp hsection
    obtain ⟨entry, hentry⟩ := OrderedMap.mem_iff_exists.mp (tampers.members hash htampered)
    have htags := tampers.tags hash
    rw [hstored', Option.map_some] at htags
    obtain ⟨stored, hstored, -⟩ := Option.map_eq_some_iff.mp htags.symm
    exact tampers.changed hash entry entry' stored stored' htampered hentry hentry' hstored hstored'
      ⟨sameCredential_of_opens ideal holds hentry hentry' hopens,
        tampers.sameSection genuine ideal holds hentry hstored hstored' hmac⟩

theorem Tampers.authenticated (genuine : Genuine libs keys uuid file ledger)
    (hderived : deriveKeys libs password file.kdf = .ok keys)
    (hverifier : keys.verify.toList = (hexToVec file.verifier).getD [])
    (hbeside : ∃ hash ∈ file.credentials, hash ∉ tampered) (cache : StringMap CacheState) :
    Authenticated libs password (opened libs file' ledger' cache) file' uuid keys where
  lockHeld := rfl
  sealedStore := rfl
  storeUuid := by
    rw [storeUuid_opened, tampers.header]
    exact genuine.storeUuid
  derived := by
    rw [tampers.header]
    exact hderived
  verifier := by
    rw [tampers.header]
    exact hverifier
  someStanding := by
    obtain ⟨hash, hmember, huntouched⟩ := hbeside
    rw [Bool.eq_false_iff, Ne, allQuarantined_iff rfl]
    intro hall
    have hcensus := hall hash ((tampers.listed hash).mpr hmember)
    exact huntouched (tampers.tampered_of_census genuine hcensus)

end Edit

/-! ## Unlocking -/

/-- A verifying unlock answers with the number of memberships in good standing. -/
theorem unlock_answer {random : UnlockRandom} {write : WriteOutcome} {store : Store}
    (hauth : Authenticated libs password store.inner file uuid keys)
    (hcount : 0 < store.inner.credentialCount) :
    unlock libs password random write store disk =
      ⟨.ok (file.credentials.toList.filter fun entry =>
          entry.1 ∉ store.inner.censusQuarantined &&
            entry.1 ∉ keyedFailures libs keys uuid file store.inner).length,
        publish (authenticatedInner libs password store.inner file uuid keys), disk⟩ := by
  have hverifier : ctEq keys.verify.toList ((hexToVec file.verifier).getD []) = true :=
    ctEq_iff.mpr hauth.verifier
  simp only [unlock, hauth.lockHeld, hauth.someStanding, hcount.ne', authenticate,
    hauth.sealedStore, hauth.storeUuid, hauth.derived, hverifier, Bool.not_true,
    Bool.false_eq_true, if_false, and_false, authenticatedInner]

/-- A password that does not open the verifier. -/
def Wrong (libs : Libraries) (file : SealedFile) : Op → Prop
  | .unlock password _ _ => ∀ keys, deriveKeys libs password file.kdf = .ok keys →
      keys.verify.toList ≠ (hexToVec file.verifier).getD []
  | _ => False

/-- Attempts under wrong passwords leave the store and its directory as they are. -/
theorem run_wrong {store : Store} {ops : List Op} (hsealed : store.inner.sealedStore = some file)
    (hcount : 0 < store.inner.credentialCount) (hwrong : ∀ op ∈ ops, Wrong libs file op) :
    Run.run (step libs) ⟨disk, some store⟩ ops = ⟨disk, some store⟩ := by
  apply @Run.invariant_run _ _ _ (step libs) (fun _ op => Wrong libs file op)
    (fun world => world = ⟨disk, some store⟩) ?_ _ ops rfl (Run.guarded_of_forall hwrong _)
  rintro _ op rfl hop
  cases op with
  | unlock password random write =>
      rcases unlock_cases libs password random write store disk with
        ⟨error, hrefused⟩ | ⟨params, keys, uuid, hprovisions, -⟩ |
        ⟨other, uuid, keys, unlocked, hauth, -, -⟩
      · simp only [step, withReply, hrefused, refuse]
      · have hempty := hprovisions.empty
        omega
      · cases hsealed.symm.trans hauth.sealedStore
        exact absurd hauth.verifier (hop keys hauth.derived)
  | _ => exact absurd hop (by simp [Wrong])

/-- A credential that opens is handed out to a session. -/
theorem unsealCredential_of_opens {inner : Inner} {session : Session} {entry : SealedEntry}
    (hunlocked : Unlocked inner session uuid) (hsealed : inner.sealedStore = some file)
    (hentry : file.credentials[hash]? = some entry) (hstanding : inner.isQuarantined hash = false)
    (hopens : credentialOpens libs session.keys (credentialAad hash entry.identity uuid) entry =
      true) :
    ∃ credential, unsealCredential libs hash (publish inner) = .ok credential := by
  simp only [credentialOpens] at hopens
  cases hnonce : hexToVec entry.nonce with
  | none => simp [hnonce] at hopens
  | some nonce =>
  cases hct : hexToVec entry.ct with
  | none => simp [hnonce, hct] at hopens
  | some ct =>
  simp only [hnonce, hct] at hopens
  cases hplain : unsealBytes libs.toPrimitives session.keys.sealKey nonce
      (credentialAad hash entry.identity uuid) ct with
  | error error => simp [hplain] at hopens
  | ok plaintext =>
  simp only [hplain] at hopens
  cases hparsed : libs.credentialFromSlice plaintext with
  | error error => simp [hparsed, isOk] at hopens
  | ok credential =>
      refine ⟨credential, ?_⟩
      simp only [unsealCredential, publish, hstanding, hunlocked.session, hunlocked.storeUuid,
        hsealed, Option.bind_some, hentry, hnonce, hct, hplain, hparsed, Bool.false_eq_true,
        if_false]
      rfl

/-! ## The whole store -/

/-- The edited memberships are quarantined and nobody else is; the others keep their
counters and can be unsealed. -/
structure Contained (libs : Libraries) (tampered : Finset String) (file : SealedFile)
    (ledger : AllocationsFile) (store : Store) : Prop where
  quarantined : ∀ hash, store.inner.isQuarantined hash = true ↔ hash ∈ tampered
  counters : ∀ hash, hash ∈ file.credentials → hash ∉ tampered →
    ∃ stored, ledger.sections[hash]? = some stored ∧
      store.inner.sections[hash]? = some (toAllocationState stored)
  unsealed : ∀ hash, hash ∈ file.credentials → hash ∉ tampered →
    ∃ credential, unsealCredential libs hash store = .ok credential

theorem contained_of_unlock (genuine : Genuine libs keys uuid file ledger)
    (tampers : Tampers tampered file file' ledger ledger')
    (ideal : Ideal libs keys uuid file file' ledger ledger')
    (holds : TextsHold size file file' ledger ledger')
    (hderived : deriveKeys libs password file.kdf = .ok keys)
    (hverifier : keys.verify.toList = (hexToVec file.verifier).getD [])
    (hbeside : ∃ hash ∈ file.credentials, hash ∉ tampered) (cache : StringMap CacheState) :
    Contained libs tampered file ledger
      (publish (authenticatedInner libs password (opened libs file' ledger' cache) file' uuid
        keys)) := by
  have hauth := tampers.authenticated genuine hderived hverifier hbeside cache
  have hunlocked : ∀ inner, Authenticated libs password inner file' uuid keys →
      Unlocked (authenticatedInner libs password inner file' uuid keys) ⟨password, keys⟩ uuid ∧
        (authenticatedInner libs password inner file' uuid keys).sealedStore = some file' :=
    fun inner hauth => ⟨⟨hauth.lockHeld, rfl, hauth.storeUuid⟩, hauth.sealedStore⟩
  have hunlocked := hunlocked (opened libs file' ledger' cache) hauth
  generalize hinner : authenticatedInner libs password (opened libs file' ledger' cache) file' uuid
    keys = inner at hunlocked ⊢
  have hquarantined : ∀ hash, inner.isQuarantined hash = true ↔ hash ∈ tampered := by
    intro hash
    have hiff : inner.isQuarantined hash = true ↔
        hash ∈ (opened libs file' ledger' cache).censusQuarantined ∨
          hash ∈ keyedFailures libs keys uuid file' (opened libs file' ledger' cache) := by
      rw [← hinner]
      exact isQuarantined_iff
    rw [hiff]
    by_cases hmember : hash ∈ file'.credentials
    · exact tampers.failed_iff genuine ideal holds cache hmember
    · constructor
      · rintro (hcensus | hkeyed)
        · exact tampers.tampered_of_census genuine hcensus
        · exact absurd (mem_keyedFailures_credential hkeyed) hmember
      · intro htampered
        exact absurd ((tampers.listed hash).mpr (tampers.members hash htampered)) hmember
  have hbeside' : ∀ hash, hash ∈ file.credentials → hash ∉ tampered → ∃ entry stored,
      file'.credentials[hash]? = some entry ∧ ledger.sections[hash]? = some stored ∧
      ledger'.sections[hash]? = some stored ∧
      credentialOpens libs keys (credentialAad hash entry.identity uuid) entry = true := by
    intro hash hmember huntouched
    obtain ⟨entry, hentry⟩ :=
      OrderedMap.mem_iff_exists.mp ((tampers.listed hash).mpr hmember)
    have hpasses := tampers.passes_untouched genuine huntouched hentry
    simp only [passes, ownCheck, Bool.and_eq_true] at hpasses
    obtain ⟨⟨⟨-, hopens⟩, hsection⟩, -⟩ := hpasses
    obtain ⟨stored, hstored, -⟩ := any_sectionMacOk_iff.mp hsection
    exact ⟨entry, stored, hentry, (tampers.sections hash huntouched).symm.trans hstored, hstored,
      hopens⟩
  refine ⟨hquarantined, ?_, ?_⟩
  · intro hash hmember huntouched
    obtain ⟨entry, stored, hentry, hstored, hstored', -⟩ := hbeside' hash hmember huntouched
    refine ⟨stored, hstored, ?_⟩
    rw [← hinner]
    exact getElem?_loadedFrom_sections.mpr ⟨ledger', stored, rfl, tampers.sameStore genuine,
      (tampers.listed hash).mpr hmember, hstored', rfl⟩
  · intro hash hmember huntouched
    obtain ⟨entry, stored, hentry, -, -, hopens⟩ := hbeside' hash hmember huntouched
    have hstanding : inner.isQuarantined hash = false := by
      rw [Bool.eq_false_iff, Ne, hquarantined]
      exact huntouched
    exact @unsealCredential_of_opens libs uuid file' hash inner ⟨password, keys⟩ entry
      hunlocked.1 hunlocked.2 hentry hstanding hopens

/-- The files an open adopts, edited in place. -/
theorem Tampers.adoptable {disk : Disk} (tampers : Tampers tampered file file' ledger ledger')
    (hadoptable : Adoptable disk) (hfile : readSealed disk.sealedText = some file)
    {sealedText : StoreFile SealedFile} {allocations : StoreFile AllocationsFile}
    (hfile' : readSealed sealedText = some file')
    (hledger' : readLedger allocations = some ledger') :
    Adoptable { disk with sealedText, allocations } where
  sealedText := .inr (by rw [hfile']; rfl)
  allocations := .inr (by rw [hledger']; rfl)
  cache := hadoptable.cache
  oldFormat := hadoptable.oldFormat
  spelling := by
    intro read hread
    cases hfile'.symm.trans hread
    obtain ⟨uuid, hspelled⟩ := hadoptable.spelling file hfile
    refine ⟨uuid, ?_⟩
    rw [tampers.header]
    exact hspelled

/-- Let a history of calls, and of inserts the process died in, leave a sealed file
and a ledger, and let exactly the memberships in `tampered`, not all there are, have
their identity, their sealed bytes or the contents of their section changed under the
stored tags.  With ideal cryptography an open and an unlock with the right password
succeed, whatever wrong passwords are tried before and after it; the unlock answers
with the number of the other memberships, `tampered` is what is quarantined, and
every other membership keeps its counters and can be unsealed. -/
theorem tamper_contained (libs : Libraries) (hlaws : Laws libs) (passwords : Set String)
    (hdistinct : Distinguishes libs passwords) (history : List Incident)
    (hguard : Run.Guarded (incidentStep libs) (Survives libs passwords) {} history)
    (tampered : Finset String) (file' : SealedFile) (ledger' : AllocationsFile)
    (sealedText : StoreFile SealedFile) (allocations : StoreFile AllocationsFile)
    (hfile' : readSealed sealedText = some file')
    (hledger' : readLedger allocations = some ledger') :
    let reached := Run.run (incidentStep libs) {} history
    let disk : Disk := { reached.disk with sealedText, allocations }
    ∀ file ledger password keys uuid size env random write,
      readSealed reached.disk.sealedText = some file →
      readLedger reached.disk.allocations = some ledger →
      parseUuid file.storeUuid = some uuid → password ∈ passwords →
      deriveKeys libs password file.kdf = .ok keys →
      keys.verify.toList = (hexToVec file.verifier).getD [] →
      Tampers tampered file file' ledger ledger' →
      (∃ hash ∈ file.credentials, hash ∉ tampered) →
      Ideal libs keys uuid file file' ledger ledger' →
      TextsHold size file file' ledger ledger' → env.lock = .taken →
      ∃ store, store.inner.session = some ⟨password, keys⟩ ∧
        Contained libs tampered file ledger store ∧
        ∀ before after, (∀ op ∈ before ++ after, Wrong libs file op) →
          let opened := Run.run (step libs) ⟨disk, none⟩ (.openStore env :: before)
          let unlocked := step libs opened (.unlock password random write)
          unlocked.2 = .unlocked (.ok (file.credentials.size - tampered.card)) ∧
            Run.run (step libs) unlocked.1 after = ⟨disk, some store⟩ := by
  intro reached disk file ledger password keys uuid size env random write hfile hledger huuid
    hpassword hderived hverifier tampers hbeside ideal holds hlock
  have hreached : reached.Satisfies libs (Kept libs passwords) (InStep libs passwords) :=
    Run.invariant_run (kept_incident hlaws hdistinct) ⟨kept_empty, by simp⟩ hguard
  have hbeside' := hbeside
  obtain ⟨member, hmember, -⟩ := hbeside'
  have genuine : Genuine libs keys uuid file ledger := genuine_of_kept hreached.disk hdistinct hfile
    hledger huuid hpassword hderived hverifier hmember
  obtain ⟨cache, hopens⟩ := @openStore_of_adoptable libs env disk hlock
    (tampers.adoptable hreached.disk.adoptable hfile hfile' hledger')
  have hinner : openedInner libs (readSealed disk.sealedText) (readLedger disk.allocations) cache =
      opened libs file' ledger' cache := by
    rw [opened, ← hfile', ← hledger']
  rw [hinner] at hopens
  have hauth := tampers.authenticated genuine hderived hverifier hbeside cache
  have hsame : ∀ op, Wrong libs file op → Wrong libs file' op := by
    intro op hop
    rw [tampers.header]
    exact hop
  have hcount : 0 < (opened libs file' ledger' cache).credentialCount :=
    credentialCount_pos (hasCredential_iff.mpr ⟨file', rfl, (tampers.listed member).mpr hmember⟩)
  have hcontained := contained_of_unlock genuine tampers ideal holds hderived hverifier hbeside
    cache
  have hcounted : (file'.credentials.toList.filter fun entry =>
      entry.1 ∉ (opened libs file' ledger' cache).censusQuarantined &&
        entry.1 ∉ keyedFailures libs keys uuid file' (opened libs file' ledger' cache)).length =
      file.credentials.size - tampered.card := by
    have hlisted : file'.credentials.size = file.credentials.size :=
      Nat.le_antisymm (OrderedMap.size_le_of_forall_mem fun hash => (tampers.listed hash).mp)
        (OrderedMap.size_le_of_forall_mem fun hash => (tampers.listed hash).mpr)
    rw [← hlisted, ← OrderedMap.length_filter_notMem fun hash hmember =>
      (tampers.listed hash).mpr (tampers.members hash hmember)]
    congr 1
    apply List.filter_congr
    rintro ⟨hash, entry⟩ hentry
    have hfailed := tampers.failed_iff genuine ideal holds cache
      (OrderedMap.mem_iff_exists.mpr
        ⟨entry, Std.ExtTreeMap.mem_toList_iff_getElem?_eq_some.mp hentry⟩)
    simp only [← hfailed]
    simp
  generalize opened libs file' ledger' cache = inner at hopens hauth hcount hcontained hcounted
  have hwrongs : ∀ after store ops, store.inner.sealedStore = some file' →
      0 < store.inner.credentialCount → (∀ op ∈ ops, Wrong libs file op) →
      after = ⟨disk, some store⟩ → Run.run (step libs) after ops = ⟨disk, some store⟩ := by
    rintro _ store ops hsealed hcount hwrong rfl
    exact run_wrong hsealed hcount fun op hop => hsame op (hwrong op hop)
  have hopen : (step libs ⟨disk, none⟩ (.openStore env)).1 = ⟨disk, some (publish inner)⟩ := by
    have hlockOutcome : (⟨disk, none⟩ : World).lockOutcome env = env.lock := rfl
    simp only [step, hlockOutcome, hopens]
  refine ⟨_, rfl, hcontained, ?_⟩
  intro before after hwrong
  have hbefore : Run.run (step libs) ⟨disk, none⟩ (.openStore env :: before) =
      ⟨disk, some (publish inner)⟩ :=
    hwrongs _ (publish inner) before hauth.sealedStore hcount
      (fun op hop => hwrong op (List.mem_append_left _ hop)) hopen
  have hunlock := @unlock_answer libs password keys uuid file' disk random write (publish inner)
    hauth hcount
  have hunlocked : step libs ⟨disk, some (publish inner)⟩ (.unlock password random write) =
      (⟨disk, some (publish (authenticatedInner libs password inner file' uuid keys))⟩,
        .unlocked (.ok (file.credentials.size - tampered.card))) := by
    rw [← hcounted]
    simp only [step, withReply, hunlock]
    rfl
  simp only [hbefore, hunlocked, true_and]
  exact hwrongs _ (publish (authenticatedInner libs password inner file' uuid keys)) after
    hauth.sealedStore hcount (fun op hop => hwrong op (List.mem_append_right _ hop)) rfl

/-! ## Two members, one of them stripped

The first membership of a store of two loses its ciphertext. -/

/-- Memory and directory after the first of the two inserts. -/
def memberInner : Inner :=
  committedInner Reference.libraries (Reference.registration 1) Reference.keys Reference.uuid
    Reference.provisionedInner
    (provisionedFile Reference.params Reference.keys Reference.uuid) (Reference.entry 1)

def memberDisk : Disk :=
  committedDisk Reference.libraries (Reference.registration 1) Reference.writes Reference.keys
    Reference.uuid Reference.provisionedInner
    (provisionedFile Reference.params Reference.keys Reference.uuid) (Reference.entry 1)
    Reference.provisionedDisk

/-- The two files after the second. -/
def bothFile : SealedFile :=
  withEntry Reference.memberFile (Reference.registration 2).hash (Reference.entry 2)

def bothLedger : AllocationsFile :=
  ledgerFile Reference.libraries Reference.keys Reference.uuid
    (insertSection (Reference.registration 2).hash memberInner)

def bothHistory : List Incident :=
  [.call (.openStore Reference.env), .call Reference.unlockOp, .call (Reference.insertOp 1),
    .call (Reference.insertOp 2)]

def strippedEntry : SealedEntry := { Reference.entry 1 with ct := "" }

def strippedFile : SealedFile := withEntry bothFile Reference.member strippedEntry

theorem unlocked_memberInner : Unlocked memberInner ⟨"pw", Reference.keys⟩ Reference.uuid :=
  ⟨rfl, rfl, rfl⟩

theorem sealedStore_memberInner : memberInner.sealedStore = some Reference.memberFile := rfl

theorem step_member : step Reference.libraries
    ⟨Reference.provisionedDisk, some (publish Reference.provisionedInner)⟩ (Reference.insertOp 1) =
      (⟨memberDisk, some (publish memberInner)⟩, .inserted (.ok ())) :=
  @Reference.step_insertOp Reference.provisionedInner (buildSnapshot Reference.provisionedInner)
    Reference.provisionedDisk "pw" _ Reference.unlocked_provisionedInner rfl 1

theorem step_both : ∃ store, step Reference.libraries ⟨memberDisk, some (publish memberInner)⟩
      (Reference.insertOp 2) =
    (⟨committedDisk Reference.libraries (Reference.registration 2) Reference.writes Reference.keys
      Reference.uuid memberInner Reference.memberFile (Reference.entry 2) memberDisk, some store⟩,
      .inserted (.ok ())) :=
  ⟨_, @Reference.step_insertOp memberInner (buildSnapshot memberInner) memberDisk "pw" _
    unlocked_memberInner sealedStore_memberInner 2⟩

/-! ### Lengths -/

theorem sum_map_le {A : Type} {items : List A} {length : A → ℕ} {bound : ℕ}
    (hitems : ∀ item ∈ items, length item ≤ bound) :
    (items.map length).sum ≤ items.length * bound := by
  have hsum := List.sum_le_card_nsmul (items.map length) bound (by simpa using hitems)
  simpa using hsum

theorem length_hash (n : ℕ) : (utf8 (Reference.registration n).hash).length = 64 := by
  simp [Reference.registration, membershipHash, length_utf8_bytesToHex]

theorem length_commitment (n : ℕ) :
    (utf8 (Reference.registration n).identity.identityCommitment).length = 64 := by
  simp [Reference.registration, length_utf8_bytesToHex]

theorem length_registryId (n : ℕ) :
    (utf8 (Reference.registration n).identity.registryId).length = 72 ∧
      (utf8 (Reference.registration n).identity.rlnIdentifier).length = 0 := by
  constructor
  · have hregistry : (utf8 Reference.registryId).length = 72 := by decide
    exact hregistry
  · rfl

theorem length_putChars (text : String) :
    (Reference.putChars text).length = 4 + text.toList.length * 4 := by
  simp [Reference.putChars, List.length_flatMap]

theorem length_plaintext (n : ℕ) : (Reference.plaintext n).length = 564 := by
  have hcommitment : (Reference.registration n).credential.identityCommitment.toList.length =
      64 := by
    simp [Reference.registration, bytesToHex, List.length_flatMap]
  have hsecret : (Reference.registration n).credential.identitySecretHash.toList.length = 2 := by
    have hlength : "00".toList.length = 2 := by decide
    exact hlength
  have hregistry : (Reference.registration n).credential.registryId.toList.length = 72 := by
    have hlength : Reference.registryId.toList.length = 72 := by decide
    exact hlength
  simp only [Reference.plaintext, List.length_append, length_putChars, hcommitment, hsecret,
    hregistry]

theorem entryLength_le (n : ℕ) :
    Reference.entryLength (Reference.registration n).hash (Reference.entry n) ≤ 4000 := by
  obtain ⟨hregistry, happlication⟩ := length_registryId n
  have hnonce : Reference.quoted (Reference.entry n).nonce = 50 := by
    simp [Reference.quoted, Reference.entry, length_utf8_bytesToHex]
  have hidentity : (Reference.entry n).identity = (Reference.registration n).identity := rfl
  have hsubmitted : Reference.digits
      (Reference.registration n).identity.submittedAt.toNat = 1 := by
    have hdigits : Reference.digits (0 : UInt64).toNat = 1 := by decide
    exact hdigits
  have hkeys : (utf8 "identity").length = 8 ∧ (utf8 "nonce").length = 5 ∧
      (utf8 "ct").length = 2 ∧ (utf8 "registry_id").length = 11 ∧
      (utf8 "rln_identifier").length = 14 ∧ (utf8 "identity_commitment").length = 19 ∧
      (utf8 "submitted_at").length = 12 := by decide
  obtain ⟨hidentityKey, hnonceKey, hctKey, hregistryKey, happlicationKey, hcommitmentKey,
    hsubmittedKey⟩ := hkeys
  simp only [Reference.entryLength, Reference.quoted_ct, length_plaintext, hnonce, hidentity,
    Reference.property_eq, length_hash, hsubmitted]
  simp only [Reference.quoted, hregistry, happlication, length_commitment, hidentityKey, hnonceKey,
    hctKey, hregistryKey, happlicationKey, hcommitmentKey, hsubmittedKey]
  decide

theorem sectionLength_le (n : ℕ) :
    Reference.sectionLength (Reference.registration n).hash (stampSection Reference.libraries
      Reference.keys Reference.uuid (Reference.registration n).hash {}) ≤ 1000 := by
  have hmac : Reference.quoted (stampSection Reference.libraries Reference.keys Reference.uuid
      (Reference.registration n).hash {}).mac = 66 := by
    simp [Reference.quoted, stampSection, length_utf8_bytesToHex]
  have hkeys : (utf8 "epoch_size_sec").length = 14 ∧ (utf8 "prune_floor").length = 11 ∧
      (utf8 "allocations").length = 11 ∧ (utf8 "mac").length = 3 := by decide
  have hdigits : Reference.digits (0 : UInt64).toNat = 1 := rfl
  simp only [Reference.sectionLength, hmac]
  simp only [stampSection, hdigits, List.map_nil, List.sum_nil, Reference.property_eq, length_hash,
    hkeys]
  decide

theorem rowStateLength_le (n : ℕ) :
    Reference.rowStateLength (Reference.registration n).hash
      { state := .pending, rateLimit := some 10 } ≤ 1000 := by
  have hkeys : (utf8 "state").length = 5 ∧ (utf8 "rate_limit").length = 10 := by decide
  have hdigits : Reference.digits (10 : UInt64).toNat = 2 := rfl
  simp only [Reference.rowStateLength, Reference.stateLength, Option.map_some, Option.map_none,
    Option.getD_some, Option.getD_none, hdigits, Reference.property_eq, length_hash, hkeys]
  decide

/-! ### The two files -/

theorem standing_memberInner (hash : String) : memberInner.isQuarantined hash = false := by
  rw [Bool.eq_false_iff]
  intro hquarantined
  have hinserted : (insertSection (Reference.registration 1).hash
      Reference.provisionedInner).isQuarantined hash = true := hquarantined
  have hprovisioned := (isQuarantined_insertSection.mp hinserted).2
  rw [Reference.isQuarantined_provisionedInner] at hprovisioned
  cases hprovisioned

theorem standing_both (hash : String) : (insertSection (Reference.registration 2).hash
    memberInner).isQuarantined hash = false := by
  rw [Bool.eq_false_iff]
  intro hquarantined
  have hmember := (isQuarantined_insertSection.mp hquarantined).2
  rw [standing_memberInner] at hmember
  cases hmember

theorem sections_both : (insertSection (Reference.registration 2).hash memberInner).sections =
    ((∅ : StringMap AllocationState).insertIfNew (Reference.registration 1).hash {}).insertIfNew
      (Reference.registration 2).hash {} := by
  have hmember : memberInner.sections =
      (insertSection (Reference.registration 1).hash Reference.provisionedInner).sections := rfl
  simp only [insertSection, standing_memberInner, Bool.false_eq_true, if_false, hmember,
    Reference.isQuarantined_provisionedInner, Reference.sections_provisionedInner]

/-- The ledger has a fresh section for each of the two. -/
theorem getElem?_bothLedger {hash : String} {stored : Section}
    (hstored : bothLedger.sections[hash]? = some stored) :
    ∃ n, hash = (Reference.registration n).hash ∧ hash ∈ bothFile.credentials ∧
      stored = stampSection Reference.libraries Reference.keys Reference.uuid hash {} := by
  obtain ⟨alloc, halloc, ⟨hquarantined, -⟩ | ⟨-, rfl⟩⟩ :=
    writtenSections_cases Reference.libraries hstored
  · rw [standing_both] at hquarantined
    cases hquarantined
  · rw [sections_both, Std.ExtTreeMap.getElem?_insertIfNew] at halloc
    split at halloc
    · next hsecond =>
        obtain rfl := Option.some.inj halloc
        obtain rfl := Std.compare_eq_iff_eq.mp hsecond.1
        exact ⟨2, rfl, by simp [bothFile, withEntry], rfl⟩
    · rw [Std.ExtTreeMap.getElem?_insertIfNew] at halloc
      split at halloc
      · next hfirst =>
          obtain rfl := Option.some.inj halloc
          obtain rfl := Std.compare_eq_iff_eq.mp hfirst.1
          exact ⟨1, rfl, by simp [bothFile, Reference.memberFile, Reference.member, withEntry], rfl⟩
      · simp at halloc

theorem getElem?_bothFile {hash : String} {entry : SealedEntry}
    (hentry : bothFile.credentials[hash]? = some entry) :
    ∃ n, hash = (Reference.registration n).hash ∧ entry = Reference.entry n := by
  simp only [bothFile, Reference.memberFile, withEntry, Std.ExtTreeMap.getElem?_insert,
    Std.compare_eq_iff_eq] at hentry
  split at hentry
  · next hsecond => exact ⟨2, hsecond.symm, (Option.some.inj hentry).symm⟩
  · split at hentry
    · next hfirst => exact ⟨1, hfirst.symm, (Option.some.inj hentry).symm⟩
    · simp [provisionedFile, SealedFile.provision] at hentry

theorem size_bothFile : bothFile.credentials.size = 2 := by
  have hfresh : (Reference.registration 2).hash ∉ Reference.memberFile.credentials := by
    intro hmember
    obtain ⟨entry, hentry⟩ := OrderedMap.mem_iff_exists.mp hmember
    rw [← Std.ExtTreeMap.mem_toList_iff_getElem?_eq_some, Reference.credentials_memberFile,
      List.mem_singleton] at hentry
    exact Reference.hash_two_ne_member (Prod.mk.inj hentry).1
  have hmember : Reference.memberFile.credentials.size = 1 := by
    rw [← Std.ExtTreeMap.length_toList, Reference.credentials_memberFile]
    rfl
  simp [bothFile, withEntry, Std.ExtTreeMap.size_insert, hfresh, hmember]

theorem size_bothLedger : bothLedger.sections.size ≤ 2 := by
  rw [← size_bothFile]
  apply OrderedMap.size_le_of_forall_mem
  intro hash hmember
  obtain ⟨stored, hstored⟩ := OrderedMap.mem_iff_exists.mp hmember
  obtain ⟨-, -, hlisted, -⟩ := getElem?_bothLedger hstored
  exact hlisted

theorem sealedLength_both : Reference.sealedLength bothFile ≤ maxFileBytes := by
  have hheader : Reference.sealedLength { bothFile with credentials := ∅ } ≤ 1000 :=
    Reference.sealedLength_provisioned
  have hentries : (bothFile.credentials.toList.map fun entry =>
      Reference.entryLength entry.1 entry.2).sum ≤ bothFile.credentials.toList.length * 4000 := by
    apply sum_map_le
    rintro ⟨hash, entry⟩ hentry
    obtain ⟨n, rfl, rfl⟩ :=
      getElem?_bothFile (Std.ExtTreeMap.mem_toList_iff_getElem?_eq_some.mp hentry)
    exact entryLength_le n
  rw [Std.ExtTreeMap.length_toList, size_bothFile] at hentries
  calc Reference.sealedLength bothFile ≤ _ := Reference.sealedLength_le bothFile
    _ ≤ 1000 + (2 * 4000 + 4) := by gcongr
    _ ≤ maxFileBytes := by decide

theorem allocationsLength_le (libs : Libraries) (keys : SubKeys) (uuid : Bytes16) (inner : Inner)
    (hsections : ((ledgerFile libs keys uuid inner).sections.toList.map fun entry =>
      Reference.sectionLength entry.1 entry.2).sum ≤ 2000) :
    Reference.allocationsLength (ledgerFile libs keys uuid inner) ≤ maxFileBytes := by
  have huuid : Reference.quoted (ledgerFile libs keys uuid inner).storeUuid = 34 := by
    simp [ledgerFile, Reference.quoted, length_utf8_bytesToHex]
  have hroot : Reference.quoted (ledgerFile libs keys uuid inner).rootMac = 66 := by
    simp [ledgerFile, Reference.quoted, length_utf8_bytesToHex]
  have hquoted : Reference.quoted formatAllocations = 24 := by decide
  have hdigits : Reference.digits formatVersion.toNat = 1 := by decide
  have hkeys : (utf8 "format").length = 6 ∧ (utf8 "version").length = 7 ∧
      (utf8 "store_uuid").length = 10 ∧ (utf8 "sections").length = 8 ∧
      (utf8 "root_mac").length = 8 := by decide
  have hformat : (ledgerFile libs keys uuid inner).format = formatAllocations := rfl
  have hversion : (ledgerFile libs keys uuid inner).version = formatVersion := rfl
  generalize ledgerFile libs keys uuid inner = ledger at *
  have hinner := Reference.block_le 1 (ledger.sections.toList.map fun entry =>
    Reference.sectionLength entry.1 entry.2).sum
  have hcap : 10000 ≤ maxFileBytes := by decide
  refine (Reference.block_le 0 _).trans ?_
  simp only [Reference.property_eq, huuid, hroot, hformat, hversion, hquoted, hdigits, hkeys]
  omega

theorem allocationsLength_both : Reference.allocationsLength bothLedger ≤ maxFileBytes := by
  apply allocationsLength_le
  have hsections : (bothLedger.sections.toList.map fun entry =>
      Reference.sectionLength entry.1 entry.2).sum ≤ bothLedger.sections.toList.length * 1000 := by
    apply sum_map_le
    rintro ⟨hash, stored⟩ hstored
    obtain ⟨n, rfl, -, rfl⟩ :=
      getElem?_bothLedger (Std.ExtTreeMap.mem_toList_iff_getElem?_eq_some.mp hstored)
    exact sectionLength_le n
  rw [Std.ExtTreeMap.length_toList] at hsections
  exact hsections.trans (Nat.mul_le_mul_right 1000 size_bothLedger)

theorem getElem?_bothCache {hash : String} {row : CacheState}
    (hrow : (insertCacheRow (Reference.registration 2) memberInner).cache[hash]? = some row) :
    ∃ n, hash = (Reference.registration n).hash ∧ hash ∈ bothFile.credentials ∧
      row = { state := .pending, rateLimit := some 10 } := by
  have hmember : memberInner.cache =
      (∅ : StringMap CacheState).insert (Reference.registration 1).hash
        { state := .pending, rateLimit := some 10 } := rfl
  simp only [insertCacheRow, hmember, Std.ExtTreeMap.getElem?_insert,
    Std.compare_eq_iff_eq] at hrow
  split at hrow
  · next hsecond =>
      obtain rfl := hsecond
      exact ⟨2, rfl, by simp [bothFile, withEntry], (Option.some.inj hrow).symm⟩
  · split at hrow
    · next hfirst =>
        obtain rfl := hfirst
        exact ⟨1, rfl, by simp [bothFile, Reference.memberFile, Reference.member, withEntry],
          (Option.some.inj hrow).symm⟩
    · simp at hrow

theorem cacheLength_both : Reference.cacheLength
    { entries := (insertCacheRow (Reference.registration 2) memberInner).cache } ≤
      maxFileBytes := by
  have hrows : ((insertCacheRow (Reference.registration 2) memberInner).cache.toList.map
      fun entry => Reference.rowStateLength entry.1 entry.2).sum ≤
        (insertCacheRow (Reference.registration 2) memberInner).cache.toList.length * 1000 := by
    apply sum_map_le
    rintro ⟨hash, row⟩ hrow
    obtain ⟨n, rfl, -, rfl⟩ :=
      getElem?_bothCache (Std.ExtTreeMap.mem_toList_iff_getElem?_eq_some.mp hrow)
    exact rowStateLength_le n
  have hsize : (insertCacheRow (Reference.registration 2) memberInner).cache.size ≤
      bothFile.credentials.size := by
    apply OrderedMap.size_le_of_forall_mem
    intro hash hmember
    obtain ⟨row, hrow⟩ := OrderedMap.mem_iff_exists.mp hmember
    obtain ⟨-, -, hlisted, -⟩ := getElem?_bothCache hrow
    exact hlisted
  rw [size_bothFile] at hsize
  rw [Std.ExtTreeMap.length_toList] at hrows
  generalize (insertCacheRow (Reference.registration 2) memberInner).cache = entries
    at hrows hsize ⊢
  have hformat : Reference.quoted formatCache ≤ 100 := by decide
  have hversion : Reference.digits ({ entries := entries } : CacheFile).version.toNat = 1 := by
    have hdigits : Reference.digits ({ entries := ∅ } : CacheFile).version.toNat = 1 := by decide
    exact hdigits
  have hkeys : (utf8 "format").length = 6 ∧ (utf8 "version").length = 7 ∧
      (utf8 "entries").length = 7 := by decide
  have hinner := Reference.block_le 1 (entries.toList.map fun entry =>
    Reference.rowStateLength entry.1 entry.2).sum
  have hcap : 10000 ≤ maxFileBytes := by decide
  refine (Reference.block_le 0 _).trans ?_
  simp only [Reference.property_eq, hversion, hkeys]
  omega

/-- What the second insert writes is within the caps. -/
theorem insertFits_second : InsertFits Reference.libraries (Reference.registration 2)
    Reference.keys Reference.uuid memberInner Reference.memberFile (Reference.entry 2) where
  place := by
    right
    rw [← Std.ExtTreeMap.length_toList, Reference.credentials_memberFile]
    decide
  sealedText := by
    have hlength := sealedLength_both
    rw [bothFile] at hlength
    exact hlength
  allocations := by
    have hlength := allocationsLength_both
    rw [bothLedger] at hlength
    exact hlength
  cache := cacheLength_both

/-! ### The run -/

def bothDisk : Disk :=
  committedDisk Reference.libraries (Reference.registration 2) Reference.writes Reference.keys
    Reference.uuid memberInner Reference.memberFile (Reference.entry 2) memberDisk

theorem survives_insert {n : ℕ} {world : World} {inner : Inner} {file : SealedFile}
    (hworld : world.store = some (publish inner))
    (hunlocked : Unlocked inner ⟨"pw", Reference.keys⟩ Reference.uuid)
    (hsealed : inner.sealedStore = some file)
    (hanswered : (step Reference.libraries world (Reference.insertOp n)).2.isError = false)
    (hfits : InsertFits Reference.libraries (Reference.registration n) Reference.keys Reference.uuid
      inner file (Reference.entry n)) :
    Survives Reference.libraries {"pw"} world (.call (Reference.insertOp n)) := by
  refine .inl ⟨hanswered, Reference.recomputes_registration n, ?_⟩
  intro store session uuid listed entry hstore hsession hlisted hentry
  obtain rfl := Option.some.inj (hworld.symm.trans hstore)
  obtain rfl := Option.some.inj (hunlocked.session.symm.trans hsession.session)
  obtain rfl := Option.some.inj (hunlocked.storeUuid.symm.trans hsession.storeUuid)
  obtain rfl := Option.some.inj (hsealed.symm.trans hlisted)
  obtain rfl := Reference.eq_entry hentry
  exact hfits

theorem run_twoCalls {libs : Libraries} {passwords : Set String} {world middle last : World}
    {first second : Op} (hmiddle : (step libs world first).1 = middle)
    (hlast : (step libs middle second).1 = last)
    (hfirst : Survives libs passwords world (.call first))
    (hsecond : Survives libs passwords middle (.call second)) :
    Run.Guarded (incidentStep libs) (Survives libs passwords) world [.call first, .call second] ∧
      Run.run (incidentStep libs) world [.call first, .call second] = last := by
  subst hmiddle hlast
  exact ⟨⟨hfirst, hsecond, trivial⟩, rfl⟩

theorem survives_both : Run.Guarded (incidentStep Reference.libraries)
      (Survives Reference.libraries {"pw"}) {} bothHistory ∧
    (Run.run (incidentStep Reference.libraries) {} bothHistory).disk = bothDisk := by
  have hsplit : bothHistory = firstHistory ++
      [.call (Reference.insertOp 1), .call (Reference.insertOp 2)] := rfl
  have hfirst := survives_first
  rw [Run.guarded_append] at hfirst
  obtain ⟨store, hboth⟩ := step_both
  obtain ⟨hguard, hrun⟩ := run_twoCalls (congrArg Prod.fst step_member) (congrArg Prod.fst hboth)
    (survives_insert rfl Reference.unlocked_provisionedInner rfl (by rw [step_member]; rfl)
      insertFits_first)
    (survives_insert rfl unlocked_memberInner sealedStore_memberInner (by rw [hboth]; rfl)
      insertFits_second)
  rw [hsplit, Run.guarded_append, Run.run_append, run_firstHistory, hrun]
  exact ⟨⟨hfirst.1, hguard⟩, rfl⟩

theorem texts_committedDisk (libs : Libraries) (registration : Registration) (keys : SubKeys)
    (uuid : Bytes16) (inner : Inner) (file : SealedFile) (entry : SealedEntry) (disk : Disk) :
    (committedDisk libs registration ⟨.ok, .ok, .ok⟩ keys uuid inner file entry disk).sealedText =
        .text (libs.sealedLength (withEntry file registration.hash entry))
          (.ok (withEntry file registration.hash entry)) ∧
      (committedDisk libs registration ⟨.ok, .ok, .ok⟩ keys uuid inner file entry
          disk).allocations =
        .text (libs.allocationsLength (ledgerFile libs keys uuid
            (insertSection registration.hash inner)))
          (.ok (ledgerFile libs keys uuid (insertSection registration.hash inner))) :=
  ⟨rfl, rfl⟩

theorem readSealed_both : readSealed bothDisk.sealedText = some bothFile := by
  have hcount := size_bothFile
  rw [bothDisk, Reference.writes, (texts_committedDisk _ _ _ _ _ _ _ _).1]
  rw [bothFile] at hcount ⊢
  exact readSealed_text insertFits_second.sealedText (by rw [hcount]; decide) rfl rfl

theorem readLedger_both : readLedger bothDisk.allocations = some bothLedger := by
  have hcaps : checkAllocationsCaps bothLedger = .ok () := by
    refine checkAllocationsCaps_eq_ok_iff.mpr ⟨size_bothLedger.trans (by decide), ?_⟩
    intro hash stored hstored
    obtain ⟨-, -, -, rfl⟩ := getElem?_bothLedger hstored
    simp [stampSection]
  rw [bothDisk, Reference.writes, (texts_committedDisk _ _ _ _ _ _ _ _).2]
  rw [bothLedger] at hcaps ⊢
  exact readLedger_text insertFits_second.allocations hcaps rfl rfl

/-! ### The edit -/

theorem member_mem_bothFile : Reference.member ∈ bothFile.credentials := by
  simp [bothFile, Reference.memberFile, withEntry]

theorem getElem?_strippedFile {hash : String} {entry : SealedEntry}
    (hentry : strippedFile.credentials[hash]? = some entry) :
    hash = Reference.member ∧ entry = strippedEntry ∨
      hash ≠ Reference.member ∧ bothFile.credentials[hash]? = some entry := by
  simp only [strippedFile, withEntry, Std.ExtTreeMap.getElem?_insert,
    Std.compare_eq_iff_eq] at hentry
  split at hentry
  · next hsame => exact .inl ⟨hsame.symm, (Option.some.inj hentry).symm⟩
  · next hother => exact .inr ⟨Ne.symm hother, hentry⟩

theorem hexToVec_entry (n : ℕ) : ∃ ct, hexToVec (Reference.entry n).ct = some ct ∧ ct ≠ [] := by
  refine ⟨_, hexToVec_bytesToHex _, ?_⟩
  intro hempty
  have hlength := congrArg List.length (List.append_eq_nil_iff.mp hempty).1
  simp [Reference.aeadTag] at hlength

theorem hexToVec_stripped : hexToVec strippedEntry.ct = some [] := by
  have hempty : hexToVec "" = some [] := by decide
  exact hempty

theorem decrypt_nil (key : Bytes32) (nonce : Bytes24) (aad : Bytes) :
    Reference.libraries.decrypt key nonce aad [] = none := by
  have htag : [] ≠ Reference.aeadTag key nonce aad [] :=
    fun hempty => by simpa [Reference.aeadTag] using congrArg List.length hempty
  simp [Reference.libraries, Reference.decrypt, htag]

theorem stripped_closed (aad : Bytes) :
    credentialOpens Reference.libraries Reference.keys aad strippedEntry = false := by
  have hnonce : hexToVec strippedEntry.nonce = some (List.Vector.replicate 24 (3 : UInt8)).toList :=
    hexToVec_bytesToHex _
  simp only [credentialOpens, hnonce, hexToVec_stripped, unsealBytes, toArray_toList, decrypt_nil]

theorem tampers_stripped :
    Tampers {Reference.member} bothFile strippedFile bothLedger bothLedger where
  header := rfl
  root := rfl
  listed hash := by
    have hmember := member_mem_bothFile
    simp only [strippedFile, withEntry, Std.ExtTreeMap.mem_insert, Std.compare_eq_iff_eq]
    constructor
    · rintro (rfl | hold)
      · exact hmember
      · exact hold
    · exact .inr
  tags _ := rfl
  entries hash hother := by
    rw [Finset.mem_singleton] at hother
    simp [strippedFile, withEntry, Std.ExtTreeMap.getElem?_insert, Ne.symm hother]
  sections _ _ := rfl
  members hash hmember := by
    rw [Finset.mem_singleton] at hmember
    rw [hmember]
    exact member_mem_bothFile
  changed hash entry entry' stored stored' hmember hentry hentry' hstored hstored' hsame := by
    rw [Finset.mem_singleton] at hmember
    obtain ⟨n, -, rfl⟩ := getElem?_bothFile hentry
    obtain ⟨-, rfl⟩ | ⟨hother, -⟩ := getElem?_strippedFile hentry'
    · obtain ⟨ct, hct, hnonempty⟩ := hexToVec_entry n
      have hsealed := hsame.1.ct
      rw [hexToVec_stripped, hct, Option.some.injEq] at hsealed
      exact hnonempty hsealed.symm
    · exact hother hmember

theorem ideal_stripped : Ideal Reference.libraries Reference.keys Reference.uuid bothFile
    strippedFile bothLedger bothLedger where
  sealedEntries hash entry' hentry' hopens := by
    obtain ⟨-, rfl⟩ | ⟨-, hentry⟩ := getElem?_strippedFile hentry'
    · rw [stripped_closed] at hopens
      cases hopens
    · exact ⟨hash, entry', hentry, rfl, rfl, rfl⟩
  tags hash stored stored' hstored hstored' _ := by
    cases hstored.symm.trans hstored'
    rfl

theorem sealedHeldBy_both : SealedHeldBy 4096 bothFile where
  hash hash hmember := by
    obtain ⟨entry, hentry⟩ := OrderedMap.mem_iff_exists.mp hmember
    obtain ⟨n, rfl, -⟩ := getElem?_bothFile hentry
    rw [length_hash]
    decide
  identity hash entry hentry := by
    obtain ⟨n, -, rfl⟩ := getElem?_bothFile hentry
    have hidentity : (Reference.entry n).identity = (Reference.registration n).identity := rfl
    obtain ⟨hregistry, happlication⟩ := length_registryId n
    rw [hidentity, hregistry, happlication, length_commitment]
    decide

theorem sealedHeldBy_stripped : SealedHeldBy 4096 strippedFile where
  hash hash hmember := sealedHeldBy_both.hash hash ((tampers_stripped.listed hash).mp hmember)
  identity hash entry hentry := by
    obtain ⟨rfl, rfl⟩ | ⟨-, hold⟩ := getElem?_strippedFile hentry
    · obtain ⟨entry, hentry⟩ := OrderedMap.mem_iff_exists.mp member_mem_bothFile
      obtain ⟨n, -, rfl⟩ := getElem?_bothFile hentry
      have hidentity : strippedEntry.identity = (Reference.registration 1).identity := rfl
      obtain ⟨hregistry, happlication⟩ := length_registryId 1
      rw [hidentity, hregistry, happlication, length_commitment]
      decide
    · exact sealedHeldBy_both.identity hash entry hold

theorem heldBy_both : LedgerTamper.HeldBy 4096 bothLedger where
  sections := size_bothLedger.trans (by decide)
  hash hash hmember := by
    obtain ⟨stored, hstored⟩ := OrderedMap.mem_iff_exists.mp hmember
    obtain ⟨n, rfl, -, -⟩ := getElem?_bothLedger hstored
    rw [length_hash]
    decide
  rows hash stored hstored := by
    obtain ⟨-, -, -, rfl⟩ := getElem?_bothLedger hstored
    simp [stampSection]
  row hash stored row hstored hrow := by
    obtain ⟨-, -, -, rfl⟩ := getElem?_bothLedger hstored
    simp [stampSection] at hrow

theorem header_withEntry (file : SealedFile) (hash : String) (entry : SealedEntry) :
    (withEntry file hash entry).storeUuid = file.storeUuid ∧
      (withEntry file hash entry).kdf = file.kdf ∧
      (withEntry file hash entry).verifier = file.verifier := ⟨rfl, rfl, rfl⟩

/-- The header of the two members' file is the provisioned one. -/
theorem header_bothFile : parseUuid bothFile.storeUuid = some Reference.uuid ∧
    deriveKeys Reference.libraries "pw" bothFile.kdf = .ok Reference.keys ∧
    Reference.keys.verify.toList = (hexToVec bothFile.verifier).getD [] := by
  obtain ⟨huuid, hkdf, hverifier⟩ := header_withEntry Reference.memberFile
    (Reference.registration 2).hash (Reference.entry 2)
  rw [bothFile, huuid, hkdf, hverifier]
  exact ⟨Reference.parseUuid_memberFile, Reference.deriveKeys_params, Reference.verifier_memberFile⟩

/-- The second membership is unlocked beside the first, whose ciphertext is gone. -/
theorem tamper_contained_stripped :
    ∃ store, store.inner.isQuarantined Reference.member = true ∧
      store.inner.isQuarantined (Reference.registration 2).hash = false ∧
      (∃ credential, unsealCredential Reference.libraries (Reference.registration 2).hash store =
        .ok credential) ∧
      step Reference.libraries (Run.run (step Reference.libraries)
          ⟨{ bothDisk with sealedText := .text 4096 (.ok strippedFile) }, none⟩
          [.openStore Reference.env]) Reference.unlockOp =
        (⟨{ bothDisk with sealedText := .text 4096 (.ok strippedFile) }, some store⟩,
          .unlocked (.ok 1)) := by
  have hdistinct : Distinguishes Reference.libraries {"pw"} := by
    rintro first hfirst second hsecond params keys keys' hkeys hkeys' -
    rw [Set.mem_singleton_iff.mp hfirst] at hkeys
    rw [Set.mem_singleton_iff.mp hsecond] at hkeys'
    exact Except.ok.inj (hkeys.symm.trans hkeys')
  obtain ⟨hguard, hdisk⟩ := survives_both
  have hstripped : readSealed (.text 4096 (.ok strippedFile)) = some strippedFile := by
    refine readSealed_text (by decide) ?_ rfl rfl
    have hsize := OrderedMap.size_le_of_forall_mem fun hash =>
      (tampers_stripped.listed hash).mp
    rw [size_bothFile] at hsize
    exact hsize.trans (by decide)
  have hsecond : (Reference.registration 2).hash ∈ bothFile.credentials := by
    simp [bothFile, withEntry]
  have hother : (Reference.registration 2).hash ∉ ({Reference.member} : Finset String) := by
    rw [Finset.mem_singleton]
    exact Reference.hash_two_ne_member
  have hcontained := tamper_contained Reference.libraries Reference.laws {"pw"} hdistinct
    bothHistory hguard {Reference.member} strippedFile bothLedger (.text 4096 (.ok strippedFile))
    bothDisk.allocations hstripped readLedger_both
  simp only [hdisk] at hcontained
  obtain ⟨huuid, hderived, hverifier⟩ := header_bothFile
  obtain ⟨store, -, hkept, hruns⟩ := hcontained bothFile bothLedger "pw" Reference.keys
    Reference.uuid 4096 Reference.env Reference.random .ok readSealed_both readLedger_both huuid rfl
    hderived hverifier tampers_stripped ⟨_, hsecond, hother⟩ ideal_stripped
    ⟨by decide, sealedHeldBy_both, sealedHeldBy_stripped, heldBy_both, heldBy_both⟩ rfl
  obtain ⟨hanswer, hrun⟩ := hruns [] [] (by simp)
  refine ⟨store, (hkept.quarantined _).mpr (Finset.mem_singleton_self _), ?_,
    hkept.unsealed _ hsecond hother, ?_⟩
  · rw [Bool.eq_false_iff, Ne, hkept.quarantined]
    exact hother
  · rw [size_bothFile, Finset.card_singleton] at hanswer
    exact Prod.ext hrun hanswer

end LogosRln.SealedStore.AttributableTamper
