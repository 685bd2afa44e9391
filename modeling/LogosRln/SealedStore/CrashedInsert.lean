import LogosRln.SealedStore.Capacity

/-!
# Inserts that die half-way

An insert writes the ledger, then the cache, then the sealed file.  Whatever it
had written when the process died, the next open finds either the sealed file as
it was, with at most a section it drops, or the new one, with its section and its
root.  The directory stays one the next open adopts whole, so inserts may die
again and again between calls that succeed.
-/

namespace LogosRln.SealedStore.CrashedInsert

open RegistryId Crypto Format Lifecycle RateLimit Files HealthyWrites Capacity

variable {libs : Libraries} {passwords : Set String} {keys : SubKeys} {uuid : Bytes16}
  {registration : Registration} {nonce : Option Bytes24} {writes : InsertWrites}
  {session : Session} {inner : Inner} {file : SealedFile} {disk disk' : Disk}

/-! ## What a death can leave -/

/-- The sealed write of the insert is on disk. -/
def Lands (libs : Libraries) (keys : SubKeys) (uuid : Bytes16) (registration : Registration)
    (nonce : Option Bytes24) (writes : InsertWrites) : Prop :=
  writes.allocations = .ok ∧ writes.cache = .ok ∧ writes.sealedText.lands = true ∧
    ∃ entry, SealsEntry libs keys uuid registration nonce entry

/-- The ledger as the insert writes it. -/
def insertedLedger (libs : Libraries) (keys : SubKeys) (uuid : Bytes16)
    (registration : Registration) (inner : Inner) : AllocationsFile :=
  ledgerFile libs keys uuid (insertSection registration.hash inner)

/-- The cache as the insert writes it. -/
def insertedCache (registration : Registration) (inner : Inner) : CacheFile :=
  { entries := (insertCacheRow registration inner).cache }

/-- The directories an insert can leave behind, and whether its credential is in
them. -/
inductive Left (libs : Libraries) (keys : SubKeys) (uuid : Bytes16) (registration : Registration)
    (nonce : Option Bytes24) (inner : Inner) (file : SealedFile) (disk : Disk) :
    Prop → Disk → Prop where
  | untouched {landed : Prop} (hlost : ¬ landed) :
      Left libs keys uuid registration nonce inner file disk landed disk
  | sectioned {landed : Prop} (hlost : ¬ landed) (cache : StoreFile CacheFile)
      (hcache : cache = disk.cache ∨
        cache = .text (libs.cacheLength (insertedCache registration inner))
          (.ok (insertedCache registration inner))) :
      Left libs keys uuid registration nonce inner file disk landed
        { disk with
          allocations := .text
            (libs.allocationsLength (insertedLedger libs keys uuid registration inner))
            (.ok (insertedLedger libs keys uuid registration inner))
          cache }
  | committed {landed : Prop} (hlanded : landed) (entry : SealedEntry)
      (hentry : SealsEntry libs keys uuid registration nonce entry) :
      Left libs keys uuid registration nonce inner file disk landed
        (committedDisk libs registration ⟨.ok, .ok, .ok⟩ keys uuid inner file entry disk)

theorem disk_insertCredential (hunlocked : Unlocked inner session uuid)
    (hsealed : inner.sealedStore = some file) {entry : SealedEntry}
    (hentry : SealsEntry libs session.keys uuid registration nonce entry) (write : WriteOutcome)
    (disk : Disk) :
    (insertCredential libs registration nonce write inner disk).disk =
      { disk with
        sealedText := writeText write (libs.sealedLength (withEntry file registration.hash entry))
          (withEntry file registration.hash entry) disk.sealedText } := by
  obtain ⟨plaintext, drawn, ct, rfl, hplain, hencrypt, rfl⟩ := hentry
  have hseal : sealBytes libs.toPrimitives session.keys.sealKey (some drawn)
      (credentialAad registration.hash registration.identity uuid) plaintext = .ok (drawn, ct) := by
    simp [sealBytes, hencrypt]
  simp only [insertCredential, hunlocked.session, hunlocked.storeUuid, hplain, hseal, hsealed,
    withEntry]
  cases write <;> rfl

theorem disk_insertCredential_unsealed (hunlocked : Unlocked inner session uuid)
    (hnone : ∀ entry, ¬ SealsEntry libs session.keys uuid registration nonce entry)
    (write : WriteOutcome) (disk : Disk) :
    (insertCredential libs registration nonce write inner disk).disk = disk := by
  rcases insertCredential_cases libs hunlocked registration nonce write disk with
    ⟨error, hcommit⟩ | ⟨_, entry, -, hentry, -⟩
  · rw [hcommit]
  · exact absurd hentry (hnone entry)

/-- Wherever an insert on an unlocked store dies, this is what it leaves. -/
theorem left_of_insert {store : Store} (hunlocked : Unlocked store.inner session uuid)
    (hsealed : store.inner.sealedStore = some file) (disk : Disk) :
    Left libs session.keys uuid registration nonce store.inner file disk
      (Lands libs session.keys uuid registration nonce writes)
      (insert libs registration nonce writes store disk).disk := by
  have hsectioned : Unlocked (insertSection registration.hash store.inner) session uuid :=
    ⟨hunlocked.lockHeld, hunlocked.session, hunlocked.storeUuid⟩
  have hcached : Unlocked (sectionedInner libs registration session.keys uuid store.inner)
      session uuid := ⟨hunlocked.lockHeld, hunlocked.session, hunlocked.storeUuid⟩
  obtain ⟨allocations, cache, sealedText⟩ := writes
  simp only [insert, hunlocked.lockHeld, hunlocked.session, Option.isNone_some, Bool.not_true,
    Bool.false_eq_true, if_false]
  rcases writeAllocations_cases libs hsectioned allocations disk with
    ⟨error, hfailed, hwrite⟩ | ⟨rfl, hwrite⟩
  · have hlost : ¬ Lands libs session.keys uuid registration nonce
        ⟨allocations, cache, sealedText⟩ := fun hlands => hfailed hlands.1
    simp only [hwrite, ledgerDisk, writeText]
    split
    · exact .sectioned hlost disk.cache (.inl rfl)
    · exact .untouched hlost
  · have hstage : insertCacheRow registration (ledgerInner libs .ok session.keys uuid
        (insertSection registration.hash store.inner)) =
        sectionedInner libs registration session.keys uuid store.inner := rfl
    simp only [hwrite, hstage]
    rcases writeCache_cases libs cache
        (sectionedInner libs registration session.keys uuid store.inner)
        (ledgerDisk libs .ok session.keys uuid
          (insertSection registration.hash store.inner) disk) with
      ⟨error, hfailed, hcache⟩ | ⟨rfl, hcache⟩
    · have hlost : ¬ Lands libs session.keys uuid registration nonce
          ⟨.ok, cache, sealedText⟩ := fun hlands => hfailed hlands.2.1
      simp only [hcache, cacheDisk, writeText]
      split
      · exact .sectioned hlost _ (.inr rfl)
      · exact .sectioned hlost _ (.inl rfl)
    · simp only [hcache]
      generalize hcommit : insertCredential libs registration nonce sealedText
        (sectionedInner libs registration session.keys uuid store.inner)
        (cacheDisk libs .ok (sectionedInner libs registration session.keys uuid store.inner)
          (ledgerDisk libs .ok session.keys uuid
            (insertSection registration.hash store.inner) disk)) = commit
      suffices hleft : Left libs session.keys uuid registration nonce store.inner file disk
          (Lands libs session.keys uuid registration nonce ⟨.ok, .ok, sealedText⟩) commit.disk by
        cases hresult : commit.result <;> simpa only [hresult] using hleft
      rw [← hcommit]
      by_cases hseals : ∃ entry, SealsEntry libs session.keys uuid registration nonce entry
      · obtain ⟨entry, hentry⟩ := hseals
        rw [disk_insertCredential hcached hsealed hentry]
        cases hlands : sealedText.lands with
        | true =>
            have hwritten : ∀ text : StoreFile SealedFile, writeText sealedText
                (libs.sealedLength (withEntry file registration.hash entry))
                (withEntry file registration.hash entry) text =
                .text (libs.sealedLength (withEntry file registration.hash entry))
                  (.ok (withEntry file registration.hash entry)) := fun text => by
              simp [writeText, hlands]
            rw [hwritten]
            exact .committed ⟨rfl, rfl, hlands, entry, hentry⟩ entry hentry
        | false =>
            have hlost : ¬ Lands libs session.keys uuid registration nonce
                ⟨.ok, .ok, sealedText⟩ := fun hland => by
              rw [hland.2.2.1] at hlands
              cases hlands
            have hkept : ∀ text : StoreFile SealedFile, writeText sealedText
                (libs.sealedLength (withEntry file registration.hash entry))
                (withEntry file registration.hash entry) text = text := fun text => by
              simp [writeText, hlands]
            rw [hkept]
            exact .sectioned hlost _ (.inr rfl)
      · rw [disk_insertCredential_unsealed hcached fun entry hentry => hseals ⟨entry, hentry⟩]
        exact .sectioned (fun hlands => hseals hlands.2.2.2) _ (.inr rfl)

/-! ## Deaths that leave room -/

/-- A new membership finds a free place, and whatever the insert writes is within
the file cap. -/
structure Sized (libs : Libraries) (registration : Registration) (nonce : Option Bytes24)
    (keys : SubKeys) (uuid : Bytes16) (inner : Inner) (file : SealedFile) : Prop where
  place : file.credentials.size < maxCredentials
  allocations : libs.allocationsLength (insertedLedger libs keys uuid registration inner) ≤
    maxFileBytes
  cache : libs.cacheLength (insertedCache registration inner) ≤ maxFileBytes
  sealedText : ∀ entry, SealsEntry libs keys uuid registration nonce entry →
    libs.sealedLength (withEntry file registration.hash entry) ≤ maxFileBytes

/-- An unlocked store that does not list the hash, in step with its directory. -/
structure Honest (libs : Libraries) (passwords : Set String) (registration : Registration)
    (nonce : Option Bytes24) (session : Session) (uuid : Bytes16) (inner : Inner)
    (file : SealedFile) (disk : Disk) : Prop where
  coherent : Coherent libs inner
  kept : Kept libs passwords disk
  inStep : InStep libs passwords inner disk
  unlocked : Unlocked inner session uuid
  sealedStore : inner.sealedStore = some file
  recomputing : recomputes libs registration.hash registration.identity = true
  fresh : registration.hash ∉ file.credentials
  sized : Sized libs registration nonce session.keys uuid inner file

variable (honest : Honest libs passwords registration nonce session uuid inner file disk)

include honest

theorem Honest.read : readSealed disk.sealedText = some file :=
  honest.inStep.mirrors.sealedStore.symm.trans honest.sealedStore

theorem Honest.spelled : file.storeUuid = bytesToHex uuid.toList :=
  honest.inStep.mirrors.spelled honest.kept.adoptable honest.coherent honest.unlocked
    honest.sealedStore

theorem Honest.session_derived : deriveKeys libs session.password file.kdf = .ok session.keys :=
  honest.coherent.sessionKeys session file honest.unlocked.session honest.sealedStore

theorem Honest.session_known : session.password ∈ passwords ∧
    session.keys.verify.toList = (hexToVec file.verifier).getD [] :=
  honest.inStep.mirrors.session session file honest.unlocked.session honest.sealedStore

theorem Honest.fresh_section : registration.hash ∉ inner.sections := fun hmember =>
  honest.fresh (honest.inStep.mirrors.listed honest.sealedStore hmember)

theorem Honest.standing (hash : String) :
    (insertSection registration.hash inner).isQuarantined hash = false :=
  honest.inStep.mirrors.standing_insertSection registration.hash hash

theorem Honest.rereadable :
    Rereadable libs session.keys uuid (insertSection registration.hash inner) := by
  obtain ⟨_, -, -, hcount, -, -⟩ := readSealed_eq_some honest.read
  refine @rereadable_of_fits libs session.keys _
    (withEntry file registration.hash ⟨registration.identity, "", ""⟩) uuid honest.standing
    (fun hash => sections_subset_insertSection
      (fun _ => honest.inStep.mirrors.listed honest.sealedStore) _)
    (size_withEntry_le hcount (.inr honest.sized.place)) honest.sized.allocations ?_
  intro file' hfile
  cases honest.sealedStore.symm.trans hfile
  exact honest.spelled

theorem Honest.readLedger :
    readLedger (.text
        (libs.allocationsLength (insertedLedger libs session.keys uuid registration inner))
        (.ok (insertedLedger libs session.keys uuid registration inner))) =
      some (insertedLedger libs session.keys uuid registration inner) :=
  readLedger_of_rereadable (honest.inStep.rows.insertSection _) honest.rereadable

/-- The new ledger beside the old sealed file: every membership listed is sound. -/
theorem Honest.kept_sectioned {cache : StoreFile CacheFile}
    (hcache : cache = disk.cache ∨
      cache = .text (libs.cacheLength (insertedCache registration inner))
        (.ok (insertedCache registration inner))) :
    Kept libs passwords { disk with
      allocations := .text
        (libs.allocationsLength (insertedLedger libs session.keys uuid registration inner))
        (.ok (insertedLedger libs session.keys uuid registration inner))
      cache } where
  adoptable :=
    { sealedText := honest.kept.adoptable.sealedText
      allocations := .inr (by rw [honest.readLedger]; rfl)
      cache := by
        rcases hcache with rfl | rfl
        · exact honest.kept.adoptable.cache
        · exact .inr ⟨_, _, rfl, honest.sized.cache⟩
      oldFormat := honest.kept.adoptable.oldFormat
      spelling := honest.kept.adoptable.spelling }
  sealedUnder := by
    intro file' hfile
    cases honest.read.symm.trans hfile
    refine ⟨session.password, honest.session_known.1, session.keys, honest.session_derived,
      honest.session_known.2, fun hash => ⟨uuid, ?_⟩⟩
    have hunlocked : Unlocked (ledgerInner libs .ok session.keys uuid
        (insertSection registration.hash inner)) session uuid :=
      ⟨honest.unlocked.lockHeld, honest.unlocked.session, honest.unlocked.storeUuid⟩
    refine (@sound_of_written libs hash uuid (insertSection registration.hash inner)
      (ledgerInner libs .ok session.keys uuid (insertSection registration.hash inner)) _ session
      ((honest.coherent.insertSection _).ledgerInner _ _ _) hunlocked ?_
      (honest.inStep.rows.insertSection _) honest.rereadable ?_ rfl rfl rfl rfl rfl
      (honest.standing hash)).1
    · exact honest.inStep.tidy.sectioned (honest.inStep.mirrors.standing registration.hash) rfl
        (fun _ _ hunlocked => ⟨hunlocked.lockHeld, hunlocked.session, hunlocked.storeUuid⟩) rfl rfl
        rfl
    · exact honest.rereadable.spelling

theorem Honest.kept_committed (hlaws : Laws libs) {entry : SealedEntry}
    (hentry : SealsEntry libs session.keys uuid registration nonce entry) :
    Kept libs passwords (committedDisk libs registration ⟨.ok, .ok, .ok⟩ session.keys uuid inner
        file entry disk) ∧
      Mirrors libs passwords (committedInner libs registration session.keys uuid inner file entry)
        (committedDisk libs registration ⟨.ok, .ok, .ok⟩ session.keys uuid inner file entry
          disk) := by
  have hfits : InsertFits libs registration session.keys uuid inner file entry :=
    ⟨.inr honest.sized.place, honest.sized.sealedText entry hentry, honest.sized.allocations,
      honest.sized.cache⟩
  have hcoherent : Coherent libs
      (committedInner libs registration session.keys uuid inner file entry) :=
    honest.coherent.committedInner _ _ _ honest.sealedStore entry
  have hunlocked : Unlocked (committedInner libs registration session.keys uuid inner file entry)
      session uuid := ⟨honest.unlocked.lockHeld, honest.unlocked.session, honest.unlocked.storeUuid⟩
  refine kept_inserted honest.coherent honest.kept honest.inStep honest.unlocked honest.sealedStore
    hfits hcoherent fun hash => ⟨uuid, ?_⟩
  refine (@sound_of_written libs hash uuid (insertSection registration.hash inner)
    (committedInner libs registration session.keys uuid inner file entry) _ session hcoherent
    hunlocked ?_ (honest.inStep.rows.insertSection _) honest.rereadable ?_ rfl rfl rfl rfl rfl
    (honest.standing hash)).1
  · exact honest.inStep.tidy.committed hlaws ⟨.ok, .ok, .ok⟩ honest.unlocked honest.sealedStore
      hentry honest.recomputing fun _ => rfl
  · intro file' hfile
    obtain rfl := Option.some.inj hfile
    exact honest.spelled

theorem Honest.kept_left (hlaws : Laws libs) {landed : Prop}
    (hleft : Left libs session.keys uuid registration nonce inner file disk landed disk') :
    Kept libs passwords disk' := by
  cases hleft with
  | untouched => exact honest.kept
  | sectioned _ cache hcache => exact honest.kept_sectioned hcache
  | committed _ entry hentry => exact (honest.kept_committed hlaws hentry).1

omit honest

/-! ## What the next open finds -/

/-- The credential of a membership. -/
def credential (inner : Inner) (hash : String) : Option SealedEntry :=
  inner.sealedStore.bind fun file => file.credentials[hash]?

/-- Every other membership keeps its credential and its counters; the one of the
insert is there exactly when its sealed write landed, with empty counters. -/
structure Recovered (hash : String) (landed : Prop) (before after : Inner) : Prop where
  credentials : ∀ other, other ≠ hash → credential after other = credential before other
  sections : ∀ other, other ≠ hash → after.sections[other]? = before.sections[other]?
  listed : (credential after hash).isSome ↔ landed
  counters : after.sections[hash]? = some {} ↔ landed
  dropped : ¬ landed → after.sections[hash]? = none

theorem Recovered.of_same {hash : String} {landed : Prop} {before between after : Inner}
    (hrecovered : Recovered hash landed before between) (hsame : SameMemberships between after) :
    Recovered hash landed before after where
  credentials other hother := (hsame.credentials other).trans (hrecovered.credentials other hother)
  sections other hother := by rw [hsame.sections]; exact hrecovered.sections other hother
  listed := by
    rw [credential, hsame.credentials hash]
    exact hrecovered.listed
  counters := by rw [hsame.sections]; exact hrecovered.counters
  dropped := by rw [hsame.sections]; exact hrecovered.dropped

theorem getElem?_insertSection_of_ne {hash other : String} (hother : other ≠ hash) :
    (insertSection hash inner).sections[other]? = inner.sections[other]? := by
  simp only [insertSection]
  split
  · simp [Std.ExtTreeMap.getElem?_insert, Ne.symm hother]
  · simp [Std.ExtTreeMap.getElem?_insertIfNew, Ne.symm hother]

theorem getElem?_insertSection_self {hash : String} (hfresh : hash ∉ inner.sections) :
    (insertSection hash inner).sections[hash]? = some {} := by
  simp only [insertSection]
  split
  · simp
  · rw [Std.ExtTreeMap.getElem?_insertIfNew]
    simp [hfresh]

/-- Of the counters just written a reopening finds those of listed memberships. -/
theorem getElem?_reopened_of_written {written : Inner} (hsealed : readSealed disk.sealedText =
      some file) (hledger : readLedger disk.allocations = some (ledgerFile libs keys uuid written))
    (hspelled : file.storeUuid = bytesToHex uuid.toList)
    (hstanding : ∀ hash, written.isQuarantined hash = false) (hash : String) :
    (reopened libs disk).sections[hash]? =
      if hash ∈ file.credentials then written.sections[hash]? else none := by
  apply Option.ext
  intro alloc
  simp only [reopened, openedInner, hsealed]
  rw [getElem?_loadedFrom_sections]
  have hstamped : (ledgerFile libs keys uuid written).sections[hash]? =
      (written.sections[hash]?).map (stampSection libs keys uuid hash) := by
    rw [ledgerFile, getElem?_writtenSections]
    cases written.sections[hash]? <;> simp [hstanding hash]
  constructor
  · rintro ⟨read, stored, hread, -, hlisted, hstored, rfl⟩
    cases hledger.symm.trans hread
    rw [hstamped, Option.map_eq_some_iff] at hstored
    obtain ⟨counters, hcounters, rfl⟩ := hstored
    rw [if_pos hlisted, toAllocationState_stampSection, hcounters]
  · intro halloc
    split at halloc
    · next hlisted =>
        exact ⟨_, _, hledger, hspelled.symm, hlisted, by rw [hstamped, halloc, Option.map_some],
          by rw [toAllocationState_stampSection]⟩
    · cases halloc

include honest in
theorem Honest.recovered (hlaws : Laws libs) {landed : Prop}
    (hleft : Left libs session.keys uuid registration nonce inner file disk landed disk') :
    Recovered registration.hash landed inner (reopened libs disk') := by
  have hmirrors := honest.inStep.mirrors
  have hnone : file.credentials[registration.hash]? = none :=
    Std.ExtTreeMap.getElem?_eq_none honest.fresh
  have hsection : inner.sections[registration.hash]? = none :=
    Std.ExtTreeMap.getElem?_eq_none honest.fresh_section
  cases hleft with
  | untouched hlost =>
      have hsealed : (reopened libs disk).sealedStore = some file := honest.read
      refine ⟨fun other _ => ?_, fun other _ => by rw [hmirrors.sections], ?_, ?_, ?_⟩
      · rw [credential, credential, hsealed, honest.sealedStore]
      · simp [credential, hsealed, hnone, hlost]
      · rw [← hmirrors.sections, hsection]
        simp [hlost]
      · intro _
        rw [← hmirrors.sections, hsection]
  | sectioned hlost cache _ =>
      have hread := honest.read
      have hfound := fun hash => @getElem?_reopened_of_written libs session.keys uuid file
        { disk with
          allocations := .text
            (libs.allocationsLength (insertedLedger libs session.keys uuid registration inner))
            (.ok (insertedLedger libs session.keys uuid registration inner))
          cache } (insertSection registration.hash inner) hread honest.readLedger honest.spelled
        honest.standing hash
      refine ⟨fun other _ => ?_, fun other hother => ?_, ?_, ?_, ?_⟩
      · simp [credential, reopened, openedInner, hread, honest.sealedStore]
      · rw [hfound other, getElem?_insertSection_of_ne hother]
        split
        · rfl
        · next hother =>
            refine (Std.ExtTreeMap.getElem?_eq_none fun hmember => hother ?_).symm
            exact hmirrors.listed honest.sealedStore hmember
      · simp [credential, reopened, openedInner, hread, hnone, hlost]
      · rw [hfound, if_neg honest.fresh]
        simp [hlost]
      · intro _
        rw [hfound, if_neg honest.fresh]
  | committed hlanded entry hentry =>
      obtain ⟨-, hcommitted⟩ := honest.kept_committed hlaws hentry
      have hsections := hcommitted.sections.symm
      have hsealed : (reopened libs (committedDisk libs registration ⟨.ok, .ok, .ok⟩ session.keys
          uuid inner file entry disk)).sealedStore =
            some (withEntry file registration.hash entry) :=
        hcommitted.sealedStore.symm
      have hcounters : (reopened libs (committedDisk libs registration ⟨.ok, .ok, .ok⟩ session.keys
          uuid inner file entry disk)).sections[registration.hash]? = some {} := by
        rw [hsections]
        exact getElem?_insertSection_self honest.fresh_section
      refine ⟨fun other hother => ?_, fun other hother => ?_, ?_, ?_, fun hlost => ?_⟩
      · simp [credential, hsealed, honest.sealedStore, withEntry, Std.ExtTreeMap.getElem?_insert,
          Ne.symm hother]
      · rw [hsections]
        exact getElem?_insertSection_of_ne hother
      · simp [credential, hsealed, withEntry, hlanded]
      · simp [hcounters, hlanded]
      · exact absurd hlanded hlost

/-! ## Opening and unlocking after the death -/

/-- A kept directory opens and is unlocked without moving a file; where it lists a
credential, the password its header verifies gives the session. -/
theorem unlocks_after_crash (hdistinct : Distinguishes libs passwords)
    (hkept : Kept libs passwords disk) {env : OpenEnv} (hlock : env.lock = .taken)
    (hpassword : session.password ∈ passwords) (random : UnlockRandom) (write : WriteOutcome) :
    let final := Run.run (step libs) ⟨disk, none⟩
      [.openStore env, .unlock session.password random write]
    ∃ store, final.store = some store ∧ final.disk.aside = disk.aside ∧
      SameMemberships (reopened libs disk) store.inner ∧
      (∀ hash, store.inner.isQuarantined hash = false) ∧
      ∀ file, readSealed disk.sealedText = some file → 0 < file.credentials.size →
        deriveKeys libs session.password file.kdf = .ok session.keys →
        session.keys.verify.toList = (hexToVec file.verifier).getD [] →
        final.disk = disk ∧ store.inner.session = some session := by
  intro final
  obtain ⟨cache, hopens⟩ := @openStore_of_adoptable libs env disk hlock hkept.adoptable
  let opened := openedInner libs (readSealed disk.sealedText) (readLedger disk.allocations) cache
  have hfinal : final = (step libs ⟨disk, some (publish opened)⟩
      (.unlock session.password random write)).1 := by
    have hlockOutcome : (⟨disk, none⟩ : World).lockOutcome env = env.lock := rfl
    have hopen : (step libs ⟨disk, none⟩ (.openStore env)).1 = ⟨disk, some (publish opened)⟩ := by
      simp only [step, hlockOutcome, hopens, opened]
    simp only [final, Run.run_cons, Run.run_nil, hopen]
  have hcoherent : Coherent libs opened := coherent_openedInner fun file hfile => by
    obtain ⟨uuid, hspelled⟩ := hkept.adoptable.spelling file hfile
    exact ⟨uuid, by rw [hspelled, parseUuid_bytesToHex]⟩
  obtain ⟨store, disk', answer, hstep, heffect⟩ := @step_effect libs
    ⟨disk, some (publish opened)⟩ (publish opened) rfl hcoherent
    (.unlock session.password random write) (by simp) (by simp)
  obtain ⟨haside, hsame, hstanding⟩ := unlock_reopened hdistinct hkept hpassword hcoherent heffect
  rw [hstep] at hfinal
  rw [hfinal]
  refine ⟨store, rfl, haside, hsame, hstanding, fun file hread hcount hderived hverifier => ?_⟩
  obtain ⟨uuid, hspelled⟩ := hkept.adoptable.spelling file hread
  have hnonempty : ∃ hash, hash ∈ file.credentials := by
    by_contra hnone
    push Not at hnone
    rw [Std.ExtTreeMap.eq_empty_iff_forall_not_mem.mpr hnone] at hcount
    simp at hcount
  have hauth : Authenticated libs session.password opened file uuid session.keys := by
    refine ⟨rfl, hread, ?_, hderived, hverifier, ?_⟩
    · simp only [opened, openedInner, hread, Option.bind_some]
      rw [hspelled, parseUuid_bytesToHex]
    · rw [Bool.eq_false_iff, Ne, allQuarantined_iff hread]
      intro hall
      obtain ⟨hash, hmember⟩ := hnonempty
      have hstanding := @standing_openedInner libs passwords disk hkept cache hash
      rw [isQuarantined_iff.mpr (.inl (hall hash hmember))] at hstanding
      cases hstanding
  have hopenedCount : 0 < (publish opened).inner.credentialCount := by
    have hsealed : opened.sealedStore = some file := hread
    simpa [publish, Inner.credentialCount, hsealed] using hcount
  obtain ⟨unlocked, hunlock⟩ := @unlock_of_authenticated libs session.password random write
    (publish opened) disk file uuid session.keys hauth hopenedCount
  simp only [step, withReply, hunlock, Prod.mk.injEq, World.mk.injEq, Option.some.injEq] at hstep
  obtain ⟨⟨rfl, rfl⟩, -⟩ := hstep
  exact ⟨rfl, rfl⟩

/-! ## Histories with deaths -/

/-- A call of the process, or an insert it dies in. -/
inductive Incident where
  | call (op : Op)
  | dies (registration : Registration) (nonce : Option Bytes24) (writes : InsertWrites)

/-- The process that dies loses its memory and what it had still to write. -/
def incidentStep (libs : Libraries) (world : World) : Incident → World × Answer
  | .call op => step libs world op
  | .dies registration nonce writes =>
      let inserted := step libs world (.insert registration nonce writes)
      ((step libs inserted.1 .crash).1, inserted.2)

/-- The text an update of the cache leaves is within the file cap. -/
def CacheFits (libs : Libraries) (world : World) : Op → Prop
  | .updateCache hash mutate now write => ∀ size cache,
      (step libs world (.updateCache hash mutate now write)).1.disk.cache = .text size cache →
        size ≤ maxFileBytes
  | _ => False

/-- A call that is answered without an error and leaves room, an update of the cache
that leaves room, written or not, a call that changes nothing, or an insert of a new
membership that leaves room. -/
def Survives (libs : Libraries) (passwords : Set String) (world : World) : Incident → Prop
  | .call op => Fits libs passwords world op ∨ CacheFits libs world op ∨
      (step libs world op).1 = world
  | .dies registration nonce _ =>
      recomputes libs registration.hash registration.identity = true ∧
        ∀ store session uuid file, world.store = some store →
          Unlocked store.inner session uuid → store.inner.sealedStore = some file →
          registration.hash ∉ file.credentials ∧
            Sized libs registration nonce session.keys uuid store.inner file

/-- An update of the cache changes what an open finds in no other file. -/
theorem kept_cacheUpdated {world : World} {op : Op}
    (hworld : world.Satisfies libs (Kept libs passwords) (InStep libs passwords))
    (hfits : CacheFits libs world op) :
    (step libs world op).1.Satisfies libs (Kept libs passwords) (InStep libs passwords) := by
  cases op with
  | updateCache hash mutate now write =>
      cases hstore : world.store with
      | none =>
          have hunchanged : (step libs world (.updateCache hash mutate now write)).1 = world := by
            simp only [step, hstore]
          rw [hunchanged]
          exact hworld
      | some store =>
          obtain ⟨hcoherent, hinner⟩ := hworld.store store hstore
          obtain ⟨store', disk', answer, hstep, heffect⟩ := @step_effect libs world store hstore
            hcoherent (.updateCache hash mutate now write) (by simp) (by simp)
          have hcoherent' := hcoherent.effect heffect
          simp only [CacheFits, hstep] at hfits
          rw [hstep]
          generalize hinner' : store'.inner = inner' at heffect hcoherent'
          have hkept := hworld.disk
          suffices hsteps : Kept libs passwords disk' ∧ InStep libs passwords inner' disk' by
            refine ⟨hsteps.1, ?_⟩
            intro other hother
            obtain rfl := Option.some.inj hother
            rw [hinner']
            exact ⟨hcoherent', hsteps.2⟩
          cases heffect with
          | refused => exact ⟨hkept, hinner⟩
          | cacheUpdated _ cache =>
              have hcache : (cacheDisk libs write { store.inner with cache } world.disk).cache =
                  .missing ∨ ∃ size file,
                    (cacheDisk libs write { store.inner with cache } world.disk).cache =
                      .text size (.ok file) ∧ size ≤ maxFileBytes := by
                simp only [cacheDisk, writeText] at hfits ⊢
                split at hfits
                · next hlands =>
                    rw [if_pos hlands]
                    exact .inr ⟨_, _, rfl, hfits _ _ rfl⟩
                · next hlost =>
                    rw [if_neg hlost]
                    exact hkept.adoptable.cache
              have hmirrors := hinner.mirrors
              refine ⟨⟨⟨hkept.adoptable.sealedText, hkept.adoptable.allocations, hcache,
                  hkept.adoptable.oldFormat, hkept.adoptable.spelling⟩, ?_⟩,
                ⟨?_, ⟨hinner.rows.counters, hinner.rows.raw⟩, ⟨hmirrors.sealedStore,
                  hmirrors.sections, hmirrors.rawSections, hmirrors.rootMacRaw, hmirrors.standing,
                  hmirrors.session⟩⟩⟩
              · intro file hfile
                obtain ⟨password, hpassword, keys, hunder⟩ := hkept.sealedUnder file hfile
                exact ⟨password, hpassword, keys, hunder.derived, hunder.verifier, hunder.sound⟩
              · exact hinner.tidy.mono rfl
                  (fun _ _ hunlocked => ⟨hunlocked.lockHeld, hunlocked.session,
                    hunlocked.storeUuid⟩)
                  (fun _ hmember => hmember) (fun _ hmember => hmember) rfl
  | _ => exact hfits.elim

theorem honest_of_survives {world : World} {store : Store}
    (hworld : world.Satisfies libs (Kept libs passwords) (InStep libs passwords))
    (hsurvives : Survives libs passwords world (.dies registration nonce writes))
    (hstore : world.store = some store) (hunlocked : Unlocked store.inner session uuid)
    (hsealed : store.inner.sealedStore = some file) :
    Honest libs passwords registration nonce session uuid store.inner file world.disk := by
  obtain ⟨hcoherent, hinner⟩ := hworld.store store hstore
  obtain ⟨hrecomputes, hfits⟩ := hsurvives
  obtain ⟨hfresh, hsized⟩ := hfits store session uuid file hstore hunlocked hsealed
  exact ⟨hcoherent, hworld.disk, hinner, hunlocked, hsealed, hrecomputes, hfresh, hsized⟩

theorem disk_dies (world : World) {store : Store} (hstore : world.store = some store) :
    (incidentStep libs world (.dies registration nonce writes)).1 =
      ⟨(insert libs registration nonce writes store world.disk).disk, none⟩ := by
  simp only [incidentStep, step, hstore, withReply]

/-- After every incident the directory is one the next open adopts whole. -/
theorem kept_incident (hlaws : Laws libs) (hdistinct : Distinguishes libs passwords) (world : World)
    (incident : Incident)
    (hworld : world.Satisfies libs (Kept libs passwords) (InStep libs passwords))
    (hsurvives : Survives libs passwords world incident) :
    (incidentStep libs world incident).1.Satisfies libs (Kept libs passwords)
      (InStep libs passwords) := by
  cases incident with
  | call op =>
      rcases hsurvives with hfits | hfits | hunchanged
      · exact inStep_step hlaws hdistinct world op hworld hfits
      · exact kept_cacheUpdated hworld hfits
      · have hsame : (incidentStep libs world (.call op)).1 = world := hunchanged
        rw [hsame]
        exact hworld
  | dies registration nonce writes =>
      cases hstore : world.store with
      | none =>
          have hunchanged : (incidentStep libs world (.dies registration nonce writes)).1 =
              ⟨world.disk, none⟩ := by
            simp only [incidentStep, step, hstore]
          rw [hunchanged]
          exact ⟨hworld.disk, by simp⟩
      | some store =>
          rw [disk_dies world hstore]
          refine ⟨?_, by simp⟩
          obtain ⟨hcoherent, -⟩ := hworld.store store hstore
          obtain ⟨uuid, huuid⟩ := hcoherent.storeUuid_of_session
          rcases insert_cases libs registration nonce writes store world.disk huuid with
            ⟨error, hrefused⟩ | ⟨session, hunlocked, -⟩
          · rw [hrefused]
            exact hworld.disk
          · obtain ⟨file, hsealed⟩ := Option.isSome_iff_exists.mp
              (hcoherent.sessionSealed (by simp [hunlocked.session]))
            have hhonest := honest_of_survives hworld hsurvives hstore hunlocked hsealed
            exact hhonest.kept_left hlaws (left_of_insert hunlocked hsealed world.disk)

/-- Let a history of calls, and of inserts the process died in, start from an empty
directory.  Every call succeeds, or only updates the cache, or changes nothing, and
room is left for every write.
If the process then dies anywhere inside the insert of a new membership, an open
and an unlock with the session's password move nothing aside and quarantine nobody;
every other membership keeps its credential and its counters, and the new one is
there, with empty counters, exactly when its sealed write landed.  As soon as a
membership is listed the unlock succeeds. -/
theorem crashed_insert_recovered (libs : Libraries) (hlaws : Laws libs) (passwords : Set String)
    (hdistinct : Distinguishes libs passwords) (history : List Incident)
    (registration : Registration) (nonce : Option Bytes24) (writes : InsertWrites)
    (hguard : Run.Guarded (incidentStep libs) (Survives libs passwords) {}
      (history ++ [.dies registration nonce writes])) :
    let reached := Run.run (incidentStep libs) {} history
    ∀ store session uuid env random write, reached.store = some store →
      Unlocked store.inner session uuid → env.lock = .taken →
      let landed := Lands libs session.keys uuid registration nonce writes
      let final := Run.run (step libs) reached
        [.insert registration nonce writes, .crash, .openStore env,
          .unlock session.password random write]
      ∃ store', final.store = some store' ∧ final.disk.aside = reached.disk.aside ∧
        Recovered registration.hash landed store.inner store'.inner ∧
        (∀ hash, store'.inner.isQuarantined hash = false) ∧
        (0 < store.inner.credentialCount ∨ landed → store'.inner.session = some session) := by
  intro reached store session uuid env random write hstore hunlocked hlock landed final
  rw [Run.guarded_append] at hguard
  obtain ⟨hhistory, hsurvives, -⟩ := hguard
  have hreached : reached.Satisfies libs (Kept libs passwords) (InStep libs passwords) :=
    Run.invariant_run (kept_incident hlaws hdistinct) ⟨kept_empty, by simp⟩ hhistory
  obtain ⟨hcoherent, -⟩ := hreached.store store hstore
  obtain ⟨file, hsealed⟩ := Option.isSome_iff_exists.mp
    (hcoherent.sessionSealed (by simp [hunlocked.session]))
  have hhonest := honest_of_survives hreached hsurvives hstore hunlocked hsealed
  have hleft := @left_of_insert libs uuid registration nonce writes session file store hunlocked
    hsealed reached.disk
  generalize hdisk : (insert libs registration nonce writes store reached.disk).disk = disk'
    at hleft
  have hfinal : final = Run.run (step libs) ⟨disk', none⟩
      [.openStore env, .unlock session.password random write] := by
    have hinserted : (step libs (step libs reached (.insert registration nonce writes)).1
        .crash).1 = ⟨disk', none⟩ := by
      rw [← hdisk]
      simp only [step, hstore, withReply]
    simp only [final, Run.run_cons, hinserted]
  obtain ⟨store', hstore', haside, hsame, hstanding, hunlocks⟩ := @unlocks_after_crash libs
    passwords session disk' hdistinct (hhonest.kept_left hlaws hleft) env hlock
    hhonest.session_known.1 random write
  rw [hfinal]
  refine ⟨store', hstore', ?_, (hhonest.recovered hlaws hleft).of_same hsame, hstanding,
    fun hlisted => ?_⟩
  · rw [haside]
    cases hleft <;> rfl
  · cases hleft with
    | untouched hlost =>
        have hcount := hlisted.resolve_right hlost
        simp only [Inner.credentialCount, hsealed] at hcount
        exact (hunlocks file hhonest.read (by simpa using hcount) hhonest.session_derived
          hhonest.session_known.2).2
    | sectioned hlost cache _ =>
        have hcount := hlisted.resolve_right hlost
        simp only [Inner.credentialCount, hsealed] at hcount
        exact (hunlocks file hhonest.read (by simpa using hcount) hhonest.session_derived
          hhonest.session_known.2).2
    | committed _ entry hentry =>
        obtain ⟨-, hcommitted⟩ := hhonest.kept_committed hlaws hentry
        have hpositive : 0 < (withEntry file registration.hash entry).credentials.size := by
          rw [withEntry, Std.ExtTreeMap.size_insert]
          split
          · next hmember => exact absurd hmember (by simpa using hhonest.fresh)
          · omega
        exact (hunlocks (withEntry file registration.hash entry) hcommitted.sealedStore.symm
          hpositive hhonest.session_derived hhonest.session_known.2).2

/-! ## A first insert that dies -/

/-- The sealed write lands, but is not reported. -/
def lateWrites : InsertWrites := ⟨.ok, .ok, .failed true "power loss"⟩

def firstHistory : List Incident := [.call (.openStore Reference.env), .call Reference.unlockOp]

theorem sized_first : Sized Reference.libraries (Reference.registration 1) Reference.nonce
    Reference.keys Reference.uuid Reference.provisionedInner
    (provisionedFile Reference.params Reference.keys Reference.uuid) where
  place := by simp [provisionedFile, SealedFile.provision, maxCredentials]
  allocations := insertFits_first.allocations
  cache := insertFits_first.cache
  sealedText entry hentry := by
    obtain rfl := Reference.eq_entry hentry
    exact insertFits_first.sealedText

theorem run_firstHistory : Run.run (incidentStep Reference.libraries) {} firstHistory =
    ⟨Reference.provisionedDisk, some (publish Reference.provisionedInner)⟩ :=
  Reference.run_provisioned

theorem survives_first : Run.Guarded (incidentStep Reference.libraries)
    (Survives Reference.libraries {"pw"}) {}
    (firstHistory ++ [.dies (Reference.registration 1) Reference.nonce lateWrites]) := by
  rw [Run.guarded_append, run_firstHistory]
  refine ⟨⟨.inl ⟨Reference.answered_open, trivial⟩, .inl ⟨Reference.answered_unlock, rfl, ?_⟩,
    trivial⟩, ⟨Reference.recomputes_registration 1, ?_⟩, trivial⟩
  · intro store params keys uuid hstore hprovisions
    obtain rfl := Option.some.inj hstore
    obtain rfl : Reference.params = params := Except.ok.inj hprovisions.generated
    obtain rfl : Reference.keys = keys :=
      Except.ok.inj (Reference.deriveKeys_params.symm.trans hprovisions.derived)
    obtain rfl : Reference.uuid = uuid := Option.some.inj hprovisions.drawn
    exact Reference.sealedLength_provisioned.trans (by decide)
  · intro store session uuid file hstore hunlocked hsealed
    obtain rfl := Option.some.inj hstore
    obtain rfl : ⟨"pw", Reference.keys⟩ = session := Option.some.inj hunlocked.session
    obtain rfl : Reference.uuid = uuid := Option.some.inj hunlocked.storeUuid
    obtain rfl : provisionedFile Reference.params Reference.keys Reference.uuid = file :=
      Option.some.inj hsealed
    exact ⟨by simp [provisionedFile, SealedFile.provision], sized_first⟩

theorem lands_first : Lands Reference.libraries Reference.keys Reference.uuid
    (Reference.registration 1) Reference.nonce lateWrites :=
  ⟨rfl, rfl, rfl, Reference.entry 1, _, _, _, rfl, rfl, rfl, rfl⟩

/-- The first membership is there though the insert never returned. -/
theorem crashed_insert_recovered_first :
    ∃ store, (Run.run (step Reference.libraries)
        (Run.run (incidentStep Reference.libraries) {} firstHistory)
        [.insert (Reference.registration 1) Reference.nonce lateWrites, .crash,
          .openStore Reference.env, Reference.unlockOp]).store = some store ∧
      (credential store.inner (Reference.registration 1).hash).isSome = true ∧
      store.inner.session = some ⟨"pw", Reference.keys⟩ := by
  have hdistinct : Distinguishes Reference.libraries {"pw"} := by
    rintro first hfirst second hsecond params keys keys' hkeys hkeys' -
    rw [Set.mem_singleton_iff.mp hfirst] at hkeys
    rw [Set.mem_singleton_iff.mp hsecond] at hkeys'
    exact Except.ok.inj (hkeys.symm.trans hkeys')
  obtain ⟨store, hstore, -, hrecovered, -, hunlocks⟩ := crashed_insert_recovered
    Reference.libraries Reference.laws {"pw"} hdistinct firstHistory (Reference.registration 1)
    Reference.nonce lateWrites survives_first (publish Reference.provisionedInner)
    ⟨"pw", Reference.keys⟩ Reference.uuid Reference.env Reference.random .ok
    (by rw [run_firstHistory]) Reference.unlocked_provisionedInner rfl
  exact ⟨store, hstore, hrecovered.listed.mpr lands_first, hunlocks (.inr lands_first)⟩

end LogosRln.SealedStore.CrashedInsert
