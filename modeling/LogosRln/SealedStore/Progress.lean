import LogosRln.SealedStore.Verification

/-!
# Calls that succeed

When each call of the store answers without an error and what it leaves, for
the results that follow a healthy store through restarts.
-/

namespace LogosRln.SealedStore

open RegistryId Crypto Format Lifecycle RateLimit Files

/-- What the store relies on from its libraries: opening undoes sealing, and a
coded credential decodes. -/
structure Laws (libs : Libraries) : Prop where
  decrypt_encrypt : ∀ key nonce aad msg ct, libs.encrypt key nonce aad msg = some ct →
    libs.decrypt key nonce aad ct = some msg
  decodes : ∀ credential bytes, libs.credentialToVec credential = .ok bytes →
    isOk (libs.credentialFromSlice bytes) = true

variable {libs : Libraries}

/-! ## Opening and unlocking -/

/-- A readable sealed file opens whatever the other two files hold. -/
theorem openStore_of_readSealed {env : OpenEnv} {disk : Disk} {file : SealedFile}
    (hlock : env.lock = .taken) (hread : readSealed disk.sealedText = some file)
    (huuid : (parseUuid file.storeUuid).isSome) :
    ∃ cache disk', openStore libs env disk =
        (.ok (publish (openedInner libs (some file) (readLedger disk.allocations) cache)), disk') ∧
      readSealed disk'.sealedText = some file ∧
      readLedger disk'.allocations = readLedger disk.allocations := by
  obtain ⟨cache, disk', hopen, hsealed, hledger⟩ := openFiles_spec libs env (some file) disk
  have hpresent : disk.sealedText.present = true := by
    obtain ⟨size, htext, -⟩ := readSealed_eq_some hread
    simp [htext, StoreFile.present]
  refine ⟨cache, disk', ?_, by rw [hsealed, hread], hledger⟩
  simp [openStore, openLocked, hlock, hpresent, loadSealed_of_readSealed hread,
    Option.ne_none_iff_isSome.mpr huuid, hopen]

/-- The password that wrote the verifier unlocks, unless the census left no
credential standing. -/
theorem unlock_of_authenticated {password : String} {random : UnlockRandom} {write : WriteOutcome}
    {store : Store} {disk : Disk} {file : SealedFile} {uuid : Bytes16} {keys : SubKeys}
    (hauth : Authenticated libs password store.inner file uuid keys)
    (hcount : 0 < store.inner.credentialCount) :
    ∃ unlocked, unlock libs password random write store disk =
      ⟨.ok unlocked, publish (authenticatedInner libs password store.inner file uuid keys), disk⟩ := by
  have hverifier : ctEq keys.verify.toList ((hexToVec file.verifier).getD []) = true :=
    ctEq_iff.mpr hauth.verifier
  exact ⟨_, by
    simp only [unlock, hauth.lockHeld, hauth.someStanding, hcount.ne', authenticate,
      hauth.sealedStore, hauth.storeUuid, hauth.derived, hverifier, Bool.not_true,
      Bool.false_eq_true, if_false, and_false, authenticatedInner]
    rfl⟩

/-- Any password provisions an empty store. -/
theorem unlock_of_empty {password : String} {random : UnlockRandom} {store : Store} {disk : Disk}
    {params : KdfParams} {keys : SubKeys} {uuid : Bytes16}
    (hprovisions : Provisions libs password random store.inner params keys uuid) :
    unlock libs password random .ok store disk =
      ⟨.ok 0, publish { store.inner with
          sealedStore := some (provisionedFile params keys uuid)
          storeUuid := some uuid
          session := some ⟨password, keys⟩ },
        { disk with
          sealedText := .text (libs.sealedLength (provisionedFile params keys uuid))
            (.ok (provisionedFile params keys uuid)) }⟩ := by
  simp only [unlock, hprovisions.lockHeld, hprovisions.empty, provisionStore,
    hprovisions.generated, hprovisions.derived, hprovisions.drawn, WriteOutcome.result, writeText, WriteOutcome.lands,
    provisionedFile, Bool.not_true, Bool.false_eq_true, if_false, if_true, lt_self_iff_false,
    false_and]

/-! ## Writing -/

theorem insertCredential_of_unlocked {registration : Registration} {inner : Inner} {disk : Disk}
    {session : Session} {uuid : Bytes16} {file : SealedFile} {nonce : Bytes24} {plaintext ct : Bytes}
    (hunlocked : Unlocked inner session uuid) (hsealed : inner.sealedStore = some file)
    (hplain : libs.credentialToVec registration.credential = .ok plaintext)
    (hencrypt : libs.encrypt session.keys.sealKey nonce
      (credentialAad registration.hash registration.identity uuid) plaintext = some ct) :
    let entry : SealedEntry := ⟨registration.identity, bytesToHex nonce.toList, bytesToHex ct⟩
    insertCredential libs registration (some nonce) .ok inner disk =
      ⟨.ok (), { inner with sealedStore := some (withEntry file registration.hash entry) },
        { disk with
          sealedText := .text (libs.sealedLength (withEntry file registration.hash entry))
            (.ok (withEntry file registration.hash entry)) }⟩ := by
  have hseal : sealBytes libs.toPrimitives session.keys.sealKey (some nonce)
      (credentialAad registration.hash registration.identity uuid) plaintext = .ok (nonce, ct) := by
    simp [sealBytes, hencrypt]
  simp only [insertCredential, hunlocked.session, hunlocked.storeUuid, hplain, hseal, hsealed,
    WriteOutcome.result, withEntry, writeText, WriteOutcome.lands, if_true]

/-- An unlocked, provisioned store inserts whenever the credential seals and
the writes succeed. -/
theorem insert_of_unlocked {registration : Registration} {store : Store} {disk : Disk}
    {session : Session} {uuid : Bytes16} {file : SealedFile} {nonce : Bytes24} {plaintext ct : Bytes}
    (hunlocked : Unlocked store.inner session uuid)
    (hsealed : store.inner.sealedStore = some file)
    (hplain : libs.credentialToVec registration.credential = .ok plaintext)
    (hencrypt : libs.encrypt session.keys.sealKey nonce
      (credentialAad registration.hash registration.identity uuid) plaintext = some ct) :
    let entry : SealedEntry := ⟨registration.identity, bytesToHex nonce.toList, bytesToHex ct⟩
    insert libs registration (some nonce) ⟨.ok, .ok, .ok⟩ store disk =
      ⟨.ok (), publish (committedInner libs registration session.keys uuid store.inner file entry),
        committedDisk libs registration ⟨.ok, .ok, .ok⟩ session.keys uuid store.inner file entry
          disk⟩ := by
  have hstage : insertCacheRow registration (ledgerInner libs .ok session.keys uuid
      (insertSection registration.hash store.inner)) =
      sectionedInner libs registration session.keys uuid store.inner := rfl
  have hinserted : Unlocked (insertSection registration.hash store.inner) session uuid :=
    ⟨hunlocked.lockHeld, hunlocked.session, hunlocked.storeUuid⟩
  have hsectioned : Unlocked (sectionedInner libs registration session.keys uuid store.inner)
      session uuid := ⟨hunlocked.lockHeld, hunlocked.session, hunlocked.storeUuid⟩
  rcases writeAllocations_cases libs hinserted .ok disk with ⟨_, hfailed, -⟩ | ⟨-, hledger⟩
  · exact absurd rfl hfailed
  · have hcommit := fun disk => @insertCredential_of_unlocked libs registration _ disk session uuid
      file nonce plaintext ct hsectioned hsealed hplain hencrypt
    simp only [insert, hunlocked.lockHeld, hunlocked.session, Option.isNone_some, Bool.not_true,
      Bool.false_eq_true, if_false, hledger, hstage, writeCache, WriteOutcome.result, hcommit]
    rfl

/-- Memory after an insert and a lock. -/
def relockedInner (libs : Libraries) (registration : Registration) (keys : SubKeys)
    (uuid : Bytes16) (inner : Inner) (file : SealedFile) (entry : SealedEntry) : Inner :=
  { committedInner libs registration keys uuid inner file entry with session := none }

/-- After an insert the store unlocks again with the session's password: the
inserted membership is in good census standing. -/
theorem run_insert_relock {world : World} {store : Store} {registration : Registration}
    {session : Session} {uuid : Bytes16} {file : SealedFile} {plaintext ct : Bytes}
    (nonce : Bytes24) (random : UnlockRandom) (write : WriteOutcome)
    (hstore : world.store = some store) (hcoherent : Coherent libs store.inner)
    (hunlocked : Unlocked store.inner session uuid)
    (hsealed : store.inner.sealedStore = some file)
    (hverifier : session.keys.verify.toList = (hexToVec file.verifier).getD [])
    (hplain : libs.credentialToVec registration.credential = .ok plaintext)
    (hencrypt : libs.encrypt session.keys.sealKey nonce
      (credentialAad registration.hash registration.identity uuid) plaintext = some ct) :
    let entry : SealedEntry := ⟨registration.identity, bytesToHex nonce.toList, bytesToHex ct⟩
    (Run.run (step libs) world [.insert registration (some nonce) ⟨.ok, .ok, .ok⟩, .lock,
        .unlock session.password random write]).store =
      some (publish (authenticatedInner libs session.password
        (relockedInner libs registration session.keys uuid store.inner file entry)
        (withEntry file registration.hash entry) uuid session.keys)) := by
  intro entry
  let relocked := relockedInner libs registration session.keys uuid store.inner file entry
  have hinsert := @insert_of_unlocked libs registration store world.disk session uuid file nonce
    plaintext ct hunlocked hsealed hplain hencrypt
  have hmember : registration.hash ∈ (withEntry file registration.hash entry).credentials := by
    simp [withEntry]
  have hauth : Authenticated libs session.password relocked
      (withEntry file registration.hash entry) uuid session.keys := by
    refine ⟨hunlocked.lockHeld, rfl, hunlocked.storeUuid,
      hcoherent.sessionKeys session file hunlocked.session hsealed, hverifier, ?_⟩
    rw [Bool.eq_false_iff, Ne, allQuarantined_iff
      (rfl : relocked.sealedStore = some (withEntry file registration.hash entry))]
    exact fun hall => (Finset.notMem_erase registration.hash _) (hall registration.hash hmember)
  have hcount : 0 < relocked.credentialCount :=
    credentialCount_pos (hasCredential_iff.mpr ⟨_, rfl, hmember⟩)
  obtain ⟨unlocked, hunlock⟩ := @unlock_of_authenticated libs session.password random write
    (lock (publish (committedInner libs registration session.keys uuid store.inner file entry)))
    (committedDisk libs registration ⟨.ok, .ok, .ok⟩ session.keys uuid store.inner file entry
      world.disk) (withEntry file registration.hash entry) uuid session.keys hauth hcount
  simp only [Run.run_cons, Run.run_nil, step, hstore, hinsert, withReply, Option.map_some]
  exact congrArg (fun reply => some reply.store) hunlock

/-- A chosen slot is answered once its ledger write succeeds. -/
theorem reserve_of_chosen {args : ReserveArgs} {store : Store} {disk : Disk} {session : Session}
    {uuid : Bytes16} {slot : UInt64} {alloc : AllocationState}
    (hunlocked : Unlocked store.inner session uuid)
    (hchosen : chooseSlot args store.inner = .ok (slot, alloc)) :
    reserveMessageId libs args .ok store disk =
      ⟨.ok slot, publish (ledgerInner libs .ok session.keys uuid
          (withCounters store.inner args.hash alloc)),
        ledgerDisk libs .ok session.keys uuid (withCounters store.inner args.hash alloc) disk⟩ := by
  have hadvanced : Unlocked (withCounters store.inner args.hash alloc) session uuid :=
    ⟨hunlocked.lockHeld, hunlocked.session, hunlocked.storeUuid⟩
  rcases writeAllocations_cases libs hadvanced .ok disk with ⟨_, hfailed, -⟩ | ⟨-, hwrite⟩
  · exact absurd rfl hfailed
  · have hreserve : reserveMessageId libs args .ok store disk =
        let ledger := writeAllocations libs .ok (withCounters store.inner args.hash alloc) disk
        ⟨ledger.result.map fun _ => slot, publish ledger.inner, ledger.disk⟩ := by
      simp [reserveMessageId, hunlocked.lockHeld, hunlocked.session, hchosen, withCounters]
    rw [hreserve, hwrite]
    rfl

/-- What `insert` seals opens again. -/
theorem credentialOpens_of_sealsEntry (hlaws : Laws libs) {keys : SubKeys} {uuid : Bytes16}
    {registration : Registration} {nonce : Option Bytes24} {entry : SealedEntry}
    (hentry : SealsEntry libs keys uuid registration nonce entry) :
    credentialOpens libs keys (credentialAad registration.hash entry.identity uuid) entry = true := by
  obtain ⟨plaintext, drawn, ct, -, hplain, hencrypt, rfl⟩ := hentry
  have hdecrypt := hlaws.decrypt_encrypt _ _ _ _ _ hencrypt
  simpa [credentialOpens, unsealBytes, hdecrypt] using hlaws.decodes _ _ hplain

end LogosRln.SealedStore
