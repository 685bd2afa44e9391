import LogosRln.SealedStore.Reference

/-!
# What a failed insert leaves

An insert changes memory before each of its three writes.  A failure before the
sealed write leaves a section and perhaps a cache row under the hash, but no
credential: nothing published, unsealed or written to the sealed file later
mentions it, and the section is gone once the directory is opened again.  A
failed sealed write leaves the credential itself in memory.
-/

namespace LogosRln.SealedStore.FailedInsert

open RegistryId Crypto Format Lifecycle RateLimit Files

variable {libs : Libraries} {hash : String}

/-! ## Credentials in memory, in the snapshot and on disk -/

/-- No call drops a credential. -/
theorem hasCredential_effect {inner inner' : Inner} {disk disk' : Disk} {op : Op} {answer : Answer}
    (heffect : Effect libs inner disk op answer inner' disk')
    (hmember : inner.hasCredential hash = true) : inner'.hasCredential hash = true := by
  have hcommitted : ∀ (registration : Registration) (keys : SubKeys) (uuid : Bytes16)
      (file : SealedFile) (entry : SealedEntry), inner.sealedStore = some file →
      (committedInner libs registration keys uuid inner file entry).hasCredential hash = true := by
    intro registration keys uuid file entry hsealed
    obtain ⟨_, hfile, hlisted⟩ := hasCredential_iff.mp hmember
    cases hsealed.symm.trans hfile
    exact hasCredential_iff.mpr ⟨_, rfl, by simp [withEntry, hlisted]⟩
  cases heffect with
  | provisioned hprovisions =>
      have hpositive := credentialCount_pos hmember
      rw [hprovisions.empty] at hpositive
      exact absurd hpositive (lt_irrefl 0)
  | insertSealFailed error hunlocked hledger hcache hsealed => exact hcommitted _ _ _ _ _ hsealed
  | inserted hunlocked hledger hcache hwrite hsealed => exact hcommitted _ _ _ _ _ hsealed
  | reserveFailed => simpa [Inner.hasCredential, withCounters] using hmember
  | reserved => simpa [Inner.hasCredential, withCounters] using hmember
  | _ => exact hmember

theorem notMem_provisionedFile (params : KdfParams) (keys : SubKeys) (uuid : Bytes16)
    (hash : String) : hash ∉ (provisionedFile params keys uuid).credentials := by
  simp [provisionedFile, SealedFile.provision]

/-- Every credential that can be read from the sealed file is in memory. -/
def Mirrored (inner : Inner) (disk : Disk) : Prop :=
  ∀ file, readSealed disk.sealedText = some file → ∀ hash, hash ∈ file.credentials →
    inner.hasCredential hash = true

theorem mirrored_effect {inner inner' : Inner} {disk disk' : Disk} {op : Op} {answer : Answer}
    (hmirrored : Mirrored inner disk) (heffect : Effect libs inner disk op answer inner' disk') :
    Mirrored inner' disk' := by
  have hkept : disk'.sealedText = disk.sealedText → Mirrored inner' disk' := by
    intro hsame file hread hash hlisted
    rw [hsame] at hread
    exact hasCredential_effect heffect (hmirrored file hread hash hlisted)
  have hwritten : ∀ (write : WriteOutcome) (size : ℕ) (written : SealedFile),
      disk'.sealedText = writeText write size written disk.sealedText →
      (∀ hash, hash ∈ written.credentials → inner'.hasCredential hash = true) →
      Mirrored inner' disk' := by
    intro write size written htext hlists file hread hash hlisted
    rw [htext] at hread
    rcases readSealed_writeText hread with ⟨rfl, -⟩ | ⟨hold, -⟩
    · exact hlists hash hlisted
    · exact hasCredential_effect heffect (hmirrored file hold hash hlisted)
  cases heffect with
  | @provisionFailed _ _ write params keys uuid =>
      exact hwritten write _ (provisionedFile params keys uuid) rfl fun hash hlisted =>
        absurd hlisted (notMem_provisionedFile params keys uuid hash)
  | @provisioned _ _ params keys uuid =>
      exact hwritten .ok _ (provisionedFile params keys uuid) rfl fun hash hlisted =>
        absurd hlisted (notMem_provisionedFile params keys uuid hash)
  | insertSealFailed =>
      exact hwritten _ _ _ rfl fun hash hlisted => hasCredential_iff.mpr ⟨_, rfl, hlisted⟩
  | inserted =>
      exact hwritten _ _ _ rfl fun hash hlisted => hasCredential_iff.mpr ⟨_, rfl, hlisted⟩
  | _ => exact hkept rfl

theorem mirrored_run (disk : Disk) (ops : List Op) :
    (Run.run (step libs) { disk } ops).Satisfies libs (fun _ => True) Mirrored := by
  refine Run.invariant_run ?_ ⟨trivial, by simp⟩ (Run.guarded_true _ _)
  refine satisfies_step ?_ fun _ _ _ _ _ _ _ _ _ _ hinner heffect =>
    ⟨trivial, mirrored_effect hinner heffect⟩
  intro env disk disk' cache _ hopened
  refine ⟨trivial, fun file hread hash hlisted => ?_⟩
  rw [hopened.sealedText] at hread
  exact hasCredential_iff.mpr ⟨file, hread, hlisted⟩

/-- A call publishes the memory it leaves, or leaves the snapshot alone. -/
theorem step_snapshot {world : World} {op : Op} {store' : Store}
    (hcoherent : ∀ store, world.store = some store → Coherent libs store.inner)
    (hstore' : (step libs world op).1.store = some store') :
    store'.snapshot = buildSnapshot store'.inner ∨
      ∃ store, world.store = some store ∧ store'.snapshot = store.snapshot := by
  cases hopen : op with
  | openStore env =>
      rw [hopen] at hstore'
      rcases openStore_cases libs { env with lock := world.lockOutcome env } world.disk with
        ⟨error, heq⟩ | ⟨cache, disk', hopened⟩
      · simp only [step, heq] at hstore'
        exact .inr ⟨store', hstore', rfl⟩
      · simp only [step, hopened.opens, Option.some.injEq] at hstore'
        subst hstore'
        exact .inl rfl
  | crash => simp [step, hopen] at hstore'
  | close =>
      simp only [step, hopen, Option.map_eq_some_iff] at hstore'
      obtain ⟨store, hstore, rfl⟩ := hstore'
      exact .inr ⟨store, hstore, rfl⟩
  | lock =>
      simp only [step, hopen, Option.map_eq_some_iff] at hstore'
      obtain ⟨store, hstore, rfl⟩ := hstore'
      exact .inr ⟨store, hstore, rfl⟩
  | unlock password random write =>
      cases hstore : world.store with
      | none => simp [step, hopen, hstore] at hstore'
      | some store =>
          simp only [step, hopen, hstore, withReply, Option.some.injEq] at hstore'
          subst hstore'
          rcases unlock_cases libs password random write store world.disk with
            ⟨error, heq⟩ | ⟨params, keys, uuid, -, ⟨error, -, heq⟩ | ⟨-, heq⟩⟩ |
              ⟨file, uuid, keys, unlocked, -, -, heq⟩
          · exact .inr ⟨store, rfl, by rw [heq]; rfl⟩
          · exact .inr ⟨store, rfl, by rw [heq]; rfl⟩
          · exact .inl (by rw [heq]; rfl)
          · exact .inl (by rw [heq]; rfl)
  | insert registration nonce writes =>
      cases hstore : world.store with
      | none => simp [step, hopen, hstore] at hstore'
      | some store =>
          simp only [step, hopen, hstore, withReply, Option.some.injEq] at hstore'
          subst hstore'
          obtain ⟨uuid, huuid⟩ := (hcoherent store hstore).storeUuid_of_session
          rcases insert_cases libs registration nonce writes store world.disk huuid with
            ⟨error, heq⟩ | ⟨session, -, houtcome⟩
          · exact .inr ⟨store, rfl, by rw [heq]; rfl⟩
          · generalize insert libs registration nonce writes store world.disk = reply at houtcome
            cases houtcome with
            | ledgerFailed => exact .inr ⟨store, rfl, rfl⟩
            | sectioned => exact .inr ⟨store, rfl, rfl⟩
            | sealFailed => exact .inr ⟨store, rfl, rfl⟩
            | committed => exact .inl rfl
  | reserve args write =>
      cases hstore : world.store with
      | none => simp [step, hopen, hstore] at hstore'
      | some store =>
          simp only [step, hopen, hstore, withReply, Option.some.injEq] at hstore'
          subst hstore'
          obtain ⟨uuid, huuid⟩ := (hcoherent store hstore).storeUuid_of_session
          rcases reserveMessageId_cases libs args write store world.disk huuid with
            ⟨error, heq⟩ | ⟨session, slot, alloc, -, -, ⟨error, -, heq⟩ | ⟨-, heq⟩⟩
          · exact .inr ⟨store, rfl, by rw [heq]; rfl⟩
          · exact .inl (by rw [heq]; rfl)
          · exact .inl (by rw [heq]; rfl)
  | updateCache hash mutate now write =>
      cases hstore : world.store with
      | none => simp [step, hopen, hstore] at hstore'
      | some store =>
          simp only [step, hopen, hstore, withReply, Option.some.injEq] at hstore'
          subst hstore'
          rcases updateCache_cases libs hash mutate now write store world.disk with
            ⟨error, heq⟩ | ⟨cache, ⟨error, heq⟩ | ⟨prior, -, heq⟩⟩
          · exact .inr ⟨store, rfl, by rw [heq]; rfl⟩
          · exact .inr ⟨store, rfl, by rw [heq]⟩
          · exact .inl (by rw [heq]; rfl)

theorem mem_buildSnapshot {inner : Inner} :
    hash ∈ buildSnapshot inner ↔ inner.hasCredential hash = true := by
  rw [hasCredential_iff]
  cases hsealed : inner.sealedStore with
  | none => simp [buildSnapshot, hsealed]
  | some file => simp [buildSnapshot, hsealed]

/-- Nothing is published without a credential in memory. -/
structure Published (libs : Libraries) (world : World) : Prop where
  coherent : ∀ store, world.store = some store → Coherent libs store.inner
  listed : ∀ store, world.store = some store → ∀ hash, hash ∈ store.snapshot →
    store.inner.hasCredential hash = true

theorem published_step (world : World) (op : Op) (hpublished : Published libs world)
    (_ : True) : Published libs (step libs world op).1 := by
  have hcoherent : ∀ store, (step libs world op).1.store = some store →
      Coherent libs store.inner := by
    have hstep := @step_satisfies libs (fun _ => True) (fun _ => True) (fun _ _ => True)
      (fun _ _ => True) world op ⟨trivial, fun store hstore =>
        ⟨hpublished.coherent store hstore, trivial⟩⟩ (fun _ _ => trivial)
      (fun _ _ _ _ => trivial) (fun _ _ _ _ _ _ => ⟨trivial, trivial⟩)
      (fun _ _ _ _ _ _ _ _ => ⟨trivial, trivial⟩)
    exact fun store hstore => (hstep.store store hstore).1
  refine ⟨hcoherent, fun store' hstore' hash hlisted => ?_⟩
  rcases step_snapshot hpublished.coherent hstore' with hbuilt | ⟨store, hstore, hsame⟩
  · rwa [hbuilt, mem_buildSnapshot] at hlisted
  · rw [hsame] at hlisted
    have hmember := hpublished.listed store hstore hash hlisted
    by_cases hopen : ∃ env, op = .openStore env
    · obtain ⟨env, rfl⟩ := hopen
      rcases openStore_cases libs { env with lock := world.lockOutcome env } world.disk with
        ⟨error, heq⟩ | ⟨cache, disk', hopened⟩
      · simp only [step, heq, hstore, Option.some.injEq] at hstore'
        rwa [← hstore']
      · simp only [step, hopened.opens, Option.some.injEq] at hstore'
        subst hstore'
        have hbuilt : buildSnapshot (openedInner libs (readSealed world.disk.sealedText)
            (readLedger world.disk.allocations) cache) = store.snapshot := hsame
        rw [← hbuilt] at hlisted
        exact mem_buildSnapshot.mp hlisted
    · by_cases hcrash : op = .crash
      · subst hcrash
        simp [step] at hstore'
      · obtain ⟨final, disk', answer, hstep, heffect⟩ := step_effect hstore
          (hpublished.coherent store hstore) (fun env heq => hopen ⟨env, heq⟩) hcrash
        rw [hstep, Option.some.injEq] at hstore'
        rw [← hstore']
        exact hasCredential_effect heffect hmember

theorem published_run (disk : Disk) (ops : List Op) :
    Published libs (Run.run (step libs) { disk } ops) :=
  Run.invariant_run published_step ⟨by simp, by simp⟩ (Run.guarded_true _ _)

/-! ## A hash without a credential -/

/-- A sealed file's text that does not hold the hash, if it is one. -/
def Lacks (hash : String) (text : StoreFile SealedFile) : Prop :=
  ∀ size file, text = .text size (.ok file) → hash ∉ file.credentials

theorem lacks_writeText {write : WriteOutcome} {size : ℕ} {file : SealedFile}
    {original old : StoreFile SealedFile} (hfile : hash ∉ file.credentials)
    (hold : old = original ∨ Lacks hash old) :
    writeText write size file old = original ∨ Lacks hash (writeText write size file old) := by
  cases hlands : write.lands with
  | true =>
      right
      intro size' file' htext
      simp only [writeText, hlands, if_true, StoreFile.text.injEq, Except.ok.injEq] at htext
      rwa [← htext.2]
  | false => simpa [writeText, hlands] using hold

theorem sealedText_loadSealed (env : OpenEnv) (disk : Disk) :
    (loadSealed env disk).2.sealedText = disk.sealedText ∨
      (loadSealed env disk).2.sealedText = .missing := by
  have hmoved : (quarantineSealed env disk).sealedText = disk.sealedText ∨
      (quarantineSealed env disk).sealedText = .missing := by
    simp only [quarantineSealed, quarantineFile]
    split
    · exact .inr rfl
    · exact .inl rfl
  simp only [loadSealed]
  split
  · exact .inl rfl
  · exact .inl rfl
  · split <;> exact .inl rfl
  · split
    · split
      · exact hmoved
      · split <;> exact .inl rfl
    · exact .inl rfl

/-- `open` leaves the sealed file where it is or moves it aside. -/
theorem sealedText_openStore (env : OpenEnv) (disk : Disk) :
    (openStore libs env disk).2.sealedText = disk.sealedText ∨
      (openStore libs env disk).2.sealedText = .missing := by
  have hload := sealedText_loadSealed env disk
  simp only [openStore]
  split
  · exact .inl rfl
  · split
    · exact .inl rfl
    · exact .inl rfl
    · simp only [openLocked]
      split
      · rename_i hloaded
        simpa only [hloaded] using hload
      · rename_i sealedStore loaded hloaded
        obtain ⟨cache, disk', hopen, hsealed, -⟩ := openFiles_spec libs env sealedStore loaded
        rw [hloaded] at hload
        split
        · exact hload
        · simpa only [hopen, hsealed] using hload

/-- A disk without the hash: the sealed file is the one there was, which cannot
be read to hold it, or it lacks it. -/
structure AbsentOnDisk (hash : String) (original : StoreFile SealedFile) (disk : Disk) : Prop where
  text : disk.sealedText = original ∨ Lacks hash disk.sealedText
  unread : ∀ file, readSealed disk.sealedText = some file → hash ∉ file.credentials

def AbsentInMemory (hash : String) (inner : Inner) (_ : Disk) : Prop :=
  inner.hasCredential hash = false

/-- No insert of the hash, and no reservation for it while memory holds a
section left under it. -/
def Admissible (hash : String) (world : World) : Op → Prop
  | .insert registration _ _ => registration.hash ≠ hash
  | .reserve args _ => args.hash = hash →
      ∀ store, world.store = some store → hash ∉ store.inner.sections
  | _ => True

instance (hash : String) (world : World) :
    Decidable (∀ store, world.store = some store → hash ∉ store.inner.sections) :=
  inferInstanceAs (Decidable (∀ store ∈ world.store, hash ∉ store.inner.sections))

instance (hash : String) (world : World) : ∀ op, Decidable (Admissible hash world op)
  | .insert registration _ _ => inferInstanceAs (Decidable (registration.hash ≠ hash))
  | .reserve args _ => inferInstanceAs (Decidable (args.hash = hash →
      ∀ store, world.store = some store → hash ∉ store.inner.sections))
  | .openStore _ | .close | .lock | .unlock _ _ _ | .updateCache _ _ _ _ | .crash => isTrue trivial

theorem absent_effect {original : StoreFile SealedFile} {inner inner' : Inner} {disk disk' : Disk}
    {op : Op} {answer : Answer}
    (hinsert : ∀ registration nonce writes, op = .insert registration nonce writes →
      registration.hash ≠ hash)
    (hdisk : AbsentOnDisk hash original disk) (hinner : AbsentInMemory hash inner disk)
    (heffect : Effect libs inner disk op answer inner' disk') :
    AbsentOnDisk hash original disk' ∧ AbsentInMemory hash inner' disk' := by
  have hwritten : ∀ (write : WriteOutcome) (size : ℕ) (file : SealedFile),
      disk'.sealedText = writeText write size file disk.sealedText → hash ∉ file.credentials →
      AbsentOnDisk hash original disk' := by
    intro write size file htext hlacks
    refine ⟨?_, fun read hread => ?_⟩
    · rw [htext]
      exact lacks_writeText hlacks hdisk.text
    · rw [htext] at hread
      rcases readSealed_writeText hread with ⟨rfl, -⟩ | ⟨hold, -⟩
      · exact hlacks
      · exact hdisk.unread read hold
  have hentry : ∀ (registration : Registration) (file : SealedFile) (entry : SealedEntry),
      registration.hash ≠ hash → inner.sealedStore = some file →
      hash ∉ (withEntry file registration.hash entry).credentials := by
    intro registration file entry hother hsealed hlisted
    simp only [withEntry, Std.ExtTreeMap.mem_insert, Std.compare_eq_iff_eq] at hlisted
    rcases hlisted with hsame | hold
    · exact hother hsame
    · have hmember := hasCredential_iff.mpr ⟨file, hsealed, hold⟩
      rw [hinner] at hmember
      cases hmember
  have hmemory : ∀ (file : SealedFile), inner'.sealedStore = some file →
      hash ∉ file.credentials → AbsentInMemory hash inner' disk' := by
    intro file hsealed hlacks
    rw [AbsentInMemory, Bool.eq_false_iff]
    intro hmember
    obtain ⟨_, hfile, hlisted⟩ := hasCredential_iff.mp hmember
    cases hsealed.symm.trans hfile
    exact hlacks hlisted
  cases heffect with
  | @provisionFailed _ _ write params keys uuid =>
      exact ⟨hwritten write _ (provisionedFile params keys uuid) rfl
        (notMem_provisionedFile params keys uuid hash), hinner⟩
  | @provisioned _ _ params keys uuid =>
      have hlacks := notMem_provisionedFile params keys uuid hash
      exact ⟨hwritten .ok _ (provisionedFile params keys uuid) rfl hlacks,
        hmemory (provisionedFile params keys uuid) rfl hlacks⟩
  | @insertSealFailed registration nonce writes session uuid file entry error hunlocked hledger
      hcache hsealed =>
      have hlacks := hentry registration file entry (hinsert _ _ _ rfl) hsealed
      exact ⟨hwritten writes.sealedText _ (withEntry file registration.hash entry) rfl hlacks,
        hmemory (withEntry file registration.hash entry) rfl hlacks⟩
  | @inserted registration nonce writes session uuid file entry hunlocked hledger hcache hwrite
      hsealed =>
      have hlacks := hentry registration file entry (hinsert _ _ _ rfl) hsealed
      exact ⟨hwritten writes.sealedText _ (withEntry file registration.hash entry) rfl hlacks,
        hmemory (withEntry file registration.hash entry) rfl hlacks⟩
  | reserveFailed =>
      exact ⟨⟨hdisk.text, hdisk.unread⟩,
        by simpa [AbsentInMemory, Inner.hasCredential, withCounters] using hinner⟩
  | reserved =>
      exact ⟨⟨hdisk.text, hdisk.unread⟩,
        by simpa [AbsentInMemory, Inner.hasCredential, withCounters] using hinner⟩
  | _ => exact ⟨⟨hdisk.text, hdisk.unread⟩, hinner⟩

theorem absent_step {original : StoreFile SealedFile} (world : World) (op : Op)
    (hworld : world.Satisfies libs (AbsentOnDisk hash original) (AbsentInMemory hash))
    (hadmissible : Admissible hash world op) :
    (step libs world op).1.Satisfies libs (AbsentOnDisk hash original) (AbsentInMemory hash) := by
  refine satisfies_step ?_ ?_ world op hworld hadmissible
  · intro env disk disk' cache hdisk hopened
    have htext := @sealedText_openStore libs env disk
    rw [hopened.opens] at htext
    refine ⟨⟨?_, by rw [hopened.sealedText]; exact hdisk.unread⟩, ?_⟩
    · rcases htext with hsame | hmissing
      · have hsame : disk'.sealedText = disk.sealedText := hsame
        rw [hsame]
        exact hdisk.text
      · have hmissing : disk'.sealedText = .missing := hmissing
        rw [hmissing]
        exact .inr fun _ _ htext => by cases htext
    · rw [AbsentInMemory, Bool.eq_false_iff]
      intro hmember
      obtain ⟨file, hread, hlisted⟩ := hasCredential_iff.mp hmember
      exact hdisk.unread file hread hlisted
  · intro world store op answer inner' disk' _ hadmissible _ hdisk hinner heffect
    refine absent_effect ?_ hdisk hinner heffect
    rintro registration nonce writes rfl
    exact hadmissible

/-! ## Answers about the hash -/

theorem unseal_of_absent {inner : Inner} {snapshot : StringMap MembershipRecord}
    (hcoherent : Coherent libs inner) (hmember : inner.hasCredential hash = false)
    (hsession : inner.session.isSome) :
    unsealCredential libs hash ⟨inner, snapshot⟩ = .error noSuchMembership := by
  obtain ⟨session, hsession⟩ := Option.isSome_iff_exists.mp hsession
  have hstanding : inner.isQuarantined hash = false := by
    rw [Bool.eq_false_iff]
    intro hquarantined
    rw [hcoherent.quarantined hash hquarantined] at hmember
    cases hmember
  have hunlisted : (inner.sealedStore.bind fun file => file.credentials[hash]?) = none := by
    rw [Option.bind_eq_none_iff]
    intro file hsealed
    refine Std.ExtTreeMap.getElem?_eq_none fun hlisted => ?_
    rw [hasCredential_iff.mpr ⟨file, hsealed, hlisted⟩] at hmember
    cases hmember
  simp only [unsealCredential, hstanding, hsession, hunlisted, Bool.false_eq_true, if_false]

/-- A membership in memory is never answered as unknown. -/
theorem unseal_ne_noSuchMembership {store : Store}
    (hmember : store.inner.hasCredential hash = true) :
    unsealCredential libs hash store ≠ .error noSuchMembership := by
  obtain ⟨file, hsealed, hlisted⟩ := hasCredential_iff.mp hmember
  obtain ⟨entry, hentry⟩ := OrderedMap.mem_iff_exists.mp hlisted
  have hother : ∀ error : CryptoError, unsealError error ≠ noSuchMembership := by
    intro error
    cases error <;> simp [unsealError, noSuchMembership, ApiError.internal]
  simp only [unsealCredential, hsealed, Option.bind_some, hentry]
  repeat' split
  · simp [quarantinedError, noSuchMembership, ApiError.internal]
  · simp [noSuchMembership]
  · simp [notProvisioned, noSuchMembership, ApiError.internal]
  · simp [noSuchMembership, ApiError.internal]
  · simp [noSuchMembership, ApiError.internal]
  · simp [hother]
  · rename_i plaintext _
    cases libs.credentialFromSlice plaintext <;>
      simp [Except.mapError, noSuchMembership, ApiError.internal]

/-- An unlocked store knows a hash in good standing exactly by its section. -/
theorem chooseSlot_unknown_iff {args : ReserveArgs} {inner : Inner}
    (hstanding : inner.isQuarantined args.hash = false) :
    chooseSlot args inner = .error noSuchMembership ↔ args.hash ∉ inner.sections := by
  rw [OrderedMap.mem_iff_exists]
  cases hcounters : inner.sections[args.hash]? with
  | none => simp [chooseSlot, hstanding, hcounters, reservationGuards]
  | some alloc =>
      have hpresent : ¬ ¬ ∃ value, some alloc = some value := not_not.mpr ⟨alloc, rfl⟩
      simp only [chooseSlot, hstanding, hcounters, reservationGuards, Bool.false_eq_true, if_false,
        hpresent, iff_false]
      repeat' split
      · rename_i hguard
        split at hguard
        · cases hguard
          simp [epochSizeRefusal, noSuchMembership]
        · cases hguard
      · simp [fullSection, noSuchMembership]
      · rename_i error _
        cases error <;> simp [allocRefusal, budgetRefusal, floorRefusal, noSuchMembership]
      · simp

theorem reserve_of_unknown {args : ReserveArgs} {write : WriteOutcome} {store : Store} {disk : Disk}
    (hcoherent : Coherent libs store.inner) (hmember : store.inner.hasCredential args.hash = false)
    (hsession : store.inner.session.isSome) (hsection : args.hash ∉ store.inner.sections) :
    reserveMessageId libs args write store disk = refuse noSuchMembership store disk := by
  have hstanding : store.inner.isQuarantined args.hash = false := by
    rw [Bool.eq_false_iff]
    intro hquarantined
    rw [hcoherent.quarantined args.hash hquarantined] at hmember
    cases hmember
  have hchoose := (chooseSlot_unknown_iff hstanding).mpr hsection
  have hnone : store.inner.session.isNone = false := by
    rw [Option.isNone_eq_false_iff]
    exact hsession
  simp only [reserveMessageId, hcoherent.sessionHeld hsession, hnone, hchoose, Bool.not_true,
    Bool.false_eq_true, if_false]

/-- Opening drops the sections of hashes without a credential. -/
theorem notMem_sections_openedInner {sealedStore : Option SealedFile}
    {ledger : Option AllocationsFile} {cache : StringMap CacheState}
    (hmember : (openedInner libs sealedStore ledger cache).hasCredential hash = false) :
    hash ∉ (openedInner libs sealedStore ledger cache).sections := by
  intro hsection
  obtain ⟨alloc, halloc⟩ := OrderedMap.mem_iff_exists.mp hsection
  cases sealedStore with
  | none =>
      cases ledger <;> simp [openedInner, loadedFrom, adoptAllocations,
        LoadedAllocations.empty] at halloc
  | some file =>
      obtain ⟨read, stored, -, -, hlisted, -, -⟩ := getElem?_loadedFrom_sections.mp halloc
      have hpresent : (openedInner libs (some file) ledger cache).hasCredential hash = true :=
        hasCredential_iff.mpr ⟨file, rfl, hlisted⟩
      rw [hpresent] at hmember
      cases hmember

/-! ## Runs after a failed insert -/

/-- The insert fails before it writes the sealed file. -/
def FailsBeforeSealing (libs : Libraries) (registration : Registration) (nonce : Option Bytes24)
    (writes : InsertWrites) (store : Store) : Prop :=
  writes.allocations ≠ .ok ∨ writes.cache ≠ .ok ∨
    ∀ session uuid entry, Unlocked store.inner session uuid →
      ¬ SealsEntry libs session.keys uuid registration nonce entry

/-- Nothing of the membership is published, unsealed or in a sealed file
written since. -/
structure NeverMember (libs : Libraries) (hash : String) (original : StoreFile SealedFile)
    (world : World) : Prop where
  sealedText : world.disk.sealedText = original ∨ Lacks hash world.disk.sealedText
  snapshot : ∀ store, world.store = some store → hash ∉ store.snapshot
  credential : ∀ store, world.store = some store → store.inner.session.isSome →
    unsealCredential libs hash store = .error noSuchMembership

/-- A reservation for the hash in an unlocked store. -/
def AnswersUnknown (hash : String) (event : Run.Event World Op Answer) : Prop :=
  ∀ args write store, event.input = .reserve args write → args.hash = hash →
    event.before.store = some store → store.inner.session.isSome →
    event.output = .reserved (.error noSuchMembership)

theorem answersUnknown_step {original : StoreFile SealedFile} (world : World) (op : Op)
    (hworld : world.Satisfies libs (AbsentOnDisk hash original) (AbsentInMemory hash))
    (hadmissible : Admissible hash world op) :
    AnswersUnknown hash ⟨world, op, (step libs world op).2⟩ := by
  rintro args write store rfl rfl hstore hsession
  obtain ⟨hcoherent, hmember⟩ := hworld.store store hstore
  have hsection := hadmissible rfl store hstore
  have hreserve := @reserve_of_unknown libs args write store world.disk hcoherent hmember hsession
    hsection
  have hstore : world.store = some store := hstore
  simp only [step, hstore, hreserve, withReply, refuse]

/-- Let any calls, on any directory, lead to an unlocked store without the
membership.  An insert that fails before its sealed write leaves no membership
behind, whatever is called after it: no insert of the hash, and no reservation
for it before the directory is opened again. -/
theorem failed_insert_leaves_nothing (libs : Libraries) (disk : Disk) (history : List Op)
    (registration : Registration) (nonce : Option Bytes24) (writes : InsertWrites)
    (ops : List Op) :
    let before := Run.run (step libs) { disk } history
    let failed := step libs before (.insert registration nonce writes)
    ∀ store, before.store = some store → store.inner.session.isSome →
      store.inner.hasCredential registration.hash = false → failed.2.isError = true →
      FailsBeforeSealing libs registration nonce writes store →
      Run.Guarded (step libs) (Admissible registration.hash) failed.1 ops →
      NeverMember libs registration.hash before.disk.sealedText (Run.run (step libs) failed.1 ops) ∧
        ∀ event ∈ Run.trace (step libs) failed.1 ops, AnswersUnknown registration.hash event := by
  intro before failed store hstore hsession hmember herror hbefore hguard
  have hmirrored := (@mirrored_run libs disk history).store store hstore
  obtain ⟨hcoherent, hmirrored⟩ := hmirrored
  obtain ⟨store', disk', answer, hstep, heffect⟩ := @step_effect libs _ _ hstore hcoherent
    (.insert registration nonce writes) (by simp) (by simp)
  have hafter : failed.1.Satisfies libs
      (AbsentOnDisk registration.hash before.disk.sealedText)
      (AbsentInMemory registration.hash) := by
    have hfailed : failed = (⟨disk', some store'⟩, answer) := hstep
    rw [hfailed] at herror ⊢
    have hcoherent' := hcoherent.effect heffect
    have hkept : disk'.sealedText = before.disk.sealedText ∧
        store'.inner.sealedStore = store.inner.sealedStore := by
      generalize store'.inner = inner' at heffect
      cases heffect with
      | refused => exact ⟨rfl, rfl⟩
      | insertLedgerFailed => exact ⟨rfl, rfl⟩
      | insertSectioned => exact ⟨rfl, rfl⟩
      | insertSealFailed error hunlocked hledger hcache hsealed hentry =>
          rcases hbefore with hfailed | hfailed | hfailed
          · exact absurd hledger hfailed
          · exact absurd hcache hfailed
          · exact absurd hentry (hfailed _ _ _ hunlocked)
      | inserted => simp [Answer.isError, isOk] at herror
    refine ⟨⟨.inl hkept.1, fun file hread hlisted => ?_⟩, ?_⟩
    · rw [hkept.1] at hread
      rw [hmirrored file hread _ hlisted] at hmember
      cases hmember
    · rintro _ ⟨⟩
      exact ⟨hcoherent', by simpa only [AbsentInMemory, Inner.hasCredential, hkept.2] using hmember⟩
  have hrun := Run.invariant_run absent_step hafter hguard
  refine ⟨⟨hrun.disk.text, fun final hfinal hlisted => ?_, fun final hfinal hsession => ?_⟩,
    Run.trace_forall absent_step answersUnknown_step hafter hguard⟩
  · have hpublished := @published_run libs disk
      (history ++ .insert registration nonce writes :: ops)
    rw [Run.run_append] at hpublished
    have hpresent := hpublished.listed final hfinal _ hlisted
    have habsent := (hrun.store final hfinal).2
    rw [habsent] at hpresent
    cases hpresent
  · obtain ⟨hcoherent, habsent⟩ := hrun.store final hfinal
    exact unseal_of_absent hcoherent habsent hsession

/-! ## Where the membership stays -/

theorem insertCredential_of_sealFailed {registration : Registration} {inner : Inner} {disk : Disk}
    {session : Session} {uuid : Bytes16} {file : SealedFile} {nonce : Bytes24}
    {plaintext ct : Bytes} (landed : Bool) (error : String)
    (hunlocked : Unlocked inner session uuid) (hsealed : inner.sealedStore = some file)
    (hplain : libs.credentialToVec registration.credential = .ok plaintext)
    (hencrypt : libs.encrypt session.keys.sealKey nonce
      (credentialAad registration.hash registration.identity uuid) plaintext = some ct) :
    let entry : SealedEntry := ⟨registration.identity, bytesToHex nonce.toList, bytesToHex ct⟩
    let sealedStore := withEntry file registration.hash entry
    insertCredential libs registration (some nonce) (.failed landed error) inner disk =
      ⟨.error (.internal s!"sealed store save: {error}"),
        { inner with sealedStore := some sealedStore },
        { disk with
          sealedText := writeText (.failed landed error) (libs.sealedLength sealedStore) sealedStore
            disk.sealedText }⟩ := by
  have hseal : sealBytes libs.toPrimitives session.keys.sealKey (some nonce)
      (credentialAad registration.hash registration.identity uuid) plaintext = .ok (nonce, ct) := by
    simp [sealBytes, hencrypt]
  simp only [insertCredential, hunlocked.session, hunlocked.storeUuid, hplain, hseal, hsealed,
    WriteOutcome.result, withEntry]

theorem insert_of_sealFailed {registration : Registration} {store : Store} {disk : Disk}
    {session : Session} {uuid : Bytes16} {file : SealedFile} {nonce : Bytes24}
    {plaintext ct : Bytes} (landed : Bool) (error : String)
    (hunlocked : Unlocked store.inner session uuid)
    (hsealed : store.inner.sealedStore = some file)
    (hplain : libs.credentialToVec registration.credential = .ok plaintext)
    (hencrypt : libs.encrypt session.keys.sealKey nonce
      (credentialAad registration.hash registration.identity uuid) plaintext = some ct) :
    let entry : SealedEntry := ⟨registration.identity, bytesToHex nonce.toList, bytesToHex ct⟩
    let writes : InsertWrites := ⟨.ok, .ok, .failed landed error⟩
    insert libs registration (some nonce) writes store disk =
      ⟨.error (.internal s!"sealed store save: {error}"),
        { store with
          inner := committedInner libs registration session.keys uuid store.inner file entry },
        committedDisk libs registration writes session.keys uuid store.inner file entry disk⟩ := by
  intro entry writes
  have hstage : insertCacheRow registration (ledgerInner libs .ok session.keys uuid
      (insertSection registration.hash store.inner)) =
      sectionedInner libs registration session.keys uuid store.inner := rfl
  have hinserted : Unlocked (insertSection registration.hash store.inner) session uuid :=
    ⟨hunlocked.lockHeld, hunlocked.session, hunlocked.storeUuid⟩
  have hsectioned : Unlocked (sectionedInner libs registration session.keys uuid store.inner)
      session uuid := ⟨hunlocked.lockHeld, hunlocked.session, hunlocked.storeUuid⟩
  rcases writeAllocations_cases libs hinserted .ok disk with ⟨_, hfailed, -⟩ | ⟨-, hledger⟩
  · exact absurd rfl hfailed
  · have hcommit := fun disk => @insertCredential_of_sealFailed libs registration _ disk session
      uuid file nonce plaintext ct landed error hsectioned hsealed hplain hencrypt
    simp only [insert, hunlocked.lockHeld, hunlocked.session, Option.isNone_some, Bool.not_true,
      Bool.false_eq_true, if_false, writes, hledger, hstage, writeCache, WriteOutcome.result,
      hcommit]
    rfl

/-- A failed sealed write leaves a membership that answers. -/
theorem sealFailed_leaves_membership {registration : Registration} {store : Store} {disk : Disk}
    {session : Session} {uuid : Bytes16} {file : SealedFile} {nonce : Bytes24}
    {plaintext ct : Bytes} (landed : Bool) (error : String)
    (hunlocked : Unlocked store.inner session uuid)
    (hsealed : store.inner.sealedStore = some file)
    (hplain : libs.credentialToVec registration.credential = .ok plaintext)
    (hencrypt : libs.encrypt session.keys.sealKey nonce
      (credentialAad registration.hash registration.identity uuid) plaintext = some ct) :
    let reply := insert libs registration (some nonce) ⟨.ok, .ok, .failed landed error⟩ store disk
    isOk reply.result = false ∧
      unsealCredential libs registration.hash reply.store ≠ .error noSuchMembership := by
  intro reply
  have hreply : reply = _ := insert_of_sealFailed landed error hunlocked hsealed hplain hencrypt
  rw [hreply]
  refine ⟨rfl, unseal_ne_noSuchMembership (hasCredential_iff.mpr ⟨_, rfl, ?_⟩)⟩
  simp [withEntry]

/-- An insert of `cd` into the provisioned empty store. -/
def insertWith (writes : InsertWrites) : Op :=
  .insert { Reference.registration 2 with hash := "cd" } Reference.nonce writes

def reserveOp : Op := .reserve ⟨"cd", "aa", 1, 0, 10, 600⟩ .ok

/-- What a run on an empty directory answers, and which snapshot it leaves. -/
def outcome (ops : List Op) : List Answer × Option (List String) :=
  let world := Run.run (step Reference.libraries) {} ops
  ((Run.trace (step Reference.libraries) {} ops).map fun event => event.output,
    world.store.map fun store => store.snapshot.keys)

/-- A slot is reserved for a membership whose ledger write failed, and a
membership whose sealed write failed is published with the next reservation. -/
theorem failed_insert_leaves_membership :
    outcome [.openStore Reference.env, Reference.unlockOp,
        insertWith ⟨.failed false "disk full", .ok, .ok⟩, reserveOp] =
      ([.opened (.ok ()), .unlocked (.ok 0),
        .inserted (.error (.internal "allocations save: disk full")), .reserved (.ok 0)],
        some []) ∧
    outcome [.openStore Reference.env, Reference.unlockOp,
        insertWith ⟨.ok, .ok, .failed false "disk full"⟩, reserveOp] =
      ([.opened (.ok ()), .unlocked (.ok 0),
        .inserted (.error (.internal "sealed store save: disk full")), .reserved (.ok 0)],
        some ["cd"]) := by
  decide +kernel

/-- The guarded theorem after a failed ledger write: the store is opened again
before the reservation. -/
theorem failed_insert_leaves_nothing_reopened :
    let before := Run.run (step Reference.libraries) {} [.openStore Reference.env,
      Reference.unlockOp]
    let failed := step Reference.libraries before (insertWith ⟨.failed false "disk full", .ok, .ok⟩)
    let ops := [.crash, .openStore Reference.env, Reference.unlockOp, reserveOp]
    NeverMember Reference.libraries "cd" before.disk.sealedText
        (Run.run (step Reference.libraries) failed.1 ops) ∧
      ∀ event ∈ Run.trace (step Reference.libraries) failed.1 ops, AnswersUnknown "cd" event := by
  intro before failed ops
  have herror : failed.2.isError = true := by decide +kernel
  have hguard : Run.Guarded (step Reference.libraries) (Admissible "cd") failed.1 ops := by
    decide +kernel
  exact failed_insert_leaves_nothing Reference.libraries {}
    [.openStore Reference.env, Reference.unlockOp] { Reference.registration 2 with hash := "cd" }
    Reference.nonce ⟨.failed false "disk full", .ok, .ok⟩ ops (publish Reference.provisionedInner)
    (by rw [Reference.run_provisioned]) rfl rfl herror (.inl (by simp)) hguard

end LogosRln.SealedStore.FailedInsert
