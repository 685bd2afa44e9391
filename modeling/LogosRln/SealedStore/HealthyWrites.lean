import LogosRln.SealedStore.Reference

/-!
# A healthy membership survives the module's own writes

After a ledger write the membership's section is freshly stamped, its entry is
what the session sealed or opened, and the root covers every section written.
The next open and unlock check exactly these, on the text just written and on
the sealed file as it stands on disk.  What the files held before the store was
opened, and how earlier writes failed, matters only where it survives in the
text of the write.
-/

namespace LogosRln.SealedStore.HealthyWrites

open RegistryId Crypto Format Lifecycle RateLimit Files

/-! ## The calls before the write -/

/-- The insert has all it takes to reach its end. -/
def Completes (libs : Libraries) (registration : Registration) (nonce : Option Bytes24)
    (writes : InsertWrites) (inner : Inner) : Prop :=
  writes = ⟨.ok, .ok, .ok⟩ ∧ ∀ session uuid, Unlocked inner session uuid →
    ∃ plaintext drawn ct, nonce = some drawn ∧
      libs.credentialToVec registration.credential = .ok plaintext ∧
      libs.encrypt session.keys.sealKey drawn
        (credentialAad registration.hash registration.identity uuid) plaintext = some ct

/-- An insert is of a hash that recomputes from its identity; over a quarantined
hash it completes, and over any listed hash its sealed write is not lost. -/
def Admissible (libs : Libraries) (world : World) : Op → Prop
  | .insert registration nonce writes =>
      recomputes libs registration.hash registration.identity = true ∧
        ∀ store, world.store = some store →
          (store.inner.isQuarantined registration.hash = true →
            Completes libs registration nonce writes store.inner) ∧
          (store.inner.hasCredential registration.hash = true → writes.sealedText.lands = true)
  | _ => True

/-- Memory against the sealed file on disk: every entry listed there is in
memory under the same header, every entry in good census standing recomputes,
and a session opens every entry in good standing. -/
structure Tidy (libs : Libraries) (inner : Inner) (disk : Disk) : Prop where
  listed : ∀ (old : SealedFile) (hash : String) (entry : SealedEntry), readSealed disk.sealedText = some old →
    old.credentials[hash]? = some entry →
    ∃ file, inner.sealedStore = some file ∧ file.credentials[hash]? = some entry ∧
      file.kdf = old.kdf ∧ file.storeUuid = old.storeUuid
  recomputing : ∀ (file : SealedFile) (hash : String) (entry : SealedEntry), inner.sealedStore = some file →
    file.credentials[hash]? = some entry → hash ∉ inner.censusQuarantined →
    recomputes libs hash entry.identity = true
  opening : ∀ session uuid (file : SealedFile) (hash : String) (entry : SealedEntry), Unlocked inner session uuid →
    inner.sealedStore = some file → file.credentials[hash]? = some entry →
    inner.isQuarantined hash = false →
    credentialOpens libs session.keys (credentialAad hash entry.identity uuid) entry = true

/-- Every section, counted or as loaded, is within the row cap of the read
path. -/
structure RowsFit (inner : Inner) : Prop where
  counters : ∀ (hash : String) (alloc : AllocationState), inner.sections[hash]? = some alloc →
    alloc.allocations.length ≤ maxRowsPerSection
  raw : ∀ (hash : String) (stored : Section), inner.rawSections[hash]? = some stored →
    stored.allocations.length ≤ maxRowsPerSection

variable {libs : Libraries}

/-! ## The row cap -/

theorem RowsFit.written {inner : Inner} (hrows : RowsFit inner) (keys : SubKeys) (uuid : Bytes16)
    {hash : String} {stored : Section}
    (hstored : (writtenSections libs keys uuid inner)[hash]? = some stored) :
    stored.allocations.length ≤ maxRowsPerSection := by
  obtain ⟨alloc, halloc, ⟨-, hraw⟩ | ⟨-, rfl⟩⟩ := writtenSections_cases libs hstored
  · exact hrows.raw hash stored hraw
  · simpa [stampSection] using hrows.counters hash alloc halloc

theorem RowsFit.ledgerInner {inner : Inner} (hrows : RowsFit inner) (write : WriteOutcome)
    (keys : SubKeys) (uuid : Bytes16) : RowsFit (ledgerInner libs write keys uuid inner) := by
  refine ⟨by simpa using hrows.counters, ?_⟩
  by_cases hok : write = .ok
  · simpa only [SealedStore.ledgerInner, if_pos hok] using fun hash stored hstored =>
      hrows.written keys uuid hstored
  · simpa only [SealedStore.ledgerInner, if_neg hok] using hrows.raw

theorem RowsFit.insertSection {inner : Inner} (hrows : RowsFit inner) (hash : String) :
    RowsFit (insertSection hash inner) := by
  refine ⟨fun other alloc halloc => ?_, hrows.raw⟩
  have hcases : alloc = {} ∨ inner.sections[other]? = some alloc := by
    simp only [SealedStore.insertSection] at halloc
    split at halloc
    · rw [Std.ExtTreeMap.getElem?_insert] at halloc
      split at halloc
      · exact .inl (Option.some.inj halloc).symm
      · exact .inr halloc
    · rw [Std.ExtTreeMap.getElem?_insertIfNew] at halloc
      split at halloc
      · exact .inl (Option.some.inj halloc).symm
      · exact .inr halloc
  rcases hcases with rfl | hold
  · exact Nat.zero_le _
  · exact hrows.counters other alloc hold

/-- A reservation adds a row only below the write cap. -/
theorem RowsFit.withCounters {inner : Inner} (hrows : RowsFit inner) {args : ReserveArgs}
    {slot : UInt64} {alloc' : AllocationState}
    (hchosen : chooseSlot args inner = .ok (slot, alloc')) :
    RowsFit (withCounters inner args.hash alloc') := by
  obtain ⟨alloc, taken, hspec⟩ := chooseSlot_spec hchosen
  refine ⟨fun other counters hcounters => ?_, hrows.raw⟩
  simp only [SealedStore.withCounters, Std.ExtTreeMap.getElem?_insert] at hcounters
  split at hcounters
  · obtain rfl := Option.some.inj hcounters
    have hlength := length_reserveSlot_le hspec.reserves
    have hold := hrows.counters args.hash alloc hspec.counters
    rw [hspec.adopted]
    refine hlength.trans ?_
    split
    · exact hold
    · rename_i hnew
      exact hspec.room.resolve_left hnew
  · exact hrows.counters other counters hcounters

theorem rowsFit_openedInner {sealedStore : Option SealedFile} {text : StoreFile AllocationsFile}
    {cache : StringMap CacheState} :
    RowsFit (openedInner libs sealedStore (readLedger text) cache) := by
  have hfits : ∀ (read : AllocationsFile) (hash : String) (stored : Section),
      readLedger text = some read → read.sections[hash]? = some stored →
      stored.allocations.length ≤ maxRowsPerSection := by
    intro read hash stored hread hstored
    obtain ⟨-, -, -, hcaps⟩ := readLedger_eq_some hread
    exact (checkAllocationsCaps_eq_ok_iff.mp hcaps).2 hash stored hstored
  constructor
  · intro hash alloc halloc
    obtain ⟨read, stored, hread, hstored, rfl⟩ := openedInner_sections halloc
    simpa [toAllocationState] using hfits read hash stored hread hstored
  · intro hash stored hstored
    obtain ⟨read, hread, hstored⟩ := openedInner_rawSections hstored
    exact hfits read hash stored hread hstored

theorem RowsFit.effect {inner inner' : Inner} {disk disk' : Disk} {op : Op} {answer : Answer}
    (hrows : RowsFit inner) (heffect : Effect libs inner disk op answer inner' disk') :
    RowsFit inner' := by
  have hsectioned : ∀ registration keys uuid,
      RowsFit (sectionedInner libs registration keys uuid inner) := by
    intro registration keys uuid
    have hwritten := @RowsFit.ledgerInner libs _ (hrows.insertSection registration.hash) .ok keys uuid
    exact ⟨hwritten.counters, hwritten.raw⟩
  cases heffect with
  | refused => exact hrows
  | closed => exact ⟨hrows.counters, hrows.raw⟩
  | locked => exact ⟨hrows.counters, hrows.raw⟩
  | provisionFailed => exact hrows
  | provisioned => exact ⟨hrows.counters, hrows.raw⟩
  | authenticated => exact ⟨hrows.counters, hrows.raw⟩
  | insertLedgerFailed => exact hrows.insertSection _
  | insertSectioned => exact hsectioned _ _ _
  | @insertSealFailed registration _ _ session uuid =>
      have hrows' := hsectioned registration session.keys uuid
      exact ⟨hrows'.counters, hrows'.raw⟩
  | @inserted registration _ _ session uuid =>
      have hrows' := hsectioned registration session.keys uuid
      exact ⟨hrows'.counters, hrows'.raw⟩
  | reserveFailed error hunlocked hchosen => exact (hrows.withCounters hchosen).ledgerInner _ _ _
  | reserved hunlocked hchosen => exact (hrows.withCounters hchosen).ledgerInner _ _ _
  | cacheUpdated => exact ⟨hrows.counters, hrows.raw⟩

/-! ## Memory against the sealed file on disk -/

/-- What the calls other than an unlock or a sealed write change does not
matter, as long as they clear nobody. -/
theorem Tidy.mono {inner inner' : Inner} {disk disk' : Disk} (htidy : Tidy libs inner disk)
    (hsealed : inner'.sealedStore = inner.sealedStore)
    (hunlocked : ∀ session uuid, Unlocked inner' session uuid → Unlocked inner session uuid)
    (hcensus : ∀ hash, hash ∈ inner.censusQuarantined → hash ∈ inner'.censusQuarantined)
    (hkeyed : ∀ hash, hash ∈ inner.keyedQuarantined → hash ∈ inner'.keyedQuarantined)
    (hdisk : readSealed disk'.sealedText = readSealed disk.sealedText) :
    Tidy libs inner' disk' where
  listed := by simpa only [hdisk, hsealed] using htidy.listed
  recomputing file hash entry hfile hentry hstanding :=
    htidy.recomputing file hash entry (hsealed ▸ hfile) hentry fun hold =>
      hstanding (hcensus hash hold)
  opening session uuid file hash entry hsession hfile hentry hstanding := by
    refine htidy.opening session uuid file hash entry (hunlocked session uuid hsession)
      (hsealed ▸ hfile) hentry ?_
    rw [Bool.eq_false_iff, Ne, isQuarantined_iff] at hstanding ⊢
    exact fun hold => hstanding (hold.imp (hcensus hash) (hkeyed hash))

theorem tidy_openedInner {disk disk' : Disk} {ledger : Option AllocationsFile}
    {cache : StringMap CacheState}
    (hdisk : readSealed disk'.sealedText = readSealed disk.sealedText) :
    Tidy libs (openedInner libs (readSealed disk.sealedText) ledger cache) disk' where
  listed old hash entry hold hentry := ⟨old, hdisk ▸ hold, hentry, rfl, rfl⟩
  recomputing file hash entry hfile hentry hstanding := by
    have hfile : readSealed disk.sealedText = some file := hfile
    simp only [hfile] at hstanding
    by_contra hfails
    exact hstanding (mem_loadedFrom_census.mpr (.inl (mem_censusFailures.mpr
      ⟨entry, hentry, Bool.eq_false_iff.mpr hfails⟩)))
  opening session uuid file hash entry hsession := by
    have hnone : (none : Option Session) = some session := hsession.session
    cases hnone

/-- The keyed checks leave in good standing only what opens. -/
theorem Tidy.authenticatedInner {inner : Inner} {disk : Disk} {password : String}
    {file : SealedFile} {uuid : Bytes16} {keys : SubKeys} (htidy : Tidy libs inner disk)
    (hauth : Authenticated libs password inner file uuid keys) :
    Tidy libs (authenticatedInner libs password inner file uuid keys) disk where
  listed := htidy.listed
  recomputing := htidy.recomputing
  opening session uuid' file' hash entry hunlocked hfile hentry hstanding := by
    cases hauth.sealedStore.symm.trans hfile
    cases hauth.storeUuid.symm.trans hunlocked.storeUuid
    obtain rfl : ⟨password, keys⟩ = session := Option.some.inj hunlocked.session
    rw [Bool.eq_false_iff, Ne, isQuarantined_iff, not_or] at hstanding
    obtain ⟨hcensus, hkeyed⟩ := hstanding
    simp only [SealedStore.authenticatedInner] at hcensus hkeyed
    rw [mem_keyedFailures_iff hentry hcensus, not_not] at hkeyed
    exact hkeyed.1

/-- A freshly provisioned file lists nothing. -/
theorem Tidy.provisionedText {inner : Inner} {disk : Disk} (htidy : Tidy libs inner disk)
    (write : WriteOutcome) (size : ℕ) (params : KdfParams) (keys : SubKeys) (uuid : Bytes16) :
    Tidy libs inner { disk with
      sealedText := writeText write size (provisionedFile params keys uuid) disk.sealedText } where
  listed old hash entry hold hentry := by
    rcases readSealed_writeText hold with ⟨rfl, -⟩ | ⟨hold, -⟩
    · simp [provisionedFile, SealedFile.provision] at hentry
    · exact htidy.listed old hash entry hold hentry
  recomputing := htidy.recomputing
  opening := htidy.opening

theorem tidy_provisioned {inner : Inner} {disk : Disk} {params : KdfParams} {keys : SubKeys}
    {uuid : Bytes16} {size : ℕ} {session : Session} :
    Tidy libs
      { inner with
        sealedStore := some (provisionedFile params keys uuid)
        storeUuid := some uuid
        session := some session }
      { disk with
        sealedText := writeText .ok size (provisionedFile params keys uuid) disk.sealedText } where
  listed old hash entry hold hentry := by
    have hold : readSealed (writeText .ok size (provisionedFile params keys uuid)
      disk.sealedText) = some old := hold
    rcases readSealed_writeText hold with ⟨rfl, -⟩ | ⟨-, hlands⟩
    · simp [provisionedFile, SealedFile.provision] at hentry
    · cases hlands
  recomputing file hash entry hfile hentry := by
    obtain rfl := Option.some.inj hfile
    simp [provisionedFile, SealedFile.provision] at hentry
  opening session uuid file hash entry _ hfile hentry := by
    obtain rfl := Option.some.inj hfile
    simp [provisionedFile, SealedFile.provision] at hentry

theorem mem_erase_of_ne_quarantined {inner : Inner} {hash other : String}
    (hstanding : inner.isQuarantined hash = false) (hother : inner.isQuarantined other = true) :
    other ≠ hash := by
  rintro rfl
  rw [hstanding] at hother
  cases hother

/-- An insert over a hash in good standing clears nobody before its sealed
write. -/
theorem Tidy.sectioned {inner inner' : Inner} {disk disk' : Disk} {hash : String}
    (htidy : Tidy libs inner disk) (hstanding : inner.isQuarantined hash = false)
    (hsealed : inner'.sealedStore = inner.sealedStore)
    (hunlocked : ∀ session uuid, Unlocked inner' session uuid → Unlocked inner session uuid)
    (hcensus : inner'.censusQuarantined = inner.censusQuarantined.erase hash)
    (hkeyed : inner'.keyedQuarantined = inner.keyedQuarantined.erase hash)
    (hdisk : readSealed disk'.sealedText = readSealed disk.sealedText) : Tidy libs inner' disk' := by
  refine htidy.mono hsealed hunlocked (fun other hother => ?_) (fun other hother => ?_) hdisk
  · rw [hcensus]
    exact Finset.mem_erase.mpr ⟨mem_erase_of_ne_quarantined hstanding
      (isQuarantined_iff.mpr (.inl hother)), hother⟩
  · rw [hkeyed]
    exact Finset.mem_erase.mpr ⟨mem_erase_of_ne_quarantined hstanding
      (isQuarantined_iff.mpr (.inr hother)), hother⟩

/-- The credential of a consistent insert, in memory and on disk. -/
theorem Tidy.committed {inner : Inner} {disk : Disk} {registration : Registration}
    {nonce : Option Bytes24} {session : Session} {uuid : Bytes16} {file : SealedFile} {entry : SealedEntry}
    (hlaws : Laws libs) (writes : InsertWrites) (htidy : Tidy libs inner disk)
    (hunlocked : Unlocked inner session uuid) (hsealed : inner.sealedStore = some file)
    (hentry : SealsEntry libs session.keys uuid registration nonce entry)
    (hconsistent : recomputes libs registration.hash registration.identity = true)
    (hlanded : inner.hasCredential registration.hash = true → writes.sealedText.lands = true) :
    Tidy libs (committedInner libs registration session.keys uuid inner file entry)
      (committedDisk libs registration writes session.keys uuid inner file entry disk) := by
  have hopens := credentialOpens_of_sealsEntry hlaws hentry
  have hidentity : entry.identity = registration.identity := by
    obtain ⟨_, _, _, -, -, -, rfl⟩ := hentry
    rfl
  have hlookup : ∀ other, (withEntry file registration.hash entry).credentials[other]? =
      if registration.hash = other then some entry else file.credentials[other]? := by
    intro other
    simp [withEntry, Std.ExtTreeMap.getElem?_insert]
  constructor
  · intro old other found hold hfound
    rcases readSealed_writeText hold with ⟨rfl, -⟩ | ⟨hold, hlost⟩
    · exact ⟨_, rfl, hfound, rfl, rfl⟩
    · obtain ⟨_, hsome, hfile, hkdf, huuid⟩ := htidy.listed old other found hold hfound
      cases hsealed.symm.trans hsome
      refine ⟨_, rfl, ?_, hkdf, huuid⟩
      rw [hlookup, if_neg, hfile]
      -- the hash cannot be listed on disk, or the write would not be lost
      rintro rfl
      have hlisted := hlanded (hasCredential_iff.mpr
        ⟨file, hsealed, OrderedMap.mem_iff_exists.mpr ⟨_, hfile⟩⟩)
      rw [hlisted] at hlost
      cases hlost
  · intro committed other found hcommitted hfound hstanding
    obtain rfl := Option.some.inj hcommitted
    rw [hlookup] at hfound
    split at hfound
    · rename_i hsame
      obtain rfl := Option.some.inj hfound
      rw [← hsame, hidentity, hconsistent]
    · rename_i hother
      refine htidy.recomputing file other found hsealed hfound fun hcensus => hstanding ?_
      exact Finset.mem_erase.mpr ⟨Ne.symm hother, hcensus⟩
  · intro session' uuid' committed other found hsession hcommitted hfound hstanding
    obtain rfl := Option.some.inj hcommitted
    obtain rfl : session = session' :=
      Option.some.inj (hunlocked.session.symm.trans hsession.session)
    obtain rfl : uuid = uuid' := Option.some.inj (hunlocked.storeUuid.symm.trans hsession.storeUuid)
    rw [hlookup] at hfound
    split at hfound
    · rename_i hsame
      obtain rfl := Option.some.inj hfound
      rw [← hsame]
      exact hopens
    · rename_i hother
      refine htidy.opening session uuid file other found hunlocked hsealed hfound ?_
      rw [Bool.eq_false_iff, Ne] at hstanding ⊢
      exact fun hold => hstanding (isQuarantined_insertSection.mpr ⟨Ne.symm hother, hold⟩)

theorem inserted_of_completes {world : World} {store : Store} {registration : Registration}
    {nonce : Option Bytes24} {writes : InsertWrites} {session : Session} {uuid : Bytes16}
    (hstore : world.store = some store) (hcoherent : Coherent libs store.inner)
    (hunlocked : Unlocked store.inner session uuid)
    (hcompletes : Completes libs registration nonce writes store.inner) :
    (step libs world (.insert registration nonce writes)).2 = .inserted (.ok ()) := by
  obtain ⟨rfl, hseals⟩ := hcompletes
  obtain ⟨plaintext, drawn, ct, rfl, hplain, hencrypt⟩ := hseals session uuid hunlocked
  obtain ⟨file, hsealed⟩ := Option.isSome_iff_exists.mp
    (hcoherent.sessionSealed (by simp [hunlocked.session]))
  have hinsert := @insert_of_unlocked libs registration store world.disk session uuid file drawn
    plaintext ct hunlocked hsealed hplain hencrypt
  simp only [step, hstore, hinsert, withReply]

/-- Every effect of an admissible call keeps memory and the sealed file tidy. -/
theorem tidy_effect (hlaws : Laws libs) {world : World} {store : Store} {op : Op} {inner' : Inner}
    {disk' : Disk} (hstore : world.store = some store) (hadmissible : Admissible libs world op)
    (hcoherent : Coherent libs store.inner) (htidy : Tidy libs store.inner world.disk)
    (heffect : Effect libs store.inner world.disk op (step libs world op).2 inner' disk') :
    Tidy libs inner' disk' := by
  generalize hanswer : (step libs world op).2 = answer at heffect
  -- an insert that stops short was not over a quarantined hash
  have hstanding : ∀ registration nonce writes session uuid error,
      op = .insert registration nonce writes → Unlocked store.inner session uuid →
      answer = .inserted (.error error) →
      store.inner.isQuarantined registration.hash = false := by
    rintro registration nonce writes session uuid error rfl hunlocked rfl
    rw [Bool.eq_false_iff]
    intro hquarantined
    have hok := inserted_of_completes hstore hcoherent hunlocked
      ((hadmissible.2 store hstore).1 hquarantined)
    rw [hanswer] at hok
    cases hok
  cases heffect with
  | refused => exact htidy
  | closed =>
      exact htidy.mono rfl (fun _ _ hunlocked => by cases hunlocked.session) (fun _ => id)
        (fun _ => id) rfl
  | locked =>
      exact htidy.mono rfl (fun _ _ hunlocked => by cases hunlocked.session) (fun _ => id)
        (fun _ => id) rfl
  | provisionFailed => exact htidy.provisionedText _ _ _ _ _
  | provisioned => exact tidy_provisioned
  | authenticated unlocked hauth => exact htidy.authenticatedInner hauth
  | insertLedgerFailed error hunlocked =>
      exact htidy.sectioned (hstanding _ _ _ _ _ _ rfl hunlocked rfl) rfl
        (fun _ _ hunlocked => ⟨hunlocked.lockHeld, hunlocked.session, hunlocked.storeUuid⟩)
        rfl rfl rfl
  | insertSectioned error hunlocked =>
      exact htidy.sectioned (hstanding _ _ _ _ _ _ rfl hunlocked rfl) rfl
        (fun _ _ hunlocked => ⟨hunlocked.lockHeld, hunlocked.session, hunlocked.storeUuid⟩)
        rfl rfl rfl
  | insertSealFailed error hunlocked hledger hcache hsealed hentry =>
      exact htidy.committed hlaws _ hunlocked hsealed hentry hadmissible.1
        (hadmissible.2 store hstore).2
  | inserted hunlocked hledger hcache hwrite hsealed hentry =>
      exact htidy.committed hlaws _ hunlocked hsealed hentry hadmissible.1
        (hadmissible.2 store hstore).2
  | reserveFailed error hunlocked =>
      exact htidy.mono (by simp [withCounters])
        (fun _ _ hunlocked => ⟨by simpa [withCounters] using hunlocked.lockHeld,
          by simpa [withCounters] using hunlocked.session,
          by simpa [withCounters] using hunlocked.storeUuid⟩)
        (by simp [withCounters]) (by simp [withCounters]) rfl
  | reserved hunlocked =>
      exact htidy.mono (by simp [withCounters])
        (fun _ _ hunlocked => ⟨by simpa [withCounters] using hunlocked.lockHeld,
          by simpa [withCounters] using hunlocked.session,
          by simpa [withCounters] using hunlocked.storeUuid⟩)
        (by simp [withCounters]) (by simp [withCounters]) rfl
  | cacheUpdated =>
      exact htidy.mono rfl
        (fun _ _ hunlocked => ⟨hunlocked.lockHeld, hunlocked.session, hunlocked.storeUuid⟩)
        (fun _ => id) (fun _ => id) rfl

/-- Whatever the directory held, every store reached by admissible calls is
tidy and within the row cap. -/
theorem tidy_step (hlaws : Laws libs) (world : World) (op : Op)
    (hworld : world.Satisfies libs (fun _ => True)
      fun inner disk => Tidy libs inner disk ∧ RowsFit inner)
    (hadmissible : Admissible libs world op) :
    (step libs world op).1.Satisfies libs (fun _ => True)
      fun inner disk => Tidy libs inner disk ∧ RowsFit inner := by
  refine step_satisfies hworld (fun _ _ => trivial) (fun _ _ _ htidy => htidy) ?_ ?_
  · intro env disk disk' cache _ hopened
    exact ⟨trivial, tidy_openedInner hopened.sealedText, rowsFit_openedInner⟩
  · intro store inner' disk' hstore hcoherent _ ⟨htidy, hrows⟩ heffect
    exact ⟨trivial, tidy_effect hlaws hstore hadmissible hcoherent htidy heffect,
      hrows.effect heffect⟩

/-! ## After the write -/

/-- The files and the memory of a directory with one healthy membership, seen
from one password. -/
structure Sound (libs : Libraries) (password hash : String) (keys : SubKeys) (uuid : Bytes16)
    (file : SealedFile) (entry : SealedEntry) (rawSections : StringMap Section)
    (rootMacRaw : Option Bytes32) : Prop where
  derived : deriveKeys libs password file.kdf = .ok keys
  storeUuid : parseUuid file.storeUuid = some uuid
  passes : passes libs keys uuid hash entry rawSections rootMacRaw = true

/-- If the sealed file on disk lists the membership, it is sound against the
ledger on disk. -/
def OnDisk (libs : Libraries) (password hash : String) (keys : SubKeys) (uuid : Bytes16)
    (disk : Disk) : Prop :=
  ∀ (file : SealedFile) (entry : SealedEntry), readSealed disk.sealedText = some file →
    file.credentials[hash]? = some entry →
    ∃ ledger, readLedger disk.allocations = some ledger ∧ ledger.storeUuid = file.storeUuid ∧
      Sound libs password hash keys uuid file entry ledger.sections (hexToBytes32 ledger.rootMac)

/-- If the sealed file in memory lists the membership, it is sound against the
ledger in memory and in good standing. -/
def InMemory (libs : Libraries) (password hash : String) (keys : SubKeys) (uuid : Bytes16)
    (inner : Inner) : Prop :=
  ∀ (file : SealedFile) (entry : SealedEntry), inner.sealedStore = some file →
    file.credentials[hash]? = some entry →
    inner.isQuarantined hash = false ∧
      Sound libs password hash keys uuid file entry inner.rawSections inner.rootMacRaw

/-- The calls of a restart: no insert and no reservation, and every unlock with
the one password. -/
def Restarts (password : String) : Op → Prop
  | .unlock given _ _ => given = password
  | .insert _ _ _ | .reserve _ _ => False
  | _ => True

variable {password hash : String} {keys : SubKeys} {uuid : Bytes16}

theorem inMemory_openedInner {disk : Disk} {cache : StringMap CacheState}
    (hdisk : OnDisk libs password hash keys uuid disk) :
    InMemory libs password hash keys uuid
      (openedInner libs (readSealed disk.sealedText) (readLedger disk.allocations) cache) := by
  intro file entry hfile hentry
  have hfile : readSealed disk.sealedText = some file := hfile
  obtain ⟨ledger, hledger, huuid, hsound⟩ := hdisk file entry hfile hentry
  rw [hfile, hledger, rawSections_openedInner huuid, rootMacRaw_openedInner huuid]
  refine ⟨?_, hsound⟩
  have hpasses := hsound.passes
  simp only [passes, ownCheck, Bool.and_eq_true, any_sectionMacOk_iff] at hpasses
  obtain ⟨⟨⟨hrecomputes, -⟩, stored, hstored, -⟩, -⟩ := hpasses
  rw [Bool.eq_false_iff, Ne, isQuarantined_iff]
  rintro (hcensus | hkeyed)
  · rcases mem_loadedFrom_census.mp hcensus with hcensus | ⟨-, hmissing⟩
    · obtain ⟨_, hsome, hfails⟩ := mem_censusFailures.mp hcensus
      cases hentry.symm.trans hsome
      rw [hrecomputes] at hfails
      cases hfails
    · exact hmissing ledger rfl huuid (OrderedMap.mem_iff_exists.mpr ⟨stored, hstored⟩)
  · simp [openedInner] at hkeyed

theorem inMemory_authenticatedInner {inner : Inner} {file : SealedFile} {uuid' : Bytes16}
    {keys' : SubKeys} (hcoherent : Coherent libs inner)
    (hinner : InMemory libs password hash keys uuid inner)
    (hauth : Authenticated libs password inner file uuid' keys') :
    InMemory libs password hash keys uuid
      (authenticatedInner libs password inner file uuid' keys') := by
  intro _ entry hfile hentry
  cases hauth.sealedStore.symm.trans hfile
  obtain ⟨hstanding, hsound⟩ := hinner file entry hauth.sealedStore hentry
  refine ⟨?_, hsound⟩
  cases hsound.derived.symm.trans hauth.derived
  have huuid := hauth.storeUuid
  rw [hcoherent.storeUuid, hauth.sealedStore, Option.bind_some, hsound.storeUuid] at huuid
  cases huuid
  rw [Bool.eq_false_iff, Ne, isQuarantined_iff] at hstanding ⊢
  rintro (hcensus | hkeyed)
  · exact hstanding (.inl hcensus)
  · exact not_mem_keyedFailures_of_passes hentry hsound.passes hkeyed

theorem onDisk_provisionedText {disk : Disk} (hdisk : OnDisk libs password hash keys uuid disk)
    (write : WriteOutcome) (size : ℕ) (params : KdfParams) (keys' : SubKeys) (uuid' : Bytes16) :
    OnDisk libs password hash keys uuid { disk with
      sealedText := writeText write size (provisionedFile params keys' uuid') disk.sealedText } := by
  intro file entry hfile hentry
  rcases readSealed_writeText hfile with ⟨rfl, -⟩ | ⟨hfile, -⟩
  · simp [provisionedFile, SealedFile.provision] at hentry
  · exact hdisk file entry hfile hentry

/-- No call of a restart harms a sound membership. -/
theorem sound_step (world : World) (op : Op)
    (hworld : world.Satisfies libs (OnDisk libs password hash keys uuid)
      fun inner _ => InMemory libs password hash keys uuid inner)
    (hrestarts : Restarts password op) :
    (step libs world op).1.Satisfies libs (OnDisk libs password hash keys uuid)
      fun inner _ => InMemory libs password hash keys uuid inner := by
  have hguarded := @satisfies_step libs (OnDisk libs password hash keys uuid)
    (fun inner _ => InMemory libs password hash keys uuid inner) fun _ => Restarts password
  refine hguarded ?_ ?_ world op hworld hrestarts
  · intro env disk disk' cache hdisk hopened
    refine ⟨fun file entry hfile hentry => ?_, inMemory_openedInner hdisk⟩
    rw [hopened.allocations]
    exact hdisk file entry (hopened.sealedText ▸ hfile) hentry
  · intro world store op answer inner' disk' hstore hrestarts hcoherent hdisk hinner heffect
    cases heffect with
    | refused => exact ⟨hdisk, hinner⟩
    | closed => exact ⟨hdisk, hinner⟩
    | locked => exact ⟨hdisk, hinner⟩
    | provisionFailed => exact ⟨onDisk_provisionedText hdisk _ _ _ _ _, hinner⟩
    | provisioned =>
        refine ⟨onDisk_provisionedText hdisk _ _ _ _ _, fun file entry hfile hentry => ?_⟩
        obtain rfl := Option.some.inj hfile
        simp [provisionedFile, SealedFile.provision] at hentry
    | authenticated unlocked hauth =>
        obtain rfl := hrestarts
        exact ⟨hdisk, inMemory_authenticatedInner hcoherent hinner hauth⟩
    | insertLedgerFailed => exact hrestarts.elim
    | insertSectioned => exact hrestarts.elim
    | insertSealFailed => exact hrestarts.elim
    | inserted => exact hrestarts.elim
    | reserveFailed => exact hrestarts.elim
    | reserved => exact hrestarts.elim
    | cacheUpdated => exact ⟨hdisk, hinner⟩

/-! ## The write itself -/

/-- The memory whose counters a call writes to the ledger. -/
def written : Op → Inner → Option Inner
  | .insert registration _ _, inner => some (insertSection registration.hash inner)
  | .reserve args _, inner =>
      match chooseSlot args inner with
      | .ok (_, alloc) => some (withCounters inner args.hash alloc)
      | .error _ => none
  | _, _ => none

/-- The text written from here is one the next open adopts with its root: no
malformed tag is carried, the text and its sections are within the caps, and
the sealed header spells the store's uuid as the writer does. -/
structure Rereadable (libs : Libraries) (keys : SubKeys) (uuid : Bytes16) (inner : Inner) :
    Prop where
  carried : ¬ CarriesMalformed inner
  size : libs.allocationsLength (ledgerFile libs keys uuid inner) ≤ maxFileBytes
  count : (writtenSections libs keys uuid inner).size ≤ maxSections
  spelling : ∀ file, inner.sealedStore = some file → file.storeUuid = bytesToHex uuid.toList

def WritesRereadable (libs : Libraries) (world : World) (op : Op) : Prop :=
  ∀ store session uuid inner, world.store = some store → Unlocked store.inner session uuid →
    written op store.inner = some inner → Rereadable libs session.keys uuid inner

/-- A call answered with a ledger written. -/
def wroteLedger : Op → Answer → Bool
  | .insert _ _ _, .inserted (.ok ()) => true
  | .reserve _ _, .reserved (.ok _) => true
  | _, _ => false

theorem isError_of_wroteLedger {op : Op} {answer : Answer}
    (hwrote : wroteLedger op answer = true) : answer.isError = false := by
  unfold wroteLedger at hwrote
  split at hwrote
  · rfl
  · rfl
  · cases hwrote

theorem exists_store_of_wroteLedger {world : World} {op : Op}
    (hwrote : wroteLedger op (step libs world op).2 = true) :
    ∃ store, world.store = some store := by
  cases hstore : world.store with
  | some store => exact ⟨store, rfl⟩
  | none =>
      cases op with
      | insert => simp [step, hstore, wroteLedger] at hwrote
      | reserve => simp [step, hstore, wroteLedger] at hwrote
      | _ => simp [wroteLedger] at hwrote

/-- A write makes every membership in good standing sound, in memory and on
disk. -/
theorem sound_of_written {before after : Inner} {disk : Disk} {session : Session}
    (hcoherent : Coherent libs after) (hunlocked : Unlocked after session uuid)
    (htidy : Tidy libs after disk) (hrows : RowsFit before)
    (hreread : Rereadable libs session.keys uuid before)
    (hheader : ∀ file, after.sealedStore = some file → file.storeUuid = bytesToHex uuid.toList)
    (hquarantined : after.isQuarantined hash = before.isQuarantined hash)
    (hsections : after.sections = before.sections)
    (hraw : after.rawSections = writtenSections libs session.keys uuid before)
    (hroot : after.rootMacRaw = some (writtenRoot libs session.keys uuid before))
    (hledger : disk.allocations = .text
      (libs.allocationsLength (ledgerFile libs session.keys uuid before))
      (.ok (ledgerFile libs session.keys uuid before)))
    (hstanding : after.isQuarantined hash = false) :
    OnDisk libs session.password hash session.keys uuid disk ∧
      InMemory libs session.password hash session.keys uuid after := by
  have hmemory : ∀ (file : SealedFile) (entry : SealedEntry), after.sealedStore = some file →
      file.credentials[hash]? = some entry →
      Sound libs session.password hash session.keys uuid file entry after.rawSections
        after.rootMacRaw := by
    intro file entry hfile hentry
    have hcensus : hash ∉ after.censusQuarantined := by
      intro hcensus
      rw [isQuarantined_iff.mpr (.inl hcensus)] at hstanding
      cases hstanding
    have hmember : after.hasCredential hash = true :=
      hasCredential_iff.mpr ⟨file, hfile, OrderedMap.mem_iff_exists.mpr ⟨entry, hentry⟩⟩
    refine ⟨hcoherent.sessionKeys session file hunlocked.session hfile, ?_, ?_⟩
    · rw [← hunlocked.storeUuid, hcoherent.storeUuid, hfile, Option.bind_some]
    · rw [hraw, hroot]
      refine passes_written (htidy.recomputing file hash entry hfile hentry hcensus)
        (htidy.opening session uuid file hash entry hunlocked hfile hentry hstanding)
        (hsections ▸ hcoherent.sectioned hash hmember hcensus) hreread.carried fun hbefore => ?_
      rw [← hquarantined, hstanding] at hbefore
      cases hbefore
  refine ⟨fun file entry hfile hentry => ?_, fun file entry hfile hentry =>
    ⟨hstanding, hmemory file entry hfile hentry⟩⟩
  obtain ⟨listed, hsealed, hlisted, hkdf, huuid⟩ := htidy.listed file hash entry hfile hentry
  have hsound := hmemory listed entry hsealed hlisted
  have hcaps : checkAllocationsCaps (ledgerFile libs session.keys uuid before) = .ok () :=
    checkAllocationsCaps_eq_ok_iff.mpr ⟨hreread.count, fun other stored hstored =>
      hrows.written session.keys uuid hstored⟩
  refine ⟨_, by rw [hledger]; exact readLedger_text hreread.size hcaps rfl rfl, ?_, ?_, ?_, ?_⟩
  · rw [← huuid, hheader listed hsealed]
    rfl
  · rw [← hkdf]
    exact hsound.derived
  · rw [← huuid]
    exact hsound.storeUuid
  · rw [hexToBytes32_ledgerFile_rootMac, ← hroot]
    have hpasses := hsound.passes
    rw [hraw] at hpasses
    exact hpasses

/-- A successful write from a tidy store. -/
theorem sound_after_write (hlaws : Laws libs) {world : World} {store : Store} {op : Op}
    (hstore : world.store = some store) (hadmissible : Admissible libs world op)
    (hcoherent : Coherent libs store.inner) (htidy : Tidy libs store.inner world.disk)
    (hrows : RowsFit store.inner) (hwrote : wroteLedger op (step libs world op).2 = true)
    (hreread : WritesRereadable libs world op) {inner' : Inner} {disk' : Disk} {session : Session}
    (hsession : inner'.session = some session) (hstanding : inner'.isQuarantined hash = false)
    (heffect : Effect libs store.inner world.disk op (step libs world op).2 inner' disk') :
    ∃ uuid, OnDisk libs session.password hash session.keys uuid disk' ∧
      InMemory libs session.password hash session.keys uuid inner' := by
  have htidy' := tidy_effect hlaws hstore hadmissible hcoherent htidy heffect
  have hcoherent' := hcoherent.effect heffect
  generalize (step libs world op).2 = answer at hwrote heffect
  cases heffect with
  | refused _ _ herror =>
      rw [isError_of_wroteLedger hwrote] at herror
      cases herror
  | @inserted registration nonce writes session' uuid file entry hunlocked hledger _ _ hsealed
      hentry =>
      have hunlocked' : Unlocked (committedInner libs registration session'.keys uuid store.inner
          file entry) session' uuid :=
        ⟨hunlocked.lockHeld, hunlocked.session, hunlocked.storeUuid⟩
      obtain rfl : session' = session :=
        Option.some.inj (hunlocked'.session.symm.trans hsession)
      have hrereadable := hreread store session' uuid _ hstore hunlocked rfl
      refine ⟨uuid, sound_of_written hcoherent' hunlocked' htidy' (hrows.insertSection _)
        hrereadable ?_ rfl rfl rfl rfl rfl hstanding⟩
      intro committed hcommitted
      obtain rfl := Option.some.inj hcommitted
      exact hrereadable.spelling file hsealed
  | @reserved args session' uuid slot alloc hunlocked hchosen =>
      have hunlocked' : Unlocked (ledgerInner libs .ok session'.keys uuid
          (withCounters store.inner args.hash alloc)) session' uuid :=
        ⟨hunlocked.lockHeld, hunlocked.session, hunlocked.storeUuid⟩
      obtain rfl : session' = session :=
        Option.some.inj (hunlocked'.session.symm.trans hsession)
      have hwritten : written (.reserve args .ok) store.inner =
          some (withCounters store.inner args.hash alloc) := by
        simp [written, hchosen]
      have hrereadable := hreread store session' uuid _ hstore hunlocked hwritten
      exact ⟨uuid, sound_of_written hcoherent' hunlocked' htidy' (hrows.withCounters hchosen)
        hrereadable hrereadable.spelling rfl rfl rfl rfl rfl hstanding⟩
  | _ => simp [wroteLedger] at hwrote

/-- Let admissible calls, from any directory, lead to a successful insert or
reservation whose text is rereadable.  A membership in good standing right after
it is in good standing after every sequence of locks, closes, crashes, opens and
unlocks with the password of its session. -/
theorem healthy_after_write (libs : Libraries) (hlaws : Laws libs) (disk : Disk) (ops : List Op)
    (op : Op) (restarts : List Op) (password hash : String) :
    let before := Run.run (step libs) { disk } ops
    let after := (step libs before op).1
    Run.Guarded (step libs) (Admissible libs) { disk } (ops ++ [op]) →
    wroteLedger op (step libs before op).2 = true → WritesRereadable libs before op →
    (∃ store session, after.store = some store ∧ store.inner.session = some session ∧
      session.password = password ∧ store.inner.isQuarantined hash = false) →
    (∀ restart ∈ restarts, Restarts password restart) →
    ∀ store, (Run.run (step libs) after restarts).store = some store →
      store.inner.isQuarantined hash = false := by
  intro before after hguard hwrote hreread ⟨written, session, hwritten, hsession, hpassword,
    hstanding⟩ hrestarts final hfinal
  subst hpassword
  rw [Run.guarded_append] at hguard
  obtain ⟨hadmissible, hlast, -⟩ := hguard
  have hbefore : before.Satisfies libs (fun _ => True)
      fun inner disk => Tidy libs inner disk ∧ RowsFit inner :=
    Run.invariant_run (tidy_step hlaws) ⟨trivial, by simp⟩ hadmissible
  obtain ⟨store, hstore⟩ := exists_store_of_wroteLedger hwrote
  obtain ⟨hcoherent, htidy, hrows⟩ := hbefore.store store hstore
  have hopen : ∀ env, op ≠ .openStore env := by
    rintro env rfl
    simp [wroteLedger] at hwrote
  have hcrash : op ≠ .crash := by
    rintro rfl
    simp [wroteLedger] at hwrote
  obtain ⟨store', disk', answer, hstep, heffect⟩ := step_effect hstore hcoherent hopen hcrash
  have hafter : after = ⟨disk', some store'⟩ := congrArg Prod.fst hstep
  obtain rfl : store' = written := by simpa [hafter] using hwritten
  have heffect' : Effect libs store.inner before.disk op (step libs before op).2 store'.inner
      disk' := by
    rw [hstep]
    exact heffect
  obtain ⟨uuid, hdisk, hinner⟩ := sound_after_write hlaws hstore hlast hcoherent htidy hrows hwrote
    hreread hsession hstanding heffect'
  have hsound : after.Satisfies libs (OnDisk libs session.password hash session.keys uuid)
      fun inner _ => InMemory libs session.password hash session.keys uuid inner := by
    rw [hafter]
    refine ⟨hdisk, ?_⟩
    rintro _ ⟨⟩
    exact ⟨hcoherent.effect heffect, hinner⟩
  have hrun := Run.invariant_run sound_step hsound (Run.guarded_of_forall hrestarts after)
  obtain ⟨hcoherent', hinner'⟩ := hrun.store final hfinal
  rw [Bool.eq_false_iff]
  intro hquarantined
  obtain ⟨file, hfile, hmember⟩ := hasCredential_iff.mp (hcoherent'.quarantined hash hquarantined)
  obtain ⟨entry, hentry⟩ := OrderedMap.mem_iff_exists.mp hmember
  rw [(hinner' file entry hfile hentry).1] at hquarantined
  cases hquarantined

/-! ## Where a carried tag spoils the write -/

/-- A malformed tag carried by an insert condemns even the membership just
inserted, as soon as the store is locked and unlocked. -/
theorem condemned_of_carried {world : World} {store : Store} {session : Session}
    {file : SealedFile} {registration : Registration} {plaintext ct : Bytes} (nonce : Bytes24)
    (random : UnlockRandom) (write : WriteOutcome) (hstore : world.store = some store)
    (hcoherent : Coherent libs store.inner) (hunlocked : Unlocked store.inner session uuid)
    (hsealed : store.inner.sealedStore = some file)
    (hverifier : session.keys.verify.toList = (hexToVec file.verifier).getD [])
    (hcarried : CarriesMalformed (insertSection registration.hash store.inner))
    (hplain : libs.credentialToVec registration.credential = .ok plaintext)
    (hencrypt : libs.encrypt session.keys.sealKey nonce
      (credentialAad registration.hash registration.identity uuid) plaintext = some ct) :
    ∃ final, (Run.run (step libs) world [.insert registration (some nonce) ⟨.ok, .ok, .ok⟩, .lock,
        .unlock session.password random write]).store = some final ∧
      final.inner.session.isSome ∧ final.inner.isQuarantined registration.hash = true := by
  refine ⟨_, run_insert_relock nonce random write hstore hcoherent hunlocked hsealed hverifier
    hplain hencrypt, rfl, ?_⟩
  let entry : SealedEntry := ⟨registration.identity, bytesToHex nonce.toList, bytesToHex ct⟩
  have hentry : (withEntry file registration.hash entry).credentials[registration.hash]? =
      some entry := by
    simp [withEntry]
  have hkeyed : registration.hash ∈ keyedFailures libs session.keys uuid
      (withEntry file registration.hash entry)
      (relockedInner libs registration session.keys uuid store.inner file entry) := by
    refine (mem_keyedFailures_iff hentry (Finset.notMem_erase registration.hash _)).mpr ?_
    rintro ⟨-, -, hroot⟩
    exact (wellFormedMacs_writtenSections_iff.mp (rootOk_writtenRoot_iff.mp hroot)) hcarried
  exact isQuarantined_iff.mpr (.inr hkeyed)

/-- The member's section with its tag stripped. -/
def strippedSection : Section := { Reference.untouchedSection with mac := "" }

/-- The member's directory after an outside edit stripped the tag. -/
def strippedDisk : Disk where
  sealedText := .text 4096 (.ok Reference.memberFile)
  allocations := .text 4096 (.ok (Reference.ledgerWith strippedSection ""))

/-- A store opened on a stripped tag inserts another membership, in good
standing until the next unlock. -/
theorem healthy_write_condemned :
    let inserted := Run.run (step Reference.libraries) { disk := strippedDisk }
      [.openStore Reference.env, Reference.unlockOp, Reference.insertOp 2]
    (step Reference.libraries (Run.run (step Reference.libraries) { disk := strippedDisk }
      [.openStore Reference.env, Reference.unlockOp]) (Reference.insertOp 2)).2 =
        .inserted (.ok ()) ∧
    (∃ store, inserted.store = some store ∧
      store.inner.isQuarantined (Reference.registration 2).hash = false) ∧
    ∃ store, (Run.run (step Reference.libraries) inserted [.lock, Reference.unlockOp]).store =
        some store ∧
      store.inner.session.isSome ∧
      store.inner.isQuarantined (Reference.registration 2).hash = true := by
  intro inserted
  obtain ⟨opened, hloaded, disk, hopened⟩ := Reference.run_loaded
    (rfl : strippedDisk.sealedText = _) (by decide) (rfl : strippedDisk.allocations = _)
    (by decide) (by simp [strippedSection, Reference.untouchedSection, stampSection])
  have hunlocked := hloaded.unlocked
  have hcoherent : Coherent Reference.libraries
      (publish (Reference.unlockedInner opened)).inner :=
    coherent_run strippedDisk [.openStore Reference.env, Reference.unlockOp] (by rw [hopened])
  have hmac : hexToBytes32 strippedSection.mac = none := by decide
  have hraw : (Reference.unlockedInner opened).rawSections[Reference.member]? =
      some strippedSection := by
    rw [show (Reference.unlockedInner opened).rawSections = _ from hloaded.rawSections]
    exact Reference.ledgerWith_member _ _
  -- the first unlock finds the tag missing and condemns the member itself
  have hkeyed : Reference.member ∈ keyedFailures Reference.libraries Reference.keys Reference.uuid
      Reference.memberFile opened := by
    rw [mem_keyedFailures_iff Reference.memberFile_entry hloaded.census, rootOk_iff]
    rintro ⟨-, -, hwell, -⟩
    have hsome := hwell Reference.member strippedSection hraw
    simp [hmac] at hsome
  have hcarried : CarriesMalformed (insertSection (Reference.registration 2).hash
      (Reference.unlockedInner opened)) := by
    refine ⟨Reference.member, strippedSection, ?_, ?_, hraw, hmac⟩
    · exact isQuarantined_insertSection.mpr
        ⟨Reference.hash_two_ne_member.symm, isQuarantined_iff.mpr (.inr hkeyed)⟩
    · exact mem_insertSection_sections.mpr
        (.inr (OrderedMap.mem_iff_exists.mpr ⟨_, hloaded.counters⟩))
  have hinsert := @Reference.step_insertOp (Reference.unlockedInner opened)
    (buildSnapshot (Reference.unlockedInner opened)) disk "pw" Reference.memberFile hunlocked
    hloaded.sealedStore 2
  obtain ⟨final, hfinal, hsession, hcondemned⟩ := condemned_of_carried (List.Vector.replicate 24 3)
    Reference.random .ok
    (rfl : (⟨disk, some (publish (Reference.unlockedInner opened))⟩ : World).store = _)
    hcoherent hunlocked hloaded.sealedStore Reference.verifier_memberFile hcarried rfl rfl
  have hsplit : inserted = (step Reference.libraries (Run.run (step Reference.libraries)
    { disk := strippedDisk } [.openStore Reference.env, Reference.unlockOp])
      (Reference.insertOp 2)).1 := rfl
  refine ⟨?_, ⟨publish (committedInner Reference.libraries (Reference.registration 2)
    Reference.keys Reference.uuid (Reference.unlockedInner opened) Reference.memberFile
    (Reference.entry 2)), ?_, ?_⟩, final, ?_, hsession, hcondemned⟩
  · rw [hopened, publish, hinsert]
  · rw [hsplit, hopened, publish, hinsert]
  · rw [Bool.eq_false_iff]
    exact fun hquarantined => (isQuarantined_insertSection.mp hquarantined).1 rfl
  · have hop : Reference.insertOp 2 = .insert (Reference.registration 2)
      (some (List.Vector.replicate 24 3)) ⟨.ok, .ok, .ok⟩ := rfl
    rw [hsplit, hopened, hop, Reference.unlockOp]
    exact hfinal

theorem rereadable_first :
    Rereadable Reference.libraries Reference.keys Reference.uuid
      (insertSection (Reference.registration 1).hash Reference.provisionedInner) where
  carried := by
    rintro ⟨hash, _, hquarantined, -⟩
    exact absurd (isQuarantined_insertSection.mp hquarantined).2
      (by rw [Reference.isQuarantined_provisionedInner]; decide)
  size := Reference.allocationsLength_first
  count := (Std.ExtTreeMap.size_filterMap_le_size).trans (by
    simp [insertSection, Reference.sections_provisionedInner, maxSections,
      Reference.isQuarantined_provisionedInner, Std.ExtTreeMap.size_insertIfNew])
  spelling file hfile := by
    obtain rfl := Option.some.inj hfile
    rfl

/-- The guarded theorem on the first insert into an empty directory. -/
theorem healthy_after_write_first :
    let before := Run.run (step Reference.libraries) {} [.openStore Reference.env, Reference.unlockOp]
    let after := (step Reference.libraries before (Reference.insertOp 1)).1
    ∀ store, (Run.run (step Reference.libraries) after [.lock, Reference.unlockOp, .close,
        .openStore Reference.env, Reference.unlockOp]).store = some store →
      store.inner.isQuarantined Reference.member = false := by
  have hinsert := @Reference.step_insertOp Reference.provisionedInner
    (buildSnapshot Reference.provisionedInner) Reference.provisionedDisk "pw" _
    Reference.unlocked_provisionedInner rfl 1
  have hprovisioned := Reference.run_provisioned
  rw [publish] at hprovisioned
  refine healthy_after_write Reference.libraries Reference.laws {}
    [.openStore Reference.env, Reference.unlockOp] (Reference.insertOp 1)
    [.lock, Reference.unlockOp, .close, .openStore Reference.env, Reference.unlockOp] "pw"
    Reference.member ?_ ?_ ?_ ?_ ?_
  · refine (Run.guarded_append ..).mpr ⟨⟨trivial, trivial, trivial⟩, ?_, trivial⟩
    refine ⟨Reference.recomputes_registration 1, fun store hstore => ⟨fun hquarantined => ?_,
      fun _ => rfl⟩⟩
    rw [hprovisioned] at hstore
    obtain rfl := Option.some.inj hstore
    exact absurd hquarantined (by rw [Reference.isQuarantined_provisionedInner]; decide)
  · rw [hprovisioned, hinsert]
    rfl
  · intro store session uuid inner hstore hunlocked hwritten
    rw [hprovisioned] at hstore
    obtain rfl := Option.some.inj hstore
    obtain rfl := Option.some.inj hunlocked.session
    obtain rfl := Option.some.inj hunlocked.storeUuid
    obtain rfl := Option.some.inj hwritten
    exact rereadable_first
  · rw [hprovisioned, hinsert]
    refine ⟨_, _, rfl, rfl, rfl, ?_⟩
    rw [Bool.eq_false_iff]
    exact fun hquarantined => (isQuarantined_insertSection.mp hquarantined).1 rfl
  · simp [Restarts, Reference.unlockOp]

end LogosRln.SealedStore.HealthyWrites
