import LogosRln.Core.TagLog
import LogosRln.SealedStore.Reference

/-!
# Partial tampering of the ledger

The root covers the tag of every section, and a tag covers the contents of its
section.  If no tag is forged, a root that verifies was computed for one honest
write, that write fixes the tag of every section, and a section that verifies
under its tag has the contents the write gave it.
-/

namespace LogosRln.SealedStore.LedgerTamper

open RegistryId Crypto Format Lifecycle RateLimit Files

/-! ## Honest writes and what is presented against them -/

/-- A write of a session that carries no quarantined section. -/
def Honest (libs : Libraries) (keys : SubKeys) (uuid : Bytes16) (ledger : AllocationsFile) : Prop :=
  ∃ inner, (∀ hash, hash ∈ inner.sections → inner.isQuarantined hash = false) ∧
    ledger = ledgerFile libs keys uuid inner

def payloadOf (uuid : Bytes16) (hash : String) (stored : Section) : Bytes :=
  sectionMacPayload hash stored.epochSizeSec stored.pruneFloor stored.allocations uuid

/-- The payloads honest sessions computed tags for. -/
def Computed (uuid : Bytes16) (writes : List AllocationsFile) (payload : Bytes) : Prop :=
  ∃ ledger ∈ writes,
    (∃ hash stored, ledger.sections[hash]? = some stored ∧ payload = payloadOf uuid hash stored) ∨
      payload = rootMacPayload (storedMacs ledger.sections) uuid

/-- The payloads a ledger presents, with the tags it claims for them. -/
def Presented (uuid : Bytes16) (ledger : AllocationsFile) (payload : Bytes) (claimed : Bytes32) :
    Prop :=
  (∃ hash stored, ledger.sections[hash]? = some stored ∧ payload = payloadOf uuid hash stored ∧
      hexToBytes32 stored.mac = some claimed) ∨
    payload = rootMacPayload (storedMacs ledger.sections) uuid ∧
      hexToBytes32 ledger.rootMac = some claimed

/-- What a JSON text of `size` bytes can hold: no more sections, rows of a
section or bytes of a string. -/
structure HeldBy (size : ℕ) (ledger : AllocationsFile) : Prop where
  sections : ledger.sections.size ≤ size
  hash : ∀ hash, hash ∈ ledger.sections → (utf8 hash).length ≤ size
  rows : ∀ (hash : String) (stored : Section), ledger.sections[hash]? = some stored →
    stored.allocations.length ≤ size
  row : ∀ (hash : String) (stored : Section) (row : AllocRow), ledger.sections[hash]? = some stored →
    row ∈ stored.allocations → (utf8 row.rlnIdentifier).length ≤ size

/-- Counters of a membership as a section of the ledger has them, up to the
order of the rows. -/
structure SameCounters (alloc : AllocationState) (stored : Section) : Prop where
  epochSizeSec : alloc.epochSizeSec = stored.epochSizeSec
  pruneFloor : alloc.pruneFloor = stored.pruneFloor
  rows : alloc.allocations.Perm (stored.allocations.map toAllocation)

variable {libs : Libraries} {keys : SubKeys} {uuid : Bytes16} {size : ℕ} {hash : String}
  {stored : Section} {ledger genuine : AllocationsFile} {writes : List AllocationsFile}

theorem HeldBy.sectionFits (hheld : HeldBy size ledger) (hsize : size < 256 ^ 4)
    (hstored : ledger.sections[hash]? = some stored) : SectionFits hash stored.allocations where
  hash := (hheld.hash hash (OrderedMap.mem_iff_exists.mpr ⟨stored, hstored⟩)).trans_lt hsize
  rowCount := (hheld.rows hash stored hstored).trans_lt hsize
  rows row hrow := (hheld.row hash stored row hstored hrow).trans_lt hsize

theorem HeldBy.storedMacs (hheld : HeldBy size ledger) (hsize : size < 256 ^ 4) :
    (∀ hash, hash ∈ storedMacs ledger.sections → Fits hash) ∧
      (SealedStore.storedMacs ledger.sections).size < 256 ^ 4 := by
  constructor
  · intro hash hmember
    obtain ⟨tag, htag⟩ := OrderedMap.mem_iff_exists.mp hmember
    rw [SealedStore.storedMacs, Std.ExtTreeMap.getElem?_filterMap', Option.bind_eq_some_iff] at htag
    obtain ⟨stored, hstored, -⟩ := htag
    exact (hheld.hash hash (OrderedMap.mem_iff_exists.mpr ⟨stored, hstored⟩)).trans_lt hsize
  · calc (SealedStore.storedMacs ledger.sections).size
        ≤ ledger.sections.size := Std.ExtTreeMap.size_filterMap_le_size
      _ ≤ size := hheld.sections
      _ < 256 ^ 4 := hsize

/-- Every section of an honest write is stamped. -/
theorem Honest.stamped (hhonest : Honest libs keys uuid genuine)
    (hstored : genuine.sections[hash]? = some stored) :
    hexToBytes32 stored.mac = some (libs.hmacSha256 keys.ledger (payloadOf uuid hash stored)) := by
  obtain ⟨inner, hstanding, rfl⟩ := hhonest
  obtain ⟨alloc, halloc, ⟨hquarantined, -⟩ | ⟨-, rfl⟩⟩ := writtenSections_cases libs hstored
  · rw [hstanding hash (OrderedMap.mem_iff_exists.mpr ⟨alloc, halloc⟩)] at hquarantined
    cases hquarantined
  · simp [stampSection, sectionMac, payloadOf]

/-! ## One root, one write -/

/-- The root that verifies is the root of an honest write, whose tags are those
of the sections presented. -/
theorem genuine_of_rootOk
    (hunforged : TagLog.Unforged (libs.hmacSha256 keys.ledger) {p | Computed uuid writes p}
      (Presented uuid ledger))
    (hheld : HeldBy size ledger) (hsize : size < 256 ^ 4)
    (hwrites : ∀ genuine ∈ writes, ∃ size < 256 ^ 4, HeldBy size genuine)
    (hroot : rootOk libs keys uuid ledger.sections (hexToBytes32 ledger.rootMac) = true) :
    ∃ genuine ∈ writes, storedMacs ledger.sections = storedMacs genuine.sections := by
  obtain ⟨-, hclaimed⟩ := rootOk_iff.mp hroot
  have hcomputed := hunforged.noForgery _ _ (.inr ⟨rfl, hclaimed⟩) rfl
  obtain ⟨genuine, hgenuine, ⟨hash, stored, -, hpayload⟩ | hpayload⟩ := hcomputed
  · exact absurd hpayload.symm (sectionMacPayload_ne_rootMacPayload _ _ _ _ _ _ _)
  · obtain ⟨size', hsize', hheld'⟩ := hwrites genuine hgenuine
    obtain ⟨hfits, hcount⟩ := hheld.storedMacs hsize
    obtain ⟨hfits', hcount'⟩ := hheld'.storedMacs hsize'
    exact ⟨genuine, hgenuine, (rootMacPayload_inj hfits hfits' hcount hcount' hpayload).1⟩

/-- A section that verifies, under a root that covers the tags of a genuine
write, has the contents of that write. -/
theorem sameCounters_of_sectionMacOk
    (hunforged : TagLog.Unforged (libs.hmacSha256 keys.ledger) {p | Computed uuid writes p}
      (Presented uuid ledger))
    (hheld : HeldBy size ledger) (hsize : size < 256 ^ 4) {size' : ℕ} (hheld' : HeldBy size' genuine)
    (hsize' : size' < 256 ^ 4) (hgenuine : genuine ∈ writes)
    (hhonest : Honest libs keys uuid genuine)
    (hmacs : storedMacs ledger.sections = storedMacs genuine.sections)
    (hstored : ledger.sections[hash]? = some stored)
    (hmac : sectionMacOk libs keys hash stored uuid = true) :
    ∃ original, genuine.sections[hash]? = some original ∧
      SameCounters (toAllocationState stored) original := by
  -- the tag presented for the section is the one the verifier computes
  have htag : hexToBytes32 stored.mac =
      some (libs.hmacSha256 keys.ledger (payloadOf uuid hash stored)) := by
    simp only [sectionMacOk, sectionMac] at hmac
    split at hmac
    · rename_i mac hhex
      rw [ctEq_iff] at hmac
      rw [hexToBytes32, hhex, Option.bind_some, ← hmac]
      exact toArray_toList _
    · cases hmac
  have hcovered : (storedMacs genuine.sections)[hash]? =
      some (libs.hmacSha256 keys.ledger (payloadOf uuid hash stored)) := by
    rw [← hmacs, storedMacs, Std.ExtTreeMap.getElem?_filterMap', hstored, Option.bind_some, htag]
  rw [storedMacs, Std.ExtTreeMap.getElem?_filterMap', Option.bind_eq_some_iff] at hcovered
  obtain ⟨original, horiginal, hgenuineTag⟩ := hcovered
  have hsame := Option.some.inj ((hhonest.stamped horiginal).symm.trans hgenuineTag)
  have hpayload : payloadOf uuid hash stored = payloadOf uuid hash original :=
    hunforged.eq_of_verifies (.inl ⟨hash, stored, hstored, rfl, htag⟩) rfl
      ⟨genuine, hgenuine, .inl ⟨hash, original, horiginal, rfl⟩⟩ hsame
  obtain ⟨-, -, hepoch, hfloor, hrows⟩ := sectionMacPayload_inj (hheld.sectionFits hsize hstored)
    (hheld'.sectionFits hsize' horiginal) hpayload
  exact ⟨original, horiginal, hepoch, hfloor, hrows.map toAllocation⟩

/-! ## What an unlock accepts -/

/-- A membership in good standing after an unlock was found in a readable
ledger of the store, under a root and a section that verify. -/
theorem verified_of_standing {inner : Inner} {disk disk' : Disk} {cache : StringMap CacheState}
    {password : String} {random : UnlockRandom} {write : WriteOutcome} {answer : Answer}
    {inner' : Inner} {disk'' : Disk} {session : Session}
    (hinner : inner = openedInner libs (readSealed disk.sealedText) (readLedger disk.allocations)
      cache)
    (heffect : Effect libs inner disk' (.unlock password random write) answer inner' disk'')
    (hsession : inner'.session = some session) (huuid : inner'.storeUuid = some uuid)
    (hmember : inner'.hasCredential hash = true) (hstanding : inner'.isQuarantined hash = false) :
    ∃ ledger stored, readLedger disk.allocations = some ledger ∧
      ledger.sections[hash]? = some stored ∧
      inner'.sections[hash]? = some (toAllocationState stored) ∧
      sectionMacOk libs session.keys hash stored uuid = true ∧
      rootOk libs session.keys uuid ledger.sections (hexToBytes32 ledger.rootMac) = true := by
  obtain ⟨file, hfile, hlisted⟩ := hasCredential_iff.mp hmember
  obtain ⟨entry, hentry⟩ := OrderedMap.mem_iff_exists.mp hlisted
  cases heffect with
  | refused =>
      rw [hinner] at hsession
      cases hsession
  | provisionFailed =>
      rw [hinner] at hsession
      cases hsession
  | provisioned =>
      obtain rfl := Option.some.inj hfile
      simp [provisionedFile, SealedFile.provision] at hlisted
  | @authenticated _ _ _ _ uuid' keys' _ hauth =>
      obtain rfl := Option.some.inj hsession
      cases hauth.sealedStore.symm.trans hfile
      cases hauth.storeUuid.symm.trans huuid
      rw [Bool.eq_false_iff, Ne, isQuarantined_iff, not_or] at hstanding
      obtain ⟨hcensus, hkeyed⟩ := hstanding
      simp only [authenticatedInner] at hcensus hkeyed
      rw [mem_keyedFailures_iff hentry hcensus, not_not] at hkeyed
      obtain ⟨-, hsection, hroot⟩ := hkeyed
      obtain ⟨stored, hraw, hmac⟩ := any_sectionMacOk_iff.mp hsection
      have hread : readSealed disk.sealedText = some file := by
        have hsealed := hauth.sealedStore
        rw [hinner] at hsealed
        exact hsealed
      subst hinner
      rw [hread] at hcensus hraw hroot
      -- the census found a section for it in a ledger of this store
      obtain ⟨ledger, hledger, hsame, -⟩ : ∃ ledger, readLedger disk.allocations = some ledger ∧
          ledger.storeUuid = file.storeUuid ∧ hash ∈ ledger.sections := by
        by_contra hnone
        refine hcensus (mem_loadedFrom_census.mpr (.inr ⟨hlisted, fun ledger hledger hsame hin => ?_⟩))
        exact hnone ⟨ledger, hledger, hsame, hin⟩
      rw [hledger, rawSections_openedInner hsame] at hraw hroot
      rw [rootMacRaw_openedInner hsame] at hroot
      refine ⟨ledger, stored, hledger, hraw, ?_, hmac, hroot⟩
      simp only [authenticatedInner, openedInner, hread, hledger]
      exact getElem?_loadedFrom_sections.mpr ⟨ledger, stored, rfl, hsame, hlisted, hraw, rfl⟩

/-- The ledger of the reference store's first insert. -/
def memberLedger : AllocationsFile :=
  Reference.ledgerWith Reference.untouchedSection
    (ledgerFile Reference.libraries Reference.keys Reference.uuid
      (insertSection Reference.member Reference.provisionedInner)).rootMac

def memberDisk : Disk where
  sealedText := .text 4096 (.ok Reference.memberFile)
  allocations := .text 4096 (.ok memberLedger)

theorem memberLedger_sections : memberLedger.sections = writtenSections Reference.libraries
    Reference.keys Reference.uuid (insertSection Reference.member Reference.provisionedInner) := by
  refine Std.ExtTreeMap.ext_getElem? fun hash => ?_
  have hstanding : (insertSection Reference.member Reference.provisionedInner).isQuarantined hash =
      false := by
    rw [Bool.eq_false_iff]
    exact fun hquarantined => absurd (isQuarantined_insertSection.mp hquarantined).2
      (by rw [Reference.isQuarantined_provisionedInner]; decide)
  have hsections : (insertSection Reference.member Reference.provisionedInner).sections =
      (∅ : StringMap AllocationState).insertIfNew Reference.member {} := by
    simp only [insertSection, Reference.isQuarantined_provisionedInner,
      Reference.sections_provisionedInner, Bool.false_eq_true, if_false]
  rw [getElem?_writtenSections, hsections]
  simp only [hstanding, Bool.false_eq_true, if_false, memberLedger, Reference.ledgerWith,
    Std.ExtTreeMap.getElem?_insert, Std.ExtTreeMap.getElem?_insertIfNew]
  by_cases hsame : Reference.member = hash
  · subst hsame
    simp [Reference.untouchedSection]
  · simp [hsame]

theorem honest_memberLedger :
    Honest Reference.libraries Reference.keys Reference.uuid memberLedger := by
  refine ⟨insertSection Reference.member Reference.provisionedInner, fun hash _ => ?_, ?_⟩
  · rw [Bool.eq_false_iff]
    exact fun hquarantined => absurd (isQuarantined_insertSection.mp hquarantined).2
      (by rw [Reference.isQuarantined_provisionedInner]; decide)
  · have hsections := memberLedger_sections
    rw [ledgerFile, ← hsections]
    rfl

theorem heldBy_memberLedger : HeldBy 4096 memberLedger where
  sections := by simp [memberLedger, Reference.ledgerWith, Std.ExtTreeMap.size_insert]
  hash hash hmember := by
    obtain rfl : Reference.member = hash := by
      simpa [memberLedger, Reference.ledgerWith] using hmember
    exact Reference.length_member.trans (by decide)
  rows hash stored hstored := by
    rw [Reference.getElem?_ledgerWith hstored]
    simp [Reference.untouchedSection, stampSection]
  row hash stored row hstored hrow := by
    rw [Reference.getElem?_ledgerWith hstored] at hrow
    simp [Reference.untouchedSection, stampSection] at hrow

theorem tag_ne_root :
    Reference.libraries.hmacSha256 Reference.keys.ledger
        (payloadOf Reference.uuid Reference.member Reference.untouchedSection) ≠
      Reference.libraries.hmacSha256 Reference.keys.ledger
        (rootMacPayload (storedMacs memberLedger.sections) Reference.uuid) := by
  decide +kernel

theorem unforged_memberLedger :
    TagLog.Unforged (Reference.libraries.hmacSha256 Reference.keys.ledger)
      {p | Computed Reference.uuid [memberLedger] p} (Presented Reference.uuid memberLedger) where
  noForgery payload claimed hpresented _ := by
    refine ⟨memberLedger, List.mem_singleton_self _, ?_⟩
    rcases hpresented with ⟨hash, stored, hstored, hpayload, -⟩ | ⟨hpayload, -⟩
    · exact .inl ⟨hash, stored, hstored, hpayload⟩
    · exact .inr hpayload
  noCollision left hleft right hright hsame := by
    have hcases : ∀ payload, Computed Reference.uuid [memberLedger] payload →
        payload = payloadOf Reference.uuid Reference.member Reference.untouchedSection ∨
          payload = rootMacPayload (storedMacs memberLedger.sections) Reference.uuid := by
      rintro payload ⟨ledger, hledger, hpayload⟩
      obtain rfl := List.mem_singleton.mp hledger
      refine hpayload.imp_left ?_
      rintro ⟨hash, stored, hstored, rfl⟩
      have hmember : hash ∈ memberLedger.sections := OrderedMap.mem_iff_exists.mpr ⟨_, hstored⟩
      obtain rfl : Reference.member = hash := by
        simpa [memberLedger, Reference.ledgerWith] using hmember
      rw [Reference.getElem?_ledgerWith hstored]
    rcases hcases left hleft with rfl | rfl
    · rcases hcases right hright with rfl | rfl
      · rfl
      · exact absurd hsame tag_ne_root
    · rcases hcases right hright with rfl | rfl
      · exact absurd hsame.symm tag_ne_root
      · rfl

end LogosRln.SealedStore.LedgerTamper
