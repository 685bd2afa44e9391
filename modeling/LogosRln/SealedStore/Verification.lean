import LogosRln.SealedStore.Machine

/-!
# What the next unlock finds

The checks `open` and `unlock` make of one membership, stated over the entry
and the ledger they read, and what a ledger write leaves for them: a restamped
section passes, a carried section passes as it did, and the root passes unless
a carried section's tag is not 32-byte hex.
-/

namespace LogosRln.SealedStore

open RegistryId Crypto Format Lifecycle RateLimit Files

variable (libs : Libraries)

/-! ## The checks of one membership -/

/-- The checks on a membership's own data: the hash recomputes, the credential
opens, and a section is there whose tag verifies. -/
def ownCheck (keys : SubKeys) (uuid : Bytes16) (hash : String) (entry : SealedEntry)
    (rawSections : StringMap Section) : Bool :=
  recomputes libs hash entry.identity &&
    credentialOpens libs keys (credentialAad hash entry.identity uuid) entry &&
    (rawSections[hash]?).any fun stored => sectionMacOk libs keys hash stored uuid

/-- The own checks and the root. -/
def passes (keys : SubKeys) (uuid : Bytes16) (hash : String) (entry : SealedEntry)
    (rawSections : StringMap Section) (rootMacRaw : Option Bytes32) : Bool :=
  ownCheck libs keys uuid hash entry rawSections && rootOk libs keys uuid rawSections rootMacRaw

variable {libs}

theorem any_sectionMacOk_iff {keys : SubKeys} {uuid : Bytes16} {hash : String}
    {rawSections : StringMap Section} :
    ((rawSections[hash]?).any fun stored => sectionMacOk libs keys hash stored uuid) = true ↔
      ∃ stored, rawSections[hash]? = some stored ∧
        sectionMacOk libs keys hash stored uuid = true := by
  simp [Option.any_eq_true]

/-- The keyed passes find fault with a membership in good census standing
unless its credential opens, its section verifies and the root does. -/
theorem mem_keyedFailures_iff {keys : SubKeys} {uuid : Bytes16} {file : SealedFile}
    {inner : Inner} {hash : String} {entry : SealedEntry}
    (hentry : file.credentials[hash]? = some entry) (hcensus : hash ∉ inner.censusQuarantined) :
    hash ∈ keyedFailures libs keys uuid file inner ↔
      ¬(credentialOpens libs keys (credentialAad hash entry.identity uuid) entry = true ∧
        ((inner.rawSections[hash]?).any fun stored =>
          sectionMacOk libs keys hash stored uuid) = true ∧
        rootOk libs keys uuid inner.rawSections inner.rootMacRaw = true) := by
  have hcredential : hash ∈ credentialFailures libs keys uuid file inner ↔
      credentialOpens libs keys (credentialAad hash entry.identity uuid) entry = false := by
    simp [credentialFailures, hentry, hcensus]
  have hsection : hash ∈ sectionFailures libs keys uuid file inner ↔
      hash ∉ credentialFailures libs keys uuid file inner ∧
        ((inner.rawSections[hash]?).any fun stored =>
          sectionMacOk libs keys hash stored uuid) = false := by
    simp [sectionFailures, hentry, hcensus]
  have hroot : hash ∈ rootFailures libs keys uuid file inner ↔
      inner.rawSections.isEmpty = false ∧
        rootOk libs keys uuid inner.rawSections inner.rootMacRaw = false := by
    unfold rootFailures
    split
    · rename_i hskip
      rw [Bool.or_eq_true] at hskip
      grind
    · rename_i hchecked
      rw [Bool.not_eq_true, Bool.or_eq_false_iff] at hchecked
      simp [hentry, hcensus, hchecked]
  simp only [keyedFailures, Finset.mem_union, hcredential, hsection, hroot]
  -- with no sections at all the section pass already fails
  have hempty : inner.rawSections.isEmpty = true →
      ((inner.rawSections[hash]?).any fun stored =>
        sectionMacOk libs keys hash stored uuid) = false := by
    intro hempty
    rw [Std.ExtTreeMap.isEmpty_iff] at hempty
    simp [hempty]
  grind

/-- The guard of `unlock`, over the credentials. -/
theorem allQuarantined_iff {inner : Inner} {file : SealedFile}
    (hsealed : inner.sealedStore = some file) :
    allQuarantined inner = true ↔ ∀ hash ∈ file.credentials, hash ∈ inner.censusQuarantined := by
  simp only [allQuarantined, hsealed, Option.any_some, List.all_eq_true, decide_eq_true_eq,
    Prod.forall, Std.ExtTreeMap.mem_toList_iff_getElem?_eq_some, OrderedMap.mem_iff_exists]
  grind

/-! ## What a ledger write leaves for the checks -/

/-- Every section's tag is 32-byte hex. -/
def WellFormedMacs (sections : StringMap Section) : Prop :=
  ∀ (hash : String) (stored : Section), sections[hash]? = some stored →
    (hexToBytes32 stored.mac).isSome

/-- A write from here carries a quarantined section whose tag is not 32-byte
hex. -/
def CarriesMalformed (inner : Inner) : Prop :=
  ∃ hash stored, inner.isQuarantined hash = true ∧ hash ∈ inner.sections ∧
    inner.rawSections[hash]? = some stored ∧ hexToBytes32 stored.mac = none

theorem size_storedMacs_eq_iff {sections : StringMap Section} :
    (storedMacs sections).size = sections.size ↔ WellFormedMacs sections := by
  rw [storedMacs, Std.ExtTreeMap.size_filterMap_eq_size_iff]
  constructor
  · intro hall hash stored hstored
    obtain ⟨hmem, rfl⟩ := Std.ExtTreeMap.getElem?_eq_some_iff.mp hstored
    exact hall hash hmem
  · intro hall hash hmem
    exact hall hash _ (Std.ExtTreeMap.getElem?_eq_some_getElem hmem)

/-- Where every tag is well formed, the writer and the verifier compute the
root over the same tags. -/
theorem writtenMacs_eq_storedMacs {sections : StringMap Section}
    (hwell : WellFormedMacs sections) : writtenMacs sections = storedMacs sections := by
  refine Std.ExtTreeMap.ext_getElem? fun hash => ?_
  rw [writtenMacs, storedMacs, Std.ExtTreeMap.getElem?_map, Std.ExtTreeMap.getElem?_filterMap']
  cases hstored : sections[hash]? with
  | none => rfl
  | some stored =>
      obtain ⟨mac, hmac⟩ := Option.isSome_iff_exists.mp (hwell hash stored hstored)
      simp [hmac]

theorem rootOk_iff {keys : SubKeys} {uuid : Bytes16} {sections : StringMap Section}
    {rootMacRaw : Option Bytes32} :
    rootOk libs keys uuid sections rootMacRaw = true ↔ WellFormedMacs sections ∧
      rootMacRaw = some (rootMac libs keys (storedMacs sections) uuid) := by
  rw [rootOk, Bool.and_eq_true, beq_iff_eq, size_storedMacs_eq_iff]
  cases rootMacRaw with
  | none => simp
  | some root =>
      have hsame : (rootMac libs keys (storedMacs sections) uuid).toList = root.toList ↔
          root = rootMac libs keys (storedMacs sections) uuid :=
        ⟨fun heq => List.Vector.toList_injective heq.symm, fun heq => by rw [heq]⟩
      simp only [Option.any_some, ctEq_iff, Option.some.injEq, hsame]

/-- The writer's root verifies exactly when every tag it covers is well
formed. -/
theorem rootOk_writtenRoot_iff {keys : SubKeys} {uuid : Bytes16} {inner : Inner} :
    rootOk libs keys uuid (writtenSections libs keys uuid inner)
        (some (writtenRoot libs keys uuid inner)) = true ↔
      WellFormedMacs (writtenSections libs keys uuid inner) := by
  rw [rootOk_iff, and_iff_left_iff_imp]
  intro hwell
  rw [writtenRoot, writtenMacs_eq_storedMacs hwell]

/-- Only a carried section can be malformed. -/
theorem wellFormedMacs_writtenSections_iff {keys : SubKeys} {uuid : Bytes16} {inner : Inner} :
    WellFormedMacs (writtenSections libs keys uuid inner) ↔ ¬ CarriesMalformed inner := by
  constructor
  · rintro hwell ⟨hash, stored, hquarantined, hmember, hraw, hmac⟩
    obtain ⟨alloc, halloc⟩ := OrderedMap.mem_iff_exists.mp hmember
    have hstored : (writtenSections libs keys uuid inner)[hash]? = some stored := by
      simp [getElem?_writtenSections, halloc, hquarantined, hraw]
    simpa [hmac] using hwell hash stored hstored
  · intro hcarried hash stored hstored
    obtain ⟨alloc, halloc, ⟨hquarantined, hraw⟩ | ⟨-, rfl⟩⟩ := writtenSections_cases libs hstored
    · rw [Option.isSome_iff_ne_none]
      exact fun hmac => hcarried ⟨hash, stored, hquarantined,
        OrderedMap.mem_iff_exists.mpr ⟨alloc, halloc⟩, hraw, hmac⟩
    · simp [stampSection]

/-- A restamped section verifies. -/
@[simp]
theorem sectionMacOk_stampSection (keys : SubKeys) (uuid : Bytes16) (hash : String)
    (alloc : AllocationState) :
    sectionMacOk libs keys hash (stampSection libs keys uuid hash alloc) uuid = true := by
  simp [sectionMacOk, stampSection, ctEq_iff]

/-- A membership whose entry is sound passes against what a write leaves: its
section is restamped, or carried with a tag that verifies. -/
theorem passes_written {keys : SubKeys} {uuid : Bytes16} {inner : Inner} {hash : String}
    {entry : SealedEntry} (hrecomputes : recomputes libs hash entry.identity = true)
    (hopens : credentialOpens libs keys (credentialAad hash entry.identity uuid) entry = true)
    (hmember : hash ∈ inner.sections) (hcarried : ¬ CarriesMalformed inner)
    (hsection : inner.isQuarantined hash = true →
      ((inner.rawSections[hash]?).any fun stored =>
        sectionMacOk libs keys hash stored uuid) = true) :
    passes libs keys uuid hash entry (writtenSections libs keys uuid inner)
      (some (writtenRoot libs keys uuid inner)) = true := by
  obtain ⟨alloc, halloc⟩ := OrderedMap.mem_iff_exists.mp hmember
  have hwritten : ((writtenSections libs keys uuid inner)[hash]?.any fun stored =>
      sectionMacOk libs keys hash stored uuid) = true := by
    cases hquarantined : inner.isQuarantined hash with
    | true =>
        obtain ⟨stored, hraw, hmac⟩ := any_sectionMacOk_iff.mp (hsection hquarantined)
        simp [getElem?_writtenSections, halloc, hquarantined, hraw, hmac]
    | false => simp [getElem?_writtenSections, halloc, hquarantined]
  have hroot := rootOk_writtenRoot_iff.mpr
    (@wellFormedMacs_writtenSections_iff libs keys uuid inner |>.mpr hcarried)
  rw [passes, ownCheck, hrecomputes, hopens, hwritten, hroot]
  rfl

/-- A membership that passes is in good standing after the keyed checks. -/
theorem not_mem_keyedFailures_of_passes {keys : SubKeys} {uuid : Bytes16} {file : SealedFile}
    {inner : Inner} {hash : String} {entry : SealedEntry}
    (hentry : file.credentials[hash]? = some entry)
    (hpasses : passes libs keys uuid hash entry inner.rawSections inner.rootMacRaw = true) :
    hash ∉ keyedFailures libs keys uuid file inner := by
  by_cases hcensus : hash ∈ inner.censusQuarantined
  · simp only [keyedFailures, credentialFailures, sectionFailures, rootFailures, Finset.mem_union,
      OrderedMap.mem_keysWhere, hcensus, not_true_eq_false, decide_false, Bool.false_and]
    split <;> simp [hcensus]
  · rw [mem_keyedFailures_iff hentry hcensus, not_not]
    simp only [passes, ownCheck, Bool.and_eq_true] at hpasses
    exact ⟨hpasses.1.1.2, hpasses.1.2, hpasses.2⟩

/-- The file's root text reads back as the root written. -/
@[simp]
theorem hexToBytes32_ledgerFile_rootMac (keys : SubKeys) (uuid : Bytes16) (inner : Inner) :
    hexToBytes32 (ledgerFile libs keys uuid inner).rootMac =
      some (writtenRoot libs keys uuid inner) := by
  simp [ledgerFile]

end LogosRln.SealedStore
