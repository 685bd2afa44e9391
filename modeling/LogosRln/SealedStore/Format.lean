import LogosRln.Core.ByteFraming
import LogosRln.Core.OrderedMap
import LogosRln.SealedStore.Crypto

/-!
# On-disk format

File names, the schemas of the sealed and the allocations file, the canonical
byte encodings behind every AAD and MAC, and the caps enforced on a file before
it is trusted.  A tag over one of these encodings binds every field of it.
-/

namespace LogosRln.SealedStore.Format

open RegistryId ByteFraming

/-- `BTreeMap<String, _>`. -/
abbrev StringMap (V : Type*) := Std.ExtTreeMap String V

def sealedFile : String := "rln_sealed.json"
def allocationsFile : String := "rln_allocations.json"
def cacheFile : String := "rln_cache.json"
def oldFormatFile : String := "rln_keystore.json"

def formatSealed : String := "rln-sealed-store"
def formatAllocations : String := "rln-sealed-allocations"
def formatVersion : UInt32 := 1

structure IdentityBlock where
  registryId : String
  rlnIdentifier : String
  identityCommitment : String
  submittedAt : UInt64
  deriving DecidableEq

structure SealedEntry where
  identity : IdentityBlock
  nonce : String
  ct : String
  deriving DecidableEq

structure SealedFile where
  format : String
  version : UInt32
  kdf : Crypto.KdfParams
  verifier : String
  storeUuid : String
  credentials : StringMap SealedEntry

def SealedFile.provision (kdf : Crypto.KdfParams) (verifierHex storeUuidHex : String) :
    SealedFile where
  format := formatSealed
  version := formatVersion
  kdf := kdf
  verifier := verifierHex
  storeUuid := storeUuidHex
  credentials := ∅

structure AllocRow where
  rlnIdentifier : String
  epoch : UInt64
  used : UInt64
  deriving DecidableEq

structure Section where
  epochSizeSec : UInt64
  pruneFloor : UInt64
  allocations : List AllocRow
  mac : String
  deriving DecidableEq

structure AllocationsFile where
  format : String
  version : UInt32
  storeUuid : String
  sections : StringMap Section
  rootMac : String

/-! ## Canonical encodings -/

def putStr (text : String) : Bytes :=
  lengthPrefixed 4 (utf8 text)

def putU64 (value : UInt64) : Bytes :=
  bigEndian 8 value.toNat

def credentialAad (membershipHash : String) (identity : IdentityBlock) (storeUuid : Bytes16) :
    Bytes :=
  utf8 "rln-sealed/v1/credential" ++ putStr membershipHash ++ putStr identity.registryId ++
    putStr identity.rlnIdentifier ++ putStr identity.identityCommitment ++
    putU64 identity.submittedAt ++ storeUuid.toList

/-- The row order of the payload: by application, then by epoch. -/
def AllocRow.le (left right : AllocRow) : Bool :=
  ((compare left.rlnIdentifier right.rlnIdentifier).then (compare left.epoch right.epoch)).isLE

def AllocRow.encode (row : AllocRow) : Bytes :=
  putStr row.rlnIdentifier ++ (putU64 row.epoch ++ putU64 row.used)

def sectionMacPayload (membershipHash : String) (epochSizeSec pruneFloor : UInt64)
    (rows : List AllocRow) (storeUuid : Bytes16) : Bytes :=
  let sorted := rows.mergeSort AllocRow.le
  utf8 "rln-sealed/v1/section" ++ (putStr membershipHash ++ (storeUuid.toList ++
    (putU64 epochSizeSec ++ (putU64 pruneFloor ++ (bigEndian 4 sorted.length ++
      sorted.flatMap AllocRow.encode)))))

def encodeSectionMac (entry : String × Bytes32) : Bytes :=
  putStr entry.1 ++ entry.2.toList

def rootMacPayload (sectionMacs : StringMap Bytes32) (storeUuid : Bytes16) : Bytes :=
  utf8 "rln-sealed/v1/root" ++ (storeUuid.toList ++ (bigEndian 4 sectionMacs.size ++
    sectionMacs.toList.flatMap encodeSectionMac))

/-! ### What a payload binds -/

/-- A string whose length prefix is not cut. -/
def Fits (text : String) : Prop :=
  (utf8 text).length < 256 ^ 4

theorem selfDelimiting_putStr : SelfDelimiting Fits putStr :=
  (selfDelimiting_lengthPrefixed 4).comap utf8 utf8_injective

theorem selfDelimiting_putU64 : SelfDelimiting (fun _ => True) putU64 :=
  .of_length (fun _ _ => length_bigEndian 8 _) fun left right _ _ heq =>
    UInt64.toNat_inj.mp (bigEndian_injective left.toNat_lt right.toNat_lt heq)

theorem selfDelimiting_allocRow :
    SelfDelimiting (fun row : AllocRow => Fits row.rlnIdentifier) AllocRow.encode := by
  have hfields := selfDelimiting_putStr.pair (selfDelimiting_putU64.pair selfDelimiting_putU64)
  have hrow := hfields.comap (fun row : AllocRow =>
    (row.rlnIdentifier, row.epoch, row.used)) fun left right heq => by
      cases left
      cases right
      simp_all
  intro left right restLeft restRight hleft hright heq
  exact hrow ⟨hleft, trivial, trivial⟩ ⟨hright, trivial, trivial⟩ heq

theorem selfDelimiting_encodeSectionMac :
    SelfDelimiting (fun entry : String × Bytes32 => Fits entry.1) encodeSectionMac := by
  have htag : SelfDelimiting (fun _ : Bytes32 => True) List.Vector.toList :=
    .of_length (fun tag _ => tag.toList_length) fun left right _ _ heq => List.Vector.eq _ _ heq
  intro left right restLeft restRight hleft hright heq
  exact selfDelimiting_putStr.pair htag ⟨hleft, trivial⟩ ⟨hright, trivial⟩ heq

/-- Section contents whose lengths and row count fit their prefixes. -/
structure SectionFits (membershipHash : String) (rows : List AllocRow) : Prop where
  hash : Fits membershipHash
  rowCount : rows.length < 256 ^ 4
  rows : ∀ row ∈ rows, Fits row.rlnIdentifier

/-- A section payload binds its hash, store, epoch size and floor, and its rows
up to their order. -/
theorem sectionMacPayload_inj {leftHash rightHash : String} {leftSize rightSize leftFloor
    rightFloor : UInt64} {leftRows rightRows : List AllocRow} {leftUuid rightUuid : Bytes16}
    (hleft : SectionFits leftHash leftRows) (hright : SectionFits rightHash rightRows)
    (heq : sectionMacPayload leftHash leftSize leftFloor leftRows leftUuid =
      sectionMacPayload rightHash rightSize rightFloor rightRows rightUuid) :
    leftHash = rightHash ∧ leftUuid = rightUuid ∧ leftSize = rightSize ∧
      leftFloor = rightFloor ∧ leftRows.Perm rightRows := by
  simp only [sectionMacPayload] at heq
  obtain ⟨hhash, heq⟩ :=
    selfDelimiting_putStr hleft.hash hright.hash (List.append_cancel_left heq)
  obtain ⟨huuid, heq⟩ := List.append_inj heq (by simp)
  obtain ⟨hsize, heq⟩ := selfDelimiting_putU64 trivial trivial heq
  obtain ⟨hfloor, heq⟩ := selfDelimiting_putU64 trivial trivial heq
  obtain ⟨hcount, heq⟩ := selfDelimiting_bigEndian 4 (by simpa using hleft.rowCount)
    (by simpa using hright.rowCount) heq
  have hsorted : leftRows.mergeSort AllocRow.le = rightRows.mergeSort AllocRow.le :=
    selfDelimiting_allocRow.flatMap_inj
      (fun row hrow => hleft.rows row (List.mem_mergeSort.mp hrow))
      (fun row hrow => hright.rows row (List.mem_mergeSort.mp hrow)) hcount heq
  have hperm : leftRows.Perm (rightRows.mergeSort AllocRow.le) :=
    hsorted ▸ (List.mergeSort_perm leftRows AllocRow.le).symm
  exact ⟨hhash, List.Vector.eq _ _ huuid, hsize, hfloor,
    hperm.trans (List.mergeSort_perm rightRows AllocRow.le)⟩

/-- A root payload binds every membership hash and the section tag under it. -/
theorem rootMacPayload_inj {left right : StringMap Bytes32} {leftUuid rightUuid : Bytes16}
    (hleft : ∀ hash, hash ∈ left → Fits hash) (hright : ∀ hash, hash ∈ right → Fits hash)
    (hleftCount : left.size < 256 ^ 4) (hrightCount : right.size < 256 ^ 4)
    (heq : rootMacPayload left leftUuid = rootMacPayload right rightUuid) :
    left = right ∧ leftUuid = rightUuid := by
  have hfits : ∀ {macs : StringMap Bytes32}, (∀ hash, hash ∈ macs → Fits hash) →
      ∀ entry ∈ macs.toList, Fits entry.1 := by
    rintro macs hmacs ⟨hash, tag⟩ hentry
    exact hmacs hash (OrderedMap.mem_iff_exists.mpr
      ⟨tag, Std.ExtTreeMap.mem_toList_iff_getElem?_eq_some.mp hentry⟩)
  simp only [rootMacPayload] at heq
  obtain ⟨huuid, heq⟩ := List.append_inj (List.append_cancel_left heq) (by simp)
  obtain ⟨hcount, heq⟩ := selfDelimiting_bigEndian 4 hleftCount hrightCount heq
  have hentries : left.toList = right.toList :=
    selfDelimiting_encodeSectionMac.flatMap_inj (hfits hleft) (hfits hright)
      (by simpa using hcount) heq
  exact ⟨Std.ExtTreeMap.toList_inj.mp hentries, List.Vector.eq _ _ huuid⟩

/-- No section payload is a root payload. -/
theorem sectionMacPayload_ne_rootMacPayload (membershipHash : String)
    (epochSizeSec pruneFloor : UInt64) (rows : List AllocRow) (storeUuid rootUuid : Bytes16)
    (sectionMacs : StringMap Bytes32) :
    sectionMacPayload membershipHash epochSizeSec pruneFloor rows storeUuid ≠
      rootMacPayload sectionMacs rootUuid := by
  intro heq
  have hsection : utf8 "rln-sealed/v1/section" =
      utf8 "rln-sealed/v1/" ++ 115 :: utf8 "ection" := by decide
  have hroot : utf8 "rln-sealed/v1/root" = utf8 "rln-sealed/v1/" ++ 114 :: utf8 "oot" := by
    decide
  simp only [sectionMacPayload, rootMacPayload, hsection, hroot, List.append_assoc] at heq
  have hdomain := List.append_cancel_left heq
  simp at hdomain

/-! ## Caps -/

def maxFileBytes : ℕ := 4 * 1024 * 1024
def maxCredentials : ℕ := 1024
def maxSections : ℕ := 1024
def maxRowsPerSection : ℕ := 4096

def checkSealedCaps (file : SealedFile) : Except String Unit :=
  if file.credentials.size > maxCredentials then .error "too many credentials" else .ok ()

def checkAllocationsCaps (file : AllocationsFile) : Except String Unit :=
  if file.sections.size > maxSections then .error "too many sections"
  else if file.sections.toList.any fun entry =>
      entry.2.allocations.length > maxRowsPerSection then
    .error "too many allocation rows in a section"
  else .ok ()

theorem checkAllocationsCaps_eq_ok_iff {file : AllocationsFile} :
    checkAllocationsCaps file = .ok () ↔
      file.sections.size ≤ maxSections ∧
        ∀ (hash : String) (stored : Section), file.sections[hash]? = some stored →
          stored.allocations.length ≤ maxRowsPerSection := by
  simp only [checkAllocationsCaps]
  split
  · rename_i hmany
    simp [Nat.not_le.mpr hmany]
  · rename_i hfew
    simp only [Nat.not_lt] at hfew
    simp only [hfew, true_and, List.any_eq_true, decide_eq_true_eq, Prod.exists,
      Std.ExtTreeMap.mem_toList_iff_getElem?_eq_some]
    split <;> rename_i hrows
    · simpa using hrows
    · simpa using hrows

end LogosRln.SealedStore.Format
