import Mathlib.Data.List.Sort
import LogosRln.SealedStore.Format

/-!
# The authenticated byte encodings

What the ciphertexts and the ledger tags bind is a byte string.  Each of the
three encodings can be read back from its bytes, the order in which a section
lists its rows leaves no trace, and no section's bytes are a root's.
-/

namespace LogosRln.SealedStore.Format

open RegistryId ByteFraming

/-! ## The associated data of a credential -/

/-- An identity block whose lengths fit their prefixes. -/
structure IdentityFits (identity : IdentityBlock) : Prop where
  registryId : Fits identity.registryId
  rlnIdentifier : Fits identity.rlnIdentifier
  identityCommitment : Fits identity.identityCommitment

/-- The associated data binds the hash, the identity block and the store. -/
theorem credentialAad_inj {leftHash rightHash : String} {left right : IdentityBlock}
    {leftUuid rightUuid : Bytes16} (hleftHash : Fits leftHash) (hrightHash : Fits rightHash)
    (hleft : IdentityFits left) (hright : IdentityFits right)
    (heq : credentialAad leftHash left leftUuid = credentialAad rightHash right rightUuid) :
    leftHash = rightHash ∧ left = right ∧ leftUuid = rightUuid := by
  simp only [credentialAad, List.append_assoc] at heq
  obtain ⟨hhash, heq⟩ := selfDelimiting_putStr hleftHash hrightHash (List.append_cancel_left heq)
  obtain ⟨hregistry, heq⟩ := selfDelimiting_putStr hleft.registryId hright.registryId heq
  obtain ⟨happlication, heq⟩ :=
    selfDelimiting_putStr hleft.rlnIdentifier hright.rlnIdentifier heq
  obtain ⟨hcommitment, heq⟩ :=
    selfDelimiting_putStr hleft.identityCommitment hright.identityCommitment heq
  obtain ⟨hsubmitted, huuid⟩ := selfDelimiting_putU64 trivial trivial heq
  refine ⟨hhash, ?_, List.Vector.eq _ _ huuid⟩
  cases left
  cases right
  simp_all

/-! ## The order of a section's rows -/

/-- The key a row is sorted by. -/
def AllocRow.key (row : AllocRow) : String × UInt64 :=
  (row.rlnIdentifier, row.epoch)

/-- The row order as a comparison: by application, then by epoch. -/
def AllocRow.cmp : AllocRow → AllocRow → Ordering :=
  compareLex (compareOn AllocRow.rlnIdentifier) (compareOn AllocRow.epoch)

theorem AllocRow.le_eq_isLE (left right : AllocRow) : left.le right = (left.cmp right).isLE := rfl

instance : Std.TransCmp AllocRow.cmp :=
  inferInstanceAs (Std.TransCmp
    (compareLex (compareOn AllocRow.rlnIdentifier) (compareOn AllocRow.epoch)))

theorem AllocRow.le_trans (first second third : AllocRow) (hfirst : first.le second = true)
    (hsecond : second.le third = true) : first.le third = true :=
  @Std.TransCmp.isLE_trans _ AllocRow.cmp _ first second third hfirst hsecond

theorem AllocRow.le_total (left right : AllocRow) :
    (left.le right || right.le left) = true := by
  rw [AllocRow.le_eq_isLE, AllocRow.le_eq_isLE,
    @Std.OrientedCmp.eq_swap _ AllocRow.cmp _ right left]
  cases left.cmp right <;> rfl

/-- Rows that are not after each other have one key. -/
theorem AllocRow.key_eq_of_le_of_le {left right : AllocRow} (hleft : left.le right = true)
    (hright : right.le left = true) : left.key = right.key := by
  have hequal : left.cmp right = .eq := Std.OrientedCmp.isLE_antisymm hleft hright
  simp only [AllocRow.cmp, compareLex_eq_eq, compareOn, Std.compare_eq_iff_eq] at hequal
  exact Prod.ext hequal.1 hequal.2

/-- Rows under distinct keys are sorted into one order, however they come. -/
theorem mergeSort_eq_of_perm {left right : List AllocRow} (hperm : left.Perm right)
    (hkeys : (left.map AllocRow.key).Nodup) :
    left.mergeSort AllocRow.le = right.mergeSort AllocRow.le := by
  have hsorted : (left.mergeSort AllocRow.le).Perm (right.mergeSort AllocRow.le) :=
    (List.mergeSort_perm left _).trans (hperm.trans (List.mergeSort_perm right _).symm)
  have hinjective := List.inj_on_of_nodup_map hkeys
  apply hsorted.eq_of_pairwise
  · intro first second hfirst hsecond hle hge
    exact hinjective (List.mem_mergeSort.mp hfirst)
      (hperm.mem_iff.mpr (List.mem_mergeSort.mp hsecond)) (AllocRow.key_eq_of_le_of_le hle hge)
  · exact List.pairwise_mergeSort AllocRow.le_trans AllocRow.le_total left
  · exact List.pairwise_mergeSort AllocRow.le_trans AllocRow.le_total right

/-! ## All encodings -/

/-- The three encodings are injective where their length prefixes are not cut, a
section's up to the order of its rows, which its bytes do not show when the
rows have distinct keys; and no section's bytes are a root's. -/
theorem canonical_encodings :
    (∀ (leftHash rightHash : String) (left right : IdentityBlock) (leftUuid rightUuid : Bytes16),
      Fits leftHash → Fits rightHash → IdentityFits left → IdentityFits right →
      credentialAad leftHash left leftUuid = credentialAad rightHash right rightUuid →
        leftHash = rightHash ∧ left = right ∧ leftUuid = rightUuid) ∧
    (∀ (left right : StringMap Bytes32) (leftUuid rightUuid : Bytes16),
      (∀ hash, hash ∈ left → Fits hash) → (∀ hash, hash ∈ right → Fits hash) →
      left.size < 2 ^ 32 → right.size < 2 ^ 32 →
      rootMacPayload left leftUuid = rootMacPayload right rightUuid →
        left = right ∧ leftUuid = rightUuid) ∧
    (∀ (leftHash rightHash : String) (leftSize rightSize leftFloor rightFloor : UInt64)
        (leftRows rightRows : List AllocRow) (leftUuid rightUuid : Bytes16),
      SectionFits leftHash leftRows → SectionFits rightHash rightRows →
      sectionMacPayload leftHash leftSize leftFloor leftRows leftUuid =
        sectionMacPayload rightHash rightSize rightFloor rightRows rightUuid →
        leftHash = rightHash ∧ leftUuid = rightUuid ∧ leftSize = rightSize ∧
          leftFloor = rightFloor ∧ leftRows.Perm rightRows) ∧
    (∀ (hash : String) (epochSizeSec pruneFloor : UInt64) (left right : List AllocRow)
        (uuid : Bytes16), left.Perm right → (left.map AllocRow.key).Nodup →
      sectionMacPayload hash epochSizeSec pruneFloor left uuid =
        sectionMacPayload hash epochSizeSec pruneFloor right uuid) ∧
    ∀ (hash : String) (epochSizeSec pruneFloor : UInt64) (rows : List AllocRow)
        (uuid rootUuid : Bytes16) (sectionMacs : StringMap Bytes32),
      sectionMacPayload hash epochSizeSec pruneFloor rows uuid ≠
        rootMacPayload sectionMacs rootUuid := by
  refine ⟨?_, ?_, ?_, ?_, ?_⟩
  · intro leftHash rightHash left right leftUuid rightUuid hleftHash hrightHash hleft hright heq
    exact credentialAad_inj hleftHash hrightHash hleft hright heq
  · intro left right leftUuid rightUuid hleft hright hleftCount hrightCount heq
    exact rootMacPayload_inj hleft hright (by simpa using hleftCount) (by simpa using hrightCount)
      heq
  · intro leftHash rightHash leftSize rightSize leftFloor rightFloor leftRows rightRows leftUuid
      rightUuid hleft hright heq
    exact sectionMacPayload_inj hleft hright heq
  · intro hash epochSizeSec pruneFloor left right uuid hperm hkeys
    simp only [sectionMacPayload, mergeSort_eq_of_perm hperm hkeys]
  · exact sectionMacPayload_ne_rootMacPayload

end LogosRln.SealedStore.Format
