import LogosRln.Proofs.Prover

/-!
# A small executable stand-in for the circuit library

Concrete generations and validations need a concrete circuit.  This instance
keeps the shape of the real one over a field of 64-bit numbers: elements are
coded in 32 little-endian bytes with a canonical form, and the root of a proof
is folded from the path of its witness.  It makes no claim of strength.
-/

namespace LogosRln.Proofs.Sample

open RegistryId

def field : FieldCoding UInt64 where
  fromU64 := id
  hashPair left right := 31 * left + 17 * right + 1
  serialize := epochToBytes
  deserialize bytes :=
    match epochFromBytes bytes with
    | some value => .ok value
    | none => .error "the input buffer contained invalid data"

theorem roundTrips : field.RoundTrips := fun value => by
  simp [field, epochFromBytes_epochToBytes]

/-- A proof is a block of the Groth16 length. -/
abbrev Groth16 := List.Vector UInt8 groth16Len

/-- The root a witness folds to. -/
def rootOf (witness : Witness UInt64) : UInt64 :=
  let leaf := field.hashPair (field.hashPair witness.identitySecret 0) witness.userMessageLimit
  (witness.pathElements.zip witness.pathIndices).foldl
    (fun node (sibling, index) =>
      if index = 0 then field.hashPair node sibling else field.hashPair sibling node) leaf

/-- The slope of the share line of one slot. -/
def slope (witness : Witness UInt64) : UInt64 :=
  field.hashPair (field.hashPair witness.identitySecret witness.externalNullifier)
    witness.messageId

def provedValues (witness : Witness UInt64) : ProofValues UInt64 where
  root := rootOf witness
  externalNullifier := witness.externalNullifier
  x := witness.x
  y := some (witness.identitySecret + witness.x * slope witness)
  nullifier := some (field.hashPair (slope witness) 0)

def serializeRln (rln : RlnProof UInt64 Groth16) : Except String Bytes :=
  match rln.values.y, rln.values.nullifier with
  | some y, some nullifier =>
      .ok (rln.proof.toList ++ ([rln.values.root, rln.values.externalNullifier, rln.values.x, y,
        nullifier].flatMap fun value => (field.serialize value).toList) ++ [0])
  | _, _ => .error "multi-mode values"

/-- The field element at the head of the bytes. -/
def readElement (bytes : Bytes) : Except String UInt64 :=
  match toArray 32 (bytes.take 32) with
  | some head => field.deserialize head
  | none => .error "short element"

def readProof (bytes : Bytes) : Except String Groth16 :=
  match toArray groth16Len bytes with
  | some proof => .ok proof
  | none => .error "not a proof"

def deserializeRln (bytes : Bytes) : Except String (RlnProof UInt64 Groth16) := do
  let proof ← readProof (bytes.take 128)
  let root ← readElement (bytes.drop 128)
  let externalNullifier ← readElement (bytes.drop 160)
  let x ← readElement (bytes.drop 192)
  let y ← readElement (bytes.drop 224)
  let nullifier ← readElement (bytes.drop 256)
  return {
    proof
    values := { root, externalNullifier, x, y := some y, nullifier := some nullifier } }

/-- The secret is where the share line meets zero; only shares one apart are
solved here. -/
def computeIdSecret (prior current : UInt64 × UInt64) : Except String UInt64 :=
  if prior.1 = current.1 then .error "the shares do not differ"
  else if current.1 = prior.1 + 1 then .ok (prior.2 - prior.1 * (current.2 - prior.2))
  else if prior.1 = current.1 + 1 then .ok (current.2 - current.1 * (prior.2 - current.2))
  else .error "no inverse"

def zerokit : Zerokit UInt64 Groth16 where
  toFieldCoding := field
  hashToFieldLe bytes := bytes.foldl (fun acc byte => acc * 257 + byte.toUInt64 + 1) 0
  buildWitness witness :=
    if witness.messageId < witness.userMessageLimit then .ok witness
    else .error "message id out of range"
  generateProof witness := .ok ⟨List.Vector.replicate 128 7, provedValues witness⟩
  verifyWithRoots rln x roots :=
    if rln.values.root ∉ roots then .error .invalidRoot
    else if rln.values.x ≠ x then .error .invalidSignal
    else .ok true
  serializeRln := serializeRln
  deserializeRln := deserializeRln
  deserializeProof := readProof
  computeIdSecret := computeIdSecret

theorem readElement_serialize (value : UInt64) (rest : Bytes) :
    readElement ((field.serialize value).toList ++ rest) = .ok value := by
  have hlength : (field.serialize value).toList.length = 32 := List.Vector.toList_length _
  have hhead : toArray 32 (field.serialize value).toList = some (field.serialize value) := by
    rw [toArray, dif_pos hlength]
    rfl
  rw [readElement, List.take_left' hlength, hhead]
  exact roundTrips value

theorem readProof_toList (proof : Groth16) : readProof proof.toList = .ok proof := by
  have hlength : proof.toList.length = groth16Len := List.Vector.toList_length _
  rw [readProof, toArray, dif_pos hlength]
  rfl

theorem serializeRln_eq_ok {rln : RlnProof UInt64 Groth16} {bytes : Bytes}
    (hserialized : serializeRln rln = .ok bytes) :
    ∃ y nullifier, rln.values.y = some y ∧ rln.values.nullifier = some nullifier ∧
      bytes = rln.proof.toList ++ ((field.serialize rln.values.root).toList ++
        ((field.serialize rln.values.externalNullifier).toList ++
        ((field.serialize rln.values.x).toList ++ ((field.serialize y).toList ++
        ((field.serialize nullifier).toList ++ [0]))))) := by
  unfold serializeRln at hserialized
  split at hserialized
  · next y nullifier hy hnullifier =>
      cases hserialized
      exact ⟨y, nullifier, hy, hnullifier, by simp⟩
  · cases hserialized

theorem drop_block {left right : Bytes} {start length : ℕ} (hlength : left.length = length) :
    (left ++ right).drop (length + start) = right.drop start := by
  rw [← hlength, List.drop_append, List.drop_eq_nil_of_le (by omega)]
  simp

theorem deserializeRln_serializeRln {rln : RlnProof UInt64 Groth16} {bytes : Bytes}
    (hserialized : serializeRln rln = .ok bytes) : deserializeRln bytes = .ok rln := by
  obtain ⟨y, nullifier, hy, hnullifier, rfl⟩ := serializeRln_eq_ok hserialized
  have hproof : rln.proof.toList.length = 128 := List.Vector.toList_length _
  have helement : ∀ value, (field.serialize value).toList.length = 32 :=
    fun value => List.Vector.toList_length _
  simp only [deserializeRln, List.take_left' hproof, List.drop_left' hproof]
  rw [show 160 = 128 + 32 from rfl, drop_block hproof, List.drop_left' (helement _),
    show 192 = 128 + (32 + 32) from rfl, drop_block hproof, drop_block (helement _),
    List.drop_left' (helement _),
    show 224 = 128 + (32 + (32 + 32)) from rfl, drop_block hproof, drop_block (helement _),
    drop_block (helement _), List.drop_left' (helement _),
    show 256 = 128 + (32 + (32 + (32 + 32))) from rfl, drop_block hproof,
    drop_block (helement _), drop_block (helement _), drop_block (helement _),
    List.drop_left' (helement _)]
  simp only [readProof_toList, readElement_serialize, bind, Except.bind, pure, Except.pure, ← hy,
    ← hnullifier]

end LogosRln.Proofs.Sample
