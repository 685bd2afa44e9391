import LogosRln.Core.ByteFraming
import LogosRln.Json
import LogosRln.Proofs.DepthBridge

/-!
# Proofs and their wire form

The proof engine over the circuit library, which stays a parameter: what a
witness is built from, the `RateLimitProof` a generated proof is bundled into,
its JSON in both accepted shapes, verification against a root window, and the
recovery of a double-signaller's secret.
-/

namespace LogosRln.Proofs

open RegistryId Json ByteFraming

inductive ProofError where
  | badInput (message : String)
  | engine (message : String)
  deriving DecidableEq

/-! ## The circuit library -/

/-- Public values of a proof; a multi-mode one carries neither `y` nor the
nullifier. -/
structure ProofValues (Fr : Type) where
  root : Fr
  externalNullifier : Fr
  x : Fr
  y : Option Fr
  nullifier : Option Fr

structure RlnProof (Fr Proof : Type) where
  proof : Proof
  values : ProofValues Fr

structure Witness (Fr : Type) where
  identitySecret : Fr
  userMessageLimit : Fr
  messageId : Fr
  pathElements : List Fr
  pathIndices : List UInt8
  x : Fr
  externalNullifier : Fr

inductive VerifyProofError where
  | invalidRoot
  | invalidSignal
  | other (message : String)

/-- What the engine uses of the circuit library.  Errors are their texts. -/
structure Zerokit (Fr Proof : Type) extends FieldCoding Fr where
  hashToFieldLe : Bytes → Fr
  buildWitness : Witness Fr → Except String (Witness Fr)
  generateProof : Witness Fr → Except String (RlnProof Fr Proof)
  verifyWithRoots : RlnProof Fr Proof → Fr → List Fr → Except VerifyProofError Bool
  serializeRln : RlnProof Fr Proof → Except String Bytes
  deserializeRln : Bytes → Except String (RlnProof Fr Proof)
  deserializeProof : Bytes → Except String Proof
  computeIdSecret : Fr × Fr → Fr × Fr → Except String Fr

variable {Fr Proof : Type} (zk : Zerokit Fr Proof)

/-! ## Bindings -/

/-- The spec's `epoch[32]`: the index as a 32-byte little-endian integer. -/
def epochToBytes (epoch : UInt64) : Bytes32 :=
  ⟨littleEndian 8 epoch.toNat ++ List.replicate 24 0, by simp⟩

/-- Nonzero padding is refused, never masked off. -/
def epochFromBytes (bytes : Bytes32) : Option UInt64 :=
  if (bytes.toList.drop 8).any (· ≠ 0) then none
  else some (UInt64.ofNat (ofLittleEndian (bytes.toList.take 8)))

def externalNullifier (epoch : UInt64) (rlnIdentifier : Bytes32) : Fr :=
  zk.hashPair (zk.hashToFieldLe (epochToBytes epoch).toList)
    (zk.hashToFieldLe rlnIdentifier.toList)

def signalToX (signal : Bytes) : Fr :=
  zk.hashToFieldLe signal

/-- The external nullifier a proof of this epoch and application carries. -/
def expectedExternalNullifier (epoch : UInt64) (rlnIdentifier : Bytes32) : Bytes32 :=
  zk.serialize (externalNullifier zk epoch rlnIdentifier)

/-- 32 bytes of hex, named by its label in the refusal. -/
def decodeHex32 (hex label : String) : Except ProofError Bytes32 :=
  match hexToBytes32 hex with
  | some bytes => .ok bytes
  | none => .error (.badInput s!"{label}: expected 32-byte hex")

/-- A field element's hex; a value at or above the modulus is rejected. -/
def hexToFr (hex label : String) : Except ProofError Fr := do
  let bytes ← decodeHex32 hex label
  (zk.deserialize bytes).mapError fun error => .badInput s!"{label}: not a field element: {error}"

/-! ## The proof -/

/-- `canonical` is authoritative; the rest is its decoded view, and the epoch
the proof carries. -/
structure RateLimitProof where
  canonical : Bytes
  root : Bytes32
  externalNullifier : Bytes32
  shareX : Bytes32
  shareY : Bytes32
  nullifier : Bytes32
  epoch : Option UInt64

/-- The compressed Groth16 proof's length. -/
def groth16Len : ℕ := 128

def RateLimitProof.fromParts (rln : RlnProof Fr Proof) : Except ProofError RateLimitProof :=
  match rln.values.y, rln.values.nullifier with
  | some y, some nullifier => do
      let canonical ← (zk.serializeRln rln).mapError fun error =>
        .engine s!"serialize proof: {error}"
      return {
        canonical
        root := zk.serialize rln.values.root
        externalNullifier := zk.serialize rln.values.externalNullifier
        shareX := zk.serialize rln.values.x
        shareY := zk.serialize y
        nullifier := zk.serialize nullifier
        epoch := none }
  | _, _ => .error (.engine "multi-mode proof values unsupported")

def RateLimitProof.canonicalHex (rlp : RateLimitProof) : String :=
  bytesToHex rlp.canonical

/-- The decomposed shape. -/
def RateLimitProof.toJson (rlp : RateLimitProof) : Value :=
  let out : Value := .object
    [("external_nullifier", .str (bytesToHex rlp.externalNullifier.toList)),
      ("nullifier", .str (bytesToHex rlp.nullifier.toList)),
      ("proof", .str (bytesToHex (rlp.canonical.take groth16Len))),
      ("root", .str (bytesToHex rlp.root.toList)),
      ("share_x", .str (bytesToHex rlp.shareX.toList)),
      ("share_y", .str (bytesToHex rlp.shareY.toList))]
  match rlp.epoch with
  | some epoch => out.set "epoch" (.str (bytesToHex (epochToBytes epoch).toList))
  | none => out

/-! ## Reading the wire form -/

/-- A public value that stands beside a bare proof. -/
def wireField (value : Value) (key : String) : Except ProofError Fr :=
  match (value.get key).bind Value.asStr with
  | none => .error (.badInput s!"{key}: expected 32-byte hex alongside a bare proof")
  | some hex => hexToFr zk hex key

/-- The canonical bytes: as carried, or rebuilt around a bare Groth16 proof. -/
def wireCanonical (value : Value) (bytes : Bytes) : Except ProofError Bytes :=
  if bytes.length = groth16Len then do
    let proof ← (zk.deserializeProof bytes).mapError fun error =>
      .badInput s!"proof: not a valid Groth16 proof: {error}"
    let y ← wireField zk value "share_y"
    let root ← wireField zk value "root"
    let nullifier ← wireField zk value "nullifier"
    let x ← wireField zk value "share_x"
    let externalNullifier ← wireField zk value "external_nullifier"
    (zk.serializeRln
      { proof
        values := { root, externalNullifier, x, y := some y, nullifier := some nullifier } }).mapError
      fun error => .engine s!"serialize proof: {error}"
  else .ok bytes

def badEpoch : ProofError := .badInput "epoch: expected 32-byte hex or u64 index"

/-- The epoch as the u64 index or as `epoch[32]` hex. -/
def wireEpoch (value : Value) : Except ProofError (Option UInt64) :=
  match value.get "epoch" with
  | none => .ok none
  | some carried =>
      match carried.asU64 with
      | some index => .ok (some index)
      | none =>
          match carried.asStr.bind hexToBytes32 with
          | none => .error badEpoch
          | some bytes =>
              match epochFromBytes bytes with
              | some index => .ok (some index)
              | none => .error (.badInput "epoch: non-canonical padding")

/-- Only single-mode proofs are accepted. -/
def parseCanonical (bytes : Bytes) : Except ProofError (RlnProof Fr Proof) :=
  match zk.deserializeRln bytes with
  | .error error => .error (.badInput s!"proof: not a valid RLN proof: {error}")
  | .ok rln =>
      if rln.values.y.isNone then .error (.badInput "proof: multi-mode proofs are not supported")
      else .ok rln

def wireProofBytes (value : Value) : Except ProofError Bytes :=
  match (value.get "proof").bind Value.asStr with
  | none => .error (.badInput "proof: missing proof bytes")
  | some hex =>
      match hexToVec hex with
      | none => .error (.badInput "proof: not valid hex")
      | some bytes => .ok bytes

def RateLimitProof.fromJson (value : Value) : Except ProofError RateLimitProof := do
  let bytes ← wireProofBytes value
  let canonical ← wireCanonical zk value bytes
  let epoch ← wireEpoch value
  let rln ← parseCanonical zk canonical
  let rlp ← RateLimitProof.fromParts zk rln
  return { rlp with epoch }

/-! ## Generation -/

structure WitnessMaterial where
  identitySecretHashHex : String
  rateLimit : UInt64
  messageId : UInt64
  pathElementsHex : List String
  pathIndices : List UInt8
  deriving DecidableEq

/-- The length checks on the path. -/
def checkPath (material : WitnessMaterial) : Except ProofError Unit :=
  if material.pathElementsHex.length ≠ material.pathIndices.length then
    .error (.badInput s!"merkle path length mismatch: {material.pathElementsHex.length} elements vs {material.pathIndices.length} indices")
  else if material.pathElementsHex.length ≠ rlnTreeDepth then
    .error (.badInput
      s!"merkle path depth {material.pathElementsHex.length} != circuit depth {rlnTreeDepth}")
  else .ok ()

def generate (material : WitnessMaterial) (signal : Bytes) (epoch : UInt64)
    (rlnIdentifier : Bytes32) : Except ProofError RateLimitProof := do
  checkPath material
  let secretBytes ← decodeHex32 material.identitySecretHashHex "identity_secret_hash"
  let identitySecret ← (zk.deserialize secretBytes).mapError fun error =>
    .badInput s!"identity_secret: {error}"
  let pathElements ← material.pathElementsHex.mapM fun hex => hexToFr zk hex "path_element"
  let witness ← (zk.buildWitness
    { identitySecret
      userMessageLimit := zk.fromU64 material.rateLimit
      messageId := zk.fromU64 material.messageId
      pathElements
      pathIndices := material.pathIndices
      x := signalToX zk signal
      externalNullifier := externalNullifier zk epoch rlnIdentifier }).mapError fun error =>
        .badInput s!"witness: {error}"
  let rln ← (zk.generateProof witness).mapError fun error => .engine s!"generate: {error}"
  let rlp ← RateLimitProof.fromParts zk rln
  return { rlp with epoch := some epoch }

/-! ## Verification -/

/-- Whether the proof holds for the signal and a root of the window.  A window
without a readable root verifies nothing. -/
def verify (rlp : RateLimitProof) (signal : Bytes) (validRoots : List Bytes32) :
    Except ProofError Bool := do
  let rln ← parseCanonical zk rlp.canonical
  let roots := validRoots.filterMap fun root => (zk.deserialize root).toOption
  if !validRoots.isEmpty && roots.isEmpty then return false
  match zk.verifyWithRoots rln (signalToX zk signal) roots with
  | .ok verdict => return verdict
  | .error .invalidRoot => return false
  | .error .invalidSignal => return false
  | .error (.other error) => .error (.engine s!"verify: {error}")

def sharePoint (bytes : Bytes32) (label : String) : Except ProofError Fr :=
  (zk.deserialize bytes).mapError fun error => .badInput s!"{label}: not a field element: {error}"

/-- The secret on the line through the recorded share and the current one. -/
def recoverIdentitySecretHex (prior current : Bytes32 × Bytes32) : Except ProofError String := do
  let priorX ← sharePoint zk prior.1 "prior share_x"
  let priorY ← sharePoint zk prior.2 "prior share_y"
  let currentX ← sharePoint zk current.1 "share_x"
  let currentY ← sharePoint zk current.2 "share_y"
  let secret ← (zk.computeIdSecret (priorX, priorY) (currentX, currentY)).mapError fun error =>
    .engine s!"recover id secret: {error}"
  return frToHex zk.toFieldCoding secret

/-! ## The epoch's coding -/

theorem epochFromBytes_epochToBytes (epoch : UInt64) :
    epochFromBytes (epochToBytes epoch) = some epoch := by
  have hlength : (littleEndian 8 epoch.toNat).length = 8 := length_littleEndian 8 _
  have hlist : (epochToBytes epoch).toList =
      littleEndian 8 epoch.toNat ++ List.replicate 24 0 := rfl
  have hpadding : (epochToBytes epoch).toList.drop 8 = List.replicate 24 0 := by
    rw [hlist, List.drop_left' hlength]
  have hdigits : (epochToBytes epoch).toList.take 8 = littleEndian 8 epoch.toNat := by
    rw [hlist, List.take_left' hlength]
  have hfits : epoch.toNat < 256 ^ 8 := by
    simpa using epoch.toNat_lt
  rw [epochFromBytes, hpadding, hdigits, ofLittleEndian_littleEndian hfits]
  simp

end LogosRln.Proofs
