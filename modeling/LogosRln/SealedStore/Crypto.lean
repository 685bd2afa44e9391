import LogosRln.RegistryId

/-!
# Password keys and sealed credentials

Argon2id password derivation, HKDF-SHA256 sub-keys and XChaCha20-Poly1305.  The
primitives come from third-party crates and are parameters; nothing is assumed
of them here.
-/

namespace LogosRln.SealedStore.Crypto

open RegistryId

/-- The third-party primitives the store calls.  `argon2Params` and
`argon2id` answer `false` and `none` where the crate refuses its inputs, and
the AEAD answers `none` for a plaintext it cannot seal or a tag that does not
verify. -/
structure Primitives where
  argon2Params : (mCostKib tCost pCost : UInt32) → Bool
  argon2id : (mCostKib tCost pCost : UInt32) → (password salt : Bytes) → Option Bytes32
  hkdfExpand : Bytes32 → Bytes → Bytes32
  hmacSha256 : Bytes32 → Bytes → Bytes32
  sha256 : Bytes → Bytes32
  encrypt : (key : Bytes32) → (nonce : Bytes24) → (aad msg : Bytes) → Option Bytes
  decrypt : (key : Bytes32) → (nonce : Bytes24) → (aad ct : Bytes) → Option Bytes

inductive CryptoError where
  | badPassword
  | malformed (what : String)
  | noEntropy
  | kdf (what : String)
  deriving DecidableEq

def CryptoError.display : CryptoError → String
  | .badPassword => "AEAD open failed (wrong password or tampered data)"
  | .malformed what => s!"malformed {what}"
  | .noEntropy => "no CSPRNG available"
  | .kdf what => s!"kdf failure: {what}"

structure KdfParams where
  mCostKib : UInt32
  tCost : UInt32
  pCost : UInt32
  salt : String
  deriving DecidableEq

/-- `KdfParams::generate`; the salt is `none` when no CSPRNG is available. -/
def KdfParams.generate (salt : Option Bytes16) : Except CryptoError KdfParams :=
  match salt with
  | some salt => .ok ⟨65536, 3, 1, bytesToHex salt.toList⟩
  | none => .error .noEntropy

/-- `sealKey` is the source's `seal`, a word Lean reserves. -/
structure SubKeys where
  verify : Bytes32
  sealKey : Bytes32
  ledger : Bytes32
  deriving DecidableEq

def MasterKey.derive (prims : Primitives) (password : String) (params : KdfParams) :
    Except CryptoError Bytes32 :=
  match hexToVec params.salt with
  | none => .error (.malformed "kdf salt")
  | some salt =>
      if salt.length ≠ 16 then .error (.malformed "kdf salt length")
      else if !prims.argon2Params params.mCostKib params.tCost params.pCost then
        .error (.kdf "argon2 params")
      else
        match prims.argon2id params.mCostKib params.tCost params.pCost (utf8 password) salt with
        | some key => .ok key
        | none => .error (.kdf "argon2 derive")

/-- `SubKeys::derive`: a 32-byte master key is a valid PRK and 32 bytes are
within HKDF's output bound, so expansion never fails. -/
def SubKeys.derive (prims : Primitives) (masterKey : Bytes32) : SubKeys where
  verify := prims.hkdfExpand masterKey (utf8 "rln-sealed/v1/verify")
  sealKey := prims.hkdfExpand masterKey (utf8 "rln-sealed/v1/seal")
  ledger := prims.hkdfExpand masterKey (utf8 "rln-sealed/v1/ledger")

/-- `seal`; the nonce is `none` when no CSPRNG is available. -/
def sealBytes (prims : Primitives) (key : Bytes32) (nonce : Option Bytes24) (aad plaintext : Bytes) :
    Except CryptoError (Bytes24 × Bytes) :=
  match nonce with
  | none => .error .noEntropy
  | some nonce =>
      match prims.encrypt key nonce aad plaintext with
      | some ct => .ok (nonce, ct)
      | none => .error (.malformed "aead input")

def unsealBytes (prims : Primitives) (key : Bytes32) (nonce aad ct : Bytes) :
    Except CryptoError Bytes :=
  match toArray 24 nonce with
  | none => .error (.malformed "nonce length")
  | some nonce =>
      match prims.decrypt key nonce aad ct with
      | some plaintext => .ok plaintext
      | none => .error .badPassword

/-- The constant-time comparison: equal lengths and no differing bit. -/
def ctEq (left right : Bytes) : Bool :=
  left.length == right.length &&
    (left.zip right).foldl (fun acc pair => acc ||| (pair.1 ^^^ pair.2)) 0 == 0

private theorem or_eq_zero_iff (left right : UInt8) : left ||| right = 0 ↔ left = 0 ∧ right = 0 := by
  rw [← UInt8.toBitVec_inj, ← UInt8.toBitVec_inj, ← UInt8.toBitVec_inj]
  simp

private theorem foldl_or_xor_eq_zero_iff (pairs : List (UInt8 × UInt8)) (acc : UInt8) :
    pairs.foldl (fun acc pair => acc ||| (pair.1 ^^^ pair.2)) acc = 0 ↔
      acc = 0 ∧ ∀ pair ∈ pairs, pair.1 = pair.2 := by
  induction pairs generalizing acc with
  | nil => simp
  | cons pair pairs ih =>
      rw [List.foldl_cons, ih, or_eq_zero_iff, UInt8.xor_eq_zero_iff, List.forall_mem_cons,
        and_assoc]

/-- The constant-time comparison decides equality. -/
@[simp]
theorem ctEq_iff {left right : Bytes} : ctEq left right = true ↔ left = right := by
  simp only [ctEq, Bool.and_eq_true, beq_iff_eq, foldl_or_xor_eq_zero_iff, true_and]
  constructor
  · rintro ⟨hlength, hpairs⟩
    refine List.ext_getElem hlength fun i hleft hright => ?_
    have hi : i < (left.zip right).length := by simp [hleft, hright]
    simpa using hpairs _ (List.getElem_mem hi)
  · rintro rfl
    refine ⟨rfl, fun pair hpair => ?_⟩
    obtain ⟨i, hi, rfl⟩ := List.mem_iff_getElem.mp hpair
    simp

end LogosRln.SealedStore.Crypto
