import LogosRln.Core.Positional
import LogosRln.RateLimit
import LogosRln.RegistryId

/-!
# The register preflight

What the registration program would refuse is refused before a transaction is
signed.  The commitment is compared with the field's modulus byte by byte, and
the rate limits are added with saturation, which is exact below the largest
64-bit total.
-/

namespace LogosRln.Registry

open RegistryId RateLimit Positional

/-! ## The checks -/

/-- The BN254 scalar field modulus, big-endian. -/
def bn254RBe : Bytes :=
  [0x30, 0x64, 0x4e, 0x72, 0xe1, 0x31, 0xa0, 0x29, 0xb8, 0x50, 0x45, 0xb6, 0x81, 0x81, 0x58, 0x5d,
    0x28, 0x33, 0xe8, 0x48, 0x79, 0xb9, 0x70, 0x91, 0x43, 0xe1, 0xf5, 0x93, 0xf0, 0x00, 0x00, 0x01]

/-- Whether 32 little-endian bytes are a BN254 field element. -/
def isFieldElementLe (bytes : Bytes32) : Bool :=
  bytes.toList.reverse < bn254RBe

def configOffsetMaxTotalRateLimit : ℕ := 120
def configOffsetCurrentTotalRateLimit : ℕ := 128

/-- `from_le_bytes` of eight bytes of the config; callers have checked its size. -/
def configFieldU64 (configData : Bytes) (offset : ℕ) : UInt64 :=
  UInt64.ofNat (Nat.ofDigits 256 (((configData.drop offset).take 8).map UInt8.toNat))

def zeroCommitment : Bytes32 := List.Vector.replicate 32 0

/-- The limits of the layout crate. -/
structure RegisterLimits where
  minRateLimit : UInt64
  maxRateLimit : UInt64
  treeDepth : ℕ

def checkRegister (limits : RegisterLimits) (configData : Bytes) (nextIndex : UInt64)
    (idCommitment : Bytes32) (rateLimit : UInt64) : Except String Unit :=
  let current := configFieldU64 configData configOffsetCurrentTotalRateLimit
  let maxTotal := configFieldU64 configData configOffsetMaxTotalRateLimit
  if idCommitment = zeroCommitment then
    .error "invalid_commitment: the identity commitment is zero"
  else if !isFieldElementLe idCommitment then
    .error "invalid_commitment: the identity commitment is not a BN254 field element (as little-endian bytes it is >= the modulus)"
  else if !(limits.minRateLimit ≤ rateLimit && rateLimit ≤ limits.maxRateLimit) then
    .error s!"invalid_rate_limit: {rateLimit} is outside the registry's {limits.minRateLimit}..={limits.maxRateLimit}"
  else if saturatingAdd current rateLimit > maxTotal then
    .error s!"registry_full: {current} of {maxTotal} total rate limit is taken, {rateLimit} more does not fit"
  else if 2 ^ limits.treeDepth ≤ nextIndex.toNat then
    .error s!"tree_full: all {2 ^ limits.treeDepth} leaves are taken"
  else .ok ()

/-! ## The commitment as an integer -/

def bn254Modulus : ℕ :=
  21888242871839275222246405745257275088548364400416034343698204186575808495617

/-- The commitment read little-endian. -/
def commitmentNumber (idCommitment : Bytes32) : ℕ :=
  Nat.ofDigits 256 (idCommitment.toList.map UInt8.toNat)

theorem value_bn254RBe : value 256 (bn254RBe.map UInt8.toNat) = bn254Modulus := by
  decide +kernel

/-- The byte-reversed comparison is the comparison of the integers. -/
theorem isFieldElementLe_iff (idCommitment : Bytes32) :
    isFieldElementLe idCommitment = true ↔ commitmentNumber idCommitment < bn254Modulus := by
  have horder := @lt_iff_value_lt 256 UInt8 _ _ UInt8.toNat (by norm_num)
    (fun first second => UInt8.lt_iff_toNat_lt) (fun first second heq => UInt8.toNat_inj.mp heq)
    UInt8.toNat_lt idCommitment.toList.reverse bn254RBe (by simp [bn254RBe])
  rw [value_bn254RBe, value, ← List.map_reverse, List.reverse_reverse] at horder
  rw [isFieldElementLe, decide_eq_true_iff, horder]
  rfl

theorem commitmentNumber_eq_zero_iff (idCommitment : Bytes32) :
    commitmentNumber idCommitment = 0 ↔ idCommitment = zeroCommitment := by
  have hzero : commitmentNumber (zeroCommitment) = 0 := by decide
  constructor
  · intro hnumber
    apply List.Vector.eq
    apply List.map_injective_iff.mpr (fun first second hbyte => UInt8.toNat_inj.mp hbyte)
    have hlt : ∀ bytes : Bytes32, ∀ digit ∈ bytes.toList.map UInt8.toNat, digit < 256 := by
      intro bytes digit hdigit
      obtain ⟨byte, -, rfl⟩ := List.mem_map.mp hdigit
      exact byte.toNat_lt
    exact Nat.ofDigits_inj_of_len_eq (by norm_num) (by simp) (hlt _) (hlt _)
      (hnumber.trans hzero.symm)
  · rintro rfl
    exact hzero

/-! ## Exactness -/

section Preflight

variable (limits : RegisterLimits) (configData : Bytes) (nextIndex : UInt64)
  (idCommitment : Bytes32) (rateLimit : UInt64)

/-- What the registration program admits. -/
def Registrable : Prop :=
  (0 < commitmentNumber idCommitment ∧ commitmentNumber idCommitment < bn254Modulus) ∧
    (limits.minRateLimit ≤ rateLimit ∧ rateLimit ≤ limits.maxRateLimit) ∧
    (configFieldU64 configData configOffsetCurrentTotalRateLimit).toNat + rateLimit.toNat ≤
      (configFieldU64 configData configOffsetMaxTotalRateLimit).toNat ∧
    nextIndex.toNat < 2 ^ limits.treeDepth

/-- The sum of an otherwise admissible registration does not saturate against
the largest total. -/
def Unsaturated : Prop :=
  isFieldElementLe idCommitment = true → idCommitment ≠ zeroCommitment →
    limits.minRateLimit ≤ rateLimit → rateLimit ≤ limits.maxRateLimit →
    nextIndex.toNat < 2 ^ limits.treeDepth →
    (configFieldU64 configData configOffsetMaxTotalRateLimit).toNat = 2 ^ 64 - 1 →
      (configFieldU64 configData configOffsetCurrentTotalRateLimit).toNat + rateLimit.toNat < 2 ^ 64

/-- The saturated sum passes exactly where the sum fits, or where it overflows
and the total is the largest one. -/
theorem saturatingAdd_le_iff (current rate maxTotal : UInt64) :
    ¬ saturatingAdd current rate > maxTotal ↔
      current.toNat + rate.toNat ≤ maxTotal.toNat ∨
        maxTotal.toNat = 2 ^ 64 - 1 ∧ 2 ^ 64 ≤ current.toNat + rate.toNat := by
  have hcurrent := current.toNat_lt
  have hrate := rate.toNat_lt
  have hmax := maxTotal.toNat_lt
  have hadd := UInt64.toNat_add current rate
  unfold saturatingAdd
  split
  · next hno =>
      rw [UInt64.le_iff_toNat_le] at hno
      rw [gt_iff_lt, UInt64.lt_iff_toNat_lt]
      omega
  · next hover =>
      rw [UInt64.le_iff_toNat_le] at hover
      rw [gt_iff_lt, UInt64.lt_iff_toNat_lt]
      have hlargest : (UInt64.ofNat (UInt64.size - 1)).toNat = 2 ^ 64 - 1 := by decide
      rw [hlargest]
      omega

theorem checkRegister_eq_ok_iff :
    checkRegister limits configData nextIndex idCommitment rateLimit = .ok () ↔
      idCommitment ≠ zeroCommitment ∧ isFieldElementLe idCommitment = true ∧
      (limits.minRateLimit ≤ rateLimit ∧ rateLimit ≤ limits.maxRateLimit) ∧
      ¬ saturatingAdd (configFieldU64 configData configOffsetCurrentTotalRateLimit) rateLimit >
        configFieldU64 configData configOffsetMaxTotalRateLimit ∧
      nextIndex.toNat < 2 ^ limits.treeDepth := by
  unfold checkRegister
  by_cases hzero : idCommitment = zeroCommitment
  · simp [hzero]
  by_cases hfield : isFieldElementLe idCommitment = true
  swap
  · simp [hzero, hfield]
  by_cases hrate : limits.minRateLimit ≤ rateLimit ∧ rateLimit ≤ limits.maxRateLimit
  swap
  · simp only [hrate, false_and, and_false, iff_false]
    have hrefused : (!(decide (limits.minRateLimit ≤ rateLimit) &&
        decide (rateLimit ≤ limits.maxRateLimit))) = true := by
      rw [← Bool.decide_and, decide_eq_false hrate]
      rfl
    rw [if_neg hzero, if_neg (by simp [hfield]), if_pos hrefused]
    simp
  by_cases hsum : saturatingAdd (configFieldU64 configData configOffsetCurrentTotalRateLimit)
      rateLimit > configFieldU64 configData configOffsetMaxTotalRateLimit
  · simp only [hsum, not_true_eq_false, false_and, and_false, iff_false]
    rw [if_neg hzero, if_neg (by simp [hfield]), if_neg (by simp [hrate]), if_pos trivial]
    simp
  rw [if_neg hzero, if_neg (by simp [hfield]), if_neg (by simp [hrate]), if_neg hsum]
  by_cases hindex : 2 ^ limits.treeDepth ≤ nextIndex.toNat
  · simp [hindex]
  · simp only [hindex, if_false, hzero, ne_eq, not_false_eq_true, hfield, hrate, hsum, true_and,
      true_iff]
    omega

/-- The preflight is exact on exactly the registrations whose sum does not
saturate against the largest total. -/
theorem checkRegister_exact_iff :
    (checkRegister limits configData nextIndex idCommitment rateLimit = .ok () ↔
      Registrable limits configData nextIndex idCommitment rateLimit) ↔
    Unsaturated limits configData nextIndex idCommitment rateLimit := by
  have hpositive : 0 < commitmentNumber idCommitment ↔ idCommitment ≠ zeroCommitment := by
    rw [Nat.pos_iff_ne_zero, ne_eq, commitmentNumber_eq_zero_iff]
  rw [checkRegister_eq_ok_iff, saturatingAdd_le_iff, Registrable, Unsaturated,
    ← isFieldElementLe_iff, hpositive]
  have hmax := (configFieldU64 configData configOffsetMaxTotalRateLimit).toNat_lt
  constructor
  · intro hexact hfield hnonzero hmin hmaxRate hindex hlargest
    by_contra hover
    obtain ⟨-, -, hsum, -⟩ := hexact.mp
      ⟨hnonzero, hfield, ⟨hmin, hmaxRate⟩, .inr ⟨hlargest, not_lt.mp hover⟩, hindex⟩
    omega
  · intro hunsaturated
    constructor
    · rintro ⟨hnonzero, hfield, hrate, hsum | ⟨hlargest, hover⟩, hindex⟩
      · exact ⟨⟨hnonzero, hfield⟩, hrate, hsum, hindex⟩
      · exact absurd hover
          (not_le.mpr (hunsaturated hfield hnonzero hrate.1 hrate.2 hindex hlargest))
    · rintro ⟨⟨hnonzero, hfield⟩, hrate, hsum, hindex⟩
      exact ⟨hnonzero, hfield, hrate, .inl hsum, hindex⟩

end Preflight

/-- A config without a cap: the largest total, all of it taken. -/
def uncappedConfig : Bytes :=
  List.replicate 120 0 ++ List.replicate 16 255 ++ List.replicate 8 0

/-- Nothing is left of the largest total, and a registration still passes. -/
theorem saturated_registration_accepted :
    checkRegister ⟨20, 600, 10⟩ uncappedConfig 0 (List.Vector.replicate 32 1) 20 = .ok () ∧
      ¬ Registrable ⟨20, 600, 10⟩ uncappedConfig 0 (List.Vector.replicate 32 1) 20 := by
  have hsum : ¬ ((configFieldU64 uncappedConfig configOffsetCurrentTotalRateLimit).toNat +
      (20 : UInt64).toNat ≤ (configFieldU64 uncappedConfig configOffsetMaxTotalRateLimit).toNat) := by
    decide +kernel
  refine ⟨by decide +kernel, fun hregistrable => hsum hregistrable.2.2.1⟩

end LogosRln.Registry
