import Mathlib.Data.List.Basic
import Mathlib.Data.List.Infix
import Mathlib.Logic.Function.Basic
import Mathlib.Tactic.Ring

/-!
# Self-delimiting byte encodings

An authenticated payload is a concatenation of fields.  A tag over it binds
the fields, and not merely their concatenation, exactly when no two different
field lists concatenate to one byte string.  An encoder is self-delimiting when
its output can be split off the front of any longer string without being told
where it ends; self-delimiting encoders compose, so a whole payload is read
back field by field.
-/

namespace LogosRln.ByteFraming

variable {A B : Type*}

/-- Whatever follows them, two encodings of admissible values agree only when
the values and what follows agree. -/
def SelfDelimiting (valid : A → Prop) (encode : A → List UInt8) : Prop :=
  ∀ ⦃left right : A⦄ ⦃restLeft restRight : List UInt8⦄, valid left → valid right →
    encode left ++ restLeft = encode right ++ restRight →
      left = right ∧ restLeft = restRight

/-- A fixed-width injective encoding delimits itself. -/
theorem SelfDelimiting.of_length {valid : A → Prop} {encode : A → List UInt8} {width : ℕ}
    (hlength : ∀ value, valid value → (encode value).length = width)
    (hinjective : ∀ left right, valid left → valid right →
      encode left = encode right → left = right) :
    SelfDelimiting valid encode := by
  intro left right restLeft restRight hleft hright heq
  have hwidth : (encode left).length = (encode right).length := by
    rw [hlength left hleft, hlength right hright]
  obtain ⟨hencode, hrest⟩ := List.append_inj heq hwidth
  exact ⟨hinjective left right hleft hright hencode, hrest⟩

/-- Two fields in sequence. -/
theorem SelfDelimiting.pair {validA : A → Prop} {validB : B → Prop}
    {encodeA : A → List UInt8} {encodeB : B → List UInt8}
    (hA : SelfDelimiting validA encodeA) (hB : SelfDelimiting validB encodeB) :
    SelfDelimiting (fun pair : A × B => validA pair.1 ∧ validB pair.2)
      (fun pair => encodeA pair.1 ++ encodeB pair.2) := by
  rintro ⟨leftA, leftB⟩ ⟨rightA, rightB⟩ restLeft restRight hleft hright heq
  simp only [List.append_assoc] at heq
  obtain ⟨hfirst, heq⟩ := hA hleft.1 hright.1 heq
  obtain ⟨hsecond, hrest⟩ := hB hleft.2 hright.2 heq
  exact ⟨Prod.ext hfirst hsecond, hrest⟩

/-- A record is as delimited as the fields it is determined by. -/
theorem SelfDelimiting.comap {valid : B → Prop} {encode : B → List UInt8}
    (hencode : SelfDelimiting valid encode) (fields : A → B)
    (hfields : Function.Injective fields) :
    SelfDelimiting (fun value => valid (fields value)) (fun value => encode (fields value)) := by
  intro left right restLeft restRight hleft hright heq
  obtain ⟨hvalue, hrest⟩ := hencode hleft hright heq
  exact ⟨hfields hvalue, hrest⟩

/-- Equally many fields of one kind, in sequence, whatever follows them. -/
theorem SelfDelimiting.flatMap_append {valid : A → Prop} {encode : A → List UInt8}
    (hencode : SelfDelimiting valid encode) :
    ∀ {left right : List A} {restLeft restRight : List UInt8},
      (∀ value ∈ left, valid value) → (∀ value ∈ right, valid value) →
      left.length = right.length →
      left.flatMap encode ++ restLeft = right.flatMap encode ++ restRight →
        left = right ∧ restLeft = restRight
  | [], [], _, _, _, _, _, heq => ⟨rfl, by simpa using heq⟩
  | first :: left, second :: right, restLeft, restRight, hleft, hright, hlength, heq => by
      simp only [List.flatMap_cons, List.append_assoc] at heq
      obtain ⟨hhead, heq⟩ := hencode (hleft first (by simp)) (hright second (by simp)) heq
      obtain ⟨htail, hrest⟩ := SelfDelimiting.flatMap_append hencode
        (fun value hvalue => hleft value (by simp [hvalue]))
        (fun value hvalue => hright value (by simp [hvalue]))
        (by simpa using hlength) heq
      exact ⟨by rw [hhead, htail], hrest⟩

/-- Equally many fields of one kind are read back from their concatenation. -/
theorem SelfDelimiting.flatMap_inj {valid : A → Prop} {encode : A → List UInt8}
    (hencode : SelfDelimiting valid encode) {left right : List A}
    (hleft : ∀ value ∈ left, valid value) (hright : ∀ value ∈ right, valid value)
    (hlength : left.length = right.length)
    (heq : left.flatMap encode = right.flatMap encode) : left = right := by
  have happend : left.flatMap encode ++ [] = right.flatMap encode ++ [] := by rw [heq]
  exact (hencode.flatMap_append hleft hright hlength happend).1

/-! ## Big-endian integers -/

/-- The low `width` base-256 digits of a number, most significant first. -/
def bigEndian : (width value : ℕ) → List UInt8
  | 0, _ => []
  | width + 1, value => bigEndian width (value / 256) ++ [UInt8.ofNat (value % 256)]

@[simp]
theorem length_bigEndian (width value : ℕ) : (bigEndian width value).length = width := by
  induction width generalizing value with
  | zero => rfl
  | succ width ih => simp [bigEndian, ih]

theorem bigEndian_injective {width left right : ℕ} (hleft : left < 256 ^ width)
    (hright : right < 256 ^ width) (heq : bigEndian width left = bigEndian width right) :
    left = right := by
  induction width generalizing left right with
  | zero => simp_all
  | succ width ih =>
      simp only [bigEndian] at heq
      obtain ⟨hhigh, hlow⟩ := List.append_inj' heq rfl
      have hquotient : left / 256 = right / 256 := by
        refine ih ?_ ?_ hhigh <;>
          rw [Nat.div_lt_iff_lt_mul (by norm_num)] <;> rwa [pow_succ] at *
      have hdigit : left % 256 = right % 256 := by
        have htoNat := congrArg UInt8.toNat (List.singleton_inj.mp hlow)
        simpa [UInt8.toNat_ofNat'] using htoNat
      calc left = 256 * (left / 256) + left % 256 := (Nat.div_add_mod left 256).symm
        _ = 256 * (right / 256) + right % 256 := by rw [hquotient, hdigit]
        _ = right := Nat.div_add_mod right 256

/-- Only the low bytes are written. -/
theorem bigEndian_mod (width value : ℕ) :
    bigEndian width (value % 256 ^ width) = bigEndian width value := by
  induction width generalizing value with
  | zero => rfl
  | succ width ih =>
      have hhigh : value % 256 ^ (width + 1) / 256 = value / 256 % 256 ^ width := by
        rw [pow_succ', Nat.mod_mul_right_div_self]
      have hlow : value % 256 ^ (width + 1) % 256 = value % 256 := by
        rw [pow_succ', Nat.mod_mul_right_mod]
      rw [bigEndian, bigEndian, hhigh, hlow, ih]
/-- Numbers that fit the width are delimited by it. -/
theorem selfDelimiting_bigEndian (width : ℕ) :
    SelfDelimiting (fun value => value < 256 ^ width) (bigEndian width) :=
  .of_length (fun value _ => length_bigEndian width value)
    fun _ _ hleft hright => bigEndian_injective hleft hright

/-! ## Little-endian integers -/

/-- The low `width` base-256 digits of a number, least significant first. -/
def littleEndian : (width value : ℕ) → List UInt8
  | 0, _ => []
  | width + 1, value => UInt8.ofNat (value % 256) :: littleEndian width (value / 256)

/-- The number whose digits these are. -/
def ofLittleEndian : List UInt8 → ℕ
  | [] => 0
  | digit :: digits => digit.toNat + 256 * ofLittleEndian digits

@[simp]
theorem length_littleEndian (width value : ℕ) : (littleEndian width value).length = width := by
  induction width generalizing value with
  | zero => rfl
  | succ width ih => simp [littleEndian, ih]

/-- A number that fits the width is read back. -/
theorem ofLittleEndian_littleEndian {width value : ℕ} (hvalue : value < 256 ^ width) :
    ofLittleEndian (littleEndian width value) = value := by
  induction width generalizing value with
  | zero => simp_all [ofLittleEndian, littleEndian]
  | succ width ih =>
      have hhigh : value / 256 < 256 ^ width := by
        rw [Nat.div_lt_iff_lt_mul (by norm_num)]
        rwa [pow_succ] at hvalue
      have hlow : (UInt8.ofNat (value % 256)).toNat = value % 256 := by
        simp [UInt8.toNat_ofNat']
      rw [littleEndian, ofLittleEndian, ih hhigh, hlow]
      exact Nat.mod_add_div value 256

/-! ## Length prefixes -/

/-- Bytes behind their length, the length itself cut to `width` digits. -/
def lengthPrefixed (width : ℕ) (bytes : List UInt8) : List UInt8 :=
  bigEndian width bytes.length ++ bytes

@[simp]
theorem length_lengthPrefixed (width : ℕ) (bytes : List UInt8) :
    (lengthPrefixed width bytes).length = width + bytes.length := by
  simp [lengthPrefixed]

/-- A prefix wide enough for the length delimits the bytes behind it. -/
theorem selfDelimiting_lengthPrefixed (width : ℕ) :
    SelfDelimiting (fun bytes => bytes.length < 256 ^ width) (lengthPrefixed width) := by
  intro left right restLeft restRight hleft hright heq
  simp only [lengthPrefixed, List.append_assoc] at heq
  obtain ⟨hlength, heq⟩ := selfDelimiting_bigEndian width hleft hright heq
  exact List.append_inj heq hlength

end LogosRln.ByteFraming
