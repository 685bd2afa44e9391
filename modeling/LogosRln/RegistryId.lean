import Mathlib.Data.Vector.Basic

/-!
# Registry identifiers and hex

CAIP-10 registry identifiers in their canonical form, the crate's one hex
encoder and decoder, and the membership hash that keys the keystore.
-/

namespace LogosRln.RegistryId

abbrev Bytes := List UInt8
abbrev Bytes16 := List.Vector UInt8 16
abbrev Bytes24 := List.Vector UInt8 24
abbrev Bytes32 := List.Vector UInt8 32

/-- `str::as_bytes`. -/
def utf8 (text : String) : Bytes :=
  text.toList.flatMap String.utf8EncodeChar

theorem utf8_injective : Function.Injective utf8 := by
  intro left right heq
  have hbytes : left.toList.utf8Encode = right.toList.utf8Encode :=
    congrArg List.toByteArray heq
  rw [← String.toByteArray_ofList, ← String.toByteArray_ofList, String.ofList_toList,
    String.ofList_toList] at hbytes
  exact String.toByteArray_inj.mp hbytes

/-- The Unicode `White_Space` characters, which `str::trim` removes. -/
def isWhitespace (c : Char) : Bool :=
  let n := c.toNat
  (9 ≤ n && n ≤ 13) || n == 32 || n == 0x85 || n == 0xA0 || n == 0x1680 ||
    (0x2000 ≤ n && n ≤ 0x200A) || n == 0x2028 || n == 0x2029 || n == 0x202F ||
    n == 0x205F || n == 0x3000

/-- `str::trim`. -/
def trim (text : List Char) : List Char :=
  ((text.dropWhile isWhitespace).reverse.dropWhile isWhitespace).reverse

/-! ## Hex -/

def hexDigit (nibble : UInt8) : Char :=
  if nibble < 10 then Char.ofNat (48 + nibble.toNat) else Char.ofNat (87 + nibble.toNat)

def bytesToHex (data : Bytes) : String :=
  String.ofList (data.flatMap fun b : UInt8 => [hexDigit (b >>> 4), hexDigit (b &&& 0xf)])

/-- `char::to_digit(16)` of one byte read as a character. -/
def toDigit (b : UInt8) : Option UInt8 :=
  if 48 ≤ b ∧ b ≤ 57 then some (b - 48)
  else if 97 ≤ b ∧ b ≤ 102 then some (b - 87)
  else if 65 ≤ b ∧ b ≤ 70 then some (b - 55)
  else none

def stripHexPrefix : List Char → List Char
  | '0' :: 'x' :: rest => rest
  | '0' :: 'X' :: rest => rest
  | text => text

/-- The decoding loop over byte pairs; the caller has checked that the length
is even. -/
def hexPairs : Bytes → Option Bytes
  | hi :: lo :: rest => do
      let high ← toDigit hi
      let low ← toDigit lo
      let tail ← hexPairs rest
      return ((high <<< 4) ||| low) :: tail
  | _ => some []

def hexToVec (hex : String) : Option Bytes :=
  let bytes := (stripHexPrefix (trim hex.toList)).flatMap String.utf8EncodeChar
  if bytes.length % 2 = 0 then hexPairs bytes else none

def toArray (length : ℕ) (data : Bytes) : Option (List.Vector UInt8 length) :=
  if hlength : data.length = length then some ⟨data, hlength⟩ else none

def hexToBytes32 (hex : String) : Option Bytes32 :=
  (hexToVec hex).bind (toArray 32)

/-! ### Decoding what was encoded -/

private theorem hexDigit_facts : ∀ i : Fin 16, let nibble := UInt8.ofNat i
    isWhitespace (hexDigit nibble) = false ∧ hexDigit nibble ≠ 'x' ∧ hexDigit nibble ≠ 'X' ∧
      ∃ byte, String.utf8EncodeChar (hexDigit nibble) = [byte] ∧ toDigit byte = some nibble := by
  intro i
  refine ⟨?_, ?_, ?_, UInt8.ofNat (hexDigit (UInt8.ofNat i)).toNat, ?_, ?_⟩ <;>
    revert i <;> decide

private theorem nibbles_of_byte : ∀ i : Fin 256, let b := UInt8.ofNat i
    (b >>> 4).toNat < 16 ∧ (b &&& 0xf).toNat < 16 ∧ ((b >>> 4) <<< 4) ||| (b &&& 0xf) = b := by
  decide +kernel

/-- Both hex digits of a byte: plain characters, never part of a prefix, one
UTF-8 byte each, and decoding back to the byte. -/
private theorem hexDigits_of_byte (b : UInt8) : ∃ hi lo : Char, ∃ hiByte loByte high low : UInt8,
    hexDigit (b >>> 4) = hi ∧ hexDigit (b &&& 0xf) = lo ∧
      isWhitespace hi = false ∧ isWhitespace lo = false ∧ lo ≠ 'x' ∧ lo ≠ 'X' ∧
      String.utf8EncodeChar hi = [hiByte] ∧ String.utf8EncodeChar lo = [loByte] ∧
      toDigit hiByte = some high ∧ toDigit loByte = some low ∧ (high <<< 4) ||| low = b := by
  have hb := nibbles_of_byte ⟨b.toNat, b.toNat_lt⟩
  simp only [UInt8.ofNat_toNat] at hb
  obtain ⟨hhigh, hlow, hjoin⟩ := hb
  have hhi := hexDigit_facts ⟨_, hhigh⟩
  have hlo := hexDigit_facts ⟨_, hlow⟩
  simp only [UInt8.ofNat_toNat] at hhi hlo
  obtain ⟨hhiSpace, -, -, hiByte, hhiByte, hhiDigit⟩ := hhi
  obtain ⟨hloSpace, hloLower, hloUpper, loByte, hloByte, hloDigit⟩ := hlo
  exact ⟨_, _, hiByte, loByte, _, _, rfl, rfl, hhiSpace, hloSpace, hloLower, hloUpper,
    hhiByte, hloByte, hhiDigit, hloDigit, hjoin⟩

private def hexChars (data : Bytes) : List Char :=
  data.flatMap fun b : UInt8 => [hexDigit (b >>> 4), hexDigit (b &&& 0xf)]

private theorem isWhitespace_hexChars (data : Bytes) :
    ∀ c ∈ hexChars data, isWhitespace c = false := by
  intro c hc
  obtain ⟨b, -, hc⟩ := List.mem_flatMap.mp hc
  obtain ⟨hi, lo, _, _, _, _, hhi, hlo, hhiSpace, hloSpace, -⟩ := hexDigits_of_byte b
  rw [hhi, hlo] at hc
  rcases List.mem_pair.mp hc with rfl | rfl
  · exact hhiSpace
  · exact hloSpace

private theorem dropWhile_isWhitespace {text : List Char}
    (htext : ∀ c ∈ text, isWhitespace c = false) : text.dropWhile isWhitespace = text := by
  cases text with
  | nil => rfl
  | cons c text => simp [htext c (by simp)]

/-- Text without white space is its own trimming. -/
theorem trim_of_forall_not_whitespace {text : List Char}
    (htext : ∀ c ∈ text, isWhitespace c = false) : trim text = text := by
  rw [trim, dropWhile_isWhitespace htext, dropWhile_isWhitespace (by simpa using htext),
    List.reverse_reverse]

private theorem stripHexPrefix_hexChars (data : Bytes) :
    stripHexPrefix (hexChars data) = hexChars data := by
  cases data with
  | nil => rfl
  | cons b data =>
      obtain ⟨hi, lo, _, _, _, _, hhi, hlo, -, -, hx, hX, -⟩ := hexDigits_of_byte b
      simp only [hexChars, List.flatMap_cons, hhi, hlo, List.cons_append]
      unfold stripHexPrefix
      split <;> simp_all

private theorem hexPairs_hexChars (data : Bytes) :
    hexPairs ((hexChars data).flatMap String.utf8EncodeChar) = some data := by
  induction data with
  | nil => rfl
  | cons b data ih =>
      obtain ⟨hi, lo, hiByte, loByte, high, low, hhi, hlo, -, -, -, -, hhiByte, hloByte, hhiDigit,
        hloDigit, hjoin⟩ := hexDigits_of_byte b
      rw [hexChars] at ih ⊢
      simp [hhi, hlo, hhiByte, hloByte, hexPairs, hhiDigit, hloDigit, ih, hjoin]

private theorem length_hexChars (data : Bytes) :
    ((hexChars data).flatMap String.utf8EncodeChar).length = 2 * data.length := by
  induction data with
  | nil => rfl
  | cons b data ih =>
      obtain ⟨hi, lo, hiByte, loByte, _, _, hhi, hlo, -, -, -, -, hhiByte, hloByte, -⟩ :=
        hexDigits_of_byte b
      rw [hexChars] at ih ⊢
      simp [hhi, hlo, hhiByte, hloByte, ih]
      omega

/-- Two characters a byte, one byte each. -/
theorem length_utf8_bytesToHex (data : Bytes) :
    (utf8 (bytesToHex data)).length = 2 * data.length := by
  have hlist : (bytesToHex data).toList = hexChars data := String.toList_ofList
  rw [utf8, hlist, length_hexChars]

/-- Every byte string decodes from its encoding. -/
@[simp]
theorem hexToVec_bytesToHex (data : Bytes) : hexToVec (bytesToHex data) = some data := by
  have htrim : trim (hexChars data) = hexChars data :=
    trim_of_forall_not_whitespace (isWhitespace_hexChars data)
  have hlist : (bytesToHex data).toList = hexChars data := String.toList_ofList
  rw [hexToVec, hlist, htrim, stripHexPrefix_hexChars, length_hexChars, hexPairs_hexChars]
  simp

@[simp]
theorem toArray_toList {length : ℕ} (data : List.Vector UInt8 length) :
    toArray length data.toList = some data := by
  simp only [toArray, List.Vector.toList_length, dite_true]
  rfl

@[simp]
theorem hexToBytes32_bytesToHex (data : Bytes32) :
    hexToBytes32 (bytesToHex data.toList) = some data := by
  simp [hexToBytes32]

/-- A string of 32 decoded bytes decodes as those bytes. -/
theorem hexToVec_of_hexToBytes32 {hex : String} {data : Bytes32}
    (hhex : hexToBytes32 hex = some data) : hexToVec hex = some data.toList := by
  obtain ⟨bytes, hbytes, harray⟩ := Option.bind_eq_some_iff.mp hhex
  simp only [toArray] at harray
  split at harray
  · cases harray
    exact hbytes
  · cases harray

/-! ## Canonical identifiers -/

/-- A parsed, canonicalized CAIP-10 account id.  `registryNamespace` is the
source's `namespace`. -/
structure CanonicalRegistryId where
  registryNamespace : String
  reference : String
  account : String
  canonical : String
  deriving DecidableEq

def isNamespaceByte (b : UInt8) : Bool :=
  (97 ≤ b && b ≤ 122) || (48 ≤ b && b ≤ 57) || b == 45

def isAsciiAlphanumeric (b : UInt8) : Bool :=
  (97 ≤ b && b ≤ 122) || (65 ≤ b && b ≤ 90) || (48 ≤ b && b ≤ 57)

def isReferenceByte (b : UInt8) : Bool :=
  isAsciiAlphanumeric b || b == 45 || b == 95

def isAccountByte (b : UInt8) : Bool :=
  isAsciiAlphanumeric b || b == 45 || b == 46 || b == 37

/-- The account segment: 32 bytes of hex under `logos`, CAIP-10 syntax kept
verbatim under any other namespace. -/
def parseAccount (registryNamespace accountRaw : String) : Except String String :=
  if registryNamespace = "logos" then
    match hexToBytes32 accountRaw with
    | some bytes => .ok (bytesToHex bytes.toList)
    | none => .error "logos account_address must be the 64-hex config account (0x prefix ok)"
  else if accountRaw.isEmpty ∨ (utf8 accountRaw).length > 128 ∨
      ¬ (utf8 accountRaw).all isAccountByte then
    .error "account_address must match [-.%a-zA-Z0-9]\x7b1,128\x7d"
  else .ok accountRaw

def parse (raw : String) : Except String CanonicalRegistryId :=
  match ((trim raw.toList).splitOn ':').map String.ofList with
  | [registryNamespace, reference, accountRaw] =>
      if (utf8 registryNamespace).length < 3 ∨ (utf8 registryNamespace).length > 8 ∨
          ¬ (utf8 registryNamespace).all isNamespaceByte then
        .error "chain namespace must match [-a-z0-9]\x7b3,8\x7d"
      else if reference.isEmpty ∨ (utf8 reference).length > 32 ∨
          ¬ (utf8 reference).all isReferenceByte then
        .error "chain reference must match [-_a-zA-Z0-9]\x7b1,32\x7d"
      else
        -- Only the logos binding pins the reference to lowercase.
        let reference :=
          if registryNamespace = "logos" then
            String.ofList (reference.toList.map Char.toLower)
          else reference
        (parseAccount registryNamespace accountRaw).map fun account =>
          { registryNamespace, reference, account
            canonical := registryNamespace ++ ":" ++ reference ++ ":" ++ account }
  | parts =>
      .error s!"registry_id must be namespace:reference:account_address (CAIP-10), got {parts.length} segment(s)"

/-- `lowercase_hex(SHA256(utf8(registry_id) || 0x00 || identity_commitment))`. -/
def membershipHash (sha256 : Bytes → Bytes32) (canonicalRegistryId : String)
    (identityCommitmentLe : Bytes32) : String :=
  bytesToHex (sha256 (utf8 canonicalRegistryId ++ [0] ++ identityCommitmentLe.toList)).toList

end LogosRln.RegistryId
