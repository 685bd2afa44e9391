import LogosRln.Core.Ascii
import LogosRln.RegistryId

/-!
# The registry module's hex codec

Every id, key and tag crosses between the two modules as hex, and each module
codes it by functions of its own.  Both write the same text, accept the same
strings and decode them to the same bytes, and an accepted string is the
encoding of its bytes up to case, prefix and surrounding white space.
-/

namespace LogosRln.Registry.HexCodec

open RegistryId

/-! ## The codec -/

def hexAlphabet : List Char := "0123456789abcdef".toList

def bytesToHex (data : Bytes) : String :=
  String.ofList (data.flatMap fun b : UInt8 =>
    [hexAlphabet.getD (b >>> 4).toNat '0', hexAlphabet.getD (b &&& 0xf).toNat '0'])

/-- `str::strip_prefix`. -/
def stripPrefix (lead : List Char) (text : List Char) : Option (List Char) :=
  if lead.isPrefixOf text then some (text.drop lead.length) else none

/-- Trim whitespace and strip an optional 0x/0X prefix. -/
def stripHexPrefix (text : List Char) : List Char :=
  let trimmed := trim text
  ((stripPrefix ['0', 'x'] trimmed).or (stripPrefix ['0', 'X'] trimmed)).getD trimmed

/-- `chunks_exact(2)`: a byte left over is not a chunk. -/
def chunksExact : Bytes → List (UInt8 × UInt8)
  | hi :: lo :: rest => (hi, lo) :: chunksExact rest
  | _ => []

def decodePair (pair : UInt8 × UInt8) : Option UInt8 := do
  let high ← toDigit pair.1
  let low ← toDigit pair.2
  return (high <<< 4) ||| low

def hexToBytes (hex : String) (expectedLen : Option ℕ) : Option Bytes := do
  let digits := (stripHexPrefix hex.toList).flatMap String.utf8EncodeChar
  if digits.length % 2 ≠ 0 then none
  else
    let out ← (chunksExact digits).mapM decodePair
    match expectedLen with
    | some expected => if out.length ≠ expected then none else some out
    | none => some out

/-! ## Both codecs -/

private theorem hexAlphabet_facts : ∀ i : Fin 256, let b := UInt8.ofNat i
    hexAlphabet.getD (b >>> 4).toNat '0' = hexDigit (b >>> 4) ∧
      hexAlphabet.getD (b &&& 0xf).toNat '0' = hexDigit (b &&& 0xf) := by
  decide +kernel

theorem bytesToHex_eq (data : Bytes) : bytesToHex data = RegistryId.bytesToHex data := by
  unfold bytesToHex RegistryId.bytesToHex
  congr 2
  funext b
  have hdigits := hexAlphabet_facts ⟨b.toNat, b.toNat_lt⟩
  simp only [UInt8.ofNat_toNat] at hdigits
  rw [hdigits.1, hdigits.2]

theorem stripHexPrefix_eq (text : List Char) :
    stripHexPrefix text = RegistryId.stripHexPrefix (trim text) := by
  unfold stripHexPrefix stripPrefix RegistryId.stripHexPrefix
  split
  · next rest heq => simp [heq]
  · next rest heq => simp [heq]
  · next trimmed hlower hupper =>
      rcases htrimmed : trim text with _ | ⟨first, _ | ⟨second, rest⟩⟩
      · simp
      · simp [List.isPrefixOf]
      · by_cases hzero : '0' = first
        · have hx : 'x' ≠ second := fun hx => hlower rest (by rw [htrimmed, hzero, hx])
          have hX : 'X' ≠ second := fun hX => hupper rest (by rw [htrimmed, hzero, hX])
          simp [List.isPrefixOf, hx, hX]
        · simp [List.isPrefixOf, hzero]

theorem mapM_chunksExact (digits : Bytes) :
    (chunksExact digits).mapM decodePair = hexPairs digits := by
  induction digits using hexPairs.induct with
  | case1 hi lo rest ih =>
      simp only [chunksExact, List.mapM_cons, ih, hexPairs, decodePair, bind, Option.bind_assoc]
      simp [pure]
  | case2 digits hshort =>
      rcases digits with _ | ⟨first, _ | ⟨second, rest⟩⟩
      · rfl
      · rfl
      · exact absurd rfl (hshort first second rest)

theorem hexToBytes_none_eq (hex : String) : hexToBytes hex none = hexToVec hex := by
  simp only [hexToBytes, hexToVec, stripHexPrefix_eq, mapM_chunksExact]
  split <;> simp_all

/-! ## What an accepted string spells -/

private theorem toDigit_facts : ∀ i : Fin 256, ∀ digit ∈ toDigit (UInt8.ofNat i),
    digit < 16 ∧ UInt8.ofNat i < 128 ∧ hexDigit digit = (Char.ofNat i).toLower := by
  decide +kernel

theorem hexDigit_of_toDigit {byte digit : UInt8} (hdigit : toDigit byte = some digit) :
    digit < 16 ∧ byte < 128 ∧ hexDigit digit = (Char.ofNat byte.toNat).toLower := by
  simpa using toDigit_facts ⟨byte.toNat, byte.toNat_lt⟩ digit (by simpa using hdigit)

private theorem join_facts : ∀ high low : Fin 16,
    ((UInt8.ofNat high <<< 4) ||| UInt8.ofNat low) >>> 4 = UInt8.ofNat high ∧
      ((UInt8.ofNat high <<< 4) ||| UInt8.ofNat low) &&& 0xf = UInt8.ofNat low := by
  decide +kernel

theorem nibbles_of_join {high low : UInt8} (hhigh : high < 16) (hlow : low < 16) :
    ((high <<< 4) ||| low) >>> 4 = high ∧ ((high <<< 4) ||| low) &&& 0xf = low := by
  simpa using join_facts ⟨high.toNat, hhigh⟩ ⟨low.toNat, hlow⟩

/-- The digits a decoding accepted are the encoding of its bytes, but for case. -/
theorem hexChars_of_hexPairs {digits out : Bytes} (heven : digits.length % 2 = 0)
    (hdecoded : hexPairs digits = some out) :
    (∀ byte ∈ digits, byte < 128) ∧
      (RegistryId.bytesToHex out).toList = digits.map fun byte => (Char.ofNat byte.toNat).toLower := by
  induction digits using hexPairs.induct generalizing out with
  | case1 hi lo rest ih =>
      simp only [hexPairs, bind, Option.bind_eq_some_iff, pure, Option.some.injEq] at hdecoded
      obtain ⟨high, hhigh, low, hlow, tail, htail, rfl⟩ := hdecoded
      have hrest : rest.length % 2 = 0 := by
        simp only [List.length_cons] at heven
        omega
      obtain ⟨hascii, hspelled⟩ := ih hrest htail
      obtain ⟨hhighLt, hhiAscii, hhiChar⟩ := hexDigit_of_toDigit hhigh
      obtain ⟨hlowLt, hloAscii, hloChar⟩ := hexDigit_of_toDigit hlow
      obtain ⟨hjoinHigh, hjoinLow⟩ := nibbles_of_join hhighLt hlowLt
      refine ⟨?_, ?_⟩
      · simpa [hhiAscii, hloAscii] using hascii
      · rw [RegistryId.bytesToHex, String.toList_ofList] at hspelled ⊢
        simp [hspelled, hjoinHigh, hjoinLow, hhiChar, hloChar]
  | case2 digits hshort =>
      rcases digits with _ | ⟨first, _ | ⟨second, rest⟩⟩
      · obtain rfl : out = [] := by simpa [hexPairs] using hdecoded.symm
        exact ⟨by simp, rfl⟩
      · simp at heven
      · exact absurd rfl (hshort first second rest)

/-- Both codecs write the same text, accept the same strings with the same
bytes, and decode every encoding to what was encoded; and they accept only what
is, trimmed, stripped and lowercased, the encoding of the decoded bytes. -/
theorem hex_codecs_agree :
    (∀ data, bytesToHex data = RegistryId.bytesToHex data) ∧
    (∀ hex, hexToVec hex = hexToBytes hex none) ∧
    (∀ data, hexToVec (RegistryId.bytesToHex data) = some data) ∧
    ∀ hex data, hexToVec hex = some data →
      RegistryId.bytesToHex data =
        String.ofList ((RegistryId.stripHexPrefix (trim hex.toList)).map Char.toLower) := by
  refine ⟨bytesToHex_eq, fun hex => (hexToBytes_none_eq hex).symm, hexToVec_bytesToHex, ?_⟩
  intro hex data hdecoded
  simp only [hexToVec] at hdecoded
  split at hdecoded
  · next heven =>
      obtain ⟨hascii, hspelled⟩ := hexChars_of_hexPairs heven hdecoded
      have hchars := Ascii.chars_of_ascii hascii
      apply String.toList_inj.mp
      rw [hspelled, String.toList_ofList]
      conv_rhs => rw [← hchars, List.map_map]
      rfl
  · cases hdecoded

end LogosRln.Registry.HexCodec
