import LogosRln.Core.Positional
import LogosRln.RegistryId

/-!
# Base58 account ids

The decoder behind every account id that is spelled in base58.  Its number is
right, but it fits the number to 32 bytes: a short string is padded and surplus
leading ones are dropped, so it agrees with standard base58 exactly on the
strings whose leading ones and significant bytes already number 32.
-/

namespace LogosRln.Registry.Base58

open RegistryId Positional

/-! ## The decoder -/

def alphabet : List Char :=
  "123456789ABCDEFGHJKLMNPQRSTUVWXYZabcdefghijkmnopqrstuvwxyz".toList

/-- `ALPHABET.iter().position(…)`. -/
def position (c : Char) : Option ℕ :=
  alphabet.findIdx? (· == c)

/-- `while carry > 0` over the four bytes of a `u32`. -/
def pushCarry : (bytes carry : ℕ) → Bytes
  | 0, _ => []
  | bytes + 1, carry =>
      if carry = 0 then [] else UInt8.ofNat (carry % 256) :: pushCarry bytes (carry / 256)

/-- One digit into the little-endian accumulator: every byte times 58 plus the
carry, which starts as the digit. -/
def mulAdd : (carry : ℕ) → Bytes → Bytes
  | carry, [] => pushCarry 4 carry
  | carry, byte :: bytes =>
      let carry := carry + byte.toNat * 58
      UInt8.ofNat (carry % 256) :: mulAdd (carry / 256) bytes

def accumulate (input : List Char) : Option Bytes :=
  input.foldlM (fun bytes c => (position c).map fun digit => mulAdd digit bytes) [0]

def leadingOnes (input : List Char) : ℕ :=
  (input.takeWhile (· == '1')).length

/-- The popping loop, on the bytes most significant first. -/
def popZeros : Bytes → Bytes
  | 0 :: rest => if 32 < rest.length + 1 then popZeros rest else 0 :: rest
  | bytes => bytes

def decode32 (input : String) : Option Bytes32 := do
  let bytes ← accumulate input.toList
  let bytes := popZeros (bytes ++ List.replicate (leadingOnes input.toList) 0).reverse
  if 32 < bytes.length then none
  else toArray 32 (List.replicate (32 - bytes.length) 0 ++ bytes)

/-! ## Standard base58 -/

def digits (input : String) : Option (List ℕ) :=
  input.toList.mapM position

/-- Leading ones are leading zero bytes; the rest is one number. -/
def standardDecode (input : String) : Option Bytes :=
  (digits input).map fun digits =>
    (List.replicate (leadingZeros digits) 0 ++ significant 256 (value 58 digits)).map UInt8.ofNat

def standardEncode (bytes : Bytes) : String :=
  let numeral := bytes.map UInt8.toNat
  String.ofList
    ((List.replicate (leadingZeros numeral) 0 ++ significant 58 (value 256 numeral)).map
      fun digit => alphabet.getD digit '1')

/-! ## The accumulator -/

/-- The number the little-endian bytes name. -/
def number (bytes : Bytes) : ℕ :=
  Nat.ofDigits 256 (bytes.map UInt8.toNat)

@[simp]
theorem number_nil : number [] = 0 := rfl

@[simp]
theorem number_cons (byte : UInt8) (bytes : Bytes) :
    number (byte :: bytes) = byte.toNat + 256 * number bytes := by
  simp [number, Nat.ofDigits_cons]

theorem number_pushCarry {width carry : ℕ} (hcarry : carry < 256 ^ width) :
    number (pushCarry width carry) = carry := by
  induction width generalizing carry with
  | zero => simp_all [pushCarry]
  | succ width ih =>
      by_cases hzero : carry = 0
      · simp [pushCarry, hzero]
      · have hrest : carry / 256 < 256 ^ width := by
          rw [Nat.div_lt_iff_lt_mul (by norm_num)]
          rwa [pow_succ] at hcarry
        rw [pushCarry, if_neg hzero, number_cons, ih hrest]
        simp [UInt8.toNat_ofNat', Nat.mod_add_div]

/-- A digit makes the number 58 times as large, plus the digit. -/
theorem number_mulAdd {carry : ℕ} (hcarry : carry < 58) (bytes : Bytes) :
    number (mulAdd carry bytes) = 58 * number bytes + carry := by
  induction bytes generalizing carry with
  | nil => simp [mulAdd, number_pushCarry (show carry < 256 ^ 4 by norm_num; omega)]
  | cons byte bytes ih =>
      have hbyte := byte.toNat_lt
      have hnext : (carry + byte.toNat * 58) / 256 < 58 := by omega
      rw [mulAdd, number_cons, ih hnext, number_cons, UInt8.toNat_ofNat']
      omega

theorem position_lt {c : Char} {digit : ℕ} (hdigit : position c = some digit) : digit < 58 := by
  have hlength : alphabet.length = 58 := by decide
  have hlt := (List.findIdx?_eq_some_iff_getElem.mp hdigit).1
  omega

theorem position_of_mapM {text : List Char} {ds : List ℕ} (hdigits : text.mapM position = some ds) :
    text.map position = ds.map some := by
  induction text generalizing ds with
  | nil => simp_all
  | cons c text ih =>
      simp only [List.mapM_cons, bind, Option.bind_eq_some_iff, pure, Option.some.injEq] at hdigits
      obtain ⟨digit, hdigit, rest, hrest, rfl⟩ := hdigits
      rw [List.map_cons, List.map_cons, hdigit, ih hrest]

theorem digits_lt {input : String} {ds : List ℕ} (hdigits : digits input = some ds) :
    ∀ digit ∈ ds, digit < 58 := by
  intro digit hdigit
  have hmember : some digit ∈ ds.map some := List.mem_map_of_mem hdigit
  rw [← position_of_mapM hdigits] at hmember
  obtain ⟨c, -, hc⟩ := List.mem_map.mp hmember
  exact position_lt hc

theorem accumulate_eq (text : List Char) (bytes : Bytes) :
    text.foldlM (fun bytes c => (position c).map fun digit => mulAdd digit bytes) bytes =
      (text.mapM position).map fun ds => ds.foldl (fun bytes digit => mulAdd digit bytes) bytes := by
  induction text generalizing bytes with
  | nil => rfl
  | cons c text ih =>
      rw [List.foldlM_cons, List.mapM_cons]
      cases position c with
      | none => rfl
      | some digit =>
          simp only [Option.map_some, bind, Option.bind_some, ih]
          cases text.mapM position with
          | none => rfl
          | some ds => rfl

theorem number_foldl {ds : List ℕ} (hdigits : ∀ digit ∈ ds, digit < 58) (bytes : Bytes) :
    number (ds.foldl (fun bytes digit => mulAdd digit bytes) bytes) =
      number bytes * 58 ^ ds.length + value 58 ds := by
  induction ds generalizing bytes with
  | nil => simp
  | cons digit ds ih =>
      rw [List.foldl_cons, ih fun other hother => hdigits other (List.mem_cons_of_mem _ hother),
        number_mulAdd (hdigits digit List.mem_cons_self),
        show digit :: ds = [digit] ++ ds from rfl, value_append]
      simp only [List.length_append, List.length_singleton, value, List.reverse_singleton,
        Nat.ofDigits_singleton]
      ring

/-- The accumulator holds the number the digits name. -/
theorem accumulate_eq_some_iff {input : String} {bytes : Bytes}
    (haccumulated : accumulate input.toList = some bytes) :
    ∃ ds, digits input = some ds ∧ number bytes = value 58 ds := by
  rw [accumulate, accumulate_eq, Option.map_eq_some_iff] at haccumulated
  obtain ⟨ds, hdigits, rfl⟩ := haccumulated
  refine ⟨ds, hdigits, ?_⟩
  rw [number_foldl (digits_lt hdigits)]
  simp

/-! ## Fitting the number to 32 bytes -/

/-- The number the bytes name, most significant first. -/
def numberBe (bytes : Bytes) : ℕ :=
  value 256 (bytes.map UInt8.toNat)

theorem numberBe_reverse (bytes : Bytes) : numberBe bytes.reverse = number bytes := by
  rw [numberBe, number, value, ← List.map_reverse, List.reverse_reverse]

theorem toNat_lt_of_mem {bytes : Bytes} : ∀ digit ∈ bytes.map UInt8.toNat, digit < 256 := by
  intro digit hdigit
  obtain ⟨byte, -, rfl⟩ := List.mem_map.mp hdigit
  exact byte.toNat_lt

theorem numberBe_replicate_append (zeros : ℕ) (bytes : Bytes) :
    numberBe (List.replicate zeros 0 ++ bytes) = numberBe bytes := by
  rw [numberBe, List.map_append, List.map_replicate]
  exact value_replicate_append zeros _

theorem numberBe_lt (bytes : Bytes) : numberBe bytes < 256 ^ bytes.length := by
  have hlt := value_lt (by norm_num) (@toNat_lt_of_mem bytes)
  rwa [List.length_map] at hlt

/-- Popping keeps the number, and stops at 32 bytes exactly when it fits them. -/
theorem popZeros_spec (bytes : Bytes) :
    numberBe (popZeros bytes) = numberBe bytes ∧
      (32 < (popZeros bytes).length ↔ 256 ^ 32 ≤ numberBe bytes) := by
  have hshort : ∀ bytes : Bytes, bytes.length ≤ 32 → numberBe bytes < 256 ^ 32 :=
    fun bytes hlength => (numberBe_lt bytes).trans_le (Nat.pow_le_pow_right (by norm_num) hlength)
  induction bytes with
  | nil => exact ⟨rfl, by simp [popZeros, numberBe]⟩
  | cons byte rest ih =>
      by_cases hzero : byte = 0
      · subst hzero
        have hkept : numberBe (0 :: rest) = numberBe rest := numberBe_replicate_append 1 rest
        by_cases hlong : 32 < rest.length + 1
        · rw [popZeros, if_pos hlong, hkept]
          exact ih
        · rw [popZeros, if_neg hlong]
          have hfits := hshort (0 :: rest) (by simpa using hlong)
          refine ⟨rfl, ?_⟩
          simp only [List.length_cons, hlong, false_iff, not_le, hfits]
      · have hstays : popZeros (byte :: rest) = byte :: rest := by
          unfold popZeros
          split
          · next heq => exact absurd (List.cons.inj heq).1 hzero
          · rfl
        rw [hstays]
        refine ⟨rfl, ?_, ?_⟩
        · intro hlong
          have hweight := @pow_le_value 256 byte.toNat
            (fun hnat => hzero (UInt8.toNat_inj.mp hnat)) (rest.map UInt8.toNat)
          rw [List.length_map] at hweight
          refine le_trans (Nat.pow_le_pow_right (by norm_num) ?_) hweight
          simpa using Nat.lt_succ_iff.mp hlong
        · intro hlarge
          by_contra hlength
          exact absurd (hshort _ (not_lt.mp hlength)) (not_lt.mpr hlarge)

theorem numberBe_injective {left right : Bytes32}
    (heq : numberBe left.toList = numberBe right.toList) : left = right := by
  apply List.Vector.eq
  apply List.map_injective_iff.mpr (fun first second hbyte => UInt8.toNat_inj.mp hbyte)
  exact eq_of_length_of_value (by norm_num) toNat_lt_of_mem toNat_lt_of_mem (by simp) heq

theorem map_toNat_ofNat {ds : List ℕ} (hdigits : ∀ digit ∈ ds, digit < 256) :
    (ds.map UInt8.ofNat).map UInt8.toNat = ds := by
  rw [List.map_map]
  conv_rhs => rw [← List.map_id ds]
  apply List.map_congr_left
  intro digit hdigit
  simpa [UInt8.toNat_ofNat'] using Nat.mod_eq_of_lt (hdigits digit hdigit)

theorem toArray_of_length {length : ℕ} {data : Bytes} (hlength : data.length = length) :
    ∃ array : List.Vector UInt8 length, toArray length data = some array ∧ array.toList = data := by
  rw [toArray, dif_pos hlength]
  exact ⟨⟨data, hlength⟩, rfl, rfl⟩

/-- Every number that fits 32 bytes is the number of an id. -/
theorem exists_numberBe {number : ℕ} (hfits : number < 256 ^ 32) :
    ∃ id : Bytes32, numberBe id.toList = number := by
  have hlength : ((Nat.digitsAppend 256 32 number).map UInt8.ofNat).reverse.length = 32 := by
    simpa using Nat.length_digitsAppend (by norm_num) 32 hfits
  refine ⟨⟨_, hlength⟩, ?_⟩
  have hdigits : ∀ digit ∈ (Nat.digitsAppend 256 32 number).reverse, digit < 256 :=
    fun digit hdigit =>
      Nat.lt_of_mem_digitsAppend (by norm_num) 32 digit (List.mem_reverse.mp hdigit)
  show numberBe ((Nat.digitsAppend 256 32 number).map UInt8.ofNat).reverse = number
  rw [numberBe, ← List.map_reverse, map_toNat_ofNat hdigits, value, List.reverse_reverse,
    Nat.digitsAppend, Nat.ofDigits_append_replicate_zero, Nat.ofDigits_digits]

/-- The decoder answers the id whose number the string names. -/
theorem decode32_eq_some_iff {input : String} {id : Bytes32} :
    decode32 input = some id ↔
      ∃ ds, digits input = some ds ∧ numberBe id.toList = value 58 ds := by
  have hidLt : numberBe id.toList < 256 ^ 32 := by
    simpa using numberBe_lt id.toList
  cases haccumulated : accumulate input.toList with
  | none =>
      have hdigits : digits input = none := by
        rw [accumulate, accumulate_eq, Option.map_eq_none_iff] at haccumulated
        exact haccumulated
      simp [decode32, haccumulated, hdigits]
  | some bytes =>
      obtain ⟨ds, hdigits, hnumber⟩ := accumulate_eq_some_iff haccumulated
      let popped := popZeros (bytes ++ List.replicate (leadingOnes input.toList) 0).reverse
      obtain ⟨hkept, hfits⟩ :=
        popZeros_spec (bytes ++ List.replicate (leadingOnes input.toList) 0).reverse
      have hpopped : numberBe popped = value 58 ds := by
        rw [← hnumber, hkept, List.reverse_append, List.reverse_replicate,
          numberBe_replicate_append, numberBe_reverse]
      rw [hkept.symm.trans hpopped] at hfits
      have hdecoded : decode32 input = if 32 < popped.length then none
          else toArray 32 (List.replicate (32 - popped.length) 0 ++ popped) := by
        simp [decode32, haccumulated, popped]
      rw [hdecoded]
      simp only [hdigits, Option.some.injEq, exists_eq_left']
      split
      · next hlong =>
          have hlarge := hfits.mp hlong
          constructor
          · intro hnone
            cases hnone
          · intro heq
            exact absurd (heq ▸ hlarge) (not_le.mpr hidLt)
      · next hshort =>
          have hlength : (List.replicate (32 - popped.length) (0 : UInt8) ++ popped).length = 32 := by
            simp
            omega
          have hpadded : numberBe (List.replicate (32 - popped.length) 0 ++ popped) =
              value 58 ds := by
            rw [numberBe_replicate_append, hpopped]
          obtain ⟨array, harray, hbytes⟩ := toArray_of_length hlength
          rw [harray, Option.some.injEq]
          rw [← hbytes] at hpadded
          constructor
          · intro heq
            rw [← heq]
            exact hpadded
          · intro heq
            exact numberBe_injective (hpadded.trans heq.symm)

/-! ## Against standard base58 -/

/-- Where the string names an id at all, its leading ones and the significant
bytes of its number are 32. -/
def Exact (input : String) : Prop :=
  ∀ ds, digits input = some ds → value 58 ds < 256 ^ 32 →
    leadingZeros ds + (significant 256 (value 58 ds)).length = 32

theorem zeros_significant_lt (zeros value : ℕ) :
    ∀ digit ∈ List.replicate zeros 0 ++ significant 256 value, digit < 256 := by
  intro digit hdigit
  rcases List.mem_append.mp hdigit with hzero | hsignificant
  · rw [List.eq_of_mem_replicate hzero]
    norm_num
  · exact significant_lt (by norm_num) hsignificant

/-- Standard decoding answers these 32 bytes exactly when they name the string's
number and the string is exact about it. -/
theorem standardDecode_eq_some_iff {input : String} {id : Bytes32} :
    standardDecode input = some id.toList ↔ ∃ ds, digits input = some ds ∧
      numberBe id.toList = value 58 ds ∧
      leadingZeros ds + (significant 256 (value 58 ds)).length = 32 := by
  rw [standardDecode, Option.map_eq_some_iff]
  constructor
  · rintro ⟨ds, hdigits, heq⟩
    refine ⟨ds, hdigits, ?_, ?_⟩
    · rw [← heq, numberBe, map_toNat_ofNat (zeros_significant_lt _ _), value_replicate_append,
        value_significant]
    · have hlength := congrArg List.length heq
      simpa using hlength
  · rintro ⟨ds, hdigits, hnumber, hlength⟩
    refine ⟨ds, hdigits, ?_⟩
    apply List.map_injective_iff.mpr (fun first second hbyte => UInt8.toNat_inj.mp hbyte)
    rw [map_toNat_ofNat (zeros_significant_lt _ _)]
    apply eq_of_length_of_value (by norm_num) (zeros_significant_lt _ _) toNat_lt_of_mem
    · simpa using hlength
    · rw [value_replicate_append, value_significant]
      exact hnumber.symm

/-- The two decoders agree on exactly the exact strings. -/
theorem decode32_iff_standard (input : String) :
    (∀ id, decode32 input = some id ↔ standardDecode input = some id.toList) ↔ Exact input := by
  constructor
  · intro hagree ds hdigits hfits
    obtain ⟨id, hid⟩ := exists_numberBe hfits
    obtain ⟨ds', hdigits', -, hlength⟩ :=
      standardDecode_eq_some_iff.mp ((hagree id).mp (decode32_eq_some_iff.mpr ⟨ds, hdigits, hid⟩))
    rw [hdigits] at hdigits'
    cases hdigits'
    exact hlength
  · intro hexact id
    rw [decode32_eq_some_iff, standardDecode_eq_some_iff]
    constructor
    · rintro ⟨ds, hdigits, hid⟩
      refine ⟨ds, hdigits, hid, hexact ds hdigits ?_⟩
      rw [← hid]
      simpa using numberBe_lt id.toList
    · rintro ⟨ds, hdigits, hid, -⟩
      exact ⟨ds, hdigits, hid⟩

/-! ## Encoding, and spelling one id -/

private theorem alphabet_facts : ∀ i : Fin 58, position (alphabet.getD i '1') = some i.val := by
  decide +kernel

theorem digits_ofList {ds : List ℕ} (hdigits : ∀ digit ∈ ds, digit < 58) :
    digits (String.ofList (ds.map fun digit => alphabet.getD digit '1')) = some ds := by
  rw [digits, String.toList_ofList]
  induction ds with
  | nil => rfl
  | cons digit ds ih =>
      have hdigit := alphabet_facts ⟨digit, hdigits digit List.mem_cons_self⟩
      simp only at hdigit
      simp only [List.map_cons, List.mapM_cons, hdigit,
        ih fun other hother => hdigits other (List.mem_cons_of_mem _ hother)]
      rfl

theorem getD_of_position {c : Char} {digit : ℕ} (hdigit : position c = some digit) :
    alphabet.getD digit '1' = c := by
  obtain ⟨hlt, heq, -⟩ := List.findIdx?_eq_some_iff_getElem.mp hdigit
  rw [List.getD, List.getElem?_eq_getElem hlt]
  simpa using heq

theorem chars_of_positions {text : List Char} {ds : List ℕ}
    (hpositions : text.map position = ds.map some) :
    text = ds.map fun digit => alphabet.getD digit '1' := by
  induction text generalizing ds with
  | nil =>
      obtain rfl : ds = [] := by simpa using hpositions.symm
      rfl
  | cons c text ih =>
      cases ds with
      | nil => simp at hpositions
      | cons digit ds =>
          simp only [List.map_cons, List.cons.injEq] at hpositions
          rw [List.map_cons, getD_of_position hpositions.1, ← ih hpositions.2]

/-- The characters of a string are those of its digits. -/
theorem toList_of_digits {input : String} {ds : List ℕ} (hdigits : digits input = some ds) :
    input.toList = ds.map fun digit => alphabet.getD digit '1' :=
  chars_of_positions (position_of_mapM hdigits)

/-- The standard encoding of an id is exact and is decoded to it. -/
theorem decode32_standardEncode (id : Bytes32) :
    Exact (standardEncode id.toList) ∧ decode32 (standardEncode id.toList) = some id := by
  have hdigits : ∀ digit ∈ List.replicate (leadingZeros (id.toList.map UInt8.toNat)) 0 ++
      significant 58 (numberBe id.toList), digit < 58 := by
    intro digit hdigit
    rcases List.mem_append.mp hdigit with hzero | hsignificant
    · rw [List.eq_of_mem_replicate hzero]
      norm_num
    · exact significant_lt (by norm_num) hsignificant
  have hread := digits_ofList hdigits
  have hlength := length_eq (by norm_num) (@toNat_lt_of_mem id.toList)
  rw [List.length_map, List.Vector.toList_length] at hlength
  constructor
  · intro ds hds _
    obtain rfl := Option.some.inj (hread.symm.trans hds)
    rw [leadingZeros_replicate_append, leadingZeros_significant, value_replicate_append,
      value_significant]
    exact hlength.symm
  · refine decode32_eq_some_iff.mpr ⟨_, hread, ?_⟩
    rw [value_replicate_append, value_significant]

/-- Exact strings that are decoded to one id are one string. -/
theorem eq_of_decode32_eq {left right : String} {id : Bytes32} (hleft : Exact left)
    (hright : Exact right) (hleftId : decode32 left = some id)
    (hrightId : decode32 right = some id) : left = right := by
  obtain ⟨leftDigits, hleftDigits, hleftNumber⟩ := decode32_eq_some_iff.mp hleftId
  obtain ⟨rightDigits, hrightDigits, hrightNumber⟩ := decode32_eq_some_iff.mp hrightId
  have hlt : numberBe id.toList < 256 ^ 32 := by
    simpa using numberBe_lt id.toList
  have hvalue : value 58 leftDigits = value 58 rightDigits := hleftNumber.symm.trans hrightNumber
  have hleftExact := hleft leftDigits hleftDigits (hleftNumber ▸ hlt)
  have hrightExact := hright rightDigits hrightDigits (hrightNumber ▸ hlt)
  rw [hvalue] at hleftExact
  have hsame : leftDigits = rightDigits :=
    eq_of_leadingZeros_of_value (by norm_num) (digits_lt hleftDigits) (digits_lt hrightDigits)
      (by omega) hvalue
  apply String.toList_inj.mp
  rw [toList_of_digits hleftDigits, toList_of_digits hrightDigits, hsame]

/-- The decoder is standard base58 on exactly the exact strings; every id's
standard encoding is one of them and is decoded to the id, and no other exact
string is decoded to the id of an exact one. -/
theorem standard_iff_exact (input : String) :
    ((∀ id, decode32 input = some id ↔ standardDecode input = some id.toList) ↔ Exact input) ∧
    (∀ id : Bytes32,
      Exact (standardEncode id.toList) ∧ decode32 (standardEncode id.toList) = some id) ∧
    ∀ other id, Exact input → Exact other → decode32 input = some id →
      decode32 other = some id → input = other := by
  refine ⟨decode32_iff_standard input, decode32_standardEncode, ?_⟩
  intro other id hinput hother hinputId hotherId
  exact eq_of_decode32_eq hinput hother hinputId hotherId

/-- The empty string and a single one are both decoded to the id of zeros, of
which they spell no byte and one. -/
theorem short_strings_accepted :
    decode32 "" = some (List.Vector.replicate 32 0) ∧ standardDecode "" = some [] ∧
      decode32 "1" = some (List.Vector.replicate 32 0) ∧ standardDecode "1" = some [0] := by
  refine ⟨by decide, rfl, by decide, rfl⟩

end LogosRln.Registry.Base58
