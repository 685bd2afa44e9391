import Mathlib.Data.Nat.Digits.Defs
import LogosRln.Json

/-!
# A small executable stand-in for the JSON text coding

Concrete runs need a concrete coding of the values that cross the module
boundary.  This one is a prefix code: every value starts with a letter of its
kind, strings are marked character by character, and lists end with a bracket.
It reads back what it prints and makes no claim to be JSON.
-/

namespace LogosRln.Json.Reference

/-! ## Printing -/

/-- Marked characters up to a full stop. -/
def marked (text : List Char) : List Char :=
  text.flatMap (fun c => ['+', c]) ++ ['.']

/-- A number's base-256 digits as characters. -/
def digitChars (value : UInt64) : List Char :=
  (Nat.digits 256 value.toNat).map Char.ofNat

mutual

def print : Value → List Char
  | .null => ['n']
  | .bool true => ['t']
  | .bool false => ['f']
  | .uint value => 'u' :: marked (digitChars value)
  | .number text => '#' :: marked text.toList
  | .str text => 's' :: marked text.toList
  | .array items => 'a' :: printItems items
  | .object fields => 'o' :: printFields fields

def printItems : List Value → List Char
  | [] => [']']
  | item :: items => ',' :: (print item ++ printItems items)

def printFields : List (String × Value) → List Char
  | [] => [']']
  | (key, value) :: fields => ',' :: (marked key.toList ++ (print value ++ printFields fields))

end

/-! ## Reading -/

/-- Marked characters and what follows them. -/
def readMarked : List Char → Option (List Char × List Char)
  | '.' :: rest => some ([], rest)
  | '+' :: c :: rest => (readMarked rest).map fun read => (c :: read.1, read.2)
  | _ => none

mutual

/-- A value and what follows it, in at most the given number of steps. -/
def read : ℕ → List Char → Option (Value × List Char)
  | 0, _ => none
  | _ + 1, 'n' :: rest => some (.null, rest)
  | _ + 1, 't' :: rest => some (.bool true, rest)
  | _ + 1, 'f' :: rest => some (.bool false, rest)
  | _ + 1, 'u' :: rest => (readMarked rest).map fun digits =>
      (.uint (UInt64.ofNat (Nat.ofDigits 256 (digits.1.map Char.toNat))), digits.2)
  | _ + 1, '#' :: rest => (readMarked rest).map fun text =>
      (.number (String.ofList text.1), text.2)
  | _ + 1, 's' :: rest => (readMarked rest).map fun text => (.str (String.ofList text.1), text.2)
  | steps + 1, 'a' :: rest => (readItems steps rest).map fun items => (.array items.1, items.2)
  | steps + 1, 'o' :: rest => (readFields steps rest).map fun fields =>
      (.object fields.1, fields.2)
  | _, _ => none

def readItems : ℕ → List Char → Option (List Value × List Char)
  | 0, _ => none
  | _ + 1, ']' :: rest => some ([], rest)
  | steps + 1, ',' :: rest => do
      let (item, rest) ← read steps rest
      let (items, rest) ← readItems steps rest
      return (item :: items, rest)
  | _, _ => none

def readFields : ℕ → List Char → Option (List (String × Value) × List Char)
  | 0, _ => none
  | _ + 1, ']' :: rest => some ([], rest)
  | steps + 1, ',' :: rest => do
      let (key, rest) ← readMarked rest
      let (value, rest) ← read steps rest
      let (fields, rest) ← readFields steps rest
      return ((String.ofList key, value) :: fields, rest)
  | _, _ => none

end

/-! ## Reading what was printed -/

theorem readMarked_marked (text rest : List Char) :
    readMarked (marked text ++ rest) = some (text, rest) := by
  induction text with
  | nil => simp [marked, readMarked]
  | cons c text ih =>
      have hstep : marked (c :: text) ++ rest = '+' :: c :: (marked text ++ rest) := by
        simp [marked]
      rw [hstep, readMarked, ih, Option.map_some]

theorem toNat_ofNat_digit {digit : ℕ} (hdigit : digit < 256) :
    (Char.ofNat digit).toNat = digit := by
  have hvalid : digit.isValidChar := .inl (by omega)
  rw [Char.ofNat, dif_pos hvalid]
  rfl

theorem map_toNat_digitChars (value : UInt64) :
    (digitChars value).map Char.toNat = Nat.digits 256 value.toNat := by
  have hdigit : ∀ digit ∈ Nat.digits 256 value.toNat,
      (Char.toNat ∘ Char.ofNat) digit = digit := by
    intro digit hmember
    exact toNat_ofNat_digit (Nat.digits_lt_base (by decide) hmember)
  rw [digitChars, List.map_map, List.map_congr_left hdigit, List.map_id']

theorem ofNat_ofDigits_digitChars (value : UInt64) :
    UInt64.ofNat (Nat.ofDigits 256 ((digitChars value).map Char.toNat)) = value := by
  rw [map_toNat_digitChars, Nat.ofDigits_digits, UInt64.ofNat_toNat]

mutual

/-- Whatever follows, a printed value is read back in as many steps as it has
characters. -/
theorem read_print (value : Value) (steps : ℕ) (rest : List Char)
    (hsteps : (print value).length ≤ steps) :
    read steps (print value ++ rest) = some (value, rest) := by
  cases steps with
  | zero =>
      cases value with
      | bool flag => cases flag <;> simp [print] at hsteps
      | _ => simp [print] at hsteps
  | succ steps =>
      cases value with
      | null => rfl
      | bool flag => cases flag <;> rfl
      | uint number =>
          simp [print, read, readMarked_marked, ofNat_ofDigits_digitChars]
      | number text => simp [print, read, readMarked_marked]
      | str text => simp [print, read, readMarked_marked]
      | array items =>
          have hitems := readItems_printItems items steps rest (by simpa [print] using hsteps)
          simp [print, read, hitems]
      | object fields =>
          have hfields := readFields_printFields fields steps rest (by simpa [print] using hsteps)
          simp [print, read, hfields]

theorem readItems_printItems (items : List Value) (steps : ℕ) (rest : List Char)
    (hsteps : (printItems items).length ≤ steps) :
    readItems steps (printItems items ++ rest) = some (items, rest) := by
  cases steps with
  | zero => cases items <;> simp [printItems] at hsteps
  | succ steps =>
      cases items with
      | nil => rfl
      | cons item items =>
          simp only [printItems, List.length_cons, List.length_append] at hsteps
          have hitem := read_print item steps (printItems items ++ rest) (by omega)
          have hitems := readItems_printItems items steps rest (by omega)
          simp [printItems, readItems, hitem, hitems]

theorem readFields_printFields (fields : List (String × Value)) (steps : ℕ) (rest : List Char)
    (hsteps : (printFields fields).length ≤ steps) :
    readFields steps (printFields fields ++ rest) = some (fields, rest) := by
  cases steps with
  | zero => cases fields <;> simp [printFields] at hsteps
  | succ steps =>
      cases fields with
      | nil => rfl
      | cons field fields =>
          obtain ⟨key, value⟩ := field
          simp only [printFields, List.length_cons, List.length_append] at hsteps
          have hkey := readMarked_marked key.toList (print value ++ (printFields fields ++ rest))
          have hvalue := read_print value steps (printFields fields ++ rest) (by omega)
          have hfields := readFields_printFields fields steps rest (by omega)
          simp [printFields, readFields, hkey, hvalue, hfields]

end

/-- The coding, with the texts listed in `given` read as the values beside them. -/
def serde (given : List (String × Value)) : Serde where
  fromStr text :=
    match given.find? (·.1 == text) with
    | some (_, value) => .ok value
    | none =>
        match read text.length text.toList with
        | some (value, []) => .ok value
        | _ => .error "expected value"
  toString value := String.ofList (print value)

/-- Listed texts aside, what is printed is read back. -/
theorem serde_roundTrips {given : List (String × Value)}
    (hgiven : ∀ entry ∈ given, ∀ value, entry.1 ≠ String.ofList (print value)) :
    (serde given).RoundTrips := by
  intro value
  have hunlisted : given.find? (·.1 == String.ofList (print value)) = none := by
    rw [List.find?_eq_none]
    intro entry hentry heq
    exact hgiven entry hentry value (by simpa using heq)
  have hread := read_print value (print value).length [] le_rfl
  rw [List.append_nil] at hread
  simp [serde, hunlisted, hread]

/-- No printed value starts like an array of JSON, and none is empty. -/
theorem print_ne (value : Value) {text : List Char} (htext : text.head? = none ∨ text.head? = some '[') :
    print value ≠ text := by
  rintro rfl
  cases value with
  | bool flag => cases flag <;> simp [print] at htext
  | _ => simp [print] at htext

end LogosRln.Json.Reference
