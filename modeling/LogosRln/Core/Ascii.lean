import Mathlib.Data.List.Basic

/-!
# ASCII inside UTF-8

Code that scans the UTF-8 bytes of a string for plain characters sees the
characters themselves: an ASCII byte never belongs to the encoding of another
character.
-/

namespace LogosRln.Ascii

/-- A character below 128 is its own byte. -/
theorem utf8EncodeChar_of_lt {c : Char} (hascii : c.toNat < 128) :
    String.utf8EncodeChar c = [UInt8.ofNat c.toNat] := by
  have hval : c.val.toNat ≤ 127 := Nat.lt_succ_iff.mp hascii
  rw [String.utf8EncodeChar, if_pos hval]
  rfl

theorem toNat_ofNat_of_lt {c : Char} (hascii : c.toNat < 128) :
    (UInt8.ofNat c.toNat).toNat = c.toNat := by
  rw [UInt8.toNat_ofNat']
  exact Nat.mod_eq_of_lt (by omega)

/-- Every byte of another character has its top bit set. -/
theorem lt_of_forall_bytes {c : Char} (hascii : ∀ byte ∈ String.utf8EncodeChar c, byte < 128) :
    c.toNat < 128 := by
  by_contra hlarge
  have hval : ¬ c.val.toNat < 128 := hlarge
  revert hascii
  fun_cases String.utf8EncodeChar c
  all_goals
    simp [UInt8.lt_iff_toNat_lt]
    omega

/-- Text whose bytes are all ASCII is spelled by its bytes. -/
theorem lt_of_forall_utf8 {text : List Char}
    (hascii : ∀ byte ∈ text.flatMap String.utf8EncodeChar, byte < 128) :
    ∀ c ∈ text, c.toNat < 128 := fun c hc =>
  lt_of_forall_bytes fun byte hbyte =>
    hascii byte (List.mem_flatMap.mpr ⟨c, hc, hbyte⟩)

theorem flatMap_utf8EncodeChar {text : List Char} (hascii : ∀ c ∈ text, c.toNat < 128) :
    text.flatMap String.utf8EncodeChar = text.map fun c => UInt8.ofNat c.toNat := by
  induction text with
  | nil => rfl
  | cons c text ih =>
      rw [List.flatMap_cons, utf8EncodeChar_of_lt (hascii c List.mem_cons_self),
        ih fun other hother => hascii other (List.mem_cons_of_mem _ hother)]
      rfl

theorem chars_of_ascii {text : List Char}
    (hascii : ∀ byte ∈ text.flatMap String.utf8EncodeChar, byte < 128) :
    (text.flatMap String.utf8EncodeChar).map (fun byte => Char.ofNat byte.toNat) = text := by
  have hchars := lt_of_forall_utf8 hascii
  rw [flatMap_utf8EncodeChar hchars, List.map_map]
  conv_rhs => rw [← List.map_id text]
  apply List.map_congr_left
  intro c hc
  simp [toNat_ofNat_of_lt (hchars c hc)]

/-- A check on every byte is a check on every character, where it admits ASCII
alone. -/
theorem all_utf8_iff {p : UInt8 → Bool} (hp : ∀ byte, p byte = true → byte < 128)
    (text : List Char) :
    (text.flatMap String.utf8EncodeChar).all p = true ↔
      ∀ c ∈ text, c.toNat < 128 ∧ p (UInt8.ofNat c.toNat) = true := by
  rw [List.all_eq_true]
  constructor
  · intro hall
    have hchars := lt_of_forall_utf8 fun byte hbyte => hp byte (hall byte hbyte)
    intro c hc
    refine ⟨hchars c hc, hall _ (List.mem_flatMap.mpr ⟨c, hc, ?_⟩)⟩
    rw [utf8EncodeChar_of_lt (hchars c hc)]
    exact List.mem_singleton_self _
  · intro hchars byte hbyte
    obtain ⟨c, hc, hbyte⟩ := List.mem_flatMap.mp hbyte
    rw [utf8EncodeChar_of_lt (hchars c hc).1, List.mem_singleton] at hbyte
    exact hbyte ▸ (hchars c hc).2

end LogosRln.Ascii
