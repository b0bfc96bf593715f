import Muster.Text.Hex

/-!
# Hexadecimal text reads back

Every byte is written as two digits, and the digits of a byte read back as its halves. As digits are
ASCII, the bytes of a hexadecimal text are its digits, and so `Hex.decode` undoes `Hex.encode` for every
sequence of bytes (`decode_encode`).
-/

set_option autoImplicit false

namespace Muster.Hex

/-! ### One byte -/

theorem value?_digit {value : UInt8} (small : value < 16) : value? (digit value) = some value := by
  have every : ∀ n < 16, value? (digit (UInt8.ofNat n)) = some (UInt8.ofNat n) := by decide
  have here := every value.toNat (UInt8.lt_iff_toNat_lt.1 small)
  rwa [UInt8.ofNat_toNat] at here

theorem digit_lt {value : UInt8} (small : value < 16) : (digit value).toNat < 128 := by
  have every : ∀ n < 16, (digit (UInt8.ofNat n)).toNat < 128 := by decide
  have here := every value.toNat (UInt8.lt_iff_toNat_lt.1 small)
  rwa [UInt8.ofNat_toNat] at here

theorem high_lt (byte : UInt8) : byte >>> 4 < 16 := by
  rw [UInt8.lt_iff_toNat_lt, UInt8.toNat_shiftRight]
  have := byte.toNat_lt
  simp [Nat.shiftRight_eq_div_pow]
  omega

theorem low_lt (byte : UInt8) : byte &&& 15 < 16 := by
  rw [UInt8.lt_iff_toNat_lt, UInt8.toNat_and]
  exact Nat.lt_of_le_of_lt Nat.and_le_right (by decide)

/-- A byte is its two halves. -/
theorem halves (byte : UInt8) : byte >>> 4 <<< 4 ||| byte &&& 15 = byte := by
  have every : ∀ n < 256, UInt8.ofNat n >>> 4 <<< 4 ||| UInt8.ofNat n &&& 15 = UInt8.ofNat n := by
    decide +kernel
  have here := every byte.toNat byte.toNat_lt
  rwa [UInt8.ofNat_toNat] at here

/-! ### Sequences of bytes -/

/-- The digits of a sequence of bytes read back in pairs. -/
theorem pairs_digits (position : Nat) (bytes : List UInt8) :
    pairs position (bytes.flatMap digits) = .ok bytes := by
  induction bytes generalizing position with
  | nil => rfl
  | cons byte rest ih =>
    have later := ih (position + 2)
    simp only [List.flatMap_cons, digits, List.cons_append, List.nil_append, pairs,
      value?_digit (high_lt byte), value?_digit (low_lt byte), later, halves]

theorem utf8EncodeChar_ascii (d : UInt8) (small : d.toNat < 128) :
    String.utf8EncodeChar (Char.ofNat d.toNat) = [d] := by
  have every : ∀ n < 128, String.utf8EncodeChar (Char.ofNat n) = [UInt8.ofNat n] := by decide +kernel
  have here := every d.toNat small
  rwa [UInt8.ofNat_toNat] at here

/-- ASCII characters are one byte each. -/
theorem bytes_of_ascii (ascii : List UInt8) (small : ∀ d ∈ ascii, d.toNat < 128) :
    (ascii.map fun d => Char.ofNat d.toNat).utf8Encode.data.toList = ascii := by
  induction ascii with
  | nil => rfl
  | cons d rest ih =>
    have later := ih fun d' member => small d' (List.mem_cons_of_mem d member)
    rw [List.map_cons, List.utf8Encode_cons, List.utf8Encode_singleton,
      utf8EncodeChar_ascii d (small d List.mem_cons_self)]
    simp [later]

theorem length_digits (bytes : List UInt8) : (bytes.flatMap digits).length = 2 * bytes.length := by
  induction bytes with
  | nil => rfl
  | cons byte rest ih =>
    rw [List.flatMap_cons, List.length_append, ih]
    simp [digits]
    omega

/-- **Reading undoes writing** for every sequence of bytes. -/
theorem decode_encode (bytes : ByteArray) : decode (encode bytes) = .ok bytes := by
  have ascii : ∀ d ∈ bytes.data.toList.flatMap digits, d.toNat < 128 := by
    intro d member
    obtain ⟨byte, -, half⟩ := List.mem_flatMap.1 member
    simp only [digits, List.mem_cons, List.not_mem_nil, or_false] at half
    rcases half with rfl | rfl
    · exact digit_lt (high_lt byte)
    · exact digit_lt (low_lt byte)
  have text : (encode bytes).toUTF8.data.toList = bytes.data.toList.flatMap digits := by
    have same : encode bytes = String.ofList
        ((bytes.data.toList.flatMap digits).map fun d => Char.ofNat d.toNat) := by
      rw [encode, List.map_flatMap]
    rw [same]
    exact (congrArg (fun b => b.data.toList) String.toByteArray_ofList).trans (bytes_of_ascii _ ascii)
  have even : (bytes.data.toList.flatMap digits).length % 2 ≠ 1 := by
    rw [length_digits]
    omega
  simp only [decode, text, if_neg even, pairs_digits]

end Muster.Hex
