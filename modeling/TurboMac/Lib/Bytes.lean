import Mathlib.Data.BitVec
import Mathlib.Data.Rat.Defs
import Mathlib.Algebra.Field.Rat

/-! # Numbers in bytes

A list of bytes as a big-endian number, with and without sign, and the number of
an IEEE-754 single. A word put together from bytes is the number of the list.
-/

namespace Bytes

abbrev Byte := BitVec 8

/-! ## Integers -/

/-- Big-endian, without sign. -/
def unsigned (data : List Byte) : ℕ := data.foldl (fun value byte => value * 256 + byte.toNat) 0

/-- Big-endian, in two's complement. -/
def signed (data : List Byte) : ℤ := (unsigned data : ℤ).bmod (256 ^ data.length)

theorem unsigned_concat (data : List Byte) (byte : Byte) :
    unsigned (data ++ [byte]) = unsigned data * 256 + byte.toNat := by
  unfold unsigned
  rw [List.foldl_append]
  rfl

/-- A byte at the low end of a word. -/
theorem toNat_append_byte {n : ℕ} (word : BitVec n) (byte : Byte) :
    (word ++ byte).toNat = word.toNat * 256 + byte.toNat := by
  rw [BitVec.toNat_append, ← Nat.shiftLeft_add_eq_or_of_lt byte.isLt, Nat.shiftLeft_eq]

/-- A word that is a list of bytes is so with one more. -/
theorem toNat_concat {n : ℕ} {word : BitVec n} {data : List Byte} (h : word.toNat = unsigned data)
    (byte : Byte) : (word ++ byte).toNat = unsigned (data ++ [byte]) := by
  rw [toNat_append_byte, unsigned_concat, h]

theorem toNat_singleton (byte : Byte) : byte.toNat = unsigned [byte] := by
  simp [unsigned]

theorem toInt_eq_signed {data : List Byte} {word : BitVec (8 * data.length)}
    (h : word.toNat = unsigned data) : word.toInt = signed data := by
  have hpow : 2 ^ (8 * data.length) = 256 ^ data.length := pow_mul 2 8 data.length
  unfold signed
  rw [BitVec.toInt_eq_toNat_bmod, h, hpow]

/-- Little-endian, without sign. -/
def littleEndian (data : List Byte) : ℕ := data.foldr (fun byte value => byte.toNat + 256 * value) 0

/-- A number in so many bytes, the lowest first. -/
def toLittleEndian : ℕ → ℕ → List Byte
  | 0, _ => []
  | size + 1, value => BitVec.ofNat 8 value :: toLittleEndian size (value / 256)

@[simp] theorem length_toLittleEndian (size value : ℕ) :
    (toLittleEndian size value).length = size := by
  induction size generalizing value with
  | zero => rfl
  | succ size ih => simp [toLittleEndian, ih]

theorem littleEndian_toLittleEndian (size value : ℕ) :
    littleEndian (toLittleEndian size value) = value % 256 ^ size := by
  induction size generalizing value with
  | zero => simp [toLittleEndian, littleEndian, Nat.mod_one]
  | succ size ih =>
      have hcons : littleEndian (toLittleEndian (size + 1) value) =
          value % 256 + 256 * littleEndian (toLittleEndian size (value / 256)) := by
        simp [toLittleEndian, littleEndian]
      rw [hcons, ih, pow_succ', Nat.mod_mul]

/-! ## Members of a record -/

/-- The member of so many bytes at an offset. -/
def member (data : List Byte) (offset size : ℕ) : ℕ := littleEndian ((data.drop offset).take size)

/-- Members one after another, each a size and a value. -/
def layout (members : List (ℕ × ℕ)) : List Byte := members.flatMap fun m => toLittleEndian m.1 m.2

theorem member_layout {before after : List (ℕ × ℕ)} {size value : ℕ} (hvalue : value < 256 ^ size) :
    member (layout (before ++ (size, value) :: after)) (before.map (·.1)).sum size = value := by
  have hlength : (layout before).length = (before.map (·.1)).sum := by
    simp [layout, List.length_flatMap]
  unfold member layout
  rw [List.flatMap_append, List.flatMap_cons]
  change littleEndian (((layout before ++ _).drop _).take size) = value
  rw [← hlength, List.drop_left, List.take_left' (length_toLittleEndian size value),
    littleEndian_toLittleEndian, Nat.mod_eq_of_lt hvalue]

/-- A word comes back from where it was put. -/
theorem ofNat_member {w : ℕ} (word : BitVec w) {members : List (ℕ × ℕ)} (before after : List (ℕ × ℕ))
    {offset size : ℕ} (hmembers : members = before ++ (size, word.toNat) :: after)
    (hoffset : (before.map (·.1)).sum = offset) (hsize : 2 ^ w ≤ 256 ^ size) :
    BitVec.ofNat w (member (layout members) offset size) = word := by
  rw [hmembers, ← hoffset, member_layout (word.isLt.trans_le hsize), BitVec.ofNat_toNat,
    BitVec.setWidth_eq]

/-! ## IEEE-754 -/

/-- The number of a single; none if it is infinite or not a number. -/
def float32 (bits : BitVec 32) : Option ℚ :=
  let exponent := (bits.extractLsb' 23 8).toNat
  let fraction := (bits.extractLsb' 0 23).toNat
  let magnitude : ℚ :=
    if exponent = 0 then fraction * 2 ^ (-149 : ℤ)
    else (2 ^ 23 + fraction) * 2 ^ ((exponent : ℤ) - 150)
  if exponent = 255 then none
  else some (if bits.getLsbD 31 then -magnitude else magnitude)

example : float32 0x42790000 = some (249 / 4) := by decide +kernel

end Bytes
