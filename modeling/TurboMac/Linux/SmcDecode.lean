import TurboMac.Lib.Python
import TurboMac.Daemon.SMCReader

/-! # `smc.decode`

The Linux daemon decodes what applesmc gives it for the same keys, but goes by
the stripped type code and does not look at the size. What the C decoder takes
for a number is the same number here.
-/

namespace TurboMac.Linux

open Bytes Python

/-- `int(c, 16)`, none for a `ValueError`: a type code has no digits outside ASCII. -/
def hexadecimal (c : Char) : Option ℕ :=
  if c.isDigit then some (c.toNat - 48)
  else if 'a' ≤ c.toLower ∧ c.toLower ≤ 'f' then some (c.toLower.toNat - 87)
  else none

/-- `bytes.hex`. -/
def hex (data : List Byte) : List Char :=
  data.flatMap fun byte => [Nat.digitChar (byte.toNat / 16), Nat.digitChar (byte.toNat % 16)]

/-- What `decode` returns. -/
inductive Decoded where
  /-- a float, none for one that is infinite or not a number -/
  | float (value : Option ℚ)
  | int (value : ℤ)
  | bool (value : Bool)
  | str (value : List Char)

/-- Its numeric value; a bool is 0 or 1. -/
def Decoded.numeric : Decoded → Option ℚ
  | .float value => value
  | .int value => some value
  | .bool value => some (if value then 1 else 0)
  | .str _ => none

/-- `int.from_bytes(data, "big", signed=signed)`. -/
def fromBytes (data : List Byte) (isSigned : Bool) : ℤ :=
  if isSigned then signed data else unsigned data

/-- `struct.unpack("<f", data)`. -/
def unpackFloat (data : List Byte) : Option ℚ :=
  float32 (BitVec.ofNat 32 (unsigned data.reverse))

/-- A code of four characters has a last one. -/
theorem third_lt {t : List Char} {P : Prop} (h : t.length = 4 ∧ P) : 3 < t.length := by
  omega

/-- `decode` of the stripped type code. -/
def decodeStripped (t : List Char) (data : List Byte) : Decoded :=
  if t = "flt".toList ∧ 4 ≤ data.length then .float (unpackFloat (data.take 4))
  else if t ∈ ["ui8".toList, "ui16".toList, "ui32".toList, "ui64".toList] then
    .int (fromBytes data false)
  else if t ∈ ["si8".toList, "si16".toList, "si32".toList, "si64".toList] then
    .int (fromBytes data true)
  else if t = "sp78".toList ∧ 2 ≤ data.length then .float (some (fromBytes (data.take 2) true / 256))
  else if t = "fpe2".toList ∧ 2 ≤ data.length then .float (some (fromBytes (data.take 2) false / 4))
  else if h : t.length = 4 ∧ (t.take 2 = "fp".toList ∨ t.take 2 = "sp".toList) ∧ 2 ≤ data.length then
    match hexadecimal (t.get ⟨3, third_lt h⟩) with
    | none => .str (hex data)
    | some frac => .float (some (fromBytes (data.take 2) (t.take 2 = "sp".toList) / 2 ^ frac))
  else if t = "flag".toList then .bool (data.head?.any (· ≠ 0))
  else .str (hex data)

/-- `decode`. -/
def decode (typ : List Char) (data : List Byte) : Decoded := decodeStripped (strip typ) data

/-! ## The raw value of the C decoder -/

section

open Daemon (SMCRawValue)

variable {value : SMCRawValue}

theorem typeText_length (value : SMCRawValue) : value.typeText.length = 4 := by
  unfold SMCRawValue.typeText
  rw [List.length_map, Vector.length_toList]
  rfl

/-- A comparison of all four characters. -/
theorem typeText_eq {code : String} (hlength : code.length = 4) (h : value.typeIs code = true) :
    value.typeText = code.toList := by
  have heq := beq_iff_eq.mp h
  rwa [hlength, List.take_of_length_le (by rw [typeText_length])] at heq

theorem take_four (bytes : Vector Byte Daemon.smcMaxDataSize) :
    bytes.toList.take 4 = [bytes[0], bytes[1], bytes[2], bytes[3]] := by
  obtain ⟨⟨list⟩, hsize⟩ := bytes
  match list, hsize with
  | _ :: _ :: _ :: _ :: _, _ => rfl

/-- What is there of at most four bytes. -/
theorem data_eq {n : ℕ} (h : value.size.toNat = n) (hn : n ≤ 4) :
    value.data = [value.bytes[0], value.bytes[1], value.bytes[2], value.bytes[3]].take n := by
  unfold SMCRawValue.data
  rw [h, ← take_four, List.take_take, min_eq_left hn]

theorem readBE16_eq (bytes : Vector Byte Daemon.smcMaxDataSize) :
    (Daemon.readBE16 bytes).toNat = unsigned [bytes[0], bytes[1]] :=
  toNat_concat (toNat_singleton _) _

theorem readBE16_signed (bytes : Vector Byte Daemon.smcMaxDataSize) :
    (Daemon.readBE16 bytes).toInt = signed [bytes[0], bytes[1]] :=
  @toInt_eq_signed [bytes[0], bytes[1]] (Daemon.readBE16 bytes) (readBE16_eq bytes)

theorem readBE32_eq (bytes : Vector Byte Daemon.smcMaxDataSize) :
    (Daemon.readBE32 bytes).toNat = unsigned [bytes[0], bytes[1], bytes[2], bytes[3]] :=
  toNat_concat (toNat_concat (toNat_concat (toNat_singleton _) _) _) _

theorem readFloat_eq (bytes : Vector Byte Daemon.smcMaxDataSize) :
    (Daemon.readFloat bytes).toNat = unsigned [bytes[3], bytes[2], bytes[1], bytes[0]] :=
  toNat_concat (toNat_concat (toNat_concat (toNat_singleton _) _) _) _

/-- The digits of the C decoder are those of `int`. -/
theorem hexadecimal_eq (byte : Byte) :
    hexadecimal (Char.ofNat byte.toNat) = Daemon.hexadecimalDigit (Char.ofNat byte.toNat) := by
  have hall : ∀ n : Fin 256,
      hexadecimal (Char.ofNat n) = Daemon.hexadecimalDigit (Char.ofNat n) := by decide +kernel
  exact hall byte.toFin

theorem not_isSpace_of_hexadecimal (byte : Byte)
    (h : (Daemon.hexadecimalDigit (Char.ofNat byte.toNat)).isSome) :
    isSpace (Char.ofNat byte.toNat) = false := by
  have hall : ∀ n : Fin 256, (Daemon.hexadecimalDigit (Char.ofNat n)).isSome →
      isSpace (Char.ofNat n) = false := by decide +kernel
  exact hall byte.toFin h

/-! ## One type code after the other -/

theorem decode_unsigned {typ : List Char} (data : List Byte)
    (h : typ = "ui8 ".toList ∨ typ = "ui16".toList ∨ typ = "ui32".toList) :
    decode typ data = .int (fromBytes data false) := by
  rcases h with rfl | rfl | rfl
  · rfl
  · rfl
  · rfl

theorem decode_signed {typ : List Char} (data : List Byte)
    (h : typ = "si8 ".toList ∨ typ = "si16".toList) :
    decode typ data = .int (fromBytes data true) := by
  rcases h with rfl | rfl
  · rfl
  · rfl

theorem decode_float (b0 b1 b2 b3 : Byte) :
    decode "flt ".toList [b0, b1, b2, b3] = .float (unpackFloat [b0, b1, b2, b3]) := rfl

theorem decode_flag (b0 : Byte) : decode "flag".toList [b0] = .bool (decide (b0 ≠ 0)) := rfl

/-- The generic rule and the two special cases of fixed point say the same. -/
theorem decode_fixed {c2 c3 : Char} {fractionalBits : ℕ} (hspace : isSpace c3 = false)
    (hdigit : hexadecimal c3 = some fractionalBits) (isSigned : Bool) (b0 b1 : Byte) :
    decode [if isSigned then 's' else 'f', 'p', c2, c3] [b0, b1] =
      .float (some (fromBytes [b0, b1] isSigned / 2 ^ fractionalBits)) := by
  have hfirst : isSpace (if isSigned then 's' else 'f') = false := by
    cases isSigned
    · rfl
    · rfl
  have hstrip : strip [if isSigned then 's' else 'f', 'p', c2, c3] =
      [if isSigned then 's' else 'f', 'p', c2, c3] := by
    apply strip_eq
    · rintro c hc
      exact Option.some.inj hc ▸ hfirst
    · rintro c hc
      exact Option.some.inj hc ▸ hspace
  unfold decode decodeStripped
  rw [hstrip]
  cases isSigned with
  | true =>
      simp
      split
      · rename_i h
        obtain ⟨rfl, rfl⟩ := h
        obtain rfl : 8 = fractionalBits := by simpa [hexadecimal] using hdigit
        norm_num
      · simp [hdigit]
  | false =>
      simp
      split
      · rename_i h
        obtain ⟨rfl, rfl⟩ := h
        obtain rfl : 2 = fractionalBits := by simpa [hexadecimal] using hdigit
        norm_num
      · simp [hdigit]

/-- The four characters of a code that starts with "sp" or "fp". -/
theorem typeText_fixed {isSigned : Bool} (h : value.typeIs (if isSigned then "sp" else "fp")) :
    ∃ c2, value.typeText =
      [if isSigned then 's' else 'f', 'p', c2, Char.ofNat value.type[3].toNat] := by
  have hlist : value.typeText = value.type.toList.map fun byte => Char.ofNat byte.toNat := rfl
  unfold SMCRawValue.typeIs at h
  generalize value.type = type at hlist ⊢
  obtain ⟨⟨list⟩, hsize⟩ := type
  match list, hsize with
  | [a, b, c, d], _ =>
    rw [hlist] at h ⊢
    refine ⟨Char.ofNat c.toNat, ?_⟩
    cases isSigned with
    | true =>
        have heq : [Char.ofNat a.toNat, Char.ofNat b.toNat] = ['s', 'p'] := beq_iff_eq.mp h
        simp only [List.cons.injEq, and_true] at heq
        simp [heq.1, heq.2]
    | false =>
        have heq : [Char.ofNat a.toNat, Char.ofNat b.toNat] = ['f', 'p'] := beq_iff_eq.mp h
        simp only [List.cons.injEq, and_true] at heq
        simp [heq.1, heq.2]

theorem fixed_agrees {isSigned : Bool} {fractionalBits : ℕ}
    (htype : value.typeIs (if isSigned then "sp" else "fp"))
    (hdigit : Daemon.hexadecimalDigit (Char.ofNat value.type[3].toNat) = some fractionalBits)
    (hsize : value.size = 2) :
    decode value.typeText value.data =
      .float (some (fromBytes [value.bytes[0], value.bytes[1]] isSigned / 2 ^ fractionalBits)) := by
  obtain ⟨c2, htext⟩ := typeText_fixed htype
  have hspace := not_isSpace_of_hexadecimal value.type[3] (by rw [hdigit]; rfl)
  rw [htext, data_eq (n := 2) (by rw [hsize]; rfl) (by omega)]
  exact decode_fixed hspace ((hexadecimal_eq _).trans hdigit) isSigned _ _

theorem smcDecodeFixed_agrees (decoded : ℚ) (h : Daemon.smcDecodeFixed value = some decoded) :
    (decode value.typeText value.data).numeric = some decoded := by
  unfold Daemon.smcDecodeFixed at h
  cases hdigit : Daemon.hexadecimalDigit (Char.ofNat value.type[3].toNat) with
  | none => simp [hdigit] at h
  | some fractionalBits =>
      simp only [hdigit, Option.ite_none_right_eq_some, Option.some.injEq] at h
      obtain ⟨⟨hsize, htype⟩, rfl⟩ := h
      split
      · rename_i hsp
        rw [@fixed_agrees value true _ hsp hdigit hsize, readBE16_signed]
        simp [Decoded.numeric, fromBytes]
      · rename_i hsp
        have hfp := htype.resolve_left hsp
        rw [@fixed_agrees value false _ hfp hdigit hsize, readBE16_eq]
        simp [Decoded.numeric, fromBytes]

/-- Whatever the C decoder accepts, `decode` gives the same number for. -/
theorem decode_agrees (value : SMCRawValue) (decoded : ℚ)
    (h : Daemon.smcDecodeNumeric value = some decoded) :
    (decode value.typeText value.data).numeric = some decoded := by
  have hsize : ∀ {n : ℕ}, value.size = BitVec.ofNat 32 n → n ≤ 4 → value.data =
      [value.bytes[0], value.bytes[1], value.bytes[2], value.bytes[3]].take n := by
    intro n hn hle
    refine data_eq ?_ hle
    rw [hn, BitVec.toNat_ofNat]
    exact Nat.mod_eq_of_lt (by omega)
  unfold Daemon.smcDecodeNumeric at h
  split_ifs at h with hflt hui8 hui16 hui32 hsi8 hsi16 hflag hzero
  · have hbits : BitVec.ofNat 32 (unsigned [value.bytes[3], value.bytes[2], value.bytes[1],
        value.bytes[0]]) = Daemon.readFloat value.bytes := by
      rw [← readFloat_eq, BitVec.ofNat_toNat, BitVec.setWidth_eq]
    rw [typeText_eq rfl hflt.1, hsize (n := 4) hflt.2 (by omega), List.take_succ_cons,
      List.take_succ_cons, List.take_succ_cons, List.take_succ_cons, List.take_zero, decode_float,
      ← h, ← hbits]
    rfl
  · rw [decode_unsigned _ (.inl (typeText_eq rfl hui8.1)), hsize (n := 1) hui8.2 (by omega), ← h]
    simp [Decoded.numeric, fromBytes, unsigned]
  · rw [decode_unsigned _ (.inr (.inl (typeText_eq rfl hui16.1))), hsize (n := 2) hui16.2 (by omega),
      ← h, readBE16_eq]
    simp [Decoded.numeric, fromBytes]
  · rw [decode_unsigned _ (.inr (.inr (typeText_eq rfl hui32.1))), hsize (n := 4) hui32.2 (by omega),
      ← h, readBE32_eq]
    simp [Decoded.numeric, fromBytes]
  · rw [decode_signed _ (.inl (typeText_eq rfl hsi8.1)), hsize (n := 1) hsi8.2 (by omega), ← h,
      @toInt_eq_signed [value.bytes[0]] value.bytes[0] (toNat_singleton _)]
    simp [Decoded.numeric, fromBytes]
  · rw [decode_signed _ (.inr (typeText_eq rfl hsi16.1)), hsize (n := 2) hsi16.2 (by omega), ← h,
      readBE16_signed]
    simp [Decoded.numeric, fromBytes]
  · rw [typeText_eq rfl hflag.1, hsize (n := 1) hflag.2 (by omega), ← h,
      List.take_succ_cons, List.take_zero, decode_flag]
    simp [Decoded.numeric, hzero]
  · rw [typeText_eq rfl hflag.1, hsize (n := 1) hflag.2 (by omega), ← h,
      List.take_succ_cons, List.take_zero, decode_flag]
    simp [Decoded.numeric]
    exact hzero
  · exact smcDecodeFixed_agrees decoded h

/-- A temperature of 42.5 °C, as the SMC gives it. -/
def sampleTemperature : SMCRawValue where
  type := #v[0x73, 0x70, 0x37, 0x38]
  size := 2
  bytes := (Vector.replicate 32 0).set 0 0x2a |>.set 1 0x80

theorem decode_agrees_sampleTemperature :
    (decode sampleTemperature.typeText sampleTemperature.data).numeric = some (85 / 2) :=
  decode_agrees sampleTemperature (85 / 2) (by decide +kernel)

end

end TurboMac.Linux
