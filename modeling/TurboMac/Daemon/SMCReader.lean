import TurboMac.Lib.Bytes
import TurboMac.Daemon.Profile

/-! # `SMCReader.c`

`smc_decode_numeric`: the number of a raw SMC value, by its type code. The
machine is little-endian: `ntohs` and `ntohl` swap, and a `float` is read from
its bytes the last first.
-/

namespace TurboMac.Daemon

open Bytes

/-- `SMC_MAX_DATA_SIZE`. -/
def smcMaxDataSize : ℕ := 32

/-- `SMC_KEY_LENGTH`. -/
def smcKeyLength : ℕ := 4

/-- `SMCRawValue`, of which the key is not read. -/
structure SMCRawValue where
  type : Vector Byte smcKeyLength
  size : BitVec 32
  bytes : Vector Byte smcMaxDataSize

namespace SMCRawValue

/-- The characters of the type code. -/
def typeText (value : SMCRawValue) : Text := value.type.toList.map fun byte => Char.ofNat byte.toNat

/-- The bytes that are there. -/
def data (value : SMCRawValue) : List Byte := value.bytes.toList.take value.size.toNat

/-- `memcmp(value->type, code, strlen(code)) == 0`. -/
def typeIs (value : SMCRawValue) (code : String) : Bool :=
  value.typeText.take code.length == code.toList

end SMCRawValue

/-- `read_be16`. -/
def readBE16 (bytes : Vector Byte smcMaxDataSize) : BitVec 16 := bytes[0] ++ bytes[1]

/-- `read_be32`. -/
def readBE32 (bytes : Vector Byte smcMaxDataSize) : BitVec 32 :=
  bytes[0] ++ bytes[1] ++ bytes[2] ++ bytes[3]

/-- The bits of the `float` that is copied from the first four bytes. -/
def readFloat (bytes : Vector Byte smcMaxDataSize) : BitVec 32 :=
  bytes[3] ++ bytes[2] ++ bytes[1] ++ bytes[0]

/-- `hexadecimal_digit`, none for -1. -/
def hexadecimalDigit (value : Char) : Option ℕ :=
  if '0' ≤ value ∧ value ≤ '9' then some (value.toNat - '0'.toNat)
  else if 'a' ≤ value ∧ value ≤ 'f' then some (value.toNat - 'a'.toNat + 10)
  else if 'A' ≤ value ∧ value ≤ 'F' then some (value.toNat - 'A'.toNat + 10)
  else none

/-- The fixed-point part of `smc_decode_numeric`. -/
def smcDecodeFixed (value : SMCRawValue) : Option ℚ :=
  let signedFixed := value.typeIs "sp"
  let unsignedFixed := value.typeIs "fp"
  match hexadecimalDigit (Char.ofNat value.type[3].toNat) with
  | none => none
  | some fractionalBits =>
    if value.size = 2 ∧ (signedFixed ∨ unsignedFixed) then
      let raw := readBE16 value.bytes
      let scale : ℚ := 2 ^ fractionalBits
      some (if signedFixed then raw.toInt / scale else raw.toNat / scale)
    else none

/-- `smc_decode_numeric`; what it accepts has at most 32 bits before it is scaled
by a power of two, so that the `double` is exact. -/
def smcDecodeNumeric (value : SMCRawValue) : Option ℚ :=
  if value.typeIs "flt " ∧ value.size = 4 then float32 (readFloat value.bytes)
  else if value.typeIs "ui8 " ∧ value.size = 1 then some value.bytes[0].toNat
  else if value.typeIs "ui16" ∧ value.size = 2 then some (readBE16 value.bytes).toNat
  else if value.typeIs "ui32" ∧ value.size = 4 then some (readBE32 value.bytes).toNat
  else if value.typeIs "si8 " ∧ value.size = 1 then some value.bytes[0].toInt
  else if value.typeIs "si16" ∧ value.size = 2 then some (readBE16 value.bytes).toInt
  else if value.typeIs "flag" ∧ value.size = 1 then some (if value.bytes[0] = 0 then 0 else 1)
  else smcDecodeFixed value

end TurboMac.Daemon
