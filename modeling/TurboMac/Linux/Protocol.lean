import TurboMac.Lib.Scanner
import TurboMac.Linux.JsonDumps

/-! # `protocol.py`

Newline-delimited JSON over a socket. A message is one line, since its text has no control
character, and it is read as it was sent however the socket cuts the bytes.
-/

namespace TurboMac.Linux

namespace Protocol

def newline : UInt8 := 10

def maxRequest : ℕ := 64 * 1024

/-! ## Messages -/

/-- `encode`. -/
def encode (repr : ℚ → List Char) (message : Json) : List UInt8 :=
  (message.dumps repr ++ ['\n']).flatMap String.utf8EncodeChar

/-- `decode`, with so many levels left. -/
def decode (levels : ℕ) (line : List UInt8) : Except JsonError (Dict Json) :=
  match line.toByteArray.utf8Decode? with
  | none => .error .value
  | some text =>
    match Json.loads levels text.toList with
    | .ok (.obj members) => .ok members
    | .ok _ => .error .value
    | .error error => .error error

/-- `ok`. -/
def okReply (result reqId : Json) : Json :=
  .obj [("ok", .bool true), ("result", result), ("id", reqId)]

/-- `error`. -/
def errorReply (msg : String) (reqId : Json) : Json :=
  .obj [("ok", .bool false), ("error", .str msg), ("id", reqId)]

end Protocol

/-- `bool(value)`. -/
def Json.truthy : Json → Bool
  | .null => false
  | .bool b => b
  | .int n => n != 0
  | .float q => q != 0
  | .nan | .infinity _ => true
  | .str s => s != ""
  | .arr items => !items.isEmpty
  | .obj members => !members.isEmpty

namespace Protocol

section

variable {repr : ℚ → List Char} {levels : ℕ} {value : Json}

theorem utf8EncodeChar_ascii {c : Char} (h : c.toNat ≤ 126) :
    String.utf8EncodeChar c = [c.val.toUInt8] := by
  apply String.utf8EncodeChar_eq_singleton
  unfold Char.utf8Size
  rw [if_pos]
  have hle : c.val.toNat ≤ 126 := h
  exact UInt32.le_iff_toNat_le.2 (hle.trans (by decide))

/-- The bytes of a message: one for each character, and the newline. -/
theorem encode_eq (h : value.Dumpable repr levels) :
    ∃ body, encode repr value = body ++ [newline] ∧ newline ∉ body ∧
      body.length = (value.dumps repr).length := by
  have hprinted := printed_dumps h
  have hbytes : ∀ text : List Char, Printed text →
      text.flatMap String.utf8EncodeChar = text.map fun c => c.val.toUInt8 := by
    intro text htext
    induction text with
    | nil => rfl
    | cons c text ih =>
        rw [List.flatMap_cons, utf8EncodeChar_ascii (htext c List.mem_cons_self).2,
          ih fun c hc => htext c (List.mem_cons_of_mem _ hc)]
        rfl
  refine ⟨(value.dumps repr).map fun c => c.val.toUInt8, ?_, ?_, List.length_map _⟩
  · unfold encode
    rw [List.flatMap_append, hbytes _ hprinted]
    rfl
  · intro hmem
    obtain ⟨c, hc, heq⟩ := List.mem_map.1 hmem
    have hlow := (hprinted c hc).1
    have hhigh := (hprinted c hc).2
    have hnat : c.val.toNat % 2 ^ 8 = 10 := by
      have hbyte : c.val.toUInt8.toNat = 10 := congrArg UInt8.toNat heq
      rwa [UInt32.toNat_toUInt8] at hbyte
    have hsame : c.val.toNat = c.toNat := rfl
    omega

/-- What is sent is what is received. -/
theorem decode_encode {members : Dict Json} (h : (Json.obj members).Dumpable repr levels) :
    decode levels (encode repr (.obj members)) = .ok members := by
  have hbytes : (encode repr (.obj members)).toByteArray =
      ((Json.obj members).dumps repr ++ ['\n']).utf8Encode := rfl
  unfold decode
  rw [hbytes, List.utf8Decode?_utf8Encode]
  dsimp only
  rw [loads_dumps h (by decide) (ends_cons (by decide) (by decide))]

theorem dumpable_okReply {result reqId : Json} (hresult : result.Dumpable repr levels)
    (hid : reqId.Dumpable repr levels) : (okReply result reqId).Dumpable repr (levels + 1) := by
  refine .obj (by simp) ?_
  intro member hmember
  simp only [List.mem_cons, List.not_mem_nil, or_false] at hmember
  rcases hmember with rfl | rfl | rfl
  · exact .bool true
  · exact hresult
  · exact hid

theorem dumpable_errorReply (msg : String) {reqId : Json} (hid : reqId.Dumpable repr levels) :
    (errorReply msg reqId).Dumpable repr (levels + 1) := by
  refine .obj (by simp) ?_
  intro member hmember
  simp only [List.mem_cons, List.not_mem_nil, or_false] at hmember
  rcases hmember with rfl | rfl | rfl
  · exact .bool false
  · exact .str msg
  · exact hid

end

end Protocol

end TurboMac.Linux
