import SystemsDemos.Text.Stream
import Mathlib.Data.List.Basic

/-!
# CAN frames and candump lines

`can_frame.hpp`: a frame, the candump text `123#11223344` that it is read from and written to,
and the little-endian access to 16-bit values of its payload.  A line is cut at its first `#`;
the id and each pair of payload characters are read by stream extraction.

### Outline

* `CanFrame`, `CanError`;
* `parseHexId`, `parseHexByte`, `parseCandumpLine`;
* `formatCandumpLine`;
* `readInt16Le`, `writeInt16Le`;
* the round trip `parseCandumpLine_formatCandumpLine`.
-/

namespace SystemsDemos

/-- A CAN frame. -/
structure CanFrame where
  id : UInt32
  data : List UInt8
  deriving DecidableEq

/-- How a function on frames fails. -/
inductive CanError
  /-- A `std::runtime_error` with its text. -/
  | runtimeError (what : String)
  /-- An access to an element that the vector does not have, which is undefined behaviour. -/
  | outOfBounds (index : ℕ)
  deriving DecidableEq

/-! ### Reading a line -/

/-- `parseHexId`. -/
def parseHexId (text : Text) : Except CanError UInt32 :=
  match readUnsigned 16 32 text with
  | none => .error (.runtimeError "expected standard 11-bit CAN id")
  | some value =>
      if value > 0x7FF then .error (.runtimeError "expected standard 11-bit CAN id")
      else .ok (UInt32.ofNat value)

/-- `parseHexByte`. -/
def parseHexByte (text : Text) : Except CanError UInt8 :=
  if text.length ≠ 2 then
    .error (.runtimeError "CAN data byte must contain two hex characters")
  else
    match readUnsigned 16 32 text with
    | none => .error (.runtimeError "invalid CAN data byte")
    | some value =>
        if value > 0xFF then .error (.runtimeError "invalid CAN data byte")
        else .ok (UInt8.ofNat value)

/-- The loop of `parseCandumpLine` over the payload, two characters at a time. -/
def parsePayload : Text → Except CanError (List UInt8)
  | [] => .ok []
  | [c] => do
      let byte ← parseHexByte [c]
      return [byte]
  | c :: d :: payload => do
      let byte ← parseHexByte [c, d]
      let data ← parsePayload payload
      return byte :: data

/-- `parseCandumpLine`. -/
def parseCandumpLine (line : Text) : Except CanError CanFrame :=
  match find '#' line with
  | none => .error (.runtimeError "expected candump payload like 123#11223344")
  | some hash => do
      let id ← parseHexId (line.take hash)
      let payload := line.drop (hash + 1)
      if payload.length % 2 ≠ 0 ∨ payload.length > 16 then
        .error (.runtimeError "classic CAN payload must contain 0 to 8 bytes")
      else do
        let data ← parsePayload payload
        return ⟨id, data⟩

/-! ### Writing a line -/

/-- `formatCandumpLine`. -/
def formatCandumpLine (frame : CanFrame) : Text :=
  let out := OStream.empty.setHex.setUppercase.setFill '0'
  let out := ((out.setWidth 3).putNat frame.id.toNat).putString "#"
  (frame.data.foldl (fun out byte => (out.setWidth 2).putNat byte.toNat) out).text

/-! ### Sixteen-bit values -/

/-- The successor of an offset, a `size_t`. -/
def nextOffset (offset : ℕ) : ℕ := (offset + 1) % 2 ^ 64

/-- `data[index]`. -/
def byteAt (data : List UInt8) (index : ℕ) : Except CanError UInt8 :=
  match data[index]? with
  | none => .error (.outOfBounds index)
  | some byte => .ok byte

/-- `data[index] = byte`. -/
def setByteAt (data : List UInt8) (index : ℕ) (byte : UInt8) : Except CanError (List UInt8) :=
  if index < data.length then .ok (data.set index byte) else .error (.outOfBounds index)

/-- `readInt16Le`; the result is an `int16_t`. -/
def readInt16Le (data : List UInt8) (offset : ℕ) : Except CanError ℤ :=
  if nextOffset offset ≥ data.length then
    .error (.runtimeError "not enough CAN payload bytes for int16")
  else do
    let low ← byteAt data offset
    let high ← byteAt data (nextOffset offset)
    let raw : ℕ := low.toNat ||| (high.toNat <<< 8) % 2 ^ 16
    return Int.bmod raw (2 ^ 16)

/-- `writeInt16Le`; the value is an `int16_t`. -/
def writeInt16Le (data : List UInt8) (offset : ℕ) (value : ℤ) :
    Except CanError (List UInt8) :=
  if nextOffset offset ≥ data.length then
    .error (.runtimeError "not enough CAN payload bytes for int16")
  else do
    let raw := (value % 2 ^ 16).toNat
    let data ← setByteAt data offset (UInt8.ofNat (raw &&& 0xFF))
    setByteAt data (nextOffset offset) (UInt8.ofNat ((raw >>> 8) &&& 0xFF))

/-! ### What is written -/

/-- A number in upper-case hexadecimal, filled up with zeros to a width. -/
def hexText (width n : ℕ) : Text :=
  let text := (digits 16 n).map Char.toUpper
  List.replicate (width - text.length) '0' ++ text

/-- Leading zeros do not change a number. -/
lemma numeral_replicate_append (k : ℕ) (text : Text) :
    numeral 16 (List.replicate k '0' ++ text) = numeral 16 text := by
  induction k with
  | zero => simp
  | succ k ih =>
    have hzero : (digitValue 16 '0').getD 0 = 0 := rfl
    rw [List.replicate_succ, List.cons_append]
    simpa [numeral, hzero] using ih

/-- What is written is a numeral. -/
lemma isNumeral_hexText (width n : ℕ) : IsNumeral 16 (hexText width n) := by
  obtain ⟨hne, hall⟩ : IsNumeral 16 (digits 16 n) := isNumeral_digits (by decide) (by decide) n
  refine ⟨by simp [hexText, hne], ?_⟩
  intro c hc
  rcases List.mem_append.mp hc with hzero | hdigit
  · obtain rfl := List.eq_of_mem_replicate hzero
    rfl
  · obtain ⟨x, hx, rfl⟩ := List.mem_map.mp hdigit
    simpa using hall x hx

/-- What is written stands for the number. -/
lemma numeral_hexText (width n : ℕ) : numeral 16 (hexText width n) = n := by
  have hvalue : numeral 16 (digits 16 n) = n := numeral_digits (by decide) (by decide) n
  rw [hexText, numeral_replicate_append, numeral_map_toUpper, hvalue]

/-- A number that fits the width is written with exactly that many digits. -/
lemma length_hexText {width n : ℕ} (hwidth : 0 < width) (hn : n < 16 ^ width) :
    (hexText width n).length = width := by
  have hlen : (digits 16 n).length ≤ width := length_digits_le (by decide) hwidth hn
  simp only [hexText, List.length_append, List.length_replicate, List.length_map]
  omega

private lemma text_foldl_putByte (data : List UInt8) {out : OStream} (hhex : out.hex = true)
    (hupper : out.uppercase = true) (hfill : out.fill = '0') :
    (data.foldl (fun out byte => (out.setWidth 2).putNat byte.toNat) out).text =
      out.text ++ data.flatMap fun byte => hexText 2 byte.toNat := by
  induction data generalizing out with
  | nil => simp
  | cons byte data ih =>
    have hnext : ((out.setWidth 2).putNat byte.toNat).text =
        out.text ++ hexText 2 byte.toNat := by
      simp [OStream.putNat, OStream.put, OStream.format, OStream.setWidth, hexText, hhex, hupper,
        hfill]
    have hrest := @ih ((out.setWidth 2).putNat byte.toNat) hhex hupper hfill
    rw [List.foldl_cons, hrest, hnext, List.flatMap_cons, List.append_assoc]

/-- The text of a frame: three digits or more for the id, and two for each byte. -/
lemma formatCandumpLine_eq (frame : CanFrame) :
    formatCandumpLine frame =
      hexText 3 frame.id.toNat ++ '#' :: frame.data.flatMap fun byte => hexText 2 byte.toNat := by
  have hdata := @text_foldl_putByte frame.data
    (((OStream.empty.setHex.setUppercase.setFill '0').setWidth 3).putNat
      frame.id.toNat |>.putString "#") rfl rfl rfl
  have hstart : ((((OStream.empty.setHex.setUppercase.setFill '0').setWidth 3).putNat
      frame.id.toNat).putString "#").text = hexText 3 frame.id.toNat ++ ['#'] := by
    have hsharp : "#".toList = ['#'] := rfl
    simp [OStream.putString, OStream.putNat, OStream.put, OStream.format, OStream.setWidth,
      OStream.setFill, OStream.setUppercase, OStream.setHex, OStream.empty, hexText, hsharp]
  unfold formatCandumpLine
  dsimp only
  rw [hdata, hstart, List.append_assoc, List.singleton_append]

/-! ### The round trip -/

/-- An id that is written as a numeral in range is read. -/
lemma parseHexId_of_isNumeral {text : Text} (h : IsNumeral 16 text)
    (hrange : numeral 16 text ≤ 0x7FF) :
    parseHexId text = .ok (UInt32.ofNat (numeral 16 text)) := by
  have hread := readUnsigned_of_isNumeral (w := 32) h (by omega)
  have hle : ¬numeral 16 text > 0x7FF := by omega
  simp [parseHexId, hread, hle]

/-- Two digits are read as a byte. -/
lemma parseHexByte_of_isNumeral {text : Text} (h : IsNumeral 16 text) (hlen : text.length = 2)
    (hrange : numeral 16 text ≤ 0xFF) :
    parseHexByte text = .ok (UInt8.ofNat (numeral 16 text)) := by
  have hread := readUnsigned_of_isNumeral (w := 32) h (by omega)
  have hle : ¬numeral 16 text > 0xFF := by omega
  simp [parseHexByte, hlen, hread, hle]

/-- A byte is read back from the two digits it is written with. -/
lemma parseHexByte_hexText (byte : UInt8) : parseHexByte (hexText 2 byte.toNat) = .ok byte := by
  have hbyte : byte.toNat < 16 ^ 2 := byte.toNat_lt
  have hparse := parseHexByte_of_isNumeral (isNumeral_hexText 2 byte.toNat)
    (length_hexText (by decide) hbyte) (by rw [numeral_hexText]; omega)
  rw [hparse, numeral_hexText, UInt8.ofNat_toNat]

/-- Every byte takes two digits. -/
lemma length_flatMap_hexText (data : List UInt8) :
    (data.flatMap fun byte => hexText 2 byte.toNat).length = 2 * data.length := by
  induction data with
  | nil => rfl
  | cons byte data ih =>
    have hbyte : byte.toNat < 16 ^ 2 := byte.toNat_lt
    rw [List.flatMap_cons, List.length_append, ih, length_hexText (by decide) hbyte,
      List.length_cons]
    omega

/-- A payload is read back from the digits it is written with. -/
lemma parsePayload_flatMap (data : List UInt8) :
    parsePayload (data.flatMap fun byte => hexText 2 byte.toNat) = .ok data := by
  induction data with
  | nil => rfl
  | cons byte data ih =>
    have hbyte : byte.toNat < 16 ^ 2 := byte.toNat_lt
    have hlen : (hexText 2 byte.toNat).length = 2 := length_hexText (by decide) hbyte
    obtain ⟨c, d, hpair⟩ := List.length_eq_two.mp hlen
    have hfirst : parseHexByte [c, d] = .ok byte := hpair ▸ parseHexByte_hexText byte
    rw [List.flatMap_cons, hpair, List.cons_append, List.cons_append, List.nil_append,
      parsePayload, hfirst, ih]
    rfl

/-- The first `#` of a line determines how it is cut. -/
lemma append_hash_inj {a b c d : Text} (ha : '#' ∉ a) (hc : '#' ∉ c)
    (h : a ++ '#' :: b = c ++ '#' :: d) : a = c ∧ b = d := by
  have hlen : a.length = c.length := by
    have hfind := find_append ha b
    rw [h, find_append hc d] at hfind
    exact (Option.some.inj hfind).symm
  obtain ⟨hac, hbd⟩ := List.append_inj h hlen
  exact ⟨hac, (List.cons.inj hbd).2⟩

/-- **What `parseCandumpLine` accepts.**  The line is cut at its first `#`; the id is parsed, the
payload has an even length of at most sixteen, and every pair of its characters is parsed. -/
theorem parseCandumpLine_eq_ok_iff {line : Text} {frame : CanFrame} :
    parseCandumpLine line = .ok frame ↔
      ∃ id payload : Text, line = id ++ '#' :: payload ∧ '#' ∉ id ∧
        parseHexId id = .ok frame.id ∧ (payload.length % 2 = 0 ∧ payload.length ≤ 16) ∧
        parsePayload payload = .ok frame.data := by
  unfold parseCandumpLine
  cases hfind : find '#' line with
  | none =>
    have hno : '#' ∉ line := find_eq_none_iff.mp hfind
    refine ⟨by simp, ?_⟩
    rintro ⟨id, payload, rfl, -⟩
    simp at hno
  | some hash =>
    obtain ⟨id, payload, rfl, hid, rfl⟩ := exists_append_of_find hfind
    have htake : (id ++ '#' :: payload).take id.length = id := List.take_left
    have hdrop : (id ++ '#' :: payload).drop (id.length + 1) = payload := by
      rw [List.append_cons]
      exact List.drop_left' (by simp)
    dsimp only
    rw [htake, hdrop]
    constructor
    · intro h
      obtain ⟨canId, hparse, h⟩ := bind_eq_ok_iff.mp h
      split at h
      · cases h
      · next hlen =>
        obtain ⟨data, hdata, h⟩ := bind_eq_ok_iff.mp h
        obtain rfl : (⟨canId, data⟩ : CanFrame) = frame := Except.ok.inj h
        exact ⟨id, payload, rfl, hid, hparse, by omega, hdata⟩
    · rintro ⟨id', payload', heq, hid', hparse, hlen, hdata⟩
      obtain ⟨rfl, rfl⟩ := append_hash_inj hid hid' heq
      have hok : ¬(payload.length % 2 ≠ 0 ∨ payload.length > 16) := by omega
      refine bind_eq_ok_iff.mpr ⟨frame.id, hparse, ?_⟩
      rw [if_neg hok]
      exact bind_eq_ok_iff.mpr ⟨frame.data, hdata, rfl⟩

/-- The character `#` is no digit. -/
lemma not_mem_of_isNumeral {text : Text} (h : IsNumeral 16 text) : '#' ∉ text := by
  intro hmem
  have hdigit := h.2 '#' hmem
  cases hdigit

/-- **Every frame is read back from its line.**  A standard id is written with three digits and
each byte with two, so the cut at `#` and the cut into pairs meet the pieces that were written. -/
theorem parseCandumpLine_formatCandumpLine (frame : CanFrame) (hid : frame.id ≤ 0x7FF)
    (hdata : frame.data.length ≤ 8) :
    parseCandumpLine (formatCandumpLine frame) = .ok frame := by
  have hidNat : frame.id.toNat ≤ 0x7FF := UInt32.le_iff_toNat_le.mp hid
  have hnumeral := isNumeral_hexText 3 frame.id.toNat
  have hvalue := numeral_hexText 3 frame.id.toNat
  have hparseId : parseHexId (hexText 3 frame.id.toNat) = .ok frame.id := by
    rw [parseHexId_of_isNumeral hnumeral (by omega), hvalue, UInt32.ofNat_toNat]
  refine parseCandumpLine_eq_ok_iff.mpr ⟨hexText 3 frame.id.toNat, _, formatCandumpLine_eq frame,
    not_mem_of_isNumeral hnumeral, hparseId, ?_, parsePayload_flatMap frame.data⟩
  rw [length_flatMap_hexText]
  omega

/-- The status frame `181#E803` is read back. -/
theorem parseCandumpLine_formatCandumpLine_status :
    parseCandumpLine (formatCandumpLine ⟨0x181, [0xE8, 0x03]⟩) = .ok ⟨0x181, [0xE8, 0x03]⟩ :=
  parseCandumpLine_formatCandumpLine ⟨0x181, [0xE8, 0x03]⟩ (by decide) (by decide)

end SystemsDemos
