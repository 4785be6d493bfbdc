import SystemsDemos.SocketCan.Bridge
import Mathlib.Tactic.Linarith

/-!
# Command frames on the bus

The way of a command through `makeCommandFrame`, `formatCandumpLine`, `parseCandumpLine` and
`readInt16Le`.  Nothing on this way refuses a command; the id is taken modulo `2^32`, the two
values modulo `2^16`.  A command arrives as it was meant exactly when its id is a standard id and
both values fit an `int16_t` (`command_arrives_iff`).

### Outline

* `lround` is the nearest integer;
* the bytes of an `int16_t`, and reading them back;
* the frame of a command;
* lines with an id that is no standard id;
* `CommandArrives` and `command_arrives_iff`.
-/

namespace SystemsDemos

/-- No integer is nearer than `lround`. -/
lemma abs_sub_lround_le (x : ℚ) : |x - lround x| ≤ 1 / 2 := by
  unfold lround
  rw [abs_le]
  split
  · have hlow := Int.floor_le (x + 1 / 2)
    have hhigh := Int.lt_floor_add_one (x + 1 / 2)
    constructor <;> linarith
  · have hlow := Int.floor_le (-x + 1 / 2)
    have hhigh := Int.lt_floor_add_one (-x + 1 / 2)
    push_cast
    constructor <;> linarith

/-! ### Sixteen bits -/

/-- The value fits an `int16_t`. -/
def FitsInt16 (n : ℤ) : Prop := -2 ^ 15 ≤ n ∧ n < 2 ^ 15

/-- A value survives the conversion exactly when it fits. -/
lemma int16_eq_self_iff {n : ℤ} : int16 n = n ↔ FitsInt16 n := by
  constructor
  · intro h
    have hlow : -2 ^ 15 ≤ int16 n := Int.le_bmod (by decide)
    have hhigh : int16 n < 2 ^ 15 := Int.bmod_lt (by decide)
    exact ⟨h ▸ hlow, h ▸ hhigh⟩
  · rintro ⟨hlow, hhigh⟩
    exact Int.bmod_eq_of_le_mul_two (by omega) (by omega)

/-- The bits of the value. -/
def rawInt16 (value : ℤ) : ℕ := (value % 2 ^ 16).toNat

/-- `raw & 0xFF`. -/
def lowByte (value : ℤ) : UInt8 := UInt8.ofNat (rawInt16 value &&& 0xFF)

/-- `(raw >> 8) & 0xFF`. -/
def highByte (value : ℤ) : UInt8 := UInt8.ofNat ((rawInt16 value >>> 8) &&& 0xFF)

/-- The two bytes of a 16-bit number. -/
lemma or_bytes {raw : ℕ} (h : raw < 2 ^ 16) :
    (UInt8.ofNat (raw &&& 0xFF)).toNat |||
      ((UInt8.ofNat ((raw >>> 8) &&& 0xFF)).toNat <<< 8) % 2 ^ 16 = raw := by
  have hmask : (0xFF : ℕ) = 2 ^ 8 - 1 := rfl
  have hlow : raw &&& 0xFF = raw % 2 ^ 8 := by rw [hmask, Nat.and_two_pow_sub_one_eq_mod]
  have hhigh : (raw >>> 8) &&& 0xFF = raw / 2 ^ 8 := by
    rw [hmask, Nat.and_two_pow_sub_one_eq_mod, Nat.shiftRight_eq_div_pow]
    exact Nat.mod_eq_of_lt (by omega)
  have hlowNat : (UInt8.ofNat (raw % 2 ^ 8)).toNat = raw % 2 ^ 8 := by
    rw [UInt8.toNat_ofNat']
    omega
  have hhighNat : (UInt8.ofNat (raw / 2 ^ 8)).toNat = raw / 2 ^ 8 := by
    rw [UInt8.toNat_ofNat']
    omega
  have hshift : (raw / 2 ^ 8) <<< 8 < 2 ^ 16 := by
    rw [Nat.shiftLeft_eq]
    omega
  rw [hlow, hhigh, hlowNat, hhighNat, Nat.mod_eq_of_lt hshift, Nat.or_comm,
    ← Nat.shiftLeft_add_eq_or_of_lt (by omega), Nat.shiftLeft_eq]
  omega

/-- The value is read back from its two bytes. -/
lemma readInt16Le_bytes {data : List UInt8} {offset : ℕ} {value : ℤ}
    (hoffset : nextOffset offset < data.length)
    (hlow : data[offset]? = some (lowByte value))
    (hhigh : data[nextOffset offset]? = some (highByte value)) :
    readInt16Le data offset = .ok (int16 value) := by
  have hraw : rawInt16 value < 2 ^ 16 := by
    unfold rawInt16
    omega
  have hcast : ((rawInt16 value : ℕ) : ℤ) = value % 2 ^ 16 := by
    unfold rawInt16
    omega
  have hvalue : Int.bmod (rawInt16 value) (2 ^ 16) = int16 value := by
    rw [hcast]
    exact Int.emod_bmod value (2 ^ 16)
  unfold readInt16Le
  rw [if_neg (by omega), byteAt, byteAt, hlow, hhigh]
  change Except.ok (Int.bmod
    (((lowByte value).toNat ||| ((highByte value).toNat <<< 8) % 2 ^ 16 : ℕ) : ℤ) (2 ^ 16)) = _
  rw [lowByte, highByte, or_bytes hraw, hvalue]

/-! ### The frame of a command -/

/-- The frame that `makeCommandFrame` builds from the id and the two rounded values. -/
def commandFrame (nodeId : Int32) (p v : ℤ) : CanFrame :=
  ⟨(0x200 + nodeId).toUInt32,
    [lowByte (int16 p), highByte (int16 p), lowByte (int16 v), highByte (int16 v), 0x01, 0x00, 0,
      0]⟩

/-- No command is refused. -/
lemma makeCommandFrame_eq (nodeId : Int32) (positionRad velocityRadS : ℚ) :
    makeCommandFrame nodeId positionRad velocityRadS =
      .ok (commandFrame nodeId (lround (positionRad * 1000)) (lround (velocityRadS * 1000))) :=
  rfl

/-- The position is read back from the frame. -/
lemma readInt16Le_position (nodeId : Int32) (p v : ℤ) :
    readInt16Le (commandFrame nodeId p v).data 0 = .ok (int16 (int16 p)) :=
  readInt16Le_bytes (show 1 < 8 by decide) rfl rfl

/-- The velocity is read back from the frame. -/
lemma readInt16Le_velocity (nodeId : Int32) (p v : ℤ) :
    readInt16Le (commandFrame nodeId p v).data 2 = .ok (int16 (int16 v)) :=
  readInt16Le_bytes (show 3 < 8 by decide) rfl rfl

/-- Converting twice is converting once. -/
lemma int16_int16 (n : ℤ) : int16 (int16 n) = int16 n :=
  Int.bmod_bmod

/-! ### The id -/

/-- The id of the frame is that of the command as long as it is a standard id. -/
lemma toNat_commandId {nodeId : Int32} (hlow : 0 ≤ 0x200 + nodeId.toInt)
    (hhigh : 0x200 + nodeId.toInt ≤ 0x7FF) :
    (((0x200 + nodeId).toUInt32.toNat : ℕ) : ℤ) = 0x200 + nodeId.toInt := by
  have hsum : (0x200 + nodeId).toInt = 0x200 + nodeId.toInt := by
    have hbase : Int32.toInt 0x200 = 0x200 := rfl
    rw [Int32.toInt_add, hbase]
    exact Int.bmod_eq_of_le_mul_two (by omega) (by omega)
  have hnonneg : (0 : Int32) ≤ 0x200 + nodeId := by
    rw [Int32.le_iff_toInt_le, hsum]
    exact hlow
  rw [Int32.toNat_toUInt32_of_le hnonneg, ← hsum]
  exact Int.toNat_of_nonneg (by rw [hsum]; exact hlow)

/-- A line whose id is no standard id is not accepted. -/
lemma id_le_of_parse {frame frame' : CanFrame}
    (h : parseCandumpLine (formatCandumpLine frame) = .ok frame') : frame.id ≤ 0x7FF := by
  obtain ⟨id, payload, hline, hid, hparse, -⟩ := parseCandumpLine_eq_ok_iff.mp h
  have hnumeral := isNumeral_hexText 3 frame.id.toNat
  rw [formatCandumpLine_eq] at hline
  obtain ⟨rfl, -⟩ := append_hash_inj (not_mem_of_isNumeral hnumeral) hid hline
  have hvalue := numeral_hexText 3 frame.id.toNat
  have hread := readUnsigned_of_isNumeral (w := 32) hnumeral (by
    rw [hvalue]
    exact frame.id.toNat_lt)
  rw [parseHexId, hread, hvalue] at hparse
  dsimp only at hparse
  split at hparse
  · cases hparse
  · next hle => exact UInt32.le_iff_toNat_le.mpr (not_lt.mp hle)

/-! ### Commands that arrive -/

/-- The line of a command that is not refused is accepted, and its frame has the id and the two
values of the command. -/
def CommandArrives (nodeId : Int32) (positionRad velocityRadS : ℚ) : Prop :=
  ∀ frame, makeCommandFrame nodeId positionRad velocityRadS = .ok frame →
    ∃ received, parseCandumpLine (formatCandumpLine frame) = .ok received ∧
      (received.id.toNat : ℤ) = 0x200 + nodeId.toInt ∧
      readInt16Le received.data 0 = .ok (lround (positionRad * 1000)) ∧
      readInt16Le received.data 2 = .ok (lround (velocityRadS * 1000))

/-- **A command arrives as it was meant exactly when its id is a standard id and its values fit 16
bits.** -/
theorem command_arrives_iff (nodeId : Int32) (positionRad velocityRadS : ℚ) :
    CommandArrives nodeId positionRad velocityRadS ↔
      (0 ≤ 0x200 + nodeId.toInt ∧ 0x200 + nodeId.toInt ≤ 0x7FF) ∧
        FitsInt16 (lround (positionRad * 1000)) ∧ FitsInt16 (lround (velocityRadS * 1000)) := by
  constructor
  · intro h
    obtain ⟨received, hparse, hid, hp, hv⟩ := h _ (makeCommandFrame_eq _ _ _)
    have hle := id_le_of_parse hparse
    rw [parseCandumpLine_formatCandumpLine _ hle (Nat.le_refl 8)] at hparse
    obtain rfl := Except.ok.inj hparse
    rw [readInt16Le_position, int16_int16] at hp
    rw [readInt16Le_velocity, int16_int16] at hv
    refine ⟨⟨by omega, ?_⟩, int16_eq_self_iff.mp (Except.ok.inj hp),
      int16_eq_self_iff.mp (Except.ok.inj hv)⟩
    rw [← hid]
    exact_mod_cast UInt32.le_iff_toNat_le.mp hle
  · rintro ⟨⟨hlow, hhigh⟩, hp, hv⟩ frame hframe
    rw [makeCommandFrame_eq] at hframe
    obtain rfl := Except.ok.inj hframe
    have hid := toNat_commandId hlow hhigh
    have hle : (0x200 + nodeId).toUInt32 ≤ 0x7FF := by
      rw [UInt32.le_iff_toNat_le]
      have hbound : (((0x200 + nodeId).toUInt32.toNat : ℕ) : ℤ) ≤ 0x7FF := by
        rw [hid]
        exact hhigh
      exact_mod_cast hbound
    refine ⟨_, parseCandumpLine_formatCandumpLine _ hle (Nat.le_refl 8), hid, ?_, ?_⟩
    · rw [readInt16Le_position, int16_int16, int16_eq_self_iff.mpr hp]
    · rw [readInt16Le_velocity, int16_int16, int16_eq_self_iff.mpr hv]

/-- A position of 40 rad is sent as -25.536 rad. -/
theorem command_of_forty_rad :
    ¬∀ (nodeId : Int32) (positionRad velocityRadS : ℚ),
      CommandArrives nodeId positionRad velocityRadS := by
  intro h
  obtain ⟨received, hparse, -, hp, -⟩ := h 1 40 0 _ (makeCommandFrame_eq 1 40 0)
  have hline : parseCandumpLine (formatCandumpLine (commandFrame 1 (lround (40 * 1000))
      (lround (0 * 1000)))) = .ok ⟨0x201, [0x40, 0x9C, 0, 0, 1, 0, 0, 0]⟩ := by decide +kernel
  obtain rfl := Except.ok.inj (hline.symm.trans hparse)
  exact absurd hp (by decide +kernel)

end SystemsDemos
