import SystemsDemos.SocketCan.Command

/-!
# Sixteen-bit values in a payload

`readInt16Le` and `writeInt16Le` compare `offset + 1`, a `size_t`, with the size of the payload.
As long as the sum does not wrap, both bytes are inside whenever the test passes; then a value is
read back as it was written, the other bytes stay, and writes that do not overlap commute.  At the
last offset the sum is zero, every payload that is not empty passes, and the access is outside.

### Outline

* `writeInt16Le_eq`, `readInt16Le_eq_error_iff`;
* `Int16Law`, what the two functions promise;
* `int16Law_iff`.
-/

namespace SystemsDemos

variable {data : List UInt8} {offset offset' : ℕ} {value value' : ℤ}

/-! ### Inside and outside -/

/-- The payload with the two bytes of a value at an offset. -/
def setInt16 (data : List UInt8) (offset : ℕ) (value : ℤ) : List UInt8 :=
  (data.set offset (lowByte value)).set (offset + 1) (highByte value)

@[simp] lemma length_setInt16 : (setInt16 data offset value).length = data.length := by
  rw [setInt16, List.length_set, List.length_set]

/-- The text of the exception. -/
def notEnough : CanError := .runtimeError "not enough CAN payload bytes for int16"

/-- An offset whose successor is a `size_t`. -/
lemma nextOffset_of_lt (h : offset + 1 < 2 ^ 64) : nextOffset offset = offset + 1 :=
  Nat.mod_eq_of_lt h

/-- Writing where the sum does not wrap. -/
lemma writeInt16Le_eq (h : offset + 1 < 2 ^ 64) (value : ℤ) :
    writeInt16Le data offset value =
      if offset + 1 < data.length then .ok (setInt16 data offset value) else .error notEnough := by
  unfold writeInt16Le
  rw [nextOffset_of_lt h]
  by_cases hlt : offset + 1 < data.length
  · have hlow : setByteAt data offset (UInt8.ofNat ((value % 2 ^ 16).toNat &&& 0xFF)) =
        .ok (data.set offset (lowByte value)) := if_pos (by omega)
    have hhigh : setByteAt (data.set offset (lowByte value)) (offset + 1)
        (UInt8.ofNat (((value % 2 ^ 16).toNat >>> 8) &&& 0xFF)) =
        .ok (setInt16 data offset value) := if_pos (by rwa [List.length_set])
    rw [if_neg (by omega), if_pos hlt]
    exact bind_eq_ok_iff.mpr ⟨_, hlow, hhigh⟩
  · rw [if_pos (by omega), if_neg hlt]
    rfl

/-- Reading throws where a byte is not inside, and only there. -/
lemma readInt16Le_eq_error_iff (h : offset + 1 < 2 ^ 64) :
    (∃ what, readInt16Le data offset = .error (.runtimeError what)) ↔
      ¬(offset < data.length ∧ offset + 1 < data.length) := by
  unfold readInt16Le
  rw [nextOffset_of_lt h]
  by_cases hlt : offset + 1 < data.length
  · have hoffset : offset < data.length := by omega
    rw [if_neg (by omega), byteAt, byteAt, List.getElem?_eq_getElem hoffset,
      List.getElem?_eq_getElem hlt]
    refine iff_of_false ?_ fun hnot => hnot ⟨hoffset, hlt⟩
    rintro ⟨what, hwhat⟩
    cases hwhat
  · rw [if_pos (by omega)]
    exact iff_of_true ⟨_, rfl⟩ fun hand => hlt hand.2

/-- A value is read back where it was written. -/
lemma readInt16Le_setInt16 (hlt : offset + 1 < data.length) (h : offset + 1 < 2 ^ 64)
    (hvalue : FitsInt16 value) :
    readInt16Le (setInt16 data offset value) offset = .ok value := by
  have hlow : (setInt16 data offset value)[offset]? = some (lowByte value) := by
    rw [setInt16, List.getElem?_set_ne (by omega), List.getElem?_set_self (by omega)]
  have hhigh : (setInt16 data offset value)[offset + 1]? = some (highByte value) := by
    rw [setInt16, List.getElem?_set_self (by rwa [List.length_set])]
  rw [← nextOffset_of_lt h] at hhigh
  rw [readInt16Le_bytes (by rwa [nextOffset_of_lt h, length_setInt16]) hlow hhigh,
    int16_eq_self_iff.mpr hvalue]

/-- The other bytes stay. -/
lemma getElem?_setInt16 {i : ℕ} (hi : i ≠ offset) (hi' : i ≠ offset + 1) :
    (setInt16 data offset value)[i]? = data[i]? := by
  rw [setInt16, List.getElem?_set_ne hi'.symm, List.getElem?_set_ne hi.symm]

/-- Writes two or more apart touch different bytes. -/
lemma setInt16_comm (h : offset + 2 ≤ offset' ∨ offset' + 2 ≤ offset) :
    setInt16 (setInt16 data offset value) offset' value' =
      setInt16 (setInt16 data offset' value') offset value := by
  apply List.ext_getElem?
  intro i
  simp only [setInt16, List.getElem?_set, List.length_set]
  split_ifs <;> first | rfl | omega

/-! ### The law -/

/-- The payload after a call of `writeInt16Le`, which an exception leaves as it is; `none` when the
access is outside. -/
def afterWrite (data : List UInt8) (offset : ℕ) (value : ℤ) : Option (List UInt8) :=
  match writeInt16Le data offset value with
  | .ok data' => some data'
  | .error (.runtimeError _) => some data
  | .error (.outOfBounds _) => none

/-- What the access to a 16-bit value promises.  A write throws, or both bytes are inside, the
value is read back and the other bytes stay; writes two or more apart commute; a read throws
exactly when the bytes are not both inside. -/
structure Int16Law (data : List UInt8) (offset : ℕ) : Prop where
  write : ∀ value, FitsInt16 value →
    (∃ what, writeInt16Le data offset value = .error (.runtimeError what)) ∨
      ∃ data', writeInt16Le data offset value = .ok data' ∧
        (offset < data.length ∧ offset + 1 < data.length) ∧ data'.length = data.length ∧
        readInt16Le data' offset = .ok value ∧
        ∀ i, i ≠ offset → i ≠ offset + 1 → data'[i]? = data[i]?
  commute : ∀ offset' value value', offset' < 2 ^ 64 → FitsInt16 value → FitsInt16 value' →
    (offset + 2 ≤ offset' ∨ offset' + 2 ≤ offset) →
      (afterWrite data offset value).bind (afterWrite · offset' value') =
        (afterWrite data offset' value').bind (afterWrite · offset value)
  read : (∃ what, readInt16Le data offset = .error (.runtimeError what)) ↔
    ¬(offset < data.length ∧ offset + 1 < data.length)

/-- The payload after a write where the sum does not wrap. -/
lemma afterWrite_eq (h : offset + 1 < 2 ^ 64) :
    afterWrite data offset value =
      some (if offset + 1 < data.length then setInt16 data offset value else data) := by
  unfold afterWrite
  rw [writeInt16Le_eq h]
  split_ifs <;> rfl

/-- A write where the sum does not wrap is defined and changes no length. -/
lemma exists_afterWrite (h : offset + 1 < 2 ^ 64) (value : ℤ) :
    ∃ data', afterWrite data offset value = some data' ∧ data'.length = data.length := by
  refine ⟨_, afterWrite_eq h, ?_⟩
  split_ifs
  · exact length_setInt16
  · rfl

/-- A write at the last offset is outside of every payload that is not empty. -/
lemma writeInt16Le_last (hne : data ≠ []) (hlength : data.length < 2 ^ 64) (value : ℤ) :
    writeInt16Le data (2 ^ 64 - 1) value = .error (.outOfBounds (2 ^ 64 - 1)) := by
  have hpos := List.length_pos_iff.mpr hne
  have hnext : nextOffset (2 ^ 64 - 1) = 0 := rfl
  have hset : ∀ byte, setByteAt data (2 ^ 64 - 1) byte = .error (.outOfBounds (2 ^ 64 - 1)) :=
    fun byte => if_neg (by omega)
  unfold writeInt16Le
  rw [hnext, if_neg (by omega)]
  simp only [hset]
  rfl

/-- The payload after a write at the last offset is as before if it is empty, and undefined
otherwise. -/
lemma afterWrite_last (hlength : data.length < 2 ^ 64) :
    afterWrite data (2 ^ 64 - 1) value = if data = [] then some data else none := by
  unfold afterWrite
  split_ifs with hnil
  · subst hnil
    rfl
  · rw [writeInt16Le_last hnil hlength]

/-- What a write promises where the sum does not wrap. -/
lemma int16Law_of_lt (hlength : data.length < 2 ^ 64) (h : offset + 1 < 2 ^ 64) :
    Int16Law data offset where
  write value hvalue := by
    rw [writeInt16Le_eq h]
    by_cases hlt : offset + 1 < data.length
    · rw [if_pos hlt]
      exact .inr ⟨_, rfl, ⟨by omega, hlt⟩, length_setInt16, readInt16Le_setInt16 hlt h hvalue,
        fun i => getElem?_setInt16⟩
    · rw [if_neg hlt]
      exact .inl ⟨_, rfl⟩
  commute offset' value value' hoffset' _ _ hapart := by
    by_cases hlast : offset' + 1 < 2 ^ 64
    · rw [afterWrite_eq h, afterWrite_eq hlast, Option.bind_some, Option.bind_some,
        afterWrite_eq h, afterWrite_eq hlast]
      by_cases hlt : offset + 1 < data.length <;> by_cases hlt' : offset' + 1 < data.length <;>
        simp [hlt, hlt', setInt16_comm hapart]
    · -- the other write is at the last offset, and defined only for an empty payload
      obtain rfl : offset' = 2 ^ 64 - 1 := by omega
      obtain ⟨data', hafter, hsame⟩ := exists_afterWrite h value
      have hnil : data' = [] ↔ data = [] := by
        rw [← List.length_eq_zero_iff, hsame, List.length_eq_zero_iff]
      rw [hafter, afterWrite_last hlength, Option.bind_some, afterWrite_last (by rwa [hsame])]
      by_cases hdata : data = []
      · rw [if_pos hdata, if_pos (hnil.mpr hdata), Option.bind_some, hafter]
      · rw [if_neg hdata, if_neg (mt hnil.mp hdata)]
        rfl
  read := readInt16Le_eq_error_iff h

/-- An empty payload has no 16-bit values: every access throws. -/
lemma int16Law_nil (hoffset : offset < 2 ^ 64) : Int16Law [] offset := by
  have hthrows : ∀ {offset} value, offset < 2 ^ 64 →
      writeInt16Le [] offset value = .error notEnough := fun value _ => if_pos (Nat.zero_le _)
  have hafter : ∀ {offset} value, offset < 2 ^ 64 → afterWrite [] offset value = some [] := by
    intro offset value hlt
    rw [afterWrite, hthrows value hlt]
    rfl
  refine ⟨fun value _ => .inl ⟨_, hthrows value hoffset⟩,
    fun offset' value value' hoffset' _ _ _ => ?_, ?_⟩
  · rw [hafter value hoffset, hafter value' hoffset', Option.bind_some, Option.bind_some,
      hafter value hoffset, hafter value' hoffset']
  · exact iff_of_true ⟨_, if_pos (Nat.zero_le _)⟩ fun hand => Nat.not_lt_zero _ hand.1

/-- **The access to 16-bit values keeps its promise exactly when `offset + 1` does not wrap around,
or the payload is empty.** -/
theorem int16Law_iff (hlength : data.length < 2 ^ 64) (hoffset : offset < 2 ^ 64) :
    Int16Law data offset ↔ offset ≠ 2 ^ 64 - 1 ∨ data = [] := by
  constructor
  · intro h
    by_contra hnot
    obtain ⟨hlast, hne⟩ := not_or.mp hnot
    obtain rfl := not_not.mp hlast
    rcases h.write 0 ⟨by decide, by decide⟩ with ⟨what, hthrow⟩ | ⟨data', hok, -⟩
    · rw [writeInt16Le_last hne hlength] at hthrow
      cases hthrow
    · rw [writeInt16Le_last hne hlength] at hok
      cases hok
  · rintro (hlt | rfl)
    · exact int16Law_of_lt hlength (by omega)
    · exact int16Law_nil hoffset

/-- The law at an offset inside a payload. -/
theorem int16Law_status :
    Int16Law [0xE8, 0x03] 0 ↔ (0 : ℕ) ≠ 2 ^ 64 - 1 ∨ ([0xE8, 0x03] : List UInt8) = [] :=
  int16Law_iff (by decide) (by decide)

/-- At the last offset a payload of one byte is accessed outside. -/
theorem int16_at_last_offset :
    ¬∀ (data : List UInt8) (offset : ℕ), data.length < 2 ^ 64 → offset < 2 ^ 64 →
      Int16Law data offset := by
  intro h
  have hlaw := h [0] (2 ^ 64 - 1) (by decide) (by decide)
  rcases hlaw.write 0 ⟨by decide, by decide⟩ with ⟨what, hthrow⟩ | ⟨data', hok, -⟩
  · rw [writeInt16Le_last (by simp) (by decide)] at hthrow
    cases hthrow
  · rw [writeInt16Le_last (by simp) (by decide)] at hok
    cases hok

end SystemsDemos
