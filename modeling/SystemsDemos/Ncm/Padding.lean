import SystemsDemos.Ncm.Decoder

/-!
# The padding of the decrypted key

The loop of `aesDecryptECB` over the padding runs on an `int`, while the size of the block is a
`qsizetype`.  For a block of `2 ^ 31` bytes or more the first index is negative, or the index
overflows, unless a byte of the padding is wrong before that.

### Outline

* what `validPad` finds;
* `PaddingInRange` and `stripPadding_isSome_iff`;
* `stripPadding_padBlocks`.
-/

namespace SystemsDemos

namespace NcmDecoder

variable {out : List UInt8} {pad : UInt8}

/-- A loop that begins in front of the block reads outside it. -/
lemma validPad_of_neg {n : ℕ} {i : ℤ} (hn : n ≠ 0) (hi : i < 0) : validPad out pad n i = none := by
  obtain ⟨n, rfl⟩ := Nat.exists_eq_succ_of_ne_zero hn
  rw [validPad, if_pos hi]

/-- The bytes from the index `i` on that an `int` can index. -/
def bytesFrom (out : List UInt8) (i : ℕ) : List UInt8 := (out.take (2 ^ 31)).drop i

/-- Behind the last index there are no bytes. -/
lemma bytesFrom_eq_nil {i : ℕ} (hi : out.length ≤ i ∨ 2 ^ 31 ≤ i) : bytesFrom out i = [] := by
  apply List.drop_eq_nil_of_le
  rw [List.length_take]
  omega

/-- The byte at an index, and the bytes behind it. -/
lemma bytesFrom_eq_cons {i : ℕ} (hi : i < out.length) (hi' : i < 2 ^ 31) :
    bytesFrom out i = out[i] :: bytesFrom out (i + 1) := by
  have hlt : i < (out.take (2 ^ 31)).length := by
    rw [List.length_take]
    omega
  rw [bytesFrom, List.drop_eq_getElem_cons hlt, List.getElem_take, bytesFrom]

/-- What the loop finds: a wrong byte, or the end of the block, or it overflows. -/
lemma validPad_eq (n i : ℕ) (hn : i + n = out.length) (hi : n = 0 ∨ i < 2 ^ 31) :
    validPad out pad n i =
      if ∃ b ∈ bytesFrom out i, b ≠ pad then some false
      else if n = 0 ∨ out.length < 2 ^ 31 then some true else none := by
  induction n generalizing i with
  | zero =>
    rw [bytesFrom_eq_nil (.inl (by omega)), if_neg (by simp), if_pos (.inl rfl), validPad]
  | succ n ih =>
    have hlt : i < out.length := by omega
    rw [validPad, if_neg (by omega), Int.toNat_natCast, List.getElem?_eq_getElem hlt,
      bytesFrom_eq_cons hlt (by omega)]
    by_cases hbyte : out[i] = pad
    · simp only [hbyte, List.mem_cons, exists_eq_or_imp, ne_eq, not_true_eq_false, false_or,
        if_false]
      by_cases hoverflow : i + 1 = 2 ^ 31
      · rw [if_pos (by omega), bytesFrom_eq_nil (.inr (by omega)), if_neg (by simp),
          if_neg (by omega)]
      · have hrest := ih (i + 1) (by omega) (by omega)
        rw [Int.natCast_add, Int.natCast_one] at hrest
        rw [if_neg (by omega), hrest]
        by_cases hwrong : ∃ b ∈ bytesFrom out (i + 1), b ≠ pad
        · rw [if_pos hwrong, if_pos hwrong]
        · rw [if_neg hwrong, if_neg hwrong]
          refine if_congr ?_ rfl rfl
          omega
    · rw [if_pos (by simpa using hbyte), if_pos ⟨out[i], List.mem_cons_self, hbyte⟩]

/-- The loop over the padding stays inside the block and inside `int`: the block is short, or a
wrong byte ends the loop before the index overflows. -/
def PaddingInRange (out : List UInt8) : Prop :=
  ∀ pad, out.getLast? = some pad → pad ≤ 16 →
    out.length < 2 ^ 31 ∨ (out.length - pad.toNat < 2 ^ 31 ∧
      ∃ b ∈ bytesFrom out (out.length - pad.toNat), b ≠ pad)

/-- A block that a length field can give is not empty and holds its padding. -/
lemma toNat_le_length (hlast : out.getLast? = some pad) (hpad : pad ≤ 16)
    (hblocks : 16 ∣ out.length) : pad.toNat ≤ out.length := by
  have hne : out ≠ [] := by
    rintro rfl
    cases hlast
  have hpos : 0 < out.length := List.length_pos_iff.mpr hne
  have hle : pad.toNat ≤ 16 := UInt8.le_iff_toNat_le.mp hpad
  exact Nat.le_trans hle (Nat.le_of_dvd hpos hblocks)

/-- The range of a loop that `stripPadding` runs. -/
lemma paddingInRange_iff (hlast : out.getLast? = some pad) (hpad : pad ≤ 16) :
    PaddingInRange out ↔ out.length < 2 ^ 31 ∨ (out.length - pad.toNat < 2 ^ 31 ∧
      ∃ b ∈ bytesFrom out (out.length - pad.toNat), b ≠ pad) := by
  constructor
  · exact fun hrange => hrange pad hlast hpad
  · rintro hrange pad' hlast' -
    obtain rfl := Option.some.inj (hlast.symm.trans hlast')
    exact hrange

/-- Without a loop there is nothing to be in range. -/
lemma paddingInRange_of_lt (hlast : out.getLast? = some pad) (hpad : ¬pad ≤ 16) :
    PaddingInRange out := by
  intro pad' hlast' hpad'
  obtain rfl := Option.some.inj (hlast.symm.trans hlast')
  exact (hpad hpad').elim

/-- `stripPadding` has a defined result exactly when its loop stays in range. -/
theorem stripPadding_isSome_iff (hblocks : 16 ∣ out.length) (hlength : out.length < 2 ^ 32) :
    (stripPadding out).isSome ↔ PaddingInRange out := by
  unfold stripPadding
  split
  · next hlast => simp [PaddingInRange, hlast]
  · next pad hlast =>
    by_cases hpad : pad ≤ 16
    · have hle := toNat_le_length hlast hpad hblocks
      have hpadLe : pad.toNat ≤ 16 := UInt8.le_iff_toNat_le.mp hpad
      have hcast : (out.length : ℤ) - pad.toNat = ((out.length - pad.toNat : ℕ) : ℤ) := by omega
      rw [if_pos hpad, hcast, paddingInRange_iff hlast hpad]
      by_cases hstart : out.length - pad.toNat < 2 ^ 31
      · have hn : ((out.length : ℤ) - ((out.length - pad.toNat : ℕ) : ℤ)).toNat = pad.toNat := by
          omega
        simp only [toInt_of_lt hstart, hn]
        rw [validPad_eq pad.toNat _ (by omega) (by omega)]
        by_cases hwrong : ∃ b ∈ bytesFrom out (out.length - pad.toNat), b ≠ pad
        · rw [if_pos hwrong]
          exact iff_of_true rfl (.inr ⟨hstart, hwrong⟩)
        · rw [if_neg hwrong]
          by_cases hshort : pad.toNat = 0 ∨ out.length < 2 ^ 31
          · rw [if_pos hshort]
            exact iff_of_true rfl (.inl (by omega))
          · rw [if_neg hshort]
            refine iff_of_false (by simp) ?_
            rintro (hlt | ⟨-, hex⟩)
            · exact hshort (.inr hlt)
            · exact hwrong hex
      · have hneg := toInt_of_le (by omega : 2 ^ 31 ≤ out.length - pad.toNat) (by omega)
        simp only [hneg]
        rw [validPad_of_neg (by omega) (by omega)]
        refine iff_of_false (by simp) ?_
        rintro (hlt | ⟨hlt, -⟩)
        · omega
        · exact hstart hlt
    · rw [if_neg hpad]
      exact iff_of_true rfl (paddingInRange_of_lt hlast hpad)

/-- Removing the padding makes nothing longer. -/
lemma length_stripPadding_le {key : List UInt8} (h : stripPadding out = some key) :
    key.length ≤ out.length := by
  unfold stripPadding at h
  simp only at h
  split at h
  · rw [Option.some.inj h]
  · split at h
    · split at h
      · cases h
      · rw [← Option.some.inj h, List.length_take]
        exact Nat.min_le_right _ _
      · rw [Option.some.inj h]
    · rw [Option.some.inj h]

variable {bytes : List UInt8}

/-- The last byte of a padded block, as a number. -/
lemma toNat_padLength (n : ℕ) : (UInt8.ofNat (padLength 16 n)).toNat = padLength 16 n := by
  have hle := padLength_le 16 n
  rw [UInt8.toNat_ofNat']
  omega

/-- A padding byte is at most 16. -/
lemma padLength_le_sixteen (n : ℕ) : UInt8.ofNat (padLength 16 n) ≤ 16 := by
  rw [UInt8.le_iff_toNat_le, toNat_padLength]
  exact padLength_le 16 n

/-- No byte of the padding is wrong. -/
lemma eq_of_mem_bytesFrom_padBlocks {b : UInt8}
    (hb : b ∈ bytesFrom (padBlocks 16 bytes) bytes.length) :
    b = UInt8.ofNat (padLength 16 bytes.length) := by
  rw [bytesFrom, List.drop_take] at hb
  have hmem := List.mem_of_mem_take hb
  rw [padBlocks, List.drop_left] at hmem
  exact List.eq_of_mem_replicate hmem

/-- The loop over a correct padding stays in range exactly when the size of the block is an
`int`. -/
theorem paddingInRange_padBlocks_iff :
    PaddingInRange (padBlocks 16 bytes) ↔ (padBlocks 16 bytes).length < 2 ^ 31 := by
  have hsize := length_padBlocks 16 bytes
  constructor
  · intro hrange
    rcases hrange _ (getLast?_padBlocks (by decide)) (padLength_le_sixteen _) with
      hlt | ⟨-, b, hb, hne⟩
    · exact hlt
    · rw [toNat_padLength, hsize, Nat.add_sub_cancel] at hb
      exact (hne (eq_of_mem_bytesFrom_padBlocks hb)).elim
  · exact fun hlt _ _ _ => .inl hlt

/-- The padding of a block whose size is an `int` is removed. -/
theorem stripPadding_padBlocks (hlength : (padBlocks 16 bytes).length < 2 ^ 31) :
    stripPadding (padBlocks 16 bytes) = some bytes := by
  have hpos := padLength_pos (by decide : 0 < 16) bytes.length
  have hsize := length_padBlocks 16 bytes
  have hcast : ((padBlocks 16 bytes).length : ℤ) - padLength 16 bytes.length =
      ((bytes.length : ℕ) : ℤ) := by omega
  have hn : (((padBlocks 16 bytes).length : ℤ) - (bytes.length : ℤ)).toNat =
      padLength 16 bytes.length := by omega
  have hright : ¬∃ b ∈ bytesFrom (padBlocks 16 bytes) bytes.length,
      b ≠ UInt8.ofNat (padLength 16 bytes.length) := by
    rintro ⟨b, hb, hne⟩
    exact hne (eq_of_mem_bytesFrom_padBlocks hb)
  rw [stripPadding, getLast?_padBlocks (by decide)]
  simp only [if_pos (padLength_le_sixteen _), toNat_padLength, hcast,
    toInt_of_lt (by omega : bytes.length < 2 ^ 31), hn]
  rw [validPad_eq _ _ (by omega) (.inr (by omega)), if_neg hright, if_pos (.inr hlength)]
  simp only [Option.some.injEq]
  rw [hsize, Nat.add_sub_cancel, padBlocks, List.take_left]

end NcmDecoder

end SystemsDemos
