import SystemsDemos.Onnx.Acts

/-!
# What `readVarint` reads

`readVarint` stops at the first byte without the continuation bit, and gives up after ten bytes or
at the end of the slice.  Ten groups of seven bits are more than 64: all but the lowest bit of the
tenth group are shifted out, without an error.  The number that is returned is the number that is
written exactly when there is no such bit (`varintLaw_iff`).

### Outline

* `readVarint_returns`, what was read when `readVarint` returns;
* `readVarint_throws`, what it does otherwise;
* `VarintLaw` and `varintLaw_iff`.
-/

namespace SystemsDemos

variable {data : ModelFile} {slice : Slice} {pos : ℕ}

/-! ### Reading -/

/-- One element in front of an occurrence. -/
private lemma occursAt_cons {b : UInt8} {bs : List UInt8} {p : ℕ} (hb : data.bytes[p]? = some b)
    (h : OccursAt bs data.bytes (p + 1)) : OccursAt (b :: bs) data.bytes p := by
  obtain ⟨rest, hrest⟩ := h
  obtain ⟨hlt, hget⟩ := List.getElem?_eq_some_iff.mp hb
  refine ⟨rest, ?_⟩
  rw [List.drop_eq_getElem_cons hlt, hget, List.cons_append, hrest]

/-- The loop returns behind the first byte without the continuation bit. -/
private lemma returns_of_loop {fuel shift value n next : ℕ}
    (h : readVarintLoop data slice fuel shift value pos = (.ok n, next)) :
    ∃ front last, OccursAt (front ++ [last]) data.bytes pos ∧ (∀ b ∈ front, 128 ≤ b.toNat) ∧
      last.toNat < 128 ∧ front.length < fuel ∧ next = pos + (front ++ [last]).length ∧
      next ≤ slice.last := by
  induction fuel generalizing shift value pos with
  | zero => cases h
  | succ fuel ih =>
    rw [readVarintLoop] at h
    split at h
    · next hmore =>
      split at h
      · cases h
      · next byte hbyte =>
        dsimp only at h
        split at h
        · next hstop =>
          obtain ⟨-, rfl⟩ := Prod.mk.inj h
          have hlast := (and_high_eq_zero_iff byte.toNat_lt).mp hstop
          exact ⟨[], byte, occursAt_cons hbyte ⟨_, rfl⟩, by simp, hlast, Nat.succ_pos _, rfl,
            hmore.1⟩
        · next hgoes =>
          obtain ⟨front, last, hoccurs, hfront, hlast, hlength, hnext, hinside⟩ := ih h
          have hge : 128 ≤ byte.toNat :=
            Nat.le_of_not_lt fun hlt => hgoes ((and_high_eq_zero_iff byte.toNat_lt).mpr hlt)
          refine ⟨byte :: front, last, occursAt_cons hbyte hoccurs, ?_, hlast, ?_, ?_, hinside⟩
          · intro b hb
            rcases List.mem_cons.mp hb with rfl | hb
            · exact hge
            · exact hfront b hb
          · rw [List.length_cons]
            omega
          · rw [List.cons_append, List.length_cons]
            omega
    · cases h

/-- What was read when `readVarint` returns: a varint, and its number as far as it has 64 bits. -/
lemma readVarint_returns {n next : ℕ} (h : readVarint data slice pos = (.ok n, next)) :
    ∃ v : Varint, OccursAt v.encode data.bytes pos ∧ next = pos + v.encode.length ∧
      next ≤ slice.last ∧ n = v.value := by
  obtain ⟨front, last, hoccurs, hfront, hlast, hlength, hnext, hinside⟩ := returns_of_loop h
  have hv := readVarint_encode (v := ⟨front, last, hfront, hlast, by omega⟩) slice hoccurs
    (hnext ▸ hinside)
  rw [h] at hv
  exact ⟨⟨front, last, hfront, hlast, by omega⟩, hoccurs, hnext, hinside,
    Except.ok.inj (Prod.mk.inj hv).1⟩

/-- A loop that does not return throws, and has consumed at most one byte in each iteration. -/
lemma readVarintLoop_error (hslice : slice.last ≤ data.size) {fuel shift value next : ℕ}
    {e : ParseError} (h : readVarintLoop data slice fuel shift value pos = (.error e, next)) :
    e = .runtimeError "malformed protobuf varint" ∧ pos ≤ next ∧ next ≤ pos + fuel := by
  induction fuel generalizing shift value pos with
  | zero =>
    obtain ⟨he, rfl⟩ := Prod.mk.inj h
    exact ⟨(Except.error.inj he).symm, Nat.le_refl _, Nat.le_refl _⟩
  | succ fuel ih =>
    rw [readVarintLoop] at h
    split at h
    · next hmore =>
      split at h
      · next hnone =>
        -- a position inside the slice is inside the file
        have hle := List.getElem?_eq_none_iff.mp hnone
        unfold ModelFile.size at hslice
        omega
      · dsimp only at h
        split at h
        · cases h
        · obtain ⟨he, hle, hnext⟩ := ih h
          exact ⟨he, by omega, by omega⟩
    · obtain ⟨he, rfl⟩ := Prod.mk.inj h
      exact ⟨(Except.error.inj he).symm, Nat.le_refl _, by omega⟩

/-- Where no varint of at most ten bytes stands in the slice, `readVarint` throws. -/
lemma readVarint_throws (hslice : slice.last ≤ data.size)
    (hno : ∀ v : Varint, OccursAt v.encode data.bytes pos → slice.last < pos + v.encode.length) :
    ∃ next, readVarint data slice pos =
        (.error (.runtimeError "malformed protobuf varint"), next) ∧
      pos ≤ next ∧ next ≤ pos + 10 := by
  cases h : readVarint data slice pos with
  | mk result next =>
    cases result with
    | ok n =>
      obtain ⟨v, hoccurs, hnext, hinside, -⟩ := readVarint_returns h
      have hpast := hno v hoccurs
      omega
    | error e =>
      obtain ⟨rfl, hle, hnext⟩ := readVarintLoop_error hslice h
      exact ⟨next, rfl, hle, hnext⟩

/-! ### Bits that are lost -/

/-- What `readVarint` promises.  When it returns, the number is the sum of the groups of seven bits
of the bytes consumed, of which the last is the first without the continuation bit; where no such
bytes stand, it throws and has consumed at most ten. -/
structure VarintLaw (data : ModelFile) (slice : Slice) (pos : ℕ) : Prop where
  returns : ∀ n next, readVarint data slice pos = (.ok n, next) →
    ∃ v : Varint, OccursAt v.encode data.bytes pos ∧ next = pos + v.encode.length ∧
      next ≤ slice.last ∧ n = sevenBits v.encode
  throws : (∀ v : Varint, OccursAt v.encode data.bytes pos →
      slice.last < pos + v.encode.length) →
    ∃ next, readVarint data slice pos =
        (.error (.runtimeError "malformed protobuf varint"), next) ∧
      pos ≤ next ∧ next ≤ pos + 10

/-- At `pos` stand nine bytes with the continuation bit, and a tenth one without it that has more
than its lowest bit. -/
def LosesBits (data : ModelFile) (slice : Slice) (pos : ℕ) : Prop :=
  ∃ v : Varint, OccursAt v.encode data.bytes pos ∧ v.front.length = 9 ∧ 1 < v.last.toNat ∧
    pos + 10 ≤ slice.last

/-- A varint fits 64 bits unless it has ten bytes and the tenth has more than its lowest bit. -/
lemma sevenBits_encode_lt_iff (v : Varint) :
    sevenBits v.encode < 2 ^ 64 ↔ v.front.length ≠ 9 ∨ v.last.toNat ≤ 1 := by
  have hlow := sevenBits_lt v.front
  have hmod : v.last.toNat % 128 = v.last.toNat := Nat.mod_eq_of_lt v.last_lt
  rw [Varint.encode, sevenBits_concat, hmod]
  by_cases hlength : v.front.length = 9
  · rw [hlength] at hlow ⊢
    omega
  · have hle : v.front.length + 1 ≤ 9 := by
      have hnine := v.length_le
      omega
    have hpow : 128 ^ v.front.length * 128 ≤ 128 ^ 9 := by
      rw [← Nat.pow_succ]
      exact Nat.pow_le_pow_right (by decide) hle
    have hlast : v.last.toNat * 128 ^ v.front.length ≤ 127 * 128 ^ v.front.length :=
      Nat.mul_le_mul_right _ (Nat.le_of_lt_succ v.last_lt)
    exact iff_of_true (by omega) (.inl hlength)

/-- **`readVarint` returns the number that is written exactly when no bit of a tenth byte is
lost.** -/
theorem varintLaw_iff (hslice : slice.last ≤ data.size) :
    VarintLaw data slice pos ↔ ¬LosesBits data slice pos := by
  constructor
  · rintro h ⟨v, hoccurs, hlength, hone, hinside⟩
    have hend : pos + v.encode.length ≤ slice.last := by
      rw [Varint.encode, List.length_append, hlength]
      exact hinside
    obtain ⟨w, hoccurs', -, -, hvalue⟩ := h.returns _ _ (readVarint_encode slice hoccurs hend)
    -- the two varints stand at the same place, so they are the same
    obtain ⟨rest, hrest⟩ := hoccurs
    obtain ⟨rest', hrest'⟩ := hoccurs'
    obtain ⟨rfl, -⟩ := Varint.encode_append_inj (hrest.trans hrest'.symm)
    have hlt : sevenBits v.encode < 2 ^ 64 := by
      rw [← hvalue]
      exact Nat.mod_lt _ (by decide)
    rcases (sevenBits_encode_lt_iff v).mp hlt with hne | hle
    · exact hne hlength
    · omega
  · intro hkeeps
    refine ⟨fun n next hread => ?_, readVarint_throws hslice⟩
    obtain ⟨v, hoccurs, hnext, hinside, hvalue⟩ := readVarint_returns hread
    refine ⟨v, hoccurs, hnext, hinside, ?_⟩
    have hlt : sevenBits v.encode < 2 ^ 64 := by
      rw [sevenBits_encode_lt_iff]
      by_contra hnot
      obtain ⟨hlength, hone⟩ := not_or.mp hnot
      have hnine := not_not.mp hlength
      refine hkeeps ⟨v, hoccurs, hnine, Nat.lt_of_not_le hone, ?_⟩
      rw [hnext, Varint.encode, List.length_append, hnine] at hinside
      exact hinside
    rw [hvalue, Varint.value, Nat.mod_eq_of_lt hlt]

/-- The number 150. -/
def shortVarintFile : ModelFile where
  bytes := [0x96, 0x01]
  size_lt := by decide

theorem varintLaw_shortVarintFile :
    VarintLaw shortVarintFile ⟨0, 2⟩ 0 ↔ ¬LosesBits shortVarintFile ⟨0, 2⟩ 0 :=
  varintLaw_iff (Nat.le_refl 2)

/-- The number `2 ^ 64`, in ten bytes. -/
def longVarintFile : ModelFile where
  bytes := [0x80, 0x80, 0x80, 0x80, 0x80, 0x80, 0x80, 0x80, 0x80, 0x02]
  size_lt := by decide

/-- The number `2 ^ 64` is read as zero. -/
theorem readVarint_loses_bits :
    ¬∀ data slice pos, slice.last ≤ data.size → VarintLaw data slice pos := by
  intro h
  have hread : readVarint longVarintFile ⟨0, 10⟩ 0 = (.ok 0, 10) := rfl
  obtain ⟨v, hoccurs, hnext, -, hvalue⟩ :=
    (h longVarintFile ⟨0, 10⟩ 0 (Nat.le_refl 10)).returns 0 10 hread
  have hbytes := hoccurs.take_drop
  rw [← (by omega : 10 = v.encode.length)] at hbytes
  rw [← hbytes] at hvalue
  exact absurd hvalue (by decide)

end SystemsDemos
