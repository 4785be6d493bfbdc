import SystemsDemos.Ncm.RoundTrip
import Mathlib.Data.List.FinRange

/-!
# The key schedule permutes, and masking undoes itself

Every round of `ksa` swaps two entries of the box, so that the box stays a permutation of the
bytes, whatever the key.  The only division is by the length of the key as an `int`; the keys that
`decode` passes on come from a file section whose length is a `uint32_t`, and this `int` is not
zero for any of them.

### Outline

* `ksaRound_perm` and `ksa_rounds_perm`;
* `ksa_isSome_iff`: the lengths for which the schedule is defined;
* `PassesOn`, the keys of `decode`, with `decode_of_passesOn` and `passesOn_compose`;
* `ksa_perm_of_passesOn`.
-/

namespace SystemsDemos

namespace NcmDecoder

/-- The bytes from 0 to 255. -/
def allBytes : List UInt8 := (List.range 256).map UInt8.ofNat

variable {key : List UInt8} {kLen : ℤ}

/-! ### The box is a permutation -/

/-- The box that `ksa` begins with holds the bytes in order. -/
lemma toList_ksaStart : ksaStart.1.toList = allBytes := by
  rw [ksaStart, Vector.toList_ofFn, allBytes, List.ofFn_eq_map, ← List.map_coe_finRange_eq_range,
    List.map_map]
  rfl

/-- A round of `ksa` swaps two entries. -/
lemma ksaRound_perm (st : Vector UInt8 256 × Fin 256) (i : Fin 256) (k : UInt8) :
    (ksaRound st i k).1.Perm st.1 := by
  rw [ksaRound]
  exact Vector.swap_perm i.isLt (Fin.isLt _)

/-- Any number of rounds of `ksa` permutes the box. -/
lemma ksa_rounds_perm {is : List (Fin 256)} {st st' : Vector UInt8 256 × Fin 256}
    (h : is.foldlM (fun st i => (keyByte key kLen i).map (ksaRound st i)) st = some st') :
    st'.1.Perm st.1 := by
  induction is generalizing st with
  | nil =>
    cases h
    exact Vector.Perm.refl _
  | cons i is ih =>
    rw [List.foldlM_cons] at h
    obtain ⟨st₁, hround, hrest⟩ := Option.bind_eq_some_iff.mp h
    obtain ⟨k, -, rfl⟩ := Option.map_eq_some_iff.mp hround
    exact (ih hrest).trans (ksaRound_perm st i k)

/-- The box that `ksa` returns is a permutation of the bytes. -/
theorem ksa_perm {box : Vector UInt8 256} (h : ksa key = some box) :
    box.toList.Perm allBytes := by
  rw [ksa, Option.map_eq_some_iff] at h
  obtain ⟨st, hst, rfl⟩ := h
  rw [← toList_ksaStart]
  exact (ksa_rounds_perm hst).toList

/-! ### The lengths of keys -/

/-- The length of a key as an `int` is at most the length. -/
lemma natAbs_toInt_le (n : ℕ) : (toInt n).natAbs ≤ n := by
  unfold toInt
  rw [Int.bmod_def]
  omega

/-- The length of a key as an `int` is zero for the multiples of `2 ^ 32`. -/
lemma toInt_eq_zero_iff (n : ℕ) : toInt n = 0 ↔ n % 2 ^ 32 = 0 := by
  unfold toInt
  rw [Int.bmod_def]
  omega

/-- A round reads inside the key when the length as an `int` is not zero. -/
lemma keyByte_isSome_of_ne (h : toInt key.length ≠ 0) (i : Fin 256) :
    (keyByte key (toInt key.length) i).isSome := by
  have hle := natAbs_toInt_le key.length
  have hnonneg : ¬Int.tmod (i : ℕ) (toInt key.length) < 0 :=
    not_lt.mpr (Int.tmod_nonneg _ (Int.natCast_nonneg _))
  have hlt : (Int.tmod (i : ℕ) (toInt key.length)).toNat < key.length := by
    have habs := Int.natAbs_tmod (i : ℕ) (toInt key.length)
    have hmod := Nat.mod_lt (i : ℕ) (Int.natAbs_pos.mpr h)
    rw [Int.natAbs_natCast] at habs
    omega
  rw [keyByte, if_neg h, if_neg hnonneg, List.getElem?_eq_getElem hlt]
  rfl

/-- The rounds of `ksa` go through exactly when the length of the key, as an `int`, is not zero. -/
theorem ksa_isSome_iff : (ksa key).isSome ↔ key.length % 2 ^ 32 ≠ 0 := by
  rw [ne_eq, ← toInt_eq_zero_iff]
  constructor
  · intro hsome hzero
    have hfirst : keyByte key (toInt key.length) 0 = none := if_pos hzero
    have hnone : ksa key = none := by
      rw [ksa, List.finRange_succ]
      simp only [List.foldlM_cons, hfirst, Option.map_none, Option.bind_eq_bind, Option.bind_none]
    rw [hnone] at hsome
    cases hsome
  · intro h
    have hbyte : ∀ i, keyByte key (toInt key.length) i =
        some ((keyByte key (toInt key.length) i).get (keyByte_isSome_of_ne h i)) :=
      fun i => (Option.some_get _).symm
    rw [ksa, ksa_rounds hbyte]
    rfl

/-! ### The keys of `decode` -/

variable {lib : CommonCrypto} {env : Env}

/-- `decode` comes to `buildKeyBox` with this key. -/
def PassesOn (lib : CommonCrypto) (env : Env) (rc4key : List UInt8) : Prop :=
  ∃ f decKey, env.input = some f ∧ (read 8 f).1 = magic ∧
    aesDecryptECB lib ((readKey f).1.map fun b => b ^^^ 0x64) keyCore = some decKey ∧
    prefixLength < decKey.length ∧ rc4key = decKey.drop prefixLength

/-- With the key that it passes on, `decode` goes on as its part after the key. -/
lemma decode_of_passesOn (h : PassesOn lib env key) :
    ∃ f, env.input = some f ∧ decode lib env = decodePayload env key (readKey f).2 := by
  obtain ⟨f, decKey, hf, hmagic, hdecKey, hlong, rfl⟩ := h
  have hne : decKey ≠ [] := by
    rintro rfl
    exact Nat.not_lt_zero _ hlong
  refine ⟨f, hf, ?_⟩
  rw [readKey] at hdecKey
  rw [decode, hf]
  simp only [hmagic, ne_eq, not_true_eq_false, if_false, hdecKey, hne,
    if_neg (Nat.not_le.mpr hlong)]
  rfl

/-- `decode` without a key that it passes on gives the empty result, if any. -/
lemma decode_eq_failed (hnone : ∀ rc4key, ¬PassesOn lib env rc4key) {r : Result}
    (h : decode lib env = some r) : r = .failed := by
  rcases decode_cases h with hfailed | ⟨f, decKey, hf, hmagic, hdecKey, hlong, -⟩
  · exact hfailed
  · exact (hnone _ ⟨f, decKey, hf, hmagic, hdecKey, hlong, rfl⟩).elim

/-- The key of a composed file is passed on when its padded size is an `int`. -/
lemma passesOn_compose {encrypt : List UInt8 → List UInt8 → List UInt8} (hlib : lib.Lawful)
    (hinv : lib.Inverts encrypt) (file : NcmFile) (hlength : (paddedKey file.key).length < 2 ^ 31)
    (tempPath uuid : String) (outputOpens : Bool) :
    PassesOn lib ⟨some (compose encrypt file), tempPath, uuid, outputOpens⟩ file.key := by
  have hpos := List.length_pos_iff.mpr file.key_ne
  obtain ⟨hmagic, hread⟩ := read_key file.length_gap (length_keySection_lt hlib hinv file)
    (composeTail file)
  refine ⟨compose encrypt file, keyPrefix ++ file.key, rfl, hmagic, ?_, ?_, ?_⟩
  · rw [readKey, compose, hread, read_append rfl]
    exact aesDecryptECB_keySection hinv hlength
  · rw [List.length_append, length_keyPrefix]
    omega
  · rw [← length_keyPrefix, List.drop_left]

/-- A block that `aesDecryptECB` gives is not longer than its data. -/
lemma length_aesDecryptECB_le (hlib : lib.Lawful) {data core out : List UInt8}
    (h : aesDecryptECB lib data core = some out) : out.length ≤ data.length := by
  unfold aesDecryptECB at h
  split at h
  · cases h
    exact Nat.zero_le _
  · next block hblock =>
    rw [← hlib.length _ _ _ hblock]
    exact length_stripPadding_le h

/-- The keys that `decode` passes on are not empty, and shorter than `2 ^ 32` bytes. -/
lemma length_of_passesOn (hlib : lib.Lawful) (h : PassesOn lib env key) :
    1 ≤ key.length ∧ key.length < 2 ^ 32 := by
  obtain ⟨f, decKey, -, -, hdecKey, hlong, rfl⟩ := h
  have hle := length_aesDecryptECB_le hlib hdecKey
  have hlt := length_readKey_lt f
  rw [List.length_map] at hle
  rw [List.length_drop]
  omega

/-- Masking what is decrypted gives the rest of the payload back. -/
lemma xorWith_decryptAudioPayload (payload : List UInt8) (keyBox : Vector UInt8 256) (skip : ℕ) :
    xorWith (keystream keyBox) (decryptAudioPayload payload keyBox skip) = payload.drop skip := by
  rw [decryptAudioPayload_eq, xorWith_xorWith]

/-- Masked audio behind bytes that are skipped is decrypted. -/
lemma decryptAudioPayload_append (skipped audio : List UInt8) (keyBox : Vector UInt8 256) :
    decryptAudioPayload (skipped ++ xorWith (keystream keyBox) audio) keyBox skipped.length =
      audio := by
  rw [decryptAudioPayload_eq, List.drop_left, xorWith_xorWith]

/-- **The key schedule of every key that `decode` passes on is defined and gives a permutation of
the bytes**, and for every key box masking, byte `k` with `keyBox[k % 256]`, undoes
`decryptAudioPayload`, and is undone by it, behind any bytes that are skipped. -/
theorem ksa_perm_of_passesOn (hlib : lib.Lawful) (h : PassesOn lib env key) :
    (1 ≤ key.length ∧ ∃ box, ksa key = some box ∧ box.toList.Perm allBytes) ∧
      ∀ keyBox : Vector UInt8 256,
        (∀ payload skip, xorWith (fun k => keyBox.get ⟨k % 256, Nat.mod_lt k (by decide)⟩)
          (decryptAudioPayload payload keyBox skip) = payload.drop skip) ∧
        ∀ skipped audio, decryptAudioPayload (skipped ++
          xorWith (fun k => keyBox.get ⟨k % 256, Nat.mod_lt k (by decide)⟩) audio) keyBox
            skipped.length = audio := by
  obtain ⟨hpos, hlt⟩ := length_of_passesOn hlib h
  have hmod : key.length % 2 ^ 32 ≠ 0 := by omega
  obtain ⟨box, hbox⟩ := Option.isSome_iff_exists.mp (ksa_isSome_iff.mpr hmod)
  refine ⟨⟨hpos, box, hbox, ksa_perm hbox⟩, fun keyBox => ⟨fun payload skip => ?_,
    fun skipped audio => ?_⟩⟩
  · exact xorWith_decryptAudioPayload payload keyBox skip
  · exact decryptAudioPayload_append skipped audio keyBox

/-- The key schedule of a short key is a permutation, and masking undoes itself. -/
theorem ksa_perm_shortFile :
    (1 ≤ shortFile.key.length ∧ ∃ box, ksa shortFile.key = some box ∧
        box.toList.Perm allBytes) ∧
      ∀ keyBox : Vector UInt8 256,
        (∀ payload skip, xorWith (fun k => keyBox.get ⟨k % 256, Nat.mod_lt k (by decide)⟩)
          (decryptAudioPayload payload keyBox skip) = payload.drop skip) ∧
        ∀ skipped audio, decryptAudioPayload (skipped ++
          xorWith (fun k => keyBox.get ⟨k % 256, Nat.mod_lt k (by decide)⟩) audio) keyBox
            skipped.length = audio :=
  ksa_perm_of_passesOn shortKeyCrypto_lawful
    (passesOn_compose shortKeyCrypto_lawful shortKeyCrypto_inverts shortFile (by decide) "/tmp" "0"
      true)

end NcmDecoder

end SystemsDemos
