import SystemsDemos.Ncm.Padding

/-!
# The sections of an NCM file

No read of the decoder is checked, but a short read leaves nothing for the reads after it, and
without a payload there is no audio.  A file that is decoded is therefore complete: magic, gap,
key, meta block, gap, image and payload follow one another.

### Outline

* `NcmSections` and its bytes;
* the reads of a complete file, and what a read that leaves something says about the file;
* `DecodesCorrectly` and `decode_correct_iff`.
-/

namespace SystemsDemos

/-- A section of a file with its length in front of it. -/
def lengthPrefixed (data : List UInt8) : List UInt8 := leBytes 4 data.length ++ data

/-- The sections of a complete NCM file. -/
structure NcmSections where
  gap : List UInt8
  key : List UInt8
  metadata : List UInt8
  gap' : List UInt8
  image : List UInt8
  payload : List UInt8
  length_gap : gap.length = 2
  key_lt : key.length < 2 ^ 32
  metadata_lt : metadata.length < 2 ^ 32
  length_gap' : gap'.length = 5
  image_lt : image.length < 2 ^ 32

namespace NcmSections

/-- What follows the key section. -/
def afterKey (sections : NcmSections) : List UInt8 :=
  lengthPrefixed sections.metadata ++ (sections.gap' ++
    (lengthPrefixed sections.image ++ sections.payload))

/-- The file. -/
def bytes (sections : NcmSections) : List UInt8 :=
  NcmDecoder.magic ++ (sections.gap ++ (lengthPrefixed sections.key ++ sections.afterKey))

end NcmSections

namespace NcmDecoder

variable {f : List UInt8} {n : ℕ}

lemma length_magic : magic.length = 8 := rfl

/-! ### Reading -/

/-- Reading what stands there. -/
lemma read_append {data : List UInt8} (h : data.length = n) (rest : List UInt8) :
    read n (data ++ rest) = (data, rest) := by
  subst h
  rw [read, List.take_left, List.drop_left]

/-- Reading the length of a section. -/
lemma readLength_lengthPrefixed {data : List UInt8} (h : data.length < 2 ^ 32)
    (rest : List UInt8) :
    readLength (lengthPrefixed data ++ rest) = (data.length, data ++ rest) := by
  rw [readLength, lengthPrefixed, List.append_assoc, read_append (length_leBytes 4 _),
    leValue_leBytes h]

/-- A read that leaves something has read everything. -/
lemma length_read (h : (read n f).2 ≠ []) : (read n f).1.length = n := by
  have hpos : 0 < (f.drop n).length := List.length_pos_iff.mpr h
  rw [List.length_drop] at hpos
  rw [read, List.length_take]
  omega

/-- What is read and the rest are the file. -/
lemma read_fst_append_snd (n : ℕ) (f : List UInt8) : (read n f).1 ++ (read n f).2 = f :=
  List.take_append_drop n f

/-- Nothing is read from nothing. -/
lemma ne_nil_of_read (h : (read n f).2 ≠ []) : f ≠ [] := by
  rintro rfl
  exact h List.drop_nil

/-- A section that is followed by something is complete. -/
lemma eq_lengthPrefixed (h : (read (readLength f).1 (readLength f).2).2 ≠ []) :
    let data := (read (readLength f).1 (readLength f).2).1
    f = lengthPrefixed data ++ (read (readLength f).1 (readLength f).2).2 ∧
      data.length < 2 ^ 32 := by
  have hlength := length_read h
  have hfield : (read 4 f).1.length = 4 := length_read (ne_nil_of_read h)
  have hlt : (readLength f).1 < 2 ^ 32 := by
    have hvalue := leValue_lt (read 4 f).1
    rwa [hfield] at hvalue
  have hbytes : leBytes 4 (readLength f).1 = (read 4 f).1 := by
    have hinverse := leBytes_leValue (read 4 f).1
    rwa [hfield] at hinverse
  constructor
  · rw [lengthPrefixed, hlength, hbytes, List.append_assoc, read_fst_append_snd]
    exact (read_fst_append_snd 4 f).symm
  · rw [hlength]
    exact hlt

/-- The payload of a complete file. -/
lemma skipToPayload_afterKey (sections : NcmSections) :
    skipToPayload sections.afterKey = sections.payload := by
  have hgap : ∃ a b, sections.gap' = a ++ b ∧ a.length = 4 ∧ b.length = 1 := by
    refine ⟨sections.gap'.take 4, sections.gap'.drop 4, (List.take_append_drop _ _).symm, ?_, ?_⟩
    · rw [List.length_take, sections.length_gap']
      rfl
    · rw [List.length_drop, sections.length_gap']
  obtain ⟨a, b, hab, ha, hb⟩ := hgap
  simp only [skipToPayload, NcmSections.afterKey, readLength_lengthPrefixed sections.metadata_lt,
    read_append rfl, hab, List.append_assoc, read_append ha, read_append hb,
    readLength_lengthPrefixed sections.image_lt]

/-- A file with a payload has all sections after the key. -/
lemma exists_afterKey (h : skipToPayload f ≠ []) :
    ∃ metadata gap' image, f = lengthPrefixed metadata ++ (gap' ++
        (lengthPrefixed image ++ skipToPayload f)) ∧
      metadata.length < 2 ^ 32 ∧ gap'.length = 5 ∧ image.length < 2 ^ 32 := by
  simp only [skipToPayload] at h ⊢
  obtain ⟨himage, himageLt⟩ := eq_lengthPrefixed h
  have hgap₁ := ne_nil_of_read (ne_nil_of_read h)
  have hgap₄ := ne_nil_of_read hgap₁
  obtain ⟨hmeta, hmetaLt⟩ := eq_lengthPrefixed (ne_nil_of_read hgap₄)
  generalize read (readLength f).1 (readLength f).2 = metadata at *
  refine ⟨metadata.1, (read 4 metadata.2).1 ++ (read 1 (read 4 metadata.2).2).1, _, ?_, hmetaLt,
    ?_, himageLt⟩
  · rw [← himage, List.append_assoc, read_fst_append_snd, read_fst_append_snd]
    exact hmeta
  · rw [List.length_append, length_read hgap₁, length_read hgap₄]

/-- The key section as `decode` reads it, and what is left of the file then. -/
def readKey (f : List UInt8) : List UInt8 × List UInt8 :=
  read (readLength (read 2 (read 8 f).2).2).1 (readLength (read 2 (read 8 f).2).2).2

/-- A file with the magic and a payload is complete. -/
lemma exists_sections (hmagic : (read 8 f).1 = magic) (h : skipToPayload (readKey f).2 ≠ []) :
    ∃ sections : NcmSections, f = sections.bytes ∧ sections.key = (readKey f).1 ∧
      sections.payload = skipToPayload (readKey f).2 := by
  obtain ⟨metadata, gap', image, hafter, hmetadata, hgap', himage⟩ := exists_afterKey h
  have hrest : (readKey f).2 ≠ [] := by
    intro hnil
    rw [hnil] at h
    exact h rfl
  obtain ⟨hkey, hkeyLt⟩ := eq_lengthPrefixed hrest
  have hgap : (read 2 (read 8 f).2).1.length = 2 :=
    length_read (ne_nil_of_read (ne_nil_of_read hrest))
  refine ⟨⟨(read 2 (read 8 f).2).1, (readKey f).1, metadata, gap', image,
    skipToPayload (readKey f).2, hgap, hkeyLt, hmetadata, hgap', himage⟩, ?_, rfl, rfl⟩
  calc f = magic ++ ((read 2 (read 8 f).2).1 ++ (read 2 (read 8 f).2).2) := by
        rw [read_fst_append_snd, ← hmagic, read_fst_append_snd]
    _ = magic ++ ((read 2 (read 8 f).2).1 ++
        (lengthPrefixed (readKey f).1 ++ (readKey f).2)) := congrArg _ (congrArg _ hkey)
    _ = _ := by rw [NcmSections.bytes, NcmSections.afterKey, ← hafter]

/-! ### What is decoded -/

/-- The block that `CCCrypt` gives for the key section, if `decode` comes to it. -/
def keyBlock (lib : CommonCrypto) (env : Env) : Option (List UInt8) :=
  match env.input with
  | none => none
  | some f =>
      if (read 8 f).1 ≠ magic then none
      else
        let (keyLen, f) := readLength (read 2 (read 8 f).2).2
        lib.decrypt keyCore ((read keyLen f).1.map fun b => b ^^^ 0x64)

/-- What `decode` promises: audio comes from a complete file, with the least skip that gives any,
and from a file that is not complete comes nothing. -/
structure DecodesCorrectly (lib : CommonCrypto) (env : Env) (r : Result) : Prop where
  success : r.path ≠ "" → ∃ (sections : NcmSections) (decKey : List UInt8)
      (keyBox : Vector UInt8 256) (skip : ℕ),
    env.input = some sections.bytes ∧
      aesDecryptECB lib (sections.key.map fun b => b ^^^ 0x64) keyCore = some decKey ∧
      prefixLength < decKey.length ∧ buildKeyBox (decKey.drop prefixLength) = some keyBox ∧
      skip ≤ 16 ∧ looksLikeAudio (xorWith (keystream keyBox) (sections.payload.drop skip)) ∧
      (∀ skip' < skip,
        looksLikeAudio (xorWith (keystream keyBox) (sections.payload.drop skip')) = false) ∧
      r.written = some (xorWith (keystream keyBox) (sections.payload.drop skip))
  truncated : (∀ sections : NcmSections, env.input ≠ some sections.bytes) → r = .failed
  unwritten : r.path = "" → r.written = none

variable {lib : CommonCrypto} {env : Env} {r : Result}

/-- The empty result promises nothing. -/
lemma decodesCorrectly_failed (lib : CommonCrypto) (env : Env) :
    DecodesCorrectly lib env .failed where
  success h := (h rfl).elim
  truncated _ := rfl
  unwritten _ := rfl

/-- Skipping everything leaves nothing to mask. -/
lemma decryptAudioPayload_eq (payload : List UInt8) (keyBox : Vector UInt8 256) (skip : ℕ) :
    decryptAudioPayload payload keyBox skip = xorWith (keystream keyBox) (payload.drop skip) := by
  unfold decryptAudioPayload
  split
  · next hle => rw [List.drop_eq_nil_of_le hle, xorWith, List.mapIdx_nil]
  · rfl

/-- The skip that `decode` finds is the least one. -/
lemma payloadSkip_eq_some {payload : List UInt8} {keyBox : Vector UInt8 256} {skip : ℕ}
    (h : payloadSkip payload keyBox = some skip) :
    skip ≤ 16 ∧ looksLikeAudio (xorWith (keystream keyBox) (payload.drop skip)) ∧
      ∀ skip' < skip, looksLikeAudio (xorWith (keystream keyBox) (payload.drop skip')) = false := by
  rw [payloadSkip, List.find?_range_eq_some] at h
  obtain ⟨haudio, hmem, hleast⟩ := h
  simp only [decryptAudioPayload_eq] at haudio hleast
  refine ⟨Nat.lt_succ_iff.mp (List.mem_range.mp hmem), haudio, fun skip' hskip' => ?_⟩
  simpa using hleast skip' hskip'

/-- What looks like audio is not empty. -/
lemma ne_nil_of_looksLikeAudio {payload : List UInt8} {keyBox : Vector UInt8 256} {skip : ℕ}
    (h : looksLikeAudio (xorWith (keystream keyBox) (payload.drop skip))) : payload ≠ [] := by
  rintro rfl
  rw [List.drop_nil] at h
  cases h

/-- What the part of `decode` after the key gives is the empty result, or the audio. -/
lemma decodePayload_cases {rc4key f : List UInt8} (h : decodePayload env rc4key f = some r) :
    r = .failed ∨ ∃ keyBox skip, buildKeyBox rc4key = some keyBox ∧
      payloadSkip (skipToPayload f) keyBox = some skip ∧
      r = writeAudio env (decryptAudioPayload (skipToPayload f) keyBox skip) := by
  obtain ⟨keyBox, hbox, rfl⟩ := Option.map_eq_some_iff.mp h
  unfold decodeAudio
  split
  · exact .inl rfl
  · next skip hskip => exact .inr ⟨keyBox, skip, hbox, hskip, rfl⟩

/-- The name of the temporary file is not empty. -/
lemma temporaryName_ne (tempPath uuid suffix : String) :
    tempPath ++ "/ncm_" ++ uuid ++ suffix ≠ "" := by
  intro h
  rw [String.append_eq_empty_iff, String.append_eq_empty_iff, String.append_eq_empty_iff] at h
  exact absurd h.1.1.2 (by simp)

/-- What `decode` gives is the empty result, or what the part after the key gives. -/
lemma decode_cases (h : decode lib env = some r) :
    r = .failed ∨ ∃ f decKey, env.input = some f ∧ (read 8 f).1 = magic ∧
      aesDecryptECB lib ((readKey f).1.map fun b => b ^^^ 0x64) keyCore = some decKey ∧
      prefixLength < decKey.length ∧
      decodePayload env (decKey.drop prefixLength) (readKey f).2 = some r := by
  unfold decode at h
  split at h
  · exact .inl (Option.some.inj h).symm
  · next f hf =>
    split at h
    · exact .inl (Option.some.inj h).symm
    · next hmagic =>
      simp only at h
      split at h
      · cases h
      · next decKey hdecKey =>
        split at h
        · exact .inl (Option.some.inj h).symm
        · split at h
          · exact .inl (Option.some.inj h).symm
          · next hlong =>
            exact .inr ⟨f, decKey, hf, not_not.mp hmagic, hdecKey, Nat.lt_of_not_le hlong, h⟩

/-- A defined result of `decode` is as promised. -/
theorem decodesCorrectly_of_decode (h : decode lib env = some r) : DecodesCorrectly lib env r := by
  rcases decode_cases h with rfl | ⟨f, decKey, hf, hmagic, hdecKey, hlong, hpayload⟩
  · exact decodesCorrectly_failed lib env
  rcases decodePayload_cases hpayload with rfl | ⟨keyBox, skip, hbox, hskip, rfl⟩
  · exact decodesCorrectly_failed lib env
  obtain ⟨hle, haudio, hleast⟩ := payloadSkip_eq_some hskip
  obtain ⟨sections, rfl, hkey, hsections⟩ :=
    exists_sections hmagic (ne_nil_of_looksLikeAudio haudio)
  rw [← hkey] at hdecKey
  rw [← hsections] at haudio hleast ⊢
  unfold writeAudio
  split
  · refine ⟨fun _ => ?_, fun hnone => (hnone sections hf).elim, fun hpath => ?_⟩
    · refine ⟨sections, decKey, keyBox, skip, hf, hdecKey, hlong, hbox, hle, haudio, hleast, ?_⟩
      rw [decryptAudioPayload_eq]
    · exact (temporaryName_ne _ _ _ hpath).elim
  · exact decodesCorrectly_failed lib env

/-- The key section is shorter than `2 ^ 32` bytes. -/
lemma length_readKey_lt (f : List UInt8) : (readKey f).1.length < 2 ^ 32 := by
  unfold readKey
  generalize (read 2 (read 8 f).2).2 = f
  have hvalue : (readLength f).1 < 256 ^ (f.take 4).length := leValue_lt _
  have hpow : 256 ^ (f.take 4).length ≤ 256 ^ 4 :=
    Nat.pow_le_pow_right (by decide) (List.length_take_le 4 f)
  have hle : (read (readLength f).1 (readLength f).2).1.length ≤ (readLength f).1 :=
    List.length_take_le _ _
  omega

/-- The part of `decode` after the key goes through for every key that a file can hold. -/
lemma decodePayload_isSome {rc4key f : List UInt8} (hpos : rc4key ≠ [])
    (h : rc4key.length < 2 ^ 32) : (decodePayload env rc4key f).isSome := by
  rw [decodePayload, Option.isSome_map]
  exact buildKeyBox_isSome hpos h

/-- The result of `decode` is defined exactly when the loop over the padding of the key block stays
in range. -/
theorem decode_isSome_iff (hlib : lib.Lawful) :
    (decode lib env).isSome ↔ ∀ out, keyBlock lib env = some out → PaddingInRange out := by
  unfold decode keyBlock
  cases env.input with
  | none => simp
  | some f =>
    by_cases hmagic : (read 8 f).1 ≠ magic
    · simp [hmagic]
    · simp only [if_neg hmagic]
      rw [← readKey]
      generalize hdata : (readKey f).1.map (fun b => b ^^^ 0x64) = data
      have hlength : data.length < 2 ^ 32 := by
        rw [← hdata, List.length_map]
        exact length_readKey_lt f
      rw [aesDecryptECB]
      cases hdecrypt : lib.decrypt keyCore data with
      | none => simp
      | some out =>
        have hsize := hlib.length _ _ _ hdecrypt
        have hblocks : 16 ∣ out.length := hsize ▸ hlib.blocks _ _ _ hdecrypt
        simp only [Option.some.injEq, forall_eq']
        rw [← stripPadding_isSome_iff hblocks (by omega)]
        cases hstrip : stripPadding out with
        | none => simp
        | some decKey =>
          have hkey := length_stripPadding_le hstrip
          refine iff_of_true ?_ rfl
          simp only
          split
          · rfl
          · split
            · rfl
            · next hlong =>
              refine decodePayload_isSome ?_ ?_
              · rw [← List.length_pos_iff, List.length_drop]
                omega
              · rw [List.length_drop]
                omega

/-- The magic and the length of the key section, as `decode` reads them. -/
lemma read_key {gap data : List UInt8} (hgap : gap.length = 2) (hdata : data.length < 2 ^ 32)
    (rest : List UInt8) :
    (read 8 (magic ++ (gap ++ (lengthPrefixed data ++ rest)))).1 = magic ∧
      readLength (read 2 (read 8 (magic ++ (gap ++ (lengthPrefixed data ++ rest)))).2).2 =
        (data.length, data ++ rest) := by
  rw [read_append length_magic, read_append hgap, readLength_lengthPrefixed hdata]
  exact ⟨rfl, rfl⟩

/-- The key block of a file with a complete key section. -/
lemma keyBlock_eq {gap data rest : List UInt8} (hgap : gap.length = 2)
    (hdata : data.length < 2 ^ 32)
    (hf : env.input = some (magic ++ (gap ++ (lengthPrefixed data ++ rest)))) :
    keyBlock lib env = lib.decrypt keyCore (data.map fun b => b ^^^ 0x64) := by
  obtain ⟨hmagic, hlength⟩ := read_key hgap hdata rest
  rw [keyBlock, hf]
  simp only [hmagic, ne_eq, not_true_eq_false, if_false, hlength, read_append rfl]

/-- What `decode` does with a file whose key section is complete and whose key is long enough. -/
lemma decode_eq {gap data rest decKey : List UInt8} (hgap : gap.length = 2)
    (hdata : data.length < 2 ^ 32)
    (hf : env.input = some (magic ++ (gap ++ (lengthPrefixed data ++ rest))))
    (hkey : aesDecryptECB lib (data.map fun b => b ^^^ 0x64) keyCore = some decKey)
    (hlong : prefixLength < decKey.length) :
    decode lib env = decodePayload env (decKey.drop prefixLength) rest := by
  obtain ⟨hmagic, hlength⟩ := read_key hgap hdata rest
  have hne : decKey ≠ [] := by
    rintro rfl
    exact Nat.not_lt_zero _ hlong
  rw [decode, hf]
  simp only [hmagic, ne_eq, not_true_eq_false, if_false, hlength, read_append rfl, hkey, hne,
    if_neg (Nat.not_le.mpr hlong)]

/-- **A file gives audio only if it is complete, and what is cut off gives nothing, exactly when
the loop over the padding of the key stays in range.**  Otherwise the behaviour of `decode` is
undefined. -/
theorem decode_correct_iff (hlib : lib.Lawful) :
    (∃ r, decode lib env = some r ∧ DecodesCorrectly lib env r) ↔
      ∀ out, keyBlock lib env = some out → PaddingInRange out := by
  rw [← decode_isSome_iff hlib, Option.isSome_iff_exists]
  constructor
  · rintro ⟨r, hr, -⟩
    exact ⟨r, hr⟩
  · rintro ⟨r, hr⟩
    exact ⟨r, hr, decodesCorrectly_of_decode hr⟩

end NcmDecoder

end SystemsDemos
