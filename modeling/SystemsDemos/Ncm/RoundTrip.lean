import SystemsDemos.Ncm.Sections

/-!
# Decoding a composed NCM file

A file is composed the way the decoder takes it apart: the key is padded, encrypted and masked, the
audio is masked with the keystream of the key.  The decoder gives the audio back as long as the
size of the padded key is an `int`; behind that the loop over the padding leaves its range.

### Outline

* `NcmFile` and `compose`;
* `decode_compose_iff`;
* a file with a key of `2 ^ 31` bytes, complete and cut off behind the key.
-/

namespace SystemsDemos

/-- Decryption inverts encryption, of whole blocks. -/
def CommonCrypto.Inverts (lib : CommonCrypto) (encrypt : List UInt8 → List UInt8 → List UInt8) :
    Prop :=
  ∀ key data, 16 ∣ data.length → lib.decrypt key (encrypt key data) = some data

namespace NcmDecoder

/-- "neteasecloudmusic". -/
def keyPrefix : List UInt8 :=
  [0x6e, 0x65, 0x74, 0x65, 0x61, 0x73, 0x65, 0x63, 0x6c, 0x6f, 0x75, 0x64, 0x6d, 0x75, 0x73, 0x69,
    0x63]

lemma length_keyPrefix : keyPrefix.length = prefixLength := rfl

/-- The key with its prefix, padded to whole blocks. -/
def paddedKey (key : List UInt8) : List UInt8 := padBlocks 16 (keyPrefix ++ key)

end NcmDecoder

/-- What an NCM file is composed of. -/
structure NcmFile where
  gap : List UInt8
  key : List UInt8
  metadata : List UInt8
  gap' : List UInt8
  image : List UInt8
  audio : List UInt8
  length_gap : gap.length = 2
  key_ne : key ≠ []
  key_lt : (NcmDecoder.paddedKey key).length < 2 ^ 32
  metadata_lt : metadata.length < 2 ^ 32
  length_gap' : gap'.length = 5
  image_lt : image.length < 2 ^ 32
  audio_looks : NcmDecoder.looksLikeAudio audio = true

namespace NcmDecoder

variable {lib : CommonCrypto} {encrypt : List UInt8 → List UInt8 → List UInt8}

/-- The key section. -/
def keySection (encrypt : List UInt8 → List UInt8 → List UInt8) (key : List UInt8) : List UInt8 :=
  (encrypt keyCore (paddedKey key)).map fun b => b ^^^ 0x64

/-- The sections behind the key section. -/
def composeTail (file : NcmFile) : List UInt8 :=
  lengthPrefixed file.metadata ++ (file.gap' ++ (lengthPrefixed file.image ++
    xorWith (keystream (keySchedule file.key)) file.audio))

/-- The composed file. -/
def compose (encrypt : List UInt8 → List UInt8 → List UInt8) (file : NcmFile) : List UInt8 :=
  magic ++ (file.gap ++ (lengthPrefixed (keySection encrypt file.key) ++ composeTail file))

/-- The file up to the key section. -/
def composeHead (encrypt : List UInt8 → List UInt8 → List UInt8) (file : NcmFile) : List UInt8 :=
  magic ++ (file.gap ++ (lengthPrefixed (keySection encrypt file.key) ++ []))

/-- The padded key is whole blocks. -/
lemma dvd_length_paddedKey (key : List UInt8) : 16 ∣ (paddedKey key).length :=
  dvd_length_padBlocks (by decide)

/-- Unmasking and decrypting the key section gives the padded key. -/
lemma decrypt_keySection (hinv : lib.Inverts encrypt) (key : List UInt8) :
    lib.decrypt keyCore ((keySection encrypt key).map fun b => b ^^^ 0x64) =
      some (paddedKey key) := by
  have hmask : ((keySection encrypt key).map fun b => b ^^^ 0x64) =
      encrypt keyCore (paddedKey key) := by
    simp only [keySection, List.map_map, Function.comp_def, UInt8.xor_assoc, UInt8.xor_self,
      UInt8.xor_zero, List.map_id']
  rw [hmask]
  exact hinv keyCore _ (dvd_length_paddedKey key)

/-- The key section is as long as the padded key. -/
lemma length_keySection (hlib : lib.Lawful) (hinv : lib.Inverts encrypt) (key : List UInt8) :
    (keySection encrypt key).length = (paddedKey key).length := by
  have hlength := hlib.length _ _ _ (decrypt_keySection hinv key)
  rw [hlength, List.length_map]

/-- The length of the key section of a file fits into its length field. -/
lemma length_keySection_lt (hlib : lib.Lawful) (hinv : lib.Inverts encrypt) (file : NcmFile) :
    (keySection encrypt file.key).length < 2 ^ 32 :=
  (length_keySection hlib hinv file.key).trans_lt file.key_lt

/-- The key block of a file whose key section is complete is the padded key. -/
lemma keyBlock_keySection (hlib : lib.Lawful) (hinv : lib.Inverts encrypt) (file : NcmFile)
    {env : Env} {rest : List UInt8} (hinput : env.input = some (magic ++ (file.gap ++
      (lengthPrefixed (keySection encrypt file.key) ++ rest)))) :
    keyBlock lib env = some (paddedKey file.key) := by
  rw [keyBlock_eq file.length_gap (length_keySection_lt hlib hinv file) hinput,
    decrypt_keySection hinv]

/-- The key section is decrypted to the key with its prefix, when the padding is removed. -/
lemma aesDecryptECB_keySection (hinv : lib.Inverts encrypt) {key : List UInt8}
    (hlength : (paddedKey key).length < 2 ^ 31) :
    aesDecryptECB lib ((keySection encrypt key).map fun b => b ^^^ 0x64) keyCore =
      some (keyPrefix ++ key) := by
  rw [aesDecryptECB, decrypt_keySection hinv]
  exact stripPadding_padBlocks hlength

/-- Without a skip the payload of a composed file is its audio. -/
lemma payloadSkip_compose {audio : List UInt8} (keyBox : Vector UInt8 256)
    (haudio : looksLikeAudio audio = true) :
    payloadSkip (xorWith (keystream keyBox) audio) keyBox = some 0 := by
  rw [payloadSkip, List.find?_range_eq_some]
  refine ⟨?_, List.mem_range.mpr (by decide), fun skip hskip => (Nat.not_lt_zero _ hskip).elim⟩
  rw [decryptAudioPayload_eq, List.drop_zero, xorWith_xorWith, haudio]

/-- The sections behind the key of a composed file. -/
lemma skipToPayload_composeTail (file : NcmFile) :
    skipToPayload (composeTail file) = xorWith (keystream (keySchedule file.key)) file.audio :=
  skipToPayload_afterKey ⟨file.gap, [], file.metadata, file.gap', file.image, _, file.length_gap,
    by decide, file.metadata_lt, file.length_gap', file.image_lt⟩

/-- A key whose padded size is an `int` is one too. -/
lemma length_key_lt {key : List UInt8} (h : (paddedKey key).length < 2 ^ 31) :
    key.length < 2 ^ 31 := by
  rw [paddedKey, length_padBlocks, List.length_append] at h
  omega

/-- **Decoding a composed file gives its audio back, under a name with the right suffix, exactly
when the size of the padded key is an `int`.** -/
theorem decode_compose_iff (hlib : lib.Lawful) (hinv : lib.Inverts encrypt) (file : NcmFile)
    (tempPath uuid : String) :
    decode lib ⟨some (compose encrypt file), tempPath, uuid, true⟩ =
        some ⟨tempPath ++ "/ncm_" ++ uuid ++
          (if file.audio.head? = some 0x66 then ".flac" else ".mp3"), some file.audio⟩ ↔
      (paddedKey file.key).length < 2 ^ 31 := by
  have hsection := length_keySection_lt hlib hinv file
  constructor
  · intro hdecode
    have hsome : (decode lib ⟨some (compose encrypt file), tempPath, uuid, true⟩).isSome := by
      rw [hdecode]
      rfl
    have hblock : keyBlock lib ⟨some (compose encrypt file), tempPath, uuid, true⟩ =
        some (paddedKey file.key) := keyBlock_keySection hlib hinv file rfl
    exact paddingInRange_padBlocks_iff.mp ((decode_isSome_iff hlib).mp hsome _ hblock)
  · intro hlength
    have hlong : prefixLength < (keyPrefix ++ file.key).length := by
      have hpos := List.length_pos_iff.mpr file.key_ne
      rw [List.length_append, length_keyPrefix]
      omega
    rw [decode_eq file.length_gap hsection rfl (aesDecryptECB_keySection hinv hlength) hlong,
      decodePayload, ← length_keyPrefix, List.drop_left,
      buildKeyBox_eq file.key_ne (length_key_lt hlength), Option.map_some,
      skipToPayload_composeTail, decodeAudio, payloadSkip_compose _ file.audio_looks]
    simp only [decryptAudioPayload_eq, List.drop_zero, xorWith_xorWith, writeAudio, if_true,
      suffix, file.audio_looks, Bool.true_and, beq_iff_eq]

/-! ### A short key -/

/-- A key of 14 bytes with its prefix, padded. -/
def shortKeyBlock : List UInt8 :=
  [0x6e, 0x65, 0x74, 0x65, 0x61, 0x73, 0x65, 0x63, 0x6c, 0x6f, 0x75, 0x64, 0x6d, 0x75, 0x73, 0x69,
    0x63, 0x45, 0x37, 0x66, 0x54, 0x34, 0x39, 0x78, 0x37, 0x64, 0x6f, 0x66, 0x39, 0x4f, 0x4b, 0x01]

/-- Its encryption with `KEY_CORE`. -/
def shortKeyCipher : List UInt8 :=
  [0x48, 0xaa, 0xb1, 0x8f, 0x0d, 0x8e, 0x9f, 0x70, 0x31, 0x69, 0x21, 0xdb, 0x05, 0xb9, 0x73, 0x79,
    0xe3, 0x75, 0xa5, 0xeb, 0xd3, 0x60, 0xb7, 0x09, 0x0e, 0xc5, 0x6c, 0x33, 0x71, 0x43, 0xe5, 0x75]

/-- Exchanges the block and its encryption, and leaves everything else alone. -/
def exchange (data : List UInt8) : List UInt8 :=
  if data = shortKeyBlock then shortKeyCipher
  else if data = shortKeyCipher then shortKeyBlock
  else data

/-- A cipher that does to the block what AES does. -/
def shortKeyCrypto : CommonCrypto where
  decrypt _ data := if 16 ∣ data.length then some (exchange data) else none

/-- Exchanging changes no length. -/
lemma length_exchange (data : List UInt8) : (exchange data).length = data.length := by
  unfold exchange
  split
  · next h => rw [h]; rfl
  · split
    · next h => rw [h]; rfl
    · rfl

/-- Exchanging twice changes nothing. -/
lemma exchange_exchange (data : List UInt8) : exchange (exchange data) = data := by
  unfold exchange
  by_cases hblock : data = shortKeyBlock
  · rw [if_pos hblock, if_neg (by decide), if_pos rfl, hblock]
  · rw [if_neg hblock]
    by_cases hcipher : data = shortKeyCipher
    · rw [if_pos hcipher, if_pos rfl, hcipher]
    · rw [if_neg hcipher, if_neg hblock, if_neg hcipher]

/-- The cipher takes whole blocks and keeps their length. -/
lemma shortKeyCrypto_lawful : shortKeyCrypto.Lawful where
  length key data out h := by
    simp only [shortKeyCrypto] at h
    split at h
    · rw [← Option.some.inj h, length_exchange]
    · cases h
  blocks key data out h := by
    simp only [shortKeyCrypto] at h
    split at h
    · assumption
    · cases h

/-- The cipher is its own inverse. -/
lemma shortKeyCrypto_inverts : shortKeyCrypto.Inverts fun _ data => exchange data := by
  intro key data hdata
  have hlength : 16 ∣ (exchange data).length := by rwa [length_exchange]
  have hdecrypt : shortKeyCrypto.decrypt key (exchange data) =
      some (exchange (exchange data)) := if_pos hlength
  rw [hdecrypt, exchange_exchange]

/-- A file with the key and the begin of a FLAC stream. -/
def shortFile : NcmFile where
  gap := [1, 0]
  key := [0x45, 0x37, 0x66, 0x54, 0x34, 0x39, 0x78, 0x37, 0x64, 0x6f, 0x66, 0x39, 0x4f, 0x4b]
  metadata := [0x7b, 0x7d]
  gap' := [0, 0, 0, 0, 1]
  image := []
  audio := [0x66, 0x4c, 0x61, 0x43, 0, 0, 0, 0x22]
  length_gap := rfl
  key_ne := by decide
  key_lt := by decide
  metadata_lt := by decide
  length_gap' := rfl
  image_lt := by decide
  audio_looks := by decide

/-- The block is the padded key of the file. -/
example : paddedKey shortFile.key = shortKeyBlock := by decide

/-- The file is decoded. -/
theorem decode_compose_shortFile :
    decode shortKeyCrypto
        ⟨some (compose (fun _ data => exchange data) shortFile), "/tmp", "0", true⟩ =
      some ⟨"/tmp" ++ "/ncm_" ++ "0" ++
        (if shortFile.audio.head? = some 0x66 then ".flac" else ".mp3"), some shortFile.audio⟩ :=
  (decode_compose_iff shortKeyCrypto_lawful shortKeyCrypto_inverts shortFile "/tmp" "0").mpr
    (by decide)

/-- A defined result of a composed file is as promised. -/
theorem decode_correct_shortFile :
    ∃ r, decode shortKeyCrypto
        ⟨some (compose (fun _ data => exchange data) shortFile), "/tmp", "0", true⟩ = some r ∧
      DecodesCorrectly shortKeyCrypto
        ⟨some (compose (fun _ data => exchange data) shortFile), "/tmp", "0", true⟩ r := by
  refine (decode_correct_iff shortKeyCrypto_lawful).mpr fun out hout => ?_
  have hblock : keyBlock shortKeyCrypto
      ⟨some (compose (fun _ data => exchange data) shortFile), "/tmp", "0", true⟩ =
        some (paddedKey shortFile.key) :=
    keyBlock_keySection shortKeyCrypto_lawful shortKeyCrypto_inverts shortFile rfl
  rw [← Option.some.inj (hblock.symm.trans hout)]
  exact paddingInRange_padBlocks_iff.mpr (by decide)

/-! ### A long key -/

/-- A key of `2 ^ 31` bytes. -/
def longKey : List UInt8 := List.replicate (2 ^ 31) 0

lemma length_longKey : longKey.length = 2 ^ 31 := by
  rw [longKey, List.length_replicate]

lemma length_paddedKey_longKey : (paddedKey longKey).length = 2 ^ 31 + 32 := by
  have hlength : (keyPrefix ++ longKey).length = 2 ^ 31 + 17 := by
    rw [List.length_append, length_longKey, length_keyPrefix, prefixLength, Nat.add_comm]
  rw [paddedKey, length_padBlocks, hlength, padLength]
  decide

/-- A file with the long key and the begin of a FLAC stream. -/
def longFile : NcmFile where
  gap := [1, 0]
  key := longKey
  metadata := [0x7b, 0x7d]
  gap' := [0, 0, 0, 0, 1]
  image := []
  audio := [0x66, 0x4c, 0x61, 0x43, 0, 0, 0, 0x22]
  length_gap := rfl
  key_ne := by
    rw [← List.length_pos_iff, length_longKey]
    decide
  key_lt := by
    rw [length_paddedKey_longKey]
    decide
  metadata_lt := by decide
  length_gap' := rfl
  image_lt := by decide
  audio_looks := by decide

/-- The result is undefined whenever the key section of the long file is complete. -/
lemma decode_longFile_eq_none (hlib : lib.Lawful) (hinv : lib.Inverts encrypt) {env : Env}
    {rest : List UInt8} (hinput : env.input = some (magic ++ (longFile.gap ++
      (lengthPrefixed (keySection encrypt longFile.key) ++ rest)))) : decode lib env = none := by
  have hblock := keyBlock_keySection hlib hinv longFile hinput
  rw [← Option.not_isSome_iff_eq_none, decode_isSome_iff hlib]
  intro hrange
  have hlength := paddingInRange_padBlocks_iff.mp (hrange _ hblock)
  rw [← paddedKey, show longFile.key = longKey from rfl, length_paddedKey_longKey] at hlength
  omega

/-- The file with the long key is composed as it should be, and its decoding is undefined, with
every cipher. -/
theorem decode_compose_longFile :
    (∃ lib encrypt, CommonCrypto.Lawful lib ∧ lib.Inverts encrypt) ∧
    ∀ (lib : CommonCrypto) (encrypt : List UInt8 → List UInt8 → List UInt8), lib.Lawful →
      lib.Inverts encrypt → ∀ tempPath uuid : String,
        decode lib ⟨some (compose encrypt longFile), tempPath, uuid, true⟩ = none :=
  ⟨⟨_, _, shortKeyCrypto_lawful, shortKeyCrypto_inverts⟩,
    fun _ _ hlib hinv _ _ => decode_longFile_eq_none hlib hinv rfl⟩

/-- A file that ends behind its key section is not complete. -/
lemma composeHead_ne (hlib : lib.Lawful) (hinv : lib.Inverts encrypt) (file : NcmFile)
    (sections : NcmSections) : composeHead encrypt file ≠ sections.bytes := by
  intro heq
  obtain ⟨-, hread⟩ := read_key file.length_gap (length_keySection_lt hlib hinv file) []
  obtain ⟨-, hread'⟩ := read_key sections.length_gap sections.key_lt
    sections.afterKey
  rw [← composeHead, heq, NcmSections.bytes] at hread
  obtain ⟨hlength, happend⟩ := Prod.mk.inj (hread.symm.trans hread')
  have htail : sections.afterKey = [] := by
    have hall := congrArg List.length happend
    rw [List.append_nil, List.length_append, ← hlength] at hall
    exact List.eq_nil_of_length_eq_zero (by omega)
  have hfour : (lengthPrefixed sections.metadata).length = 4 + sections.metadata.length := by
    rw [lengthPrefixed, List.length_append, length_leBytes]
  have hnil := (List.append_eq_nil_iff.mp htail).1
  rw [hnil, List.length_nil] at hfour
  omega

/-- The file that ends behind the long key is not complete, and its decoding is undefined instead
of empty, with every cipher. -/
theorem decode_correct_longFile :
    (∃ lib encrypt, CommonCrypto.Lawful lib ∧ lib.Inverts encrypt) ∧
    ∀ (lib : CommonCrypto) (encrypt : List UInt8 → List UInt8 → List UInt8), lib.Lawful →
      lib.Inverts encrypt → ∀ (tempPath uuid : String) (outputOpens : Bool),
        (∀ sections : NcmSections, composeHead encrypt longFile ≠ sections.bytes) ∧
        ¬∃ r, decode lib ⟨some (composeHead encrypt longFile), tempPath, uuid, outputOpens⟩ =
            some r ∧
          DecodesCorrectly lib
            ⟨some (composeHead encrypt longFile), tempPath, uuid, outputOpens⟩ r := by
  refine ⟨⟨_, _, shortKeyCrypto_lawful, shortKeyCrypto_inverts⟩,
    fun lib encrypt hlib hinv tempPath uuid outputOpens =>
      ⟨composeHead_ne hlib hinv longFile, ?_⟩⟩
  rintro ⟨r, hr, -⟩
  rw [decode_longFile_eq_none hlib hinv rfl] at hr
  cases hr

end NcmDecoder

end SystemsDemos
