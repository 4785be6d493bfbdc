import SystemsDemos.Ncm.KeyBox

/-!
# The NCM decoder

`NcmDecoder::decode`: the sections of the file are read one after the other, the key section is
unmasked and decrypted, its padding is removed, and the payload is masked with the keystream of the
key.  A read at the end of the file returns what is left, and the length field it was for keeps
zeros in the bytes that were not read.  Block decryption is a call of the system library.

An outer `none` stands for undefined behaviour: a read outside an array, an `int` that overflows,
a division by zero.

### Outline

* `CommonCrypto`, `aesDecryptECB` with the loop that checks the padding;
* `looksLikeAudio`, `decryptAudioPayload`;
* `decode`.
-/

namespace SystemsDemos

/-- `CCCrypt` with `kCCDecrypt`, `kCCAlgorithmAES128` and `kCCOptionECBMode`: from the key and the
data, the bytes written, or none when the status is not `kCCSuccess`. -/
structure CommonCrypto where
  decrypt : List UInt8 → List UInt8 → Option (List UInt8)

/-- Without padding, decryption gives as many bytes as it gets, and it only takes whole blocks. -/
structure CommonCrypto.Lawful (lib : CommonCrypto) : Prop where
  length : ∀ key data out, lib.decrypt key data = some out → out.length = data.length
  blocks : ∀ key data out, lib.decrypt key data = some out → 16 ∣ data.length

namespace NcmDecoder

/-- `KEY_CORE`. -/
def keyCore : List UInt8 :=
  [0x68, 0x7a, 0x48, 0x52, 0x41, 0x6d, 0x73, 0x6f, 0x35, 0x6b, 0x49, 0x6e, 0x62, 0x61, 0x78, 0x57]

/-- The loop over the padding, from the index `i` on.  It runs as long as `i < out.size()`, which
is `n` times.  `none` when it reads in front of `out` or when `i` overflows. -/
def validPad (out : List UInt8) (pad : UInt8) : ℕ → ℤ → Option Bool
  | 0, _ => some true
  | n + 1, i =>
      if i < 0 then none
      else if out[i.toNat]? ≠ some pad then some false
      else if i + 1 = 2 ^ 31 then none
      else validPad out pad n (i + 1)

/-- The part of `aesDecryptECB` that removes the padding. -/
def stripPadding (out : List UInt8) : Option (List UInt8) :=
  match out.getLast? with
  | none => some out
  | some pad =>
      if pad ≤ 16 then
        let i := toInt (out.length - pad.toNat)
        match validPad out pad (out.length - i).toNat i with
        | none => none
        | some true => some (out.take (out.length - pad.toNat))
        | some false => some out
      else some out

/-- `aesDecryptECB`. -/
def aesDecryptECB (lib : CommonCrypto) (data key : List UInt8) : Option (List UInt8) :=
  match lib.decrypt key data with
  | none => some []
  | some out => stripPadding out

/-- `looksLikeAudio`. -/
def looksLikeAudio : List UInt8 → Bool
  | a :: b :: c :: e :: _ =>
      (a == 0xFF && b &&& 0xE0 == 0xE0) || (a == 0x49 && b == 0x44 && c == 0x33) ||
        (a == 0x66 && b == 0x4C && c == 0x61 && e == 0x43)
  | _ => false

/-- `decryptAudioPayload`. -/
def decryptAudioPayload (payload : List UInt8) (keyBox : Vector UInt8 256) (skipBytes : ℕ) :
    List UInt8 :=
  if payload.length ≤ skipBytes then [] else xorWith (keystream keyBox) (payload.drop skipBytes)

/-- `f.read(n)`: what is read, and the rest of the file. -/
def read (n : ℕ) (f : List UInt8) : List UInt8 × List UInt8 := (f.take n, f.drop n)

/-- `f.read` of four bytes into a `uint32_t` that is zero. -/
def readLength (f : List UInt8) : ℕ × List UInt8 := (leValue (read 4 f).1, (read 4 f).2)

/-- The magic. -/
def magic : List UInt8 := [0x43, 0x54, 0x45, 0x4e, 0x46, 0x44, 0x41, 0x4d]

/-- `PREFIX`. -/
def prefixLength : ℕ := 17

/-- What `decode` works with: the content of the file if it can be opened, the parts of the name of
the temporary file, and whether that can be opened. -/
structure Env where
  input : Option (List UInt8)
  tempPath : String
  uuid : String
  outputOpens : Bool

/-- What `decode` returns, and what it has written to the file of that name. -/
structure Result where
  path : String
  written : Option (List UInt8)
  deriving DecidableEq

/-- The empty result. -/
def Result.failed : Result := ⟨"", none⟩

/-- The rest of the file after the meta block, the gap and the image. -/
def skipToPayload (f : List UInt8) : List UInt8 :=
  let (metaLen, f) := readLength f
  let (_, f) := read metaLen f
  let (_, f) := read 4 f
  let (_, f) := read 1 f
  let (imgLen, f) := readLength f
  (read imgLen f).2

/-- The least number of bytes to skip, up to 16, after which the payload looks like audio. -/
def payloadSkip (payload : List UInt8) (keyBox : Vector UInt8 256) : Option ℕ :=
  (List.range 17).find? fun skip => looksLikeAudio (decryptAudioPayload payload keyBox skip)

/-- The suffix of the temporary file. -/
def suffix (audio : List UInt8) : String :=
  if looksLikeAudio audio && audio.head? == some 0x66 then ".flac" else ".mp3"

/-- The part of `decode` that writes the audio. -/
def writeAudio (env : Env) (audio : List UInt8) : Result :=
  if env.outputOpens then ⟨env.tempPath ++ "/ncm_" ++ env.uuid ++ suffix audio, some audio⟩
  else .failed

/-- The part of `decode` after the key box. -/
def decodeAudio (env : Env) (payload : List UInt8) (keyBox : Vector UInt8 256) : Result :=
  match payloadSkip payload keyBox with
  | none => .failed
  | some skip => writeAudio env (decryptAudioPayload payload keyBox skip)

/-- The part of `decode` after the key. -/
def decodePayload (env : Env) (rc4key f : List UInt8) : Option Result :=
  (buildKeyBox rc4key).map fun keyBox => decodeAudio env (skipToPayload f) keyBox

/-- `NcmDecoder::decode`. -/
def decode (lib : CommonCrypto) (env : Env) : Option Result :=
  match env.input with
  | none => some .failed
  | some f =>
      if (read 8 f).1 ≠ magic then some .failed
      else
        let f := (read 2 (read 8 f).2).2
        let (keyLen, f) := readLength f
        let (keyData, f) := read keyLen f
        match aesDecryptECB lib (keyData.map fun b => b ^^^ 0x64) keyCore with
        | none => none
        | some decKey =>
            if decKey = [] then some .failed
            else if decKey.length ≤ prefixLength then some .failed
            else decodePayload env (decKey.drop prefixLength) f

end NcmDecoder

end SystemsDemos
