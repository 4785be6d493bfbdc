import SystemsDemos.Bytes.Encoding
import Mathlib.Tactic.NormNum

/-!
# The key schedule of the NCM decoder

`ksa` and `buildKeyBox`: the RC4 key schedule and the 256 bytes of keystream that the payload is
masked with, over and over.  The length of the key goes through an `int`; an `Option` is `none`
where the behaviour of the C++ is undefined.

### Outline

* `toInt`, `ksa` and `buildKeyBox`;
* `keySchedule`, and `buildKeyBox_eq` for keys whose length is an `int`;
* `buildKeyBox_isSome` for every length below `2 ^ 32`.
-/

namespace SystemsDemos

/-- The conversion to `int`. -/
def toInt (x : ℤ) : ℤ := x.bmod (2 ^ 32)

namespace NcmDecoder

/-- `key[i % kLen]`. -/
def keyByte (key : List UInt8) (kLen : ℤ) (i : Fin 256) : Option UInt8 :=
  if kLen = 0 then none
  else if Int.tmod i kLen < 0 then none
  else key[(Int.tmod i kLen).toNat]?

/-- The box and `j` of `ksa` after a round with a byte of the key; the type `Fin 256` stands for
`& 0xFF`. -/
def ksaRound (st : Vector UInt8 256 × Fin 256) (i : Fin 256) (k : UInt8) :
    Vector UInt8 256 × Fin 256 :=
  let j := Fin.ofNat 256 (st.2 + st.1[i].toNat + k.toNat)
  (st.1.swap i j, j)

/-- The box that `ksa` begins with. -/
def ksaStart : Vector UInt8 256 × Fin 256 := (Vector.ofFn fun i => UInt8.ofNat i, 0)

/-- `ksa`. -/
def ksa (key : List UInt8) : Option (Vector UInt8 256) :=
  let kLen := toInt key.length
  ((List.finRange 256).foldlM (fun st i => (keyByte key kLen i).map (ksaRound st i))
    ksaStart).map Prod.fst

/-- The bytes that `buildKeyBox` takes from a box. -/
def boxBytes (box : Vector UInt8 256) : Vector UInt8 256 :=
  Vector.ofFn fun i =>
    let j := Fin.ofNat 256 (i + 1)
    box[Fin.ofNat 256 (box[j].toNat + box[Fin.ofNat 256 (box[j].toNat + j)].toNat)]

/-- `buildKeyBox`. -/
def buildKeyBox (key : List UInt8) : Option (Vector UInt8 256) :=
  (ksa key).map boxBytes

/-- `keyBox[k & 0xFF]`. -/
def keystream (keyBox : Vector UInt8 256) (k : ℕ) : UInt8 := keyBox[Fin.ofNat 256 k]

/-! ### The schedule of a key -/

/-- The box of a key given by its bytes. -/
def schedule (byte : Fin 256 → UInt8) : Vector UInt8 256 :=
  ((List.finRange 256).foldl (fun st i => ksaRound st i (byte i)) ksaStart).1

/-- The key box of a key, which is repeated as often as needed. -/
def keySchedule (key : List UInt8) : Vector UInt8 256 :=
  boxBytes (schedule fun i => key.getD (i % key.length) 0)

variable {key : List UInt8} {kLen : ℤ}

/-- When every byte of the key can be read, the rounds of `ksa` go through. -/
lemma ksa_rounds {byte : Fin 256 → UInt8} (hbyte : ∀ i, keyByte key kLen i = some (byte i))
    (is : List (Fin 256)) (st : Vector UInt8 256 × Fin 256) :
    is.foldlM (fun st i => (keyByte key kLen i).map (ksaRound st i)) st =
      some (is.foldl (fun st i => ksaRound st i (byte i)) st) := by
  induction is generalizing st with
  | nil => rfl
  | cons i is ih =>
    rw [List.foldlM_cons, hbyte, Option.map_some, List.foldl_cons]
    exact ih _

/-- `buildKeyBox` of a key whose bytes can all be read. -/
lemma buildKeyBox_of_keyByte {byte : Fin 256 → UInt8}
    (hbyte : ∀ i, keyByte key (toInt key.length) i = some (byte i)) :
    buildKeyBox key = some (boxBytes (schedule byte)) := by
  rw [buildKeyBox, ksa, ksa_rounds hbyte]
  rfl

end NcmDecoder

/-- A length below `2 ^ 31` is an `int`. -/
lemma toInt_of_lt {n : ℕ} (h : n < 2 ^ 31) : toInt n = n := by
  unfold toInt
  rw [Int.bmod_def]
  omega

/-- A length from `2 ^ 31` on becomes negative. -/
lemma toInt_of_le {n : ℕ} (h : 2 ^ 31 ≤ n) (hn : n < 2 ^ 32) : toInt n = n - 2 ^ 32 := by
  unfold toInt
  rw [Int.bmod_def]
  omega

namespace NcmDecoder

variable {key : List UInt8}

/-- A key whose length is an `int` is repeated. -/
lemma keyByte_of_lt (hpos : key ≠ []) (h : key.length < 2 ^ 31) (i : Fin 256) :
    keyByte key (toInt key.length) i = some (key.getD (i % key.length) 0) := by
  have hlength : 0 < key.length := List.length_pos_iff.mpr hpos
  have hindex : (i : ℕ) % key.length < key.length := Nat.mod_lt _ hlength
  have htmod : Int.tmod (i : ℕ) (key.length : ℤ) = ((i % key.length : ℕ) : ℤ) := by
    rw [Int.tmod_eq_emod_of_nonneg (Int.natCast_nonneg _), Int.natCast_emod]
  rw [toInt_of_lt h, keyByte, if_neg (by omega), htmod, if_neg (by omega), Int.toNat_natCast,
    List.getD_eq_getElem?_getD, List.getElem?_eq_getElem hindex, Option.getD_some]

/-- The key box of a key whose length is an `int`. -/
theorem buildKeyBox_eq (hpos : key ≠ []) (h : key.length < 2 ^ 31) :
    buildKeyBox key = some (keySchedule key) :=
  buildKeyBox_of_keyByte (keyByte_of_lt hpos h)

/-- No round of `ksa` reads outside the key, also when the length is no `int`. -/
lemma keyByte_isSome (hpos : key ≠ []) (h : key.length < 2 ^ 32) (i : Fin 256) :
    (keyByte key (toInt key.length) i).isSome := by
  by_cases hint : key.length < 2 ^ 31
  · rw [keyByte_of_lt hpos hint]
    rfl
  · have hi := i.isLt
    have htmod : Int.tmod (i : ℕ) ((key.length : ℤ) - 2 ^ 32) =
        ((i % (2 ^ 32 - key.length) : ℕ) : ℤ) := by
      have hneg : (key.length : ℤ) - 2 ^ 32 = -((2 ^ 32 - key.length : ℕ) : ℤ) := by omega
      rw [hneg, Int.tmod_neg, Int.tmod_eq_emod_of_nonneg (Int.natCast_nonneg _),
        Int.natCast_emod]
    have hindex : (i : ℕ) % (2 ^ 32 - key.length) < key.length := by
      have hle := Nat.mod_le (i : ℕ) (2 ^ 32 - key.length)
      omega
    rw [toInt_of_le (by omega) h, keyByte, if_neg (by omega), htmod, if_neg (by omega),
      Int.toNat_natCast, List.getElem?_eq_getElem hindex]
    rfl

/-- The key box of every key that a file can hold is built. -/
theorem buildKeyBox_isSome (hpos : key ≠ []) (h : key.length < 2 ^ 32) :
    (buildKeyBox key).isSome := by
  have hbyte : ∀ i, keyByte key (toInt key.length) i =
      some ((keyByte key (toInt key.length) i).get (keyByte_isSome hpos h i)) :=
    fun i => (Option.some_get _).symm
  rw [buildKeyBox_of_keyByte hbyte]
  rfl

end NcmDecoder

end SystemsDemos
