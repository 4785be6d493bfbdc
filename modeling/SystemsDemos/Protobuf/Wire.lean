import Mathlib.Algebra.Group.Nat.Defs
import Mathlib.Data.List.Basic
import Mathlib.Tactic.Lemma

/-!
# The wire format of protocol buffers

A message is a sequence of fields, and a field is a tag and a payload.  Varints are kept as they
are written, since a number can be written in more than one way.  The bytes of a message say where
its fields begin and end: `encodeFields_injective`.

### Outline

* `Varint`, `Payload`, `WireField` and `encodeFields`;
* each of them is a prefix code.
-/

namespace SystemsDemos

/-- A varint as it is written: at most ten bytes, of which all but the last have the continuation
bit. -/
@[ext] structure Varint where
  front : List UInt8
  last : UInt8
  continued : ∀ b ∈ front, 128 ≤ b.toNat
  last_lt : last.toNat < 128
  length_le : front.length ≤ 9

/-- Seven bits from each byte, the low ones first. -/
def sevenBits : List UInt8 → ℕ
  | [] => 0
  | b :: bs => b.toNat % 128 + 128 * sevenBits bs

/-- Seven bits are below 128 for each byte. -/
lemma sevenBits_lt (bs : List UInt8) : sevenBits bs < 128 ^ bs.length := by
  induction bs with
  | nil => exact Nat.one_pos
  | cons b bs ih =>
    have hb : b.toNat % 128 < 128 := Nat.mod_lt _ (by decide)
    rw [sevenBits, List.length_cons, Nat.pow_succ]
    omega

/-- The last byte has the highest bits. -/
lemma sevenBits_concat (bs : List UInt8) (b : UInt8) :
    sevenBits (bs ++ [b]) = sevenBits bs + b.toNat % 128 * 128 ^ bs.length := by
  induction bs with
  | nil => simp [sevenBits]
  | cons c bs ih =>
    rw [List.cons_append, sevenBits, sevenBits, ih, List.length_cons, Nat.pow_succ, Nat.mul_add,
      Nat.add_assoc, Nat.mul_comm (128 ^ bs.length), Nat.mul_left_comm]

namespace Varint

/-- The bytes of a varint. -/
def encode (v : Varint) : List UInt8 := v.front ++ [v.last]

/-- The number that is written, of which 64 bits are kept. -/
def value (v : Varint) : ℕ := sevenBits v.encode % 2 ^ 64

/-- A number of seven bits is one byte. -/
def ofByte (b : UInt8) (h : b.toNat < 128) : Varint := ⟨[], b, nofun, h, Nat.zero_le _⟩

/-- The field number in a tag. -/
def number (v : Varint) : ℕ := v.value >>> 3

/-- The wire type in a tag. -/
def wireType (v : Varint) : ℕ := v.value &&& 0x07

end Varint

/-- What follows the tag of a field; groups are not among it. -/
inductive Payload
  | varint (v : Varint)
  | fixed64 (bytes : List UInt8) (size : bytes.length = 8)
  | delimited (length : Varint) (content : List UInt8) (size : length.value = content.length)
  | fixed32 (bytes : List UInt8) (size : bytes.length = 4)

namespace Payload

/-- The wire type of a payload. -/
def wireType : Payload → ℕ
  | varint _ => 0
  | fixed64 .. => 1
  | delimited .. => 2
  | fixed32 .. => 5

/-- The bytes of a payload. -/
def encode : Payload → List UInt8
  | varint v => v.encode
  | fixed64 bytes _ | fixed32 bytes _ => bytes
  | delimited length content _ => length.encode ++ content

end Payload

/-- A field, with the wire type of its payload in its tag. -/
@[ext] structure WireField where
  tag : Varint
  payload : Payload
  wireType_eq : tag.wireType = payload.wireType

/-- The bytes of a field. -/
def WireField.encode (f : WireField) : List UInt8 := f.tag.encode ++ f.payload.encode

/-- The field holds this content behind its length. -/
def WireField.Holds (f : WireField) (content : List UInt8) : Prop :=
  ∃ length size, f.payload = .delimited length content size

/-- The bytes of a message. -/
def encodeFields (fs : List WireField) : List UInt8 := fs.flatMap WireField.encode

@[simp] lemma encodeFields_nil : encodeFields [] = [] := rfl

@[simp] lemma encodeFields_cons (f : WireField) (fs : List WireField) :
    encodeFields (f :: fs) = f.encode ++ encodeFields fs := rfl

@[simp] lemma encodeFields_append (fs gs : List WireField) :
    encodeFields (fs ++ gs) = encodeFields fs ++ encodeFields gs :=
  List.flatMap_append

/-! ### Where fields end -/

lemma Varint.length_encode_pos (v : Varint) : 0 < v.encode.length := by
  simp [encode]

lemma WireField.length_encode_pos (f : WireField) : 0 < f.encode.length := by
  have hpos := f.tag.length_encode_pos
  rw [encode, List.length_append]
  omega

/-- A field takes at least one byte. -/
lemma length_le_encodeFields (fs : List WireField) : fs.length ≤ (encodeFields fs).length := by
  induction fs with
  | nil => exact Nat.le_refl _
  | cons f fs ih =>
    have hpos := f.length_encode_pos
    rw [encodeFields_cons, List.length_cons, List.length_append]
    omega

/-- The first byte without the continuation bit ends a varint. -/
private lemma front_inj {front front' xs ys : List UInt8} {last last' : UInt8}
    (hfront : ∀ b ∈ front, 128 ≤ b.toNat) (hfront' : ∀ b ∈ front', 128 ≤ b.toNat)
    (hlast : last.toNat < 128) (hlast' : last'.toNat < 128)
    (h : front ++ last :: xs = front' ++ last' :: ys) :
    front = front' ∧ last = last' ∧ xs = ys := by
  induction front generalizing front' with
  | nil =>
    cases front' with
    | nil =>
      obtain ⟨rfl, rfl⟩ := List.cons.inj h
      exact ⟨rfl, rfl, rfl⟩
    | cons b' front' =>
      obtain ⟨rfl, -⟩ := List.cons.inj h
      have hge := hfront' last List.mem_cons_self
      omega
  | cons b front ih =>
    cases front' with
    | nil =>
      obtain ⟨rfl, -⟩ := List.cons.inj h
      have hge := hfront b List.mem_cons_self
      omega
    | cons b' front' =>
      obtain ⟨rfl, hrest⟩ := List.cons.inj h
      obtain ⟨rfl, rfl, rfl⟩ := ih (fun c hc => hfront c (List.mem_cons_of_mem _ hc))
        (fun c hc => hfront' c (List.mem_cons_of_mem _ hc)) hrest
      exact ⟨rfl, rfl, rfl⟩

lemma Varint.encode_append_inj {v w : Varint} {xs ys : List UInt8}
    (h : v.encode ++ xs = w.encode ++ ys) : v = w ∧ xs = ys := by
  simp only [encode, List.append_assoc, List.singleton_append] at h
  obtain ⟨hfront, hlast, hrest⟩ := front_inj v.continued w.continued v.last_lt w.last_lt h
  exact ⟨Varint.ext hfront hlast, hrest⟩

lemma Payload.encode_append_inj {p q : Payload} {xs ys : List UInt8}
    (htype : p.wireType = q.wireType) (h : p.encode ++ xs = q.encode ++ ys) :
    p = q ∧ xs = ys := by
  unfold encode at h
  cases p with
  | varint v =>
    cases q with
    | varint w =>
      obtain ⟨rfl, rfl⟩ := Varint.encode_append_inj h
      exact ⟨rfl, rfl⟩
    | fixed64 | delimited | fixed32 => cases htype
  | fixed64 bytes size =>
    cases q with
    | fixed64 bytes' size' =>
      obtain ⟨rfl, rfl⟩ := List.append_inj h (size.trans size'.symm)
      exact ⟨rfl, rfl⟩
    | varint | delimited | fixed32 => cases htype
  | delimited length content size =>
    cases q with
    | delimited length' content' size' =>
      simp only [List.append_assoc] at h
      obtain ⟨rfl, hcontent⟩ := Varint.encode_append_inj h
      obtain ⟨rfl, rfl⟩ := List.append_inj hcontent (size.symm.trans size')
      exact ⟨rfl, rfl⟩
    | varint | fixed64 | fixed32 => cases htype
  | fixed32 bytes size =>
    cases q with
    | fixed32 bytes' size' =>
      obtain ⟨rfl, rfl⟩ := List.append_inj h (size.trans size'.symm)
      exact ⟨rfl, rfl⟩
    | varint | fixed64 | delimited => cases htype

lemma WireField.encode_append_inj {f g : WireField} {xs ys : List UInt8}
    (h : f.encode ++ xs = g.encode ++ ys) : f = g ∧ xs = ys := by
  simp only [encode, List.append_assoc] at h
  obtain ⟨htag, hpayload⟩ := Varint.encode_append_inj h
  have htype : f.payload.wireType = g.payload.wireType := by
    rw [← f.wireType_eq, ← g.wireType_eq, htag]
  obtain ⟨hpayload, hrest⟩ := Payload.encode_append_inj htype hpayload
  exact ⟨WireField.ext htag hpayload, hrest⟩

/-- **A message has one sequence of fields.** -/
theorem encodeFields_injective : Function.Injective encodeFields := by
  intro fs gs h
  induction fs generalizing gs with
  | nil =>
    cases gs with
    | nil => rfl
    | cons g gs =>
      have hlength := congrArg List.length h
      have hpos := g.length_encode_pos
      rw [encodeFields_nil, encodeFields_cons, List.length_nil, List.length_append] at hlength
      omega
  | cons f fs ih =>
    cases gs with
    | nil =>
      have hlength := congrArg List.length h
      have hpos := f.length_encode_pos
      rw [encodeFields_nil, encodeFields_cons, List.length_nil, List.length_append] at hlength
      omega
    | cons g gs =>
      obtain ⟨rfl, hrest⟩ := WireField.encode_append_inj h
      rw [ih hrest]

end SystemsDemos
