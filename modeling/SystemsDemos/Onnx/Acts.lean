import SystemsDemos.Bytes.Occurrence
import SystemsDemos.Onnx.Inspector
import SystemsDemos.Protobuf.Wire

/-!
# What a field does

A field acts on the value of its parser in the same way wherever it stands (`Acts`): it updates the
value, or the parser returns.  A message does what its fields do one after the other.

### Outline

* reading varints and contents, however they are written;
* `Effect` and `Acts`, with a rule for each kind of field;
* `Decodes` and `decodes_of_acts`.
-/

namespace SystemsDemos

variable {σ β : Type} {fuel : ℕ} {data : ModelFile} {kind : MessageKind} {table : FieldTable σ}
  {slice : Slice} {pos : ℕ} {value : σ}

/-! ### Reading values -/

/-- The low bits of a byte. -/
private lemma and_low (b : ℕ) : b &&& 0x7F = b % 128 := Nat.and_two_pow_sub_one_eq_mod b 7

/-- The continuation bit of a byte. -/
lemma and_high_eq_zero_iff {b : ℕ} (h : b < 256) : b &&& 0x80 = 0 ↔ b < 128 := by
  have hall : ∀ b < 256, (b &&& 0x80 = 0 ↔ b < 128) := by decide +kernel
  exact hall b h

/-- More bits are put above those that are there, and what does not fit 64 bits is dropped. -/
private lemma or_shiftLeft_mod {value bits shift : ℕ} (hvalue : value < 2 ^ shift)
    (hshift : shift ≤ 63) :
    value ||| (bits <<< shift) % 2 ^ 64 = (value + bits * 2 ^ shift) % 2 ^ 64 := by
  have hpow : 2 ^ 64 = 2 ^ (64 - shift) * 2 ^ shift := by
    rw [← Nat.pow_add, Nat.sub_add_cancel (by omega)]
  have hkept : (bits <<< shift) % 2 ^ 64 = (bits % 2 ^ (64 - shift)) * 2 ^ shift := by
    rw [Nat.shiftLeft_eq, hpow, Nat.mul_mod_mul_right]
  have hbits : bits % 2 ^ (64 - shift) + 1 ≤ 2 ^ (64 - shift) :=
    Nat.mod_lt _ (Nat.two_pow_pos _)
  have hbound : (bits % 2 ^ (64 - shift)) * 2 ^ shift + 2 ^ shift ≤ 2 ^ 64 := by
    have hmul := Nat.mul_le_mul_right (2 ^ shift) hbits
    rw [Nat.add_mul, Nat.one_mul, ← hpow] at hmul
    exact hmul
  have hsum := Nat.shiftLeft_add_eq_or_of_lt hvalue (bits % 2 ^ (64 - shift))
  rw [Nat.shiftLeft_eq] at hsum
  calc value ||| (bits <<< shift) % 2 ^ 64
      = (bits % 2 ^ (64 - shift)) * 2 ^ shift + value := by rw [hkept, Nat.or_comm, hsum]
    _ = ((bits % 2 ^ (64 - shift)) * 2 ^ shift + value) % 2 ^ 64 :=
        (Nat.mod_eq_of_lt (by omega)).symm
    _ = (bits * 2 ^ shift % 2 ^ 64 + value) % 2 ^ 64 := by rw [← Nat.shiftLeft_eq bits, hkept]
    _ = (value + bits * 2 ^ shift) % 2 ^ 64 := by rw [Nat.mod_add_mod, Nat.add_comm]

/-- The loop of `readVarint` reads a varint. -/
private lemma readVarintLoop_encode {front : List UInt8} {last : UInt8} {fuel shift value : ℕ}
    (hfront : ∀ b ∈ front, 128 ≤ b.toNat) (hlast : last.toNat < 128)
    (h : OccursAt (front ++ [last]) data.bytes pos)
    (hend : pos + (front ++ [last]).length ≤ slice.last) (hfuel : 7 * fuel + shift = 70)
    (hshift : shift + 7 * front.length ≤ 63) (hvalue : value < 2 ^ shift) :
    readVarintLoop data slice fuel shift value pos =
      (.ok ((value + sevenBits (front ++ [last]) * 2 ^ shift) % 2 ^ 64),
        pos + (front ++ [last]).length) := by
  induction front generalizing fuel shift value pos with
  | nil =>
    obtain ⟨fuel, rfl⟩ : ∃ k, fuel = k + 1 := ⟨fuel - 1, by omega⟩
    have hbyte : last.toNat &&& 0x80 = 0 := (and_high_eq_zero_iff last.toNat_lt).mpr hlast
    rw [List.nil_append, List.length_singleton] at hend ⊢
    rw [readVarintLoop, if_pos ⟨by omega, by omega⟩, h.getElem?_eq]
    dsimp only
    rw [if_pos hbyte, and_low, or_shiftLeft_mod hvalue (by omega)]
    simp only [sevenBits, Nat.mul_zero, Nat.add_zero]
  | cons b front ih =>
    obtain ⟨fuel, rfl⟩ : ∃ k, fuel = k + 1 := ⟨fuel - 1, by omega⟩
    have hge := hfront b List.mem_cons_self
    have hbyte : b.toNat &&& 0x80 ≠ 0 := by
      rw [Ne, and_high_eq_zero_iff b.toNat_lt]
      omega
    rw [List.cons_append, List.length_cons] at hend ⊢
    rw [List.length_cons] at hshift
    have hpow : 2 ^ (shift + 7) = 128 * 2 ^ shift := by
      rw [Nat.pow_add, Nat.mul_comm]
    have hsmall : 2 ^ (shift + 7) ≤ 2 ^ 63 := Nat.pow_le_pow_right (by omega) (by omega)
    have hread : b.toNat % 128 * 2 ^ shift ≤ 127 * 2 ^ shift :=
      Nat.mul_le_mul_right _ (by omega)
    have hnext : (value + b.toNat % 128 * 2 ^ shift) % 2 ^ 64 =
        value + b.toNat % 128 * 2 ^ shift := Nat.mod_eq_of_lt (by omega)
    have hsum : value + b.toNat % 128 * 2 ^ shift +
        sevenBits (front ++ [last]) * 2 ^ (shift + 7) =
          value + sevenBits (b :: (front ++ [last])) * 2 ^ shift := by
      rw [sevenBits, hpow, Nat.add_mul, Nat.mul_comm 128 (sevenBits _), Nat.mul_assoc,
        Nat.add_assoc]
    rw [readVarintLoop, if_pos ⟨by omega, by omega⟩, h.getElem?_eq]
    dsimp only
    rw [if_neg hbyte, and_low, or_shiftLeft_mod hvalue (by omega), hnext,
      ih (fun c hc => hfront c (List.mem_cons_of_mem _ hc)) h.tail (by omega) (by omega) (by omega)
        (by omega), hsum]
    congr 1
    omega

/-- `readVarint` reads a varint, however it is written. -/
lemma readVarint_encode (slice : Slice) {v : Varint} (h : OccursAt v.encode data.bytes pos)
    (hend : pos + v.encode.length ≤ slice.last) :
    readVarint data slice pos = (.ok v.value, pos + v.encode.length) := by
  have hlength := v.length_le
  have hread : readVarintLoop data slice 10 0 0 pos =
      (.ok ((0 + sevenBits v.encode * 2 ^ 0) % 2 ^ 64), pos + v.encode.length) :=
    readVarintLoop_encode v.continued v.last_lt h hend rfl (by omega) (by omega)
  simpa [readVarint, Varint.value, Varint.encode] using hread

/-- `readBytes` cuts the content of a field out. -/
private lemma result_readBytes_encode (slice : Slice) {length : Varint} {content : List UInt8}
    (hsize : length.value = content.length) (h : OccursAt (length.encode ++ content) data.bytes pos)
    (hend : pos + (length.encode ++ content).length ≤ slice.last) (hslice : slice.last < 2 ^ 64) :
    let q := pos + length.encode.length
    (readBytes data slice pos).result =
      some (.ok (⟨q, q + content.length⟩, q + content.length)) := by
  intro q
  rw [List.length_append] at hend
  have hread : readVarint data slice pos = (.ok content.length, q) := by
    rw [← hsize]
    exact readVarint_encode slice (occursAt_append.mp h).1 (by omega)
  have hmod : (q + content.length) % 2 ^ 64 = q + content.length := Nat.mod_eq_of_lt (by omega)
  exact result_readBytes_eq_ok_iff.mpr ⟨content.length, q, hread, rfl, hmod.symm, by omega⟩

/-! ### What a field does -/

/-- What a field does to the value of its parser. -/
inductive Effect (σ : Type)
  | update (f : σ → σ)
  /-- The parser returns. -/
  | finish (b : σ)

namespace Effect

/-- How a field with this effect ends. -/
def field (value : σ) (next : ℕ) : Effect σ → Field σ
  | update f => ⟨f value, next, false⟩
  | finish b => ⟨b, next, true⟩

/-- What a sequence of fields does. -/
def run : List (Effect σ) → σ → σ
  | [], value => value
  | update f :: es, value => run es (f value)
  | finish b :: _, _ => b

/-- A field that leaves the value alone can stand anywhere. -/
lemma run_insert (es es' : List (Effect σ)) (value : σ) :
    run (es ++ update id :: es') value = run (es ++ es') value := by
  induction es generalizing value with
  | nil => rfl
  | cons e es ih =>
    cases e with
    | update f => exact ih (f value)
    | finish b => rfl

end Effect

/-- The parser reads the field with this effect, wherever it stands in the file. -/
def Acts (data : ModelFile) (table : FieldTable σ) (f : WireField) (e : Effect σ) : Prop :=
  ∀ slice pos value, slice.last < 2 ^ 64 → OccursAt f.encode data.bytes pos →
    pos + f.encode.length ≤ slice.last →
      (parseField data table slice pos value).result =
        some (.ok (e.field value (pos + f.encode.length)))

/-- `parseField` goes on behind a tag. -/
private lemma result_parseField_tag {tag : Varint} (h : OccursAt tag.encode data.bytes pos)
    (hend : pos + tag.encode.length ≤ slice.last) :
    (parseField data table slice pos value).result =
      (if tag.wireType = 0 then
        parseVarintField data slice (pos + tag.encode.length) value (table.varints tag.number)
      else if tag.wireType = 2 then
        parseBytesField data slice (pos + tag.encode.length) value (table.bytes tag.number)
      else do
        let pos ← skipField data slice (pos + tag.encode.length) tag.wireType
        return ⟨value, pos, false⟩).result := by
  have hread := result_parseVarint_eq_ok_iff.mpr (readVarint_encode slice h hend)
  rw [parseField, Traced.result_bind_of_ok hread]
  rfl

/-- The parser returns `b` from a slice that holds these bytes. -/
def Decodes (data : ModelFile) (parse : Slice → Parse β) (bytes : List UInt8) (b : β) : Prop :=
  ∀ p, OccursAt bytes data.bytes p → p + bytes.length < 2 ^ 64 →
    (parse ⟨p, p + bytes.length⟩).result = some (.ok b)

/-- A part that is decoded becomes a part of the value. -/
lemma Decodes.update {parse : Slice → Parse β} {bytes : List UInt8} {b : β}
    (h : Decodes data parse bytes b) (set : β → σ → σ) (value : σ) :
    Decodes data (fun nested => do
      let part ← parse nested
      return set part value) bytes (set b value) := by
  intro p hoccurs hfits
  exact Traced.result_bind_eq_ok_iff.mpr ⟨b, h p hoccurs hfits, rfl⟩

/-- What a varint does. -/
def VarintAction.effect (n : ℕ) : Option (VarintAction σ) → Effect σ
  | none => .update id
  | some (store set) => .update (set n)
  | some (finish set) => .finish (set n)

namespace Acts

/-- A varint. -/
lemma varint {f : WireField} {v : Varint} (hpayload : f.payload = .varint v) :
    Acts data table f (VarintAction.effect v.value (table.varints f.tag.number)) := by
  intro slice pos value hslice h hend
  have hwire : f.tag.wireType = 0 := by rw [f.wireType_eq, hpayload]; rfl
  simp only [WireField.encode, hpayload, Payload.encode] at h hend ⊢
  obtain ⟨htag, hvalue⟩ := occursAt_append.mp h
  rw [List.length_append] at hend ⊢
  have hread := result_parseVarint_eq_ok_iff.mpr
    (readVarint_encode slice hvalue (by omega))
  rw [result_parseField_tag htag (by omega), if_pos hwire, ← Nat.add_assoc]
  rcases table.varints f.tag.number with _ | (set | set)
  · refine Traced.result_bind_eq_ok_iff.mpr ⟨_, ?_, rfl⟩
    exact Traced.result_bind_eq_ok_iff.mpr ⟨_, hread, rfl⟩
  · exact Traced.result_bind_eq_ok_iff.mpr ⟨_, hread, rfl⟩
  · exact Traced.result_bind_eq_ok_iff.mpr ⟨_, hread, rfl⟩

/-- A value of fixed width is skipped. -/
lemma fixed {f : WireField}
    (hfixed : (f.payload.wireType = 1 ∧ f.payload.encode.length = 8) ∨
      (f.payload.wireType = 5 ∧ f.payload.encode.length = 4)) :
    Acts data table f (.update id) := by
  intro slice pos value hslice h hend
  have hwire := f.wireType_eq
  obtain ⟨htag, -⟩ := occursAt_append.mp h
  rw [WireField.encode, List.length_append] at hend ⊢
  have hskip : (skipField data slice (pos + f.tag.encode.length) f.tag.wireType).result =
      some (.ok (pos + f.tag.encode.length + f.payload.encode.length)) := by
    have hskipFixed : (skipFixed slice (pos + f.tag.encode.length) f.payload.encode.length).result =
        some (.ok (pos + f.tag.encode.length + f.payload.encode.length)) := by
      have hmod : (pos + f.tag.encode.length + f.payload.encode.length) % 2 ^ 64 =
          pos + f.tag.encode.length + f.payload.encode.length := Nat.mod_eq_of_lt (by omega)
      simp only [skipFixed, hmod]
      rw [if_neg (by omega), Traced.result_pure]
    rcases hfixed with ⟨htype, hlength⟩ | ⟨htype, hlength⟩
    · rw [hlength] at hskipFixed ⊢
      rw [hwire, htype]
      exact hskipFixed
    · rw [hlength] at hskipFixed ⊢
      rw [hwire, htype]
      exact hskipFixed
  rw [result_parseField_tag htag (by omega), if_neg (by omega), if_neg (by omega), ← Nat.add_assoc]
  exact Traced.result_bind_eq_ok_iff.mpr ⟨_, hskip, rfl⟩

section delimited

variable {f : WireField} {content : List UInt8}

/-- Where the content of a field stands. -/
private lemma exists_content (hholds : f.Holds content)
    (hslice : slice.last < 2 ^ 64) (h : OccursAt f.encode data.bytes pos)
    (hend : pos + f.encode.length ≤ slice.last) :
    ∃ p q, (readBytes data slice p).result =
        some (.ok (⟨q, q + content.length⟩, q + content.length)) ∧
      q + content.length = pos + f.encode.length ∧ OccursAt content data.bytes q ∧
      (parseField data table slice pos value).result =
        (parseBytesField data slice p value (table.bytes f.tag.number)).result := by
  obtain ⟨length, size, hpayload⟩ := hholds
  have hwire : f.tag.wireType = 2 := by rw [f.wireType_eq, hpayload]; rfl
  simp only [WireField.encode, hpayload, Payload.encode] at h hend ⊢
  obtain ⟨htag, hrest⟩ := occursAt_append.mp h
  rw [List.length_append] at hend ⊢
  have hread := result_readBytes_encode slice size hrest (by omega) hslice
  refine ⟨_, _, hread, ?_, (occursAt_append.mp hrest).2, ?_⟩
  · rw [List.length_append]
    omega
  · rw [result_parseField_tag htag (by omega), if_neg (by omega), if_pos hwire]

/-- A length-delimited field that the parser does not use. -/
lemma skipped (hholds : f.Holds content)
    (htable : table.bytes f.tag.number = none) : Acts data table f (.update id) := by
  intro slice pos value hslice h hend
  obtain ⟨p, q, hread, hnext, -, hparse⟩ := exists_content hholds hslice h hend
  rw [hparse, htable, ← hnext]
  refine Traced.result_bind_eq_ok_iff.mpr ⟨_, ?_, rfl⟩
  exact Traced.result_bind_eq_ok_iff.mpr ⟨_, hread, rfl⟩

/-- A string. -/
lemma text {set : List UInt8 → σ → σ} (hholds : f.Holds content)
    (htable : table.bytes f.tag.number = some (.text set)) :
    Acts data table f (.update (set content)) := by
  intro slice pos value hslice h hend
  obtain ⟨p, q, hread, hnext, hcontent, hparse⟩ := exists_content hholds hslice h hend
  rw [hparse, htable, ← hnext]
  refine Traced.result_bind_eq_ok_iff.mpr ⟨_, hread, ?_⟩
  refine Traced.result_bind_eq_ok_iff.mpr ⟨content, ?_, rfl⟩
  dsimp only [asString]
  rw [if_neg (by omega), Nat.add_sub_cancel_left, hcontent.take_drop, Traced.result_pure]

/-- Bytes that are only counted. -/
lemma rawBytes {set : ℕ → σ → σ} (hholds : f.Holds content)
    (htable : table.bytes f.tag.number = some (.rawBytes set)) :
    Acts data table f (.update (set content.length)) := by
  intro slice pos value hslice h hend
  obtain ⟨p, q, hread, hnext, -, hparse⟩ := exists_content hholds hslice h hend
  rw [hparse, htable, ← hnext]
  refine Traced.result_bind_eq_ok_iff.mpr ⟨_, hread, ?_⟩
  have hcount : (q + content.length + 2 ^ 64 - q) % 2 ^ 64 = content.length := by omega
  dsimp only
  rw [hcount, Traced.result_pure]
  rfl

/-- A nested message. -/
lemma message {parse : Slice → σ → Parse σ} {u : σ → σ}
    (hholds : f.Holds content)
    (htable : table.bytes f.tag.number = some (.message parse))
    (hmeans : ∀ value, Decodes data (fun nested => parse nested value) content (u value)) :
    Acts data table f (.update u) := by
  intro slice pos value hslice h hend
  obtain ⟨p, q, hread, hnext, hcontent, hparse⟩ := exists_content hholds hslice h hend
  rw [hparse, htable, ← hnext]
  refine Traced.result_bind_eq_ok_iff.mpr ⟨_, hread, ?_⟩
  exact Traced.result_bind_eq_ok_iff.mpr ⟨_, hmeans value q hcontent (by omega), rfl⟩

end delimited

end Acts

/-! ### What a message does -/

/-- The loop of a parser in the middle of its slice. -/
def parseFrom (data : ModelFile) (kind : MessageKind) (table : FieldTable σ) (slice : Slice) :
    ℕ → σ × ℕ → Parse σ :=
  Traced.whileLoop (fun s => decide (s.2 < slice.last)) (parseIteration data kind table slice)
    (fun s => s.1)

/-- The loop of a parser reads the fields that are left. -/
private lemma result_parseFrom_of_acts {fs : List WireField} {es : List (Effect σ)}
    (h : List.Forall₂ (Acts data table) fs es) (hslice : slice.last < 2 ^ 64)
    (hoccurs : OccursAt (encodeFields fs) data.bytes pos)
    (hend : pos + (encodeFields fs).length = slice.last) (k : ℕ) (value : σ) :
    (parseFrom data kind table slice (k + fs.length) (value, pos)).result =
      some (.ok (Effect.run es value)) := by
  induction h generalizing pos value with
  | nil =>
    rw [encodeFields_nil, List.length_nil] at hend
    rw [parseFrom, Traced.whileLoop_of_not (by simp [← hend]), Traced.result_pure]
    rfl
  | @cons f e fs es hf _ ih =>
    have hpos := f.length_encode_pos
    rw [encodeFields_cons] at hoccurs hend
    rw [List.length_append] at hend
    obtain ⟨hfield, hrest⟩ := occursAt_append.mp hoccurs
    have hmore : decide (pos < slice.last) = true := decide_eq_true (by omega)
    have hread := hf slice pos value hslice hfield (by omega)
    cases e with
    | update g =>
      have hnext : (parseIteration data kind table slice (value, pos)).result =
          some (.ok (.next (g value, pos + f.encode.length))) :=
        result_parseIteration_of_ok (s := (value, pos)) hread
      refine Eq.trans ?_ (ih hrest (by omega) (g value))
      refine Traced.result_whileLoop_next ?_ hnext (k + fs.length)
      exact hmore
    | finish b =>
      have hdone : (parseIteration data kind table slice (value, pos)).result =
          some (.ok (.done b)) := result_parseIteration_of_ok (s := (value, pos)) hread
      refine Traced.result_whileLoop_done ?_ hdone (k + fs.length)
      exact hmore

/-- A message does what its fields do. -/
lemma decodes_of_acts {fs : List WireField} {es : List (Effect σ)}
    (h : List.Forall₂ (Acts data table) fs es) (hfuel : data.size ≤ fuel) (value : σ) :
    Decodes data (fun slice => parseFields fuel data kind table slice value) (encodeFields fs)
      (Effect.run es value) := by
  intro p hoccurs hfits
  have hcount := length_le_encodeFields fs
  have hlength := hoccurs.length_le
  unfold ModelFile.size at hfuel
  obtain ⟨k, rfl⟩ : ∃ k, fuel = k + fs.length := ⟨fuel - fs.length, by omega⟩
  exact result_parseFrom_of_acts h hfits hoccurs rfl k value

end SystemsDemos
