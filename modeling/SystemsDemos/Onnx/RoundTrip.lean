import SystemsDemos.Onnx.Acts
import SystemsDemos.Onnx.Generator

/-!
# The inspector reads what the generator writes

`parseModel`, applied to what `Generator.model` writes, returns the model that was written
(`parseModel_model`).  The proof follows the nesting of the format: `Reads` says that a sequence of
fields is read as an update of the value, `Decodes` that a parser returns a value from a slice,
and each parser gets from the one to the other by `Reads.decodes`.

### Outline

* the fields that the generator writes are fields of the wire format;
* `Reads` with a rule for each kind of field;
* the parsers, from `parseDimension` to `parseModel`.
-/

namespace SystemsDemos

variable {σ ι : Type} {fuel : ℕ} {data : ModelFile} {kind : MessageKind} {table : FieldTable σ}

/-! ### Written fields -/

/-- Setting the continuation bit. -/
private lemma or_high {b : ℕ} (h : b < 128) : b ||| 0x80 = b + 128 := by
  have hall : ∀ b < 128, b ||| 0x80 = b + 128 := by decide +kernel
  exact hall b h

/-- A number below 128 is one byte. -/
lemma varint_of_lt {n : ℕ} (h : n < 128) : Generator.varint n = [n.toUInt8] := by
  rw [Generator.varint, if_pos h]

/-- A greater number begins with its low seven bits. -/
lemma varint_of_le {n : ℕ} (h : 128 ≤ n) :
    Generator.varint n = (n % 128 + 128).toUInt8 :: Generator.varint (n / 128) := by
  rw [Generator.varint, if_neg (by omega), Nat.and_two_pow_sub_one_eq_mod n 7,
    or_high (Nat.mod_lt _ (by omega)), Nat.shiftRight_eq_div_pow]

/-- A written number has the continuation bit in all bytes but the last, and no more bytes than it
needs. -/
private lemma exists_front (n : ℕ) :
    ∃ front last, Generator.varint n = front ++ [last] ∧ (∀ b ∈ front, 128 ≤ b.toNat) ∧
      last.toNat < 128 ∧ sevenBits (front ++ [last]) = n ∧
      ∀ k, n < 2 ^ (7 * k + 7) → front.length ≤ k := by
  induction n using Nat.strongRecOn with
  | ind n ih =>
    rcases Nat.lt_or_ge n 128 with hsmall | hlarge
    · have hbyte : n.toUInt8.toNat = n := by
        rw [Nat.toUInt8_eq, UInt8.toNat_ofNat']
        omega
      refine ⟨[], n.toUInt8, varint_of_lt hsmall, by simp, by omega, ?_, fun k _ => Nat.zero_le k⟩
      rw [List.nil_append, sevenBits, sevenBits, hbyte]
      omega
    · obtain ⟨front, last, hvarint, hfront, hlast, hbits, hlength⟩ := ih (n / 128) (by omega)
      have hbyte : (n % 128 + 128).toUInt8.toNat = n % 128 + 128 := by
        rw [Nat.toUInt8_eq, UInt8.toNat_ofNat']
        omega
      refine ⟨(n % 128 + 128).toUInt8 :: front, last, ?_, ?_, hlast, ?_, ?_⟩
      · rw [varint_of_le hlarge, hvarint, List.cons_append]
      · rintro b (_ | ⟨_, hb⟩)
        · omega
        · exact hfront b hb
      · rw [List.cons_append, sevenBits, hbits, hbyte]
        omega
      · intro k hk
        have hkpos : k ≠ 0 := by
          rintro rfl
          omega
        obtain ⟨k, rfl⟩ : ∃ j, k = j + 1 := ⟨k - 1, by omega⟩
        have hpow : 2 ^ (7 * (k + 1) + 7) = 128 * 2 ^ (7 * k + 7) := by
          rw [Nat.mul_succ, Nat.pow_add 2 (7 * k + 7) 7, Nat.mul_comm]
        have hquotient : n / 128 < 2 ^ (7 * k + 7) := Nat.div_lt_of_lt_mul (by omega)
        exact Nat.succ_le_succ (hlength k hquotient)

/-- The generator writes varints. -/
lemma exists_varint {n : ℕ} (hn : n < 2 ^ 64) :
    ∃ v : Varint, v.encode = Generator.varint n ∧ v.value = n := by
  obtain ⟨front, last, hvarint, hfront, hlast, hbits, hlength⟩ := exists_front n
  refine ⟨⟨front, last, hfront, hlast, hlength 9 (by omega)⟩, hvarint.symm, ?_⟩
  rw [Varint.value, Varint.encode, hbits, Nat.mod_eq_of_lt hn]

/-- A tag holds the field number and the wire type. -/
lemma exists_tag {field wire : ℕ} (hfield : field < 16) (hwire : wire < 8) :
    ∃ tag : Varint, tag.encode = Generator.key field wire ∧ tag.number = field ∧
      tag.wireType = wire := by
  have htag : (field <<< 3) ||| wire = field * 8 + wire := by
    rw [← Nat.shiftLeft_add_eq_or_of_lt (i := 3) hwire, Nat.shiftLeft_eq]
  obtain ⟨tag, hencode, hvalue⟩ := exists_varint (n := field * 8 + wire) (by omega)
  refine ⟨tag, ?_, ?_, ?_⟩
  · rw [hencode, Generator.key, htag]
  · rw [Varint.number, hvalue, Nat.shiftRight_eq_div_pow]
    omega
  · rw [Varint.wireType, hvalue, show (0x07 : ℕ) = 2 ^ 3 - 1 from rfl,
      Nat.and_two_pow_sub_one_eq_mod]
    omega

/-- `fieldVarint` writes a field with a varint. -/
lemma exists_varintField {field value : ℕ} (hfield : field < 16) (hvalue : value < 2 ^ 64) :
    ∃ (w : WireField) (v : Varint), w.encode = Generator.fieldVarint field value ∧
      w.tag.number = field ∧ w.payload = .varint v ∧ v.value = value := by
  obtain ⟨tag, htag, hnumber, hwire⟩ := exists_tag hfield (show 0 < 8 by omega)
  obtain ⟨v, hv, hread⟩ := exists_varint hvalue
  refine ⟨⟨tag, .varint v, hwire⟩, v, ?_, hnumber, rfl, hread⟩
  rw [WireField.encode, Payload.encode, htag, hv, Generator.fieldVarint]

/-- `fieldBytes` writes a length-delimited field. -/
lemma exists_bytesField {field : ℕ} {bytes : List UInt8} (hfield : field < 16)
    (hbytes : bytes.length < 2 ^ 64) :
    ∃ w : WireField, w.encode = Generator.fieldBytes field bytes ∧ w.tag.number = field ∧
      w.Holds bytes := by
  obtain ⟨tag, htag, hnumber, hwire⟩ := exists_tag hfield (show 2 < 8 by omega)
  obtain ⟨length, hlength, hread⟩ := exists_varint hbytes
  refine ⟨⟨tag, .delimited length bytes hread, hwire⟩, ?_, hnumber, length, hread, rfl⟩
  rw [WireField.encode, Payload.encode, htag, hlength, Generator.fieldBytes, List.append_assoc]

/-! ### Sequences of fields -/

/-- The bytes are a sequence of `count` fields that the parser reads as the update `f`. -/
structure Reads (data : ModelFile) (kind : MessageKind) (table : FieldTable σ)
    (bytes : List UInt8) (f : σ → σ) (count : ℕ) : Prop where
  count_le : count ≤ bytes.length
  read : ∀ slice pos value k, slice.last < 2 ^ 64 → OccursAt bytes data.bytes pos →
    pos + bytes.length ≤ slice.last →
      (parseFrom data kind table slice (k + count) (value, pos)).result =
        (parseFrom data kind table slice k (f value, pos + bytes.length)).result

namespace Reads

variable {bytes bytes' : List UInt8} {f g : σ → σ} {m n : ℕ}

/-- A single field. -/
lemma of_acts {w : WireField} (h : Acts data table w (.update f)) :
    Reads data kind table w.encode f 1 where
  count_le := w.length_encode_pos
  read := by
    intro slice pos value k hslice hoccurs hlast
    have hpos := w.length_encode_pos
    have hmore : decide (pos < slice.last) = true := decide_eq_true (by omega)
    have hiteration : (parseIteration data kind table slice (value, pos)).result =
        some (.ok (.next (f value, pos + w.encode.length))) :=
      result_parseIteration_of_ok (s := (value, pos)) (h slice pos value hslice hoccurs hlast)
    refine Traced.result_whileLoop_next ?_ hiteration k
    exact hmore

/-- A varint that is stored. -/
lemma varint (field value : ℕ)
    (htable : ∃ set, table.varints field = some (.store set) ∧ set value = f)
    (hfield : field < 16) (hvalue : value < 2 ^ 64) :
    Reads data kind table (Generator.fieldVarint field value) f 1 := by
  obtain ⟨set, htable, rfl⟩ := htable
  obtain ⟨w, v, hencode, rfl, hpayload, rfl⟩ := exists_varintField hfield hvalue
  have hacts : Acts data table w (VarintAction.effect v.value (table.varints w.tag.number)) :=
    .varint hpayload
  rw [htable] at hacts
  rw [← hencode]
  exact of_acts hacts

/-- A length-delimited field; one that is longer than any file occurs nowhere. -/
private lemma of_bytesField {field : ℕ} (hfield : field < 16)
    (h : ∀ w : WireField, w.tag.number = field → w.Holds bytes → Acts data table w (.update f)) :
    Reads data kind table (Generator.fieldBytes field bytes) f 1 where
  count_le := Generator.length_fieldBytes_pos field bytes
  read := by
    intro slice pos value k hslice hoccurs hlast
    have hbytes : bytes.length ≤ (Generator.fieldBytes field bytes).length := by
      rw [Generator.fieldBytes, List.length_append]
      omega
    have hfits : bytes.length < 2 ^ 64 := by omega
    obtain ⟨w, hencode, hnumber, hholds⟩ := exists_bytesField hfield hfits
    rw [← hencode] at hoccurs hlast ⊢
    exact (of_acts (h w hnumber hholds)).read slice pos value k hslice hoccurs hlast

/-- A string. -/
lemma text (field : ℕ) (htable : ∃ set, table.bytes field = some (.text set) ∧ set bytes = f)
    (hfield : field < 16) : Reads data kind table (Generator.fieldBytes field bytes) f 1 := by
  obtain ⟨set, htable, rfl⟩ := htable
  refine of_bytesField hfield fun w hnumber hholds => .text hholds ?_
  rw [hnumber, htable]

/-- Bytes that are only counted. -/
lemma rawBytes (field : ℕ)
    (htable : ∃ set, table.bytes field = some (.rawBytes set) ∧ set bytes.length = f)
    (hfield : field < 16) : Reads data kind table (Generator.fieldBytes field bytes) f 1 := by
  obtain ⟨set, htable, rfl⟩ := htable
  refine of_bytesField hfield fun w hnumber hholds => .rawBytes hholds ?_
  rw [hnumber, htable]

/-- A nested message. -/
lemma message (field : ℕ) {parse : Slice → σ → Parse σ}
    (htable : table.bytes field = some (.message parse)) (hfield : field < 16)
    (h : ∀ value, Decodes data (fun nested => parse nested value) bytes (f value)) :
    Reads data kind table (Generator.fieldBytes field bytes) f 1 := by
  refine of_bytesField hfield fun w hnumber hholds => .message hholds ?_ h
  rw [hnumber, htable]

/-- A length-delimited field that the parser does not know. -/
lemma skip (field : ℕ) (htable : table.bytes field = none) (hfield : field < 16) :
    Reads data kind table (Generator.fieldBytes field bytes) id 1 := by
  refine of_bytesField hfield fun w hnumber hholds => .skipped hholds ?_
  rw [hnumber, htable]

/-- One sequence of fields after the other. -/
lemma append (h : Reads data kind table bytes f m) (h' : Reads data kind table bytes' g n) :
    Reads data kind table (bytes ++ bytes') (fun value => g (f value)) (m + n) where
  count_le := by
    rw [List.length_append]
    exact Nat.add_le_add h.count_le h'.count_le
  read := by
    intro slice pos value k hslice hoccurs hlast
    obtain ⟨hfirst, hsecond⟩ := occursAt_append.mp hoccurs
    rw [List.length_append] at hlast
    rw [Nat.add_comm m, ← Nat.add_assoc, h.read slice pos value (k + n) hslice hfirst (by omega),
      h'.read slice _ (f value) k hslice hsecond (by omega), List.length_append, Nat.add_assoc]

/-- A repeated field; `f` is the update that a list of items makes. -/
lemma flatMap {encode : ι → List UInt8} (step : ι → σ → σ) (f : List ι → σ → σ) {items : List ι}
    (hnil : ∀ value, f [] value = value)
    (hcons : ∀ item items value, f (item :: items) value = f items (step item value))
    (h : ∀ item ∈ items, Reads data kind table (encode item) (step item) 1) :
    Reads data kind table (items.flatMap encode) (f items) items.length := by
  induction items with
  | nil =>
    refine ⟨Nat.le_refl _, ?_⟩
    intro slice pos value k _ _ _
    rw [hnil]
    rfl
  | cons item items ih =>
    have hfirst := h item List.mem_cons_self
    have hrest := ih fun item hitem => h item (List.mem_cons_of_mem _ hitem)
    have hboth := hfirst.append hrest
    have hupdate : (fun value => f items (step item value)) = f (item :: items) :=
      funext fun value => (hcons item items value).symm
    rw [hupdate, Nat.add_comm 1] at hboth
    exact hboth

/-- A parser that reads all of its slice returns the updated value. -/
lemma decodes (h : Reads data kind table bytes f n) (hfuel : data.size ≤ fuel) (value : σ) :
    Decodes data (fun slice => parseFields fuel data kind table slice value) bytes (f value) := by
  intro p hoccurs hfits
  have hcount := h.count_le
  have hlength := hoccurs.length_le
  unfold ModelFile.size at hfuel
  obtain ⟨k, rfl⟩ : ∃ k, fuel = k + n := ⟨fuel - n, by omega⟩
  have hread := h.read ⟨p, p + bytes.length⟩ p value k hfits hoccurs (Nat.le_refl _)
  have hend : (parseFrom data kind table ⟨p, p + bytes.length⟩ k
      (f value, p + bytes.length)).result = some (.ok (f value)) := by
    rw [parseFrom, Traced.whileLoop_of_not (by simp), Traced.result_pure]
  exact hread.trans hend

end Reads

/-! ### What was written -/

/-- The numbers of a value are in the range of the types that the inspector reads them into. -/
def GeneratorValue.InRange (v : GeneratorValue) : Prop :=
  (∀ dim ∈ v.dims, dim < 2 ^ 63) ∧ v.elemType < 2 ^ 31

/-- The numbers of a tensor are in range. -/
def GeneratorTensor.InRange (t : GeneratorTensor) : Prop :=
  (∀ dim ∈ t.dims, dim < 2 ^ 63) ∧ t.dataType < 2 ^ 31

/-- The numbers of a graph are in range. -/
def GeneratorGraph.InRange (g : GeneratorGraph) : Prop :=
  (∀ t ∈ g.tensors, t.InRange) ∧ (∀ v ∈ g.inputs, v.InRange) ∧ ∀ v ∈ g.outputs, v.InRange

/-- The numbers of a model are in range. -/
def GeneratorModel.InRange (m : GeneratorModel) : Prop :=
  m.irVersion < 2 ^ 63 ∧ m.graph.InRange ∧ m.opsetVersion < 2 ^ 63

instance (v : GeneratorValue) : Decidable v.InRange := inferInstanceAs (Decidable (_ ∧ _))

instance (t : GeneratorTensor) : Decidable t.InRange := inferInstanceAs (Decidable (_ ∧ _))

instance (g : GeneratorGraph) : Decidable g.InRange := inferInstanceAs (Decidable (_ ∧ _ ∧ _))

instance (m : GeneratorModel) : Decidable m.InRange := inferInstanceAs (Decidable (_ ∧ _ ∧ _))

/-- The value that was written. -/
def GeneratorValue.info (v : GeneratorValue) : ValueInfo where
  name := Generator.utf8 v.name
  elemType := v.elemType
  shape := v.dims.map fun dim : ℕ => (dim : ℤ)

/-- The tensor that was written. -/
def GeneratorTensor.info (t : GeneratorTensor) : TensorInfo where
  name := Generator.utf8 t.name
  dataType := t.dataType
  dims := t.dims.map fun dim : ℕ => (dim : ℤ)
  rawBytes := 4 * t.values.length

/-- The node that was written. -/
def GeneratorNode.info (n : GeneratorNode) : NodeInfo where
  name := Generator.utf8 n.name
  opType := Generator.utf8 n.opType
  inputs := n.inputs.map Generator.utf8
  outputs := n.outputs.map Generator.utf8

/-- The model that was written. -/
def GeneratorModel.info (m : GeneratorModel) : ModelInfo where
  graphName := Generator.utf8 m.graph.name
  irVersion := m.irVersion
  opsetVersion := m.opsetVersion
  inputs := m.graph.inputs.map GeneratorValue.info
  outputs := m.graph.outputs.map GeneratorValue.info
  initializers := m.graph.tensors.map GeneratorTensor.info
  nodes := m.graph.nodes.map GeneratorNode.info

/-- A number below `2 ^ 63` survives the cast to `std::int64_t`. -/
private lemma toInt64_of_lt {n : ℕ} (h : n < 2 ^ 63) : toInt64 n = n :=
  Int.bmod_eq_of_le_mul_two (by omega) (by omega)

/-- A number below `2 ^ 31` survives the cast to `int`. -/
private lemma toInt32_of_lt {n : ℕ} (h : n < 2 ^ 31) : toInt32 n = n :=
  Int.bmod_eq_of_le_mul_two (by omega) (by omega)

/-! ### The parsers -/

section Parsers

variable (hfuel : data.size ≤ fuel)

include hfuel

/-- A message with nothing but the varint that its parser returns. -/
lemma decodes_finish {set : ℕ → σ} {field value : ℕ}
    (htable : table.varints field = some (.finish set)) (hfield : field < 16)
    (hvalue : value < 2 ^ 64) (start : σ) :
    Decodes data (fun slice => parseFields fuel data kind table slice start)
      (Generator.fieldVarint field value) (set value) := by
  obtain ⟨w, v, hencode, rfl, hpayload, rfl⟩ := exists_varintField hfield hvalue
  have hacts : Acts data table w (VarintAction.effect v.value (table.varints w.tag.number)) :=
    .varint hpayload
  rw [htable] at hacts
  have hacts' : List.Forall₂ (Acts data table) [w] [.finish (set v.value)] := .cons hacts .nil
  have hdecodes : Decodes data (fun slice => parseFields fuel data kind table slice start)
      (encodeFields [w]) (set v.value) := decodes_of_acts hacts' hfuel start
  rw [encodeFields_cons, encodeFields_nil, List.append_nil, hencode] at hdecodes
  exact hdecodes

lemma decodes_dimension {dim : ℕ} (hdim : dim < 2 ^ 63) :
    Decodes data (parseDimension fuel data) (Generator.fieldVarint 1 dim) (dim : ℤ) := by
  have hread : Decodes data
      (fun slice => parseFields fuel data .dimension dimensionFields slice (-1))
      (Generator.fieldVarint 1 dim) (toInt64 dim) :=
    decodes_finish hfuel rfl (by omega) (by omega) (-1)
  rw [toInt64_of_lt hdim] at hread
  exact hread

lemma decodes_opset {version : ℕ} (hversion : version < 2 ^ 63) :
    Decodes data (parseOpset fuel data) (Generator.opset version) (version : ℤ) := by
  have hread : Decodes data (fun slice => parseFields fuel data .opset opsetFields slice 0)
      (Generator.fieldVarint 2 version) (toInt64 version) :=
    decodes_finish hfuel rfl (by omega) (by omega) 0
  rw [toInt64_of_lt hversion] at hread
  exact hread

lemma decodes_shape {dims : List ℕ} (hdims : ∀ dim ∈ dims, dim < 2 ^ 63) :
    Decodes data (parseShape fuel data) (Generator.tensorShape dims)
      (dims.map fun dim : ℕ => (dim : ℤ)) := by
  have hreads : Reads data .shape (shapeFields fuel data) (Generator.tensorShape dims)
      (fun shape => shape ++ dims.map fun dim : ℕ => (dim : ℤ)) dims.length := by
    refine Reads.flatMap (fun (dim : ℕ) shape => shape ++ [(dim : ℤ)])
      (fun (dims : List ℕ) shape => shape ++ dims.map fun dim : ℕ => (dim : ℤ))
      (by simp) (by simp) ?_
    intro dim hdim
    exact .message 1 rfl (by omega) fun shape =>
      (decodes_dimension hfuel (hdims dim hdim)).update
        (fun dimension dims => dims ++ [dimension]) shape
  exact hreads.decodes hfuel []

lemma decodes_tensorType {v : GeneratorValue} (h : v.InRange) (value : ValueInfo) :
    Decodes data (fun slice => parseTensorType fuel data slice value)
      (Generator.tensorType v.elemType v.dims)
      { value with elemType := v.elemType, shape := v.info.shape } := by
  have helem : Reads data .tensorType (tensorTypeFields fuel data)
      (Generator.fieldVarint 1 v.elemType)
      (fun value => { value with elemType := toInt32 v.elemType }) 1 :=
    .varint 1 v.elemType ⟨_, rfl, rfl⟩ (by omega) (by have := h.2; omega)
  have hshape : Reads data .tensorType (tensorTypeFields fuel data)
      (Generator.fieldBytes 2 (Generator.tensorShape v.dims))
      (fun value => { value with shape := v.info.shape }) 1 :=
    .message 2 rfl (by omega) fun value => (decodes_shape hfuel h.1).update
      (fun shape (value : ValueInfo) => { value with shape := shape }) value
  have hread := (helem.append hshape).decodes hfuel value
  rw [toInt32_of_lt h.2] at hread
  exact hread

lemma decodes_valueInfo {v : GeneratorValue} (h : v.InRange) :
    Decodes data (parseValueInfo fuel data) (Generator.valueInfo v) v.info := by
  have hname : Reads data .valueInfo (valueInfoFields fuel data) (Generator.fieldString 1 v.name)
      (fun value => { value with name := Generator.utf8 v.name }) 1 :=
    .text 1 ⟨_, rfl, rfl⟩ (by omega)
  have htype : Reads data .type (typeFields fuel data)
      (Generator.fieldBytes 1 (Generator.tensorType v.elemType v.dims))
      (fun value => { value with elemType := v.elemType, shape := v.info.shape }) 1 :=
    .message 1 rfl (by omega) (decodes_tensorType hfuel h)
  have hvalue : Reads data .valueInfo (valueInfoFields fuel data)
      (Generator.fieldBytes 2 (Generator.fieldBytes 1 (Generator.tensorType v.elemType v.dims)))
      (fun value => { value with elemType := v.elemType, shape := v.info.shape }) 1 :=
    .message 2 rfl (by omega) (htype.decodes hfuel)
  exact (hname.append hvalue).decodes hfuel .empty

lemma decodes_tensor {t : GeneratorTensor} (h : t.InRange) :
    Decodes data (parseTensor fuel data) (Generator.tensor t) t.info := by
  have hdims : Reads data .tensor tensorFields
      (t.dims.flatMap fun dim => Generator.fieldVarint 1 dim)
      (fun tensor => { tensor with dims := tensor.dims ++ t.dims.map toInt64 }) t.dims.length := by
    refine Reads.flatMap
      (fun dim (tensor : TensorInfo) => { tensor with dims := tensor.dims ++ [toInt64 dim] })
      (fun dims (tensor : TensorInfo) => { tensor with dims := tensor.dims ++ dims.map toInt64 })
      (by simp) (by simp) ?_
    intro dim hdim
    exact .varint 1 dim ⟨_, rfl, rfl⟩ (by omega) (by have := h.1 dim hdim; omega)
  have htype : Reads data .tensor tensorFields (Generator.fieldVarint 2 t.dataType)
      (fun tensor => { tensor with dataType := toInt32 t.dataType }) 1 :=
    .varint 2 t.dataType ⟨_, rfl, rfl⟩ (by omega) (by have := h.2; omega)
  have hname : Reads data .tensor tensorFields (Generator.fieldString 8 t.name)
      (fun tensor => { tensor with name := Generator.utf8 t.name }) 1 :=
    .text 8 ⟨_, rfl, rfl⟩ (by omega)
  have hraw : Reads data .tensor tensorFields
      (Generator.fieldBytes 9 (t.values.flatMap Generator.packFloat))
      (fun tensor =>
        { tensor with rawBytes := (t.values.flatMap Generator.packFloat).length }) 1 :=
    .rawBytes 9 ⟨_, rfl, rfl⟩ (by omega)
  have hread := (((hdims.append htype).append hname).append hraw).decodes hfuel .empty
  have hcast : t.dims.map toInt64 = t.dims.map fun dim : ℕ => (dim : ℤ) :=
    List.map_congr_left fun dim hdim => toInt64_of_lt (h.1 dim hdim)
  simp only [TensorInfo.empty, List.nil_append, hcast, toInt32_of_lt h.2,
    Generator.length_packFloats] at hread
  exact hread

lemma decodes_node (n : GeneratorNode) :
    Decodes data (parseNode fuel data) (Generator.node n) n.info := by
  have hinputs : Reads data .node nodeFields
      (n.inputs.flatMap fun item => Generator.fieldString 1 item)
      (fun node => { node with inputs := node.inputs ++ n.inputs.map Generator.utf8 })
      n.inputs.length :=
    .flatMap
      (fun item (node : NodeInfo) => { node with inputs := node.inputs ++ [Generator.utf8 item] })
      (fun items (node : NodeInfo) =>
        { node with inputs := node.inputs ++ items.map Generator.utf8 })
      (by simp) (by simp) fun item _ => .text 1 ⟨_, rfl, rfl⟩ (by omega)
  have houtputs : Reads data .node nodeFields
      (n.outputs.flatMap fun item => Generator.fieldString 2 item)
      (fun node => { node with outputs := node.outputs ++ n.outputs.map Generator.utf8 })
      n.outputs.length :=
    .flatMap
      (fun item (node : NodeInfo) =>
        { node with outputs := node.outputs ++ [Generator.utf8 item] })
      (fun items (node : NodeInfo) =>
        { node with outputs := node.outputs ++ items.map Generator.utf8 })
      (by simp) (by simp) fun item _ => .text 2 ⟨_, rfl, rfl⟩ (by omega)
  have hname : Reads data .node nodeFields (Generator.fieldString 3 n.name)
      (fun node => { node with name := Generator.utf8 n.name }) 1 :=
    .text 3 ⟨_, rfl, rfl⟩ (by omega)
  have hopType : Reads data .node nodeFields (Generator.fieldString 4 n.opType)
      (fun node => { node with opType := Generator.utf8 n.opType }) 1 :=
    .text 4 ⟨_, rfl, rfl⟩ (by omega)
  exact (((hinputs.append houtputs).append hname).append hopType).decodes hfuel .empty

lemma decodes_graph {g : GeneratorGraph} (h : g.InRange) (model : ModelInfo) :
    Decodes data (fun slice => parseGraph fuel data slice model) (Generator.graph g)
      { model with
        graphName := Generator.utf8 g.name
        nodes := model.nodes ++ g.nodes.map GeneratorNode.info
        initializers := model.initializers ++ g.tensors.map GeneratorTensor.info
        inputs := model.inputs ++ g.inputs.map GeneratorValue.info
        outputs := model.outputs ++ g.outputs.map GeneratorValue.info } := by
  have hnodes : Reads data .graph (graphFields fuel data)
      (g.nodes.flatMap fun n => Generator.fieldBytes 1 (Generator.node n))
      (fun model => { model with nodes := model.nodes ++ g.nodes.map GeneratorNode.info })
      g.nodes.length :=
    .flatMap
      (fun n (model : ModelInfo) => { model with nodes := model.nodes ++ [n.info] })
      (fun nodes (model : ModelInfo) =>
        { model with nodes := model.nodes ++ nodes.map GeneratorNode.info })
      (by simp) (by simp) fun n _ => .message 1 rfl (by omega) fun model =>
        (decodes_node hfuel n).update
          (fun node (model : ModelInfo) => { model with nodes := model.nodes ++ [node] }) model
  have hname : Reads data .graph (graphFields fuel data) (Generator.fieldString 2 g.name)
      (fun model => { model with graphName := Generator.utf8 g.name }) 1 :=
    .text 2 ⟨_, rfl, rfl⟩ (by omega)
  have htensors : Reads data .graph (graphFields fuel data)
      (g.tensors.flatMap fun t => Generator.fieldBytes 5 (Generator.tensor t))
      (fun model =>
        { model with initializers := model.initializers ++ g.tensors.map GeneratorTensor.info })
      g.tensors.length :=
    .flatMap
      (fun t (model : ModelInfo) =>
        { model with initializers := model.initializers ++ [t.info] })
      (fun tensors (model : ModelInfo) =>
        { model with initializers := model.initializers ++ tensors.map GeneratorTensor.info })
      (by simp) (by simp) fun t ht => .message 5 rfl (by omega) fun model =>
        (decodes_tensor hfuel (h.1 t ht)).update (fun tensor (model : ModelInfo) =>
          { model with initializers := model.initializers ++ [tensor] }) model
  have hinputs : Reads data .graph (graphFields fuel data)
      (g.inputs.flatMap fun v => Generator.fieldBytes 11 (Generator.valueInfo v))
      (fun model => { model with inputs := model.inputs ++ g.inputs.map GeneratorValue.info })
      g.inputs.length :=
    .flatMap
      (fun v (model : ModelInfo) => { model with inputs := model.inputs ++ [v.info] })
      (fun values (model : ModelInfo) =>
        { model with inputs := model.inputs ++ values.map GeneratorValue.info })
      (by simp) (by simp) fun v hv => .message 11 rfl (by omega) fun model =>
        (decodes_valueInfo hfuel (h.2.1 v hv)).update
          (fun value (model : ModelInfo) => { model with inputs := model.inputs ++ [value] }) model
  have houtputs : Reads data .graph (graphFields fuel data)
      (g.outputs.flatMap fun v => Generator.fieldBytes 12 (Generator.valueInfo v))
      (fun model => { model with outputs := model.outputs ++ g.outputs.map GeneratorValue.info })
      g.outputs.length :=
    .flatMap
      (fun v (model : ModelInfo) => { model with outputs := model.outputs ++ [v.info] })
      (fun values (model : ModelInfo) =>
        { model with outputs := model.outputs ++ values.map GeneratorValue.info })
      (by simp) (by simp) fun v hv => .message 12 rfl (by omega) fun model =>
        (decodes_valueInfo hfuel (h.2.2 v hv)).update
          (fun value (model : ModelInfo) => { model with outputs := model.outputs ++ [value] })
          model
  exact ((((hnodes.append hname).append htensors).append hinputs).append houtputs).decodes hfuel
    model

end Parsers

/-- **The inspector reads what the generator writes.**  With as much fuel as the file has bytes,
`parseModel` returns the model that `model` has composed. -/
theorem parseModel_model {m : GeneratorModel} (h : m.InRange)
    (hdata : data.bytes = Generator.model m) (hfuel : data.size ≤ fuel) :
    (parseModel fuel data).result = some (.ok m.info) := by
  obtain ⟨hversion, hgraph, hopset⟩ := h
  have hir : Reads data .model (modelFields fuel data) (Generator.fieldVarint 1 m.irVersion)
      (fun model => { model with irVersion := toInt64 m.irVersion }) 1 :=
    .varint 1 m.irVersion ⟨_, rfl, rfl⟩ (by omega) (by omega)
  have hproducer : Reads data .model (modelFields fuel data)
      (Generator.fieldString 2 "job_week7_tiny_model") id 1 :=
    .skip 2 rfl (by omega)
  have hgraphs : Reads data .model (modelFields fuel data)
      (Generator.fieldBytes 7 (Generator.graph m.graph)) _ 1 :=
    .message 7 rfl (by omega) (decodes_graph hfuel hgraph)
  have hopsets : Reads data .model (modelFields fuel data)
      (Generator.fieldBytes 8 (Generator.opset m.opsetVersion))
      (fun model => { model with opsetVersion := m.opsetVersion }) 1 :=
    .message 8 rfl (by omega) fun model => (decodes_opset hfuel hopset).update
      (fun version (model : ModelInfo) => { model with opsetVersion := version }) model
  have hread := (((hir.append hproducer).append hgraphs).append hopsets).decodes hfuel .empty
  have hsize := data.size_lt
  have hwhole := hread 0 (hdata ▸ occursAt_self data.bytes)
    (by rw [← Generator.model, ← hdata]; omega)
  rw [← Generator.model, ← hdata, Nat.zero_add] at hwhole
  rw [parseModel, ModelFile.size, hwhole]
  simp [GeneratorModel.info, ModelInfo.empty, toInt64_of_lt hversion]

/-- The file that the script writes. -/
def tinyRobotScoreFile : ModelFile where
  bytes := Generator.model Generator.tinyRobotScore
  size_lt := by decide +kernel

/-- The inspector reads the model of the script. -/
theorem parseModel_tinyRobotScore :
    (parseModel tinyRobotScoreFile.size tinyRobotScoreFile).result =
      some (.ok Generator.tinyRobotScore.info) :=
  parseModel_model (by decide) rfl (Nat.le_refl _)

end SystemsDemos
