import SystemsDemos.Traced.Basic
import Mathlib.Algebra.Group.Int.Defs
import Mathlib.Algebra.Group.Nat.Defs
import Mathlib.Data.List.Basic

/-!
# The wire format of the model inspector

The functions of `onnx_model_inspector.cpp` that read single values (`readVarint`, `readBytes`,
`skipField`, `asString`), and the loop that all of its parsers consist of.  A parser reads a tag,
looks its field number up among the fields it knows, and skips the field otherwise; it differs
from the others in that table only.  Positions are `size_t` values, natural numbers with an
explicit remainder where a sum can reach `2 ^ 64`, and the sum in `readBytes` is not checked for
that.

A loop may run forever, so the parsers are `Traced` computations; the events say which iterations
they begin and complete, and which slices they cut.

### Outline

* `ModelFile`, `Slice` and `ParseEvent`;
* the functions that read one value;
* `FieldTable` and `parseFields`.
-/

namespace SystemsDemos

/-! ### Files and slices -/

/-- The content of the model file; a vector holds fewer than `2 ^ 63` bytes. -/
structure ModelFile where
  bytes : List UInt8
  size_lt : bytes.length < 2 ^ 63

/-- `data.size()`. -/
def ModelFile.size (data : ModelFile) : ℕ := data.bytes.length

/-- A `Slice`, from `begin` to `end`. -/
structure Slice where
  first : ℕ
  last : ℕ
  deriving DecidableEq

/-- The exceptions. -/
inductive ParseError
  | runtimeError (what : String)
  /-- `std::string` with an end before its begin. -/
  | lengthError
  /-- A read past the end of the vector, which has no defined behaviour. -/
  | outOfRange
  deriving DecidableEq

/-- The parsers, by what they parse. -/
inductive MessageKind
  | model
  | graph
  | node
  | tensor
  | valueInfo
  | type
  | tensorType
  | shape
  | dimension
  | opset
  deriving DecidableEq

/-- What a parser does. -/
inductive ParseEvent
  /-- An iteration of its loop begins at `pos`. -/
  | iteration (kind : MessageKind) (slice : Slice) (pos : ℕ)
  /-- The iteration that began at `pos` is complete and has left the position at `next`. -/
  | completed (slice : Slice) (pos next : ℕ)
  /-- `readBytes` has cut `nested` out of `slice`. -/
  | cut (slice nested : Slice)
  deriving DecidableEq

/-- The computations of the inspector. -/
abbrev Parse := Traced ParseEvent ParseError

/-- `static_cast<std::int64_t>` of a 64-bit value. -/
def toInt64 (value : ℕ) : ℤ := (value : ℤ).bmod (2 ^ 64)

/-- `static_cast<int>` of a 64-bit value. -/
def toInt32 (value : ℕ) : ℤ := (value : ℤ).bmod (2 ^ 32)

/-! ### Single values -/

/-- The loop of `readVarint`, with the result and the position it leaves. -/
def readVarintLoop (data : ModelFile) (slice : Slice) :
    (fuel shift value pos : ℕ) → Except ParseError ℕ × ℕ
  | 0, _, _, pos => (.error (.runtimeError "malformed protobuf varint"), pos)
  | fuel + 1, shift, value, pos =>
      if pos < slice.last ∧ shift ≤ 63 then
        match data.bytes[pos]? with
        | none => (.error .outOfRange, pos)
        | some byte =>
            let value := value ||| ((byte.toNat &&& 0x7F) <<< shift) % 2 ^ 64
            if byte.toNat &&& 0x80 = 0 then (.ok value, pos + 1)
            else readVarintLoop data slice fuel (shift + 7) value (pos + 1)
      else (.error (.runtimeError "malformed protobuf varint"), pos)

/-- `readVarint`; the shift exceeds 63 after ten iterations. -/
def readVarint (data : ModelFile) (slice : Slice) (pos : ℕ) : Except ParseError ℕ × ℕ :=
  readVarintLoop data slice 10 0 0 pos

/-- `readVarint` as a step of a parser: the value and the position behind it. -/
def parseVarint (data : ModelFile) (slice : Slice) (pos : ℕ) : Parse (ℕ × ℕ) :=
  match readVarint data slice pos with
  | (.ok value, next) => pure (value, next)
  | (.error e, _) => Traced.fail e

/-- `readBytes`. -/
def readBytes (data : ModelFile) (slice : Slice) (pos : ℕ) : Parse (Slice × ℕ) := do
  let (length, pos) ← parseVarint data slice pos
  let last := (pos + length) % 2 ^ 64
  if last > slice.last then
    Traced.fail (.runtimeError "protobuf length field exceeds file size")
  else
    let nested : Slice := ⟨pos, last⟩
    Traced.emit (.cut slice nested)
    return (nested, last)

/-- `asString`. -/
def asString (data : ModelFile) (slice : Slice) : Parse (List UInt8) :=
  if slice.last < slice.first then Traced.fail .lengthError
  else pure ((data.bytes.drop slice.first).take (slice.last - slice.first))

/-- The end of `skipField` for a value of fixed width. -/
def skipFixed (slice : Slice) (pos width : ℕ) : Parse ℕ :=
  let pos := (pos + width) % 2 ^ 64
  if pos > slice.last then Traced.fail (.runtimeError "protobuf field exceeds file size")
  else pure pos

/-- `skipField`. -/
def skipField (data : ModelFile) (slice : Slice) (pos wireType : ℕ) : Parse ℕ :=
  if wireType = 0 then do
    let (_, pos) ← parseVarint data slice pos
    return pos
  else if wireType = 1 then skipFixed slice pos 8
  else if wireType = 2 then do
    let (_, pos) ← readBytes data slice pos
    return pos
  else if wireType = 5 then skipFixed slice pos 4
  else Traced.fail (.runtimeError "unsupported protobuf wire type")

/-! ### Messages -/

/-- What a parser does with a varint field that it knows. -/
inductive VarintAction (σ : Type)
  | store (set : ℕ → σ → σ)
  /-- The parser returns the value at once. -/
  | finish (value : ℕ → σ)

/-- What a parser does with a length-delimited field that it knows. -/
inductive BytesAction (σ : Type)
  | text (set : List UInt8 → σ → σ)
  /-- Only the number of bytes is of interest. -/
  | rawBytes (set : ℕ → σ → σ)
  /-- A nested message goes to its own parser, which may go on from what is there. -/
  | message (parse : Slice → σ → Parse σ)

/-- The fields that a parser knows: those of wire type 0 and those of wire type 2. -/
structure FieldTable (σ : Type) where
  varints : ℕ → Option (VarintAction σ)
  bytes : ℕ → Option (BytesAction σ)

/-- How a field ends: the value so far, the position behind the field, and whether the parser
returns. -/
structure Field (σ : Type) where
  value : σ
  pos : ℕ
  returns : Bool

variable {σ : Type}

/-- A varint field. -/
def parseVarintField (data : ModelFile) (slice : Slice) (pos : ℕ) (value : σ) :
    Option (VarintAction σ) → Parse (Field σ)
  | some (.store set) => do
      let (n, pos) ← parseVarint data slice pos
      return ⟨set n value, pos, false⟩
  | some (.finish set) => do
      let (n, pos) ← parseVarint data slice pos
      return ⟨set n, pos, true⟩
  | none => do
      let pos ← skipField data slice pos 0
      return ⟨value, pos, false⟩

/-- A length-delimited field. -/
def parseBytesField (data : ModelFile) (slice : Slice) (pos : ℕ) (value : σ) :
    Option (BytesAction σ) → Parse (Field σ)
  | some (.text set) => do
      let (nested, pos) ← readBytes data slice pos
      let text ← asString data nested
      return ⟨set text value, pos, false⟩
  | some (.rawBytes set) => do
      let (raw, pos) ← readBytes data slice pos
      return ⟨set ((raw.last + 2 ^ 64 - raw.first) % 2 ^ 64) value, pos, false⟩
  | some (.message parse) => do
      let (nested, pos) ← readBytes data slice pos
      let value ← parse nested value
      return ⟨value, pos, false⟩
  | none => do
      let pos ← skipField data slice pos 2
      return ⟨value, pos, false⟩

/-- A field: the tag, and the chain of conditions on field number and wire type. -/
def parseField (data : ModelFile) (table : FieldTable σ) (slice : Slice) (pos : ℕ) (value : σ) :
    Parse (Field σ) := do
  let (tag, pos) ← parseVarint data slice pos
  let field := tag >>> 3
  let wire := tag &&& 0x07
  if wire = 0 then parseVarintField data slice pos value (table.varints field)
  else if wire = 2 then parseBytesField data slice pos value (table.bytes field)
  else
    let pos ← skipField data slice pos wire
    return ⟨value, pos, false⟩

/-- The body of the loop of a parser. -/
def parseIteration (data : ModelFile) (kind : MessageKind) (table : FieldTable σ) (slice : Slice)
    (s : σ × ℕ) : Parse (Traced.Control (σ × ℕ) σ) := do
  Traced.emit (.iteration kind slice s.2)
  let field ← parseField data table slice s.2 s.1
  Traced.emit (.completed slice s.2 field.pos)
  return if field.returns then .done field.value else .next (field.value, field.pos)

/-- The loop of a parser, which begins with `value` at the begin of its slice. -/
def parseFields (fuel : ℕ) (data : ModelFile) (kind : MessageKind) (table : FieldTable σ)
    (slice : Slice) (value : σ) : Parse σ :=
  Traced.whileLoop (fun s => decide (s.2 < slice.last)) (parseIteration data kind table slice)
    (fun s => s.1) fuel (value, slice.first)

/-! ### What the functions return -/

section Results

variable {data : ModelFile} {slice : Slice} {pos : ℕ}

/-- A varint that is read moves the position forward, inside the slice, and has 64 bits. -/
lemma readVarintLoop_ok {fuel shift value n next : ℕ}
    (h : readVarintLoop data slice fuel shift value pos = (.ok n, next)) (hvalue : value < 2 ^ 64) :
    pos < next ∧ next ≤ slice.last ∧ n < 2 ^ 64 := by
  induction fuel generalizing shift value pos with
  | zero => simp [readVarintLoop] at h
  | succ fuel ih =>
    rw [readVarintLoop] at h
    split at h
    · next hmore =>
      split at h
      · simp at h
      · next byte hbyte =>
        have hset : value ||| ((byte.toNat &&& 0x7F) <<< shift) % 2 ^ 64 < 2 ^ 64 :=
          Nat.or_lt_two_pow hvalue (Nat.mod_lt _ (Nat.two_pow_pos 64))
        dsimp only at h
        split at h
        · obtain ⟨hn, rfl⟩ := Prod.mk.inj h
          obtain rfl := Except.ok.inj hn
          exact ⟨by omega, by omega, hset⟩
        · obtain ⟨hlt, hle, hn⟩ := ih h hset
          exact ⟨by omega, hle, hn⟩
    · simp at h

/-- A varint that is read moves the position forward, inside the slice, and has 64 bits. -/
lemma readVarint_ok {n next : ℕ} (h : readVarint data slice pos = (.ok n, next)) :
    pos < next ∧ next ≤ slice.last ∧ n < 2 ^ 64 :=
  readVarintLoop_ok h (Nat.two_pow_pos 64)

@[simp] lemma events_parseVarint : (parseVarint data slice pos).events = [] := by
  unfold parseVarint
  split <;> rfl

/-- `parseVarint` returns what `readVarint` does. -/
lemma result_parseVarint_eq_ok_iff {n next : ℕ} :
    (parseVarint data slice pos).result = some (.ok (n, next)) ↔
      readVarint data slice pos = (.ok n, next) := by
  unfold parseVarint
  split
  · next value next' h => simp [h]
  · next e next' h => simp [h]

/-- Reading a varint comes to an end. -/
lemma ends_parseVarint : (parseVarint data slice pos).Ends := by
  unfold parseVarint
  split
  · exact .pure _
  · exact .fail _

/-- What `readBytes` returns. -/
lemma result_readBytes_eq_ok_iff {nested : Slice} {next : ℕ} :
    (readBytes data slice pos).result = some (.ok (nested, next)) ↔
      ∃ length q, readVarint data slice pos = (.ok length, q) ∧
        nested = ⟨q, next⟩ ∧ next = (q + length) % 2 ^ 64 ∧ next ≤ slice.last := by
  rw [readBytes, Traced.result_bind_eq_ok_iff]
  constructor
  · rintro ⟨⟨length, q⟩, hlength, hrest⟩
    dsimp only at hrest
    split at hrest
    · simp at hrest
    · next hfits =>
      have hpair : (⟨q, (q + length) % 2 ^ 64⟩, (q + length) % 2 ^ 64) = (nested, next) := by
        simpa [Traced.bind_of_ok (Traced.result_emit _)] using hrest
      obtain ⟨rfl, rfl⟩ := Prod.mk.inj hpair
      exact ⟨length, q, result_parseVarint_eq_ok_iff.mp hlength, rfl, rfl, by omega⟩
  · rintro ⟨length, q, hlength, rfl, rfl, hfits⟩
    refine ⟨(length, q), result_parseVarint_eq_ok_iff.mpr hlength, ?_⟩
    dsimp only
    rw [if_neg (by omega), Traced.bind_of_ok (Traced.result_emit _)]
    rfl

/-- Reading a slice comes to an end. -/
lemma ends_readBytes : (readBytes data slice pos).Ends := by
  refine ends_parseVarint.bind fun _ => ?_
  dsimp only
  split
  · exact .fail _
  · exact .bind (.emit _) fun _ => .pure _

/-- A slice that is cut ends inside the slice it is cut out of. -/
lemma last_le_of_readBytes {nested : Slice} {next : ℕ}
    (h : (readBytes data slice pos).result = some (.ok (nested, next))) :
    nested.last ≤ slice.last := by
  obtain ⟨_, _, -, rfl, -, hle⟩ := result_readBytes_eq_ok_iff.mp h
  exact hle

/-- A value of fixed width is skipped by its width. -/
lemma pos_of_skipFixed {width next : ℕ} (hfits : pos + width < 2 ^ 64)
    (h : (skipFixed slice pos width).result = some (.ok next)) : next = pos + width := by
  unfold skipFixed at h
  dsimp only at h
  rw [Nat.mod_eq_of_lt hfits] at h
  split at h
  · cases h
  · exact (Except.ok.inj (Option.some.inj h)).symm

/-- Skipping a field comes to an end. -/
lemma ends_skipField (wireType : ℕ) : (skipField data slice pos wireType).Ends := by
  have hfixed : ∀ width, (skipFixed slice pos width).Ends := by
    intro width
    unfold skipFixed
    dsimp only
    split
    · exact .fail _
    · exact .pure _
  unfold skipField
  split
  · exact ends_parseVarint.bind fun _ => .pure _
  split
  · exact hfixed 8
  split
  · exact ends_readBytes.bind fun _ => .pure _
  split
  · exact hfixed 4
  · exact .fail _

/-- The event is a cut. -/
def ParseEvent.IsCut (event : ParseEvent) : Prop := ∃ slice nested, event = .cut slice nested

/-- Reading a varint shows nothing. -/
lemma shows_parseVarint : Traced.Shows ParseEvent.IsCut (parseVarint data slice pos) := by
  intro event hevent
  simp at hevent

/-- Reading a slice shows at most the cut. -/
lemma shows_readBytes : Traced.Shows ParseEvent.IsCut (readBytes data slice pos) := by
  refine shows_parseVarint.bind fun _ => ?_
  dsimp only
  split
  · exact .fail _
  · refine .bind ?_ fun _ => .pure _
    intro event hevent
    exact ⟨_, _, List.mem_singleton.mp hevent⟩

/-- Skipping a field shows at most a cut. -/
lemma shows_skipField (wireType : ℕ) :
    Traced.Shows ParseEvent.IsCut (skipField data slice pos wireType) := by
  have hfixed : ∀ width, Traced.Shows ParseEvent.IsCut (skipFixed slice pos width) := by
    intro width
    unfold skipFixed
    dsimp only
    split
    · exact .fail _
    · exact .pure _
  unfold skipField
  split
  · exact shows_parseVarint.bind fun _ => .pure _
  split
  · exact hfixed 8
  split
  · exact shows_readBytes.bind fun _ => .pure _
  split
  · exact hfixed 4
  · exact .fail _

/-- Making a string comes to an end. -/
lemma ends_asString : (asString data slice).Ends := by
  unfold asString
  split
  · exact .fail _
  · exact .pure _

/-- Making a string shows nothing. -/
lemma shows_asString : Traced.Shows ParseEvent.IsCut (asString data slice) := by
  unfold asString
  split
  · exact .fail _
  · exact .pure _

end Results

section Iterations

variable {data : ModelFile} {kind : MessageKind} {table : FieldTable σ} {slice : Slice}

/-- The events of an iteration. -/
lemma mem_events_parseIteration {s : σ × ℕ} {event : ParseEvent} :
    event ∈ (parseIteration data kind table slice s).events ↔
      event = .iteration kind slice s.2 ∨
        event ∈ (parseField data table slice s.2 s.1).events ∨
        ∃ field, (parseField data table slice s.2 s.1).result = some (.ok field) ∧
          event = .completed slice s.2 field.pos := by
  simp [parseIteration, Traced.mem_events_bind]

/-- The result of an iteration whose field is read. -/
lemma result_parseIteration_of_ok {s : σ × ℕ} {field : Field σ}
    (h : (parseField data table slice s.2 s.1).result = some (.ok field)) :
    (parseIteration data kind table slice s).result =
      some (.ok (if field.returns then .done field.value else .next (field.value, field.pos))) := by
  rw [parseIteration, Traced.result_bind_of_ok (Traced.result_emit _), Traced.result_bind_of_ok h,
    Traced.result_bind_of_ok (Traced.result_emit _), Traced.result_pure]

/-- The result of an iteration whose field is not read. -/
lemma result_parseIteration_of_error {s : σ × ℕ} {e : ParseError}
    (h : (parseField data table slice s.2 s.1).result = some (.error e)) :
    (parseIteration data kind table slice s).result = some (.error e) := by
  rw [parseIteration, Traced.result_bind_of_ok (Traced.result_emit _), Traced.bind_of_error h]

end Iterations

end SystemsDemos
