import SystemsDemos.Onnx.Wire

/-!
# The model inspector

The parsers of `onnx_model_inspector.cpp`, from `parseDimension` to `parseModel`, each as the
common loop with the table of the fields it knows.  Each loop has the same amount of fuel.
-/

namespace SystemsDemos

/-- `ValueInfo`; strings are their bytes. -/
structure ValueInfo where
  name : List UInt8
  elemType : ℤ
  shape : List ℤ
  deriving DecidableEq

/-- `TensorInfo`. -/
structure TensorInfo where
  name : List UInt8
  dataType : ℤ
  dims : List ℤ
  rawBytes : ℕ
  deriving DecidableEq

/-- `NodeInfo`. -/
structure NodeInfo where
  name : List UInt8
  opType : List UInt8
  inputs : List (List UInt8)
  outputs : List (List UInt8)
  deriving DecidableEq

/-- `ModelInfo`. -/
structure ModelInfo where
  graphName : List UInt8
  irVersion : ℤ
  opsetVersion : ℤ
  inputs : List ValueInfo
  outputs : List ValueInfo
  initializers : List TensorInfo
  nodes : List NodeInfo
  deriving DecidableEq

/-- A `ValueInfo` as it is constructed. -/
def ValueInfo.empty : ValueInfo := ⟨[], 0, []⟩

/-- A `TensorInfo` as it is constructed. -/
def TensorInfo.empty : TensorInfo := ⟨[], 0, [], 0⟩

/-- A `NodeInfo` as it is constructed. -/
def NodeInfo.empty : NodeInfo := ⟨[], [], [], []⟩

/-- A `ModelInfo` as it is constructed. -/
def ModelInfo.empty : ModelInfo := ⟨[], 0, 0, [], [], [], []⟩

section Parsers

variable (fuel : ℕ) (data : ModelFile)

/-- The fields of a dimension. -/
def dimensionFields : FieldTable ℤ where
  varints field := if field = 1 then some (.finish toInt64) else none
  bytes _ := none

/-- `parseDimension`. -/
def parseDimension (slice : Slice) : Parse ℤ :=
  parseFields fuel data .dimension dimensionFields slice (-1)

/-- The fields of a shape. -/
def shapeFields : FieldTable (List ℤ) where
  varints _ := none
  bytes field :=
    if field = 1 then
      some (.message fun nested dims => do
        let dimension ← parseDimension fuel data nested
        return dims ++ [dimension])
    else none

/-- `parseShape`. -/
def parseShape (slice : Slice) : Parse (List ℤ) :=
  parseFields fuel data .shape (shapeFields fuel data) slice []

/-- The fields of a tensor type. -/
def tensorTypeFields : FieldTable ValueInfo where
  varints field :=
    if field = 1 then some (.store fun n value => { value with elemType := toInt32 n }) else none
  bytes field :=
    if field = 2 then
      some (.message fun nested value => do
        let shape ← parseShape fuel data nested
        return { value with shape := shape })
    else none

/-- `parseTensorType`. -/
def parseTensorType (slice : Slice) (value : ValueInfo) : Parse ValueInfo :=
  parseFields fuel data .tensorType (tensorTypeFields fuel data) slice value

/-- The fields of a type. -/
def typeFields : FieldTable ValueInfo where
  varints _ := none
  bytes field := if field = 1 then some (.message (parseTensorType fuel data)) else none

/-- `parseType`. -/
def parseType (slice : Slice) (value : ValueInfo) : Parse ValueInfo :=
  parseFields fuel data .type (typeFields fuel data) slice value

/-- The fields of a value. -/
def valueInfoFields : FieldTable ValueInfo where
  varints _ := none
  bytes field :=
    if field = 1 then some (.text fun name value => { value with name := name })
    else if field = 2 then some (.message (parseType fuel data))
    else none

/-- `parseValueInfo`. -/
def parseValueInfo (slice : Slice) : Parse ValueInfo :=
  parseFields fuel data .valueInfo (valueInfoFields fuel data) slice .empty

/-- The fields of a tensor. -/
def tensorFields : FieldTable TensorInfo where
  varints field :=
    if field = 1 then
      some (.store fun n tensor => { tensor with dims := tensor.dims ++ [toInt64 n] })
    else if field = 2 then some (.store fun n tensor => { tensor with dataType := toInt32 n })
    else none
  bytes field :=
    if field = 8 then some (.text fun name tensor => { tensor with name := name })
    else if field = 9 then some (.rawBytes fun n tensor => { tensor with rawBytes := n })
    else none

/-- `parseTensor`. -/
def parseTensor (slice : Slice) : Parse TensorInfo :=
  parseFields fuel data .tensor tensorFields slice .empty

/-- The fields of a node. -/
def nodeFields : FieldTable NodeInfo where
  varints _ := none
  bytes field :=
    if field = 1 then some (.text fun item node => { node with inputs := node.inputs ++ [item] })
    else if field = 2 then
      some (.text fun item node => { node with outputs := node.outputs ++ [item] })
    else if field = 3 then some (.text fun name node => { node with name := name })
    else if field = 4 then some (.text fun opType node => { node with opType := opType })
    else none

/-- `parseNode`. -/
def parseNode (slice : Slice) : Parse NodeInfo :=
  parseFields fuel data .node nodeFields slice .empty

/-- The fields of an opset. -/
def opsetFields : FieldTable ℤ where
  varints field := if field = 2 then some (.finish toInt64) else none
  bytes _ := none

/-- `parseOpset`. -/
def parseOpset (slice : Slice) : Parse ℤ :=
  parseFields fuel data .opset opsetFields slice 0

/-- The fields of a graph. -/
def graphFields : FieldTable ModelInfo where
  varints _ := none
  bytes field :=
    if field = 1 then
      some (.message fun nested model => do
        let node ← parseNode fuel data nested
        return { model with nodes := model.nodes ++ [node] })
    else if field = 2 then some (.text fun name model => { model with graphName := name })
    else if field = 5 then
      some (.message fun nested model => do
        let tensor ← parseTensor fuel data nested
        return { model with initializers := model.initializers ++ [tensor] })
    else if field = 11 then
      some (.message fun nested model => do
        let value ← parseValueInfo fuel data nested
        return { model with inputs := model.inputs ++ [value] })
    else if field = 12 then
      some (.message fun nested model => do
        let value ← parseValueInfo fuel data nested
        return { model with outputs := model.outputs ++ [value] })
    else none

/-- `parseGraph`. -/
def parseGraph (slice : Slice) (model : ModelInfo) : Parse ModelInfo :=
  parseFields fuel data .graph (graphFields fuel data) slice model

/-- The fields of a model. -/
def modelFields : FieldTable ModelInfo where
  varints field :=
    if field = 1 then some (.store fun n model => { model with irVersion := toInt64 n }) else none
  bytes field :=
    if field = 7 then some (.message (parseGraph fuel data))
    else if field = 8 then
      some (.message fun nested model => do
        let version ← parseOpset fuel data nested
        return { model with opsetVersion := version })
    else none

/-- `parseModel`. -/
def parseModel : Parse ModelInfo :=
  parseFields fuel data .model (modelFields fuel data) ⟨0, data.size⟩ .empty

end Parsers

end SystemsDemos
