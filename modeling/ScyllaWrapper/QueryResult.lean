import ScyllaWrapper.RawRow

/-!
The result container of query_result.rs. A rows result shares its frame and metadata with a
first row decoded eagerly on construction; the remaining rows are decoded by the iterator. The
self-borrow of the first row (a `Yoke` over the `Arc`) is a memory-layout device and is not
modelled: the first row is kept as a value. `get_column_type` of cass_types.rs, which is not
under src/, is a parameter.
-/
namespace ResultContainer
open CassTypes RawValueDecoder RawRowDecoder

structure CassColumnSpec where
  name : String
  dataType : CassDataType

structure CassResultMetadata where
  colSpecs : List CassColumnSpec

def CassResultMetadata.fromColumnSpecs (getColumnType : ColumnType → CassDataType)
    (colSpecs : List ColumnSpec) : CassResultMetadata :=
  ⟨colSpecs.map fun colSpec => ⟨colSpec.name, getColumnType colSpec.typ⟩⟩

/-- The driver's `DeserializedMetadataAndRawRows`: the column specs and, per row, the cells the
    driver's raw row iterator frames, or its framing error. A framed row has one cell per
    column, because the driver reads exactly one cell per spec. -/
structure DeserializedMetadataAndRawRows where
  colSpecs : List ColumnSpec
  rawRows : List (Except DeserializationError (List (Option Bytes)))
  framed : ∀ row ∈ rawRows, ∀ cells, row = .ok cells → cells.length = colSpecs.length

def DeserializedMetadataAndRawRows.rowsCount (raw : DeserializedMetadataAndRawRows) : Nat :=
  raw.rawRows.length

/-- The driver's `TypedRowIterator<RowT>`: `RowT`'s deserializer, and the rows not yet yielded,
    each decoded when it is yielded. An exhausted iterator keeps yielding `None`. -/
structure TypedRowIterator (RowT : Type) where
  deserializeRow : List ColumnSpec → List (Option Bytes) → Except DeserializationError RowT
  specs : List ColumnSpec
  remaining : List (Except DeserializationError (List (Option Bytes)))

def TypedRowIterator.next {RowT : Type} (it : TypedRowIterator RowT) :
    Option (Except DeserializationError RowT) × TypedRowIterator RowT :=
  match it.remaining with
  | [] => (none, it)
  | raw :: rest =>
    (some (raw.bind (it.deserializeRow it.specs)), ⟨it.deserializeRow, it.specs, rest⟩)

/-- `rows_iter::<RowT>()`; the type checks of the row types the wrapper asks for always pass. -/
def DeserializedMetadataAndRawRows.rowsIter {RowT : Type} (raw : DeserializedMetadataAndRawRows)
    (deserializeRow : List ColumnSpec → List (Option Bytes) → Except DeserializationError RowT) :
    TypedRowIterator RowT :=
  ⟨deserializeRow, raw.colSpecs, raw.rawRows⟩

/-- `CassRawRow`'s deserializer over the column iterator the driver builds for a framed row. -/
def deserializeCassRawRow (specs : List ColumnSpec) (cells : List (Option Bytes)) :
    Except DeserializationError CassRawRow :=
  CassRawRow.deserialize (columnIterator (specs.zip cells))

structure CassRow where
  columns : List CassValue
  resultMetadata : CassResultMetadata

def createCassRowColumns (row : List CassRawValue) (metadata : CassResultMetadata) :
    List CassValue :=
  (row.zip metadata.colSpecs).map fun (value, colSpec) => ⟨value, colSpec.dataType⟩

def CassRow.fromRowAndMetadata (row : List CassRawValue) (resultMetadata : CassResultMetadata) :
    CassRow :=
  ⟨createCassRowColumns row resultMetadata, resultMetadata⟩

structure CassRowsResultSharedData where
  rawRows : DeserializedMetadataAndRawRows
  metadata : CassResultMetadata

inductive CassErrorResult where
  | deserialization (err : DeserializationError)
  | metadataDeserialization (message : String)

/-- `RowWithSelfBorrowedResultData::first_from_raw_rows_and_metadata`: no rows gives no first
    row, a first row that fails to decode is an error. -/
def firstFromRawRowsAndMetadata (rawRowsAndMetadata : CassRowsResultSharedData) :
    Except CassErrorResult (Option CassRow) :=
  match (rawRowsAndMetadata.rawRows.rowsIter deserializeCassRawRow).next.1 with
  | some (.ok row) => .ok (some (CassRow.fromRowAndMetadata row.columns rawRowsAndMetadata.metadata))
  | some (.error deserError) => .error (.deserialization deserError)
  | none => .ok none

structure CassRowsResult where
  sharedData : CassRowsResultSharedData
  firstRow : Option CassRow

inductive CassResultKind where
  | nonRows
  | rows (result : CassRowsResult)

/-- The driver's `PagingStateResponse`; a paging state may have no bytes. -/
inductive PagingStateResponse where
  | hasMorePages (state : Option Bytes)
  | noMorePages

def PagingStateResponse.finished : PagingStateResponse → Bool
  | .hasMorePages _ => false
  | .noMorePages => true

structure CassResult where
  tracingId : Option Nat
  pagingStateResponse : PagingStateResponse
  kind : CassResultKind

/-- The driver's `QueryResult` as `into_rows_result` sees it: a rows frame, a result of another
    kind, or a rows frame whose metadata fails to deserialize. -/
inductive QueryResult where
  | rows (rawRows : DeserializedMetadataAndRawRows) (tracingId : Option Nat)
  | notRows (tracingId : Option Nat)
  | lazyMetadataError (message : String)

inductive IntoRowsResultError where
  | resultNotRows (tracingId : Option Nat)
  | resultMetadataLazyDeserializationError (message : String)

def QueryResult.intoRowsResult :
    QueryResult → Except IntoRowsResultError (DeserializedMetadataAndRawRows × Option Nat)
  | .rows rawRows tracingId => .ok (rawRows, tracingId)
  | .notRows tracingId => .error (.resultNotRows tracingId)
  | .lazyMetadataError message => .error (.resultMetadataLazyDeserializationError message)

/-- `CassResult::from_result_payload`: cached metadata of a prepared statement is preferred over
    the frame's own column specs. -/
def CassResult.fromResultPayload (getColumnType : ColumnType → CassDataType)
    (result : QueryResult) (pagingStateResponse : PagingStateResponse)
    (maybeResultMetadata : Option CassResultMetadata) : Except CassErrorResult CassResult :=
  match result.intoRowsResult with
  | .ok (rawRows, tracingId) =>
    let metadata := maybeResultMetadata.getD
      (CassResultMetadata.fromColumnSpecs getColumnType rawRows.colSpecs)
    let sharedData : CassRowsResultSharedData := ⟨rawRows, metadata⟩
    match firstFromRawRowsAndMetadata sharedData with
    | .ok firstRow => .ok ⟨tracingId, pagingStateResponse, .rows ⟨sharedData, firstRow⟩⟩
    | .error err => .error err
  | .error (.resultNotRows tracingId) => .ok ⟨tracingId, pagingStateResponse, .nonRows⟩
  | .error (.resultMetadataLazyDeserializationError err) => .error (.metadataDeserialization err)

def cassResultFirstRow (result : CassResult) : Option CassRow :=
  match result.kind with
  | .rows rows => rows.firstRow
  | .nonRows => none

def cassResultRowCount (result : CassResult) : Nat :=
  match result.kind with
  | .rows rows => rows.sharedData.rawRows.rowsCount
  | .nonRows => 0

def cassResultColumnCount (result : CassResult) : Nat :=
  match result.kind with
  | .rows rows => rows.sharedData.metadata.colSpecs.length
  | .nonRows => 0

def cassRowGetColumn (row : CassRow) (index : Nat) : Option CassValue := row.columns[index]?

def cassResultColumnName (result : CassResult) (index : Nat) : CassError × Option String :=
  match result.kind with
  | .nonRows => (.libIndexOutOfBounds, none)
  | .rows rows =>
    match rows.sharedData.metadata.colSpecs[index]? with
    | some colSpec => (.ok, some colSpec.name)
    | none => (.libIndexOutOfBounds, none)

def cassResultColumnDataType (result : CassResult) (index : Nat) : Option CassDataType :=
  match result.kind with
  | .nonRows => none
  | .rows rows => (rows.sharedData.metadata.colSpecs[index]?).map (·.dataType)

/-- `cass_result_column_type`; `cass_data_type_type` reads the descriptor's value type. -/
def cassResultColumnType (result : CassResult) (index : Nat) : CassValueType :=
  match cassResultColumnDataType result index with
  | none => .unknown
  | some dataType => dataType.getValueType

def cassResultHasMorePages (result : CassResult) : Bool := !result.pagingStateResponse.finished

def cassResultPagingStateToken (result : CassResult) : CassError × Option Bytes :=
  if cassResultHasMorePages result = false then (.libNoPagingState, none)
  else
    match result.pagingStateResponse with
    | .hasMorePages (some state) => (.ok, some state)
    | .hasMorePages none | .noMorePages => (.ok, none)

inductive NonNullDeserializationError where
  | isNull
  | typecheck (message : String)
  | deserialization (err : DeserializationError)

def NonNullDeserializationError.toCassError : NonNullDeserializationError → CassError
  | .isNull => .libNullValue
  | .typecheck _ => .libInvalidValueType
  | .deserialization _ => .libInvalidData

/-- `CassValue::get_non_null::<T>`: a null value is refused before `T`'s type check and
    deserializer, which belong to the driver and are parameters. -/
def getNonNull {T : Type} (typeCheck : ColumnType → Except String Unit)
    (deserialize : ColumnType → Option Bytes → Except DeserializationError T)
    (self : CassValue) : Except NonNullDeserializationError T :=
  match self.value.slice with
  | none => .error .isNull
  | some _ =>
    match typeCheck self.value.typ with
    | .error e => .error (.typecheck e)
    | .ok () => (deserialize self.value.typ self.value.slice).mapError .deserialization

end ResultContainer
