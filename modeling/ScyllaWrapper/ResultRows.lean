import ScyllaWrapper.IteratorRuns
import ScyllaWrapper.ValueGetters
import ScyllaWrapper.ColumnByName

/-!
The rows a result exposes: the first row, decoded with `CassRawRow` when the result is built,
and the rows its iterator reaches, decoded by the iterator's `RowDecoder`. Both pair a frame row's
values with the result's metadata, which is the cached metadata of a prepared statement when
there is one and the frame's own column specs otherwise.
-/
namespace ResultRows
open CassTypes RawValueDecoder RawRowDecoder ResultContainer StreamCursors Cursors IteratorEngine
  IteratorRuns

variable {V : Type}

theorem TypedRowIterator.next_fst {RowT : Type} (iterator : TypedRowIterator RowT) :
    iterator.next.1 = (rowItems iterator).head? := by
  obtain ⟨decode, specs, _ | ⟨raw, rest⟩⟩ := iterator <;> rfl

/-- `from_result_payload` on a rows frame: the result is built iff its first row is. -/
theorem fromResultPayload_rows (getColumnType : ColumnType → CassDataType)
    (rawRows : DeserializedMetadataAndRawRows) (tracingId : Option Nat)
    (pagingStateResponse : PagingStateResponse) (maybeResultMetadata : Option CassResultMetadata) :
    CassResult.fromResultPayload getColumnType (.rows rawRows tracingId) pagingStateResponse
        maybeResultMetadata =
      (firstFromRawRowsAndMetadata ⟨rawRows, maybeResultMetadata.getD
          (CassResultMetadata.fromColumnSpecs getColumnType rawRows.colSpecs)⟩).map
        fun firstRow => ⟨tracingId, pagingStateResponse, .rows ⟨⟨rawRows, maybeResultMetadata.getD
          (CassResultMetadata.fromColumnSpecs getColumnType rawRows.colSpecs)⟩, firstRow⟩⟩ := by
  simp only [CassResult.fromResultPayload, QueryResult.intoRowsResult]
  split <;> simp_all [Except.map]

theorem fromResultPayload_pagingStateResponse {getColumnType : ColumnType → CassDataType}
    {payload : QueryResult} {pagingStateResponse : PagingStateResponse}
    {maybeResultMetadata : Option CassResultMetadata} {result : CassResult}
    (built : CassResult.fromResultPayload getColumnType payload pagingStateResponse
      maybeResultMetadata = .ok result) :
    result.pagingStateResponse = pagingStateResponse := by
  simp only [CassResult.fromResultPayload] at built
  split at built
  · split at built <;> cases built
    rfl
  · cases built
    rfl
  · cases built

theorem rowItems_head?_eq_error_iff (rawRows : DeserializedMetadataAndRawRows)
    (err : DeserializationError) :
    (rowItems (rawRows.rowsIter deserializeCassRawRow)).head? = some (.error err) ↔ ∃ first rest,
      rawRows.rawRows = first :: rest ∧ (first = .error err ∨ ∃ cells, first = .ok cells ∧
        CassRawRow.deserialize (columnIterator (rawRows.colSpecs.zip cells)) = .error err) := by
  simp only [rowItems, DeserializedMetadataAndRawRows.rowsIter, List.head?_map]
  cases rawRows.rawRows with
  | nil => simp
  | cons first rest => cases first <;> simp [Except.bind, deserializeCassRawRow, eq_comm]

theorem rowItems_getElem?_eq_ok_iff {RowT : Type} (rawRows : DeserializedMetadataAndRawRows)
    (deserializeRow : List ColumnSpec → List (Option Bytes) → Except DeserializationError RowT)
    (k : Nat) (row : RowT) :
    (rowItems (rawRows.rowsIter deserializeRow))[k]? = some (.ok row) ↔ ∃ cells,
      rawRows.rawRows[k]? = some (.ok cells) ∧ deserializeRow rawRows.colSpecs cells = .ok row := by
  simp only [rowItems, DeserializedMetadataAndRawRows.rowsIter, List.getElem?_map]
  cases rawRows.rawRows[k]? with
  | none => simp
  | some raw => cases raw <;> simp [Except.bind]

section Built
variable {getColumnType : ColumnType → CassDataType} {rawRows : DeserializedMetadataAndRawRows}
  {tracingId : Option Nat} {pagingStateResponse : PagingStateResponse}
  {maybeResultMetadata : Option CassResultMetadata} {result : CassResult}

/-- A result built from a rows frame holds the frame and its metadata, and its first row is what
    decoding the frame's first row with `CassRawRow` gives. -/
theorem fromResultPayload_ok (built : CassResult.fromResultPayload getColumnType
      (.rows rawRows tracingId) pagingStateResponse maybeResultMetadata = .ok result) :
    let metadata := maybeResultMetadata.getD
      (CassResultMetadata.fromColumnSpecs getColumnType rawRows.colSpecs)
    result = ⟨tracingId, pagingStateResponse, .rows ⟨⟨rawRows, metadata⟩,
      keepDecoded (fun row => CassRow.fromRowAndMetadata row.columns metadata)
        (rowItems (rawRows.rowsIter deserializeCassRawRow)).head?⟩⟩ := by
  rw [fromResultPayload_rows, firstFromRawRowsAndMetadata, TypedRowIterator.next_fst] at built
  split at built <;> simp_all [Except.map, keepDecoded]

theorem fromResultPayload_rows_eq_error_iff (e : CassErrorResult) :
    CassResult.fromResultPayload getColumnType (.rows rawRows tracingId) pagingStateResponse
        maybeResultMetadata = .error e ↔
      ∃ err, (rowItems (rawRows.rowsIter deserializeCassRawRow)).head? = some (.error err) ∧
        e = .deserialization err := by
  rw [fromResultPayload_rows, firstFromRawRowsAndMetadata, TypedRowIterator.next_fst]
  dsimp only
  rcases (rowItems (rawRows.rowsIter deserializeCassRawRow)).head? with _ | _ | _ <;>
    simp [Except.map, eq_comm]

end Built

/-! ### Every exposed row pairs decoded values with the metadata -/

def rawRowDecoder : RowDecoder := fun specs cells =>
  (deserializeCassRawRow specs cells).map (·.columns)

/-- A row decoder that gives each column of a framed row one value, decoded with that column's
    type. -/
def KeepsColumnTypes (rowDecoder : RowDecoder) : Prop :=
  ∀ specs cells values, cells.length = specs.length → rowDecoder specs cells = .ok values →
    values.map (·.typ) = specs.map (·.typ)

theorem rawRowDecoder_keepsColumnTypes : KeepsColumnTypes rawRowDecoder := by
  intro specs cells values framed decoded
  obtain ⟨decodedRow, ok, rfl⟩ : ∃ decodedRow,
      deserializeCassRawRow specs cells = .ok decodedRow ∧ decodedRow.columns = values := by
    cases row : deserializeCassRawRow specs cells <;> simp_all [rawRowDecoder, Except.map]
  have columns : List.Forall₂ (fun column raw => column.1.typ = CassRawValue.typ raw)
      (specs.zip cells) decodedRow.columns :=
    (((deserializeLoop_columnIteratorFrom 0 _).1 _).mp
      ((CassRawRow.deserialize_eq_ok_iff _ _).mp ok)).imp
        fun _ _ decodes => ((deserialize_eq_ok_iff _ _ _).mp decodes).1.symm
  have types := List.forall₂_eq_eq_eq ▸
    List.forall₂_map_left_iff.mpr (List.forall₂_map_right_iff.mpr columns)
  calc decodedRow.columns.map (·.typ) = (specs.zip cells).map (·.1.typ) := types.symm
    _ = ((specs.zip cells).map Prod.fst).map (·.typ) := by rw [List.map_map]; rfl
    _ = specs.map (·.typ) := by rw [List.map_fst_zip _ _ framed.ge]

/-- A row exposed for a frame with `colSpecs` and paired with `metadata`: it has one value for
    each column both describe, each decoded with the frame's column type and typed with the
    metadata's data type. -/
structure RowOfFrame (colSpecs : List ColumnSpec) (metadata : CassResultMetadata) (row : CassRow) :
    Prop where
  paired : row.resultMetadata = metadata
  length_eq : row.columns.length = min colSpecs.length metadata.colSpecs.length
  column : ∀ (i : Nat) (column : CassValue), row.columns[i]? = some column →
    (colSpecs[i]?).map (·.typ) = some column.value.typ ∧
    (metadata.colSpecs[i]?).map (·.dataType) = some column.valueType

theorem fromRowAndMetadata_length (values : List CassRawValue) (metadata : CassResultMetadata) :
    (CassRow.fromRowAndMetadata values metadata).columns.length =
      min values.length metadata.colSpecs.length := by
  simp [CassRow.fromRowAndMetadata, createCassRowColumns]

theorem cassRowGetColumn_fromRowAndMetadata (values : List CassRawValue)
    (metadata : CassResultMetadata) (j : Nat) (value : CassValue) :
    cassRowGetColumn (CassRow.fromRowAndMetadata values metadata) j = some value ↔
      ∃ colSpec, values[j]? = some value.value ∧ metadata.colSpecs[j]? = some colSpec ∧
        value.valueType = colSpec.dataType := by
  simp only [cassRowGetColumn, CassRow.fromRowAndMetadata, createCassRowColumns,
    List.getElem?_map, Option.map_eq_some', List.getElem?_zip_eq_some]
  constructor
  · rintro ⟨⟨raw, colSpec⟩, ⟨atRaw, atSpec⟩, rfl⟩
    exact ⟨colSpec, atRaw, atSpec, rfl⟩
  · rintro ⟨colSpec, atRaw, atSpec, typed⟩
    exact ⟨(value.value, colSpec), ⟨atRaw, atSpec⟩, by rw [← typed]⟩

/-- Values decoded with a frame's column types, one per column, give a row of that frame,
    whatever metadata they are paired with. -/
theorem rowOfFrame_of_typed {colSpecs : List ColumnSpec} {values : List CassRawValue}
    (metadata : CassResultMetadata) (typed : values.map (·.typ) = colSpecs.map (·.typ)) :
    RowOfFrame colSpecs metadata (CassRow.fromRowAndMetadata values metadata) := by
  have sameLength : values.length = colSpecs.length := by
    simpa using congrArg List.length typed
  refine ⟨rfl, by rw [fromRowAndMetadata_length, sameLength], fun i column found => ?_⟩
  obtain ⟨colSpec, atValue, atSpec, typedMeta⟩ :=
    (cassRowGetColumn_fromRowAndMetadata values metadata i column).mp found
  have atType := congrArg (·[i]?) typed
  simp only [List.getElem?_map, atValue, Option.map_some'] at atType
  exact ⟨atType.symm, by rw [atSpec, Option.map_some', typedMeta]⟩

/-- Every row a built result exposes is the values of some frame row `k` paired with the result's
    metadata: decoded by `CassRawRow` for the first row, by the iterator's row decoder for a row
    the iterator stands on. -/
theorem exposed_row_decoded {getColumnType : ColumnType → CassDataType} {rowDecoder : RowDecoder}
    {rawRows : DeserializedMetadataAndRawRows} {tracingId : Option Nat}
    {pagingStateResponse : PagingStateResponse} {maybeResultMetadata : Option CassResultMetadata}
    {result : CassResult}
    (built : CassResult.fromResultPayload getColumnType (.rows rawRows tracingId)
      pagingStateResponse maybeResultMetadata = .ok result) {row : CassRow}
    (exposed : cassResultFirstRow result = some row ∨ ∃ k, cassIteratorGetRow
      (afterCalls cassIteratorNext k (cassIteratorFromResult rowDecoder result : CassIterator V)) =
        some row) :
    ∃ (k : Nat) (cells : List (Option Bytes)) (values : List CassRawValue),
      rawRows.rawRows[k]? = some (.ok cells) ∧
      (rawRowDecoder rawRows.colSpecs cells = .ok values ∨
        rowDecoder rawRows.colSpecs cells = .ok values) ∧
      row = CassRow.fromRowAndMetadata values (maybeResultMetadata.getD
        (CassResultMetadata.fromColumnSpecs getColumnType rawRows.colSpecs)) := by
  have shape := fromResultPayload_ok built
  subst shape
  rcases exposed with first | ⟨_ | k, current⟩
  · simp only [cassResultFirstRow, List.head?_eq_getElem?, keepDecoded_eq_some_iff] at first
    obtain ⟨decodedRow, item, rfl⟩ := first
    obtain ⟨cells, atRow, decoded⟩ := (rowItems_getElem?_eq_ok_iff rawRows _ 0 decodedRow).mp item
    exact ⟨0, cells, _, atRow, .inl (by rw [rawRowDecoder, decoded]; rfl), rfl⟩
  · cases current
  · simp only [getRow_afterCalls_fromResult, resultExposedRows, List.getElem?_map,
      ← keepDecoded_eq_bind_toOption, keepDecoded_eq_some_iff] at current
    obtain ⟨values, item, rfl⟩ := current
    obtain ⟨cells, atRow, decoded⟩ := (rowItems_getElem?_eq_ok_iff rawRows _ k values).mp item
    exact ⟨k, cells, values, atRow, .inr decoded, rfl⟩

/-- When the metadata types each frame column by `get_column_type`, a row of the frame has one
    value per metadata column and each value's type is `get_column_type` of its frame type. -/
theorem RowOfFrame.consistent {colSpecs : List ColumnSpec} {metadata : CassResultMetadata}
    {row : CassRow} (frame : RowOfFrame colSpecs metadata row) (getColumnType : ColumnType → CassDataType)
    (types : metadata.colSpecs.map (·.dataType) = colSpecs.map (getColumnType ·.typ)) :
    row.columns.length = metadata.colSpecs.length ∧
    ∀ column ∈ row.columns, column.valueType = getColumnType column.value.typ := by
  have sameLength : metadata.colSpecs.length = colSpecs.length := by
    simpa using congrArg List.length types
  refine ⟨by rw [frame.length_eq, sameLength, Nat.min_self], fun column member => ?_⟩
  obtain ⟨i, found⟩ := List.mem_iff_getElem?.mp member
  obtain ⟨frameType, metadataType⟩ := frame.column i column found
  have typed := congrArg (·[i]?) types
  simp only [List.getElem?_map, metadataType] at typed
  cases spec : colSpecs[i]? with
  | none => simp [spec] at frameType
  | some spec =>
    simp only [spec, Option.map_some', Option.some.injEq] at frameType typed
    rw [← frameType]
    exact typed

def intRow : DeserializedMetadataAndRawRows :=
  ⟨[⟨"a", .native .int⟩], [.ok [some [0, 0, 0, 7]]], by
    intro row mem cells framed
    simp only [List.mem_singleton] at mem
    subst mem
    cases framed
    rfl⟩

/-- Every row a result built from a rows frame exposes, its first row or one its iterator stands
    on when the iterator's row decoder keeps the column types, pairs the frame's values with the
    result's metadata column by column: it has as many columns as the shorter of the two, each
    value decoded with the frame's column type and typed with the metadata's data type. When no
    cached metadata is given, or the cached metadata types each frame column by
    `get_column_type`, every such row has `cass_result_column_count` columns and each value's
    type is `get_column_type` of the type it was decoded with. -/
theorem exposed_rows_pair_frame_and_metadata (getColumnType : ColumnType → CassDataType)
    (rowDecoder : RowDecoder) (keepsTypes : KeepsColumnTypes rowDecoder)
    (rawRows : DeserializedMetadataAndRawRows) (tracingId : Option Nat)
    (pagingStateResponse : PagingStateResponse) (maybeResultMetadata : Option CassResultMetadata) :
    let metadata := maybeResultMetadata.getD
      (CassResultMetadata.fromColumnSpecs getColumnType rawRows.colSpecs)
    ∀ result, CassResult.fromResultPayload getColumnType (.rows rawRows tracingId)
        pagingStateResponse maybeResultMetadata = .ok result →
      cassResultColumnCount result = metadata.colSpecs.length ∧
      ∀ row, (cassResultFirstRow result = some row ∨ ∃ k, cassIteratorGetRow
          (afterCalls cassIteratorNext k (cassIteratorFromResult rowDecoder result : CassIterator V)) =
            some row) →
        RowOfFrame rawRows.colSpecs metadata row ∧
        ((∀ cached, maybeResultMetadata = some cached →
            cached.colSpecs.map (·.dataType) = rawRows.colSpecs.map (getColumnType ·.typ)) →
          row.columns.length = cassResultColumnCount result ∧
          ∀ column ∈ row.columns, column.valueType = getColumnType column.value.typ) := by
  intro metadata result built
  have count : cassResultColumnCount result = metadata.colSpecs.length := by
    rw [fromResultPayload_ok built]
    rfl
  refine ⟨count, fun row exposed => ?_⟩
  obtain ⟨k, cells, values, atRow, decoded, rfl⟩ := exposed_row_decoded built exposed
  have framed : cells.length = rawRows.colSpecs.length :=
    rawRows.framed _ (List.getElem?_mem atRow) cells rfl
  have frame : RowOfFrame rawRows.colSpecs metadata (CassRow.fromRowAndMetadata values metadata) :=
    rowOfFrame_of_typed metadata (decoded.elim (rawRowDecoder_keepsColumnTypes _ _ _ framed)
      (keepsTypes _ _ _ framed))
  refine ⟨frame, fun cachedTypes => ?_⟩
  rw [count]
  refine frame.consistent getColumnType ?_
  cases maybeResultMetadata with
  | none => simp [metadata, CassResultMetadata.fromColumnSpecs]
  | some cached => exact cachedTypes cached rfl

theorem int_row_result_column_count :
    KeepsColumnTypes rawRowDecoder ∧ ∃ result, CassResult.fromResultPayload
      (fun _ => .value .int) (.rows intRow none) .noMorePages none = .ok result ∧
        cassResultColumnCount result = 1 := by
  obtain ⟨result, built⟩ : ∃ result, CassResult.fromResultPayload (fun _ => .value .int)
      (.rows intRow none) .noMorePages none = .ok result := ⟨_, rfl⟩
  exact ⟨rawRowDecoder_keepsColumnTypes, result, built,
    (exposed_rows_pair_frame_and_metadata (V := Empty) _ rawRowDecoder rawRowDecoder_keepsColumnTypes
      _ _ _ _ result built).1⟩

/-- Cached metadata of a prepared statement that describes two `text` columns. -/
def twoTextColumns : CassResultMetadata := ⟨[⟨"a", .value .text⟩, ⟨"b", .value .text⟩]⟩

/-- With cached metadata that does not describe the frame, the first row has one column for a
    column count of two, and its `int` value is typed `text`. -/
theorem cached_metadata_misdescribes_row :
    ∃ result, CassResult.fromResultPayload (fun _ => .value .int) (.rows intRow none) .noMorePages
        (some twoTextColumns) = .ok result ∧
      cassResultColumnCount result = 2 ∧
      (cassResultFirstRow result).map (·.columns.length) = some 1 ∧
      ((cassResultFirstRow result).bind (·.columns.head?)).map (·.valueType.getValueType) =
        some .text :=
  ⟨_, rfl, rfl, rfl, rfl⟩

/-- Whatever metadata a result is built with and whatever its iterator's row decoder, every row
    it exposes types its values as the result's columns: the `i`-th value's data type is
    `cass_result_column_data_type(result, i)`, its `cass_value_type` is
    `cass_result_column_type(result, i)`, and the row has at most
    `cass_result_column_count(result)` columns. -/
theorem exposed_values_typed_as_result_columns (getColumnType : ColumnType → CassDataType)
    (rowDecoder : RowDecoder) (rawRows : DeserializedMetadataAndRawRows) (tracingId : Option Nat)
    (pagingStateResponse : PagingStateResponse) (maybeResultMetadata : Option CassResultMetadata)
    (result : CassResult)
    (built : CassResult.fromResultPayload getColumnType (.rows rawRows tracingId)
      pagingStateResponse maybeResultMetadata = .ok result) (row : CassRow)
    (exposed : cassResultFirstRow result = some row ∨ ∃ k, cassIteratorGetRow
      (afterCalls cassIteratorNext k (cassIteratorFromResult rowDecoder result : CassIterator V)) =
        some row) :
    row.columns.length ≤ cassResultColumnCount result ∧
    ∀ i column, cassRowGetColumn row i = some column →
      cassResultColumnDataType result i = some column.valueType ∧
      cassResultColumnType result i = ValueGetters.cassValueType column := by
  obtain ⟨-, -, values, -, -, rfl⟩ := exposed_row_decoded built exposed
  rw [fromResultPayload_ok built]
  refine ⟨by rw [fromRowAndMetadata_length]; exact Nat.min_le_right _ _, fun i column found => ?_⟩
  obtain ⟨colSpec, -, atSpec, typed⟩ :=
    (cassRowGetColumn_fromRowAndMetadata _ _ i column).mp found
  have dataType : (maybeResultMetadata.getD (CassResultMetadata.fromColumnSpecs getColumnType
      rawRows.colSpecs)).colSpecs[i]?.map (·.dataType) = some column.valueType := by
    rw [atSpec, Option.map_some', typed]
  exact ⟨dataType, by simp only [cassResultColumnType, cassResultColumnDataType, dataType]; rfl⟩

theorem cached_text_column_typed_as_value :
    ∃ result row column, CassResult.fromResultPayload (fun _ => .value .int) (.rows intRow none)
        .noMorePages (some twoTextColumns) = .ok result ∧ cassResultFirstRow result = some row ∧
      cassRowGetColumn row 0 = some column ∧
      cassResultColumnType result 0 = ValueGetters.cassValueType column :=
  ⟨_, _, _, rfl, rfl, rfl, ((exposed_values_typed_as_result_columns (V := Empty)
    (fun _ => .value .int) rawRowDecoder intRow none .noMorePages (some twoTextColumns) _ rfl _
      (.inl rfl)).2 0 _ rfl).2⟩

/-- A column's name as `cass_result_column_name` reports it, passed in double quotes to
    `cass_row_get_column_by_name_n` on any row the result exposes, finds that column: the lookup
    is `cass_row_get_column(row, i)` when no other column of the result has that name and
    `ptr_to_cstr_n` reads the name's bytes as the quoted name. -/
theorem quoted_result_column_name_finds_column (getColumnType : ColumnType → CassDataType)
    (rowDecoder : RowDecoder) (ptrToCstrN : PtrToCstrN) (rawRows : DeserializedMetadataAndRawRows)
    (tracingId : Option Nat) (pagingStateResponse : PagingStateResponse)
    (maybeResultMetadata : Option CassResultMetadata) (result : CassResult)
    (built : CassResult.fromResultPayload getColumnType (.rows rawRows tracingId)
      pagingStateResponse maybeResultMetadata = .ok result) (row : CassRow)
    (exposed : cassResultFirstRow result = some row ∨ ∃ k, cassIteratorGetRow
      (afterCalls cassIteratorNext k (cassIteratorFromResult rowDecoder result : CassIterator V)) =
        some row)
    (i : Nat) (name : String) (named : cassResultColumnName result i = (.ok, some name))
    (unique : ∀ j, cassResultColumnName result j = (.ok, some name) → j = i) (quotedName : Bytes)
    (converted : ptrToCstrN quotedName = some ("\x22" ++ name ++ "\x22")) :
    ColumnByName.cassRowGetColumnByNameN ptrToCstrN row quotedName =
      .ok (cassRowGetColumn row i) := by
  obtain ⟨-, -, values, -, -, rfl⟩ := exposed_row_decoded built exposed
  simp only [fromResultPayload_ok built, cassResultColumnName] at named unique
  rw [ColumnByName.cassRowGetColumnByNameN_of_converted _ converted]
  cases reported : (maybeResultMetadata.getD (CassResultMetadata.fromColumnSpecs getColumnType
      rawRows.colSpecs)).colSpecs[i]? with
  | none => simp [reported] at named
  | some colSpec =>
    obtain rfl : colSpec.name = name := by simpa [reported] using named
    refine ColumnByName.lookupColumnByName_quoted reported fun j other found same => unique j ?_
    dsimp only [CassRow.fromRowAndMetadata] at found
    simp [found, same]

theorem int_row_quoted_name_lookup :
    ∃ result row, CassResult.fromResultPayload (fun _ => .value .int) (.rows intRow none)
        .noMorePages none = .ok result ∧ cassResultFirstRow result = some row ∧
      cassResultColumnName result 0 = (.ok, some "a") ∧
      (∀ j, cassResultColumnName result j = (.ok, some "a") → j = 0) ∧
      asciiCstr [34, 97, 34] = some ("\x22" ++ "a" ++ "\x22") ∧
      ColumnByName.cassRowGetColumnByNameN asciiCstr row [34, 97, 34] =
        .ok (cassRowGetColumn row 0) := by
  refine ⟨_, _, rfl, rfl, rfl, fun j reported => ?_, by decide,
    quoted_result_column_name_finds_column (V := Empty) (fun _ => .value .int) rawRowDecoder
      asciiCstr intRow none .noMorePages none _ rfl _ (.inl rfl) 0 "a" rfl
      (fun j reported => ?_) [34, 97, 34] (by decide)⟩
  all_goals
    cases j with
    | zero => rfl
    | succ j => simp [cassResultColumnName, CassResultMetadata.fromColumnSpecs, intRow] at reported

/-- Whatever the payload, a built result keeps the server's paging state response: it has more
    pages iff the response is not the last page's, and its paging state token is
    `CASS_ERROR_LIB_NO_PAGING_STATE` on the last page and otherwise the state's bytes, nothing
    when the state carries none. -/
theorem paging_state_token_follows_response (getColumnType : ColumnType → CassDataType)
    (payload : QueryResult) (pagingStateResponse : PagingStateResponse)
    (maybeResultMetadata : Option CassResultMetadata) (result : CassResult)
    (built : CassResult.fromResultPayload getColumnType payload pagingStateResponse
      maybeResultMetadata = .ok result) :
    cassResultHasMorePages result = !pagingStateResponse.finished ∧
    cassResultPagingStateToken result = match pagingStateResponse with
      | .hasMorePages state => (.ok, state)
      | .noMorePages => (.libNoPagingState, none) := by
  have kept := fromResultPayload_pagingStateResponse built
  simp only [cassResultHasMorePages, cassResultPagingStateToken, kept, true_and]
  cases pagingStateResponse with
  | hasMorePages state => cases state <;> rfl
  | noMorePages => rfl

/-- A result fails to build exactly when the payload's metadata fails to deserialize, with that
    message, or when the frame's first row fails: with the row's framing error, or with the error
    of the first column of that row whose cell fails to decode. That error names the column's
    position and its name in the frame's column specs, never the cached metadata's, and the
    fault of the collection length prefix that failed. The cached metadata, the paging state and
    the later rows play no part. -/
theorem result_build_error_names_first_bad_column (getColumnType : ColumnType → CassDataType)
    (payload : QueryResult) (pagingStateResponse : PagingStateResponse)
    (maybeResultMetadata : Option CassResultMetadata) (e : CassErrorResult) :
    CassResult.fromResultPayload getColumnType payload pagingStateResponse maybeResultMetadata =
        .error e ↔
      (∃ message, payload = .lazyMetadataError message ∧ e = .metadataDeserialization message) ∨
      ∃ rawRows tracingId first rest, payload = .rows rawRows tracingId ∧
        rawRows.rawRows = first :: rest ∧
        ((∃ framing, first = .error framing ∧ e = .deserialization framing) ∨
          ∃ cells before column after frozen c s lengthError, first = .ok cells ∧
            rawRows.colSpecs.zip cells = before ++ column :: after ∧
            (∀ cell ∈ before, ∃ raw, CassRawValue.deserialize cell.1.typ cell.2 = .ok raw) ∧
            column.1.typ = .collection frozen c ∧ column.2 = some s ∧
            collectionLength s = .error lengthError ∧
            e = .deserialization (.columnDeserializationFailed before.length column.1.name
              (.collectionLength lengthError))) := by
  cases payload with
  | notRows tracingId =>
    constructor
    · intro failed
      cases failed
    · rintro (⟨_, ⟨⟩, -⟩ | ⟨_, _, _, _, ⟨⟩, -⟩)
  | lazyMetadataError message =>
    constructor
    · intro failed
      exact .inl ⟨message, rfl, (Except.error.inj failed).symm⟩
    · rintro (⟨_, ⟨⟩, rfl⟩ | ⟨_, _, _, _, ⟨⟩, -⟩)
      rfl
  | rows rawRows tracingId =>
    rw [fromResultPayload_rows_eq_error_iff]
    constructor
    · rintro ⟨err, firstFails, rfl⟩
      obtain ⟨first, rest, split, failed⟩ := (rowItems_head?_eq_error_iff rawRows err).mp firstFails
      refine .inr ⟨rawRows, tracingId, first, rest, rfl, split, ?_⟩
      rcases failed with rfl | ⟨cells, rfl, cellsFail⟩
      · exact .inl ⟨err, rfl, rfl⟩
      · obtain ⟨before, column, after, frozen, c, s, lengthError, zipped, prefixOk, typed, present,
          short, rfl⟩ := (CassRawRow.deserialize_columnIterator_eq_error_iff _ _).mp cellsFail
        exact .inr ⟨cells, before, column, after, frozen, c, s, lengthError, rfl, zipped, prefixOk,
          typed, present, short, rfl⟩
    · rintro (⟨message, ⟨⟩, -⟩ | ⟨_, _, first, rest, ⟨⟩, split, failed⟩)
      rcases failed with ⟨framing, rfl, rfl⟩ | ⟨cells, before, column, after, frozen, c, s,
        lengthError, rfl, zipped, prefixOk, typed, present, short, rfl⟩
      · exact ⟨framing, (rowItems_head?_eq_error_iff _ _).mpr ⟨_, rest, split, .inl rfl⟩, rfl⟩
      · refine ⟨_, (rowItems_head?_eq_error_iff _ _).mpr ⟨_, rest, split, .inr ⟨cells, rfl, ?_⟩⟩, rfl⟩
        exact (CassRawRow.deserialize_columnIterator_eq_error_iff _ _).mpr ⟨before, column, after,
          frozen, c, s, lengthError, zipped, prefixOk, typed, present, short, rfl⟩

/-- One row of one `list<int>` cell whose two bytes are too few for the length prefix. -/
def shortListRow : DeserializedMetadataAndRawRows :=
  ⟨[⟨"l", .collection false (.list (.native .int))⟩], [.ok [some [0, 0]]], by
    intro row mem cells framed
    simp only [List.mem_singleton] at mem
    subst mem
    cases framed
    rfl⟩

example : CassResult.fromResultPayload (fun _ => .value .int) (.rows shortListRow none)
    .noMorePages none = .error (.deserialization
      (.columnDeserializationFailed 0 "l" (.collectionLength (.tooFewBytes 2)))) := rfl

end ResultRows
