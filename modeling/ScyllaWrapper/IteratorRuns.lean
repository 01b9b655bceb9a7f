import ScyllaWrapper.IteratorEngine

/-!
Runs of the iterator handle. A positional cursor walks a source: call `k + 1` succeeds iff `k`
is below the source's length, and its accessor then reads element `k`. Each constructor fixes a
count that is the length of the source the accessor later indexes, and no call changes the count
or the source. The result cursor instead takes one row of its stream per call and succeeds iff
that row decodes, and it keeps no record of a failed row.
-/
namespace IteratorRuns
open CassTypes RawValueDecoder RawRowDecoder ResultContainer StreamCursors SchemaMetadata
  LegacyValues Cursors IteratorEngine

variable {V : Type}

/-! ### What each cursor walks -/

/-- The elements `cass_iterator_get_value` reads by position: the items of a list, set or tuple,
    and a map flattened to key_0, value_0, key_1, value_1, .... -/
def collectionElements : Option (Value V) → List (Option V)
  | some (.collectionValue (.list list)) => list.map some
  | some (.collectionValue (.set set)) => set.map some
  | some (.collectionValue (.tuple tuple)) => tuple
  | some (.collectionValue (.map map)) => (flattenEntries map).map some
  | _ => []

def mapValues {K W : Type} (map : HashMap K W) : List (Option W) := map.entries.map (some ·.2)

theorem join_getElem?_map_some {α β : Type} (l : List α) (f : α → β) (p : Nat) :
    (l.map fun a => some (f a))[p]?.join = l[p]?.map f := by
  rw [List.getElem?_map]
  cases l[p]? <;> rfl

theorem join_getElem?_map_some_self {α : Type} (l : List α) (p : Nat) :
    (l.map some)[p]?.join = l[p]? :=
  (join_getElem?_map_some l id p).trans Option.map_id'

theorem join_getElem?_map {α β : Type} (l : List α) (f : α → Option β) (p : Nat) :
    (l.map f)[p]?.join = l[p]?.bind f := by
  rw [List.getElem?_map]
  cases l[p]? <;> rfl

theorem collectionValueAt_eq (value : LegacyCassValue V) (p : Nat) :
    collectionValueAt value p = (collectionElements value.value)[p]?.join := by
  obtain ⟨value, _, _⟩ := value
  rcases value with _ | _ | (list | map | set | ⟨keyspace, typeName, fields⟩ | tuple)
  · rfl
  · rfl
  · exact (join_getElem?_map_some_self list p).symm
  · simp only [collectionValueAt, collectionElements]
    rw [join_getElem?_map_some_self, flattenEntries_getElem?]
  · exact (join_getElem?_map_some_self set p).symm
  · rfl
  · rfl

theorem entryAtPosition_some {K W : Type} (map : HashMap K W) (p : Nat) :
    entryAtPosition map (some p) = (mapValues map)[p]?.join :=
  (join_getElem?_map_some map.entries Prod.snd p).symm

/-! ### Walking a source -/

/-- `iterator` walks `source` through the accessor `current`: call `k + 1` succeeds iff
    `k < source.length`, and `current` then reads `source[k]`; before the first call and after a
    failed call every accessor is null. -/
structure WalksInOrder {α : Type} (iterator : CassIterator V) (current : CassIterator V → Option α)
    (source : List (Option α)) : Prop where
  fresh : accessorsNull iterator = true
  calls : ∀ k, callResult cassIteratorNext iterator k = decide (k < source.length)
  element : ∀ k (h : k < source.length),
    current (afterCalls cassIteratorNext (k + 1) iterator) = source[k]
  exhausted : ∀ k, source.length ≤ k →
    accessorsNull (afterCalls cassIteratorNext (k + 1) iterator) = true

section Walk
variable {α : Type} {mk : Option Nat → CassIterator V} {current : CassIterator V → Option α}
  {source : List (Option α)}

/-- A positional family walks its source when its accessor reads the source at each position
    and every accessor is null off the source. -/
theorem WalksInOrder.of_positional {count : Nat} (positional : PositionalStep mk cassIteratorNext count)
    (counted : source.length = count) (reads : ∀ p, current (mk (some p)) = source[p]?.join)
    (nullOff : ∀ position, position.bind (source[·]?) = none → accessorsNull (mk position) = true) :
    WalksInOrder (mk none) current source where
  fresh := nullOff none rfl
  calls := counted ▸ positional.callResult
  element k h := by
    rw [positional.afterCalls, positionAfter, reads, List.getElem?_eq_getElem h]
    rfl
  exhausted k past := by
    rw [positional.afterCalls]
    exact nullOff _ (List.getElem?_eq_none past)

/-- A full run yields the source, each element once and in order. -/
theorem WalksInOrder.run_yields_source {iterator : CassIterator V}
    (walk : WalksInOrder iterator current source) :
    (List.range source.length).map (fun k => current (afterCalls cassIteratorNext (k + 1) iterator)) =
      source :=
  List.ext_getElem (by simp) fun k inRange _ => by
    simp only [List.getElem_map, List.getElem_range]
    exact walk.element k (by simpa using inRange)

end Walk

/-! ### A handle keeps its type -/

theorem cassIteratorType_next (iterator : CassIterator V) :
    cassIteratorType (cassIteratorNext iterator).1 = cassIteratorType iterator := by
  rcases iterator with _ | _ | _ | _ | _ | _ | _ | _ | _ | (_ | _) | (_ | _) <;> rfl

def AccessorsTyped (iterator : CassIterator V) : Prop :=
  ((cassIteratorGetRow iterator).isSome → cassIteratorType iterator = .result) ∧
  ((cassIteratorGetColumn iterator).isSome → cassIteratorType iterator = .row) ∧
  ((cassIteratorGetValue iterator).isSome →
    cassIteratorType iterator = .collection ∨ cassIteratorType iterator = .tuple) ∧
  ((cassIteratorGetMapKey iterator).isSome ∨ (cassIteratorGetMapValue iterator).isSome →
    cassIteratorType iterator = .map) ∧
  ((cassIteratorGetUserTypeFieldName iterator).1 = .ok ∨
      (cassIteratorGetUserTypeFieldValue iterator).isSome →
    cassIteratorType iterator = .userTypeField) ∧
  ((cassIteratorGetKeyspaceMeta iterator).isSome → cassIteratorType iterator = .keyspaceMeta) ∧
  ((cassIteratorGetTableMeta iterator).isSome → cassIteratorType iterator = .tableMeta) ∧
  ((cassIteratorGetUserType iterator).isSome → cassIteratorType iterator = .typeMeta) ∧
  ((cassIteratorGetMaterializedViewMeta iterator).isSome →
    cassIteratorType iterator = .materializedViewMeta) ∧
  ((cassIteratorGetColumnMeta iterator).isSome → cassIteratorType iterator = .columnMeta)

theorem accessorsTyped (iterator : CassIterator V) : AccessorsTyped iterator := by
  rcases iterator with _ | _ | _ | _ | _ | _ | _ | _ | _ | (_ | _) | (_ | _) <;>
    simp [AccessorsTyped, cassIteratorType]

/-- Along every run of `cass_iterator_next` calls a handle keeps the `cass_iterator_type` it was
    built with, and at every point of the run each current-element accessor returns non-null
    only on a handle of its own type. -/
theorem iterator_type_fixed_along_runs (iterator : CassIterator V) (k : Nat) :
    cassIteratorType (afterCalls cassIteratorNext k iterator) = cassIteratorType iterator ∧
    AccessorsTyped (afterCalls cassIteratorNext k iterator) := by
  refine ⟨?_, accessorsTyped _⟩
  induction k with
  | zero => rfl
  | succ k ih => rw [afterCalls_succ, cassIteratorType_next, ih]

/-! ### Each constructor's walk -/

theorem walks_fromRow (row : CassRow) :
    WalksInOrder (cassIteratorFromRow row : CassIterator V) cassIteratorGetColumn
      (row.columns.map some) :=
  .of_positional (show PositionalStep (fun position => .row ⟨row, position⟩) cassIteratorNext
      row.columns.length from fun _ => rfl) (List.length_map _ _)
    (fun p => (join_getElem?_map_some_self _ p).symm)
    (by
      rintro (_ | p) off
      · rfl
      · simp only [Option.some_bind, List.getElem?_map, Option.map_eq_none',
          List.getElem?_eq_none_iff] at off
        simp [accessorsNull, off])

theorem fromCollection_eq (value : LegacyCassValue V) (collection : cassValueIsCollection value = true) :
    cassIteratorFromCollection value =
      some (.collection ⟨value, (collectionElements value.value).length, none⟩) := by
  simp only [cassIteratorFromCollection, collection, Bool.not_true, Bool.false_eq_true, if_false,
    Option.some.injEq, CassIterator.collection.injEq, PositionalIterator.mk.injEq, and_true,
    true_and]
  obtain ⟨v, valueType, shaped⟩ := value
  simp only [cassValueIsCollection, LegacyValues.cassValueType,
    LegacyValues.cassValueItemCount] at collection ⊢
  generalize valueType.getValueType = tag at collection shaped ⊢
  rcases v with _ | _ | (list | map | set | ⟨keyspace, typeName, fields⟩ | tuple)
  · split <;> rfl
  · split <;> rfl
  · obtain rfl := shaped _ rfl
    simp [collectionElements, Collection.valueType]
  · obtain rfl := shaped _ rfl
    simp [collectionElements, Collection.valueType, flattenEntries_length, Nat.mul_comm]
  · obtain rfl := shaped _ rfl
    simp [collectionElements, Collection.valueType]
  · obtain rfl := shaped _ rfl
    cases collection
  · obtain rfl := shaped _ rfl
    cases collection

theorem walks_elements (value : LegacyCassValue V)
    (wrap : LegacyCassCollectionIterator V → CassIterator V)
    (variant : wrap = .collection ∨ wrap = .tuple) :
    WalksInOrder (wrap ⟨value, (collectionElements value.value).length, none⟩)
      cassIteratorGetValue (collectionElements value.value) := by
  refine .of_positional (show PositionalStep
      (fun position => wrap ⟨value, (collectionElements value.value).length, position⟩)
      cassIteratorNext _ by rcases variant with rfl | rfl <;> exact fun _ => rfl) rfl
    (fun p => ?_) ?_
  · rcases variant with rfl | rfl <;> exact collectionValueAt_eq value p
  · rintro (_ | p) off
    · rcases variant with rfl | rfl <;> rfl
    · rw [Option.some_bind] at off
      rcases variant with rfl | rfl <;> simp [accessorsNull, collectionValueAt_eq, off]

theorem fromCollection_walks {value : LegacyCassValue V} {iterator : CassIterator V}
    (made : cassIteratorFromCollection value = some iterator) :
    WalksInOrder iterator cassIteratorGetValue (collectionElements value.value) := by
  cases collection : cassValueIsCollection value
  · simp [cassIteratorFromCollection, collection] at made
  · rw [fromCollection_eq value collection, Option.some.injEq] at made
    exact made ▸ walks_elements value _ (.inl rfl)

theorem fromTuple_eq {value : LegacyCassValue V} {items : List (Option V)}
    (tuple : value.value = some (.collectionValue (.tuple items))) :
    cassIteratorFromTuple value = some (.tuple ⟨value, items.length, none⟩) := by
  simp [cassIteratorFromTuple, tuple]

theorem walks_map {value : LegacyCassValue V} {entries : List (V × V)}
    (map : value.value = some (.collectionValue (.map entries))) :
    WalksInOrder (.map ⟨value, entries.length, none⟩ : CassIterator V) cassIteratorGetMapKey
      (entries.map (some ·.1)) ∧
    WalksInOrder (.map ⟨value, entries.length, none⟩ : CassIterator V) cassIteratorGetMapValue
      (entries.map (some ·.2)) := by
  have positional : PositionalStep (fun position => .map ⟨value, entries.length, position⟩)
      cassIteratorNext entries.length := fun _ => rfl
  have entry : ∀ p, mapEntryAt value p = entries[p]? := fun p => by simp [mapEntryAt, map]
  have nullOff : ∀ {f : V × V → V} position,
      position.bind ((entries.map (some <| f ·))[·]?) = none →
      accessorsNull (.map ⟨value, entries.length, position⟩ : CassIterator V) = true := by
    rintro f (_ | p) off
    · rfl
    · simp only [Option.some_bind, List.getElem?_map, Option.map_eq_none'] at off
      simp [accessorsNull, entry, off]
  exact ⟨.of_positional positional (List.length_map _ _)
      (fun p => by
        show (mapEntryAt value p).map Prod.fst = _
        rw [entry, join_getElem?_map_some]) nullOff,
    .of_positional positional (List.length_map _ _)
      (fun p => by
        show (mapEntryAt value p).map Prod.snd = _
        rw [entry, join_getElem?_map_some]) nullOff⟩

theorem walks_udt {value : LegacyCassValue V} {keyspace typeName : String}
    {fields : List (String × Option V)}
    (udt : value.value = some (.collectionValue (.userDefinedType keyspace typeName fields))) :
    WalksInOrder (.udt ⟨value, fields.length, none⟩ : CassIterator V)
      (fun iterator => (cassIteratorGetUserTypeFieldName iterator).2) (fields.map (some ·.1)) ∧
    WalksInOrder (.udt ⟨value, fields.length, none⟩ : CassIterator V)
      cassIteratorGetUserTypeFieldValue (fields.map (·.2)) := by
  have positional : PositionalStep (fun position => .udt ⟨value, fields.length, position⟩)
      cassIteratorNext fields.length := fun _ => rfl
  have entry : ∀ p, udtEntryAt value p = fields[p]? := fun p => by simp [udtEntryAt, udt]
  have nullOff : ∀ {β : Type} {f : String × Option V → Option β} position,
      position.bind ((fields.map f)[·]?) = none →
      accessorsNull (.udt ⟨value, fields.length, position⟩ : CassIterator V) = true := by
    rintro β f (_ | p) off
    · rfl
    · simp only [Option.some_bind, List.getElem?_map, Option.map_eq_none'] at off
      simp [accessorsNull, entry, off]
  refine ⟨.of_positional positional (List.length_map _ _) (fun p => ?_) nullOff,
    .of_positional positional (List.length_map _ _)
      (fun p => by
        show (udtEntryAt value p).bind Prod.snd = _
        rw [entry, join_getElem?_map]) nullOff⟩
  simp only [cassIteratorGetUserTypeFieldName, Option.some_bind, entry, join_getElem?_map_some]
  cases fields[p]? <;> rfl

theorem walks_hashMap {K W : Type} (map : HashMap K W) {mk : Option Nat → CassIterator V}
    {current : CassIterator V → Option W} (positional : PositionalStep mk cassIteratorNext map.len)
    (reads : ∀ position, current (mk position) = entryAtPosition map position)
    (onlyCurrent : ∀ position, current (mk position) = none → accessorsNull (mk position) = true) :
    WalksInOrder (mk none) current (mapValues map) :=
  .of_positional positional (List.length_map _ _)
    (fun p => (reads _).trans (entryAtPosition_some map p))
    (fun position off => onlyCurrent position (by
      rw [reads]
      cases position with
      | none => rfl
      | some p =>
        rw [Option.some_bind] at off
        rw [entryAtPosition_some, off]
        rfl))

theorem walks_keyspaces (metadata : CassSchemaMeta) :
    WalksInOrder (cassIteratorKeyspacesFromSchemaMeta metadata : CassIterator V)
      cassIteratorGetKeyspaceMeta (mapValues metadata.keyspaces) :=
  walks_hashMap _ (show PositionalStep (fun position => .keyspacesMeta
      ⟨metadata, metadata.keyspaces.len, position⟩) cassIteratorNext _ from fun _ => rfl)
    (fun _ => rfl) (fun _ off => by simp_all [accessorsNull])

theorem walks_tables (metadata : CassKeyspaceMeta) :
    WalksInOrder (cassIteratorTablesFromKeyspaceMeta metadata : CassIterator V)
      cassIteratorGetTableMeta (mapValues metadata.tables) :=
  walks_hashMap _ (show PositionalStep (fun position => .tablesMeta
      ⟨metadata, metadata.tables.len, position⟩) cassIteratorNext _ from fun _ => rfl)
    (fun _ => rfl) (fun _ off => by simp_all [accessorsNull])

theorem walks_keyspaceViews (metadata : CassKeyspaceMeta) :
    WalksInOrder (cassIteratorMaterializedViewsFromKeyspaceMeta metadata : CassIterator V)
      cassIteratorGetMaterializedViewMeta (mapValues metadata.views) :=
  walks_hashMap _ (show PositionalStep (fun position => .materializedViewsMeta (.fromKeyspace
      ⟨metadata, metadata.views.len, position⟩)) cassIteratorNext _ from fun _ => rfl)
    (fun _ => rfl) (fun _ off => by simp_all [accessorsNull])

theorem walks_userTypes (metadata : CassKeyspaceMeta) :
    WalksInOrder (cassIteratorUserTypesFromKeyspaceMeta metadata : CassIterator V)
      cassIteratorGetUserType (mapValues metadata.userDefinedTypeDataType) :=
  walks_hashMap _ (show PositionalStep (fun position => .userTypes
      ⟨metadata, metadata.userDefinedTypeDataType.len, position⟩) cassIteratorNext _ from
      fun _ => rfl)
    (fun _ => rfl) (fun _ off => by simp_all [accessorsNull])

theorem walks_tableColumns (metadata : CassTableMeta CassMaterializedViewMeta) :
    WalksInOrder (cassIteratorColumnsFromTableMeta metadata : CassIterator V)
      cassIteratorGetColumnMeta (mapValues metadata.columnsMetadata) :=
  walks_hashMap _ (show PositionalStep (fun position => .columnsMeta (.fromTable
      ⟨metadata, metadata.columnsMetadata.len, position⟩)) cassIteratorNext _ from fun _ => rfl)
    (fun _ => rfl) (fun _ off => by simp_all [accessorsNull])

theorem walks_tableViews (metadata : CassTableMeta CassMaterializedViewMeta) :
    WalksInOrder (cassIteratorMaterializedViewsFromTableMeta metadata : CassIterator V)
      cassIteratorGetMaterializedViewMeta (mapValues metadata.views) :=
  walks_hashMap _ (show PositionalStep (fun position => .materializedViewsMeta (.fromTable
      ⟨metadata, metadata.views.len, position⟩)) cassIteratorNext _ from fun _ => rfl)
    (fun _ => rfl) (fun _ off => by simp_all [accessorsNull])

theorem walks_viewColumns (metadata : CassMaterializedViewMeta) :
    WalksInOrder (cassIteratorColumnsFromMaterializedViewMeta metadata : CassIterator V)
      cassIteratorGetColumnMeta (mapValues metadata.viewMetadata.columnsMetadata) :=
  walks_hashMap _ (show PositionalStep (fun position => .columnsMeta (.fromView
      ⟨metadata, metadata.viewMetadata.columnsMetadata.len, position⟩)) cassIteratorNext _ from
      fun _ => rfl)
    (fun _ => rfl) (fun _ off => by simp_all [accessorsNull])

/-- Every positional cursor walks its source: the collection cursor the items of a list or set
    or a map flattened key by value, the tuple, map and UDT cursors their elements, entries and
    fields, the row cursor the row's columns, and the schema cursors the values of their maps in
    the maps' order. Call `k + 1` of `cass_iterator_next` returns true iff `k` is below the
    source's length, the matching accessor then returns element `k`, null only for a null
    element, and every accessor is null before the first call and after a call that returns
    false. -/
theorem positional_iterators_walk_sources :
    (∀ row : CassRow,
      WalksInOrder (cassIteratorFromRow row : CassIterator V) cassIteratorGetColumn
        (row.columns.map some)) ∧
    (∀ value : LegacyCassValue V,
      (cassIteratorFromCollection value).isSome = cassValueIsCollection value ∧
      ∀ iterator, cassIteratorFromCollection value = some iterator →
        WalksInOrder iterator cassIteratorGetValue (collectionElements value.value)) ∧
    (∀ (value : LegacyCassValue V) items, value.value = some (.collectionValue (.tuple items)) →
      ∃ iterator, cassIteratorFromTuple value = some iterator ∧
        WalksInOrder iterator cassIteratorGetValue items) ∧
    (∀ (value : LegacyCassValue V) entries, value.value = some (.collectionValue (.map entries)) →
      ∃ iterator, cassIteratorFromMap value = some iterator ∧
        WalksInOrder iterator cassIteratorGetMapKey (entries.map (some ·.1)) ∧
        WalksInOrder iterator cassIteratorGetMapValue (entries.map (some ·.2))) ∧
    (∀ (value : LegacyCassValue V) keyspace typeName fields,
      value.value = some (.collectionValue (.userDefinedType keyspace typeName fields)) →
      ∃ iterator, cassIteratorFieldsFromUserType value = some iterator ∧
        WalksInOrder iterator (fun iterator => (cassIteratorGetUserTypeFieldName iterator).2)
          (fields.map (some ·.1)) ∧
        WalksInOrder iterator cassIteratorGetUserTypeFieldValue (fields.map (·.2))) ∧
    (∀ metadata : CassSchemaMeta,
      WalksInOrder (cassIteratorKeyspacesFromSchemaMeta metadata : CassIterator V)
        cassIteratorGetKeyspaceMeta (mapValues metadata.keyspaces)) ∧
    (∀ metadata : CassKeyspaceMeta,
      WalksInOrder (cassIteratorTablesFromKeyspaceMeta metadata : CassIterator V)
        cassIteratorGetTableMeta (mapValues metadata.tables) ∧
      WalksInOrder (cassIteratorUserTypesFromKeyspaceMeta metadata : CassIterator V)
        cassIteratorGetUserType (mapValues metadata.userDefinedTypeDataType) ∧
      WalksInOrder (cassIteratorMaterializedViewsFromKeyspaceMeta metadata : CassIterator V)
        cassIteratorGetMaterializedViewMeta (mapValues metadata.views)) ∧
    (∀ metadata : CassTableMeta CassMaterializedViewMeta,
      WalksInOrder (cassIteratorColumnsFromTableMeta metadata : CassIterator V)
        cassIteratorGetColumnMeta (mapValues metadata.columnsMetadata) ∧
      WalksInOrder (cassIteratorMaterializedViewsFromTableMeta metadata : CassIterator V)
        cassIteratorGetMaterializedViewMeta (mapValues metadata.views)) ∧
    (∀ metadata : CassMaterializedViewMeta,
      WalksInOrder (cassIteratorColumnsFromMaterializedViewMeta metadata : CassIterator V)
        cassIteratorGetColumnMeta (mapValues metadata.viewMetadata.columnsMetadata)) := by
  refine ⟨walks_fromRow, fun value => ⟨?_, fun iterator made => fromCollection_walks made⟩,
    fun value items tuple => ⟨_, fromTuple_eq tuple, ?_⟩,
    fun value entries map => ⟨_, by simp [cassIteratorFromMap, map], walks_map map⟩,
    fun value keyspace typeName fields udt =>
      ⟨_, by simp [cassIteratorFieldsFromUserType, udt], walks_udt udt⟩,
    walks_keyspaces, fun metadata => ⟨walks_tables metadata, walks_userTypes metadata,
      walks_keyspaceViews metadata⟩,
    fun metadata => ⟨walks_tableColumns metadata, walks_tableViews metadata⟩, walks_viewColumns⟩
  · cases collection : cassValueIsCollection value
    · simp [cassIteratorFromCollection, collection]
    · simp [fromCollection_eq value collection]
  · have walk := walks_elements value _ (.inr rfl)
    rwa [tuple] at walk

/-! ### The result cursor reads a stream -/

/-- The rows a typed row iterator has still to yield, each decoded as it will be. -/
def rowItems {RowT : Type} (iterator : TypedRowIterator RowT) :
    List (Except DeserializationError RowT) :=
  iterator.remaining.map (·.bind (iterator.deserializeRow iterator.specs))

theorem result_forwards :
    Forwards (CassIterator.result : CassResultIterator → CassIterator V) CassResultIterator.next
      cassIteratorNext := fun _ => rfl

/-- The rows a result cursor has still to expose: each frame row decoded and paired with the
    cursor's metadata, or the error it fails with. -/
def pairedItems : CassResultIterator → List (Except DeserializationError CassRow)
  | .nonRows => []
  | .rows rowsResultIterator => (rowItems rowsResultIterator.iterator).map
    (Except.map fun row => CassRow.fromRowAndMetadata row rowsResultIterator.resultMetadata)

def resultExposedRows (rowDecoder : RowDecoder) (result : CassResult) :
    List (Except DeserializationError CassRow) :=
  match result.kind with
  | .nonRows => []
  | .rows rows => (rowItems (rows.sharedData.rawRows.rowsIter rowDecoder)).map
    (Except.map fun row => CassRow.fromRowAndMetadata row rows.sharedData.metadata)

theorem CassResultIterator.pairedStep : StreamStep pairedItems CassResultIterator.next := by
  rintro (_ | ⟨⟨decode, specs, _ | ⟨raw, rest⟩⟩, metadata, current⟩) <;>
    simp [CassResultIterator.next, TypedRowIterator.next, pairedItems, rowItems]

theorem CassResultIterator.pairedReads : StreamReads pairedItems CassResultIterator.next
    (fun s => cassIteratorGetRow (.result s : CassIterator V)) := by
  rintro (_ | ⟨⟨decode, specs, _ | ⟨raw, rest⟩⟩, metadata, current⟩) <;>
    simp [CassResultIterator.next, TypedRowIterator.next, pairedItems, rowItems,
      keepDecoded_eq_bind_toOption]

/-- After call `k + 1` the result cursor stands on exposed row `k`, or on no row when that row
    fails to decode or there is none. -/
theorem getRow_afterCalls_fromResult (rowDecoder : RowDecoder) (result : CassResult) (k : Nat) :
    cassIteratorGetRow (afterCalls cassIteratorNext (k + 1)
      (cassIteratorFromResult rowDecoder result : CassIterator V)) =
        (resultExposedRows rowDecoder result)[k]?.bind Except.toOption := by
  obtain ⟨resultIterator, made, items⟩ : ∃ resultIterator,
      (cassIteratorFromResult rowDecoder result : CassIterator V) = .result resultIterator ∧
      pairedItems resultIterator = resultExposedRows rowDecoder result :=
    ⟨_, rfl, by rcases result with ⟨_, _, _ | rows⟩ <;> rfl⟩
  rw [made, result_forwards.afterCalls, ← items]
  exact CassResultIterator.pairedReads.afterCalls CassResultIterator.pairedStep _ k

/-- A table whose regular column `b` was inserted before its partition key `a`. -/
def keyLastTable : Table :=
  ⟨⟨[("b", ⟨.native .int, .regular⟩), ("a", ⟨.native .int, .partitionKey⟩)], by decide⟩,
    ["a"], []⟩

/-- The column cursor and the view's column accessor follow the column map's own order, which
    here puts the regular column first, while the fixed order starts with the partition key. -/
theorem columns_iterator_breaks_key_order :
    let t : CassTableMeta CassMaterializedViewMeta :=
      createTableMetadata (fun _ => .value .int) "t" keyLastTable
    let v : CassMaterializedViewMeta :=
      ⟨"v", createTableMetadata (fun _ => .value .int) "v" keyLastTable, "t"⟩
    (cassIteratorGetColumnMeta (afterCalls cassIteratorNext 1
        (cassIteratorColumnsFromTableMeta t : CassIterator Empty))).map (·.name) = some "b" ∧
    (cassTableMetaColumn t 0).map (Option.map (·.name)) = .ok (some "a") ∧
    (cassMaterializedViewMetaColumn v 0).map (·.name) = some "b" ∧
    (columnOrder v.viewMetadata)[0]? = some "a" :=
  ⟨rfl, rfl, rfl, rfl⟩

/-- For every well-keyed driver table, the column cursor of its metadata and
    `cass_table_meta_column` agree at every index below the column count exactly when the
    column map iterates its names in the fixed order: partition keys, clustering keys, then the
    other columns by name. -/
theorem columns_iterator_agrees_iff_fixed_order (getColumnType : ColumnType → CassDataType)
    (tableName : String) (T : Table) (pkNodup : T.partitionKey.Nodup)
    (ckNodup : T.clusteringKey.Nodup) (disjoint : T.partitionKey.Disjoint T.clusteringKey)
    (pkKinds : ∀ name, name ∈ T.partitionKey ↔
      ∃ column, (name, column) ∈ T.columns.entries ∧ column.kind = .partitionKey)
    (ckKinds : ∀ name, name ∈ T.clusteringKey ↔
      ∃ column, (name, column) ∈ T.columns.entries ∧ column.kind = .clustering) :
    let t : CassTableMeta CassMaterializedViewMeta := createTableMetadata getColumnType tableName T
    (∀ k, k < cassTableMetaColumnCount t → cassTableMetaColumn t k =
      .ok (cassIteratorGetColumnMeta (afterCalls cassIteratorNext (k + 1)
        (cassIteratorColumnsFromTableMeta t : CassIterator V)))) ↔
    t.columnsMetadata.entries.map Prod.fst = columnOrder t := by
  intro t
  have keysAreColumns := keysAreColumns_of_kinds T pkKinds ckKinds
  have count : cassTableMetaColumnCount t = (columnOrder t).length :=
    columnCount_eq_order_length getColumnType tableName T pkNodup ckNodup disjoint pkKinds ckKinds
  have iterated : ∀ k (h : k < t.columnsMetadata.entries.length),
      cassIteratorGetColumnMeta (afterCalls cassIteratorNext (k + 1)
        (cassIteratorColumnsFromTableMeta t : CassIterator V)) =
        some t.columnsMetadata.entries[k].2 := fun k h => by
    rw [(walks_tableColumns t).element k (by simpa [mapValues] using h)]
    simp [mapValues]
  have named : ∀ k (h : k < t.columnsMetadata.entries.length),
      t.columnsMetadata.entries[k].2.name = t.columnsMetadata.entries[k].1 := fun k h => by
    simp only [t, createTableMetadata_entries, List.getElem_map]
    rfl
  constructor
  · intro agree
    refine List.ext_getElem (by rw [List.length_map, ← count]; rfl) fun k inMap inOrder => ?_
    have inEntries : k < t.columnsMetadata.entries.length := by simpa using inMap
    obtain ⟨column, -, -, ok⟩ := createTableMetadata_column_at getColumnType tableName T
      keysAreColumns (List.getElem?_eq_getElem inOrder)
    have same : some t.columnsMetadata.entries[k].2 =
        some (columnMetaOf getColumnType ((columnOrder t)[k], column)) := by
      rw [← iterated k inEntries]
      exact Except.ok.inj ((agree k (count ▸ inOrder)).symm.trans ok)
    rw [List.getElem_map, ← named k inEntries, Option.some.inj same]
    rfl
  · intro same k bound
    have inEntries : k < t.columnsMetadata.entries.length := by
      rw [← List.length_map _ Prod.fst, same, ← count]; exact bound
    have key : (columnOrder t)[k]? = some t.columnsMetadata.entries[k].1 := by
      rw [← same, List.getElem?_map, List.getElem?_eq_getElem inEntries]
      rfl
    obtain ⟨column, -, got, ok⟩ :=
      createTableMetadata_column_at getColumnType tableName T keysAreColumns key
    have own : t.columnsMetadata.get t.columnsMetadata.entries[k].1 =
        some t.columnsMetadata.entries[k].2 :=
      (HashMap.get_eq_some_iff _ _ _).mpr (List.getElem_mem inEntries)
    rw [ok, iterated k inEntries, ← Option.some.inj (got.symm.trans own)]

theorem keyed_pair_columns_iterator_agrees :
    keyedPairTable.partitionKey.Nodup ∧ keyedPairTable.clusteringKey.Nodup ∧
    keyedPairTable.partitionKey.Disjoint keyedPairTable.clusteringKey ∧
    (∀ name, name ∈ keyedPairTable.partitionKey ↔ ∃ column,
      (name, column) ∈ keyedPairTable.columns.entries ∧ column.kind = .partitionKey) ∧
    (∀ name, name ∈ keyedPairTable.clusteringKey ↔ ∃ column,
      (name, column) ∈ keyedPairTable.columns.entries ∧ column.kind = .clustering) ∧
    let t : CassTableMeta CassMaterializedViewMeta :=
      createTableMetadata (fun _ => .value .int) "pair" keyedPairTable
    ∀ k, k < cassTableMetaColumnCount t → cassTableMetaColumn t k =
      .ok (cassIteratorGetColumnMeta (afterCalls cassIteratorNext (k + 1)
        (cassIteratorColumnsFromTableMeta t : CassIterator Empty))) := by
  obtain ⟨pkNodup, ckNodup, disjoint, pkKinds, ckKinds⟩ := keyedPairTable_wellKeyed
  exact ⟨pkNodup, ckNodup, disjoint, pkKinds, ckKinds,
    (columns_iterator_agrees_iff_fixed_order (fun _ => .value .int) "pair" keyedPairTable pkNodup
      ckNodup disjoint pkKinds ckKinds).mpr rfl⟩

end IteratorRuns
