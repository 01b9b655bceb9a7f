import ScyllaWrapper.StreamCursors
import ScyllaWrapper.Metadata
import ScyllaWrapper.LegacyValue

/-!
The iterator engine of iterator.rs: one handle over eleven cursors, stepped by
`cass_iterator_next` and read by accessors that answer only for their own variant and are null
otherwise. Every cursor but the result cursor is positional: it holds what it walks, a count fixed
at construction (the row cursor reads its row's length on every call instead) and a position that
is unset until the first call. The stream-backed cursors over a value's list, set or map are in
`StreamCursors`; no variant of the handle holds one. Handles passed in are never null. The
`try_into().unwrap()` of a `u64` count to `usize` cannot fail on 64-bit targets and is not
modelled.
-/
namespace IteratorEngine
open CassTypes RawValueDecoder ResultContainer StreamCursors SchemaMetadata LegacyValues Cursors

structure CassRowIterator where
  row : CassRow
  position : Option Nat

def CassRowIterator.next (self : CassRowIterator) : CassRowIterator × Bool :=
  let (position, result) := advancePosition self.position self.row.columns.length
  ({ self with position := position }, result)

/-- The cursors whose count is fixed at construction, over a `Source`. -/
structure PositionalIterator (Source : Type) where
  value : Source
  count : Nat
  position : Option Nat

def PositionalIterator.next {Source : Type} (self : PositionalIterator Source) :
    PositionalIterator Source × Bool :=
  let (position, result) := advancePosition self.position self.count
  ({ self with position := position }, result)

abbrev LegacyCassCollectionIterator (V : Type) := PositionalIterator (LegacyCassValue V)
abbrev LegacyCassMapIterator (V : Type) := PositionalIterator (LegacyCassValue V)
abbrev LegacyCassUdtIterator (V : Type) := PositionalIterator (LegacyCassValue V)
abbrev CassSchemaMetaIterator := PositionalIterator CassSchemaMeta
abbrev CassKeyspaceMetaIterator := PositionalIterator CassKeyspaceMeta
abbrev CassTableMetaIterator := PositionalIterator (CassTableMeta CassMaterializedViewMeta)
abbrev CassViewMetaIterator := PositionalIterator CassMaterializedViewMeta

section Members
variable {V : Type}

def LegacyCassCollectionIterator.next (self : LegacyCassCollectionIterator V) :=
  PositionalIterator.next self
def LegacyCassMapIterator.next (self : LegacyCassMapIterator V) := PositionalIterator.next self
def LegacyCassUdtIterator.next (self : LegacyCassUdtIterator V) := PositionalIterator.next self
def CassSchemaMetaIterator.next (self : CassSchemaMetaIterator) := PositionalIterator.next self
def CassKeyspaceMetaIterator.next (self : CassKeyspaceMetaIterator) := PositionalIterator.next self
def CassTableMetaIterator.next (self : CassTableMetaIterator) := PositionalIterator.next self
def CassViewMetaIterator.next (self : CassViewMetaIterator) := PositionalIterator.next self

end Members

inductive CassColumnsMetaIterator where
  | fromTable (iterator : CassTableMetaIterator)
  | fromView (iterator : CassViewMetaIterator)

inductive CassMaterializedViewsMetaIterator where
  | fromKeyspace (iterator : CassKeyspaceMetaIterator)
  | fromTable (iterator : CassTableMetaIterator)

inductive CassIterator (V : Type) where
  | result (iterator : CassResultIterator)
  | row (iterator : CassRowIterator)
  | collection (iterator : LegacyCassCollectionIterator V)
  | map (iterator : LegacyCassMapIterator V)
  | tuple (iterator : LegacyCassCollectionIterator V)
  | udt (iterator : LegacyCassUdtIterator V)
  | keyspacesMeta (iterator : CassSchemaMetaIterator)
  | tablesMeta (iterator : CassKeyspaceMetaIterator)
  | userTypes (iterator : CassKeyspaceMetaIterator)
  | materializedViewsMeta (iterator : CassMaterializedViewsMetaIterator)
  | columnsMeta (iterator : CassColumnsMetaIterator)

inductive CassIteratorType where
  | result | row | collection | map | tuple | userTypeField | keyspaceMeta | tableMeta | typeMeta
  | materializedViewMeta | columnMeta
  deriving DecidableEq, Repr

section Handle
variable {V : Type}

def cassIteratorType : CassIterator V → CassIteratorType
  | .result _ => .result
  | .row _ => .row
  | .collection _ => .collection
  | .map _ => .map
  | .tuple _ => .tuple
  | .udt _ => .userTypeField
  | .keyspacesMeta _ => .keyspaceMeta
  | .tablesMeta _ => .tableMeta
  | .userTypes _ => .typeMeta
  | .materializedViewsMeta _ => .materializedViewMeta
  | .columnsMeta _ => .columnMeta

/-- `cass_iterator_next`: the handle after the call, and what the call returns. -/
def cassIteratorNext : CassIterator V → CassIterator V × Bool
  | .result iterator => let (iterator, result) := iterator.next; (.result iterator, result)
  | .row iterator => let (iterator, result) := iterator.next; (.row iterator, result)
  | .collection iterator =>
    let (iterator, result) := LegacyCassCollectionIterator.next iterator
    (.collection iterator, result)
  | .tuple iterator =>
    let (iterator, result) := LegacyCassCollectionIterator.next iterator
    (.tuple iterator, result)
  | .map iterator =>
    let (iterator, result) := LegacyCassMapIterator.next iterator
    (.map iterator, result)
  | .udt iterator =>
    let (iterator, result) := LegacyCassUdtIterator.next iterator
    (.udt iterator, result)
  | .keyspacesMeta iterator =>
    let (iterator, result) := CassSchemaMetaIterator.next iterator
    (.keyspacesMeta iterator, result)
  | .tablesMeta iterator =>
    let (iterator, result) := CassKeyspaceMetaIterator.next iterator
    (.tablesMeta iterator, result)
  | .userTypes iterator =>
    let (iterator, result) := CassKeyspaceMetaIterator.next iterator
    (.userTypes iterator, result)
  | .materializedViewsMeta (.fromKeyspace iterator) =>
    let (iterator, result) := CassKeyspaceMetaIterator.next iterator
    (.materializedViewsMeta (.fromKeyspace iterator), result)
  | .materializedViewsMeta (.fromTable iterator) =>
    let (iterator, result) := CassTableMetaIterator.next iterator
    (.materializedViewsMeta (.fromTable iterator), result)
  | .columnsMeta (.fromTable iterator) =>
    let (iterator, result) := CassTableMetaIterator.next iterator
    (.columnsMeta (.fromTable iterator), result)
  | .columnsMeta (.fromView iterator) =>
    let (iterator, result) := CassViewMetaIterator.next iterator
    (.columnsMeta (.fromView iterator), result)

/-! ### Accessors; `none` is the null pointer -/

@[simp] def cassIteratorGetRow : CassIterator V → Option CassRow
  | .result (.rows rowsResultIterator) => rowsResultIterator.currentRow
  | _ => none

@[simp] def cassIteratorGetColumn : CassIterator V → Option CassValue
  | .row rowIterator => rowIterator.position.bind fun pos => rowIterator.row.columns[pos]?
  | _ => none

/-- The element at a position of a collection or tuple: a map position `2k` is the key of entry
    `k`, `2k + 1` its value. -/
def collectionValueAt (value : LegacyCassValue V) (iterPosition : Nat) : Option V :=
  match value.value with
  | some (.collectionValue (.list list)) => list[iterPosition]?
  | some (.collectionValue (.set set)) => set[iterPosition]?
  | some (.collectionValue (.tuple tuple)) => tuple[iterPosition]?.bind id
  | some (.collectionValue (.map map)) =>
    let mapEntryIndex := iterPosition / 2
    map[mapEntryIndex]?.map fun (key, value) => if iterPosition % 2 = 0 then key else value
  | _ => none

@[simp] def cassIteratorGetValue : CassIterator V → Option V
  | .collection collectionIterator | .tuple collectionIterator =>
    collectionIterator.position.bind (collectionValueAt collectionIterator.value)
  | _ => none

def mapEntryAt (value : LegacyCassValue V) (iterPosition : Nat) : Option (V × V) :=
  match value.value with
  | some (.collectionValue (.map map)) => map[iterPosition]?
  | _ => none

@[simp] def cassIteratorGetMapKey : CassIterator V → Option V
  | .map mapIterator => (mapIterator.position.bind (mapEntryAt mapIterator.value)).map Prod.fst
  | _ => none

@[simp] def cassIteratorGetMapValue : CassIterator V → Option V
  | .map mapIterator => (mapIterator.position.bind (mapEntryAt mapIterator.value)).map Prod.snd
  | _ => none

def udtEntryAt (value : LegacyCassValue V) (iterPosition : Nat) : Option (String × Option V) :=
  match value.value with
  | some (.collectionValue (.userDefinedType _ _ fields)) => fields[iterPosition]?
  | _ => none

@[simp] def cassIteratorGetUserTypeFieldName : CassIterator V → CassError × Option String
  | .udt udtIterator =>
    match udtIterator.position.bind (udtEntryAt udtIterator.value) with
    | some udtEntry => (.ok, some udtEntry.1)
    | none => (.libBadParams, none)
  | _ => (.libBadParams, none)

@[simp] def cassIteratorGetUserTypeFieldValue : CassIterator V → Option V
  | .udt udtIterator => (udtIterator.position.bind (udtEntryAt udtIterator.value)).bind Prod.snd
  | _ => none

/-- The value of the entry at the position of a map-walking cursor, in the map's own order. -/
def entryAtPosition {K W : Type} (map : HashMap K W) (position : Option Nat) : Option W :=
  (position.bind map.iterNth).map Prod.snd

@[simp] def cassIteratorGetKeyspaceMeta : CassIterator V → Option CassKeyspaceMeta
  | .keyspacesMeta schemaMetaIterator =>
    entryAtPosition schemaMetaIterator.value.keyspaces schemaMetaIterator.position
  | _ => none

@[simp] def cassIteratorGetTableMeta : CassIterator V → Option (CassTableMeta CassMaterializedViewMeta)
  | .tablesMeta keyspaceMetaIterator =>
    entryAtPosition keyspaceMetaIterator.value.tables keyspaceMetaIterator.position
  | _ => none

@[simp] def cassIteratorGetUserType : CassIterator V → Option CassDataType
  | .userTypes keyspaceMetaIterator =>
    entryAtPosition keyspaceMetaIterator.value.userDefinedTypeDataType
      keyspaceMetaIterator.position
  | _ => none

@[simp] def cassIteratorGetColumnMeta : CassIterator V → Option CassColumnMeta
  | .columnsMeta (.fromTable tableMetaIterator) =>
    entryAtPosition tableMetaIterator.value.columnsMetadata tableMetaIterator.position
  | .columnsMeta (.fromView viewMetaIterator) =>
    entryAtPosition viewMetaIterator.value.viewMetadata.columnsMetadata viewMetaIterator.position
  | _ => none

@[simp] def cassIteratorGetMaterializedViewMeta : CassIterator V → Option CassMaterializedViewMeta
  | .materializedViewsMeta (.fromKeyspace keyspaceMetaIterator) =>
    entryAtPosition keyspaceMetaIterator.value.views keyspaceMetaIterator.position
  | .materializedViewsMeta (.fromTable tableMetaIterator) =>
    entryAtPosition tableMetaIterator.value.views tableMetaIterator.position
  | _ => none

/-- Every current-element accessor is null, and the field-name accessor reports bad parameters
    and writes no name. -/
def accessorsNull (iterator : CassIterator V) : Bool :=
  (cassIteratorGetRow iterator).isNone && (cassIteratorGetColumn iterator).isNone &&
  (cassIteratorGetValue iterator).isNone && (cassIteratorGetMapKey iterator).isNone &&
  (cassIteratorGetMapValue iterator).isNone &&
  (cassIteratorGetUserTypeFieldValue iterator).isNone &&
  (cassIteratorGetUserTypeFieldName iterator).1 == .libBadParams &&
  (cassIteratorGetUserTypeFieldName iterator).2.isNone &&
  (cassIteratorGetKeyspaceMeta iterator).isNone && (cassIteratorGetTableMeta iterator).isNone &&
  (cassIteratorGetUserType iterator).isNone && (cassIteratorGetColumnMeta iterator).isNone &&
  (cassIteratorGetMaterializedViewMeta iterator).isNone

/-! ### Constructors; `none` is the null pointer -/

/-- `cass_iterator_from_result`: the rows are walked by `rows_iter::<Row>()`, whose decoding is
    the parameter `rowDecoder`. -/
def cassIteratorFromResult (rowDecoder : RowDecoder) (result : CassResult) : CassIterator V :=
  .result <| match result.kind with
    | .nonRows => .nonRows
    | .rows cassRowsResult =>
      .rows ⟨cassRowsResult.sharedData.rawRows.rowsIter rowDecoder,
        cassRowsResult.sharedData.metadata, none⟩

def cassIteratorFromRow (row : CassRow) : CassIterator V := .row ⟨row, none⟩

/-- `cass_iterator_from_collection`: a list, set or map value; a map is walked key by value, so
    its count is twice its item count. -/
def cassIteratorFromCollection (value : LegacyCassValue V) : Option (CassIterator V) :=
  if !cassValueIsCollection value then none
  else
    let itemCount := LegacyValues.cassValueItemCount value
    let itemCount := match LegacyValues.cassValueType value with
      | .map => itemCount * 2
      | _ => itemCount
    some (.collection ⟨value, itemCount, none⟩)

def cassIteratorFromTuple (tuple : LegacyCassValue V) : Option (CassIterator V) :=
  match tuple.value with
  | some (.collectionValue (.tuple val)) => some (.tuple ⟨tuple, val.length, none⟩)
  | _ => none

def cassIteratorFromMap (map : LegacyCassValue V) : Option (CassIterator V) :=
  match map.value with
  | some (.collectionValue (.map val)) => some (.map ⟨map, val.length, none⟩)
  | _ => none

def cassIteratorFieldsFromUserType (udt : LegacyCassValue V) : Option (CassIterator V) :=
  match udt.value with
  | some (.collectionValue (.userDefinedType _ _ fields)) => some (.udt ⟨udt, fields.length, none⟩)
  | _ => none

def cassIteratorKeyspacesFromSchemaMeta (metadata : CassSchemaMeta) : CassIterator V :=
  .keyspacesMeta ⟨metadata, metadata.keyspaces.len, none⟩

def cassIteratorTablesFromKeyspaceMeta (metadata : CassKeyspaceMeta) : CassIterator V :=
  .tablesMeta ⟨metadata, metadata.tables.len, none⟩

def cassIteratorMaterializedViewsFromKeyspaceMeta (metadata : CassKeyspaceMeta) : CassIterator V :=
  .materializedViewsMeta (.fromKeyspace ⟨metadata, metadata.views.len, none⟩)

def cassIteratorUserTypesFromKeyspaceMeta (metadata : CassKeyspaceMeta) : CassIterator V :=
  .userTypes ⟨metadata, metadata.userDefinedTypeDataType.len, none⟩

def cassIteratorColumnsFromTableMeta (metadata : CassTableMeta CassMaterializedViewMeta) :
    CassIterator V :=
  .columnsMeta (.fromTable ⟨metadata, metadata.columnsMetadata.len, none⟩)

def cassIteratorMaterializedViewsFromTableMeta (metadata : CassTableMeta CassMaterializedViewMeta) :
    CassIterator V :=
  .materializedViewsMeta (.fromTable ⟨metadata, metadata.views.len, none⟩)

def cassIteratorColumnsFromMaterializedViewMeta (metadata : CassMaterializedViewMeta) :
    CassIterator V :=
  .columnsMeta (.fromView ⟨metadata, metadata.viewMetadata.columnsMetadata.len, none⟩)

end Handle

end IteratorEngine
