import ScyllaWrapper.Types

/-!
Schema metadata of metadata.rs: schema, keyspaces, tables, views and columns. A keyspace shares
its tables and views; a table lists its views; a view holds its own table-like column metadata,
whose view map is always empty, so the view type of that inner table is `Empty`. The weak
back-reference of a view to its base table is modelled, as the spec suggests, by the base
table's name in the owning keyspace. Rust's `usize` subtraction panics on underflow in debug
builds; the model reports such a panic so that its absence can be proved.
-/
namespace SchemaMetadata
open CassTypes

inductive ColumnKind where
  | regular | static | clustering | partitionKey
  deriving DecidableEq, Repr

structure Column where
  typ : ColumnType
  kind : ColumnKind

structure Table where
  columns : HashMap String Column
  partitionKey : List String
  clusteringKey : List String

inductive CassColumnType where
  | regular | partitionKey | clusteringKey | static | compactValue
  deriving DecidableEq, Repr

structure CassColumnMeta where
  name : String
  columnType : CassDataType
  columnKind : CassColumnType

structure CassTableMeta (View : Type) where
  name : String
  columnsMetadata : HashMap String CassColumnMeta
  partitionKeys : List String
  clusteringKeys : List String
  nonKeySortedColumns : List String
  views : HashMap String View

structure CassMaterializedViewMeta where
  name : String
  viewMetadata : CassTableMeta Empty
  baseTable : String

structure CassKeyspaceMeta where
  name : String
  userDefinedTypeDataType : HashMap String CassDataType
  tables : HashMap String (CassTableMeta CassMaterializedViewMeta)
  views : HashMap String CassMaterializedViewMeta

structure CassSchemaMeta where
  keyspaces : HashMap String CassKeyspaceMeta

/-- Rust's order on `String`: lexicographic on UTF-8 bytes, which orders strings as their code
    points do. -/
def strLe (a b : String) : Prop := a.data ≤ b.data

instance : DecidableRel strLe := fun a b => inferInstanceAs (Decidable (a.data ≤ b.data))

/-- `sort_unstable` of strings; every sort gives this order (`sortUnstable_unique`). -/
def sortUnstable (names : List String) : List String := names.insertionSort strLe

/-- `usize` subtraction; an underflow panics. -/
def usizeSub (a b : Nat) : Except String Nat :=
  if b ≤ a then .ok (a - b) else .error "attempt to subtract with overflow"

def cassColumnKind : ColumnKind → CassColumnType
  | .regular => .regular
  | .static => .static
  | .clustering => .clusteringKey
  | .partitionKey => .partitionKey

def isKeyColumn (column : CassColumnMeta) : Bool :=
  match column.columnKind with
  | .partitionKey | .clusteringKey => true
  | _ => false

/-- The metadata `create_table_metadata` builds for one column of the driver's table. -/
def columnMetaOf (getColumnType : ColumnType → CassDataType) (column : String × Column) :
    CassColumnMeta :=
  ⟨column.1, getColumnType column.2.typ, cassColumnKind column.2.kind⟩

/-- The body of the `for_each` of `create_table_metadata`. -/
def insertColumnMeta (getColumnType : ColumnType → CassDataType)
    (columnsMetadata : HashMap String CassColumnMeta) (column : String × Column) :
    HashMap String CassColumnMeta :=
  columnsMetadata.insert column.1 (columnMetaOf getColumnType column)

/-- `create_table_metadata`; `get_column_type` (cass_types.rs, not under src/) is a parameter. -/
def createTableMetadata {W : Type} (getColumnType : ColumnType → CassDataType)
    (tableName : String) (tableMetadata : Table) : CassTableMeta W :=
  let columnsMetadata :=
    tableMetadata.columns.entries.foldl (insertColumnMeta getColumnType) HashMap.new
  let nonKeySortedColumns := sortUnstable
    ((columnsMetadata.entries.filter fun (_, column) => !isKeyColumn column).map Prod.fst)
  ⟨tableName, columnsMetadata, tableMetadata.partitionKey, tableMetadata.clusteringKey,
    nonKeySortedColumns, HashMap.new⟩

section Accessors
variable {W : Type}

def cassTableMetaColumnCount (tableMeta : CassTableMeta W) : Nat :=
  tableMeta.columnsMetadata.len

/-- `cass_table_meta_column`: partition keys, then clustering keys, then the other columns in
    name order; `Ok none` is the null pointer, `Except.error` a panic. -/
def cassTableMetaColumn (tableMeta : CassTableMeta W) (index : Nat) :
    Except String (Option CassColumnMeta) :=
  match tableMeta.partitionKeys[index]? with
  | some pkName => (unwrap (tableMeta.columnsMetadata.get pkName)).map some
  | none => do
    let index ← usizeSub index tableMeta.partitionKeys.length
    match tableMeta.clusteringKeys[index]? with
    | some ckName => (unwrap (tableMeta.columnsMetadata.get ckName)).map some
    | none => do
      let index ← usizeSub index tableMeta.clusteringKeys.length
      match tableMeta.nonKeySortedColumns[index]? with
      | none => .ok none
      | some columnName => (unwrap (tableMeta.columnsMetadata.get columnName)).map some

def cassTableMetaPartitionKeyCount (tableMeta : CassTableMeta W) : Nat :=
  tableMeta.partitionKeys.length

def cassTableMetaPartitionKey (tableMeta : CassTableMeta W) (index : Nat) :
    Option CassColumnMeta :=
  tableMeta.partitionKeys[index]?.bind tableMeta.columnsMetadata.get

def cassTableMetaClusteringKeyCount (tableMeta : CassTableMeta W) : Nat :=
  tableMeta.clusteringKeys.length

def cassTableMetaClusteringKey (tableMeta : CassTableMeta W) (index : Nat) :
    Option CassColumnMeta :=
  tableMeta.clusteringKeys[index]?.bind tableMeta.columnsMetadata.get

end Accessors

/-! ### Lookups by name

Every `*_by_name_n` function of metadata.rs returns null for a null name; otherwise it reads the
name with `ptr_to_cstr_n`, unwraps the result and gets the name from its node's hash map. The
`*_by_name` variants call it with `strlen` of the name. `none` is the null name. -/

/-- The body shared by the `*_by_name_n` functions. -/
def lookupByNameN {V : Type} (ptrToCstrN : PtrToCstrN) (map : HashMap String V)
    (name : Option Bytes) : Except String (Option V) :=
  match name with
  | none => .ok none
  | some name => (unwrap (ptrToCstrN name)).map map.get

def cassSchemaMetaKeyspaceByNameN (ptrToCstrN : PtrToCstrN) (schemaMeta : CassSchemaMeta)
    (keyspaceName : Option Bytes) :=
  lookupByNameN ptrToCstrN schemaMeta.keyspaces keyspaceName

def cassKeyspaceMetaUserTypeByNameN (ptrToCstrN : PtrToCstrN) (keyspaceMeta : CassKeyspaceMeta)
    (type : Option Bytes) :=
  lookupByNameN ptrToCstrN keyspaceMeta.userDefinedTypeDataType type

def cassKeyspaceMetaTableByNameN (ptrToCstrN : PtrToCstrN) (keyspaceMeta : CassKeyspaceMeta)
    (table : Option Bytes) :=
  lookupByNameN ptrToCstrN keyspaceMeta.tables table

def cassKeyspaceMetaMaterializedViewByNameN (ptrToCstrN : PtrToCstrN)
    (keyspaceMeta : CassKeyspaceMeta) (view : Option Bytes) :=
  lookupByNameN ptrToCstrN keyspaceMeta.views view

def cassTableMetaMaterializedViewByNameN (ptrToCstrN : PtrToCstrN)
    (tableMeta : CassTableMeta CassMaterializedViewMeta) (view : Option Bytes) :=
  lookupByNameN ptrToCstrN tableMeta.views view

def cassMaterializedViewMetaColumnByNameN (ptrToCstrN : PtrToCstrN)
    (viewMeta : CassMaterializedViewMeta) (column : Option Bytes) :=
  lookupByNameN ptrToCstrN viewMeta.viewMetadata.columnsMetadata column

def cassTableMetaMaterializedViewCount (tableMeta : CassTableMeta CassMaterializedViewMeta) :
    Nat :=
  tableMeta.views.len

def cassTableMetaMaterializedView (tableMeta : CassTableMeta CassMaterializedViewMeta)
    (index : Nat) : Option CassMaterializedViewMeta :=
  (tableMeta.views.iterNth index).map Prod.snd

def cassMaterializedViewMetaColumnCount (viewMeta : CassMaterializedViewMeta) : Nat :=
  viewMeta.viewMetadata.columnsMetadata.len

/-- The key accessors of a view read its table-like metadata as the table accessors do. -/
def cassMaterializedViewMetaPartitionKeyCount (viewMeta : CassMaterializedViewMeta) :=
  cassTableMetaPartitionKeyCount viewMeta.viewMetadata

def cassMaterializedViewMetaPartitionKey (viewMeta : CassMaterializedViewMeta) :=
  cassTableMetaPartitionKey viewMeta.viewMetadata

def cassMaterializedViewMetaClusteringKeyCount (viewMeta : CassMaterializedViewMeta) :=
  cassTableMetaClusteringKeyCount viewMeta.viewMetadata

def cassMaterializedViewMetaClusteringKey (viewMeta : CassMaterializedViewMeta) :=
  cassTableMetaClusteringKey viewMeta.viewMetadata

/-- `cass_materialized_view_meta_column`: the `index`-th column in the map's own order. -/
def cassMaterializedViewMetaColumn (viewMeta : CassMaterializedViewMeta) (index : Nat) :
    Option CassColumnMeta :=
  (viewMeta.viewMetadata.columnsMetadata.iterNth index).map Prod.snd

/-- Modelled from the spec: the weak reference of a view to its base table is resolved in the
    owning keyspace's tables; a dropped table gives the null pointer. -/
def cassMaterializedViewMetaBaseTable (keyspaceMeta : CassKeyspaceMeta)
    (viewMeta : CassMaterializedViewMeta) : Option (CassTableMeta CassMaterializedViewMeta) :=
  keyspaceMeta.tables.get viewMeta.baseTable

/-! ### `cass_table_meta_column` indexes the fixed column order -/

section Order
variable {W : Type}

/-- The order `cass_table_meta_column` walks: partition keys, clustering keys, other columns. -/
def columnOrder (tableMeta : CassTableMeta W) : List String :=
  tableMeta.partitionKeys ++ tableMeta.clusteringKeys ++ tableMeta.nonKeySortedColumns

theorem unwrap_map_some {α : Type} {o : Option α} (present : o.isSome) :
    (unwrap o).map some = .ok o := by
  cases o with
  | none => cases present
  | some a => rfl

theorem usizeSub_of_le {a b : Nat} (le : b ≤ a) : usizeSub a b = .ok (a - b) := by
  simp [usizeSub, le]

/-- Whatever the maps hold, `cass_table_meta_column` reads the name at `index` of the order: each
    `usize` subtraction runs only past the list it subtracts, so none underflows. -/
theorem cassTableMetaColumn_eq_order (tableMeta : CassTableMeta W) (index : Nat) :
    cassTableMetaColumn tableMeta index =
      match (columnOrder tableMeta)[index]? with
      | none => .ok none
      | some name => (unwrap (tableMeta.columnsMetadata.get name)).map some := by
  unfold cassTableMetaColumn
  simp only [columnOrder, List.append_assoc]
  by_cases inPk : index < tableMeta.partitionKeys.length
  · rw [List.getElem?_append_left inPk, List.getElem?_eq_getElem inPk]
  · have pastPk := Nat.le_of_not_lt inPk
    rw [List.getElem?_eq_none pastPk, List.getElem?_append_right pastPk]
    simp only [usizeSub_of_le pastPk, bind, Except.bind]
    by_cases inCk : index - tableMeta.partitionKeys.length < tableMeta.clusteringKeys.length
    · rw [List.getElem?_append_left inCk, List.getElem?_eq_getElem inCk]
    · have pastCk := Nat.le_of_not_lt inCk
      rw [List.getElem?_eq_none pastCk, List.getElem?_append_right pastCk]
      simp only [usizeSub_of_le pastCk]

/-- When every name of the order has its column metadata, `cass_table_meta_column` neither
    panics nor underflows, and returns the metadata of the name at `index` of the order. -/
theorem cassTableMetaColumn_eq (tableMeta : CassTableMeta W)
    (resolved : ∀ name ∈ columnOrder tableMeta, (tableMeta.columnsMetadata.get name).isSome)
    (index : Nat) :
    cassTableMetaColumn tableMeta index =
      .ok ((columnOrder tableMeta)[index]?.bind tableMeta.columnsMetadata.get) := by
  rw [cassTableMetaColumn_eq_order]
  cases named : (columnOrder tableMeta)[index]? with
  | none => rfl
  | some name => exact unwrap_map_some (resolved _ (List.getElem?_mem named))

theorem columnOrder_getElem?_partitionKey (tableMeta : CassTableMeta W) {i : Nat}
    (inPk : i < tableMeta.partitionKeys.length) :
    (columnOrder tableMeta)[i]? = tableMeta.partitionKeys[i]? := by
  rw [columnOrder, List.append_assoc, List.getElem?_append_left inPk]

theorem columnOrder_getElem?_clusteringKey (tableMeta : CassTableMeta W) (j : Nat) :
    (columnOrder tableMeta)[tableMeta.partitionKeys.length + j]? =
      (tableMeta.clusteringKeys ++ tableMeta.nonKeySortedColumns)[j]? := by
  rw [columnOrder, List.append_assoc, List.getElem?_append_right (Nat.le_add_right _ _),
    Nat.add_sub_cancel_left]

/-- For every table metadata, whatever its maps hold, `cass_table_meta_column` walks the
    partition keys, the clustering keys and the sorted other columns as one list: its `usize`
    subtractions never underflow, it returns null exactly past that list, and it panics exactly
    at a name of the list that has no column metadata. At a key index it is the key accessor
    unwrapped, so where `cass_table_meta_partition_key` or `cass_table_meta_clustering_key`
    return null for a key with no column metadata, it panics. -/
theorem table_meta_column_follows_column_order (tableMeta : CassTableMeta W) :
    (∀ index, cassTableMetaColumn tableMeta index =
      match (columnOrder tableMeta)[index]? with
      | none => .ok none
      | some name => (unwrap (tableMeta.columnsMetadata.get name)).map some) ∧
    (∀ index, cassTableMetaColumn tableMeta index = .ok none ↔
      (columnOrder tableMeta).length ≤ index) ∧
    (∀ index e, cassTableMetaColumn tableMeta index = .error e ↔
      e = "called Option::unwrap() on a None value" ∧
        ∃ name, (columnOrder tableMeta)[index]? = some name ∧
          tableMeta.columnsMetadata.get name = none) ∧
    (∀ i, i < tableMeta.partitionKeys.length →
      cassTableMetaColumn tableMeta i = (unwrap (cassTableMetaPartitionKey tableMeta i)).map some) ∧
    (∀ j, j < tableMeta.clusteringKeys.length →
      cassTableMetaColumn tableMeta (tableMeta.partitionKeys.length + j) =
        (unwrap (cassTableMetaClusteringKey tableMeta j)).map some) := by
  refine ⟨cassTableMetaColumn_eq_order tableMeta, fun index => ?_, fun index e => ?_,
    fun i inPk => ?_, fun j inCk => ?_⟩
  · rw [cassTableMetaColumn_eq_order, ← List.getElem?_eq_none_iff]
    split <;> rename_i named
    · simp [named]
    · simp only [named, reduceCtorEq, iff_false]
      unfold unwrap
      split <;> simp [Except.map]
  · rw [cassTableMetaColumn_eq_order]
    split <;> rename_i named
    · simp [named]
    · simp only [named, Option.some.injEq, exists_eq_left']
      unfold unwrap
      split <;> rename_i found <;> simp [Except.map, found, eq_comm]
  · rw [cassTableMetaColumn_eq_order, columnOrder_getElem?_partitionKey tableMeta inPk,
      cassTableMetaPartitionKey, List.getElem?_eq_getElem inPk]
    rfl
  · rw [cassTableMetaColumn_eq_order, columnOrder_getElem?_clusteringKey,
      List.getElem?_append_left inCk, cassTableMetaClusteringKey, List.getElem?_eq_getElem inCk]
    rfl

end Order

/-! ### What `create_table_metadata` builds -/

theorem strLe_iff (a b : String) : strLe a b ↔ a ≤ b := String.le_iff_toList_le.symm

instance : IsTotal String strLe :=
  ⟨fun a b => (le_total a b).imp (strLe_iff a b).mpr (strLe_iff b a).mpr⟩

instance : IsTrans String strLe :=
  ⟨fun a b c ab bc => (strLe_iff a c).mpr (le_trans ((strLe_iff a b).mp ab) ((strLe_iff b c).mp bc))⟩

theorem sortUnstable_perm (names : List String) : (sortUnstable names).Perm names :=
  List.perm_insertionSort _ _

theorem sortUnstable_sorted (names : List String) (nodup : names.Nodup) :
    (sortUnstable names).Sorted (· < ·) :=
  List.Sorted.lt_of_le ((List.sorted_insertionSort strLe names).imp fun le => (strLe_iff _ _).mp le)
    ((sortUnstable_perm names).nodup_iff.mpr nodup)

instance : IsAntisymm String strLe :=
  ⟨fun a b ab ba => le_antisymm ((strLe_iff a b).mp ab) ((strLe_iff b a).mp ba)⟩

/-- Whatever order `sort_unstable` leaves equal elements in, its result is this one: a sorted
    permutation of strings is unique, since equal strings are identical. -/
theorem sortUnstable_unique {names sorted : List String} (perm : sorted.Perm names)
    (ordered : sorted.Sorted strLe) : sorted = sortUnstable names :=
  List.eq_of_perm_of_sorted (perm.trans (sortUnstable_perm names).symm) ordered
    (List.sorted_insertionSort strLe names)

theorem sorted_rank {l : List String} (sorted : l.Sorted (· < ·)) (j : Nat) (bound : j < l.length) :
    (l.filter fun name => name < l[j]).length = j := by
  induction l generalizing j with
  | nil => cases bound
  | cons a l ih =>
    obtain ⟨least, sortedTail⟩ := List.sorted_cons.mp sorted
    cases j with
    | zero =>
      have none : l.filter (fun name => name < a) = [] :=
        List.filter_eq_nil_iff.mpr fun b mem => by
          rw [decide_eq_true_eq]; exact not_lt.mpr (le_of_lt (least b mem))
      rw [List.getElem_cons_zero, List.filter_cons_of_neg (by rw [decide_eq_true_eq]; exact lt_irrefl a),
        none]
      rfl
    | succ j =>
      have inTail : j < l.length := by simp at bound; omega
      have below : a < l[j] := least _ (List.getElem_mem _)
      rw [List.getElem_cons_succ, List.filter_cons_of_pos (by rw [decide_eq_true_eq]; exact below),
        List.length_cons, ih sortedTail j inTail]

theorem insertColumnMeta_fold (getColumnType : ColumnType → CassDataType) :
    ∀ (columns : List (String × Column)) (columnsMetadata : HashMap String CassColumnMeta),
      (columnsMetadata.entries.map Prod.fst ++ columns.map Prod.fst).Nodup →
      (columns.foldl (insertColumnMeta getColumnType) columnsMetadata).entries =
        columnsMetadata.entries ++ columns.map fun c => (c.1, columnMetaOf getColumnType c)
  | [], _, _ => by simp
  | c :: columns, columnsMetadata, nodup => by
    have fresh : c.1 ∉ columnsMetadata.entries.map Prod.fst := fun mem =>
      (List.nodup_append.mp nodup).2.2 mem (List.mem_cons_self _ _)
    have added : (insertColumnMeta getColumnType columnsMetadata c).entries =
        columnsMetadata.entries ++ [(c.1, columnMetaOf getColumnType c)] :=
      HashMap.insert_entries_of_fresh _ _ _ fresh
    rw [List.foldl_cons, insertColumnMeta_fold getColumnType columns _ (by
      rw [added]; simpa using nodup), added]
    simp

section Table
variable {W : Type} (getColumnType : ColumnType → CassDataType) (tableName : String)
  (T : Table)

@[simp] theorem createTableMetadata_partitionKeys :
    (createTableMetadata getColumnType tableName T : CassTableMeta W).partitionKeys =
      T.partitionKey := rfl

@[simp] theorem createTableMetadata_clusteringKeys :
    (createTableMetadata getColumnType tableName T : CassTableMeta W).clusteringKeys =
      T.clusteringKey := rfl

theorem createTableMetadata_entries :
    (createTableMetadata getColumnType tableName T : CassTableMeta W).columnsMetadata.entries =
      T.columns.entries.map fun c => (c.1, columnMetaOf getColumnType c) := by
  simpa using insertColumnMeta_fold getColumnType T.columns.entries HashMap.new
    (by simpa [HashMap.new] using T.columns.nodup)

theorem createTableMetadata_keys :
    (createTableMetadata getColumnType tableName T : CassTableMeta W).columnsMetadata.entries.map
      Prod.fst = T.columns.entries.map Prod.fst := by
  simp [createTableMetadata_entries, columnMetaOf]

theorem createTableMetadata_get {name : String} {meta : CassColumnMeta} :
    (createTableMetadata getColumnType tableName T : CassTableMeta W).columnsMetadata.get name =
      some meta ↔ ∃ column, (name, column) ∈ T.columns.entries ∧
        meta = columnMetaOf getColumnType (name, column) := by
  rw [HashMap.get_eq_some_iff, createTableMetadata_entries]
  simp only [List.mem_map, Prod.mk.injEq]
  constructor
  · rintro ⟨⟨n, column⟩, mem, rfl, rfl⟩
    exact ⟨column, mem, rfl⟩
  · rintro ⟨column, mem, rfl⟩
    exact ⟨(name, column), mem, rfl, rfl⟩

/-- The names of the table's regular and static columns. -/
def otherColumnNames : List String :=
  (T.columns.entries.filter fun c => c.2.kind = .regular ∨ c.2.kind = .static).map Prod.fst

theorem createTableMetadata_nonKey :
    (createTableMetadata getColumnType tableName T : CassTableMeta W).nonKeySortedColumns =
      sortUnstable (otherColumnNames T) := by
  have entries := @createTableMetadata_entries W getColumnType tableName T
  simp only [createTableMetadata] at entries ⊢
  have nonKey : ((fun x => !isKeyColumn x.2) ∘ fun c => (c.1, columnMetaOf getColumnType c)) =
      fun c : String × Column => decide (c.2.kind = .regular ∨ c.2.kind = .static) := by
    funext ⟨_, _, kind⟩
    cases kind <;> rfl
  rw [entries, List.filter_map, List.map_map, otherColumnNames, nonKey]
  rfl

theorem column_unique {name : String} {c₁ c₂ : Column} (m₁ : (name, c₁) ∈ T.columns.entries)
    (m₂ : (name, c₂) ∈ T.columns.entries) : c₁ = c₂ := by
  have g₁ := (HashMap.get_eq_some_iff T.columns name c₁).mpr m₁
  have g₂ := (HashMap.get_eq_some_iff T.columns name c₂).mpr m₂
  exact Option.some.inj (g₁.symm.trans g₂)

theorem mem_otherColumnNames (name : String) :
    name ∈ otherColumnNames T ↔ ∃ column, (name, column) ∈ T.columns.entries ∧
      (column.kind = .regular ∨ column.kind = .static) := by
  simp [otherColumnNames]

theorem otherColumnNames_nodup : (otherColumnNames T).Nodup :=
  T.columns.nodup.sublist ((List.filter_sublist _).map _)

theorem keysAreColumns_of_kinds
    (pkKinds : ∀ name, name ∈ T.partitionKey ↔
      ∃ column, (name, column) ∈ T.columns.entries ∧ column.kind = .partitionKey)
    (ckKinds : ∀ name, name ∈ T.clusteringKey ↔
      ∃ column, (name, column) ∈ T.columns.entries ∧ column.kind = .clustering) :
    ∀ name ∈ T.partitionKey ++ T.clusteringKey, name ∈ T.columns.entries.map Prod.fst := by
  intro name key
  rcases List.mem_append.mp key with pk | ck
  · obtain ⟨column, mem, -⟩ := (pkKinds name).mp pk; exact List.mem_map.mpr ⟨_, mem, rfl⟩
  · obtain ⟨column, mem, -⟩ := (ckKinds name).mp ck; exact List.mem_map.mpr ⟨_, mem, rfl⟩

section KeysAreColumns
variable (keysAreColumns : ∀ name ∈ T.partitionKey ++ T.clusteringKey,
  name ∈ T.columns.entries.map Prod.fst)
include keysAreColumns

theorem createTableMetadata_resolved :
    ∀ name ∈ columnOrder (createTableMetadata getColumnType tableName T : CassTableMeta W),
      ((createTableMetadata getColumnType tableName T : CassTableMeta W).columnsMetadata.get
        name).isSome := by
  intro name mem
  rw [HashMap.get_isSome_iff, createTableMetadata_keys]
  simp only [columnOrder, List.mem_append, createTableMetadata_partitionKeys,
    createTableMetadata_clusteringKeys, createTableMetadata_nonKey] at mem
  rcases mem with (pk | ck) | other
  · exact keysAreColumns name (List.mem_append_left _ pk)
  · exact keysAreColumns name (List.mem_append_right _ ck)
  · obtain ⟨column, mem, -⟩ :=
      (mem_otherColumnNames T name).mp ((sortUnstable_perm _).subset other)
    exact List.mem_map.mpr ⟨_, mem, rfl⟩

theorem createTableMetadata_column_at {i : Nat} {name : String}
    (entry : (columnOrder (createTableMetadata getColumnType tableName T : CassTableMeta W))[i]? =
      some name) :
    ∃ column, (name, column) ∈ T.columns.entries ∧
      (createTableMetadata getColumnType tableName T : CassTableMeta W).columnsMetadata.get name =
        some (columnMetaOf getColumnType (name, column)) ∧
      cassTableMetaColumn (createTableMetadata getColumnType tableName T : CassTableMeta W) i =
        .ok (some (columnMetaOf getColumnType (name, column))) := by
  have resolved := createTableMetadata_resolved getColumnType tableName T keysAreColumns (W := W)
  obtain ⟨c, got⟩ := Option.isSome_iff_exists.mp (resolved name (List.getElem?_mem entry))
  obtain ⟨column, mem, rfl⟩ := (createTableMetadata_get getColumnType tableName T).mp got
  exact ⟨column, mem, got, by rw [cassTableMetaColumn_eq _ resolved, entry, Option.some_bind, got]⟩

theorem createTableMetadata_column_some {i : Nat} {c : CassColumnMeta}
    (found : cassTableMetaColumn (createTableMetadata getColumnType tableName T : CassTableMeta W)
      i = .ok (some c)) :
    ∃ column, (c.name, column) ∈ T.columns.entries ∧ c = columnMetaOf getColumnType (c.name, column) ∧
      (columnOrder (createTableMetadata getColumnType tableName T : CassTableMeta W))[i]? =
        some c.name := by
  rw [cassTableMetaColumn_eq _ (createTableMetadata_resolved getColumnType tableName T
    keysAreColumns)] at found
  obtain ⟨name, entry, got⟩ := Option.bind_eq_some.mp (Except.ok.inj found)
  obtain ⟨column, mem, rfl⟩ := (createTableMetadata_get getColumnType tableName T).mp got
  exact ⟨column, mem, rfl, entry⟩

end KeysAreColumns

section Keys
variable (pkNodup : T.partitionKey.Nodup) (ckNodup : T.clusteringKey.Nodup)
  (disjoint : T.partitionKey.Disjoint T.clusteringKey)
  (pkKinds : ∀ name, name ∈ T.partitionKey ↔
    ∃ column, (name, column) ∈ T.columns.entries ∧ column.kind = .partitionKey)
  (ckKinds : ∀ name, name ∈ T.clusteringKey ↔
    ∃ column, (name, column) ∈ T.columns.entries ∧ column.kind = .clustering)
include pkNodup ckNodup disjoint pkKinds ckKinds

theorem columnOrder_nodup_perm :
    (columnOrder (createTableMetadata getColumnType tableName T : CassTableMeta W)).Nodup ∧
    (columnOrder (createTableMetadata getColumnType tableName T : CassTableMeta W)).Perm
      (T.columns.entries.map Prod.fst) := by
  have others := sortUnstable_perm (otherColumnNames T)
  have notOther : ∀ {name column}, (name, column) ∈ T.columns.entries →
      name ∈ otherColumnNames T → column.kind ≠ .partitionKey ∧ column.kind ≠ .clustering := by
    intro name column mem other
    obtain ⟨column', mem', kind⟩ := (mem_otherColumnNames T name).mp other
    rw [column_unique T mem mem']
    rcases kind with kind | kind <;> simp [kind]
  have nodup : (columnOrder (createTableMetadata getColumnType tableName T : CassTableMeta W)).Nodup := by
    simp only [columnOrder, createTableMetadata_nonKey]
    refine List.nodup_append.mpr ⟨List.nodup_append.mpr ⟨pkNodup, ckNodup, disjoint⟩,
      others.nodup_iff.mpr (otherColumnNames_nodup T), ?_⟩
    intro name inKeys inOthers
    replace inOthers := others.subset inOthers
    rcases List.mem_append.mp inKeys with inPk | inCk
    · obtain ⟨column, mem, kind⟩ := (pkKinds name).mp inPk
      exact (notOther mem inOthers).1 kind
    · obtain ⟨column, mem, kind⟩ := (ckKinds name).mp inCk
      exact (notOther mem inOthers).2 kind
  refine ⟨nodup, (List.perm_ext_iff_of_nodup nodup T.columns.nodup).mpr fun name => ?_⟩
  simp only [columnOrder, createTableMetadata_nonKey, createTableMetadata_partitionKeys,
    createTableMetadata_clusteringKeys, List.mem_append, others.mem_iff,
    mem_otherColumnNames, pkKinds, ckKinds, List.mem_map, Prod.exists, exists_and_right,
    exists_eq_right]
  constructor
  · rintro ((⟨column, mem, -⟩ | ⟨column, mem, -⟩) | ⟨column, mem, -⟩) <;> exact ⟨column, mem⟩
  · rintro ⟨column, mem⟩
    cases kind : column.kind
    · exact .inr ⟨column, mem, .inl kind⟩
    · exact .inr ⟨column, mem, .inr kind⟩
    · exact .inl (.inr ⟨column, mem, kind⟩)
    · exact .inl (.inl ⟨column, mem, kind⟩)

theorem columnCount_eq_order_length :
    cassTableMetaColumnCount (createTableMetadata getColumnType tableName T : CassTableMeta W) =
      (columnOrder (createTableMetadata getColumnType tableName T : CassTableMeta W)).length := by
  rw [cassTableMetaColumnCount, HashMap.len, ← List.length_map _ Prod.fst, createTableMetadata_keys,
    (columnOrder_nodup_perm getColumnType tableName T pkNodup ckNodup disjoint pkKinds
      ckKinds).2.length_eq]

end Keys
end Table

/-- For a driver table whose key lists are duplicate-free, disjoint, and name exactly its
    partition-key and clustering-key columns, `cass_table_meta_column` never panics: it returns
    the partition keys in key order, then the clustering keys, then the other columns by name,
    null from the column count on, and so reaches every column at exactly one index. -/
theorem table_meta_column_fixed_order (getColumnType : ColumnType → CassDataType)
    (tableName : String) (T : Table) (pkNodup : T.partitionKey.Nodup)
    (ckNodup : T.clusteringKey.Nodup) (disjoint : T.partitionKey.Disjoint T.clusteringKey)
    (pkKinds : ∀ name, name ∈ T.partitionKey ↔
      ∃ column, (name, column) ∈ T.columns.entries ∧ column.kind = .partitionKey)
    (ckKinds : ∀ name, name ∈ T.clusteringKey ↔
      ∃ column, (name, column) ∈ T.columns.entries ∧ column.kind = .clustering) :
    let t : CassTableMeta CassMaterializedViewMeta := createTableMetadata getColumnType tableName T
    (∀ i, ∃ r, cassTableMetaColumn t i = .ok r) ∧
    cassTableMetaColumnCount t =
      T.partitionKey.length + T.clusteringKey.length + (otherColumnNames T).length ∧
    (∀ i (h : i < T.partitionKey.length), ∃ c,
      cassTableMetaColumn t i = .ok (some c) ∧ c.name = T.partitionKey[i]) ∧
    (∀ i (h : i < T.clusteringKey.length), ∃ c,
      cassTableMetaColumn t (T.partitionKey.length + i) = .ok (some c) ∧
        c.name = T.clusteringKey[i]) ∧
    (∀ j, j < (otherColumnNames T).length → ∃ c,
      cassTableMetaColumn t (T.partitionKey.length + T.clusteringKey.length + j) = .ok (some c) ∧
        c.name ∈ otherColumnNames T ∧ ((otherColumnNames T).filter (· < c.name)).length = j) ∧
    (∀ i, cassTableMetaColumnCount t ≤ i → cassTableMetaColumn t i = .ok none) ∧
    (∀ i c, cassTableMetaColumn t i = .ok (some c) → ∃ column,
      (c.name, column) ∈ T.columns.entries ∧ c = columnMetaOf getColumnType (c.name, column)) ∧
    (∀ name column, (name, column) ∈ T.columns.entries → ∃! i, i < cassTableMetaColumnCount t ∧
      ∃ c, cassTableMetaColumn t i = .ok (some c) ∧ c.name = name) := by
  intro t
  obtain ⟨nodup, perm⟩ :=
    columnOrder_nodup_perm getColumnType tableName T pkNodup ckNodup disjoint pkKinds ckKinds
  have keysAreColumns := keysAreColumns_of_kinds T pkKinds ckKinds
  have indexes := cassTableMetaColumn_eq t
    (createTableMetadata_resolved getColumnType tableName T keysAreColumns)
  have count : cassTableMetaColumnCount t = (columnOrder t).length :=
    columnCount_eq_order_length getColumnType tableName T pkNodup ckNodup disjoint pkKinds ckKinds
  have sorted := sortUnstable_perm (otherColumnNames T)
  have orderLength : (columnOrder t).length =
      T.partitionKey.length + T.clusteringKey.length + (otherColumnNames T).length := by
    simp [t, columnOrder, createTableMetadata_nonKey, sorted.length_eq, Nat.add_assoc]
  have at_index : ∀ {i name}, (columnOrder t)[i]? = some name →
      ∃ c, cassTableMetaColumn t i = .ok (some c) ∧ c.name = name := fun entry => by
    obtain ⟨column, -, -, ok⟩ :=
      createTableMetadata_column_at getColumnType tableName T keysAreColumns entry
    exact ⟨_, ok, rfl⟩
  refine ⟨fun i => ⟨_, indexes i⟩, count.trans orderLength, fun i h => at_index ?_,
    fun i h => at_index ?_, fun j h => ?_, fun i past => ?_, fun i c found => ?_,
    fun name column mem => ?_⟩
  · have inKeys : i < (T.partitionKey ++ T.clusteringKey).length := by simp; omega
    simp only [t, columnOrder, createTableMetadata_partitionKeys, createTableMetadata_clusteringKeys]
    rw [List.getElem?_append_left inKeys, List.getElem?_append_left h, List.getElem?_eq_getElem h]
  · have inKeys : T.partitionKey.length + i < (T.partitionKey ++ T.clusteringKey).length := by
      simp; omega
    simp only [t, columnOrder, createTableMetadata_partitionKeys, createTableMetadata_clusteringKeys]
    rw [List.getElem?_append_left inKeys, List.getElem?_append_right (Nat.le_add_right _ _),
      Nat.add_sub_cancel_left, List.getElem?_eq_getElem h]
  · have inSorted : j < (sortUnstable (otherColumnNames T)).length := sorted.length_eq ▸ h
    have entry : (columnOrder t)[T.partitionKey.length + T.clusteringKey.length + j]? =
        some (sortUnstable (otherColumnNames T))[j] := by
      simp only [t, columnOrder, createTableMetadata_partitionKeys,
        createTableMetadata_clusteringKeys, createTableMetadata_nonKey]
      rw [List.getElem?_append_right (by simp), List.length_append, Nat.add_sub_cancel_left,
        List.getElem?_eq_getElem inSorted]
    obtain ⟨c, ok, name⟩ := at_index entry
    refine ⟨c, ok, name ▸ sorted.subset (List.getElem_mem _), ?_⟩
    rw [name, ← (sorted.filter _).length_eq]
    exact sorted_rank (sortUnstable_sorted _ (otherColumnNames_nodup T)) j inSorted
  · rw [indexes, List.getElem?_eq_none (count ▸ past)]
    rfl
  · obtain ⟨column, mem, eq, -⟩ :=
      createTableMetadata_column_some getColumnType tableName T keysAreColumns found
    exact ⟨column, mem, eq⟩
  · have inOrder : name ∈ columnOrder t := perm.mem_iff.mpr (List.mem_map.mpr ⟨_, mem, rfl⟩)
    obtain ⟨i, bound, entry⟩ := List.mem_iff_getElem.mp inOrder
    refine ⟨i, ⟨count ▸ bound, at_index (by rw [List.getElem?_eq_getElem bound, entry])⟩, ?_⟩
    rintro j ⟨jBound, c, ok, rfl⟩
    obtain ⟨-, -, -, entry'⟩ :=
      createTableMetadata_column_some getColumnType tableName T keysAreColumns ok
    rw [List.getElem?_eq_getElem (count ▸ jBound)] at entry'
    exact nodup.getElem_inj_iff.mp ((Option.some.inj entry').trans entry.symm)

/-- A table keyed by `a` with one regular column `b`. -/
def keyedPairTable : Table :=
  ⟨⟨[("a", ⟨.native .int, .partitionKey⟩), ("b", ⟨.native .text, .regular⟩)], by decide⟩,
    ["a"], []⟩

theorem keyedPairTable_wellKeyed :
    keyedPairTable.partitionKey.Nodup ∧ keyedPairTable.clusteringKey.Nodup ∧
    keyedPairTable.partitionKey.Disjoint keyedPairTable.clusteringKey ∧
    (∀ name, name ∈ keyedPairTable.partitionKey ↔ ∃ column,
      (name, column) ∈ keyedPairTable.columns.entries ∧ column.kind = .partitionKey) ∧
    (∀ name, name ∈ keyedPairTable.clusteringKey ↔ ∃ column,
      (name, column) ∈ keyedPairTable.columns.entries ∧ column.kind = .clustering) := by
  refine ⟨by decide, by decide, by simp [keyedPairTable], by
    simp [keyedPairTable, or_and_right, exists_or, and_assoc], ?_⟩
  simp only [keyedPairTable, List.not_mem_nil, false_iff, not_exists, not_and]
  intro name column mem kind
  simp only [List.mem_cons, Prod.mk.injEq, List.mem_nil_iff, or_false] at mem
  rcases mem with ⟨-, rfl⟩ | ⟨-, rfl⟩ <;> cases kind

theorem keyed_pair_table_fixed_order :
    keyedPairTable.partitionKey.Nodup ∧ keyedPairTable.clusteringKey.Nodup ∧
    keyedPairTable.partitionKey.Disjoint keyedPairTable.clusteringKey ∧
    (∀ name, name ∈ keyedPairTable.partitionKey ↔ ∃ column,
      (name, column) ∈ keyedPairTable.columns.entries ∧ column.kind = .partitionKey) ∧
    (∀ name, name ∈ keyedPairTable.clusteringKey ↔ ∃ column,
      (name, column) ∈ keyedPairTable.columns.entries ∧ column.kind = .clustering) ∧
    let t : CassTableMeta CassMaterializedViewMeta :=
      createTableMetadata (fun _ => .value .int) "pair" keyedPairTable
    cassTableMetaColumnCount t = 2 ∧
    (∃ c, cassTableMetaColumn t 1 = .ok (some c) ∧ c.name = "b") ∧
    cassTableMetaColumn t 2 = .ok none := by
  obtain ⟨pkNodup, ckNodup, disjoint, pkKinds, ckKinds⟩ := keyedPairTable_wellKeyed
  obtain ⟨-, count, -, -, others, past, -⟩ := table_meta_column_fixed_order (fun _ => .value .int)
    "pair" keyedPairTable pkNodup ckNodup disjoint pkKinds ckKinds
  have otherCount : (otherColumnNames keyedPairTable).length = 1 := by
    simp [otherColumnNames, keyedPairTable, List.filter]
  have two : cassTableMetaColumnCount
      (createTableMetadata (fun _ => .value .int) "pair" keyedPairTable :
        CassTableMeta CassMaterializedViewMeta) = 2 := by
    rw [count, otherCount]; rfl
  obtain ⟨c, found, other, -⟩ := others 0 (by omega)
  refine ⟨pkNodup, ckNodup, disjoint, pkKinds, ckKinds, two, ⟨c, found, ?_⟩, past 2 two.le⟩
  simpa [otherColumnNames, keyedPairTable] using other

end SchemaMetadata
