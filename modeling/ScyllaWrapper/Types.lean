import Mathlib.Data.List.Sort
import Mathlib.Data.String.Basic

/-!
Shared vocabulary of the wrapper: the CQL column types the driver hands over, the C-side
value-type tags and error codes, data-type descriptors, and the hash maps of the driver and
the wrapper. Sizes and positions are unbounded `Nat`; `usize` wrap-around after 2^64 steps is
an implementation duty outside the model. A Rust panic is an `Except.error` carrying its message.
-/
namespace CassTypes

/-- A frame slice: the bytes of one cell, borrowed from the response frame. -/
abbrev Bytes := List UInt8

inductive NativeType where
  | ascii | boolean | blob | counter | date | decimal | double | duration | float | int
  | bigInt | text | timestamp | inet | smallInt | tinyInt | time | timeuuid | uuid | varint
  deriving DecidableEq, Repr

mutual
/-- The driver's `ColumnType`. A UDT carries its definition's name, keyspace and fields. -/
inductive ColumnType where
  | native (typ : NativeType)
  | collection (frozen : Bool) (typ : CollectionType)
  | userDefinedType (frozen : Bool) (name keyspace : String)
      (fieldTypes : List (String × ColumnType))
  | tuple (types : List ColumnType)

inductive CollectionType where
  | list (elem : ColumnType)
  | map (key value : ColumnType)
  | set (elem : ColumnType)
end

inductive CassValueType where
  | unknown | custom | ascii | bigint | blob | boolean | counter | decimal | double | float
  | int | text | timestamp | uuid | varchar | varint | timeuuid | inet | date | time
  | smallInt | tinyInt | duration | list | map | set | udt | tuple
  deriving DecidableEq, Repr

mutual
/-- Modelled from the spec: `CassDataTypeInner` lives in cass_types.rs, which is not under
    src/. A resolved data-type descriptor; list, set and map element types are optional
    because the C API can also build untyped collections. -/
inductive CassDataType where
  | value (typ : CassValueType)
  | udt (name keyspace : String) (fieldTypes : List (String × CassDataType)) (frozen : Bool)
  | list (typ : Option CassDataType) (frozen : Bool)
  | set (typ : Option CassDataType) (frozen : Bool)
  | map (typ : MapDataType) (frozen : Bool)
  | tuple (types : List CassDataType)
  | custom (name : String)

inductive MapDataType where
  | untyped
  | key (key : CassDataType)
  | keyAndValue (key value : CassDataType)
end

/-- Modelled from the spec: `CassDataTypeInner::get_value_type`, the tag of a descriptor. -/
def CassDataType.getValueType : CassDataType → CassValueType
  | .value typ => typ
  | .udt .. => .udt
  | .list .. => .list
  | .set .. => .set
  | .map .. => .map
  | .tuple _ => .tuple
  | .custom _ => .custom

/-- The C enum `CassError`, restricted to the codes the modelled functions return. -/
inductive CassError where
  | ok | libBadParams | libIndexOutOfBounds | libNullValue | libInvalidValueType
  | libInvalidData | libNoPagingState
  deriving DecidableEq, Repr

/-- `Option::unwrap`: a `None` panics. -/
def unwrap : Option α → Except String α
  | some a => .ok a
  | none => .error "called Option::unwrap() on a None value"

@[simp] theorem unwrap_some (a : α) : unwrap (some a) = .ok a := rfl

/-- The wrapper's `ptr_to_cstr_n` (argconv.rs, not under src/) on a non-null pointer: the bytes
    it spans as a `&str`, or `None` when they are not UTF-8. Every lookup by name takes it as a
    parameter and unwraps its result. -/
abbrev PtrToCstrN := Bytes → Option String

/-- A `ptr_to_cstr_n` that agrees with UTF-8 decoding on ASCII bytes and refuses any other
    byte; the examples of the lookups by name use it. -/
def asciiCstr (bytes : Bytes) : Option String :=
  if bytes.all (· < 128) then some ⟨bytes.map fun b => Char.ofNat b.toNat⟩ else none

/-- A `HashMap` of the driver or the wrapper: its entries in iteration order, with distinct
    keys. The order is the map's own; no caller chooses it. -/
structure HashMap (K V : Type) where
  entries : List (K × V)
  nodup : (entries.map Prod.fst).Nodup

namespace HashMap
variable {K V : Type}

def new : HashMap K V := ⟨[], List.nodup_nil⟩

def len (m : HashMap K V) : Nat := m.entries.length

def get [BEq K] (m : HashMap K V) (k : K) : Option V := m.entries.lookup k

def iterNth (m : HashMap K V) (n : Nat) : Option (K × V) := m.entries[n]?

theorem insert_nodup [DecidableEq K] (m : HashMap K V) (k : K) (v : V) :
    ((m.entries.filter (fun e => e.1 ≠ k) ++ [(k, v)]).map Prod.fst).Nodup := by
  have kept : ((m.entries.filter (fun e => e.1 ≠ k)).map Prod.fst).Nodup :=
    (m.nodup.sublist (List.Sublist.map _ (List.filter_sublist _)))
  simp only [List.map_append, List.map_cons, List.map_nil]
  refine kept.append (List.nodup_singleton k) ?_
  simp [List.Disjoint]

/-- `insert`: a present key is replaced, a new one is added. -/
def insert [DecidableEq K] (m : HashMap K V) (k : K) (v : V) : HashMap K V :=
  ⟨m.entries.filter (fun e => e.1 ≠ k) ++ [(k, v)], insert_nodup m k v⟩

@[simp] theorem iterNth_eq_none_iff (m : HashMap K V) (n : Nat) :
    m.iterNth n = none ↔ m.len ≤ n := by
  simp [iterNth, len]

theorem lookup_eq_some_iff {k : K} {v : V} [DecidableEq K] :
    ∀ {entries : List (K × V)}, (entries.map Prod.fst).Nodup →
      (entries.lookup k = some v ↔ (k, v) ∈ entries)
  | [], _ => by simp
  | (k', v') :: rest, nodup => by
    rw [List.map_cons, List.nodup_cons] at nodup
    by_cases same : k = k'
    · subst same
      have absent : ∀ w, (k, w) ∉ rest := fun w mem =>
        nodup.1 (List.mem_map.mpr ⟨(k, w), mem, rfl⟩)
      simp [absent, eq_comm]
    · have differ : (k == k') = false := by simpa using same
      simp [List.lookup_cons, differ, same, lookup_eq_some_iff nodup.2]

theorem get_eq_some_iff [DecidableEq K] (m : HashMap K V) (k : K) (v : V) :
    m.get k = some v ↔ (k, v) ∈ m.entries :=
  lookup_eq_some_iff m.nodup

theorem get_isSome_iff [DecidableEq K] (m : HashMap K V) (k : K) :
    (m.get k).isSome ↔ k ∈ m.entries.map Prod.fst := by
  cases found : m.get k with
  | none =>
    simp only [Option.isSome_none, Bool.false_eq_true, false_iff, List.mem_map, not_exists,
      not_and]
    rintro ⟨k', v⟩ mem rfl
    have := (get_eq_some_iff m k' v).mpr mem
    simp_all
  | some v =>
    simp only [Option.isSome_some, true_iff]
    exact List.mem_map.mpr ⟨(k, v), (get_eq_some_iff m k v).mp found, rfl⟩

theorem insert_entries_of_fresh [DecidableEq K] (m : HashMap K V) (k : K) (v : V)
    (fresh : k ∉ m.entries.map Prod.fst) : (m.insert k v).entries = m.entries ++ [(k, v)] := by
  simp only [insert, List.append_cancel_right_eq, List.filter_eq_self, decide_eq_true_eq]
  rintro ⟨k', v'⟩ mem rfl
  exact fresh (List.mem_map.mpr ⟨_, mem, rfl⟩)

end HashMap

end CassTypes
