import ScyllaWrapper.Types

/-!
Modelled from the spec: the decoded values that the positional value cursors of iterator.rs walk.
`LegacyCassValue`, `Value` and `Collection` are not under src/; they are modelled as the wrapper
defined them before the raw decoder: a value is null, a regular value, or a collection of further
values, with the data type it was decoded with. The cursors read only a value's top level, so the
type of the elements is a parameter `V`. No modelled function reads a regular value's payload,
which is left out.
-/
namespace LegacyValues
open CassTypes

inductive Collection (V : Type) where
  | list (items : List V)
  | map (entries : List (V × V))
  | set (items : List V)
  | userDefinedType (keyspace typeName : String) (fields : List (String × Option V))
  | tuple (items : List (Option V))

inductive Value (V : Type) where
  | regularValue
  | collectionValue (collection : Collection V)

variable {V : Type}

def Collection.valueType : Collection V → CassValueType
  | .list _ => .list
  | .map _ => .map
  | .set _ => .set
  | .userDefinedType .. => .udt
  | .tuple _ => .tuple

/-- A decoded value and its data type; a decoded collection has the shape its type declares,
    since the decoder chose the shape from that type. -/
structure LegacyCassValue (V : Type) where
  value : Option (Value V)
  valueType : CassDataType
  shaped : ∀ collection, value = some (.collectionValue collection) →
    collection.valueType = valueType.getValueType

/-- Modelled from the spec: `cass_value_type`, the tag of the value's data type. -/
def cassValueType (value : LegacyCassValue V) : CassValueType := value.valueType.getValueType

/-- Modelled from the spec: `cass_value_is_collection`, a list, set or map data type. -/
def cassValueIsCollection (value : LegacyCassValue V) : Bool :=
  match cassValueType value with
  | .list | .set | .map => true
  | _ => false

/-- Modelled from the spec: `cass_value_item_count`, the number of items, entries or fields of a
    decoded collection, tuple or UDT, and 0 for anything else. -/
def cassValueItemCount (value : LegacyCassValue V) : Nat :=
  match value.value with
  | some (.collectionValue (.list list)) => list.length
  | some (.collectionValue (.map map)) => map.length
  | some (.collectionValue (.set set)) => set.length
  | some (.collectionValue (.tuple tuple)) => tuple.length
  | some (.collectionValue (.userDefinedType _ _ fields)) => fields.length
  | _ => 0

end LegacyValues
