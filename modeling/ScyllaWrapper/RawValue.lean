import ScyllaWrapper.Types

/-!
The raw per-column value decoder of `query_result::cass_raw_value`. A cell keeps its slice,
or becomes null when the CQL "empty" value meets a type that the C API cannot show as empty;
for collections, tuples and UDTs an item count is precomputed from the slice and the type.
The nested elements are not decoded here.
-/
namespace RawValueDecoder
open CassTypes

inductive CollectionLengthDeserializationError where
  | tooFewBytes (len : Nat)
  | negativeLength (len : Int)
  deriving DecidableEq, Repr

/-- The driver's `DeserializationError`, as far as the wrapper builds or inspects it. -/
inductive DeserializationError where
  | collectionLength (err : CollectionLengthDeserializationError)
  | columnDeserializationFailed (columnIndex : Nat) (columnName : String)
      (err : DeserializationError)
  | driver (message : String)
  deriving DecidableEq, Repr

/-- `CassRawValue`: the column type, the kept slice and the precomputed item count. -/
structure CassRawValue where
  typ : ColumnType
  slice : Option Bytes
  itemCount : Option Nat

/-- `i32::from_be_bytes`: the two's complement reading of a big-endian 32-bit word. -/
def i32FromBeBytes (b0 b1 b2 b3 : UInt8) : Int :=
  let word := ((b0.toNat * 256 + b1.toNat) * 256 + b2.toNat) * 256 + b3.toNat
  if word < 2147483648 then word else (word : Int) - 4294967296

/-- The collection arm of `determine_value_item_count`: the first four bytes as a signed
    big-endian length, which must be present and non-negative. -/
def collectionLength (slice : Bytes) : Except CollectionLengthDeserializationError Nat :=
  match slice with
  | b0 :: b1 :: b2 :: b3 :: _ =>
    let i32Length := i32FromBeBytes b0 b1 b2 b3
    if 0 ≤ i32Length then .ok i32Length.toNat else .error (.negativeLength i32Length)
  | _ => .error (.tooFewBytes slice.length)

def determineValueItemCount (typ : ColumnType) (slice : Option Bytes) :
    Except CollectionLengthDeserializationError (Option Nat) :=
  match slice with
  | none => .ok none
  | some frameSlice =>
    match typ with
    | .collection .. => (collectionLength frameSlice).map some
    | .tuple types => .ok (some types.length)
    | .userDefinedType _ _ _ fieldTypes => .ok (some fieldTypes.length)
    | .native _ => .ok none

/-- The types whose present empty slice is kept as it is: collections, UDTs, duration,
    counter, and the string and byte types. -/
def keepsEmpty : ColumnType → Bool
  | .collection .. | .userDefinedType .. => true
  | .native .duration | .native .counter => true
  | .native .ascii | .native .text | .native .blob => true
  | _ => false

def keptSlice (typ : ColumnType) (v : Option Bytes) : Option Bytes :=
  match keepsEmpty typ, v with
  | true, slice => slice
  | false, some [] => none
  | false, slice => slice

/-- `<CassRawValue as DeserializeValue>::deserialize`; its type check accepts every type. -/
def CassRawValue.deserialize (typ : ColumnType) (v : Option Bytes) :
    Except DeserializationError CassRawValue :=
  let slice := keptSlice typ v
  match determineValueItemCount typ slice with
  | .ok itemCount => .ok ⟨typ, slice, itemCount⟩
  | .error err => .error (.collectionLength err)

/-- `CassValue`: a raw value with the data type resolved from the result metadata. -/
structure CassValue where
  value : CassRawValue
  valueType : CassDataType

def cassValueIsNull (val : CassValue) : Bool := val.value.slice.isNone

def cassValueItemCount (val : CassValue) : Nat := val.value.itemCount.getD 0

/-! ### What the decoder does, per type and slice -/

theorem keptSlice_eq_none_iff (typ : ColumnType) (v : Option Bytes) :
    keptSlice typ v = none ↔ v = none ∨ (v = some [] ∧ keepsEmpty typ = false) := by
  unfold keptSlice
  split <;> simp_all

theorem keptSlice_of_ne_none {typ : ColumnType} {v : Option Bytes} {s : Bytes}
    (kept : keptSlice typ v = some s) : v = some s := by
  unfold keptSlice at kept
  split at kept <;> simp_all

theorem i32FromBeBytes_neg_iff (b0 b1 b2 b3 : UInt8) :
    i32FromBeBytes b0 b1 b2 b3 < 0 ↔ 128 ≤ b0.toNat := by
  have h0 := b0.toNat_lt; have h1 := b1.toNat_lt; have h2 := b2.toNat_lt; have h3 := b3.toNat_lt
  simp only [UInt8.size] at h0 h1 h2 h3
  unfold i32FromBeBytes
  dsimp only
  split <;> omega

theorem collectionLength_short {slice : Bytes} (short : slice.length < 4) :
    collectionLength slice = .error (.tooFewBytes slice.length) := by
  match slice, short with
  | [], _ | [_], _ | [_, _], _ | [_, _, _], _ => rfl

theorem collectionLength_eq_ok_iff (slice : Bytes) (n : Nat) :
    collectionLength slice = .ok n ↔ ∃ b0 b1 b2 b3 rest, slice = b0 :: b1 :: b2 :: b3 :: rest ∧
      0 ≤ i32FromBeBytes b0 b1 b2 b3 ∧ (n : Int) = i32FromBeBytes b0 b1 b2 b3 := by
  match slice with
  | b0 :: b1 :: b2 :: b3 :: rest =>
    simp only [collectionLength, List.cons.injEq]
    constructor
    · intro counted
      split at counted
      · cases counted; exact ⟨b0, b1, b2, b3, rest, ⟨rfl, rfl, rfl, rfl, rfl⟩, by omega, by omega⟩
      · cases counted
    · rintro ⟨c0, c1, c2, c3, r, ⟨rfl, rfl, rfl, rfl, rfl⟩, nonneg, eq⟩
      simp [nonneg]; omega
  | [] | [_] | [_, _] | [_, _, _] => simp [collectionLength]

theorem collectionLength_error_iff (slice : Bytes) :
    (∃ e, collectionLength slice = .error e) ↔ slice.length < 4 ∨
      ∃ b0 b1 b2 b3 rest, slice = b0 :: b1 :: b2 :: b3 :: rest ∧ i32FromBeBytes b0 b1 b2 b3 < 0 := by
  match slice with
  | b0 :: b1 :: b2 :: b3 :: rest =>
    constructor
    · rintro ⟨e, failed⟩
      simp only [collectionLength] at failed
      split at failed
      · cases failed
      · exact .inr ⟨b0, b1, b2, b3, rest, rfl, by omega⟩
    · rintro (short | ⟨c0, c1, c2, c3, r, same, negative⟩)
      · simp at short; omega
      · simp only [List.cons.injEq] at same
        obtain ⟨rfl, rfl, rfl, rfl, rfl⟩ := same
        exact ⟨.negativeLength (i32FromBeBytes b0 b1 b2 b3),
          by simp [collectionLength, not_le.mpr negative]⟩
  | [] | [_] | [_, _] | [_, _, _] => simp [collectionLength]

/-- The spec's list of types whose present empty slice is kept: collections, UDTs,
    duration, counter, ascii, text and blob. -/
def KeepsEmptySlice (typ : ColumnType) : Prop :=
  (∃ frozen c, typ = .collection frozen c) ∨
    (∃ frozen name keyspace fields, typ = .userDefinedType frozen name keyspace fields) ∨
    typ = .native .duration ∨ typ = .native .counter ∨ typ = .native .ascii ∨
    typ = .native .text ∨ typ = .native .blob

theorem keepsEmpty_iff (typ : ColumnType) : keepsEmpty typ = true ↔ KeepsEmptySlice typ := by
  cases typ with
  | native t => cases t <;> simp [keepsEmpty, KeepsEmptySlice]
  | _ => simp [keepsEmpty, KeepsEmptySlice]

theorem keptSlice_collection (frozen : Bool) (c : CollectionType) (v : Option Bytes) :
    keptSlice (.collection frozen c) v = v := rfl

theorem determineValueItemCount_eq_error_iff (typ : ColumnType) (slice : Option Bytes)
    (lengthError : CollectionLengthDeserializationError) :
    determineValueItemCount typ slice = .error lengthError ↔
      (∃ frozen c, typ = .collection frozen c) ∧ ∃ s, slice = some s ∧
        collectionLength s = .error lengthError := by
  cases slice with
  | none => simp [determineValueItemCount]
  | some s =>
    cases typ with
    | collection frozen c =>
      simp only [determineValueItemCount]
      cases length : collectionLength s <;> simp [Except.map, length]
    | _ => simp [determineValueItemCount]

theorem determineValueItemCount_error_iff (typ : ColumnType) (slice : Option Bytes) :
    (∃ e, determineValueItemCount typ slice = .error e) ↔
      (∃ frozen c, typ = .collection frozen c) ∧ ∃ s, slice = some s ∧
        ∃ e, collectionLength s = .error e := by
  simp only [determineValueItemCount_eq_error_iff]
  constructor
  · rintro ⟨e, collection, s, rfl, failed⟩
    exact ⟨collection, s, rfl, e, failed⟩
  · rintro ⟨collection, s, rfl, e, failed⟩
    exact ⟨e, collection, s, rfl, failed⟩

/-- The count of a present slice: the length prefix for collections, the arity for tuples,
    the field count for UDTs, and none for native types. -/
theorem determineValueItemCount_some {typ : ColumnType} {s : Bytes} {count : Option Nat}
    (counted : determineValueItemCount typ (some s) = .ok count) :
    (∀ frozen c, typ = .collection frozen c → ∃ b0 b1 b2 b3 rest n,
      s = b0 :: b1 :: b2 :: b3 :: rest ∧ count = some n ∧ (n : Int) = i32FromBeBytes b0 b1 b2 b3) ∧
    (∀ types, typ = .tuple types → count = some types.length) ∧
    (∀ frozen name keyspace fields, typ = .userDefinedType frozen name keyspace fields →
      count = some fields.length) ∧
    (∀ t, typ = .native t → count = none) := by
  cases typ with
  | collection frozen c =>
    simp only [determineValueItemCount] at counted
    cases length : collectionLength s with
    | error e => simp [length, Except.map] at counted
    | ok n =>
      simp only [length, Except.map, Except.ok.injEq] at counted
      obtain ⟨b0, b1, b2, b3, rest, rfl, -, eq⟩ := (collectionLength_eq_ok_iff s n).mp length
      simp only [reduceCtorEq, false_implies, implies_true, and_true, ColumnType.collection.injEq]
      rintro _ _ -
      exact ⟨b0, b1, b2, b3, rest, n, rfl, counted.symm, eq⟩
  | tuple types =>
    simp only [determineValueItemCount, Except.ok.injEq] at counted
    refine ⟨by simp, ?_, by simp, by simp⟩
    rintro _ ⟨⟩; exact counted.symm
  | userDefinedType frozen name keyspace fields =>
    simp only [determineValueItemCount, Except.ok.injEq] at counted
    refine ⟨by simp, by simp, ?_, by simp⟩
    rintro _ _ _ _ ⟨⟩; exact counted.symm
  | native t => simp_all [determineValueItemCount]

theorem deserialize_eq_ok_iff (typ : ColumnType) (v : Option Bytes) (raw : CassRawValue) :
    CassRawValue.deserialize typ v = .ok raw ↔ raw.typ = typ ∧ raw.slice = keptSlice typ v ∧
      determineValueItemCount typ (keptSlice typ v) = .ok raw.itemCount := by
  unfold CassRawValue.deserialize
  dsimp only
  cases counted : determineValueItemCount typ (keptSlice typ v) <;> cases raw <;>
    simp only [Except.ok.injEq, CassRawValue.mk.injEq, reduceCtorEq, false_iff, not_and] <;>
    aesop

/-- The value decoder fails only on the length prefix of a present collection cell, and its
    error carries that prefix's fault. -/
theorem deserialize_eq_error_iff (typ : ColumnType) (v : Option Bytes) (err : DeserializationError) :
    CassRawValue.deserialize typ v = .error err ↔ ∃ frozen c s lengthError,
      typ = .collection frozen c ∧ v = some s ∧ collectionLength s = .error lengthError ∧
        err = .collectionLength lengthError := by
  unfold CassRawValue.deserialize
  dsimp only
  cases counted : determineValueItemCount typ (keptSlice typ v) with
  | ok count =>
    simp only [reduceCtorEq, false_iff, not_exists, not_and]
    rintro frozen c s lengthError rfl rfl failed -
    simp [determineValueItemCount, keptSlice_collection, failed, Except.map] at counted
  | error found =>
    obtain ⟨⟨frozen, c, rfl⟩, s, kept, failed⟩ :=
      (determineValueItemCount_eq_error_iff _ _ _).mp counted
    rw [keptSlice_collection] at kept
    subst kept
    simp only [Except.error.injEq]
    constructor
    · rintro rfl
      exact ⟨frozen, c, s, found, rfl, rfl, failed, rfl⟩
    · rintro ⟨_, _, _, lengthError, ⟨⟩, ⟨⟩, failed', rfl⟩
      rw [failed] at failed'
      cases failed'
      rfl

theorem deserialize_error_iff (typ : ColumnType) (v : Option Bytes) :
    (∃ e, CassRawValue.deserialize typ v = .error e) ↔
      ∃ e, determineValueItemCount typ (keptSlice typ v) = .error e := by
  unfold CassRawValue.deserialize
  dsimp only
  split <;> simp_all

end RawValueDecoder
