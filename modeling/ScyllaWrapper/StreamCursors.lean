import ScyllaWrapper.QueryResult
import ScyllaWrapper.Cursor

/-!
The stream-backed cursors of iterator.rs, over the rows of a result, the elements of a list or
set, and the entries of a map. Each wraps one of the driver's lazy iterators, whose items are
each decoded or failed. A failed item is logged and the call returns false; no cursor records
that it returned false, so a later call asks the driver's iterator again.
-/
namespace StreamCursors
open CassTypes RawValueDecoder RawRowDecoder ResultContainer Cursors

/-- The driver's lazy iterators as the wrapper sees them: the items not yet yielded. An
    exhausted iterator keeps yielding `None`. -/
def streamNext {α : Type} : List α → Option α × List α
  | [] => (none, [])
  | a :: rest => (some a, rest)

theorem streamNext_eq {α : Type} (items : List α) : streamNext items = (items.head?, items.tail) := by
  cases items <;> rfl

/-- A decoded item becomes the current element; a failed one is logged and gives none. -/
def keepDecoded {α β : Type} (convert : α → β) (item : Option (Except DeserializationError α)) :
    Option β :=
  (item.bind fun res => match res with | .ok a => some a | .error _ => none).map convert

/-- What the result iterator makes of a framed row. iterator.rs:28 and 850-854 decode it with the
    driver's `Row`, whose deserializer is not under src/, and iterator.rs:56 passes that `Row` to
    `CassRow::from_row_and_metadata`, which takes the row's `CassRawValue`s: as written the call
    does not type-check. The deserializer and the conversion the call needs are one parameter. -/
abbrev RowDecoder :=
  List ColumnSpec → List (Option Bytes) → Except DeserializationError (List CassRawValue)

structure CassRowsResultIterator where
  iterator : TypedRowIterator (List CassRawValue)
  resultMetadata : CassResultMetadata
  currentRow : Option CassRow

inductive CassResultIterator where
  | nonRows
  | rows (rowsResultIterator : CassRowsResultIterator)

def CassResultIterator.next : CassResultIterator → CassResultIterator × Bool
  | .nonRows => (.nonRows, false)
  | .rows rowsResultIterator =>
    let (item, iterator) := rowsResultIterator.iterator.next
    let newRow := keepDecoded
      (fun row => CassRow.fromRowAndMetadata row rowsResultIterator.resultMetadata) item
    (.rows { rowsResultIterator with iterator := iterator, currentRow := newRow }, newRow.isSome)

structure CassListlikeIterator where
  iterator : List (Except DeserializationError CassRawValue)
  valueDataType : CassDataType
  currentValue : Option CassValue

def CassListlikeIterator.next (self : CassListlikeIterator) : CassListlikeIterator × Bool :=
  let (item, iterator) := streamNext self.iterator
  let nextValue := keepDecoded (fun value => (⟨value, self.valueDataType⟩ : CassValue)) item
  ({ self with iterator := iterator, currentValue := nextValue }, nextValue.isSome)

structure CassMapIterator where
  iterator : List (Except DeserializationError (CassRawValue × CassRawValue))
  keyValueTypes : CassDataType × CassDataType
  currentEntry : Option (CassValue × CassValue)

/-- A decoded entry with the key and value types resolved at construction. -/
def toEntry (keyValueTypes : CassDataType × CassDataType) (entry : CassRawValue × CassRawValue) :
    CassValue × CassValue :=
  (⟨entry.1, keyValueTypes.1⟩, ⟨entry.2, keyValueTypes.2⟩)

def CassMapIterator.next (self : CassMapIterator) : CassMapIterator × Bool :=
  let (item, iterator) := streamNext self.iterator
  let newEntry := keepDecoded (toEntry self.keyValueTypes) item
  ({ self with iterator := iterator, currentEntry := newEntry }, newEntry.isSome)

inductive CassMapCollectionIteratorState where
  | key
  | value
  deriving DecidableEq, Repr

/-- One call moves to the next key or value; the wrapped entry cursor moves every other call. -/
structure CassMapCollectionIterator where
  iterator : CassMapIterator
  state : Option CassMapCollectionIteratorState

def CassMapCollectionIterator.next (self : CassMapCollectionIterator) :
    CassMapCollectionIterator × Bool :=
  let (newState, nextResult, iterator) : CassMapCollectionIteratorState × Bool × CassMapIterator :=
    match self.state with
    | none => (.key, (self.iterator.next).2, (self.iterator.next).1)
    | some .key => (.value, true, self.iterator)
    | some .value => (.key, (self.iterator.next).2, (self.iterator.next).1)
  ({ iterator := iterator, state := if nextResult then some newState else self.state }, nextResult)

/-- `CassListlikeIterator::new_from_value`. The driver's `ListlikeIterator` type check and
    deserializer are parameters; an outer `Except.error` is a panic. -/
def CassListlikeIterator.newFromValue
    (typeCheck : ColumnType → Except String Unit)
    (listlikeIterator : ColumnType → Option Bytes →
      Except DeserializationError (List (Except DeserializationError CassRawValue)))
    (value : CassValue) : Except String (Except NonNullDeserializationError CassListlikeIterator) :=
  match getNonNull typeCheck listlikeIterator value with
  | .error e => .ok (.error e)
  | .ok iterator =>
    match value.valueType with
    | .list typ _ | .set typ _ =>
      match typ with
      | some itemType => .ok (.ok ⟨iterator, itemType, none⟩)
      | none => .error "List or set type provided from result metadata should be fully typed!"
    | _ => .error "Expected list or set type. Typecheck should have prevented such scenario!"

/-- `CassMapIterator::new_from_value`, with the driver's `MapIterator` as parameters. -/
def CassMapIterator.newFromValue
    (typeCheck : ColumnType → Except String Unit)
    (mapIterator : ColumnType → Option Bytes →
      Except DeserializationError (List (Except DeserializationError (CassRawValue × CassRawValue))))
    (value : CassValue) : Except String (Except NonNullDeserializationError CassMapIterator) :=
  match getNonNull typeCheck mapIterator value with
  | .error e => .ok (.error e)
  | .ok iterator =>
    match value.valueType with
    | .map (.keyAndValue keyType valType) _ => .ok (.ok ⟨iterator, (keyType, valType), none⟩)
    | .map _ _ =>
      .error "Untyped or half-typed map received in result metadata. Something really bad happened!"
    | _ => .error "Expected map type. Typecheck should have prevented such scenario!"

def CassMapCollectionIterator.newFromValue
    (typeCheck : ColumnType → Except String Unit)
    (mapIterator : ColumnType → Option Bytes →
      Except DeserializationError (List (Except DeserializationError (CassRawValue × CassRawValue))))
    (value : CassValue) :
    Except String (Except NonNullDeserializationError CassMapCollectionIterator) :=
  (CassMapIterator.newFromValue typeCheck mapIterator value).map
    fun made => made.map fun iterator => ⟨iterator, none⟩

/-! ### Runs over a stream -/

def isDecoded {α : Type} : Option (Except DeserializationError α) → Bool
  | some (.ok _) => true
  | _ => false

@[simp] theorem keepDecoded_isSome {α β : Type} (convert : α → β)
    (item : Option (Except DeserializationError α)) :
    (keepDecoded convert item).isSome = isDecoded item := by
  rcases item with _ | _ | _ <;> rfl

theorem keepDecoded_eq_bind_toOption {α β : Type} (convert : α → β)
    (item : Option (Except DeserializationError α)) :
    keepDecoded convert item = (item.map (Except.map convert)).bind Except.toOption := by
  rcases item with _ | _ | _ <;> rfl

theorem keepDecoded_eq_some_iff {α β : Type} {convert : α → β}
    {item : Option (Except DeserializationError α)} {b : β} :
    keepDecoded convert item = some b ↔ ∃ a, item = some (.ok a) ∧ convert a = b := by
  rcases item with _ | _ | _ <;> simp [keepDecoded]

@[simp] theorem isDecoded_none {α : Type} :
    isDecoded (none : Option (Except DeserializationError α)) = false := rfl

@[simp] theorem isDecoded_some_map {α β : Type} (convert : α → β)
    (item : Except DeserializationError α) :
    isDecoded (some (item.map convert)) = isDecoded (some item) := by
  cases item <;> rfl

section Streams
variable {σ α : Type} (items : σ → List (Except DeserializationError α)) (step : σ → σ × Bool)

/-- A cursor that takes one item of its stream per call and succeeds iff it was decoded. -/
def StreamStep : Prop :=
  ∀ s, items (step s).1 = (items s).tail ∧ (step s).2 = isDecoded (items s).head?

/-- A stream cursor that, after each call, stands on the item it took when that item decoded. -/
def StreamReads (current : σ → Option α) : Prop :=
  ∀ s, current (step s).1 = (items s).head?.bind Except.toOption

variable {items step}

theorem StreamStep.afterCalls (stream : StreamStep items step) (k : Nat) (s : σ) :
    items (afterCalls step k s) = (items s).drop k := by
  induction k generalizing s with
  | zero => rfl
  | succ k ih => rw [Cursors.afterCalls, ih, (stream s).1, List.drop_tail]

theorem StreamStep.callResult (stream : StreamStep items step) (s : σ) (k : Nat) :
    callResult step s k = isDecoded (items s)[k]? := by
  rw [Cursors.callResult, (stream _).2, stream.afterCalls, List.head?_drop]

theorem StreamReads.afterCalls {current : σ → Option α} (stream : StreamStep items step)
    (reads : StreamReads items step current) (s : σ) (k : Nat) :
    current (Cursors.afterCalls step (k + 1) s) = (items s)[k]?.bind Except.toOption := by
  rw [afterCalls_succ, reads, stream.afterCalls, List.head?_drop]

end Streams

def CassMapCollectionIterator.designated (self : CassMapCollectionIterator) : Option CassValue :=
  match self.state, self.iterator.currentEntry with
  | some .key, some (key, _) => some key
  | some .value, some (_, value) => some value
  | _, _ => none

def flattenEntries {α : Type} : List (α × α) → List α
  | [] => []
  | (key, value) :: rest => key :: value :: flattenEntries rest

/-- The map-collection cursor over a map whose entries all decode, after `calls` calls. -/
def mapCollectionAfter (entries : List (CassRawValue × CassRawValue))
    (keyValueTypes : CassDataType × CassDataType) : Nat → CassMapCollectionIterator
  | 0 => ⟨⟨entries.map .ok, keyValueTypes, none⟩, none⟩
  | p + 1 =>
    if p < 2 * entries.length then
      ⟨⟨(entries.map .ok).drop (p / 2 + 1), keyValueTypes, (entries[p / 2]?).map (toEntry keyValueTypes)⟩,
        some (if p % 2 = 0 then .key else .value)⟩
    else ⟨⟨[], keyValueTypes, none⟩, if entries.length = 0 then none else some .value⟩

theorem map_drop_head? {α : Type} (entries : List α) (k : Nat) :
    ((entries.map (.ok : α → Except DeserializationError α)).drop k).head? = (entries[k]?).map .ok := by
  rw [List.head?_drop, List.getElem?_map]

theorem mapCollectionAfter_step (entries : List (CassRawValue × CassRawValue))
    (keyValueTypes : CassDataType × CassDataType) (p : Nat) :
    (mapCollectionAfter entries keyValueTypes p).next =
      (mapCollectionAfter entries keyValueTypes (p + 1), decide (p < 2 * entries.length)) := by
  cases p with
  | zero =>
    cases entries with
    | nil => rfl
    | cons e es =>
      simp [mapCollectionAfter, CassMapCollectionIterator.next, CassMapIterator.next, streamNext,
        keepDecoded]
  | succ p =>
    by_cases inside : p < 2 * entries.length
    · rcases Nat.mod_two_eq_zero_or_one p with even | odd
      · have stays : p + 1 < 2 * entries.length := by omega
        simp [mapCollectionAfter, inside, stays, even, CassMapCollectionIterator.next,
          show (p + 1) / 2 = p / 2 by omega, show (p + 1) % 2 = 1 by omega]
      · by_cases more : p + 1 < 2 * entries.length
        · have present : p / 2 + 1 < entries.length := by omega
          simp [mapCollectionAfter, inside, more, odd, CassMapCollectionIterator.next,
            CassMapIterator.next, streamNext_eq, keepDecoded, map_drop_head?, List.tail_drop,
            present, show (p + 1) / 2 = p / 2 + 1 by omega, show (p + 1) % 2 = 0 by omega]
        · have gone : entries[p / 2 + 1]? = none := List.getElem?_eq_none (by omega)
          have nonempty : entries.length ≠ 0 := by omega
          simp [mapCollectionAfter, inside, more, odd, CassMapCollectionIterator.next,
            CassMapIterator.next, streamNext_eq, keepDecoded, map_drop_head?, List.tail_drop,
            gone, nonempty]
          omega
    · have past : ¬ p + 1 < 2 * entries.length := by omega
      by_cases empty : entries.length = 0
      · simp [mapCollectionAfter, inside, past, empty, CassMapCollectionIterator.next,
          CassMapIterator.next, streamNext_eq, keepDecoded]
      · simp [mapCollectionAfter, inside, past, empty, CassMapCollectionIterator.next,
          CassMapIterator.next, streamNext_eq, keepDecoded]

theorem mapCollectionAfter_run (entries : List (CassRawValue × CassRawValue))
    (keyValueTypes : CassDataType × CassDataType) (k : Nat) :
    afterCalls CassMapCollectionIterator.next k (mapCollectionAfter entries keyValueTypes 0) =
      mapCollectionAfter entries keyValueTypes k := by
  induction k with
  | zero => rfl
  | succ k ih => rw [afterCalls_succ, ih, mapCollectionAfter_step]

theorem mapCollectionAfter_callResult (entries : List (CassRawValue × CassRawValue))
    (keyValueTypes : CassDataType × CassDataType) (k : Nat) :
    callResult CassMapCollectionIterator.next (mapCollectionAfter entries keyValueTypes 0) k =
      decide (k < 2 * entries.length) := by
  rw [callResult, mapCollectionAfter_run, mapCollectionAfter_step]

theorem flattenEntries_length {α : Type} (entries : List (α × α)) :
    (flattenEntries entries).length = 2 * entries.length := by
  induction entries with
  | nil => rfl
  | cons e entries ih => simp [flattenEntries, ih]; omega

theorem flattenEntries_getElem? {α : Type} (entries : List (α × α)) (k : Nat) :
    (flattenEntries entries)[k]? =
      (entries[k / 2]?).map fun entry => if k % 2 = 0 then entry.1 else entry.2 := by
  induction entries generalizing k with
  | nil => simp [flattenEntries]
  | cons e entries ih =>
    obtain ⟨key, value⟩ := e
    match k with
    | 0 | 1 => simp [flattenEntries]
    | k + 2 =>
      simp [flattenEntries, ih, show (k + 2) / 2 = k / 2 + 1 by omega,
        show (k + 2) % 2 = k % 2 by omega]

/-- Over a map whose entries all decode, call `k + 1` of the map-collection cursor returns what
    the flattened positional cursor over `2 × entry_count` positions returns; after a successful
    call it stands on the key when `k` is even, on the value otherwise, the wrapped entry cursor
    holds entry `k / 2` and has taken `⌈(k + 1) / 2⌉` entries, and the element it designates
    is element `k` of the flattened sequence. -/
theorem map_collection_iterator_refines_flattened_cursor
    (entries : List (CassRawValue × CassRawValue)) (keyValueTypes : CassDataType × CassDataType)
    (k : Nat) :
    let fresh : CassMapCollectionIterator := ⟨⟨entries.map .ok, keyValueTypes, none⟩, none⟩
    let flat := flattenEntries (entries.map (toEntry keyValueTypes))
    callResult CassMapCollectionIterator.next fresh k =
      callResult (fun position => advancePosition position flat.length) none k ∧
    callResult CassMapCollectionIterator.next fresh k = decide (k < 2 * entries.length) ∧
    (k < 2 * entries.length →
      let after := afterCalls CassMapCollectionIterator.next (k + 1) fresh
      (after.state = some .key ↔ k % 2 = 0) ∧ after.state ≠ none ∧
      after.iterator.currentEntry = (entries[k / 2]?).map (toEntry keyValueTypes) ∧
      after.iterator.iterator = (entries.map .ok).drop ((k + 2) / 2) ∧
      after.designated = flat[k]?) := by
  intro fresh flat
  have positional : PositionalStep id (fun position => advancePosition position flat.length)
      flat.length := fun _ => rfl
  have flatLength : flat.length = 2 * entries.length := by simp [flat, flattenEntries_length]
  have calls : callResult CassMapCollectionIterator.next fresh k = decide (k < 2 * entries.length) :=
    mapCollectionAfter_callResult entries keyValueTypes k
  refine ⟨by rw [calls, ← flatLength]; exact (positional.callResult k).symm, calls,
    fun inside => ?_⟩
  have after : afterCalls CassMapCollectionIterator.next (k + 1) fresh =
      mapCollectionAfter entries keyValueTypes (k + 1) := mapCollectionAfter_run _ _ _
  have present : k / 2 < entries.length := by omega
  simp only [after, mapCollectionAfter, inside, if_true, flat, flattenEntries_getElem?,
    List.getElem?_map, List.getElem?_eq_getElem present, Option.map_some',
    show (k + 2) / 2 = k / 2 + 1 by omega]
  rcases Nat.mod_two_eq_zero_or_one k with parity | parity <;>
    simp [parity, CassMapCollectionIterator.designated, toEntry]

end StreamCursors
