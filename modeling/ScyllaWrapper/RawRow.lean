import ScyllaWrapper.RawValue

/-!
`CassRawRow::deserialize`: the row loop that decodes each column of a framed row with the raw
value decoder and stops at the first column that fails, naming its index and name. The driver's
`ColumnIterator` is modelled after framing: one cell per column spec.
-/
namespace RawRowDecoder
open CassTypes RawValueDecoder

/-- Of the driver's `ColumnSpec`, the column name and type (the table spec is not read). -/
structure ColumnSpec where
  name : String
  typ : ColumnType

structure RawColumn where
  index : Nat
  spec : ColumnSpec
  slice : Option Bytes

/-- The driver's `ColumnIterator` over a framed row, numbering columns from `start`. -/
def columnIteratorFrom (start : Nat) :
    List (ColumnSpec × Option Bytes) → List (Except DeserializationError RawColumn)
  | [] => []
  | (spec, slice) :: rest => .ok ⟨start, spec, slice⟩ :: columnIteratorFrom (start + 1) rest

def columnIterator (row : List (ColumnSpec × Option Bytes)) :
    List (Except DeserializationError RawColumn) :=
  columnIteratorFrom 0 row

structure CassRawRow where
  columns : List CassRawValue

/-- The `while let Some(column) = row.next().transpose()?` loop, pushing onto `columns`. -/
def deserializeLoop (columns : List CassRawValue) :
    List (Except DeserializationError RawColumn) → Except DeserializationError (List CassRawValue)
  | [] => .ok columns
  | .error e :: _ => .error e
  | .ok column :: rest =>
    match CassRawValue.deserialize column.spec.typ column.slice with
    | .error err => .error (.columnDeserializationFailed column.index column.spec.name err)
    | .ok value => deserializeLoop (columns ++ [value]) rest

/-- `<CassRawRow as DeserializeRow>::deserialize`; its type check accepts every row. -/
def CassRawRow.deserialize (row : List (Except DeserializationError RawColumn)) :
    Except DeserializationError CassRawRow :=
  (deserializeLoop [] row).map CassRawRow.mk

theorem CassRawRow.deserialize_eq_ok_iff (row : List (Except DeserializationError RawColumn))
    (r : CassRawRow) : CassRawRow.deserialize row = .ok r ↔ deserializeLoop [] row = .ok r.columns := by
  unfold CassRawRow.deserialize
  cases deserializeLoop [] row <;> cases r <;> simp [Except.map]

theorem map_eq_error_iff {ε α β : Type} (f : α → β) (x : Except ε α) (e : ε) :
    x.map f = .error e ↔ x = .error e := by
  cases x <;> simp [Except.map]

theorem CassRawRow.deserialize_eq_error_iff (row : List (Except DeserializationError RawColumn))
    (e : DeserializationError) :
    CassRawRow.deserialize row = .error e ↔ deserializeLoop [] row = .error e :=
  map_eq_error_iff _ _ e

theorem exists_of_forall₂ {α β : Type} {R : α → β → Prop} :
    ∀ {l₁ : List α} {l₂ : List β}, List.Forall₂ R l₁ l₂ → ∀ a ∈ l₁, ∃ b, R a b
  | _, _, .nil => by simp
  | _, _, .cons head tail => by
    rintro a (_ | ⟨_, mem⟩)
    exacts [⟨_, head⟩, exists_of_forall₂ tail a mem]

/-- The column decoder of the loop, for one framed column. -/
def Decodes (column : ColumnSpec × Option Bytes) (raw : CassRawValue) : Prop :=
  CassRawValue.deserialize column.1.typ column.2 = .ok raw

theorem deserializeLoop_append (columns : List CassRawValue)
    (row : List (Except DeserializationError RawColumn)) :
    deserializeLoop columns row = (deserializeLoop [] row).map (columns ++ ·) := by
  induction row generalizing columns with
  | nil => simp [deserializeLoop, Except.map]
  | cons item rest ih =>
    rcases item with e | column
    · rfl
    · simp only [deserializeLoop]
      split
      · rfl
      · rw [ih, List.nil_append, ih [_]]
        cases deserializeLoop [] rest <;> simp [Except.map]

/-- A framed row decodes to exactly one value per column, in order, or fails at the first
    failing column with that column's index and name. -/
theorem deserializeLoop_columnIteratorFrom (start : Nat) (row : List (ColumnSpec × Option Bytes)) :
    (∀ values, deserializeLoop [] (columnIteratorFrom start row) = .ok values ↔
      List.Forall₂ Decodes row values) ∧
    (∀ e, deserializeLoop [] (columnIteratorFrom start row) = .error e ↔
      ∃ before column after err, row = before ++ column :: after ∧
        (∀ c ∈ before, ∃ raw, Decodes c raw) ∧
        CassRawValue.deserialize column.1.typ column.2 = .error err ∧
        e = .columnDeserializationFailed (start + before.length) column.1.name err) := by
  induction row generalizing start with
  | nil => simp [columnIteratorFrom, deserializeLoop, eq_comm]
  | cons column rest ih =>
    obtain ⟨spec, slice⟩ := column
    simp only [columnIteratorFrom, deserializeLoop]
    cases decoded : CassRawValue.deserialize spec.typ slice with
    | error err =>
      refine ⟨fun values => ?_, fun e => ?_⟩
      · simp only [reduceCtorEq, false_iff]
        rintro (_ | ⟨ok, _⟩)
        simp [Decodes, decoded] at ok
      · constructor
        · rintro ⟨⟩
          exact ⟨[], (spec, slice), rest, err, rfl, by simp, decoded, by simp⟩
        · rintro ⟨before, c, after, err', split, prefixOk, failed, rfl⟩
          cases before with
          | nil => cases split; simp_all
          | cons b before =>
            cases split
            obtain ⟨raw, ok⟩ := prefixOk _ (List.mem_cons_self _ _)
            simp [Decodes, decoded] at ok
    | ok value =>
      dsimp only
      rw [List.nil_append, deserializeLoop_append]
      obtain ⟨okRest, errRest⟩ := ih (start + 1)
      refine ⟨fun values => ?_, fun e => ?_⟩
      · cases values with
        | nil => cases deserializeLoop [] (columnIteratorFrom (start + 1) rest) <;> simp [Except.map]
        | cons v values =>
          rw [List.forall₂_cons, ← okRest]
          cases deserializeLoop [] (columnIteratorFrom (start + 1) rest) <;>
            simp [Except.map, Decodes, decoded, eq_comm, and_comm]
      · rw [map_eq_error_iff, errRest]
        constructor
        · rintro ⟨before, c, after, err, rfl, prefixOk, failed, rfl⟩
          refine ⟨(spec, slice) :: before, c, after, err, rfl, ?_, failed, by simp; omega⟩
          simp only [List.mem_cons, forall_eq_or_imp]
          exact ⟨⟨value, decoded⟩, prefixOk⟩
        · rintro ⟨before, c, after, err, split, prefixOk, failed, rfl⟩
          cases before with
          | nil => cases split; simp_all
          | cons b before =>
            cases split
            refine ⟨before, c, after, err, rfl, fun x mem => prefixOk x (by simp [mem]), failed, ?_⟩
            simp; omega

/-- A framed row fails to decode exactly at its first column whose cell is a collection with a
    short or negative length prefix; the error names that column's position and name and the
    prefix's fault. -/
theorem CassRawRow.deserialize_columnIterator_eq_error_iff (row : List (ColumnSpec × Option Bytes))
    (e : DeserializationError) :
    CassRawRow.deserialize (columnIterator row) = .error e ↔
      ∃ before column after frozen c s lengthError, row = before ++ column :: after ∧
        (∀ cell ∈ before, ∃ raw, CassRawValue.deserialize cell.1.typ cell.2 = .ok raw) ∧
        column.1.typ = .collection frozen c ∧ column.2 = some s ∧
        collectionLength s = .error lengthError ∧
        e = .columnDeserializationFailed before.length column.1.name
          (.collectionLength lengthError) := by
  rw [CassRawRow.deserialize_eq_error_iff, columnIterator,
    (deserializeLoop_columnIteratorFrom 0 row).2]
  constructor
  · rintro ⟨before, column, after, err, rfl, prefixOk, failed, rfl⟩
    obtain ⟨frozen, c, s, lengthError, typed, present, short, rfl⟩ :=
      (RawValueDecoder.deserialize_eq_error_iff _ _ _).mp failed
    exact ⟨before, column, after, frozen, c, s, lengthError, rfl, prefixOk, typed, present, short,
      by rw [Nat.zero_add]⟩
  · rintro ⟨before, column, after, frozen, c, s, lengthError, rfl, prefixOk, typed, present, short,
      rfl⟩
    exact ⟨before, column, after, _, rfl, prefixOk, (RawValueDecoder.deserialize_eq_error_iff _ _ _).mpr
      ⟨frozen, c, s, lengthError, typed, present, short, rfl⟩, by rw [Nat.zero_add]⟩

theorem value_decoder_failure_iff (typ : ColumnType) (v : Option Bytes) :
    (∃ e, CassRawValue.deserialize typ v = .error e) ↔
      (∃ frozen c, typ = .collection frozen c) ∧ ∃ s, v = some s ∧
        (s.length < 4 ∨ ∃ b0 b1 b2 b3 rest, s = b0 :: b1 :: b2 :: b3 :: rest ∧
          i32FromBeBytes b0 b1 b2 b3 < 0) := by
  rw [deserialize_error_iff, determineValueItemCount_error_iff]
  constructor
  · rintro ⟨⟨frozen, c, rfl⟩, s, kept, failed⟩
    exact ⟨⟨frozen, c, rfl⟩, s, kept, (collectionLength_error_iff s).mp failed⟩
  · rintro ⟨⟨frozen, c, rfl⟩, s, rfl, failed⟩
    exact ⟨⟨frozen, c, rfl⟩, s, rfl, (collectionLength_error_iff s).mpr failed⟩

theorem value_decoder_success {typ : ColumnType} {v : Option Bytes} {raw : CassRawValue}
    (decoded : CassRawValue.deserialize typ v = .ok raw) :
    raw.typ = typ ∧
    (raw.slice = none ↔ v = none ∨ (v = some [] ∧ ¬ KeepsEmptySlice typ)) ∧
    (raw.slice = none → raw.itemCount = none) ∧
    ∀ s, raw.slice = some s → v = some s ∧
      (∀ frozen c, typ = .collection frozen c → ∃ b0 b1 b2 b3 rest n,
        s = b0 :: b1 :: b2 :: b3 :: rest ∧ raw.itemCount = some n ∧
        (n : Int) = i32FromBeBytes b0 b1 b2 b3) ∧
      (∀ types, typ = .tuple types → raw.itemCount = some types.length) ∧
      (∀ frozen name keyspace fields, typ = .userDefinedType frozen name keyspace fields →
        raw.itemCount = some fields.length) ∧
      (∀ t, typ = .native t → raw.itemCount = none) := by
  obtain ⟨rfl, kept, counted⟩ := (deserialize_eq_ok_iff typ v raw).mp decoded
  refine ⟨rfl, ?_, ?_, fun s present => ?_⟩
  · rw [kept, keptSlice_eq_none_iff, ← keepsEmpty_iff]
    simp
  · intro absent
    rw [← kept, absent] at counted
    simpa [determineValueItemCount] using counted.symm
  · rw [kept] at present
    rw [present] at counted
    exact ⟨keptSlice_of_ne_none present, determineValueItemCount_some counted⟩

/-- The decoder contract: a framed row decodes iff each of its columns does, to one value per
    column in order, and otherwise fails at its first failing column with that column's index
    and name; each column keeps or nulls its slice and precomputes its item count by type. -/
theorem raw_row_and_value_decoding :
    (∀ row : List (ColumnSpec × Option Bytes),
      ((∃ r, CassRawRow.deserialize (columnIterator row) = .ok r) ↔
        ∀ c ∈ row, ∃ raw, CassRawValue.deserialize c.1.typ c.2 = .ok raw) ∧
      (∀ r, CassRawRow.deserialize (columnIterator row) = .ok r →
        List.Forall₂ (fun c raw => CassRawValue.deserialize c.1.typ c.2 = .ok raw) row r.columns) ∧
      (∀ e, CassRawRow.deserialize (columnIterator row) = .error e →
        ∃ before column after err, row = before ++ column :: after ∧
          (∀ c ∈ before, ∃ raw, CassRawValue.deserialize c.1.typ c.2 = .ok raw) ∧
          CassRawValue.deserialize column.1.typ column.2 = .error err ∧
          e = .columnDeserializationFailed before.length column.1.name err)) ∧
    (∀ (typ : ColumnType) (v : Option Bytes),
      ((∃ e, CassRawValue.deserialize typ v = .error e) ↔
        (∃ frozen c, typ = .collection frozen c) ∧ ∃ s, v = some s ∧
          (s.length < 4 ∨ ∃ b0 b1 b2 b3 rest, s = b0 :: b1 :: b2 :: b3 :: rest ∧
            i32FromBeBytes b0 b1 b2 b3 < 0)) ∧
      ∀ raw, CassRawValue.deserialize typ v = .ok raw →
        raw.typ = typ ∧
        (raw.slice = none ↔ v = none ∨ (v = some [] ∧ ¬ KeepsEmptySlice typ)) ∧
        (raw.slice = none → raw.itemCount = none) ∧
        (∀ s, raw.slice = some s → v = some s ∧
          (∀ frozen c, typ = .collection frozen c → ∃ b0 b1 b2 b3 rest n,
            s = b0 :: b1 :: b2 :: b3 :: rest ∧ raw.itemCount = some n ∧
            (n : Int) = i32FromBeBytes b0 b1 b2 b3) ∧
          (∀ types, typ = .tuple types → raw.itemCount = some types.length) ∧
          (∀ frozen name keyspace fields, typ = .userDefinedType frozen name keyspace fields →
            raw.itemCount = some fields.length) ∧
          (∀ t, typ = .native t → raw.itemCount = none)) ∧
        (∀ valueType, cassValueIsNull ⟨raw, valueType⟩ = true ↔ raw.slice = none) ∧
        (∀ valueType, cassValueItemCount ⟨raw, valueType⟩ = raw.itemCount.getD 0)) := by
  refine ⟨fun row => ?_, fun typ v => ⟨value_decoder_failure_iff typ v, fun raw decoded =>
    ?_⟩⟩
  · obtain ⟨okLaw, errLaw⟩ := deserializeLoop_columnIteratorFrom 0 row
    have okRow : ∀ r, CassRawRow.deserialize (columnIterator row) = .ok r ↔
        List.Forall₂ Decodes row r.columns := fun r => by
      rw [CassRawRow.deserialize_eq_ok_iff, columnIterator, okLaw]
    refine ⟨⟨fun ⟨r, ok⟩ => exists_of_forall₂ ((okRow r).mp ok), fun each => ?_⟩,
      fun r ok => (okRow r).mp ok, fun e failed => ?_⟩
    · cases decoded : deserializeLoop [] (columnIteratorFrom 0 row) with
      | ok values => exact ⟨⟨values⟩, (CassRawRow.deserialize_eq_ok_iff _ _).mpr decoded⟩
      | error e =>
        obtain ⟨before, column, after, err, rfl, -, failed, -⟩ := (errLaw e).mp decoded
        obtain ⟨raw, ok⟩ := each column (by simp)
        simp [ok] at failed
    · obtain ⟨before, column, after, err, split, prefixOk, columnFailed, rfl⟩ :=
        (errLaw e).mp ((CassRawRow.deserialize_eq_error_iff _ _).mp failed)
      exact ⟨before, column, after, err, split, prefixOk, columnFailed, by simp⟩
  · obtain ⟨typed, nulls, nullCount, present⟩ := value_decoder_success decoded
    exact ⟨typed, nulls, nullCount, present, fun _ => by simp [cassValueIsNull],
      fun _ => rfl⟩

end RawRowDecoder
