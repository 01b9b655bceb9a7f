import ScyllaWrapper.QueryResult

/-!
The value getters of query_result.rs. A typed getter takes a value handle, which may be null,
and returns a status code with what it writes through its output pointer. The driver's
`DeserializeValue` implementation of the getter's Rust type (its type check and its
deserializer) is outside src/ and is a parameter; getters of one family differ only in that
Rust type, and each is the family's definition at its own. The type predicates read the value's
resolved data type; their null-handle `unwrap` is not modelled.
-/
namespace ValueGetters
open CassTypes RawValueDecoder ResultContainer

/-- The driver's `DeserializeValue` implementation of one Rust type, followed by the field the
    getter reads from the deserialized value. -/
structure DeserializeValue (T : Type) where
  typeCheck : ColumnType → Except String Unit
  deserialize : ColumnType → Option Bytes → Except DeserializationError T

/-- The tail of every typed getter: an error is returned as its code, a value is written out. -/
def writeOutput {T : Type} : Except NonNullDeserializationError T → CassError × Option T
  | .ok v => (.ok, some v)
  | .error e => (e.toCassError, none)

/-! ### Getters over any column type -/

/-- `val_ptr_to_ref_ensure_non_null!` and `get_non_null`, as the getters of float, double, bool,
    int8, int16, uint32, int32, inet, decimal and duration do. -/
def cassValueGetNonNull {T : Type} (driver : DeserializeValue T) (value : Option CassValue) :
    CassError × Option T :=
  match value with
  | none => (.libNullValue, none)
  | some val => writeOutput (getNonNull driver.typeCheck driver.deserialize val)

section NonNullFamily
variable {T : Type}

def cassValueGetFloat (f32 : DeserializeValue T) := cassValueGetNonNull f32
def cassValueGetDouble (f64 : DeserializeValue T) := cassValueGetNonNull f64
def cassValueGetBool (bool : DeserializeValue T) := cassValueGetNonNull bool
def cassValueGetInt8 (i8 : DeserializeValue T) := cassValueGetNonNull i8
def cassValueGetInt16 (i16 : DeserializeValue T) := cassValueGetNonNull i16
def cassValueGetUint32 (cqlDate : DeserializeValue T) := cassValueGetNonNull cqlDate
def cassValueGetInt32 (i32 : DeserializeValue T) := cassValueGetNonNull i32
def cassValueGetInet (ipAddr : DeserializeValue T) := cassValueGetNonNull ipAddr
def cassValueGetDecimal (cqlDecimal : DeserializeValue T) := cassValueGetNonNull cqlDecimal
def cassValueGetDuration (cqlDuration : DeserializeValue T) := cassValueGetNonNull cqlDuration

end NonNullFamily

/-- `CassValue::get_bytes_non_null`: the kept slice, whatever the column type. -/
def getBytesNonNull (self : CassValue) : Except NonNullDeserializationError Bytes :=
  match self.value.slice with
  | none => .error .isNull
  | some slice => .ok slice

def cassValueGetBytes (value : Option CassValue) : CassError × Option Bytes :=
  match value with
  | none => (.libNullValue, none)
  | some valueFromRaw => writeOutput (getBytesNonNull valueFromRaw)

/-! ### Getters that match the column type first -/

/-- One arm of the getters that match the column type first: `get_non_null`, where a failed
    type check panics. -/
def getNonNullOrPanic {T : Type} (driver : DeserializeValue T) (val : CassValue) :
    Except String (CassError × Option T) :=
  match getNonNull driver.typeCheck driver.deserialize val with
  | .ok v => .ok (.ok, some v)
  | .error (.typecheck _) => .error "The typecheck unexpectedly failed!"
  | .error e => .ok (e.toCassError, none)

/-- The getters that match `val.value.typ()` before `get_non_null`; `arms` gives the driver type
    of each native type a getter matches, and every other column type is refused. -/
def cassValueGetByColumnType {T : Type} (arms : NativeType → Option (DeserializeValue T))
    (value : Option CassValue) : Except String (CassError × Option T) :=
  match value with
  | none => .ok (.libNullValue, none)
  | some val =>
    match val.value.typ with
    | .native typ =>
      match arms typ with
      | some driver => getNonNullOrPanic driver val
      | none => .ok (.libInvalidValueType, none)
    | _ => .ok (.libInvalidValueType, none)

section ColumnTypeFamily
variable {T : Type}

def int64Arms (bigInt counter cqlTime cqlTimestamp : DeserializeValue T) :
    NativeType → Option (DeserializeValue T)
  | .bigInt => some bigInt
  | .counter => some counter
  | .time => some cqlTime
  | .timestamp => some cqlTimestamp
  | _ => none

def uuidArms (uuid cqlTimeuuid : DeserializeValue T) : NativeType → Option (DeserializeValue T)
  | .uuid => some uuid
  | .timeuuid => some cqlTimeuuid
  | _ => none

def stringArms (str : DeserializeValue T) : NativeType → Option (DeserializeValue T)
  | .ascii | .text => some str
  | _ => none

def cassValueGetInt64 (bigInt counter cqlTime cqlTimestamp : DeserializeValue T) :=
  cassValueGetByColumnType (int64Arms bigInt counter cqlTime cqlTimestamp)

def cassValueGetUuid (uuid cqlTimeuuid : DeserializeValue T) :=
  cassValueGetByColumnType (uuidArms uuid cqlTimeuuid)

def cassValueGetString (str : DeserializeValue T) := cassValueGetByColumnType (stringArms str)

end ColumnTypeFamily

/-! ### Type predicates -/

def cassValueType (value : CassValue) : CassValueType := value.valueType.getValueType

def cassValueIsCollection (val : CassValue) : Bool :=
  match val.valueType.getValueType with
  | .list | .set | .map => true
  | _ => false

def cassValueIsDuration (val : CassValue) : Bool := val.valueType.getValueType == .duration

def cassValuePrimarySubType (val : CassValue) : CassValueType :=
  match val.valueType with
  | .list (some list) _ => list.getValueType
  | .set (some set) _ => set.getValueType
  | .map (.key key) _ | .map (.keyAndValue key _) _ => key.getValueType
  | _ => .unknown

def cassValueSecondarySubType (val : CassValue) : CassValueType :=
  match val.valueType with
  | .map (.keyAndValue _ value) _ => value.getValueType
  | _ => .unknown

/-! ### What the getters report -/

/-- What `get_non_null` can do, in the order it checks. -/
theorem getNonNull_cases {T : Type} (typeCheck : ColumnType → Except String Unit)
    (deserialize : ColumnType → Option Bytes → Except DeserializationError T) (val : CassValue) :
    (cassValueIsNull val = true ∧ getNonNull typeCheck deserialize val = .error .isNull) ∨
    (cassValueIsNull val = false ∧ ∃ e, typeCheck val.value.typ = .error e ∧
      getNonNull typeCheck deserialize val = .error (.typecheck e)) ∨
    (cassValueIsNull val = false ∧ typeCheck val.value.typ = .ok () ∧
      getNonNull typeCheck deserialize val =
        (deserialize val.value.typ val.value.slice).mapError .deserialization) := by
  unfold getNonNull cassValueIsNull
  cases val.value.slice with
  | none => simp
  | some _ => cases typeCheck val.value.typ <;> simp

@[simp] theorem writeOutput_mapError_deserialization {T : Type}
    (result : Except DeserializationError T) :
    writeOutput (result.mapError .deserialization) =
      match result with
      | .ok v => (.ok, some v)
      | .error _ => (.libInvalidData, none) := by
  cases result <;> rfl

/-- The getters over any column type never panic. They write their output exactly when they
    report `CASS_OK`; a null handle or null value is reported as `CASS_ERROR_LIB_NULL_VALUE`
    whatever the column type, a non-null value failing the type check as
    `CASS_ERROR_LIB_INVALID_VALUE_TYPE`, and one failing to deserialize as
    `CASS_ERROR_LIB_INVALID_DATA`. -/
theorem non_null_getters_classify_failures {T : Type} (driver : DeserializeValue T)
    (value : Option CassValue) :
    ((cassValueGetNonNull driver value).1 = .ok ↔ (cassValueGetNonNull driver value).2.isSome) ∧
    ((cassValueGetNonNull driver value).1 = .libNullValue ↔
      ∀ val, value = some val → cassValueIsNull val = true) ∧
    ((cassValueGetNonNull driver value).1 = .libInvalidValueType ↔ ∃ val, value = some val ∧
      cassValueIsNull val = false ∧ ∃ e, driver.typeCheck val.value.typ = .error e) ∧
    ((cassValueGetNonNull driver value).1 = .libInvalidData ↔ ∃ val, value = some val ∧
      cassValueIsNull val = false ∧ driver.typeCheck val.value.typ = .ok () ∧
      ∃ e, driver.deserialize val.value.typ val.value.slice = .error e) ∧
    (∀ v, (cassValueGetNonNull driver value).2 = some v ↔ ∃ val, value = some val ∧
      cassValueIsNull val = false ∧ driver.typeCheck val.value.typ = .ok () ∧
      driver.deserialize val.value.typ val.value.slice = .ok v) := by
  cases value with
  | none => simp [cassValueGetNonNull]
  | some val =>
    rcases getNonNull_cases driver.typeCheck driver.deserialize val with
      ⟨null, got⟩ | ⟨present, e, failed, got⟩ | ⟨present, passed, got⟩
    · simp [cassValueGetNonNull, got, null, writeOutput, NonNullDeserializationError.toCassError]
    · simp [cassValueGetNonNull, got, present, failed, writeOutput,
        NonNullDeserializationError.toCassError]
    · cases decoded : driver.deserialize val.value.typ val.value.slice <;>
        simp [cassValueGetNonNull, got, present, passed, decoded]

def armOf {T : Type} (arms : NativeType → Option (DeserializeValue T)) :
    ColumnType → Option (DeserializeValue T)
  | .native typ => arms typ
  | _ => none

theorem cassValueGetByColumnType_some {T : Type} (arms : NativeType → Option (DeserializeValue T))
    (val : CassValue) :
    cassValueGetByColumnType arms (some val) =
      match armOf arms val.value.typ with
      | some driver => getNonNullOrPanic driver val
      | none => .ok (.libInvalidValueType, none) := by
  simp only [cassValueGetByColumnType, armOf]
  cases val.value.typ <;> rfl

/-- An arm panics exactly when the value is non-null and fails its driver's type check;
    otherwise it is the getter over any column type. -/
theorem getNonNullOrPanic_eq {T : Type} (driver : DeserializeValue T) (val : CassValue) :
    ((∃ message, getNonNullOrPanic driver val = .error message) ↔
      cassValueIsNull val = false ∧ ∃ e, driver.typeCheck val.value.typ = .error e) ∧
    (driver.typeCheck val.value.typ = .ok () →
      getNonNullOrPanic driver val = .ok (cassValueGetNonNull driver (some val))) := by
  unfold getNonNullOrPanic
  rcases getNonNull_cases driver.typeCheck driver.deserialize val with
    ⟨null, got⟩ | ⟨present, e, failed, got⟩ | ⟨present, passed, got⟩
  · simp [got, null, cassValueGetNonNull, writeOutput]
  · simp [got, present, failed]
  · cases decoded : driver.deserialize val.value.typ val.value.slice <;>
      simp [got, present, passed, decoded, cassValueGetNonNull, Except.mapError, writeOutput,
        NonNullDeserializationError.toCassError]

/-- The getters that match the column type first (int64, uuid, string) panic with "The typecheck
    unexpectedly failed!" only when the driver's type check refuses a column type the getter
    matched. When each matched type passes its own arm's type check, they never panic and never
    report a failed type check: on a matched type they are the getter over any column type with
    that arm's driver, and any other column type, of a null value too, is
    `CASS_ERROR_LIB_INVALID_VALUE_TYPE`. -/
theorem column_type_getters_never_fail_typecheck {T : Type}
    (arms : NativeType → Option (DeserializeValue T))
    (accepts : ∀ typ driver, arms typ = some driver → driver.typeCheck (.native typ) = .ok ()) :
    (∀ value, ∃ r, cassValueGetByColumnType arms value = .ok r) ∧
    cassValueGetByColumnType arms none = .ok (.libNullValue, none) ∧
    (∀ val typ driver, val.value.typ = .native typ → arms typ = some driver →
      cassValueGetByColumnType arms (some val) = .ok (cassValueGetNonNull driver (some val)) ∧
      (cassValueGetNonNull driver (some val)).1 ≠ .libInvalidValueType) ∧
    (∀ val, armOf arms val.value.typ = none →
      cassValueGetByColumnType arms (some val) = .ok (.libInvalidValueType, none)) := by
  have matched : ∀ val typ driver, val.value.typ = .native typ → arms typ = some driver →
      cassValueGetByColumnType arms (some val) = .ok (cassValueGetNonNull driver (some val)) ∧
      (cassValueGetNonNull driver (some val)).1 ≠ .libInvalidValueType := by
    intro val typ driver native arm
    have passed : driver.typeCheck val.value.typ = .ok () := native ▸ accepts typ driver arm
    have taken : armOf arms val.value.typ = some driver := by rw [native]; exact arm
    refine ⟨by
      rw [cassValueGetByColumnType_some, taken]
      exact (getNonNullOrPanic_eq driver val).2 passed, ?_⟩
    simp only [cassValueGetNonNull]
    rcases getNonNull_cases driver.typeCheck driver.deserialize val with
      ⟨-, got⟩ | ⟨-, e, failed, -⟩ | ⟨-, -, got⟩
    · simp [got, writeOutput, NonNullDeserializationError.toCassError]
    · simp [passed] at failed
    · rw [got, writeOutput_mapError_deserialization]
      split <;> simp
  have unmatched : ∀ val, armOf arms val.value.typ = none →
      cassValueGetByColumnType arms (some val) = .ok (.libInvalidValueType, none) :=
    fun val none => by rw [cassValueGetByColumnType_some, none]
  refine ⟨fun value => ?_, rfl, matched, unmatched⟩
  rcases value with _ | val
  · exact ⟨_, rfl⟩
  · cases arm : armOf arms val.value.typ with
    | none => exact ⟨_, unmatched val arm⟩
    | some driver =>
      cases native : val.value.typ with
      | native typ => exact ⟨_, (matched val typ driver native (by rw [native] at arm; exact arm)).1⟩
      | _ => simp [armOf, native] at arm

def nullIntValue : CassValue := ⟨⟨.native .int, none, none⟩, .value .int⟩

/-- A driver for `&str` that accepts ascii and text and keeps the bytes. -/
def strBytes : DeserializeValue Bytes :=
  ⟨fun typ => match typ with
    | .native .ascii | .native .text => .ok ()
    | _ => .error "mismatched",
   fun _ slice => .ok (slice.getD [])⟩

/- On a null `int` value the getters over any column type report a null value, and the string
   getter, which matches the column type first, an invalid value type. -/
example : cassValueGetInt32 strBytes (some nullIntValue) = (.libNullValue, none) ∧
    cassValueGetString strBytes (some nullIntValue) = .ok (.libInvalidValueType, none) :=
  ⟨rfl, rfl⟩

/-- `cass_value_get_bytes` reports `CASS_ERROR_LIB_NULL_VALUE` exactly for a value that
    `cass_value_is_null` calls null, and otherwise writes the kept slice. On a decoded cell it
    writes the frame's bytes, unless the cell is absent or is empty with a type whose empty
    value the decoder turns into null. -/
theorem get_bytes_returns_decoded_cell (typ : ColumnType) (v : Option Bytes) (raw : CassRawValue)
    (dataType : CassDataType) (decoded : CassRawValue.deserialize typ v = .ok raw) :
    ((cassValueGetBytes (some ⟨raw, dataType⟩)).1 = .libNullValue ↔
      cassValueIsNull ⟨raw, dataType⟩ = true) ∧
    ((cassValueGetBytes (some ⟨raw, dataType⟩)).1 = .ok ↔
      cassValueIsNull ⟨raw, dataType⟩ = false) ∧
    ∀ bytes, (cassValueGetBytes (some ⟨raw, dataType⟩)).2 = some bytes ↔
      v = some bytes ∧ (bytes = [] → KeepsEmptySlice typ) := by
  have output : ∀ bytes,
      raw.slice = some bytes ↔ v = some bytes ∧ (bytes = [] → KeepsEmptySlice typ) := by
    intro bytes
    rw [((deserialize_eq_ok_iff typ v raw).mp decoded).2.1, ← keepsEmpty_iff]
    unfold keptSlice
    split <;> simp_all
    rintro rfl rfl
    simp_all
  refine ⟨?_, ?_, fun bytes => ?_⟩ <;> simp only [cassValueGetBytes, getBytesNonNull, cassValueIsNull]
  · cases raw.slice <;> simp [writeOutput, NonNullDeserializationError.toCassError]
  · cases raw.slice <;> simp [writeOutput, NonNullDeserializationError.toCassError]
  · rw [← output]
    cases raw.slice <;> simp [writeOutput]

end ValueGetters
