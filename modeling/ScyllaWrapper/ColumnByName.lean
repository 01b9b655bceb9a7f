import ScyllaWrapper.QueryResult

/-!
Lookup of a row's column by name: `cass_row_get_column_by_name_n` of query_result.rs. The name
arrives as a pointer and a length, and `ptr_to_cstr_n` makes it a `&str` or fails, which the
code unwraps; the model takes the name's bytes and `ptr_to_cstr_n` as a parameter. `startsWith`,
`endsWith`, `stripPrefix`, `stripSuffix` and `eqIgnoreAsciiCase` are the `str` methods of those
names with a `char` pattern. Rust folds the UTF-8 bytes of the two names; a byte below 0x80 only
ever encodes an ASCII character, so folding the bytes is folding the characters, which the model
does with `Char.toLower` (it maps `A`..`Z` and nothing else).
-/
namespace ColumnByName
open CassTypes RawValueDecoder ResultContainer

def doubleQuote : Char := '\x22'

def startsWith (s : String) (c : Char) : Bool := s.data.head? == some c

def endsWith (s : String) (c : Char) : Bool := s.data.getLast? == some c

def stripPrefix (s : String) (c : Char) : Option String :=
  match s.data with
  | first :: rest => if first = c then some ⟨rest⟩ else none
  | [] => none

def stripSuffix (s : String) (c : Char) : Option String :=
  if s.data.getLast? = some c then some ⟨s.data.dropLast⟩ else none

def eqIgnoreAsciiCase (a b : String) : Bool :=
  a.data.length == b.data.length && (a.data.zip b.data).all fun (x, y) => x.toLower == y.toLower

/-- The quote handling of `cass_row_get_column_by_name_n`: the name to compare and whether the
    comparison is case sensitive. Either `unwrap` panics when its strip finds no quote. -/
def unquoteName (nameStr : String) : Except String (String × Bool) :=
  if startsWith nameStr doubleQuote && endsWith nameStr doubleQuote then do
    let nameStr ← unwrap (stripPrefix nameStr doubleQuote)
    let nameStr ← unwrap (stripSuffix nameStr doubleQuote)
    pure (nameStr, true)
  else pure (nameStr, false)

def nameMatches (isCaseSensitive : Bool) (nameStr : String) (colSpec : CassColumnSpec) : Bool :=
  isCaseSensitive && colSpec.name == nameStr ||
    !isCaseSensitive && eqIgnoreAsciiCase colSpec.name nameStr

/-- What `cass_row_get_column_by_name_n` does with `name_str` once `ptr_to_cstr_n` has given it:
    the value of the first column in metadata order whose name matches; `Ok none` is the null
    pointer, `Except.error` a panic. -/
def lookupColumnByName (row : CassRow) (nameStr : String) : Except String (Option CassValue) := do
  let (nameStr, isCaseSensitive) ← unquoteName nameStr
  pure (((row.resultMetadata.colSpecs.enum.find? fun (_, colSpec) =>
      nameMatches isCaseSensitive nameStr colSpec).map fun (index, _) =>
        row.columns[index]?).getD none)

def cassRowGetColumnByNameN (ptrToCstrN : PtrToCstrN) (row : CassRow) (name : Bytes) :
    Except String (Option CassValue) := do
  let nameStr ← unwrap (ptrToCstrN name)
  lookupColumnByName row nameStr

/-- `cass_row_get_column_by_name`: the C string's bytes up to its terminator, passed on with
    their length. -/
def cassRowGetColumnByName (ptrToCstrN : PtrToCstrN) (row : CassRow) (name : Bytes) :
    Except String (Option CassValue) :=
  cassRowGetColumnByNameN ptrToCstrN row (name.takeWhile (· != 0))

theorem cassRowGetColumnByNameN_of_converted {ptrToCstrN : PtrToCstrN} {name : Bytes}
    {nameStr : String} (row : CassRow) (converted : ptrToCstrN name = some nameStr) :
    cassRowGetColumnByNameN ptrToCstrN row name = lookupColumnByName row nameStr := by
  simp only [cassRowGetColumnByNameN, converted, unwrap_some, bind, Except.bind]

theorem cassRowGetColumnByNameN_of_not_converted {ptrToCstrN : PtrToCstrN} {name : Bytes}
    (row : CassRow) (refused : ptrToCstrN name = none) :
    cassRowGetColumnByNameN ptrToCstrN row name =
      .error "called Option::unwrap() on a None value" := by
  simp only [cassRowGetColumnByNameN, refused]
  rfl

/-- The matching rule the documentation states: a name of at least two characters that starts
    and ends with a double quote matches exactly without its quotes, any other name matches
    ignoring ASCII case. -/
def claimedNameMatches (name colName : String) : Bool :=
  if 2 ≤ name.data.length ∧ name.data.head? = some doubleQuote ∧
      name.data.getLast? = some doubleQuote then
    colName.data == (name.data.drop 1).dropLast
  else eqIgnoreAsciiCase colName name

def idRow : CassRow :=
  ⟨[⟨⟨.native .int, some [0, 0, 0, 7], none⟩, .value .int⟩], ⟨[⟨"Id", .value .int⟩]⟩⟩

/-- A name that `ptr_to_cstr_n` reads as one double quote passes both quote tests, and the
    second strip then finds no quote left: the lookup panics, whatever the row. -/
theorem get_column_by_lone_quote_panics (ptrToCstrN : PtrToCstrN) (row : CassRow) (name : Bytes)
    (loneQuote : ptrToCstrN name = some "\x22") :
    cassRowGetColumnByNameN ptrToCstrN row name =
      .error "called Option::unwrap() on a None value" := by
  rw [cassRowGetColumnByNameN_of_converted row loneQuote]
  rfl

theorem lone_quote_byte_panics :
    asciiCstr [34] = some "\x22" ∧ cassRowGetColumnByNameN asciiCstr idRow [34] =
      .error "called Option::unwrap() on a None value" :=
  ⟨by decide, get_column_by_lone_quote_panics asciiCstr idRow [34] (by decide)⟩

theorem unquoteName_of_quoted {name : String} {inner : List Char}
    (quoted : name.data = doubleQuote :: inner ++ [doubleQuote]) :
    unquoteName name = .ok (⟨inner⟩, true) := by
  obtain ⟨data⟩ := name
  subst quoted
  simp [unquoteName, startsWith, endsWith, stripPrefix, stripSuffix, unwrap, bind, Except.bind,
    pure, Except.pure, List.getLast?_cons, List.getLast?_concat]

theorem unquoteName_of_not_quoted {name : String}
    (plain : (startsWith name doubleQuote && endsWith name doubleQuote) = false) :
    unquoteName name = .ok (name, false) := by
  simp [unquoteName, plain, pure, Except.pure]

/-- Every name but a lone double quote is unquoted without a panic, and the code's match then
    agrees with the documented rule on every column name. -/
theorem unquoteName_agrees (name : String) (notLoneQuote : name ≠ "\x22") :
    ∃ nameStr isCaseSensitive, unquoteName name = .ok (nameStr, isCaseSensitive) ∧
      ∀ colSpec : CassColumnSpec,
        nameMatches isCaseSensitive nameStr colSpec = claimedNameMatches name colSpec.name := by
  by_cases quoted : 2 ≤ name.data.length ∧ name.data.head? = some doubleQuote ∧
      name.data.getLast? = some doubleQuote
  · obtain ⟨inner, shape⟩ : ∃ inner, name.data = doubleQuote :: inner ++ [doubleQuote] := by
      obtain ⟨long, first, last⟩ := quoted
      obtain ⟨ys, shape⟩ := List.getLast?_eq_some_iff.mp last
      rw [shape] at long first ⊢
      rcases ys with _ | ⟨c, inner⟩
      · simp at long
      · obtain rfl : c = doubleQuote := by simpa using first
        exact ⟨inner, rfl⟩
    refine ⟨⟨inner⟩, true, unquoteName_of_quoted shape, fun ⟨⟨colName⟩, _⟩ => ?_⟩
    rw [claimedNameMatches, if_pos (shape ▸ quoted), shape, Bool.eq_iff_iff]
    simp only [nameMatches, Bool.true_and, beq_iff_eq, Bool.not_true, Bool.false_and, Bool.or_false,
      List.drop_one, List.cons_append, List.tail_cons, List.dropLast_concat]
    exact String.ext_iff
  · have plain : (startsWith name doubleQuote && endsWith name doubleQuote) = false := by
      rw [Bool.eq_false_iff]
      intro both
      simp only [Bool.and_eq_true, startsWith, endsWith, beq_iff_eq] at both
      refine quoted ⟨?_, both⟩
      obtain ⟨data⟩ := name
      rcases data with _ | ⟨c, _ | ⟨d, rest⟩⟩
      · simp at both
      · simp only [List.head?_cons, Option.some.injEq] at both
        exact absurd (by rw [both.1]; rfl) notLoneQuote
      · simp
    refine ⟨name, false, unquoteName_of_not_quoted plain, fun colSpec => ?_⟩
    rw [claimedNameMatches, if_neg quoted]
    simp [nameMatches]

/-- For every name whose bytes `ptr_to_cstr_n` reads as a string other than a lone double quote,
    the lookup does not panic and returns the value of the first column in metadata order whose
    name matches that string by the documented rule, null when no name matches or the row has no
    value at that index. -/
theorem get_column_by_name_n_of_not_lone_quote (ptrToCstrN : PtrToCstrN) (row : CassRow)
    (name : Bytes) (nameStr : String) (converted : ptrToCstrN name = some nameStr)
    (notLoneQuote : nameStr ≠ "\x22") :
    cassRowGetColumnByNameN ptrToCstrN row name =
      .ok ((row.resultMetadata.colSpecs.findIdx? fun colSpec =>
        claimedNameMatches nameStr colSpec.name).bind fun index => row.columns[index]?) := by
  obtain ⟨unquotedStr, isCaseSensitive, unquoted, agree⟩ := unquoteName_agrees nameStr notLoneQuote
  simp only [cassRowGetColumnByNameN_of_converted row converted, lookupColumnByName, unquoted,
    bind, Except.bind, pure, Except.pure, List.findIdx?_eq_fst_find?_enum, agree]
  cases row.resultMetadata.colSpecs.enum.find? fun x => claimedNameMatches nameStr x.2.name <;> rfl

theorem id_row_lookup_ignores_case :
    asciiCstr [73, 68] = some "ID" ∧ ("ID" : String) ≠ "\x22" ∧
      cassRowGetColumnByNameN asciiCstr idRow [73, 68] = .ok idRow.columns[0]? :=
  ⟨by decide, by decide,
    (get_column_by_name_n_of_not_lone_quote asciiCstr idRow [73, 68] "ID" (by decide)
      (by decide)).trans rfl⟩

theorem lookupColumnByName_quoted {row : CassRow} {i : Nat} {colSpec : CassColumnSpec}
    (named : row.resultMetadata.colSpecs[i]? = some colSpec)
    (unique : ∀ j other, row.resultMetadata.colSpecs[j]? = some other →
      other.name = colSpec.name → j = i) :
    lookupColumnByName row ("\x22" ++ colSpec.name ++ "\x22") = .ok row.columns[i]? := by
  have unquoted : unquoteName ("\x22" ++ colSpec.name ++ "\x22") = .ok (colSpec.name, true) :=
    @unquoteName_of_quoted _ colSpec.name.data (by simp [doubleQuote])
  have first : row.resultMetadata.colSpecs.findIdx? (nameMatches true colSpec.name) = some i := by
    obtain ⟨bound, rfl⟩ := List.getElem?_eq_some_iff.mp named
    refine List.findIdx?_eq_some_iff_getElem.mpr ⟨bound, by simp [nameMatches],
      fun j before same => ?_⟩
    have := unique j _ (List.getElem?_eq_getElem (by omega)) (by simpa [nameMatches] using same)
    omega
  rw [List.findIdx?_eq_fst_find?_enum, Option.map_eq_some'] at first
  obtain ⟨⟨_, other⟩, found, rfl⟩ := first
  simp only [lookupColumnByName, unquoted, bind, Except.bind, pure, Except.pure, found]
  rfl


/-! ### The unquoted lookup depends only on the name's ASCII case folding -/

theorem eqIgnoreAsciiCase_iff (a b : String) :
    eqIgnoreAsciiCase a b = true ↔ a.data.map Char.toLower = b.data.map Char.toLower := by
  obtain ⟨xs⟩ := a
  obtain ⟨ys⟩ := b
  simp only [eqIgnoreAsciiCase]
  induction xs generalizing ys with
  | nil => cases ys <;> simp
  | cons x xs ih =>
    cases ys with
    | nil => simp
    | cons y ys =>
      simp only [List.length_cons, List.zip_cons_cons, List.all_cons, List.map_cons,
        List.cons.injEq, ← ih]
      simp [and_left_comm]

/-- Folding ASCII case maps only `A`..`Z`, so it keeps the double quote and makes no other
    character one. -/
theorem toLower_eq_doubleQuote_iff (c : Char) : c.toLower = doubleQuote ↔ c = doubleQuote := by
  unfold Char.toLower
  dsimp only
  split
  · rename_i upper
    constructor
    · intro lowered
      have valid : (c.toNat + 32).isValidChar := Or.inl (by omega)
      rw [Char.ofNat, dif_pos valid] at lowered
      have := congrArg Char.toNat lowered
      simp [Char.ofNatAux, Char.toNat, UInt32.toNat, doubleQuote] at this upper
      omega
    · rintro rfl
      simp [doubleQuote] at upper
  · rfl

theorem isDoubleQuote_of_fold {a b : Option Char} (same : a.map Char.toLower = b.map Char.toLower) :
    (a == some doubleQuote) = (b == some doubleQuote) := by
  cases a with
  | none => cases b <;> simp_all
  | some x =>
    cases b with
    | none => simp at same
    | some y =>
      simp only [Option.map_some', Option.some.injEq] at same
      rw [Bool.eq_iff_iff, beq_iff_eq, beq_iff_eq, Option.some.injEq, Option.some.injEq,
        ← toLower_eq_doubleQuote_iff, same, toLower_eq_doubleQuote_iff]

theorem quoted_eq_of_fold {name other : String}
    (sameFold : name.data.map Char.toLower = other.data.map Char.toLower) :
    (startsWith other doubleQuote && endsWith other doubleQuote) =
      (startsWith name doubleQuote && endsWith name doubleQuote) := by
  have heads := congrArg List.head? sameFold
  have lasts := congrArg List.getLast? sameFold
  rw [List.head?_map, List.head?_map] at heads
  rw [List.getLast?_map, List.getLast?_map] at lasts
  simp only [startsWith, endsWith, isDoubleQuote_of_fold heads, isDoubleQuote_of_fold lasts]

/-- The lookup of a name whose string is not in double quotes depends on that string only
    through its ASCII case folding: a name read as a string equal to it ignoring ASCII case finds
    the same column, or the same null. -/
theorem unquoted_lookup_ignores_name_case (ptrToCstrN : PtrToCstrN) (row : CassRow)
    (name other : Bytes) (nameStr otherStr : String) (convertedName : ptrToCstrN name = some nameStr)
    (convertedOther : ptrToCstrN other = some otherStr)
    (unquoted : (startsWith nameStr doubleQuote && endsWith nameStr doubleQuote) = false)
    (sameFold : eqIgnoreAsciiCase nameStr otherStr = true) :
    cassRowGetColumnByNameN ptrToCstrN row other = cassRowGetColumnByNameN ptrToCstrN row name := by
  rw [eqIgnoreAsciiCase_iff] at sameFold
  have otherUnquoted := (quoted_eq_of_fold sameFold).trans unquoted
  have sameMatches : ∀ colSpec,
      nameMatches false otherStr colSpec = nameMatches false nameStr colSpec := fun colSpec => by
    simp only [nameMatches, Bool.false_and, Bool.not_false, Bool.true_and, Bool.false_or]
    rw [Bool.eq_iff_iff, eqIgnoreAsciiCase_iff, eqIgnoreAsciiCase_iff, sameFold]
  simp only [cassRowGetColumnByNameN_of_converted row convertedName,
    cassRowGetColumnByNameN_of_converted row convertedOther, lookupColumnByName,
    unquoteName_of_not_quoted unquoted, unquoteName_of_not_quoted otherUnquoted, bind,
    Except.bind, sameMatches]

theorem id_row_lookup_same_for_case_variants :
    asciiCstr [105, 100] = some "id" ∧ asciiCstr [105, 68] = some "iD" ∧
      (startsWith "id" doubleQuote && endsWith "id" doubleQuote) = false ∧
      eqIgnoreAsciiCase "id" "iD" = true ∧
      cassRowGetColumnByNameN asciiCstr idRow [105, 68] =
        cassRowGetColumnByNameN asciiCstr idRow [105, 100] :=
  ⟨by decide, by decide, by decide, by decide, unquoted_lookup_ignores_name_case asciiCstr idRow
    [105, 100] [105, 68] "id" "iD" (by decide) (by decide) (by decide) (by decide)⟩

end ColumnByName
