import Kata.Proofs.Literal.Untyped

/-!
# Widths of integers

A value is given a type of 64 bits in place of one of 32 bits exactly where it does not fit, and
the type that it is given is settled: it would be given the same type again. So an integer that
Java or C++ declares with 32 bits has them.
-/

namespace Kata.Value

/-! ## Settled types -/

/-- Whether an integer fits into 32 bits with a sign. -/
def IsShortInt (n : Int64) : Prop :=
  -2147483648 ≤ n.toInt ∧ n.toInt < 2147483648

theorem isShort_iff
    (n : Int64) :
    isShort n = true ↔ IsShortInt n := by
  have least : Int32.minValue.toInt = -2147483648 := rfl
  have greatest : Int32.maxValue.toInt = 2147483647 := rfl
  simp [isShort, IsShortInt, least, greatest]
  omega

theorem fitsShort_iff
    (value : Value) :
    value.fitsShort = true ↔ IsShortInt value.toInt :=
  isShort_iff value.toInt

/-- Whether a value is given a type that it has already. -/
def Suits (value : Value) : DataType → Prop
  | .any => value.resolve .any = .any
  | .int => IsShortInt value.toInt
  | .intArray => ∀ item ∈ value.items, IsShortInt item.toInt
  | _ => True

/-- Whether a type of 64 bits is needed for a value. -/
def NeedsWidth (value : Value) : DataType → Prop
  | .long => ¬IsShortInt value.toInt
  | .longArray => ∃ item ∈ value.items, ¬IsShortInt item.toInt
  | _ => True

theorem all_fitsShort_iff
    (value : Value) :
    value.items.all fitsShort = true ↔ ∀ item ∈ value.items, IsShortInt item.toInt := by
  simp [List.all_eq_true, fitsShort_iff]

theorem resolve_eq_self_iff
    (value : Value) (type : DataType) :
    value.resolve type = type ↔ value.Suits type := by
  cases type with
  | any => exact Iff.rfl
  | int =>
      rw [resolve, Suits, ← fitsShort_iff]
      split <;> simp_all
  | intArray =>
      rw [resolve, Suits, ← all_fitsShort_iff]
      split <;> simp_all
  | _ => exact iff_of_true rfl trivial

/-- The type of a value of no declared type. -/
theorem settles_any
    (value : Value) :
    value.Suits (value.resolve .any) ∧ value.NeedsWidth (value.resolve .any) := by
  cases value with
  | int n =>
      have narrowed : resolve (int n) .any = if isShort n then .int else .long := by
        cases short : isShort n <;> rw [resolve, DataType.ofValue?, short] <;> rfl
      rw [narrowed]
      split
      · next short => exact ⟨(isShort_iff n).1 short, trivial⟩
      · next long => exact ⟨trivial, fun short => long ((isShort_iff n).2 short)⟩
  | list items =>
      rw [Literal.resolve_list]
      -- Integers are looked at by the shape of the items here, and by their reading elsewhere.
      split_ifs with lists empty ints short gaps numbers bools texts
      · rw [List.isEmpty_iff] at empty
        subst empty
        exact ⟨List.forall_mem_nil _, trivial⟩
      · exact ⟨trivial, trivial⟩
      · refine ⟨?_, trivial⟩
        intro item member
        have isShortInt := List.all_eq_true.1 short item member
        cases item with
        | int n => exact (isShort_iff n).1 isShortInt
        | _ => exact absurd isShortInt Bool.false_ne_true
      · refine ⟨trivial, ?_⟩
        obtain ⟨item, member, long⟩ : ∃ item ∈ items, ¬DataType.isShortInt item = true := by
          simpa [List.all_eq_true] using short
        have isInt := List.all_eq_true.1 ints item member
        refine ⟨item, member, ?_⟩
        cases item with
        | int n => exact fun fits => long ((isShort_iff n).2 fits)
        | _ => exact absurd isInt Bool.false_ne_true
      · refine ⟨?_, trivial⟩
        rw [Suits, Literal.resolve_list]
        simp [lists, ints, gaps]
      · exact ⟨trivial, trivial⟩
      · exact ⟨trivial, trivial⟩
      · exact ⟨trivial, trivial⟩
      · refine ⟨?_, trivial⟩
        rw [Suits, Literal.resolve_list]
        simp [lists, ints, gaps, numbers, bools, texts]
  | null => exact ⟨rfl, trivial⟩
  | record fields => exact ⟨rfl, trivial⟩
  | bool b => exact ⟨trivial, trivial⟩
  | float x => exact ⟨trivial, trivial⟩
  | text t => exact ⟨trivial, trivial⟩

/-- The type that a value is given suits it. -/
theorem suits_resolve
    (value : Value) (type : DataType) :
    value.Suits (value.resolve type) := by
  cases type with
  | any => exact (settles_any value).1
  | int =>
      rw [resolve]
      split
      · next fits => exact (fitsShort_iff value).1 fits
      · exact trivial
  | intArray =>
      rw [resolve]
      split
      · next fit => exact (all_fitsShort_iff value).1 fit
      · exact trivial
  | _ => exact trivial

/-- A type is widened only where the width is needed. -/
theorem needsWidth_resolve
    {value : Value} {type : DataType} (changed : value.resolve type ≠ type) :
    value.NeedsWidth (value.resolve type) := by
  cases type with
  | any => exact (settles_any value).2
  | int =>
      rw [resolve]
      split
      · exact trivial
      · next wide => exact fun short => wide ((fitsShort_iff value).2 short)
  | intArray =>
      rw [resolve]
      split
      · exact trivial
      · next wide =>
        rw [all_fitsShort_iff] at wide
        simpa [NeedsWidth] using wide
  | _ => exact absurd rfl changed

end Kata.Value

namespace Kata.Literal

/-! ## Arguments of Java and C++ -/

/-- The word ahead of the braces of an array of 32-bit integers. -/
def arrayWord : Language → Text
  | .java => "new int[]"
  | _ => "vector<int>"

/-- An array of integers as Java and C++ write it. -/
def intArrayText (language : Language) (ints : List Int64) : Text :=
  arrayWord language ++ enclosed '\x7b' '\x7d' (ints.map intText)

theorem render_int
    {language : Language} (typed : language = .java ∨ language = .cpp) (value : Value) :
    render language value .int = intText value.toInt := by
  rcases typed with rfl | rfl <;> rfl

/-- Java has a word for an array that is not there, and C++ an empty vector. -/
theorem render_intArray
    {language : Language} (typed : language = .java ∨ language = .cpp) (value : Value) :
    render language value .intArray =
      if language = .java ∧ value.isNull = true then "null".toList
      else intArrayText language value.listInts := by
  have pieces :
      value.items.map (Java.scalar .int) = value.listInts.map intText ∧
        value.items.map (Cpp.scalar .int) = value.listInts.map intText := by
    simp [Value.listInts, Java.scalar, Cpp.scalar]
  rcases typed with rfl | rfl
  · simp only [true_and]
    change Java.arrayOf .int value = _
    rw [Java.arrayOf, Java.array, pieces.1]
    rfl
  · change Cpp.vectorOf .int .intArray value = _
    rw [Cpp.vectorOf, Cpp.bracedItems, pieces.2]
    rfl

theorem written_eq_int_iff
    {language : Language} (typed : language = .java ∨ language = .cpp) (type : DataType) :
    (type.written language .value = DataType.int.written language .value ↔ type = .int) ∧
      (type.written language .value = DataType.intArray.written language .value ↔
        type = .intArray) := by
  rcases typed with rfl | rfl <;> cases type <;> decide

/-- Typed integers fit their type, and none is widened without need. The type that a value is given
is settled; where it is one of 32 bits, the value or each of its items fits, and where it is one of
64 bits that was not declared, the value or one of its items does not fit. So what Java and C++
declare as an integer or an array of integers of 32 bits is made of literals in that range. -/
theorem integers_fit_their_type
    (value : Value) (declared : DataType) :
    let type := value.resolve declared
    value.resolve type = type ∧
    (type = .int → Value.IsShortInt value.toInt) ∧
    (type = .intArray → ∀ item ∈ value.items, Value.IsShortInt item.toInt) ∧
    (type = .long → declared ≠ .long → ¬Value.IsShortInt value.toInt) ∧
    (type = .longArray → declared ≠ .longArray →
      ∃ item ∈ value.items, ¬Value.IsShortInt item.toInt) ∧
    ∀ language : Language, language = .java ∨ language = .cpp →
      let argument := Argument.ofValue language value declared
      (argument.type.written language .value = DataType.int.written language .value →
        argument.expression = intText value.toInt ∧ Value.IsShortInt value.toInt) ∧
      (argument.type.written language .value = DataType.intArray.written language .value →
        argument.expression =
            (if language = .java ∧ value.isNull = true then "null".toList
              else intArrayText language value.listInts) ∧
          ∀ n ∈ value.listInts, Value.IsShortInt n) := by
  intro type
  have suits : value.Suits type := Value.suits_resolve value declared
  have short : type = .int → Value.IsShortInt value.toInt := by
    intro isInt
    rwa [isInt] at suits
  have allShort : type = .intArray → ∀ item ∈ value.items, Value.IsShortInt item.toInt := by
    intro isIntArray
    rwa [isIntArray] at suits
  refine ⟨(Value.resolve_eq_self_iff value type).2 suits, short, allShort, ?_, ?_, ?_⟩
  · intro isLong different
    have needed := Value.needsWidth_resolve (isLong.trans_ne different.symm)
    rwa [show value.resolve declared = .long from isLong] at needed
  · intro isLongArray different
    have needed := Value.needsWidth_resolve (isLongArray.trans_ne different.symm)
    rwa [show value.resolve declared = .longArray from isLongArray] at needed
  · intro language typed argument
    constructor
    · intro written
      have isInt : type = .int := (written_eq_int_iff typed type).1.1 written
      refine ⟨?_, short isInt⟩
      change render language value type = _
      rw [isInt, render_int typed]
    · intro written
      have isIntArray : type = .intArray := (written_eq_int_iff typed type).2.1 written
      refine ⟨?_, ?_⟩
      · change render language value type = _
        rw [isIntArray, render_intArray typed]
      · rw [Value.listInts, List.forall_mem_map]
        exact allShort isIntArray

/-- A text that holds an integer beyond 32 bits, declared with 32; and a list under no declared type
whose greatest item just fits. -/
theorem integers_fit_their_type_edges :
    ¬Value.IsShortInt (Value.toInt (.text " 2147483648".toList)) ∧
      Value.resolve (.text " 2147483648".toList) .long = .long ∧
      (Argument.ofValue .java (.list [.int 2147483647, .int (-2147483648)]) .any).expression =
        "new int[]\x7b2147483647, -2147483648\x7d".toList := by
  have great := integers_fit_their_type (.text " 2147483648".toList) .int
  have fitting := integers_fit_their_type (.list [.int 2147483647, .int (-2147483648)]) .any
  have written := (fitting.2.2.2.2.2 .java (Or.inl rfl)).2 (by decide)
  refine ⟨great.2.2.2.1 (by decide) (by decide), great.1, ?_⟩
  rw [written.1]
  decide

end Kata.Literal
