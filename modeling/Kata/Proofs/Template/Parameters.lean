import Kata.Proofs.Prototype.Types
import Kata.Proofs.Template.Stripped

/-!
# The parameters of templates

A parameter list as a template writes it is split into the parameters that were written, and each
of them is read back with its name.
-/

namespace Kata.Template

open Prototype (isOnePart nameOfPart? parameterNames splitTopLevel)

/-! ## Types -/

/-- Whether a type can stand ahead of the name of a parameter. -/
def isParameterType (type : Text) : Bool :=
  Text.hasSolidEnds type && isOnePart 0 type && type.getLast?.any Prototype.isTypeEnd &&
    !type.contains '\n'

/-- That a type begins like no qualifier, whatever follows it. -/
def IsUnqualified (type : Text) : Prop :=
  ∀ rest : Text,
    Text.after? "final " (type ++ ' ' :: rest) = none ∧
      Text.after? "const " (type ++ ' ' :: rest) = none

theorem isParameterType_written
    (type : DataType) :
    isParameterType type.inJava = true ∧
      isParameterType (type.written .cpp .parameter) = true := by
  cases type <;> decide

theorem isUnqualified_written
    (type : DataType) :
    IsUnqualified type.inJava ∧ IsUnqualified (type.written .cpp .parameter) := by
  cases type <;> exact ⟨fun _ => ⟨rfl, rfl⟩, fun _ => ⟨rfl, rfl⟩⟩

theorem isIdentifier_typeParameter
    (number : Nat) :
    Name.isIdentifier (typeParameter number) = true :=
  Name.isPlain_ofNat number

theorem isUnqualified_typeParameter
    (number : Nat) :
    IsUnqualified (typeParameter number) :=
  fun _ => ⟨rfl, rfl⟩

/-! ## Names -/

section Parts

variable {name : Text} (identifier : Name.isIdentifier name = true)
include identifier

theorem isOnePart_name :
    isOnePart 0 name = true :=
  Prototype.isOnePart_of_flat fun c member =>
    Prototype.isFlat_of_isIdentifierChar
      (List.all_eq_true.1 (Name.isPlain_of_isIdentifier identifier) c member)

theorem hasSolidEnds_name :
    Text.hasSolidEnds name = true :=
  Text.hasSolidEnds_of_forall (Name.ne_nil_of_isIdentifier identifier) fun c member =>
    Text.isBlank_of_isWord (Name.isWord_of_isIdentifierChar
      (List.all_eq_true.1 (Name.isPlain_of_isIdentifier identifier) c member))

end Parts

theorem hasSolidEnds_append
    {left right : Text} (leftSolid : Text.hasSolidEnds left = true)
    (rightSolid : Text.hasSolidEnds right = true) (between : Text) :
    Text.hasSolidEnds (left ++ (between ++ right)) = true := by
  obtain ⟨⟨c, rest, rfl, front⟩, _⟩ := Text.hasSolidEnds_iff.1 leftSolid
  obtain ⟨_, ahead, d, rfl, back⟩ := Text.hasSolidEnds_iff.1 rightSolid
  refine Text.hasSolidEnds_iff.2 ⟨⟨c, _, rfl, front⟩, c :: rest ++ (between ++ ahead), d, ?_, back⟩
  simp only [List.append_assoc]

/-! ## Parts -/

/-- Whether a text can be one of several parameters. -/
def isPart (part : Text) : Bool :=
  isOnePart 0 part && Text.hasSolidEnds part

theorem isPart_typedParameter
    {type name : Text} (typed : isParameterType type = true)
    (identifier : Name.isIdentifier name = true) :
    isPart (typedParameter type name) = true := by
  rw [isParameterType, Bool.and_eq_true, Bool.and_eq_true, Bool.and_eq_true] at typed
  have blankFlat : ∀ c ∈ " ".toList, Prototype.isFlat c = true :=
    List.forall_mem_singleton.2 (by decide)
  have behind : isOnePart 0 (" ".toList ++ name) = true := by
    rw [Prototype.isOnePart_append_of_flat blankFlat]
    exact isOnePart_name identifier
  rw [isPart, typedParameter, List.append_assoc, Bool.and_eq_true]
  exact ⟨Prototype.isOnePart_append behind typed.1.1.2,
    hasSolidEnds_append typed.1.1.1 (hasSolidEnds_name identifier) _⟩

/-- A parameter is read back with its name and its type. -/
theorem readTypedParameter_typedParameter
    {type name : Text} (typed : isParameterType type = true) (unqualified : IsUnqualified type)
    (identifier : Name.isIdentifier name = true) :
    Prototype.readTypedParameter (typedParameter type name) =
      ⟨some name, DataType.ofSpelling? type⟩ := by
  rw [isParameterType, Bool.and_eq_true, Bool.and_eq_true, Bool.and_eq_true, Bool.not_eq_true',
    ← Bool.not_eq_true, List.contains_iff_mem] at typed
  have parts : typedParameter type name = type ++ ' ' :: name := by
    rw [typedParameter, List.append_assoc]
    rfl
  rw [parts]
  exact Prototype.readTypedParameter_append identifier typed.1.2 typed.2
    (Prototype.bare_of_none (unqualified name).1 (unqualified name).2)

theorem nameOfPart?_typedParameter
    {type name : Text} (typed : isParameterType type = true) (unqualified : IsUnqualified type)
    (identifier : Name.isIdentifier name = true) :
    (Prototype.readTypedParameter (typedParameter type name)).name? = some name := by
  rw [readTypedParameter_typedParameter typed unqualified identifier]

theorem isParameterType_of_isIdentifier
    {name : Text} (identifier : Name.isIdentifier name = true) :
    isParameterType name = true := by
  have nonempty := Name.ne_nil_of_isIdentifier identifier
  have inName : Name.isIdentifierChar (name.getLast nonempty) = true :=
    List.all_eq_true.1 (Name.isPlain_of_isIdentifier identifier) _ (List.getLast_mem nonempty)
  have ends : name.getLast?.any Prototype.isTypeEnd = true := by
    rw [List.getLast?_eq_some_getLast nonempty, Option.any_some, Prototype.isTypeEnd,
      Name.isWord_of_isIdentifierChar inName]
    rfl
  have line : name.contains '\n' = false := by
    rw [← Bool.not_eq_true, List.contains_iff_mem]
    exact Prototype.not_mem_of_isIdentifier identifier (by decide)
  rw [isParameterType, hasSolidEnds_name identifier, isOnePart_name identifier, ends, line]
  rfl

/-! ## Parameters that follow their names -/

theorem isPart_annotated
    {name : Text} (identifier : Name.isIdentifier name = true) (type : DataType) :
    isPart (name ++ (": " ++ type.inPython)) = true := by
  have typed :
      isOnePart 0 (": " ++ type.inPython) = true ∧ Text.hasSolidEnds type.inPython = true := by
    cases type <;> decide
  rw [isPart, Bool.and_eq_true]
  constructor
  · refine (Prototype.isOnePart_append_of_flat ?_ _).trans typed.1
    exact fun c member => Prototype.isFlat_of_isIdentifierChar
      (List.all_eq_true.1 (Name.isPlain_of_isIdentifier identifier) c member)
  · exact hasSolidEnds_append (hasSolidEnds_name identifier) typed.2 _

/-- A parameter with its type takes an argument of its own. -/
theorem isOwnParameter_annotated
    {name : Text} (identifier : Name.isIdentifier name = true) (type : DataType) :
    Prototype.isOwnParameter (name ++ (": " ++ type.inPython)) = true := by
  rw [Prototype.isOwnParameter, Bool.and_eq_true, bne_iff_ne, bne_iff_ne]
  constructor
  · intro receiver
    have colon : ':' ∈ name ++ (": " ++ type.inPython) :=
      List.mem_append_right name (List.mem_append_left _ (by decide))
    rw [receiver] at colon
    exact absurd colon (by decide)
  · intro star
    obtain ⟨c, rest, rfl⟩ :=
      List.exists_cons_of_ne_nil (Name.ne_nil_of_isIdentifier identifier)
    have absent : '*' ∉ c :: rest :=
      Prototype.not_mem_of_isIdentifier identifier (by decide)
    rw [List.cons_append, List.head?_cons, Option.some.injEq] at star
    rw [star] at absent
    exact absent List.mem_cons_self

theorem not_mem_inPython
    (type : DataType) :
    '=' ∉ type.inPython := by
  cases type <;> decide

theorem nameOfPart?_annotated
    {name : Text} (identifier : Name.isIdentifier name = true) (type : DataType) :
    nameOfPart? .python (name ++ (": " ++ type.inPython)) = some (some name) := by
  rw [nameOfPart?, if_pos (isOwnParameter_annotated identifier type),
    Prototype.name?_readAnnotatedParameter identifier (not_mem_inPython type)]

/-! ## Parameter lists -/

section Parameters

variable {schema : Schema} (identifiers : schema.HasIdentifiers)
include identifiers

theorem isPart_of_mem_parameters
    (language : Language) :
    ∀ part ∈ parameters language schema, isPart part = true := by
  cases language with
  | python =>
      refine List.forall_mem_cons.2 ⟨by decide, ?_⟩
      intro part member
      obtain ⟨param, paramMember, rfl⟩ := List.mem_map.1 member
      exact isPart_annotated (identifiers param paramMember) param.type
  | javaScript =>
      intro part member
      obtain ⟨param, paramMember, rfl⟩ := List.mem_map.1 member
      rw [isPart, isOnePart_name (identifiers param paramMember),
        hasSolidEnds_name (identifiers param paramMember)]
      rfl
  | java =>
      intro part member
      obtain ⟨param, paramMember, rfl⟩ := List.mem_map.1 member
      exact isPart_typedParameter (isParameterType_written param.type).1
        (identifiers param paramMember)
  | cpp =>
      intro part member
      obtain ⟨param, paramMember, type, rfl, written | ⟨number, rfl⟩⟩ :=
        exists_of_mem_cppParameters member
      · rw [written]
        exact isPart_typedParameter (isParameterType_written param.type).2
          (identifiers param paramMember)
      · exact isPart_typedParameter
          (isParameterType_of_isIdentifier (isIdentifier_typeParameter number))
          (identifiers param paramMember)

omit identifiers in
/-- In C++ as well each parameter keeps its name, whatever number its type parameter has. -/
theorem filterMap_cppParameters
    {params : List Schema.Param}
    (named : ∀ param ∈ params, Name.isIdentifier param.name = true) :
    ∀ count : Nat,
      (cppParameters count params).filterMap (nameOfPart? .cpp) =
        params.filterMap fun param => some (some param.name) := by
  induction params with
  | nil => exact fun _ => rfl
  | cons param params inductionHypothesis =>
      intro count
      rw [List.forall_mem_cons] at named
      have first :
          ∀ {type : Text}, isParameterType type = true → IsUnqualified type →
            nameOfPart? .cpp (typedParameter type param.name) = some (some param.name) :=
        fun typed unqualified =>
          congrArg some (nameOfPart?_typedParameter typed unqualified named.1)
      rw [cppParameters]
      split
      · rw [List.filterMap_cons_some
          (first (isParameterType_of_isIdentifier (isIdentifier_typeParameter (count + 1)))
            (isUnqualified_typeParameter (count + 1))),
          inductionHypothesis named.2]
        rfl
      · rw [List.filterMap_cons_some
          (first (isParameterType_written param.type).2 (isUnqualified_written param.type).2),
          inductionHypothesis named.2]
        rfl

theorem filterMap_parameters
    (language : Language) :
    (parameters language schema).filterMap (nameOfPart? language) =
      schema.params.map fun param => some param.name := by
  rw [← List.filterMap_eq_map]
  cases language with
  | python =>
      have receiver : nameOfPart? .python "self" = none := rfl
      rw [parameters, List.filterMap_cons_none receiver, List.filterMap_map]
      refine List.filterMap_congr fun param member => ?_
      exact nameOfPart?_annotated (identifiers param member) param.type
  | javaScript =>
      rw [parameters, List.filterMap_map]
      refine List.filterMap_congr fun param member => ?_
      exact congrArg (some ∘ some) (Prototype.name_of_withoutDefault (identifiers param member))
  | java =>
      rw [parameters, List.filterMap_map]
      refine List.filterMap_congr fun param member => ?_
      exact congrArg some (nameOfPart?_typedParameter (isParameterType_written param.type).1
        (isUnqualified_written param.type).1 (identifiers param member))
  | cpp => exact filterMap_cppParameters identifiers 0

/-- The parameters of a template are read back with their names, in their order. -/
theorem parameterNames_parameters
    (language : Language) :
    parameterNames language (Text.joinWith ", " (parameters language schema)) =
      schema.params.map fun param => some param.name := by
  have parts := isPart_of_mem_parameters identifiers language
  simp only [isPart, Bool.and_eq_true] at parts
  rw [parameterNames, Prototype.splitTopLevel_joinWith (fun part member => (parts part member).1)
    fun part member => ⟨Text.ne_nil_of_solid (parts part member).2,
      Text.trim_of_solid (parts part member).2⟩]
  exact filterMap_parameters identifiers language

end Parameters

end Kata.Template
