import Kata.Proofs.Json.Extension
import Kata.Proofs.Problem.Directory

/-!
# The shapes of problem files

Records of problems can be given as a list, as an object with a list of problems, and, where there
is only one, as it is. In each shape the file has the problems of all records or none at all. A
shape that lies around the records takes up levels of its own, and the reader goes 127 deep.
-/

namespace Kata.Problem

open Json (object array listText memberText parseAll nestingOfItems nestingOfMembers depthLimit)

/-! ## Records -/

/-- The name of the member that holds a list of problems. -/
def problemsKey : Text := "problems"

/-- Whether a record stands for a problem. -/
def ReadsAs (record : List (Text × Json)) (problem : Problem) : Prop :=
  Problem.record.read (object record) = .ok problem

/-- The problems of a list of records, or why some record is none. -/
def readAll (records : List (List (Text × Json))) : Except Json.Mismatch (List Problem) :=
  (records.map object).mapM Problem.record.read

theorem readAll_eq_ok_iff
    {records : List (List (Text × Json))} {problems : List Problem} :
    readAll records = .ok problems ↔ List.Forall₂ ReadsAs records problems := by
  rw [readAll, Json.mapM_eq_ok_iff, List.forall₂_map_left_iff]
  rfl

theorem exists_of_forall₂
    {records : List (List (Text × Json))} {problems : List Problem}
    (each : List.Forall₂ ReadsAs records problems) :
    ∀ record ∈ records, ∃ problem, ReadsAs record problem := by
  induction each with
  | nil => simp
  | cons reads _ inductionHypothesis =>
      rw [List.forall_mem_cons]
      exact ⟨⟨_, reads⟩, inductionHypothesis⟩

/-! ## What fits -/

theorem read_problems_of_set
    (value : Json) :
    setRecord.read (object [(problemsKey, value)]) = Json.asList Problem.record.read value := by
  have found :
      ∃ field, setRecord.fields.find? (·.goesBy problemsKey) = some field ∧
        field.name = problemsKey ∧
          field.put = fun value _ => Json.asList Problem.record.read value :=
    ⟨_, rfl, rfl, rfl⟩
  obtain ⟨field, found, name, put⟩ := found
  rw [Json.Record.read, Json.Record.visitMembers, found]
  simp only [List.contains_nil, Bool.false_eq_true, if_false, name, put]
  cases Json.asList Problem.record.read value with
  | error reason => rfl
  | ok problems => rfl

theorem read_problem_of_set
    (value : Json) :
    Problem.record.read (object [(problemsKey, value)]) = .error (.missingField "title") := by
  have unknown :
      ∀ member ∈ [(problemsKey, value)],
        Problem.record.fields.find? (·.goesBy member.1) = none :=
    List.forall_mem_singleton.2 rfl
  have missing : ∃ field, Problem.record.missing? [] = some field ∧ field.name = "title" :=
    ⟨_, rfl, rfl⟩
  obtain ⟨field, missing, name⟩ := missing
  rw [Json.read_of_unknown unknown missing, name]

theorem find?_of_ne
    {name : Text} (other : problemsKey ≠ name) :
    setRecord.fields.find? (·.goesBy name) = none := by
  rw [List.find?_eq_none]
  intro field member
  obtain rfl := List.mem_singleton.1 member
  change ¬(problemsKey == name || false) = true
  rw [beq_false_of_ne other]
  exact Bool.false_ne_true

theorem read_set_of_record
    {record : List (Text × Json)} (plain : problemsKey ∉ record.map Prod.fst) :
    setRecord.read (object record) = .error (.missingField problemsKey) := by
  have unknown : ∀ member ∈ record, setRecord.fields.find? (·.goesBy member.1) = none := by
    intro member inRecord
    apply find?_of_ne
    intro same
    rw [same] at plain
    exact plain (List.mem_map_of_mem inRecord)
  have missing : ∃ field, setRecord.missing? [] = some field ∧ field.name = problemsKey :=
    ⟨_, rfl, rfl⟩
  obtain ⟨field, missing, name⟩ := missing
  rw [Json.read_of_unknown unknown missing, name]

/-- No list that begins with an object is a problem. -/
theorem ofSingle?_list
    (record : List (Text × Json)) (records : List (List (Text × Json))) :
    ofSingle? (array ((record :: records).map object)) = none := by
  rfl

theorem ofFileValue?_list
    (records : List (List (Text × Json))) :
    ofFileValue? (array (records.map object)) = (readAll records).toOption := by
  have noSet : ofSet? (array (records.map object)) = none := rfl
  have list : ofList? (array (records.map object)) = (readAll records).toOption := rfl
  rw [ofFileValue?, noSet, list, Option.none_or]
  cases records with
  | nil => rfl
  | cons record records => rw [ofSingle?_list, Option.or_none]

theorem ofFileValue?_set
    (records : List (List (Text × Json))) :
    ofFileValue? (object [(problemsKey, array (records.map object))]) =
      (readAll records).toOption := by
  have noList : ofList? (object [(problemsKey, array (records.map object))]) = none := rfl
  rw [ofFileValue?, ofSet?, read_problems_of_set, noList, ofSingle?, read_problem_of_set]
  exact Option.or_none

theorem ofFileValue?_single
    {record : List (Text × Json)} (plain : problemsKey ∉ record.map Prod.fst) :
    ofFileValue? (object record) = (readAll [record]).toOption := by
  have noList : ofList? (object record) = none := rfl
  rw [ofFileValue?, ofSet?, read_set_of_record plain, noList, ofSingle?, readAll,
    List.map_singleton, List.mapM_cons]
  cases Problem.record.read (object record) with
  | error reason => rfl
  | ok problem => rfl

/-! ## Whole files -/

/-- Whether a value is that of a problem file with the given records. -/
inductive Presents : List (List (Text × Json)) → Json → Prop
  | list (records : List (List (Text × Json))) : Presents records (array (records.map object))
  | set (records : List (List (Text × Json))) :
      Presents records (object [(problemsKey, array (records.map object))])
  | single {record : List (Text × Json)} :
      problemsKey ∉ record.map Prod.fst → Presents [record] (object record)

theorem ofFileValue?_of_presents
    {records : List (List (Text × Json))} {value : Json} (presents : Presents records value) :
    ofFileValue? value = (readAll records).toOption := by
  cases presents with
  | list => exact ofFileValue?_list records
  | set => exact ofFileValue?_set records
  | single plain => exact ofFileValue?_single plain

/-- Whether all of some records are loaded, in their order, or none of them. -/
structure AllOrNone (records : List (List (Text × Json)))
    (result : Except FileError (List Problem)) : Prop where
  all : ∀ problems, List.Forall₂ ReadsAs records problems → result = .ok problems
  none : (∃ record ∈ records, ∀ problem, ¬ReadsAs record problem) → result = .error .noShape

theorem allOrNone_of_presents
    {records : List (List (Text × Json))} {value : Json} (presents : Presents records value)
    {content : Text} (parsed : parseAll content = .ok value) :
    AllOrNone records (ofFile content) := by
  have fits := ofFileValue?_of_presents presents
  constructor
  · intro problems each
    rw [readAll_eq_ok_iff.2 each] at fits
    simp only [ofFile, parsed, fits, Except.toOption]
  · rintro ⟨record, member, fails⟩
    cases read : readAll records with
    | error reason =>
        rw [read] at fits
        simp only [ofFile, parsed, fits, Except.toOption]
    | ok problems =>
        obtain ⟨problem, reads⟩ := exists_of_forall₂ (readAll_eq_ok_iff.1 read) record member
        exact absurd reads (fails problem)

/-- What a file with records gives whose shape leaves them a number of levels. -/
structure LoadsWithin (limit : Nat) (records : List (List (Text × Json)))
    (result : Except FileError (List Problem)) : Prop where
  within : nestingOfItems (records.map object) ≤ limit → AllOrNone records result
  beyond :
    limit < nestingOfItems (records.map object) → ∃ fault, result = .error (.malformed fault)

theorem loadsWithin_of_standsFor
    {records : List (List (Text × Json))} {value : Json} (presents : Presents records value)
    {content : Text} (stands : Json.StandsFor content value) {limit : Nat}
    (levels :
      Json.nesting value + limit + 1 = nestingOfItems (records.map object) + depthLimit) :
    LoadsWithin limit records (ofFile content) := by
  constructor
  · intro shallow
    exact allOrNone_of_presents presents (Json.parseAll_of_standsFor stands (by omega))
  · intro deep
    obtain ⟨fault, refused⟩ := Json.exists_fault_of_standsFor stands (by omega)
    exact ⟨fault, by simp only [ofFile, refused]⟩

/-! ### Files made of texts of records -/

/-- Whether a text is that of a record that is no list of problems itself. -/
structure HoldsRecord (text : Text) (record : List (Text × Json)) : Prop where
  parsed : parseAll text = .ok (object record)
  plain : problemsKey ∉ record.map Prod.fst

/-- The texts of records as the list of problems of an object. -/
def setText (texts : List Text) : Text :=
  memberText problemsKey (listText texts)

section Texts

variable {texts : List Text} {records : List (List (Text × Json))}
variable (each : List.Forall₂ HoldsRecord texts records)
include each

theorem standsFor_of_holdsRecord :
    Json.StandsFor (listText texts) (array (records.map object)) := by
  apply Json.standsFor_listText
  rw [List.forall₂_map_right_iff]
  exact each.imp fun _ _ holds => Json.standsFor_of_parseAll holds.parsed

theorem loadsWithin_listText :
    LoadsWithin 126 records (ofFile (listText texts)) := by
  apply loadsWithin_of_standsFor (Presents.list records) (standsFor_of_holdsRecord each)
  rw [Json.nesting, depthLimit]

theorem loadsWithin_setText :
    LoadsWithin 125 records (ofFile (setText texts)) := by
  apply loadsWithin_of_standsFor (Presents.set records)
    (Json.standsFor_memberText problemsKey (standsFor_of_holdsRecord each))
  rw [Json.nesting, nestingOfMembers, nestingOfMembers, Json.nesting, Nat.max_zero, depthLimit]

theorem allOrNone_single
    {text : Text} (single : texts = [text]) :
    AllOrNone records (ofFile text) := by
  subst single
  obtain ⟨record, none, holds, nothing, rfl⟩ := List.forall₂_cons_left_iff.1 each
  obtain rfl := List.forall₂_nil_left_iff.1 nothing
  exact allOrNone_of_presents (Presents.single holds.plain) holds.parsed

end Texts

theorem holdsRecord_compact
    {record : List (Text × Json)} (exact : Json.isExact (object record) = true)
    (shallow : Json.nesting (object record) < depthLimit)
    (plain : problemsKey ∉ record.map Prod.fst) :
    HoldsRecord (Json.compact (object record)) record where
  parsed := by
    rw [Json.compact_eq_spaced]
    exact Json.parseAll_spaced (by simp) exact shallow
  plain := plain

/-- The record of a problem of which nothing but the title is known. -/
def titleRecord (title : Text) : List (Text × Json) :=
  [("title", .string title)]

theorem readsAs_titleRecord
    (title : Text) :
    ReadsAs (titleRecord title) (Problem.titled title) := by
  rfl

theorem holdsRecord_titleRecord
    (title : Text) :
    HoldsRecord (Json.compact (object (titleRecord title))) (titleRecord title) := by
  have flat : Json.nesting (object (titleRecord title)) = 1 := rfl
  have other : problemsKey ∉ ["title".toList] := by decide
  exact holdsRecord_compact rfl (by rw [flat]; decide) other

/-- An array with a number of arrays inside each other. -/
def stacked : Nat → Json
  | 0 => array []
  | n + 1 => array [stacked n]

theorem nesting_stacked
    (n : Nat) :
    Json.nesting (stacked n) = n + 1 := by
  induction n with
  | zero => rfl
  | succ n inductionHypothesis =>
      rw [stacked, Json.nesting, nestingOfItems, nestingOfItems, inductionHypothesis,
        Nat.max_zero]

theorem isExact_stacked
    (n : Nat) :
    Json.isExact (stacked n) = true := by
  induction n with
  | zero => rfl
  | succ n inductionHypothesis =>
      rw [stacked, Json.isExact, Json.itemsAreExact, inductionHypothesis]
      rfl

/-- A problem with a member of 126 levels. -/
def deepRecord : List (Text × Json) :=
  [("title", .string "Deep"), ("levels", stacked 125)]

theorem nesting_deepRecord :
    Json.nesting (object deepRecord) = 127 := by
  rw [deepRecord, Json.nesting, nestingOfMembers, nestingOfMembers, nestingOfMembers,
    nesting_stacked]
  rfl

theorem holdsRecord_deepRecord :
    HoldsRecord (Json.compact (object deepRecord)) deepRecord := by
  apply holdsRecord_compact
  · rw [deepRecord, Json.isExact, Json.membersAreExact, Json.membersAreExact, isExact_stacked]
    rfl
  · rw [nesting_deepRecord]
    decide
  · decide

end Kata.Problem
