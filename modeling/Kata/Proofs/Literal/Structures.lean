import Kata.DataType.Spelling
import Kata.Literal.Render
import Kata.Proofs.Prototype.Splitting
import Kata.Proofs.Text.Digits

/-!
# Structures in all languages

A structure is built from plain data: the items of a list, the slots of a tree in level order, the
rows of a graph. Each language writes the data with its own brackets and its own word for a gap
inside of a call. A reader that knows nothing but these words finds the same data in all of them.
-/

namespace Kata

/-! ## Data of structures -/

/-- What a structure is built from. -/
inductive StructureData where
  | items (ints : List Int64)
  | slots (slots : List (Option Int64))
  | rows (rows : List (List Int64))
deriving DecidableEq, Repr

/-- A value as the data of a structure. -/
def Value.structureData (value : Value) : Structure → StructureData
  | .linkedList => .items value.listInts
  | .binaryTree => .slots value.treeSlots
  | .graph => .rows value.adjacencyRows

namespace Literal

open DataType (between?)

/-- How a language writes a list of data. -/
structure Script where
  opening : Char
  closing : Char
  /-- The word for a gap among the slots of a tree. -/
  gapWord : Text
  /-- What stands around each slot of a tree. -/
  slotQuote : Text

/-- How each language writes a list of data. In C++ the slots of a tree are quoted. -/
def script : Language → Script
  | .python => ⟨'[', ']', "None", []⟩
  | .javaScript => ⟨'[', ']', "null", []⟩
  | .java => ⟨'\x7b', '\x7d', "null", []⟩
  | .cpp => ⟨'\x7b', '\x7d', "null", ['"']⟩

/-- What stands ahead of the data in the call that builds a structure. -/
def callOpening : Language → Structure → Text
  | .python, .linkedList => "build_linked_list("
  | .python, .binaryTree => "build_tree("
  | .python, .graph => "build_graph("
  | .javaScript, .linkedList => "buildLinkedList("
  | .javaScript, .binaryTree => "buildTree("
  | .javaScript, .graph => "buildGraph("
  | .java, .linkedList => "buildLinkedList(new int[]"
  | .java, .binaryTree => "buildTree(new Integer[]"
  | .java, .graph => "buildGraph(new int[][]"
  | .cpp, .linkedList => "buildLinkedList(vector<int>"
  | .cpp, .binaryTree => "buildTree(vector<string>"
  | .cpp, .graph => "buildGraph(vector<vector<int>>"

/-! ## Reading -/

section Readers

variable {α : Type}

/-- The parts of a list: commas stand between them, each with a blank behind it. -/
def parts? (inner : Text) : Option (List Text) :=
  match Prototype.splitFrom 0 inner with
  | [] => none
  | first :: later => (later.mapM (Text.after? [' '])).map (first :: ·)

/-- Read a list in brackets, each part of it by a reader. -/
def readList? (script : Script) (read? : Text → Option α) (text : Text) : Option (List α) :=
  (between? [script.opening] [script.closing] text).bind fun inner =>
    if inner = [] then some [] else (parts? inner).bind (·.mapM read?)

end Readers

/-- Read a slot of a tree: a gap or an integer. -/
def readSlot? (script : Script) (text : Text) : Option (Option Int64) :=
  (between? script.slotQuote script.slotQuote text).bind fun word =>
    if word = script.gapWord then some none else (Value.readWord? word).map some

/-- Read the data of a structure from the call that builds it. -/
def readStructure? (language : Language) (kind : Structure) (text : Text) : Option StructureData :=
  (between? (callOpening language kind) [')'] text).bind fun data =>
    match kind with
    | .linkedList => (readList? (script language) Value.readWord? data).map .items
    | .binaryTree =>
      (readList? (script language) (readSlot? (script language)) data).map .slots
    | .graph =>
      (readList? (script language) (readList? (script language) Value.readWord?) data).map .rows

/-! ## Lists -/

theorem between?_append
    (opening inner closing : Text) :
    between? opening closing (opening ++ (inner ++ closing)) = some inner := by
  rw [between?, Text.after?_append, Option.bind_some, Text.before?_append]

theorem mapM_map
    {α β : Type} {read? : β → Option α} {write : α → β} {items : List α}
    (back : ∀ item ∈ items, read? (write item) = some item) :
    (items.map write).mapM read? = some items := by
  induction items with
  | nil => rfl
  | cons item items inductionHypothesis =>
      rw [List.forall_mem_cons] at back
      rw [List.map_cons, List.mapM_cons, back.1, inductionHypothesis back.2]
      rfl

theorem parts?_joinWith
    {parts : List Text} (nonempty : parts ≠ [])
    (oneParts : ∀ part ∈ parts, Prototype.isOnePart 0 part = true) :
    parts? (Text.joinWith ", " parts) = some parts := by
  obtain ⟨first, later, rfl⟩ := List.exists_cons_of_ne_nil nonempty
  have back : (later.map (' ' :: ·)).mapM (Text.after? [' ']) = some later :=
    mapM_map fun part _ => Text.after?_append [' '] part
  rw [parts?, Prototype.splitFrom_joinWith oneParts]
  dsimp only
  rw [back]
  rfl

theorem joinWith_ne_nil
    {separator : Text} {parts : List Text} (nonempty : parts ≠ [])
    (partsNonempty : ∀ part ∈ parts, part ≠ []) :
    Text.joinWith separator parts ≠ [] := by
  obtain ⟨first, later, rfl⟩ := List.exists_cons_of_ne_nil nonempty
  obtain ⟨c, rest, rfl⟩ :=
    List.exists_cons_of_ne_nil (partsNonempty first List.mem_cons_self)
  exact List.ne_nil_of_mem (Text.mem_joinWith_of_mem List.mem_cons_self List.mem_cons_self)

/-- A list in brackets is read back part by part. -/
theorem readList?_enclosed
    {α : Type} {script : Script} {read? : Text → Option α} {write : α → Text}
    {items : List α} (nonempty : ∀ item ∈ items, write item ≠ [])
    (oneParts : ∀ item ∈ items, Prototype.isOnePart 0 (write item) = true)
    (back : ∀ item ∈ items, read? (write item) = some item) :
    readList? script read? (enclosed script.opening script.closing (items.map write)) =
      some items := by
  have brackets :
      enclosed script.opening script.closing (items.map write) =
        [script.opening] ++ (Text.joinWith ", " (items.map write) ++ [script.closing]) :=
    rfl
  rw [readList?, brackets, between?_append, Option.bind_some]
  by_cases none : items = []
  · rw [none]
    rfl
  · have some : items.map write ≠ [] := fun empty => none (List.map_eq_nil_iff.1 empty)
    rw [if_neg (joinWith_ne_nil some (List.forall_mem_map.2 nonempty)),
      parts?_joinWith some (List.forall_mem_map.2 oneParts), Option.bind_some, mapM_map back]

/-! ## Integers, slots and rows -/

theorem isFlat_of_mem_intText
    {n : Int64} {c : Char} (member : c ∈ intText n) :
    Prototype.isFlat c = true := by
  have digits : ∀ {m : Nat}, c ∈ Text.ofNat m → Prototype.isFlat c = true :=
    fun inside => Text.forall_isDigit (by decide) c (Text.isDigit_of_mem_ofNat inside)
  rw [intText] at member
  cases sign : n.toInt with
  | ofNat m =>
      rw [sign] at member
      exact digits member
  | negSucc m =>
      rw [sign] at member
      rcases List.mem_cons.1 member with isSign | inside
      · rw [isSign]
        decide
      · exact digits inside

theorem readWord?_intText
    (n : Int64) :
    Value.readWord? (intText n) = some n :=
  Value.readWord?_ofInt n

theorem intText_ne_nil
    (n : Int64) :
    intText n ≠ [] :=
  Text.ofInt_ne_nil n.toInt

/-- A slot of a tree as a language writes it. -/
def Script.slot (script : Script) (slot : Option Int64) : Text :=
  script.slotQuote ++ ((slot.elim script.gapWord intText) ++ script.slotQuote)

section Scripts

variable (language : Language)

theorem readWord?_gapWord :
    Value.readWord? (script language).gapWord = none ∧ (script language).gapWord ≠ [] ∧
      (script language).gapWord.all Prototype.isFlat = true ∧
        (script language).slotQuote.all Prototype.isFlat = true := by
  cases language <;> decide

theorem readSlot?_slot
    (slot : Option Int64) :
    readSlot? (script language) ((script language).slot slot) = some slot := by
  rw [readSlot?, Script.slot, between?_append, Option.bind_some]
  cases slot with
  | none => exact if_pos rfl
  | some n =>
      have different : intText n ≠ (script language).gapWord := by
        intro same
        have read := readWord?_intText n
        rw [same, (readWord?_gapWord language).1] at read
        exact nomatch read
      rw [Option.elim_some, if_neg different, readWord?_intText, Option.map_some]

theorem isOnePart_slot
    (slot : Option Int64) :
    Prototype.isOnePart 0 ((script language).slot slot) = true := by
  obtain ⟨_, _, wordFlat, quoteFlat⟩ := readWord?_gapWord language
  refine Prototype.isOnePart_of_flat ?_
  rw [List.all_eq_true] at wordFlat quoteFlat
  refine List.forall_mem_append.2 ⟨quoteFlat, List.forall_mem_append.2 ⟨?_, quoteFlat⟩⟩
  cases slot with
  | none => exact wordFlat
  | some n => exact fun c => isFlat_of_mem_intText

theorem slot_ne_nil
    (slot : Option Int64) :
    (script language).slot slot ≠ [] := by
  have word : slot.elim (script language).gapWord intText ≠ [] := by
    cases slot with
    | none => exact (readWord?_gapWord language).2.1
    | some n => exact intText_ne_nil n
  intro empty
  exact word (List.append_eq_nil_iff.1 (List.append_eq_nil_iff.1 empty).2).1

theorem readList?_ints
    (ints : List Int64) :
    readList? (script language) Value.readWord?
        (enclosed (script language).opening (script language).closing (ints.map intText)) =
      some ints :=
  readList?_enclosed (fun n _ => intText_ne_nil n)
    (fun _ _ => Prototype.isOnePart_of_flat fun _ => isFlat_of_mem_intText)
    fun n _ => readWord?_intText n

/-- Brackets around a text without brackets are opened and closed once. -/
theorem isOnePart_enclosed
    {pieces : List Text}
    (flat : ∀ piece ∈ pieces, ∀ c ∈ piece, Prototype.isFlat c = true) :
    Prototype.isOnePart 0
        (enclosed (script language).opening (script language).closing pieces) = true := by
  have steps :
      Prototype.bracketStep (script language).opening = 1 ∧
        Prototype.bracketStep (script language).closing = -1 ∧
          (script language).opening ≠ ',' ∧ (script language).closing ≠ ',' := by
    cases language <;> decide
  have level : ∀ c ∈ Text.joinWith ", " pieces, Prototype.bracketStep c = 0 := by
    intro c member
    rcases Text.mem_joinWith member with border | ⟨piece, isPiece, inside⟩
    · have borderLevel : (", " : Text).all (Prototype.bracketStep · == 0) = true := by decide
      exact beq_iff_eq.1 (List.all_eq_true.1 borderLevel c border)
    · have both := flat piece isPiece c inside
      rw [Prototype.isFlat, Bool.and_eq_true, beq_iff_eq] at both
      exact both.2
  rw [enclosed, List.cons_append, Prototype.isOnePart_cons, steps.1, Int.zero_add,
    Prototype.isOnePart_append_of_level (by decide) level, Prototype.isOnePart_cons, steps.2.1]
  exact ⟨fun comma => steps.2.2.1 comma.1, fun comma => steps.2.2.2 comma.1, rfl⟩

theorem readList?_rows
    (rows : List (List Int64)) :
    readList? (script language) (readList? (script language) Value.readWord?)
        (enclosed (script language).opening (script language).closing
          (rows.map fun row =>
            enclosed (script language).opening (script language).closing (row.map intText))) =
      some rows :=
  readList?_enclosed (fun _ _ => List.cons_ne_nil _ _)
    (fun _ _ =>
      isOnePart_enclosed language (List.forall_mem_map.2 fun _ _ _ => isFlat_of_mem_intText))
    fun row _ => readList?_ints language row

theorem readList?_slots
    (slots : List (Option Int64)) :
    readList? (script language) (readSlot? (script language))
        (enclosed (script language).opening (script language).closing
          (slots.map (script language).slot)) =
      some slots :=
  readList?_enclosed (fun slot _ => slot_ne_nil language slot)
    (fun slot _ => isOnePart_slot language slot)
    fun slot _ => readSlot?_slot language slot

end Scripts

/-! ## Calls -/

/-- The list in which a language writes the data of a structure. -/
def Script.data (script : Script) : StructureData → Text
  | .items ints => enclosed script.opening script.closing (ints.map intText)
  | .slots slots => enclosed script.opening script.closing (slots.map script.slot)
  | .rows rows =>
    enclosed script.opening script.closing
      (rows.map fun row => enclosed script.opening script.closing (row.map intText))

section Slots

variable (slot : Option Int64)

theorem slot_python :
    Vocabulary.python.slot slot = (script .python).slot slot := by
  cases slot <;> simp [Vocabulary.slot, Script.slot, script, Vocabulary.python]

theorem slot_javaScript :
    Vocabulary.javaScript.slot slot = (script .javaScript).slot slot := by
  cases slot <;> simp [Vocabulary.slot, Script.slot, script, Vocabulary.javaScript]

theorem slot_java :
    Java.slot slot = (script .java).slot slot := by
  cases slot <;> simp [Java.slot, Script.slot, script]

theorem slot_cpp :
    Cpp.slot slot = (script .cpp).slot slot := by
  cases slot <;> simp [Cpp.slot, Script.slot, script]

end Slots

/-- The literal of a structure is a call on the list of its data. -/
theorem render_dataType
    (language : Language) (value : Value) (kind : Structure) :
    render language value kind.dataType =
      callOpening language kind ++
        ((script language).data (value.structureData kind) ++ [')']) := by
  have python : Vocabulary.python.slot = (script .python).slot := funext slot_python
  have javaScript : Vocabulary.javaScript.slot = (script .javaScript).slot :=
    funext slot_javaScript
  have java : Java.slot = (script .java).slot := funext slot_java
  have cpp : Cpp.slot = (script .cpp).slot := funext slot_cpp
  have ints : value.items.map (Cpp.scalar .int) = value.listInts.map intText := by
    rw [Value.listInts, List.map_map]
    rfl
  cases language <;> cases kind <;>
    simp only [render, Vocabulary.literal, Java.literal, Cpp.literal, Structure.dataType,
      reduceCtorEq, if_false, Vocabulary.settled, Java.settled, Cpp.settled, Vocabulary.build,
      Java.build, Cpp.build, Cpp.bracedItems, python, javaScript, java, cpp, ints,
      List.append_assoc] <;>
    rfl

/-! ## The same data -/

/-- The calls that build a structure from a value hold the same data in all languages, each in the
notation of its language, and nothing else: two values are written alike just if their data are the
same. -/
theorem structures_hold_the_same_data
    (kind : Structure) (value : Value) :
    (∀ language,
        readStructure? language kind (render language value kind.dataType) =
          some (value.structureData kind)) ∧
      ∀ language other,
        render language value kind.dataType = render language other kind.dataType ↔
          value.structureData kind = other.structureData kind := by
  have back :
      ∀ language other,
        readStructure? language kind (render language other kind.dataType) =
          some (other.structureData kind) := by
    intro language other
    rw [render_dataType, readStructure?, between?_append, Option.bind_some]
    cases kind with
    | linkedList =>
        exact congrArg (Option.map StructureData.items) (readList?_ints language other.listInts)
    | binaryTree =>
        exact congrArg (Option.map StructureData.slots) (readList?_slots language other.treeSlots)
    | graph =>
        exact congrArg (Option.map StructureData.rows) (readList?_rows language other.adjacencyRows)
  refine ⟨fun language => back language value, fun language other =>
    ⟨fun same => ?_, fun same => ?_⟩⟩
  · have read := back language value
    rw [same, back language other] at read
    exact (Option.some.inj read).symm
  · rw [render_dataType, render_dataType, same]

end Literal

end Kata
