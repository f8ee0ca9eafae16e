import Kata.Prototype.Reading
import Kata.Proofs.Detection.Names
import Kata.Proofs.Prototype.Splitting
import Kata.Proofs.Text.Cuts

/-!
# The names of parameters

A parameter that is written in the way of a language is read back with its name. Where the type
stands ahead of the name, it is read as short as possible, so that no part of the name is taken for
a part of the type.
-/

namespace Kata.Prototype

open Detection (exists_of_takes_dollarName isBlank_of_isDollarName takes_dollarName_of_takes_name
  takes_name_of_isIdentifier)
open Pattern

/-! ## Parameter lists -/

/-- The name of a parameter as it is read in a language, unless the parameter takes no argument of
its own. -/
def nameOfPart? (language : Language) (part : Text) : Option (Option Text) :=
  match language with
  | .python =>
    if isOwnParameter part then some (readAnnotatedParameter part).name?
    else none
  | .javaScript => some (some (Text.trim (withoutDefault part)))
  | .java | .cpp => some (readTypedParameter part).name?

/-- The names of the parameters in a parameter list as they are read in a language. -/
def parameterNames (language : Language) (arguments : Text) : List (Option Text) :=
  (splitTopLevel arguments).filterMap (nameOfPart? language)

/-! ## Names that stand alone or first -/

theorem isFlat_of_isIdentifierChar
    {c : Char} (inName : Name.isIdentifierChar c = true) :
    isFlat c = true := by
  have outside :
      [',', '<', '[', '(', '\x7b', '>', ']', ')', '\x7d'].all
        (fun mark => !Name.isIdentifierChar mark) = true := by
    decide
  have absent := Text.contains_of_outside outside inName
  simp only [List.contains_cons, List.contains_nil, Bool.or_eq_false_iff,
    beq_eq_false_iff_ne] at absent
  simp [isFlat, bracketStep, absent]

theorem withoutDefault_of_not_mem
    {parameter : Text} (absent : '=' ∉ parameter) :
    withoutDefault parameter = parameter := by
  rw [withoutDefault, List.takeWhile_eq_self_iff]
  exact Text.forall_bne_of_not_mem absent

section Identifier

variable {name : Text} (identifier : Name.isIdentifier name = true)
include identifier

theorem not_mem_of_isIdentifier
    {mark : Char} (outside : Name.isIdentifierChar mark = false) :
    mark ∉ name := by
  intro member
  have inside := List.all_eq_true.1 (Name.isPlain_of_isIdentifier identifier) mark member
  rw [outside] at inside
  exact Bool.false_ne_true inside

theorem trim_of_isIdentifier :
    Text.trim name = name := by
  refine Text.trim_of_solid
    (Text.hasSolidEnds_of_forall (Name.ne_nil_of_isIdentifier identifier) ?_)
  intro c member
  exact Text.isBlank_of_isWord (Name.isWord_of_isIdentifierChar
    (List.all_eq_true.1 (Name.isPlain_of_isIdentifier identifier) c member))

/-- A name that stands alone is read back. -/
theorem name_of_withoutDefault :
    Text.trim (withoutDefault name) = name := by
  rw [withoutDefault_of_not_mem (not_mem_of_isIdentifier identifier (by decide)),
    trim_of_isIdentifier identifier]

/-- A parameter whose type follows its name is cut at the colon. -/
theorem readAnnotatedParameter_colon
    {type : Text} (absent : '=' ∉ type) :
    readAnnotatedParameter (name ++ (": " ++ type)) =
      ⟨some name, DataType.ofSpelling? (' ' :: type)⟩ := by
  have whole : name ++ (": " ++ type) = name ++ ':' :: ' ' :: type := by simp
  have plain : '=' ∉ name ++ (": " ++ type) := by
    rw [List.mem_append, List.mem_append, not_or, not_or]
    exact ⟨not_mem_of_isIdentifier identifier (by decide), by decide, absent⟩
  rw [readAnnotatedParameter, withoutDefault_of_not_mem plain, whole,
    Text.cutAt?_append (not_mem_of_isIdentifier identifier (by decide))]
  dsimp only
  rw [trim_of_isIdentifier identifier]

/-- A name ahead of its type is read back. -/
theorem name?_readAnnotatedParameter
    {type : Text} (absent : '=' ∉ type) :
    (readAnnotatedParameter (name ++ (": " ++ type))).name? = some name := by
  rw [readAnnotatedParameter_colon identifier absent]

end Identifier

/-! ## Names behind types -/

/-- What stands behind the type of a parameter: blanks and the name. -/
def parameterEnding : Pattern :=
  inOrder [blanks, group 2 Pattern.name, textEnd]

/-- What is left to be matched in a parameter behind all of its type but the last character. -/
def finishParameter (parameter : Text) (between : Place) : Option Place :=
  run (one isTypeEnd) between fun reached =>
    run parameterEnding
      { reached with
        captures := (1, ⟨0, parameter.take (reached.offset - 0)⟩) :: reached.captures }
      some

/-- Where a parameter can be finished, there is one more character of the type, and then the
name. -/
theorem exists_of_finishParameter
    {parameter behind : Text} {offset : Nat} {previous : Option Char}
    {captures : List (Nat × Capture)} {stop : Place}
    (finished : finishParameter parameter ⟨offset, previous, behind, captures⟩ = some stop) :
    ∃ c gap named,
      behind = c :: (gap ++ named) ∧ isTypeEnd c = true ∧ (∀ d ∈ gap, Text.isBlank d = true) ∧
        named ≠ [] ∧ (∀ d ∈ named, isDollarName d = true) ∧
          stop.remembered.lookup 2 = some named := by
  obtain ⟨_, _, between, reaches, ⟨⟨c, ends, rfl⟩, rfl⟩, onward⟩ := isSound _ finished
  obtain ⟨_, _, reached, reachesEnd, takes, same⟩ := isSound _ onward
  obtain rfl : reached = stop := Option.some.inj same
  obtain ⟨gap, _, _, _, ⟨blank, rfl⟩, atName, rfl, rfl⟩ := takes_inOrder_cons.1 takes
  obtain ⟨named, _, _, _, isGroup, ⟨atEnd, rfl, rfl⟩, rfl, rfl⟩ := takes_inOrder_cons.1 atName
  obtain ⟨_, isName, rfl⟩ := takes_group.1 isGroup
  obtain rfl := remembered_of_isForgetful _ rfl isName
  obtain ⟨first, others, rfl, _, nameChars⟩ :=
    exists_of_takes_dollarName (takes_dollarName_of_takes_name isName)
  refine ⟨c, gap, first :: others, ?_, ends, blank, List.cons_ne_nil _ _, nameChars, ?_⟩
  · have whole : behind = [c] ++ between.rest := reaches.rest
    have ending : between.rest = gap ++ (first :: others ++ []) ++ reached.rest := reachesEnd.rest
    rw [whole, ending, atEnd]
    simp
  · rw [reachesEnd.remembered]
    rfl

theorem isBlank_of_isTypeEnd
    {c : Char} (ends : isTypeEnd c = true) :
    Text.isBlank c = false := by
  rw [isTypeEnd, Bool.or_eq_true, Bool.or_eq_true, Bool.or_eq_true, beq_iff_eq, beq_iff_eq,
    DataType.isPointerMark, Bool.or_eq_true, beq_iff_eq, beq_iff_eq] at ends
  rcases ends with ((word | rfl) | rfl) | rfl | rfl
  · exact Text.isBlank_of_isWord word
  all_goals decide

/-- Behind blanks a name begins no earlier than behind the last blank. -/
theorem gap_append_ne
    {gap named front rest : Text} (blank : ∀ c ∈ gap, Text.isBlank c = true)
    (isName : ∀ c ∈ named, isDollarName c = true) {last : Char}
    (solid : Text.isBlank last = false) :
    gap ++ named ≠ front ++ (last :: ' ' :: rest) := by
  have notInName : ' ' ∉ named := fun member => absurd (isName ' ' member) (by decide)
  have notInGap : last ∉ gap := by
    intro member
    rw [blank last member] at solid
    exact Bool.noConfusion solid
  intro same
  rcases List.append_eq_append_iff.1 same with ⟨more, _, rfl⟩ | ⟨more, rfl, onward⟩
  · exact notInName (List.mem_append_right more (List.mem_cons_of_mem last List.mem_cons_self))
  · cases more with
    | nil =>
        rw [List.nil_append] at onward
        rw [← onward] at notInName
        exact notInName (List.mem_cons_of_mem last List.mem_cons_self)
    | cons d more =>
        rw [(List.cons.inj onward).1] at notInGap
        exact notInGap (List.mem_append_right front List.mem_cons_self)

section Identifier

variable {name : Text} (identifier : Name.isIdentifier name = true)
include identifier

theorem eq_of_gap_append
    {gap named : Text} (blank : ∀ c ∈ gap, Text.isBlank c = true)
    (isName : ∀ c ∈ named, isDollarName c = true) (whole : gap ++ named = ' ' :: name) :
    named = name := by
  cases gap with
  | nil =>
      rw [List.nil_append] at whole
      rw [whole] at isName
      exact absurd (isName ' ' List.mem_cons_self) (by decide)
  | cons c gap =>
      have onward : gap ++ named = name := (List.cons.inj whole).2
      cases gap with
      | nil => exact onward
      | cons d gap =>
          have inName : d ∈ name := onward ▸ List.mem_cons_self
          have solid : Text.isBlank d = false :=
            Text.isBlank_of_isWord (Name.isWord_of_isIdentifierChar
              (List.all_eq_true.1 (Name.isPlain_of_isIdentifier identifier) d inName))
          rw [blank d (List.mem_cons_of_mem c List.mem_cons_self)] at solid
          exact Bool.noConfusion solid

theorem takes_parameterEnding
    (previous : Option Char) :
    Takes parameterEnding previous (' ' :: name) [] [(2, name)] := by
  refine takes_inOrder_cons.2 ⟨[' '], name, [], [(2, name)], ⟨?_, rfl⟩, ?_, rfl, rfl⟩
  · exact List.forall_mem_singleton.2 (by decide)
  · refine takes_inOrder_cons.2 ⟨name, [], [(2, name)], [], ?_, ⟨rfl, rfl, rfl⟩, ?_, rfl⟩
    · exact takes_group.2 ⟨[], takes_name_of_isIdentifier identifier _ _, rfl⟩
    · rw [List.append_nil]

theorem isSome_finishParameter
    {last : Char} (ends : isTypeEnd last = true) (parameter : Text) (offset : Nat)
    (previous : Option Char) (captures : List (Nat × Capture)) :
    (finishParameter parameter ⟨offset, previous, last :: ' ' :: name, captures⟩).isSome =
      true := by
  have answers :
      (run parameterEnding
        ⟨offset + 1, some last, ' ' :: name,
          (1, ⟨0, parameter.take (offset + 1 - 0)⟩) :: captures⟩ some).isSome = true :=
    isComplete parameterEnding (List.append_nil _).symm (takes_parameterEnding identifier _)
      fun _ _ _ => rfl
  rw [finishParameter, run, Place.step?]
  simp only [ends, if_true]
  exact answers

/-- What a parameter with its type looks like to the pattern for it. -/
theorem takes_typedParameter
    {front : Text} {last : Char} (ends : isTypeEnd last = true) (line : '\n' ∉ front) :
    Takes typedParameter none (front ++ (last :: ' ' :: name)) []
      [(2, name), (1, front ++ [last])] := by
  refine takes_inOrder_cons.2
    ⟨[], front ++ (last :: ' ' :: name), [], _, ⟨rfl, rfl, rfl⟩, ?_, rfl,
      (List.append_nil _).symm⟩
  refine takes_inOrder_cons.2
    ⟨front ++ [last], ' ' :: name, [(1, front ++ [last])], [(2, name)], ?_,
      takes_parameterEnding identifier _, by simp, rfl⟩
  refine takes_group.2
    ⟨[], ⟨front, [last], [], [], ⟨Text.forall_bne_of_not_mem line, rfl⟩, ?_, rfl, rfl⟩, rfl⟩
  exact ⟨⟨last, ends, rfl⟩, rfl⟩

/-- The type is read as short as possible: all of what follows it is the name. -/
theorem text?_of_matchAt?
    {front : Text} {last : Char} (ends : isTypeEnd last = true) {found : Match}
    (matched :
      matchAt? typedParameter (Place.start (front ++ (last :: ' ' :: name))) = some found) :
    found.text? 2 = some name := by
  rw [matchAt?, Option.map_eq_some_iff] at matched
  obtain ⟨stop, ran, rfl⟩ := matched
  have shortest :
      runFew (· != '\n') (finishParameter (front ++ (last :: ' ' :: name))) []
        (front ++ (last :: ' ' :: name)) 0 none = some stop :=
    ran
  obtain ⟨piece, behind, whole, finished, shorter⟩ := exists_shortest_of_runFew _ shortest
  obtain ⟨c, gap, named, rfl, _, blank, nonempty, isName, remembers⟩ :=
    exists_of_finishParameter finished
  rw [text?_eq_lookup, remembers]
  have atEnd : c :: (gap ++ named) = last :: ' ' :: name → some named = some name :=
    fun same =>
      congrArg some (eq_of_gap_append identifier blank isName (List.cons.inj same).2)
  rcases List.append_eq_append_iff.1 whole with ⟨more, longer, onward⟩ | ⟨more, _, onward⟩
  · cases more with
    | nil => exact atEnd onward.symm
    | cons d more =>
        -- The type alone would do already.
        have unfinished := shorter longer (List.cons_ne_nil d more)
        rw [← onward] at unfinished
        have finishes :=
          isSome_finishParameter identifier ends (front ++ (last :: ' ' :: name))
            (0 + front.length) (lastOf none front) []
        rw [unfinished] at finishes
        exact absurd finishes Bool.false_ne_true
  · cases more with
    | nil => exact atEnd onward
    | cons d more =>
        exact absurd (List.cons.inj onward).2
          (gap_append_ne blank isName (isBlank_of_isTypeEnd ends))

/-- A name behind its type is read back. -/
theorem name?_readTypedParameter
    {type : Text} (ends : type.getLast?.any isTypeEnd = true) (line : '\n' ∉ type)
    (bare :
      Text.dropRepeated "const " (Text.dropRepeated "final " (type ++ ' ' :: name)) =
        type ++ ' ' :: name) :
    (readTypedParameter (type ++ ' ' :: name)).name? = some name := by
  obtain ⟨last, isLast, lastEnds⟩ := (Option.any_eq_true _ _).1 ends
  obtain ⟨front, rfl⟩ := List.getLast?_eq_some_iff.1 isLast
  have parts : front ++ [last] ++ ' ' :: name = front ++ (last :: ' ' :: name) := by simp
  rw [parts] at bare ⊢
  have takes :
      Takes typedParameter (lastOf none []) (front ++ (last :: ' ' :: name)) []
        [(2, name), (1, front ++ [last])] :=
    takes_typedParameter identifier lastEnds fun member =>
      line (List.mem_append_left [last] member)
  obtain ⟨found, matched⟩ := Option.isSome_iff_exists.1 (isSome_matchAt? takes)
  rw [List.append_nil] at matched
  have searched :
      typedParameter.search? (front ++ (last :: ' ' :: name)) = some found :=
    search?_of_matchAt? matched
  rw [readTypedParameter, bare, searched]
  exact text?_of_matchAt? identifier lastEnds matched

end Identifier

/-! ## Qualifiers -/

theorem dropRepeated_of_none
    {head text : Text} (absent : Text.after? head text = none) :
    Text.dropRepeated head text = text := by
  rw [Text.dropRepeated]
  cases text.length with
  | zero => rfl
  | succ rounds => rw [Text.dropRepeated.go, absent]

/-- A type that begins like no qualifier is left as it is. -/
theorem bare_of_none
    {parameter : Text} (final : Text.after? "final " parameter = none)
    (const : Text.after? "const " parameter = none) :
    Text.dropRepeated "const " (Text.dropRepeated "final " parameter) = parameter := by
  rw [dropRepeated_of_none final, dropRepeated_of_none const]

end Kata.Prototype
