import Mathlib.Data.List.Infix
import Kata.Source.Blocks
import Kata.Proofs.Text.Blank

/-!
# Blocks in braces

The lines of a text are plain lines and blocks. A block begins with a line that satisfies a
predicate and ends with the first line behind which braces have been opened and all of them are
closed. The depth that is kept along a block never falls below zero; it is the number of braces
that are open there as long as no line closes more of them than are open, and then whole blocks are
removed and nothing else.
-/

namespace Kata.Source

/-! ## Braces on lines -/

/-- How many more braces are opened than closed on some lines. -/
def braceBalance (lines : List Text) : Int :=
  (lines.flatten.count '\x7b' : Int) - lines.flatten.count '\x7d'

/-- Whether braces are opened on some lines, and as many are closed. -/
def HasClosedBraces (lines : List Text) : Prop :=
  '\x7b' ∈ lines.flatten ∧ braceBalance lines = 0

instance (lines : List Text) : Decidable (HasClosedBraces lines) :=
  inferInstanceAs (Decidable (_ ∧ _))

theorem braceBalance_concat
    (lines : List Text) (line : Text) :
    braceBalance (lines ++ [line]) =
      braceBalance lines + line.count '\x7b' - line.count '\x7d' := by
  simp only [braceBalance, List.flatten_append, List.flatten_singleton, List.count_append]
  omega

theorem not_hasClosedBraces_nil :
    ¬HasClosedBraces [] :=
  fun closed => List.not_mem_nil closed.1

/-- Trimming a line takes no brace away. -/
theorem count_trim
    {c : Char} (solid : Text.isBlank c = false) (line : Text) :
    (Text.trim line).count c = line.count c := by
  obtain ⟨lead, trail, leadBlank, trailBlank, whole⟩ := Text.exists_trim line
  have absent : ∀ {gap : Text}, (∀ d ∈ gap, Text.isBlank d = true) → gap.count c = 0 := by
    intro gap blank
    apply List.count_eq_zero_of_not_mem
    intro member
    rw [blank c member] at solid
    exact Bool.noConfusion solid
  conv_rhs => rw [whole]
  rw [List.count_append, List.count_append, absent leadBlank, absent trailBlank]
  omega

/-! ## The depth along a block -/

/-- The depth behind the lines of a block so far. -/
def BraceDepth.behindLines (lines : List Text) : BraceDepth :=
  { depth := (braceBalance lines).toNat
    isOpened := decide ('\x7b' ∈ lines.flatten) }

/-- A further line, where no more braces were closed than opened ahead of it. -/
theorem behind_behindLines
    {lines : List Text} (level : 0 ≤ braceBalance lines) (line : Text) :
    (BraceDepth.behindLines lines).behind (Text.trim line) =
      BraceDepth.behindLines (lines ++ [line]) := by
  have depth :
      (braceBalance lines).toNat + line.count '\x7b' - line.count '\x7d' =
        (braceBalance (lines ++ [line])).toNat := by
    rw [braceBalance_concat]
    omega
  have isOpened :
      (decide ('\x7b' ∈ lines.flatten) || decide (0 < line.count '\x7b')) =
        decide ('\x7b' ∈ (lines ++ [line]).flatten) := by
    simp only [List.count_pos_iff, List.flatten_append, List.flatten_singleton, List.mem_append,
      Bool.decide_or]
  rw [BraceDepth.behind, count_trim (by decide), count_trim (by decide)]
  exact congrArg₂ BraceDepth.mk depth isOpened

section Level

variable {lines : List Text} (level : 0 ≤ braceBalance lines)
include level

theorem isClosed_behindLines :
    (BraceDepth.behindLines lines).isClosed = true ↔ HasClosedBraces lines := by
  rw [BraceDepth.isClosed, Bool.and_eq_true, beq_iff_eq, HasClosedBraces]
  refine and_congr decide_eq_true_iff ?_
  change (braceBalance lines).toNat = 0 ↔ braceBalance lines = 0
  omega

theorem open?_of_closed
    (closed : HasClosedBraces lines) :
    (BraceDepth.behindLines lines).open? = none := by
  rw [BraceDepth.open?, if_pos ((isClosed_behindLines level).2 closed)]

theorem open?_of_not_closed
    (opened : ¬HasClosedBraces lines) :
    (BraceDepth.behindLines lines).open? = some (BraceDepth.behindLines lines) := by
  rw [BraceDepth.open?, if_neg (mt (isClosed_behindLines level).1 opened)]

end Level

/-! ## Plain lines and blocks -/

/-- Lines of a block: the first of them begins it, no line closes more braces than are open, and the
braces are all closed behind the last line at the earliest. -/
structure IsBlock (isStart : Text → Bool) (lines : List Text) : Prop where
  begins : lines.head?.any (fun line => isStart (Text.trim line)) = true
  level : ∀ front, front <+: lines → 0 ≤ braceBalance front
  closesLast : ∀ front, front <+: lines → HasClosedBraces front → front = lines

theorem isBlock_iff
    {isStart : Text → Bool} {lines : List Text} :
    IsBlock isStart lines ↔
      lines.head?.any (fun line => isStart (Text.trim line)) = true ∧
        (∀ front ∈ lines.inits, 0 ≤ braceBalance front) ∧
          ∀ front ∈ lines.inits, HasClosedBraces front → front = lines := by
  simp only [List.mem_inits]
  constructor
  · intro block
    exact ⟨block.begins, block.level, block.closesLast⟩
  · rintro ⟨begins, level, closesLast⟩
    exact ⟨begins, level, closesLast⟩

instance (isStart : Text → Bool) (lines : List Text) : Decidable (IsBlock isStart lines) :=
  decidable_of_iff' _ isBlock_iff

/-- That lines are a sequence of plain lines and blocks, with these plain lines. Only at the end may
a block be left open. -/
inductive Divided (isStart : Text → Bool) : (lines plainLines : List Text) → Prop
  | done : Divided isStart [] []
  | plain {line : Text} {lines plainLines : List Text} :
      isStart (Text.trim line) = false →
      Divided isStart lines plainLines →
      Divided isStart (line :: lines) (line :: plainLines)
  | block {block lines plainLines : List Text} :
      IsBlock isStart block →
      HasClosedBraces block →
      Divided isStart lines plainLines →
      Divided isStart (block ++ lines) plainLines
  | openBlock {block : List Text} :
      IsBlock isStart block →
      ¬HasClosedBraces block →
      Divided isStart block []

/-- From within a block to its end: the depth is the one behind all of its lines. -/
theorem linesOutsideBraces_within
    {isStart : Text → Bool} (later : List Text) {rest : List Text} :
    ∀ {front : List Text},
      (∀ part, part <+: front ++ rest → 0 ≤ braceBalance part) →
        (∀ part, part <+: front ++ rest → HasClosedBraces part → part = front ++ rest) →
          ¬HasClosedBraces front →
            linesOutsideBraces isStart (some (BraceDepth.behindLines front)) (rest ++ later) =
              linesOutsideBraces isStart (BraceDepth.behindLines (front ++ rest)).open? later := by
  induction rest with
  | nil =>
      intro front level _ opened
      rw [List.append_nil] at level ⊢
      rw [open?_of_not_closed (level front (List.prefix_refl front)) opened, List.nil_append]
  | cons line rest inductionHypothesis =>
      intro front level closesLast opened
      have regrouped : front ++ line :: rest = (front ++ [line]) ++ rest :=
        List.append_cons front line rest
      have here : 0 ≤ braceBalance front :=
        level front (List.prefix_append front (line :: rest))
      have next : front ++ [line] <+: front ++ line :: rest := by
        rw [regrouped]
        exact List.prefix_append (front ++ [line]) rest
      rw [List.cons_append, linesOutsideBraces, behind_behindLines here]
      by_cases closed : HasClosedBraces (front ++ [line])
      · -- Only the last line closes the braces, so nothing of the block is left.
        have whole := closesLast (front ++ [line]) next closed
        obtain rfl : rest = [] := by simpa using whole
        rfl
      · rw [open?_of_not_closed (level _ next) closed, regrouped]
        apply inductionHypothesis
        · rwa [← regrouped]
        · rwa [← regrouped]
        · exact closed

/-- A block is passed over as a whole. -/
theorem linesOutsideBraces_block
    {isStart : Text → Bool} {block : List Text} (isBlock : IsBlock isStart block)
    (later : List Text) :
    linesOutsideBraces isStart none (block ++ later) =
      linesOutsideBraces isStart (BraceDepth.behindLines block).open? later := by
  cases block with
  | nil => exact Bool.noConfusion isBlock.begins
  | cons line rest =>
      -- The first line is read like any other, from the depth behind no lines on.
      have entered :
          linesOutsideBraces isStart none (line :: rest ++ later) =
            linesOutsideBraces isStart (some (BraceDepth.behindLines []))
              (line :: rest ++ later) :=
        if_pos isBlock.begins
      rw [entered]
      exact linesOutsideBraces_within later isBlock.level isBlock.closesLast
        not_hasClosedBraces_nil

theorem linesOutsideBraces_of_divided
    {isStart : Text → Bool} {lines plainLines : List Text}
    (divided : Divided isStart lines plainLines) :
    linesOutsideBraces isStart none lines = plainLines := by
  induction divided with
  | done => rfl
  | plain isPlain _ inductionHypothesis =>
      rw [linesOutsideBraces, isPlain, if_neg Bool.false_ne_true, inductionHypothesis]
  | @block block _ _ isBlock closed _ inductionHypothesis =>
      have level := isBlock.level block (List.prefix_refl block)
      rw [linesOutsideBraces_block isBlock, open?_of_closed level closed, inductionHypothesis]
  | @openBlock block isBlock opened =>
      have level := isBlock.level block (List.prefix_refl block)
      have passed := linesOutsideBraces_block isBlock []
      rw [List.append_nil, open?_of_not_closed level opened] at passed
      exact passed

/-- Of a text whose lines are plain lines and blocks, the plain lines are left, in their order. -/
theorem whole_blocks_are_removed
    {isStart : Text → Bool} {text : Text} {plainLines : List Text}
    (divided : Divided isStart (Text.lines text) plainLines) :
    stripBracedBlocks isStart text = Text.joinWith ['\n'] plainLines := by
  rw [stripBracedBlocks, linesOutsideBraces_of_divided divided]

/-- Whether a line begins a main function. -/
def beginsMain (line : Text) : Bool :=
  "int main(".toList.isPrefixOf line

/-- A main function whose brace stands on the next line, with a line inside that would begin
another. -/
def nestedMain : List Text :=
  ["int main()", "\x7b", "    int main(int n) \x7b", "    \x7d", "\x7d"]

/-- A main function on one line. -/
def shortMain : List Text :=
  ["int main() \x7b\x7d"]

/-- A main function that is never closed. -/
def openMain : List Text :=
  ["int main(int n) \x7b", "    n = 1;"]

/-- The three of them among plain lines, the first two back to back. -/
def threeMains : List Text :=
  "int twice(int n);".toList ::
    (nestedMain ++ (shortMain ++ ("int thrice(int n);".toList :: openMain)))

theorem whole_blocks_are_removed_threeMains :
    Divided beginsMain (Text.lines (Text.joinWith ['\n'] threeMains))
        ["int twice(int n);", "int thrice(int n);"] ∧
      stripBracedBlocks beginsMain (Text.joinWith ['\n'] threeMains) =
        "int twice(int n);\nint thrice(int n);".toList := by
  have lines : Text.lines (Text.joinWith ['\n'] threeMains) = threeMains := by decide +kernel
  have nested : IsBlock beginsMain nestedMain := by decide +kernel
  have short : IsBlock beginsMain shortMain := by decide +kernel
  have unclosed : IsBlock beginsMain openMain := by decide +kernel
  have divided :
      Divided beginsMain (Text.lines (Text.joinWith ['\n'] threeMains))
        ["int twice(int n);", "int thrice(int n);"] := by
    rw [lines]
    apply Divided.plain (by decide)
    apply Divided.block nested (by decide +kernel)
    apply Divided.block short (by decide +kernel)
    apply Divided.plain (by decide)
    exact Divided.openBlock unclosed (by decide +kernel)
  refine ⟨divided, ?_⟩
  rw [whole_blocks_are_removed divided]
  decide

end Kata.Source
