import Kata.Text.Lines
import Kata.Text.Blank

/-!
# Lines and blocks of source text

Whole lines are pulled out of a source text, and whole blocks are dropped from it: blocks in
braces, and blocks that are held together by indentation. What is left is joined by line feeds.
-/

namespace Kata.Source

/-! ## Single lines -/

/-- The trimmed lines that satisfy `isHoisted`, and the text without them. -/
def hoistLines (isHoisted : Text → Bool) (text : Text) : List Text × Text :=
  let lines := Text.lines text
  ((lines.map Text.trim).filter isHoisted,
    Text.joinWith ['\n'] (lines.filter fun line => !isHoisted (Text.trim line)))

/-! ## Blocks in braces -/

/-- How deep in braces the end of a line lies, and whether a brace was opened in the block so
far. -/
structure BraceDepth where
  depth : Nat
  isOpened : Bool
deriving DecidableEq, Repr

/-- Behind a further line of a block. The depth never falls below zero. -/
def BraceDepth.behind (state : BraceDepth) (line : Text) : BraceDepth :=
  { depth := state.depth + line.count '\x7b' - line.count '\x7d'
    isOpened := state.isOpened || 0 < line.count '\x7b' }

/-- A block ends with the line that brings the depth back to zero. -/
def BraceDepth.isClosed (state : BraceDepth) : Bool :=
  state.isOpened && state.depth == 0

/-- The block that is left open behind a line, if any. -/
def BraceDepth.open? (state : BraceDepth) : Option BraceDepth :=
  if state.isClosed then none else some state

/-- The lines outside the blocks that begin with a line that satisfies `isStart` when trimmed;
`block?` is the block that the lines begin in. -/
def linesOutsideBraces (isStart : Text → Bool) :
    (block? : Option BraceDepth) → List Text → List Text
  | _, [] => []
  | some block, line :: rest =>
    linesOutsideBraces isStart (block.behind (Text.trim line)).open? rest
  | none, line :: rest =>
    if isStart (Text.trim line) then
      linesOutsideBraces isStart ((BraceDepth.mk 0 false).behind (Text.trim line)).open? rest
    else line :: linesOutsideBraces isStart none rest

/-- A text without the blocks in braces whose first line satisfies `isStart`. -/
def stripBracedBlocks (isStart : Text → Bool) (text : Text) : Text :=
  Text.joinWith ['\n'] (linesOutsideBraces isStart none (Text.lines text))

/-! ## Blocks by indentation -/

/-- Whether a line begins with a space or a tab. -/
def isIndented (line : Text) : Bool :=
  line.head? == some ' ' || line.head? == some '\t'

/-- Whether a line is blank. -/
def isBlankLine (line : Text) : Bool :=
  Text.trim line == []

/-- The lines outside the blocks that begin with a line that is not indented and satisfies
`isStart`; such a block holds the indented and blank lines that follow. `isInside` says whether
the lines begin in a block. -/
def linesOutsideIndents (isStart : Text → Bool) : (isInside : Bool) → List Text → List Text
  | _, [] => []
  | isInside, line :: rest =>
    if isInside && (isIndented line || isBlankLine line) then
      linesOutsideIndents isStart true rest
    else if !isIndented line && isStart line then linesOutsideIndents isStart true rest
    else line :: linesOutsideIndents isStart false rest

/-- A text without the blocks by indentation whose first line satisfies `isStart`. -/
def stripIndentedBlocks (isStart : Text → Bool) (text : Text) : Text :=
  Text.joinWith ['\n'] (linesOutsideIndents isStart false (Text.lines text))

end Kata.Source
