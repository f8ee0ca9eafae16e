import Kata.Proofs.Program.Definitions
import Kata.Proofs.Source.Definitions

/-!
# Main functions

A C++ solution is put into a program that has a main function of its own, so the main functions of
the solution are dropped. A main function ends with its body in the code, or is a mere declaration
without one; what is dropped ends where the braces of whole lines are even, those in quoted texts
and comments too. Whether a line beside the main functions is dropped with them is settled by each
run of their lines alone.
-/

namespace Kata.Program

/-- The lines of a C++ solution with their code. -/
def cppLines (source : Text) : List Source.Line :=
  Source.codedLines .slash source

/-- Which lines of a C++ solution are outside of its main functions. -/
def outsideMains (source : Text) : List Bool :=
  Source.byCode.marks Cpp.isMainHead none (cppLines source)

/-- Which lines of a C++ solution are kept. -/
def keptLines (source : Text) : List Bool :=
  Source.byBraces.marks Cpp.isMainHead none (cppLines source)

/-- The unbroken runs of lines of main functions, those behind the last line outside apart. -/
def mainRuns (source : Text) : List (List Source.Line) :=
  Source.byCode.runs Cpp.isMainHead none [] (cppLines source)

/-- The solution stands in the program with the lines that are kept, in their order and but for the
blanks around them. Every line outside of the main functions is among them just if all braces of
every run of lines of main functions, counted line by line, leave no block open. -/
theorem lines_outside_mains_are_kept_iff
    (request : Request) :
    (segments .cpp request).filter Segment.isUser =
        [.user (Text.trim (Text.joinWith ['\n']
          (Source.marked (keptLines request.source) (cppLines request.source))))] ∧
      ((∀ i : Nat, (outsideMains request.source)[i]? = some true →
          (keptLines request.source)[i]? = some true) ↔
        ∀ run ∈ mainRuns request.source, Source.byBraces.isEven Cpp.isMainHead run = true) := by
  refine ⟨?_, Source.marks_le_iff Cpp.isMainHead Source.byCode Source.byBraces _⟩
  have kept :
      Cpp.withoutMain request.source =
        Text.joinWith ['\n']
          (Source.marked (keptLines request.source) (cppLines request.source)) := by
    rw [Cpp.withoutMain, Source.stripBracedBlocks,
      ← Source.map_text_codedLines .slash request.source, Source.linesOutsideBraces_eq]
    rfl
  have user :
      (segments .cpp request).filter Segment.isUser = [.user (userText .cpp request.source)] :=
    filter_isUser_segmentsWith .cpp _ request
  rw [user, userText, Cpp.userText, kept]

/-- A solution that prints a brace in its main function. -/
def printsBrace : Request :=
  Request.make
    "int main() \x7b\n    cout << \"\x7b\" << endl;\n\x7d\n\nint twice(int n) \x7b\n    return 2 * n;\n\x7d\n"
    "twice" [⟨.int, "4"⟩] .int

/-- The function behind it is not part of the main function, and yet it is dropped: nothing is left
of the solution. -/
theorem printsBrace_loses_function :
    ((cppLines printsBrace.source)[4]?.map Source.Line.text =
        some "int twice(int n) \x7b".toList ∧
      (outsideMains printsBrace.source)[4]? = some true) ∧
      (keptLines printsBrace.source)[4]? = some false ∧
        (segments .cpp printsBrace).filter Segment.isUser = [.user []] := by
  decide +kernel

end Kata.Program
