import Kata.Program.Cpp
import Kata.Program.Java
import Kata.Program.JavaScript
import Kata.Program.Python

/-!
# Composing programs

A program that runs a solution on one test case and prints the result.
-/

namespace Kata.Program

/-- The segments of the program for a request, with the given plans. -/
def segmentsWith (language : Language) (plans : List Helper.Plan) (request : Request) :
    List Segment :=
  match language with
  | .python => Python.segments plans request
  | .javaScript => JavaScript.segments plans request
  | .java => Java.segments plans request
  | .cpp => Cpp.segments plans request

/-- The segments of the program for a request. -/
def segments (language : Language) (request : Request) : List Segment :=
  segmentsWith language (Helper.plans language request) request

/-- The program for a request. -/
def compose (language : Language) (request : Request) : Text :=
  joined (segments language request)

end Kata.Program
