import Kata.Pattern.Search

/-!
# Candidates for the function to be called

Every name that a pattern captures in the source is a candidate, except names that are never the
function to be written. Among the candidates the expected name counts first, then one that
differs from it only in letter case and underscores, then the first in the source.
-/

namespace Kata.Detection

/-! ## Collecting names -/

/-- Insert a capture behind those that do not begin later. -/
def insertCapture (capture : Pattern.Capture) : List Pattern.Capture → List Pattern.Capture
  | [] => [capture]
  | other :: rest =>
    if capture.start < other.start then capture :: other :: rest
    else other :: insertCapture capture rest

/-- Captures by where they begin; those that begin together keep their order. -/
def sortCaptures (captures : List Pattern.Capture) : List Pattern.Capture :=
  captures.foldl (fun sorted capture => insertCapture capture sorted) []

/-- Each text once, where it occurs first. -/
def distinct : List Text → List Text
  | [] => []
  | name :: rest => name :: (distinct rest).filter (· != name)

/-- What the patterns capture as group 1 in a text. -/
def captures (patterns : List Pattern) (text : Text) : List Pattern.Capture :=
  patterns.flatMap fun pattern => (pattern.matchesIn text).filterMap (·.capture? 1)

/-- The names that the patterns capture, each once, in the order of the source. -/
def namesInOrder (patterns : List Pattern) (text : Text) : List Text :=
  distinct ((sortCaptures (captures patterns text)).map Pattern.Capture.text)

/-! ## Choosing a name -/

/-- Names that are never the function to be written. -/
def excludedNames : List Text :=
  (["main", "min", "max", "abs", "swap", "gcd", "lcm", "helper", "dfs", "bfs",
    "ListNode", "TreeNode", "GraphNode", "Node", "Solution", "constructor",
    "build_linked_list", "build_tree", "build_graph",
    "serialize_linked_list", "serialize_tree", "serialize_graph",
    "buildLinkedList", "buildTree", "buildGraph",
    "serializeLinkedList", "serializeTree", "serializeGraph",
    "if", "for", "while", "switch", "catch", "return", "sizeof", "function",
    "else", "new", "do", "try", "synchronized", "typeof", "delete"] : List String).map
      String.toList

/-- Whether a name can be that of the function to be written. -/
def isCandidate (name : Text) : Bool :=
  !"__".toList.isPrefixOf name && !excludedNames.contains name

/-- A name without letter case and underscores. -/
def folded (name : Text) : Text :=
  Text.lowercase (name.filter (· != '_'))

/-- The expected name if it is a candidate, else the first plausible one; without candidates the
expected name stands. -/
def pick (names : List Text) (expected : Text) : Text :=
  let candidates := names.filter isCandidate
  (((candidates.find? (· == expected)).or
    (candidates.find? fun name => folded name == folded expected)).or candidates.head?).getD
    expected

end Kata.Detection
