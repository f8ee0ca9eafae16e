import Kata.Fragment.Library

/-!
# Python fragments

The fixed pieces of Python code that a program is put together from.
-/

namespace Kata.Fragment.Python

/-- The first lines of a program. -/
def opening : Text :=
  Text.ofLines
    ["from typing import *",
     "import bisect, collections, functools, heapq, itertools, json, math, sys",
     "from collections import deque, defaultdict, Counter"]

/-- The type of the nodes of a linked list. -/
def listNode : Text :=
  Text.ofLines
    ["class ListNode:",
     "    def __init__(self, val=0, next=None):",
     "        self.val = val",
     "        self.next = next"]

/-- The type of the nodes of a binary tree. -/
def treeNode : Text :=
  Text.ofLines
    ["class TreeNode:",
     "    def __init__(self, val=0, left=None, right=None):",
     "        self.val = val",
     "        self.left = left",
     "        self.right = right"]

/-- The type of the nodes of a graph. -/
def graphNode : Text :=
  Text.ofLines
    ["class GraphNode:",
     "    def __init__(self, val=0, neighbors=None):",
     "        self.val = val",
     "        self.neighbors = neighbors if neighbors is not None else []"]

/-- Building a linked list from its items, and listing them. -/
def listFunctions : Text :=
  Text.ofLines
    ["def build_linked_list(values):",
     "    dummy = ListNode(0)",
     "    tail = dummy",
     "    for v in values:",
     "        tail.next = ListNode(v)",
     "        tail = tail.next",
     "    return dummy.next",
     "",
     "",
     "def serialize_linked_list(head):",
     "    slow = fast = head",
     "    while fast is not None and fast.next is not None:",
     "        slow = slow.next",
     "        fast = fast.next.next",
     "        if slow is fast:",
     "            raise ValueError(\"linked list contains a cycle\")",
     "    out = []",
     "    while head is not None:",
     "        out.append(head.val)",
     "        head = head.next",
     "    return out"]

/-- Building a binary tree from its slots in level order, and listing them. -/
def treeFunctions : Text :=
  Text.ofLines
    ["def build_tree(values):",
     "    if not values or values[0] is None:",
     "        return None",
     "    root = TreeNode(values[0])",
     "    queue = collections.deque([root])",
     "    i = 1",
     "    while queue and i < len(values):",
     "        node = queue.popleft()",
     "        if i < len(values) and values[i] is not None:",
     "            node.left = TreeNode(values[i])",
     "            queue.append(node.left)",
     "        i += 1",
     "        if i < len(values) and values[i] is not None:",
     "            node.right = TreeNode(values[i])",
     "            queue.append(node.right)",
     "        i += 1",
     "    return root",
     "",
     "",
     "def serialize_tree(root):",
     "    out = []",
     "    queue = collections.deque([root])",
     "    while queue:",
     "        node = queue.popleft()",
     "        if node is None:",
     "            out.append(None)",
     "            continue",
     "        out.append(node.val)",
     "        queue.append(node.left)",
     "        queue.append(node.right)",
     "    while out and out[-1] is None:",
     "        out.pop()",
     "    return out"]

/-- Building a graph from its rows of neighbours, and listing them. The walk begins at node 1, and
rows of nodes that it does not reach stay empty. -/
def graphFunctions : Text :=
  Text.ofLines
    ["def build_graph(adjacency):",
     "    nodes = [GraphNode(i + 1) for i in range(len(adjacency))]",
     "    for i, neighbors in enumerate(adjacency):",
     "        for j in neighbors or []:",
     "            if isinstance(j, int) and 1 <= j <= len(nodes):",
     "                nodes[i].neighbors.append(nodes[j - 1])",
     "    return nodes[0] if nodes else None",
     "",
     "",
     "def serialize_graph(start):",
     "    if start is None:",
     "        return []",
     "    seen = \x7bstart.val: start\x7d",
     "    queue = collections.deque([start])",
     "    while queue:",
     "        node = queue.popleft()",
     "        for nb in node.neighbors:",
     "            if nb.val not in seen:",
     "                seen[nb.val] = nb",
     "                queue.append(nb)",
     "    size = max(seen)",
     "    return [[nb.val for nb in seen[v].neighbors] if v in seen else [] for v in range(1, size + 1)]"]

/-- Printing a result, and looking the function up by its name. -/
def support : Text :=
  Text.ofLines
    ["def _pj_format(value, nested=False, floats=False):",
     "    if value is None:",
     "        return \"null\"",
     "    if isinstance(value, bool):",
     "        return \"true\" if value else \"false\"",
     "    if isinstance(value, (int, float)):",
     "        if isinstance(value, float) and math.isnan(value):",
     "            return \"NaN\"",
     "        if isinstance(value, float) and math.isinf(value):",
     "            return \"Infinity\" if value > 0 else \"-Infinity\"",
     "        if floats or isinstance(value, float):",
     "            return \"%.5f\" % value",
     "        return str(value)",
     "    if isinstance(value, str):",
     "        return json.dumps(value, ensure_ascii=False) if nested else value",
     "    if isinstance(value, dict):",
     "        return \"\x7b\" + \",\".join(json.dumps(str(k), ensure_ascii=False) + \":\" + _pj_format(v, True, floats) for k, v in value.items()) + \"\x7d\"",
     "    if isinstance(value, (list, tuple)):",
     "        return \"[\" + \",\".join(_pj_format(v, True, floats) for v in value) + \"]\"",
     "    return str(value)",
     "",
     "",
     "def _pj_resolve(name):",
     "    owner = globals().get(\"Solution\")",
     "    if isinstance(owner, type) and hasattr(owner, name):",
     "        return getattr(owner(), name)",
     "    return globals()[name]"]

/-- The code for each structure. -/
def library : Library where
  definition
    | .linkedList => listNode
    | .binaryTree => treeNode
    | .graph => graphNode
  functions
    | .linkedList => listFunctions
    | .binaryTree => treeFunctions
    | .graph => graphFunctions
  builder
    | .linkedList => "build_linked_list"
    | .binaryTree => "build_tree"
    | .graph => "build_graph"
  serializer
    | .linkedList => "serialize_linked_list"
    | .binaryTree => "serialize_tree"
    | .graph => "serialize_graph"

/-- The test that a value at run time is a node of a structure. -/
def nodeTest : Structure → Text
  | .linkedList => "hasattr(value, \"val\") and hasattr(value, \"next\")"
  | .binaryTree => "hasattr(value, \"left\") and hasattr(value, \"right\")"
  | .graph => "hasattr(value, \"neighbors\")"

end Kata.Fragment.Python
