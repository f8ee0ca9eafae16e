import Kata.Fragment.Library

/-!
# JavaScript fragments

The fixed pieces of JavaScript code that a program is put together from.
-/

namespace Kata.Fragment.JavaScript

/-- The type of the nodes of a linked list. -/
def listNode : Text :=
  Text.ofLines
    ["function ListNode(val, next) \x7b",
     "    this.val = (val === undefined ? 0 : val);",
     "    this.next = (next === undefined ? null : next);",
     "\x7d"]

/-- The type of the nodes of a binary tree. -/
def treeNode : Text :=
  Text.ofLines
    ["function TreeNode(val, left, right) \x7b",
     "    this.val = (val === undefined ? 0 : val);",
     "    this.left = (left === undefined ? null : left);",
     "    this.right = (right === undefined ? null : right);",
     "\x7d"]

/-- The type of the nodes of a graph. -/
def graphNode : Text :=
  Text.ofLines
    ["function GraphNode(val, neighbors) \x7b",
     "    this.val = (val === undefined ? 0 : val);",
     "    this.neighbors = (neighbors === undefined ? [] : neighbors);",
     "\x7d"]

/-- Building a linked list from its items, and listing them. -/
def listFunctions : Text :=
  Text.ofLines
    ["function buildLinkedList(values) \x7b",
     "    const dummy = new ListNode(0);",
     "    let tail = dummy;",
     "    for (const v of values) \x7b",
     "        tail.next = new ListNode(v);",
     "        tail = tail.next;",
     "    \x7d",
     "    return dummy.next;",
     "\x7d",
     "",
     "function serializeLinkedList(head) \x7b",
     "    let slow = head;",
     "    let fast = head;",
     "    while (fast != null && fast.next != null) \x7b",
     "        slow = slow.next;",
     "        fast = fast.next.next;",
     "        if (slow === fast) throw new Error(\"linked list contains a cycle\");",
     "    \x7d",
     "    const out = [];",
     "    while (head != null) \x7b",
     "        out.push(head.val);",
     "        head = head.next;",
     "    \x7d",
     "    return out;",
     "\x7d"]

/-- Building a binary tree from its slots in level order, and listing them. -/
def treeFunctions : Text :=
  Text.ofLines
    ["function buildTree(values) \x7b",
     "    if (!values.length || values[0] === null) return null;",
     "    const root = new TreeNode(values[0]);",
     "    const queue = [root];",
     "    let head = 0;",
     "    let i = 1;",
     "    while (head < queue.length && i < values.length) \x7b",
     "        const node = queue[head++];",
     "        if (i < values.length && values[i] !== null) \x7b",
     "            node.left = new TreeNode(values[i]);",
     "            queue.push(node.left);",
     "        \x7d",
     "        i++;",
     "        if (i < values.length && values[i] !== null) \x7b",
     "            node.right = new TreeNode(values[i]);",
     "            queue.push(node.right);",
     "        \x7d",
     "        i++;",
     "    \x7d",
     "    return root;",
     "\x7d",
     "",
     "function serializeTree(root) \x7b",
     "    const out = [];",
     "    const queue = [root];",
     "    for (let head = 0; head < queue.length; head++) \x7b",
     "        const node = queue[head];",
     "        if (node === null || node === undefined) \x7b",
     "            out.push(null);",
     "            continue;",
     "        \x7d",
     "        out.push(node.val);",
     "        queue.push(node.left === undefined ? null : node.left);",
     "        queue.push(node.right === undefined ? null : node.right);",
     "    \x7d",
     "    while (out.length && out[out.length - 1] === null) out.pop();",
     "    return out;",
     "\x7d"]

/-- Building a graph from its rows of neighbours, and listing them. The walk begins at node 1, and
rows of nodes that it does not reach stay empty. -/
def graphFunctions : Text :=
  Text.ofLines
    ["function buildGraph(adjacency) \x7b",
     "    const nodes = adjacency.map((_, i) => new GraphNode(i + 1));",
     "    adjacency.forEach((neighbors, i) => \x7b",
     "        for (const j of neighbors || []) \x7b",
     "            if (Number.isInteger(j) && j >= 1 && j <= nodes.length) nodes[i].neighbors.push(nodes[j - 1]);",
     "        \x7d",
     "    \x7d);",
     "    return nodes.length ? nodes[0] : null;",
     "\x7d",
     "",
     "function serializeGraph(start) \x7b",
     "    if (start === null || start === undefined) return [];",
     "    const seen = new Map([[start.val, start]]);",
     "    const queue = [start];",
     "    for (let head = 0; head < queue.length; head++) \x7b",
     "        for (const nb of queue[head].neighbors) \x7b",
     "            if (!seen.has(nb.val)) \x7b",
     "                seen.set(nb.val, nb);",
     "                queue.push(nb);",
     "            \x7d",
     "        \x7d",
     "    \x7d",
     "    const size = Math.max(...seen.keys());",
     "    const out = [];",
     "    for (let v = 1; v <= size; v++) \x7b",
     "        out.push(seen.has(v) ? seen.get(v).neighbors.map((nb) => nb.val) : []);",
     "    \x7d",
     "    return out;",
     "\x7d"]

/-- Printing a result. -/
def support : Text :=
  Text.ofLines
    ["function __pjFormat(value, nested, floats) \x7b",
     "    if (value === null || value === undefined) return \"null\";",
     "    if (typeof value === \"boolean\") return value ? \"true\" : \"false\";",
     "    if (typeof value === \"number\") \x7b",
     "        if (Number.isNaN(value)) return \"NaN\";",
     "        if (!Number.isFinite(value)) return value > 0 ? \"Infinity\" : \"-Infinity\";",
     "        return floats || !Number.isInteger(value) ? value.toFixed(5) : String(value);",
     "    \x7d",
     "    if (typeof value === \"bigint\") return value.toString();",
     "    if (typeof value === \"string\") return nested ? JSON.stringify(value) : value;",
     "    if (Array.isArray(value) || ArrayBuffer.isView(value)) \x7b",
     "        return \"[\" + Array.from(value, (v) => __pjFormat(v, true, floats)).join(\",\") + \"]\";",
     "    \x7d",
     "    if (typeof value === \"object\") \x7b",
     "        return \"\x7b\" + Object.keys(value).map((k) => JSON.stringify(k) + \":\" + __pjFormat(value[k], true, floats)).join(\",\") + \"\x7d\";",
     "    \x7d",
     "    return String(value);",
     "\x7d"]

/-- The code for each structure. -/
def library : Library where
  definition
    | .linkedList => listNode
    | .binaryTree => treeNode
    | .graph => graphNode
  functions
    | .linkedList => listFunctions
    | .binaryTree => treeFunctions
    | .graph => graphFunctions
  builder
    | .linkedList => "buildLinkedList"
    | .binaryTree => "buildTree"
    | .graph => "buildGraph"
  serializer
    | .linkedList => "serializeLinkedList"
    | .binaryTree => "serializeTree"
    | .graph => "serializeGraph"

/-- The test that an object at run time is a node of a structure. -/
def nodeTest : Structure → Text
  | .linkedList => "\"val\" in value && \"next\" in value"
  | .binaryTree => "\"left\" in value && \"right\" in value"
  | .graph => "\"neighbors\" in value"

end Kata.Fragment.JavaScript
