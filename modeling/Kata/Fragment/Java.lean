import Kata.Fragment.Library

/-!
# Java fragments

The fixed pieces of Java code that a program is put together from. The functions stand inside a
class.
-/

namespace Kata.Fragment.Java

/-- The type of the nodes of a linked list. -/
def listNode : Text :=
  Text.ofLines
    ["class ListNode \x7b",
     "    int val;",
     "    ListNode next;",
     "    ListNode() \x7b\x7d",
     "    ListNode(int val) \x7b this.val = val; \x7d",
     "    ListNode(int val, ListNode next) \x7b this.val = val; this.next = next; \x7d",
     "\x7d"]

/-- The type of the nodes of a binary tree. -/
def treeNode : Text :=
  Text.ofLines
    ["class TreeNode \x7b",
     "    int val;",
     "    TreeNode left;",
     "    TreeNode right;",
     "    TreeNode() \x7b\x7d",
     "    TreeNode(int val) \x7b this.val = val; \x7d",
     "    TreeNode(int val, TreeNode left, TreeNode right) \x7b",
     "        this.val = val;",
     "        this.left = left;",
     "        this.right = right;",
     "    \x7d",
     "\x7d"]

/-- The type of the nodes of a graph. -/
def graphNode : Text :=
  Text.ofLines
    ["class GraphNode \x7b",
     "    public int val;",
     "    public List<GraphNode> neighbors;",
     "    public GraphNode() \x7b this(0); \x7d",
     "    public GraphNode(int val) \x7b this.val = val; this.neighbors = new ArrayList<GraphNode>(); \x7d",
     "    public GraphNode(int val, List<GraphNode> neighbors) \x7b this.val = val; this.neighbors = neighbors; \x7d",
     "\x7d"]

/-- Building a linked list from its items, and listing them. -/
def listFunctions : Text :=
  Text.ofLines
    ["    static ListNode buildLinkedList(int[] values) \x7b",
     "        ListNode dummy = new ListNode(0);",
     "        ListNode tail = dummy;",
     "        for (int v : values) \x7b",
     "            tail.next = new ListNode(v);",
     "            tail = tail.next;",
     "        \x7d",
     "        return dummy.next;",
     "    \x7d",
     "",
     "    static List<Integer> serializeLinkedList(ListNode head) \x7b",
     "        ListNode slow = head;",
     "        ListNode fast = head;",
     "        while (fast != null && fast.next != null) \x7b",
     "            slow = slow.next;",
     "            fast = fast.next.next;",
     "            if (slow == fast) throw new IllegalStateException(\"linked list contains a cycle\");",
     "        \x7d",
     "        List<Integer> out = new ArrayList<>();",
     "        while (head != null) \x7b",
     "            out.add(head.val);",
     "            head = head.next;",
     "        \x7d",
     "        return out;",
     "    \x7d"]

/-- Building a binary tree from its slots in level order, and listing them. -/
def treeFunctions : Text :=
  Text.ofLines
    ["    static TreeNode buildTree(Integer[] values) \x7b",
     "        if (values.length == 0 || values[0] == null) return null;",
     "        TreeNode root = new TreeNode(values[0]);",
     "        Deque<TreeNode> queue = new ArrayDeque<>();",
     "        queue.add(root);",
     "        int i = 1;",
     "        while (!queue.isEmpty() && i < values.length) \x7b",
     "            TreeNode node = queue.poll();",
     "            if (i < values.length && values[i] != null) \x7b",
     "                node.left = new TreeNode(values[i]);",
     "                queue.add(node.left);",
     "            \x7d",
     "            i++;",
     "            if (i < values.length && values[i] != null) \x7b",
     "                node.right = new TreeNode(values[i]);",
     "                queue.add(node.right);",
     "            \x7d",
     "            i++;",
     "        \x7d",
     "        return root;",
     "    \x7d",
     "",
     "    static List<Integer> serializeTree(TreeNode root) \x7b",
     "        List<Integer> out = new ArrayList<>();",
     "        Queue<TreeNode> queue = new LinkedList<>();",
     "        queue.add(root);",
     "        while (!queue.isEmpty()) \x7b",
     "            TreeNode node = queue.poll();",
     "            if (node == null) \x7b",
     "                out.add(null);",
     "                continue;",
     "            \x7d",
     "            out.add(node.val);",
     "            queue.add(node.left);",
     "            queue.add(node.right);",
     "        \x7d",
     "        while (!out.isEmpty() && out.get(out.size() - 1) == null) out.remove(out.size() - 1);",
     "        return out;",
     "    \x7d"]

/-- Building a graph from its rows of neighbours, and listing them. The walk begins at node 1, and
rows of nodes that it does not reach stay empty. -/
def graphFunctions : Text :=
  Text.ofLines
    ["    static GraphNode buildGraph(int[][] adjacency) \x7b",
     "        GraphNode[] nodes = new GraphNode[adjacency.length];",
     "        for (int i = 0; i < adjacency.length; i++) nodes[i] = new GraphNode(i + 1);",
     "        for (int i = 0; i < adjacency.length; i++) \x7b",
     "            for (int j : adjacency[i]) \x7b",
     "                if (j >= 1 && j <= nodes.length) nodes[i].neighbors.add(nodes[j - 1]);",
     "            \x7d",
     "        \x7d",
     "        return nodes.length == 0 ? null : nodes[0];",
     "    \x7d",
     "",
     "    static List<List<Integer>> serializeGraph(GraphNode start) \x7b",
     "        List<List<Integer>> out = new ArrayList<>();",
     "        if (start == null) return out;",
     "        Map<Integer, GraphNode> seen = new HashMap<>();",
     "        seen.put(start.val, start);",
     "        Deque<GraphNode> queue = new ArrayDeque<>();",
     "        queue.add(start);",
     "        while (!queue.isEmpty()) \x7b",
     "            GraphNode node = queue.poll();",
     "            for (GraphNode nb : node.neighbors) \x7b",
     "                if (!seen.containsKey(nb.val)) \x7b",
     "                    seen.put(nb.val, nb);",
     "                    queue.add(nb);",
     "                \x7d",
     "            \x7d",
     "        \x7d",
     "        int size = Collections.max(seen.keySet());",
     "        for (int v = 1; v <= size; v++) \x7b",
     "            List<Integer> row = new ArrayList<>();",
     "            GraphNode node = seen.get(v);",
     "            if (node != null) for (GraphNode nb : node.neighbors) row.add(nb.val);",
     "            out.add(row);",
     "        \x7d",
     "        return out;",
     "    \x7d"]

/-- Nested lists from rows of integers, and printing a result. -/
def support : Text :=
  Text.ofLines
    ["    static List<List<Integer>> toNestedList(int[][] rows) \x7b",
     "        List<List<Integer>> out = new ArrayList<>();",
     "        for (int[] row : rows) \x7b",
     "            List<Integer> inner = new ArrayList<>();",
     "            for (int v : row) inner.add(v);",
     "            out.add(inner);",
     "        \x7d",
     "        return out;",
     "    \x7d",
     "",
     "    static String pjQuote(String s) \x7b",
     "        StringBuilder out = new StringBuilder(\"\\\"\");",
     "        for (char c : s.toCharArray()) \x7b",
     "            switch (c) \x7b",
     "                case '\"': out.append(\"\\\\\\\"\"); break;",
     "                case '\\\\': out.append(\"\\\\\\\\\"); break;",
     "                case '\\n': out.append(\"\\\\n\"); break;",
     "                case '\\r': out.append(\"\\\\r\"); break;",
     "                case '\\t': out.append(\"\\\\t\"); break;",
     "                default: out.append(c);",
     "            \x7d",
     "        \x7d",
     "        return out.append('\"').toString();",
     "    \x7d",
     "",
     "    static String pjFormat(Object value, boolean nested) \x7b",
     "        if (value == null) return \"null\";",
     "        if (value instanceof Boolean) return value.toString();",
     "        if (value instanceof Double || value instanceof Float) \x7b",
     "            double d = ((Number) value).doubleValue();",
     "            if (Double.isNaN(d)) return \"NaN\";",
     "            if (Double.isInfinite(d)) return d > 0 ? \"Infinity\" : \"-Infinity\";",
     "            return String.format(Locale.ROOT, \"%.5f\", d);",
     "        \x7d",
     "        if (value instanceof Number) return value.toString();",
     "        if (value instanceof Character || value instanceof CharSequence) \x7b",
     "            return nested ? pjQuote(value.toString()) : value.toString();",
     "        \x7d",
     "        if (value.getClass().isArray()) \x7b",
     "            StringJoiner out = new StringJoiner(\",\", \"[\", \"]\");",
     "            int length = java.lang.reflect.Array.getLength(value);",
     "            for (int i = 0; i < length; i++) out.add(pjFormat(java.lang.reflect.Array.get(value, i), true));",
     "            return out.toString();",
     "        \x7d",
     "        if (value instanceof Iterable) \x7b",
     "            StringJoiner out = new StringJoiner(\",\", \"[\", \"]\");",
     "            for (Object item : (Iterable<?>) value) out.add(pjFormat(item, true));",
     "            return out.toString();",
     "        \x7d",
     "        if (value instanceof Map) \x7b",
     "            StringJoiner out = new StringJoiner(\",\", \"\x7b\", \"\x7d\");",
     "            for (Map.Entry<?, ?> e : ((Map<?, ?>) value).entrySet()) \x7b",
     "                out.add(pjQuote(String.valueOf(e.getKey())) + \":\" + pjFormat(e.getValue(), true));",
     "            \x7d",
     "            return out.toString();",
     "        \x7d",
     "        return value.toString();",
     "    \x7d"]

/-- The code for each structure. -/
def library : Library where
  definition
    | .linkedList => listNode
    | .binaryTree => treeNode
    | .graph => graphNode
  functions
    | .linkedList => listFunctions
    | .binaryTree => treeFunctions
    | .graph => graphFunctions
  builder
    | .linkedList => "buildLinkedList"
    | .binaryTree => "buildTree"
    | .graph => "buildGraph"
  serializer
    | .linkedList => "serializeLinkedList"
    | .binaryTree => "serializeTree"
    | .graph => "serializeGraph"

/-- The imports of every program. -/
def baseImports : List Text := ["import java.util.*;", "import java.util.stream.*;"]

end Kata.Fragment.Java
