import Kata.Fragment.Library

/-!
# C++ fragments

The fixed pieces of C++ code that a program is put together from.
-/

namespace Kata.Fragment.Cpp

/-- The first lines of a program. -/
def opening : Text :=
  Text.ofLines
    ["#include <bits/stdc++.h>",
     "using namespace std;",
     "",
     "struct PjFlat \x7b",
     "    vector<string> tokens;",
     "\x7d;"]

/-- The type of the nodes of a linked list. -/
def listNode : Text :=
  Text.ofLines
    ["struct ListNode \x7b",
     "    int val;",
     "    ListNode *next;",
     "    ListNode() : val(0), next(nullptr) \x7b\x7d",
     "    ListNode(int x) : val(x), next(nullptr) \x7b\x7d",
     "    ListNode(int x, ListNode *next) : val(x), next(next) \x7b\x7d",
     "\x7d;"]

/-- The type of the nodes of a binary tree. -/
def treeNode : Text :=
  Text.ofLines
    ["struct TreeNode \x7b",
     "    int val;",
     "    TreeNode *left;",
     "    TreeNode *right;",
     "    TreeNode() : val(0), left(nullptr), right(nullptr) \x7b\x7d",
     "    TreeNode(int x) : val(x), left(nullptr), right(nullptr) \x7b\x7d",
     "    TreeNode(int x, TreeNode *left, TreeNode *right) : val(x), left(left), right(right) \x7b\x7d",
     "\x7d;"]

/-- The type of the nodes of a graph. -/
def graphNode : Text :=
  Text.ofLines
    ["struct GraphNode \x7b",
     "    int val;",
     "    vector<GraphNode*> neighbors;",
     "    GraphNode() : val(0) \x7b\x7d",
     "    GraphNode(int x) : val(x) \x7b\x7d",
     "    GraphNode(int x, vector<GraphNode*> neighbors) : val(x), neighbors(neighbors) \x7b\x7d",
     "\x7d;"]

/-- Building a linked list from its items, and listing them. -/
def listFunctions : Text :=
  Text.ofLines
    ["ListNode* buildLinkedList(const vector<int>& values) \x7b",
     "    ListNode dummy(0);",
     "    ListNode* tail = &dummy;",
     "    for (int v : values) \x7b",
     "        tail->next = new ListNode(v);",
     "        tail = tail->next;",
     "    \x7d",
     "    return dummy.next;",
     "\x7d",
     "",
     "vector<int> serializeLinkedList(ListNode* head) \x7b",
     "    ListNode* slow = head;",
     "    ListNode* fast = head;",
     "    while (fast != nullptr && fast->next != nullptr) \x7b",
     "        slow = slow->next;",
     "        fast = fast->next->next;",
     "        if (slow == fast) throw runtime_error(\"linked list contains a cycle\");",
     "    \x7d",
     "    vector<int> out;",
     "    while (head != nullptr) \x7b",
     "        out.push_back(head->val);",
     "        head = head->next;",
     "    \x7d",
     "    return out;",
     "\x7d"]

/-- Building a binary tree from its slots in level order, and listing them. -/
def treeFunctions : Text :=
  Text.ofLines
    ["TreeNode* buildTree(const vector<string>& values) \x7b",
     "    if (values.empty() || values[0] == \"null\") return nullptr;",
     "    TreeNode* root = new TreeNode(stoi(values[0]));",
     "    queue<TreeNode*> pending;",
     "    pending.push(root);",
     "    size_t i = 1;",
     "    while (!pending.empty() && i < values.size()) \x7b",
     "        TreeNode* node = pending.front();",
     "        pending.pop();",
     "        if (i < values.size() && values[i] != \"null\") \x7b",
     "            node->left = new TreeNode(stoi(values[i]));",
     "            pending.push(node->left);",
     "        \x7d",
     "        i++;",
     "        if (i < values.size() && values[i] != \"null\") \x7b",
     "            node->right = new TreeNode(stoi(values[i]));",
     "            pending.push(node->right);",
     "        \x7d",
     "        i++;",
     "    \x7d",
     "    return root;",
     "\x7d",
     "",
     "PjFlat serializeTree(TreeNode* root) \x7b",
     "    PjFlat out;",
     "    queue<TreeNode*> pending;",
     "    pending.push(root);",
     "    while (!pending.empty()) \x7b",
     "        TreeNode* node = pending.front();",
     "        pending.pop();",
     "        if (node == nullptr) \x7b",
     "            out.tokens.push_back(\"null\");",
     "            continue;",
     "        \x7d",
     "        out.tokens.push_back(to_string(node->val));",
     "        pending.push(node->left);",
     "        pending.push(node->right);",
     "    \x7d",
     "    while (!out.tokens.empty() && out.tokens.back() == \"null\") out.tokens.pop_back();",
     "    return out;",
     "\x7d"]

/-- Building a graph from its rows of neighbours, and listing them. The walk begins at node 1, and
rows of nodes that it does not reach stay empty. -/
def graphFunctions : Text :=
  Text.ofLines
    ["GraphNode* buildGraph(const vector<vector<int>>& adjacency) \x7b",
     "    vector<GraphNode*> nodes;",
     "    for (size_t i = 0; i < adjacency.size(); i++) nodes.push_back(new GraphNode((int) i + 1));",
     "    for (size_t i = 0; i < adjacency.size(); i++) \x7b",
     "        for (int j : adjacency[i]) \x7b",
     "            if (j >= 1 && j <= (int) nodes.size()) nodes[i]->neighbors.push_back(nodes[j - 1]);",
     "        \x7d",
     "    \x7d",
     "    return nodes.empty() ? nullptr : nodes[0];",
     "\x7d",
     "",
     "vector<vector<int>> serializeGraph(GraphNode* start) \x7b",
     "    vector<vector<int>> out;",
     "    if (start == nullptr) return out;",
     "    map<int, GraphNode*> seen;",
     "    seen[start->val] = start;",
     "    queue<GraphNode*> pending;",
     "    pending.push(start);",
     "    while (!pending.empty()) \x7b",
     "        GraphNode* node = pending.front();",
     "        pending.pop();",
     "        for (GraphNode* nb : node->neighbors) \x7b",
     "            if (!seen.count(nb->val)) \x7b",
     "                seen[nb->val] = nb;",
     "                pending.push(nb);",
     "            \x7d",
     "        \x7d",
     "    \x7d",
     "    int size = seen.rbegin()->first;",
     "    for (int v = 1; v <= size; v++) \x7b",
     "        vector<int> row;",
     "        auto it = seen.find(v);",
     "        if (it != seen.end()) \x7b",
     "            for (GraphNode* nb : it->second->neighbors) row.push_back(nb->val);",
     "        \x7d",
     "        out.push_back(row);",
     "    \x7d",
     "    return out;",
     "\x7d"]

/-- Printing a result. -/
def support : Text :=
  Text.ofLines
    ["string pjQuote(const string& s) \x7b",
     "    string out = \"\\\"\";",
     "    for (char c : s) \x7b",
     "        switch (c) \x7b",
     "            case '\"': out += \"\\\\\\\"\"; break;",
     "            case '\\\\': out += \"\\\\\\\\\"; break;",
     "            case '\\n': out += \"\\\\n\"; break;",
     "            case '\\r': out += \"\\\\r\"; break;",
     "            case '\\t': out += \"\\\\t\"; break;",
     "            default: out += c;",
     "        \x7d",
     "    \x7d",
     "    return out + \"\\\"\";",
     "\x7d",
     "",
     "string pjFormat(bool v, bool nested = false) \x7b return v ? \"true\" : \"false\"; \x7d",
     "string pjFormat(char v, bool nested = false) \x7b string s(1, v); return nested ? pjQuote(s) : s; \x7d",
     "string pjFormat(const string& v, bool nested = false) \x7b return nested ? pjQuote(v) : v; \x7d",
     "string pjFormat(const char* v, bool nested = false) \x7b return pjFormat(string(v), nested); \x7d",
     "",
     "string pjFormat(double v, bool nested = false) \x7b",
     "    if (isnan(v)) return \"NaN\";",
     "    if (isinf(v)) return v > 0 ? \"Infinity\" : \"-Infinity\";",
     "    ostringstream out;",
     "    out << fixed << setprecision(5) << v;",
     "    return out.str();",
     "\x7d",
     "",
     "string pjFormat(float v, bool nested = false) \x7b return pjFormat((double) v, nested); \x7d",
     "",
     "template <typename T>",
     "typename enable_if<is_integral<T>::value, string>::type pjFormat(T v, bool nested = false) \x7b",
     "    return to_string(v);",
     "\x7d",
     "",
     "string pjFormat(const PjFlat& v, bool nested = false) \x7b",
     "    string out = \"[\";",
     "    for (size_t i = 0; i < v.tokens.size(); i++) \x7b",
     "        if (i) out += \",\";",
     "        out += v.tokens[i];",
     "    \x7d",
     "    return out + \"]\";",
     "\x7d",
     "",
     "template <typename T>",
     "string pjFormat(const vector<T>& v, bool nested = false) \x7b",
     "    string out = \"[\";",
     "    for (size_t i = 0; i < v.size(); i++) \x7b",
     "        if (i) out += \",\";",
     "        out += pjFormat(v[i], true);",
     "    \x7d",
     "    return out + \"]\";",
     "\x7d"]

/-- The code for each structure. -/
def library : Library where
  definition
    | .linkedList => listNode
    | .binaryTree => treeNode
    | .graph => graphNode
  functions
    | .linkedList => listFunctions
    | .binaryTree => treeFunctions
    | .graph => graphFunctions
  builder
    | .linkedList => "buildLinkedList"
    | .binaryTree => "buildTree"
    | .graph => "buildGraph"
  serializer
    | .linkedList => "serializeLinkedList"
    | .binaryTree => "serializeTree"
    | .graph => "serializeGraph"

end Kata.Fragment.Cpp
