import Mathlib.Data.List.Basic

/-! # Trees of texts

A tree as a parser builds it: every node has a text of its own and children under keys, in their
order. It is read by path, the first child of a key at each step.
-/

inductive DataTree where
  | node (data : String) (children : List (String × DataTree))

namespace DataTree

def data : DataTree → String
  | node data _ => data

def children : DataTree → List (String × DataTree)
  | node _ children => children

/-- The node under a path. -/
def getChild? : List String → DataTree → Option DataTree
  | [], t => some t
  | key :: path, t => (t.children.lookup key).bind (getChild? path)

/-- The text of the node under a path. -/
def text? (t : DataTree) (path : List String) : Option String := (getChild? path t).map data

/-- The text of the node under a path, and none where there is no such node. -/
def textD (t : DataTree) (path : List String) : String := (t.text? path).getD ""

/-- The children without their keys. -/
def items (t : DataTree) : List DataTree := t.children.map Prod.snd

/-- A node without a text of its own. -/
def branch (children : List (String × DataTree)) : DataTree := node "" children

/-- A node without children. -/
def leaf (data : String) : DataTree := node data []

end DataTree
