/-!
Trees of conditions. A tree joins its leaves and its children with one connective and may be negated
as a whole. Trees are combined without a look at what the leaves are.
-/
namespace SelectBuilder

inductive Connective where
  | and | or
  deriving DecidableEq, Repr

def Connective.keyword : Connective → String
  | .and => "AND"
  | .or => "OR"

/-- Leaves and child trees under one connective. -/
inductive Tree (α : Type) where
  | node (mode : Connective) (negated : Bool) (leaves : List α) (children : List (Tree α))

namespace Tree

variable {α ε : Type}

def mode : Tree α → Connective
  | .node mode _ _ _ => mode

def negated : Tree α → Bool
  | .node _ negated _ _ => negated

def leaves : Tree α → List α
  | .node _ _ leaves _ => leaves

def children : Tree α → List (Tree α)
  | .node _ _ _ children => children

/-- The tree without parts, which every row meets. -/
def empty : Tree α := .node .and false [] []

def leaf (a : α) : Tree α := .node .and false [a] []

def addLeaf (t : Tree α) (a : α) : Tree α :=
  .node t.mode t.negated (t.leaves ++ [a]) t.children

/-- A tree without parts, negated or not. -/
def isEmpty (t : Tree α) : Bool :=
  t.leaves.isEmpty && t.children.isEmpty

def size (t : Tree α) : Nat :=
  t.leaves.length + t.children.length

/-- Whether parts joined with a connective can be added at the top. -/
def accepts (t : Tree α) (mode : Connective) : Bool :=
  t.mode = mode && !t.negated

/-- Joins two trees. A tree that accepts the connective takes the other one in, its parts if that
one accepts the connective too and the whole of it if not. -/
def combine (mode : Connective) (left right : Tree α) : Tree α :=
  if left.accepts mode then
    if right.accepts mode then
      .node mode false (left.leaves ++ right.leaves) (left.children ++ right.children)
    else .node mode false left.leaves (left.children ++ [right])
  else if right.accepts mode then
    .node mode false right.leaves (right.children ++ [left])
  else .node mode false [] [left, right]

def and (left right : Tree α) : Tree α :=
  combine .and left right

def or (left right : Tree α) : Tree α :=
  combine .or left right

/-- Negates a tree. A negated tree goes into a new one, so that both negations stay visible. -/
def not (t : Tree α) : Tree α :=
  if t.negated then .node .and true [] [t] else .node t.mode true t.leaves t.children

/-- The trees that hold if all of them do, joined from left to right. -/
def all (trees : List (Tree α)) : Tree α :=
  trees.foldl and empty

/-- Parts with a connective between them. No part reads as true, one part stands alone. -/
def joinParts (mode : Connective) : List String → String
  | [] => "1"
  | [part] => part
  | parts => "(" ++ (") " ++ mode.keyword ++ " (").intercalate parts ++ ")"

def negateText (negated : Bool) (text : String) : String :=
  if negated then "NOT (" ++ text ++ ")" else text

mutual

/-- The tree as it stands in a statement, given the texts of its leaves. The first leaf that fails
decides the error, the tree's own leaves coming before its children. -/
def render (leafText : α → Except ε String) : Tree α → Except ε String
  | .node mode negated leaves children => do
    let own ← leaves.mapM leafText
    let nested ← renderChildren leafText children
    return negateText negated (joinParts mode (own ++ nested))

def renderChildren (leafText : α → Except ε String) : List (Tree α) → Except ε (List String)
  | [] => .ok []
  | child :: rest =>
    if child.isEmpty then renderChildren leafText rest
    else do
      let text ← render leafText child
      let texts ← renderChildren leafText rest
      return text :: texts

end

end Tree

end SelectBuilder
