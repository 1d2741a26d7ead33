import Std.Data.HashMap
import Std.Data.HashSet
import QueryModel.Query.Node

/-! # Outlines

A tree written down node by node, every node once. Nodes are called by numbers, which are given out
in the order in which the nodes are first met, from the root down and from left to right; a node
keeps its number in later outlines.
-/

namespace QueryModel

/-- The nodes that have been met, the latest first. -/
structure Visited where
  ids : Std.HashSet NodeId
  nodes : List Node

/-- A walk over trees that enters every node once. -/
abbrev Visiting := StateM Visited

namespace Visiting

/-- Meet a node; whether it is new. -/
def enter (node : Node) : Visiting Bool := fun visited =>
  if visited.ids.contains node.id then (false, visited)
  else (true, ⟨visited.ids.insert node.id, node :: visited.nodes⟩)

end Visiting

/-- Walk over a scalar. -/
def Scalar.visit (scalar : Scalar) : Visiting Unit := do
  let _ ← Visiting.enter (.expression (.scalar scalar))

/-- Walk over an expression. -/
def Expression.visit : Expression → Visiting Unit
  | .scalar node => node.visit
  | .list values => do
    if ← Visiting.enter (.expression (.list values)) then
      values.elements.forM Scalar.visit

/-- Walk over a predicate. -/
def Predicate.visit (predicate : Predicate) : Visiting Unit := do
  if ← Visiting.enter (.predicate predicate) then
    match predicate with
    | .comparison _ left _ right =>
      left.visit
      right.visit
    | .junction _ left _ right =>
      left.visit
      right.visit
    | .negation _ inner => inner.visit
    | .nullness _ operand _ => operand.visit
    | .between _ operand lower upper _ =>
      operand.visit
      lower.visit
      upper.visit

/-- The nodes of a tree, each once, in the order in which they are first met. -/
def Node.reachable (node : Node) : List Node :=
  let visiting : Visiting Unit :=
    match node with
    | .expression tree => tree.visit
    | .predicate tree => tree.visit
  let ((), visited) := visiting ⟨∅, []⟩
  visited.nodes.reverse

/-- The numbers of nodes. -/
structure Numbering where
  numbers : Std.HashMap NodeId Nat

namespace Numbering

/-- No node has a number. -/
def empty : Numbering := ⟨∅⟩

/-- The numbering in which a node has a number. -/
def withNode (numbering : Numbering) (node : Node) : Numbering :=
  if numbering.numbers.contains node.id then numbering
  else ⟨numbering.numbers.insert node.id numbering.numbers.size⟩

/-- The number of a node. -/
def number (numbering : Numbering) (node : Node) : Nat := numbering.numbers.getD node.id 0

end Numbering

/-- A node in an outline. -/
structure OutlineEntry where
  number : Nat
  node : Node
  /-- The numbers of its operands. -/
  operands : List Nat

/-- A tree written down node by node. -/
structure Outline where
  /-- The number of the root. -/
  root : Nat
  entries : List OutlineEntry

/-- The outline of a tree, and the numbering with the numbers of its nodes. -/
def Node.outline (node : Node) (numbering : Numbering) : Outline × Numbering :=
  let nodes := node.reachable
  let numbering := nodes.foldl Numbering.withNode numbering
  let entries := nodes.map fun node =>
    ⟨numbering.number node, node, node.operands.map numbering.number⟩
  (⟨numbering.number node, entries⟩, numbering)

end QueryModel
