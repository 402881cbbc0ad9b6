/-
  Montage.Filter.Graph

  Filter graphs: nodes that read labelled streams, pass them through a chain of
  filters and write labelled streams.  One counter numbers the labels of a graph.
-/
import Montage.Filter.Basic

namespace Montage.Filter

/-- A chain of filters between input and output labels. -/
structure Node where
  inputs : List String
  chain : List Filter
  outputs : List String

namespace Node

/-- A label in brackets. -/
def labelText (label : String) : String :=
  "[" ++ label ++ "]"

def render (node : Node) : String :=
  String.join (node.inputs.map labelText) ++ ",".intercalate (node.chain.map Filter.render) ++
    String.join (node.outputs.map labelText)

end Node

/-- The nodes of a graph in order, and the number of the next label. -/
structure Graph where
  nodes : List Node := []
  counter : Nat := 0

namespace Graph

/-- The next label with the given stem. -/
def fresh (stem : String) (graph : Graph) : String × Graph :=
  (stem ++ graph.counter.repr, { graph with counter := graph.counter + 1 })

/-- The graph with one more node. -/
def add (node : Node) (graph : Graph) : Graph :=
  { graph with nodes := graph.nodes ++ [node] }

/-- The graph with one more node, whose only output is a fresh label. -/
def addFresh (inputs : List String) (chain : List Filter) (stem : String) (graph : Graph) :
    String × Graph :=
  let (label, graph) := graph.fresh stem
  (label, graph.add ⟨inputs, chain, [label]⟩)

@[simp] theorem nodes_fresh (stem : String) (graph : Graph) :
    (graph.fresh stem).2.nodes = graph.nodes := rfl

@[simp] theorem counter_fresh (stem : String) (graph : Graph) :
    (graph.fresh stem).2.counter = graph.counter + 1 := rfl

@[simp] theorem nodes_add (node : Node) (graph : Graph) :
    (graph.add node).nodes = graph.nodes ++ [node] := rfl

@[simp] theorem counter_add (node : Node) (graph : Graph) :
    (graph.add node).counter = graph.counter := rfl

@[simp] theorem nodes_addFresh (inputs : List String) (chain : List Filter) (stem : String)
    (graph : Graph) :
    (graph.addFresh inputs chain stem).2.nodes =
      graph.nodes ++ [⟨inputs, chain, [(graph.addFresh inputs chain stem).1]⟩] := rfl

def renderedNodes (graph : Graph) : List String :=
  graph.nodes.map Node.render

/-- The graph as one text. -/
def serialize (graph : Graph) : String :=
  ";".intercalate graph.renderedNodes

end Graph

end Montage.Filter
