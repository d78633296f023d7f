/-
How large a table is when it is drawn as a card.

A card has a header with the table's name and a row for each column with its name and
type, and never gets smaller than a least size.
-/
import TableGraph.Text.Width
import TableGraph.Graph.Layered

namespace TableGraph

open Layout

/-- The measures of the text and of the card around it. -/
structure TextMetrics where
  charWidth : Float := 8.0
  rowHeight : Float := 30.0
  headerHeight : Float := 60.0
  paddingX : Float := 12.0
  minNodeWidth : Float := 220.0
  minNodeHeight : Float := 150.0

namespace TextMetrics

/-- The larger of two sizes.  What is not a number is no size, and leaves the other one. -/
def larger (a b : Float) : Float := if a.isNaN then b else max a b

/-- The width of a text in a fixed pitch. -/
def textWidth (m : TextMetrics) (text : String) : Float :=
  Float.ofNat (Text.width text) * m.charWidth

/-- The width of a column's row: its name, its type and two characters between them. -/
def columnWidth (m : TextMetrics) (c : Column) : Float :=
  m.textWidth c.name + m.textWidth c.type + m.charWidth * 2.0

/-- The width of a card. -/
def nodeWidth (m : TextMetrics) (label : String) (columns : List Column) : Float :=
  let widest := columns.foldl (fun widest c => larger widest (m.columnWidth c)) 0.0
  larger (larger (m.textWidth label) widest + m.paddingX * 2.0) m.minNodeWidth

/-- The height of a card. -/
def nodeHeight (m : TextMetrics) (columns : List Column) : Float :=
  larger (Float.ofNat columns.length * m.rowHeight + m.headerHeight) m.minNodeHeight

/-- The card of a node. -/
def box (m : TextMetrics) (n : Node) : Box Float :=
  ⟨n.id, m.nodeWidth n.label n.columns, m.nodeHeight n.columns⟩

end TextMetrics

/-- The graph with its nodes placed; nothing but their positions changes. -/
def Graph.layOut (g : Graph) (l : Layered Float) (m : TextMetrics) : Graph :=
  let positions := l.place (g.nodes.map m.box) (g.edges.map fun e => ⟨e.source, e.target⟩)
  { g with nodes := (g.nodes.zip positions).map fun (n, p) => { n with position := p } }

end TableGraph
