/-
Schemas, graphs and figures as JSON.

The fields of each object stand in the order in which they are declared here, so a text
that is written from these values is the same every time.
-/
import TableGraph.Graph.Basic
import TableGraph.Json.Basic
import TableGraph.Schema.Statistics

namespace TableGraph

/-- A list of values. -/
def Json.list {α : Type} (toJson : α → Json) (items : List α) : Json := .array (items.map toJson)

/-- A column. -/
def Column.toJson (c : Column) : Json := .object [
  ("name", .string c.name), ("type", .string c.type), ("isPk", .bool c.isPrimary),
  ("isFk", .bool c.isForeign)]

/-- A table with its columns. -/
def Table.toJson (t : Table) : Json := .object [
  ("name", .string t.name), ("columns", .list Column.toJson t.columns)]

/-- A point of the plane. -/
def positionToJson (p : Position Float) : Json := .object [("x", .float p.x), ("y", .float p.y)]

/-- A node. -/
def Node.toJson (n : Node) : Json := .object [
  ("id", .string n.id),
  ("position", positionToJson n.position),
  ("data", .object [
    ("label", .string n.label), ("columns", .list Column.toJson n.columns),
    ("group", .string n.group), ("sql", .string n.sql)])]

/-- An edge. -/
def Edge.toJson (e : Edge) : Json := .object [
  ("id", .string e.id), ("source", .string e.source), ("target", .string e.target),
  ("label", .string e.label), ("data", .object [("type", .string e.kind.name)])]

namespace Statistics

/-- How connected a table is. -/
def Connections.toJson (c : Connections) : Json := .object [
  ("name", .string c.table), ("connections", .nat c.count)]

/-- How large a group is. -/
def GroupCount.toJson (g : GroupCount) : Json := .object [
  ("name", .string g.group), ("count", .nat g.count)]

/-- An issue. -/
def Issue.toJson (i : Issue) : Json := .object [
  ("type", .string i.severity), ("message", .string i.message)]

/-- The figures about a schema. -/
def toJson (s : Statistics) : Json := .object [
  ("tableCount", .nat s.tableCount), ("columnCount", .nat s.columnCount),
  ("relationshipCount", .nat s.relationshipCount), ("avgColumnsPerTable", .float s.averageColumns),
  ("mostConnectedTables", .list Connections.toJson s.mostConnected),
  ("groups", .list GroupCount.toJson s.groups),
  ("potentialIssues", .list Issue.toJson s.issues)]

end Statistics

end TableGraph
