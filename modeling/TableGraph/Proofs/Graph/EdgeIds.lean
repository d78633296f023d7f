/-
No two edges have the same id.

An id is a place and two names with a hyphen before each name.  The names are what a script
says, and they may hold hyphens and digits themselves, so they cannot be told apart again:
`e0-a-b-c` may lead from `a-b` to `c` or from `a` to `b-c`.  But the place comes first, and no
name can reach into it, because its digits end at the first hyphen.  So it can be read back
from the id, and two edges of one id would have the same place.
-/
import TableGraph.Graph.Basic
import Mathlib.Data.List.Nodup

namespace TableGraph

namespace Edge

/-- The place that an id names: the number behind its first letter. -/
def placeOf (id : String) : Nat :=
  Nat.ofDigitChars 10 ((id.toList.drop 1).takeWhile Char.isDigit) 0

/-- **The place of an edge can be read back from its id**, whatever the names in it are. -/
theorem placeOf_ofRelationship (place : Nat) (r : Relationship) :
    placeOf (ofRelationship place r).id = place := by
  have hchars : (ofRelationship place r).id.toList.drop 1
      = Nat.toDigits 10 place ++ '-' :: (r.source.toList ++ '-' :: r.target.toList) := by
    simp [ofRelationship, String.toList_append, Nat.toString_eq_repr, Nat.toList_repr]
  have hdigits : ∀ c ∈ Nat.toDigits 10 place, c.isDigit := fun c hc =>
    Nat.isDigit_of_mem_toDigits (by omega) (by omega) hc
  have hhyphen : ¬ '-'.isDigit := by decide
  rw [placeOf, hchars, List.takeWhile_append_of_pos hdigits, List.takeWhile_cons_of_neg hhyphen,
    List.append_nil]
  exact Nat.ofDigitChars_toDigits (by omega) (by omega)

end Edge

/-- The places that the ids of a graph name are those of its edges. -/
theorem Graph.map_placeOf_edges (s : Schema) :
    ((Graph.ofSchema s).edges.map Edge.id).map Edge.placeOf
      = List.range s.relationships.length := by
  apply List.ext_getElem
  · simp [Graph.ofSchema]
  · intro i _ _
    simp [Graph.ofSchema, Edge.placeOf_ofRelationship]

/--
**No two edges have the same id.**  Every relationship has an edge, also one that is there
twice, and whatever names the tables have, the ids of the edges differ from one another.
-/
theorem edgeIds_distinct (s : Schema) :
    (Graph.ofSchema s).edges.length = s.relationships.length ∧
      ((Graph.ofSchema s).edges.map Edge.id).Nodup := by
  constructor
  · simp [Graph.ofSchema]
  · apply List.Nodup.of_map Edge.placeOf
    rw [Graph.map_placeOf_edges]
    exact List.nodup_range

/-- Names that look like parts of an id: the same two letters and hyphens are read either way,
and a name begins with a digit. -/
example :
    let r : Relationship := ⟨"a-b", "c", .sharedKey "k"⟩
    let r' : Relationship := ⟨"a", "b-c", .sharedKey "k"⟩
    let r'' : Relationship := ⟨"1-a", "b", .sharedKey "k"⟩
    (Graph.ofSchema { relationships := [r, r', r, r''] }).edges.map Edge.id
      = ["e0-a-b-c", "e1-a-b-c", "e2-a-b-c", "e3-1-a-b"] := by
  decide +kernel

end TableGraph
