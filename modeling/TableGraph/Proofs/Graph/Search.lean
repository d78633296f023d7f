/-
Searching for a part of a name.

A search is for names that contain the term in whatever case, and it goes about it by putting
the term and each name in lower case and looking for the one in the other.  That may miss a name
which has the very term for a part: a capital sigma within a word of the name can stand at the
end of the term, and there it has another lower case.

Which terms this happens to is settled by the term alone.  If it keeps its form, it is found in
every name that it is a part of, and if it does not, there is a table that it does not find.
-/
import TableGraph.Graph.Query
import TableGraph.Proofs.Text.Parts

namespace TableGraph

open Text

/-- The names that a search looks at: the label and the names of the columns. -/
def Node.names (n : Node) : List String := n.label :: n.columns.map Column.name

/-- A node mentions a term just if the lower case of one of its names contains it. -/
theorem Node.mentions_iff {term : String} {n : Node} :
    n.mentions term ↔ ∃ name ∈ n.names, term.toList <:+: (lowercase name).toList := by
  simp [Node.mentions, Node.names, nameContains, contains_iff]

namespace Graph

theorem mem_search_iff {g : Graph} {term : String} {n : Node} :
    n ∈ g.search term ↔ n ∈ g.nodes ∧
      ∃ name ∈ n.names, (lowercase term).toList <:+: (lowercase name).toList := by
  rw [search, List.mem_filter, Node.mentions_iff]

/-- A term that keeps its form is found in every name that it is a part of. -/
theorem mem_search_of_keepsForm {g : Graph} {term name : String} {n : Node} (h : keepsForm term)
    (hn : n ∈ g.nodes) (hname : name ∈ n.names) (hpart : term.toList <:+: name.toList) :
    n ∈ g.search term :=
  mem_search_iff.mpr ⟨hn, name, hname, keepsForm_iff.mp h name hpart⟩

/-- **A term without a capital sigma** is found in every name that it is a part of. -/
theorem mem_search_of_sigma_not_mem {g : Graph} {term name : String} {n : Node}
    (h : 'Σ' ∉ term.toList) (hn : n ∈ g.nodes) (hname : name ∈ n.names)
    (hpart : term.toList <:+: name.toList) : n ∈ g.search term :=
  mem_search_of_keepsForm (keepsForm_of_sigma_not_mem h) hn hname hpart

/-- The graph of a table without columns. -/
def ofName (name : String) : Graph := ofSchema { tables := [{ name }] }

/-- The one table is found just if its name in lower case has the term for a part. -/
theorem mem_search_ofName {name term : String} {n : Node} (hn : n ∈ (ofName name).nodes) :
    n ∈ (ofName name).search term ↔ (lowercase term).toList <:+: (lowercase name).toList := by
  have hnode : n = Node.ofTable { name } := by simpa [ofName, ofSchema] using hn
  rw [mem_search_iff, and_iff_right hn, hnode]
  simp [Node.names, Node.ofTable]

end Graph

/-- **A search finds a node by every part of its names just if the term keeps its form**, and
what it finds stands in the order of the nodes. -/
theorem search_findsParts_iff (term : String) :
    ((∀ g : Graph, ∀ n ∈ g.nodes, ∀ name ∈ n.names, term.toList <:+: name.toList →
        n ∈ g.search term) ↔ keepsForm term) ∧
      ∀ g : Graph, (g.search term).Sublist g.nodes := by
  refine ⟨⟨fun hfinds => ?_, fun hkeeps => ?_⟩, fun g => List.filter_sublist⟩
  · rw [keepsForm_iff]
    intro name hpart
    have hn : Node.ofTable { name } ∈ (Graph.ofName name).nodes := List.mem_singleton_self _
    have hfound := hfinds _ _ hn name List.mem_cons_self hpart
    exact (Graph.mem_search_ofName hn).mp hfound
  · intro g n hn name hname hpart
    exact Graph.mem_search_of_keepsForm hkeeps hn hname hpart

/-- The sigma in the middle of the name is `σ`, and in the term it ends the word and is `ς`. -/
theorem not_search_findsPart_sigma :
    "ΑΣ".toList <:+: "ΑΣΑ".toList ∧ ((Graph.ofName "ΑΣΑ").nodes.map Node.label) = ["ΑΣΑ"] ∧
      (Graph.ofName "ΑΣΑ").search "ΑΣ" = [] := by
  exact ⟨⟨[], ['Α'], rfl⟩, rfl, List.isEmpty_iff.mp (by decide +kernel)⟩

end TableGraph
