/-
Searching a text for a part of it.

`contains` is the executable form of "the part is a contiguous piece of the text".
-/

namespace TableGraph.Text

/-- The characters of `part` stand somewhere in `text`, one after the other. -/
def containsList (part : List Char) : List Char → Bool
  | [] => part.isEmpty
  | c :: rest => part.isPrefixOf (c :: rest) || containsList part rest

/-- The text has `part` as a contiguous piece. -/
def contains (text part : String) : Bool := containsList part.toList text.toList

/-- `containsList` decides whether one list is a contiguous piece of another. -/
theorem containsList_iff (part text : List Char) : containsList part text ↔ part <:+: text := by
  induction text with
  | nil => simp [containsList]
  | cons c rest ih => simp [containsList, ih, List.infix_cons_iff]

/-- `contains` decides whether the one text is a contiguous piece of the other. -/
theorem contains_iff (text part : String) : contains text part ↔ part.toList <:+: text.toList :=
  containsList_iff _ _

end TableGraph.Text
