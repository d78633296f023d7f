/-
Names that differ only in the case of ASCII letters.

Tables, columns, nodes and the ends of relationships are compared this way.  It is an
equivalence, and it is weaker than comparing after `lowercase`: an `Ä` and an `ä` are
different here.
-/

namespace TableGraph.Text

/-- The text with its ASCII capitals in lower case and every other character as it is. -/
def foldAscii (s : String) : String := String.ofList (s.toList.map Char.toLower)

/-- The two names differ at most in the case of ASCII letters. -/
def sameName (a b : String) : Bool := foldAscii a == foldAscii b

theorem sameName_iff {a b : String} : sameName a b ↔ foldAscii a = foldAscii b := by
  simp [sameName]

@[simp] theorem sameName_refl (a : String) : sameName a a := by simp [sameName]

theorem sameName_comm (a b : String) : sameName a b = sameName b a := by
  rw [Bool.eq_iff_iff, sameName_iff, sameName_iff, eq_comm]

theorem sameName_trans {a b c : String} (h : sameName a b) (h' : sameName b c) : sameName a c := by
  rw [sameName_iff] at *
  exact h.trans h'

/-- Names that are the same cannot be told apart by comparing them with a third one. -/
theorem sameName_congr_left {a b : String} (h : sameName a b) (c : String) :
    sameName a c = sameName b c := by
  rw [sameName_iff] at h
  simp [sameName, h]

theorem sameName_congr_right {a b : String} (h : sameName a b) (c : String) :
    sameName c a = sameName c b := by
  rw [sameName_comm c a, sameName_comm c b, sameName_congr_left h]

end TableGraph.Text
