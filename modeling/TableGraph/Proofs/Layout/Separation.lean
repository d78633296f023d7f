/-
Nodes do not overlap.

Along the flow a node is placed behind the layers before its own, and across the flow behind
the nodes before it in its layer.  Both coordinates are found in the same way.  Parts of some
sizes follow each other from the margin on, with a gap behind each, and a coordinate is the
point that is reached behind the first of them.  If neither sizes nor gaps are negative, that
point moves only forward as parts are added, and a part ends, with its gap, before any point
that is reached later.  This one fact holds the layers apart, and the nodes of a layer.
-/
import Mathlib.Data.Rat.Lemmas
import Mathlib.Algebra.Order.Ring.Rat
import Mathlib.Tactic.Linarith
import TableGraph.Proofs.Layout.Places

namespace TableGraph.Layout

/-- The point lies inside the node with this corner, and not only on its border. -/
def Box.Inside (b : Box ℚ) (corner p : Position ℚ) : Prop :=
  (corner.x < p.x ∧ p.x < corner.x + b.width) ∧ corner.y < p.y ∧ p.y < corner.y + b.height

namespace Layered

/-- The coordinate of a point along the flow. -/
def alongFlow (l : Layered ℚ) (p : Position ℚ) : ℚ :=
  match l.direction with
  | .leftRight => p.x
  | .topBottom => p.y

/-- The coordinate of a point across the flow. -/
def acrossFlow (l : Layered ℚ) (p : Position ℚ) : ℚ :=
  match l.direction with
  | .leftRight => p.y
  | .topBottom => p.x

/-- The node at this place of the list, its rank and where its upper left corner is put. -/
structure Stands (l : Layered ℚ) (boxes : List (Box ℚ)) (arrows : List Arrow) (i : Nat)
    (b : Box ℚ) (rank : Nat) (corner : Position ℚ) : Prop where
  box : boxes[i]? = some b
  rank : (assignRanks (boxes.map (·.id)) arrows)[i]? = some rank
  corner : (l.place boxes arrows)[i]? = some corner

/-! ### Coordinates along the flow and across it -/

section Coordinates

variable (l : Layered ℚ) (a c : ℚ) (b : Box ℚ) (corner p : Position ℚ)

@[simp] theorem alongFlow_point : l.alongFlow (l.point a c) = a := by
  unfold alongFlow point
  cases l.direction <;> rfl

@[simp] theorem acrossFlow_point : l.acrossFlow (l.point a c) = c := by
  unfold acrossFlow point
  cases l.direction <;> rfl

theorem le_coordinates_iff :
    a ≤ corner.x ∧ a ≤ corner.y ↔ a ≤ l.alongFlow corner ∧ a ≤ l.acrossFlow corner := by
  unfold alongFlow acrossFlow
  cases l.direction
  · exact Iff.rfl
  · exact and_comm

theorem inside_iff : b.Inside corner p ↔
    (l.alongFlow corner < l.alongFlow p ∧ l.alongFlow p < l.alongFlow corner + l.along b) ∧
      l.acrossFlow corner < l.acrossFlow p ∧
        l.acrossFlow p < l.acrossFlow corner + l.across b := by
  unfold Box.Inside alongFlow acrossFlow along across
  cases l.direction
  · exact Iff.rfl
  · exact and_comm

end Coordinates

theorem across_nonneg (l : Layered ℚ) {b : Box ℚ} (h : 0 ≤ b.width ∧ 0 ≤ b.height) :
    0 ≤ l.across b := by
  unfold across
  cases l.direction
  · exact h.2
  · exact h.1

/-! ### Parts behind each other -/

/-- The point behind parts of these sizes, with a gap behind each. -/
def reach (gap start : ℚ) (sizes : List ℚ) : ℚ :=
  sizes.foldl (fun point size => point + (size + gap)) start

section Reach

variable {gap start : ℚ}

theorem le_reach (hgap : 0 ≤ gap) {sizes : List ℚ} (hsizes : ∀ size ∈ sizes, 0 ≤ size) :
    start ≤ reach gap start sizes := by
  induction sizes generalizing start with
  | nil => exact le_refl start
  | cons size rest ih =>
      obtain ⟨hsize, hrest⟩ := List.forall_mem_cons.mp hsizes
      calc start ≤ start + (size + gap) := by linarith
        _ ≤ reach gap (start + (size + gap)) rest := ih hrest

/-- A part and the gap behind it lie before all that is reached later. -/
theorem reach_add_le (hgap : 0 ≤ gap) {before later : List ℚ} {size : ℚ}
    (hlater : ∀ size ∈ later, 0 ≤ size) (hbefore : before ++ [size] <+: later) :
    reach gap start before + size + gap ≤ reach gap start later := by
  obtain ⟨rest, rfl⟩ := hbefore
  calc reach gap start before + size + gap
      = reach gap start (before ++ [size]) := by
        rw [reach, reach, List.foldl_concat, add_assoc]
    _ ≤ reach gap (reach gap start (before ++ [size])) rest :=
        le_reach hgap fun size hsize => hlater size (List.mem_append_right _ hsize)
    _ = reach gap start (before ++ [size] ++ rest) := List.foldl_append.symm

/-- What comes up to a place, with the entry there, begins what comes up to a later place. -/
theorem take_concat_prefix {β : Type} {entries : List β} {entry : β} {i j : Nat}
    (h : entries[i]? = some entry) (hij : i < j) :
    entries.take i ++ [entry] <+: entries.take j := by
  have hnext : entries.take (i + 1) = entries.take i ++ [entry] := by
    rw [List.take_add_one, h, Option.toList_some]
  rw [← hnext]
  exact List.take_prefix_take_left hij

end Reach

section Places

variable (l : Layered ℚ)

theorem offset_eq_reach (depths : List ℚ) : l.offset depths = reach l.rankSep l.margin depths :=
  rfl

theorem cursor_eq_reach (before : List (Box ℚ)) :
    l.cursor before = reach l.nodeSep l.margin (before.map l.across) := by
  rw [cursor, reach, List.foldl_map]

theorem mem_across_layer {l : Layered ℚ} {ranked : List (Ranked ℚ)} {rank : Nat} {size : ℚ}
    (h : size ∈ (layer ranked rank).map l.across) : ∃ entry ∈ ranked, l.across entry.1 = size := by
  obtain ⟨b, hb, rfl⟩ := List.mem_map.mp h
  obtain ⟨entry, hentry, rfl⟩ := List.mem_map.mp hb
  exact ⟨entry, (List.mem_filter.mp hentry).1, rfl⟩

end Places

/-! ### How deep the layers are -/

section Depths

variable {l : Layered ℚ} {ranked : List (Ranked ℚ)} {b : Box ℚ} {rank : Nat}

theorem extent_eq_foldl_max :
    l.extent ranked rank = ((layer ranked rank).map l.along).foldl max 0 := by
  rw [extent, List.foldl_map]

theorem extent_nonneg : 0 ≤ l.extent ranked rank := by
  rw [extent_eq_foldl_max]
  exact (isGreatest_foldl_max _ 0).2 (Or.inl rfl)

/-- A layer is as deep as any of its nodes. -/
theorem along_le_extent (hb : (b, rank) ∈ ranked) : l.along b ≤ l.extent ranked rank := by
  have hlayer : b ∈ layer ranked rank :=
    List.mem_map.mpr ⟨(b, rank), List.mem_filter.mpr ⟨hb, by simp⟩, rfl⟩
  rw [extent_eq_foldl_max]
  exact (isGreatest_foldl_max _ 0).2 (Or.inr (List.mem_map_of_mem hlayer))

theorem nonneg_of_mem_extents : ∀ depth ∈ l.extents ranked, 0 ≤ depth := by
  intro depth hdepth
  obtain ⟨rank, -, rfl⟩ := List.mem_map.mp hdepth
  exact extent_nonneg

theorem getElem?_extents (hb : (b, rank) ∈ ranked) :
    (l.extents ranked)[rank]? = some (l.extent ranked rank) := by
  have hlt : rank < (l.extents ranked).length :=
    l.lt_length_extents_iff.mpr ⟨rank, List.mem_map_of_mem hb, le_refl rank⟩
  rw [List.getElem?_eq_getElem hlt]
  simp [extents]

end Depths

/-! ### One node and another -/

namespace Stands

variable {l : Layered ℚ} {boxes : List (Box ℚ)} {arrows : List Arrow} {i j : Nat} {b c : Box ℚ}
  {r s : Nat} {p q : Position ℚ}

theorem getElem?_zip (h : l.Stands boxes arrows i b r p) :
    (boxes.zip (assignRanks (boxes.map (·.id)) arrows))[i]? = some (b, r) :=
  List.getElem?_zip_eq_some.mpr ⟨h.box, h.rank⟩

/-- Along the flow the layers before that of the node count, and across it the nodes before
it in its layer. -/
theorem corner_eq (h : l.Stands boxes arrows i b r p) :
    let ranked := boxes.zip (assignRanks (boxes.map (·.id)) arrows)
    p = l.point (l.offset ((l.extents ranked).take r)) (l.cursor (layer (ranked.take i) r)) := by
  intro ranked
  have hcorner := h.corner
  rw [place, getElem?_placeAfter, h.getElem?_zip, Option.map_some, Option.some.injEq] at hcorner
  exact hcorner.symm

theorem along_eq_of_rank_eq (h : l.Stands boxes arrows i b r p)
    (h' : l.Stands boxes arrows j c r q) : l.alongFlow p = l.alongFlow q := by
  rw [h.corner_eq, h'.corner_eq, alongFlow_point, alongFlow_point]

/-- Of two nodes of a layer the first ends before the second begins. -/
theorem across_add_le (h : l.Stands boxes arrows i b r p) (h' : l.Stands boxes arrows j c r q)
    (hgap : 0 ≤ l.nodeSep) (hsizes : ∀ b ∈ boxes, 0 ≤ l.across b) (hij : i < j) :
    l.acrossFlow p + l.across b + l.nodeSep ≤ l.acrossFlow q := by
  set ranked := boxes.zip (assignRanks (boxes.map (·.id)) arrows) with hranked
  have hbefore : ranked.take i ++ [(b, r)] <+: ranked.take j :=
    take_concat_prefix h.getElem?_zip hij
  have hlayer : (layer (ranked.take i) r).map l.across ++ [l.across b]
      <+: (layer (ranked.take j) r).map l.across := by
    simpa [layer] using ((hbefore.filter (·.2 == r)).map (·.1)).map l.across
  rw [h.corner_eq, h'.corner_eq, acrossFlow_point, acrossFlow_point, cursor_eq_reach,
    cursor_eq_reach]
  refine reach_add_le hgap ?_ hlayer
  intro size hsize
  obtain ⟨entry, hentry, rfl⟩ := mem_across_layer hsize
  exact hsizes entry.1 (List.of_mem_zip (List.mem_of_mem_take hentry)).1

/-- A node ends before the nodes of later layers begin. -/
theorem along_add_le (h : l.Stands boxes arrows i b r p) (h' : l.Stands boxes arrows j c s q)
    (hgap : 0 ≤ l.rankSep) (hrs : r < s) :
    l.alongFlow p + l.along b + l.rankSep ≤ l.alongFlow q := by
  set ranked := boxes.zip (assignRanks (boxes.map (·.id)) arrows) with hranked
  have hb : (b, r) ∈ ranked := List.mem_of_getElem? h.getElem?_zip
  have hlayers : (l.extents ranked).take r ++ [l.extent ranked r]
      <+: (l.extents ranked).take s := take_concat_prefix (getElem?_extents hb) hrs
  rw [h.corner_eq, h'.corner_eq, alongFlow_point, alongFlow_point, offset_eq_reach,
    offset_eq_reach]
  calc reach l.rankSep l.margin ((l.extents ranked).take r) + l.along b + l.rankSep
      ≤ reach l.rankSep l.margin ((l.extents ranked).take r) + l.extent ranked r + l.rankSep := by
        linarith [along_le_extent (l := l) hb]
    _ ≤ reach l.rankSep l.margin ((l.extents ranked).take s) :=
        reach_add_le hgap (fun depth hdepth =>
          nonneg_of_mem_extents depth (List.mem_of_mem_take hdepth)) hlayers

/-- Wherever a node is placed, it is not placed before the margin. -/
theorem margin_le (h : l.Stands boxes arrows i b r p) (hnode : 0 ≤ l.nodeSep)
    (hrank : 0 ≤ l.rankSep) (hsizes : ∀ b ∈ boxes, 0 ≤ l.across b) :
    l.margin ≤ p.x ∧ l.margin ≤ p.y := by
  rw [le_coordinates_iff l, h.corner_eq, alongFlow_point, acrossFlow_point, cursor_eq_reach]
  refine ⟨le_reach hrank fun depth hdepth =>
    nonneg_of_mem_extents depth (List.mem_of_mem_take hdepth), le_reach hnode fun size hsize => ?_⟩
  obtain ⟨entry, hentry, rfl⟩ := mem_across_layer hsize
  exact hsizes entry.1 (List.of_mem_zip (List.mem_of_mem_take hentry)).1

/-- No point lies inside two nodes. -/
theorem not_inside_both (h : l.Stands boxes arrows i b r p) (h' : l.Stands boxes arrows j c s q)
    (hnode : 0 ≤ l.nodeSep) (hrank : 0 ≤ l.rankSep) (hsizes : ∀ b ∈ boxes, 0 ≤ l.across b)
    (hij : i < j) (point : Position ℚ) : ¬ (b.Inside p point ∧ c.Inside q point) := by
  rintro ⟨hb, hc⟩
  obtain ⟨⟨hb₁, hb₂⟩, hb₃, hb₄⟩ := (inside_iff l b p point).mp hb
  obtain ⟨⟨hc₁, hc₂⟩, hc₃, hc₄⟩ := (inside_iff l c q point).mp hc
  rcases Nat.lt_trichotomy r s with hlt | rfl | hgt
  · have hbefore := h.along_add_le h' hrank hlt
    linarith
  · have hbefore := h.across_add_le h' hnode hsizes hij
    linarith
  · have hbefore := h'.along_add_le h hrank hgt
    linarith

end Stands

/-- Every node has a rank and is placed. -/
theorem exists_stands (l : Layered ℚ) (boxes : List (Box ℚ)) (arrows : List Arrow) {i : Nat}
    (hi : i < boxes.length) : ∃ b rank corner, l.Stands boxes arrows i b rank corner :=
  ⟨_, _, _, List.getElem?_eq_getElem hi,
    List.getElem?_eq_getElem (by rwa [length_ranks]),
    List.getElem?_eq_getElem (by rwa [length_place])⟩

end Layered

/--
**Nodes are placed apart.**  Every node is placed, and not before the margin.  Nodes of one
rank begin together along the flow, and across it each ends, with the gap behind it, before
the later ones begin.  Along the flow a node ends, with the gap behind its layer, before any
node of a higher rank begins.  So no two nodes overlap, and the arrows to higher ranks lead
forward.
-/
theorem place_separates (l : Layered ℚ) (boxes : List (Box ℚ)) (arrows : List Arrow)
    (hnode : 0 ≤ l.nodeSep) (hrank : 0 ≤ l.rankSep)
    (hsizes : ∀ b ∈ boxes, 0 ≤ b.width ∧ 0 ≤ b.height) :
    (l.place boxes arrows).length = boxes.length ∧
    (∀ i < boxes.length, ∃ b rank corner, l.Stands boxes arrows i b rank corner) ∧
    (∀ corner ∈ l.place boxes arrows, l.margin ≤ corner.x ∧ l.margin ≤ corner.y) ∧
    (∀ i j b c rank p q, l.Stands boxes arrows i b rank p → l.Stands boxes arrows j c rank q →
      i < j → l.alongFlow p = l.alongFlow q ∧
        l.acrossFlow p + l.across b + l.nodeSep ≤ l.acrossFlow q) ∧
    (∀ i j b c r s p q, l.Stands boxes arrows i b r p → l.Stands boxes arrows j c s q →
      r < s → l.alongFlow p + l.along b + l.rankSep ≤ l.alongFlow q) ∧
    (∀ i j b c r s p q, l.Stands boxes arrows i b r p → l.Stands boxes arrows j c s q →
      i ≠ j → ∀ point, ¬ (b.Inside p point ∧ c.Inside q point)) ∧
    ∀ arrow ∈ arrows, ∀ i j, ends? (boxes.map (·.id)) arrow = some (i, j) →
      ∃ b r p c s q, l.Stands boxes arrows i b r p ∧ l.Stands boxes arrows j c s q ∧
        (r < s → l.alongFlow p + l.along b ≤ l.alongFlow q) := by
  have hacross : ∀ b ∈ boxes, 0 ≤ l.across b := fun b hb => l.across_nonneg (hsizes b hb)
  refine ⟨l.length_place boxes arrows, fun i hi => l.exists_stands boxes arrows hi, ?_, ?_, ?_,
    ?_, ?_⟩
  · intro corner hcorner
    obtain ⟨i, hi⟩ := List.mem_iff_getElem?.mp hcorner
    have hlt : i < boxes.length := by
      rw [← l.length_place boxes arrows]
      exact (List.getElem?_eq_some_iff.mp hi).1
    obtain ⟨b, rank, p, hstands⟩ := l.exists_stands boxes arrows hlt
    obtain rfl : corner = p := Option.some.inj (hi.symm.trans hstands.corner)
    exact hstands.margin_le hnode hrank hacross
  · intro i j b c rank p q h h' hij
    exact ⟨h.along_eq_of_rank_eq h', h.across_add_le h' hnode hacross hij⟩
  · intro i j b c r s p q h h' hrs
    exact h.along_add_le h' hrank hrs
  · intro i j b c r s p q h h' hij point hboth
    rcases Nat.lt_or_gt_of_ne hij with hlt | hgt
    · exact h.not_inside_both h' hnode hrank hacross hlt point hboth
    · exact h'.not_inside_both h hnode hrank hacross hgt point hboth.symm
  · intro arrow harrow i j hends
    obtain ⟨hi, hj⟩ : i < boxes.length ∧ j < boxes.length := by
      have hleads : Leads (boxes.map (·.id)) arrows i j :=
        leads_iff_exists_ends.mpr ⟨arrow, harrow, hends⟩
      simpa using hleads.lt_length
    obtain ⟨b, r, p, h⟩ := l.exists_stands boxes arrows hi
    obtain ⟨c, s, q, h'⟩ := l.exists_stands boxes arrows hj
    refine ⟨b, r, p, c, s, q, h, h', fun hrs => ?_⟩
    linarith [h.along_add_le h' hrank hrs]

/-- The second node is hidden by the last, so no arrow leads to it, and it has the rank of the
third although another node lies between them in the list. -/
theorem place_separates_hidden :
    let l : Layered ℚ := ⟨.topBottom, 10, 5 / 2, 50⟩
    let users : Box ℚ := ⟨"users", 100, 30⟩
    let items : Box ℚ := ⟨"items", 1 / 2, 80⟩
    let boxes := [users, ⟨"orders", 220, 150⟩, items, ⟨"Users", 0, 90⟩]
    let arrows : List Arrow := [⟨"items", "orders"⟩, ⟨"ORDERS", "users"⟩, ⟨"orders", "orders"⟩]
    0 ≤ l.nodeSep ∧ 0 ≤ l.rankSep ∧ (∀ b ∈ boxes, 0 ≤ b.width ∧ 0 ≤ b.height) ∧
      l.place boxes arrows = [⟨50, 50⟩, ⟨50, 265 / 2⟩, ⟨160, 50⟩, ⟨50, 285⟩] ∧
      ∀ point, ¬ (users.Inside ⟨50, 50⟩ point ∧ items.Inside ⟨160, 50⟩ point) := by
  intro l users items boxes arrows
  have hnode : 0 ≤ l.nodeSep := by decide +kernel
  have hrank : 0 ≤ l.rankSep := by decide +kernel
  have hsizes : ∀ b ∈ boxes, 0 ≤ b.width ∧ 0 ≤ b.height := by decide +kernel
  have hranks : assignRanks (boxes.map (·.id)) arrows = [0, 1, 0, 2] := by decide +kernel
  have hplaces : l.place boxes arrows = [⟨50, 50⟩, ⟨50, 265 / 2⟩, ⟨160, 50⟩, ⟨50, 285⟩] := by
    decide +kernel
  obtain ⟨-, -, -, -, -, hapart, -⟩ := place_separates l boxes arrows hnode hrank hsizes
  have husers : l.Stands boxes arrows 0 users 0 ⟨50, 50⟩ :=
    ⟨rfl, by rw [hranks]; rfl, by rw [hplaces]; rfl⟩
  have hitems : l.Stands boxes arrows 2 items 0 ⟨160, 50⟩ :=
    ⟨rfl, by rw [hranks]; rfl, by rw [hplaces]; rfl⟩
  exact ⟨hnode, hrank, hsizes, hplaces, hapart 0 2 _ _ _ _ _ _ husers hitems (by decide)⟩

end TableGraph.Layout
