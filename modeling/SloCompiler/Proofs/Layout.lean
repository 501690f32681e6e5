import Mathlib.Data.List.Nodup
import SloCompiler.Dashboard.Layout
import SloCompiler.Proofs.Entries

namespace SloCompiler

namespace GridPos

def bottom (g : GridPos) : Nat := g.y + g.h

def Apart (g h : GridPos) : Prop :=
  g.x + g.w ≤ h.x ∨ h.x + h.w ≤ g.x ∨ g.bottom ≤ h.y ∨ h.bottom ≤ g.y

end GridPos

namespace Layout

def rowPanels (row : String × List Entries) : List Entries :=
  Panel.row (.str row.1) (.bool false) :: row.2

def bottom (placed : List PlacedPanel) : Nat := (placed.map (·.pos.bottom)).foldr max 0

-- The header of a row and its panels, given what is placed above and below them.
structure RowPlaced (row : String × List Entries) (above : List PlacedPanel)
    (header : PlacedPanel) (body below : List PlacedPanel) : Prop where
  heads : header.panel = Panel.row (.str row.1) (.bool false)
  shows : body.map (·.panel) = row.2
  wide : header.pos.x = 0 ∧ header.pos.w = 24
  starts : header.pos.y = bottom above
  firstLine : ∀ p ∈ body.take 2, p.pos.y = header.pos.bottom
  belowHeader : ∀ p ∈ body, header.pos.bottom ≤ p.pos.y
  aboveNext : ∀ next ∈ below.head?, ∀ p ∈ body, p.pos.bottom ≤ next.pos.y

-- Rows one below the other, the first of them below what is placed already.
inductive Stacked : List PlacedPanel → List (String × List Entries) → List PlacedPanel → Prop where
  | nil {above : List PlacedPanel} : Stacked above [] []
  | cons {row : String × List Entries} {rows : List (String × List Entries)}
    {above body below : List PlacedPanel} {header : PlacedPanel}
    (first : RowPlaced row above header body below)
    (rest : Stacked (above ++ header :: body) rows below) :
    Stacked above (row :: rows) (header :: body ++ below)

end Layout

def isPlacement (key : Value) : Bool := key.isText "id" || key.isText "gridPos"

structure PlacedPanel.Keeps (p : PlacedPanel) : Prop where
  id : p.toValue.field? "id" = some (.int p.id)
  pos : p.toValue.field? "gridPos" = some p.pos.toValue
  rest : p.toValue.entries.filter (!isPlacement ·.1) = p.panel.filter (!isPlacement ·.1)

structure Layout.LaidOut (rows : List (String × List Entries)) (placed : List PlacedPanel) :
    Prop where
  order : placed.map (·.panel) = rows.flatMap rowPanels
  ids : placed.map (·.id) = List.range' 1 placed.length
  within : ∀ p ∈ placed, p.pos.x + p.pos.w ≤ 24
  apart : placed.Pairwise fun p q => p.pos.Apart q.pos
  stacked : Stacked [] rows placed
  kept : ∀ p ∈ placed, p.Keeps

namespace Layout

theorem placePanels_ids (firstId top : Nat) (panels : List Entries) :
    (placePanels firstId top panels).map (·.id) = List.range' firstId panels.length := by
  refine List.ext_getElem (by simp [placePanels]) fun i _ _ => ?_
  simp [placePanels]

theorem placePanels_panels (firstId top : Nat) (panels : List Entries) :
    (placePanels firstId top panels).map (·.panel) = panels := by
  refine List.ext_getElem (by simp [placePanels]) fun i _ _ => ?_
  simp [placePanels]

theorem placeRow_ids (firstId top : Nat) (title : String) (panels : List Entries) :
    (placeRow firstId top title panels).map (·.id) = List.range' firstId (panels.length + 1) := by
  rw [placeRow, List.map_cons, placePanels_ids, List.range'_succ]

theorem placeFrom_ids (firstId top : Nat) (rows : List (String × List Entries)) :
    (placeFrom firstId top rows).map (·.id) =
      List.range' firstId (rows.flatMap rowPanels).length := by
  induction rows generalizing firstId top with
  | nil => rfl
  | cons row rows ih =>
    obtain ⟨title, panels⟩ := row
    rw [placeFrom, List.map_append, placeRow_ids, ih, List.flatMap_cons, List.length_append,
      rowPanels, List.length_cons, Nat.add_right_comm, Nat.add_assoc firstId]
    exact List.range'_append_1

theorem placeFrom_panels (firstId top : Nat) (rows : List (String × List Entries)) :
    (placeFrom firstId top rows).map (·.panel) = rows.flatMap rowPanels := by
  induction rows generalizing firstId top with
  | nil => rfl
  | cons row rows ih =>
    obtain ⟨title, panels⟩ := row
    rw [placeFrom, List.map_append, ih, placeRow, List.map_cons, placePanels_panels,
      List.flatMap_cons, rowPanels]

theorem place_panels (rows : List (String × List Entries)) :
    (place rows).map (·.panel) = rows.flatMap rowPanels := placeFrom_panels 1 0 rows

theorem place_ids (rows : List (String × List Entries)) :
    (place rows).map (·.id) = List.range' 1 (place rows).length := by
  have counted := congrArg List.length (placeFrom_ids 1 0 rows)
  rw [List.length_map, List.length_range'] at counted
  rw [place, placeFrom_ids, counted]

theorem place_ids_nodup (rows : List (String × List Entries)) :
    ((place rows).map (·.id)).Nodup := by
  rw [place_ids]
  exact List.nodup_range'

theorem panelPos_within (top index : Nat) :
    (panelPos top index).x + (panelPos top index).w ≤ 24 := by
  simp only [panelPos, panelWidth]
  omega

-- Of two panels of a row the later one stands on the right of the other or on a lower line.
theorem panelPos_apart (top : Nat) {i j : Nat} (before : i < j) :
    (panelPos top i).Apart (panelPos top j) := by
  simp only [GridPos.Apart, GridPos.bottom, panelPos, panelWidth, panelHeight]
  by_cases line : i / 2 = j / 2
  · left
    omega
  · right; right; left
    omega

theorem panelPos_bottom_le (top : Nat) {index count : Nat} (listed : index < count) :
    (panelPos top index).bottom ≤ top + linesHeight count := by
  simp only [GridPos.bottom, panelPos, linesHeight, panelHeight]
  omega

theorem panelPos_bottom_last (top count : Nat) :
    (panelPos top count).bottom = top + linesHeight (count + 1) := by
  simp only [GridPos.bottom, panelPos, linesHeight, panelHeight]
  omega

theorem placePanels_pos {firstId top : Nat} {panels : List Entries} {p : PlacedPanel}
    (member : p ∈ placePanels firstId top panels) :
    ∃ index < panels.length, p.pos = panelPos top index := by
  obtain ⟨index, listed, rfl⟩ := List.mem_mapIdx.mp member
  exact ⟨index, listed, rfl⟩

theorem placePanels_take_two {firstId top : Nat} {panels : List Entries} :
    ∀ p ∈ (placePanels firstId top panels).take 2, p.pos.y = top := by
  match panels with
  | [] => simp [placePanels]
  | [_] => simp [placePanels, panelPos]
  | _ :: _ :: _ => simp [placePanels, panelPos]

theorem placePanels_below {firstId top : Nat} {panels : List Entries} :
    ∀ p ∈ placePanels firstId top panels, top ≤ p.pos.y := by
  intro p member
  obtain ⟨index, _, same⟩ := placePanels_pos member
  rw [same]
  exact Nat.le_add_right _ _

theorem placePanels_bottom_le {firstId top : Nat} {panels : List Entries} :
    ∀ p ∈ placePanels firstId top panels, p.pos.bottom ≤ top + linesHeight panels.length := by
  intro p member
  obtain ⟨index, listed, same⟩ := placePanels_pos member
  rw [same]
  exact panelPos_bottom_le top listed

theorem placePanels_apart (firstId top : Nat) (panels : List Entries) :
    (placePanels firstId top panels).Pairwise fun p q => p.pos.Apart q.pos := by
  rw [List.pairwise_iff_getElem]
  intro i j _ _ before
  simpa [placePanels] using panelPos_apart top before

theorem bottom_le_iff {placed : List PlacedPanel} {b : Nat} :
    bottom placed ≤ b ↔ ∀ p ∈ placed, p.pos.bottom ≤ b := by
  induction placed with
  | nil => simp [bottom]
  | cons p placed ih =>
    rw [List.forall_mem_cons, ← ih]
    exact Nat.max_le

theorem le_bottom {placed : List PlacedPanel} {p : PlacedPanel} (member : p ∈ placed) :
    p.pos.bottom ≤ bottom placed := bottom_le_iff.mp (Nat.le_refl _) p member

theorem bottom_append (above placed : List PlacedPanel) :
    bottom (above ++ placed) = max (bottom above) (bottom placed) := by
  apply Nat.le_antisymm
  · refine bottom_le_iff.mpr fun p member => ?_
    rcases List.mem_append.mp member with higher | lower
    · exact Nat.le_trans (le_bottom higher) (Nat.le_max_left _ _)
    · exact Nat.le_trans (le_bottom lower) (Nat.le_max_right _ _)
  · apply Nat.max_le.mpr
    exact ⟨bottom_le_iff.mpr fun p member => le_bottom (List.mem_append_left _ member),
      bottom_le_iff.mpr fun p member => le_bottom (List.mem_append_right _ member)⟩

theorem placeRow_bottom_le {firstId top : Nat} {title : String} {panels : List Entries} :
    ∀ p ∈ placeRow firstId top title panels,
      p.pos.bottom ≤ top + rowHeight + linesHeight panels.length := by
  rw [placeRow, List.forall_mem_cons]
  exact ⟨Nat.le_add_right _ _, placePanels_bottom_le⟩

-- The last panel of a row reaches as far down as the row; an empty row ends with its header.
theorem bottom_placeRow (firstId top : Nat) (title : String) (panels : List Entries) :
    bottom (placeRow firstId top title panels) = top + rowHeight + linesHeight panels.length := by
  apply Nat.le_antisymm (bottom_le_iff.mpr placeRow_bottom_le)
  cases empty : panels.length with
  | zero => exact le_bottom (p := ⟨firstId, ⟨0, top, gridWidth, rowHeight⟩, _⟩) List.mem_cons_self
  | succ count =>
    have listed : count < panels.length := empty ▸ Nat.lt_succ_self count
    have last : (⟨firstId + 1 + count, panelPos (top + rowHeight) count, panels[count]⟩ :
        PlacedPanel) ∈ placeRow firstId top title panels :=
      List.mem_cons_of_mem _ (List.mem_mapIdx.mpr ⟨count, listed, rfl⟩)
    rw [← panelPos_bottom_last]
    exact le_bottom last

theorem placeRow_below {firstId top : Nat} {title : String} {panels : List Entries} :
    ∀ p ∈ placeRow firstId top title panels, top ≤ p.pos.y := by
  rw [placeRow, List.forall_mem_cons]
  refine ⟨Nat.le_refl top, fun p member => ?_⟩
  exact Nat.le_trans (Nat.le_add_right top rowHeight) (placePanels_below p member)

theorem placeFrom_below {firstId top : Nat} {rows : List (String × List Entries)} :
    ∀ p ∈ placeFrom firstId top rows, top ≤ p.pos.y := by
  induction rows generalizing firstId top with
  | nil => exact List.forall_mem_nil _
  | cons row rows ih =>
    obtain ⟨title, panels⟩ := row
    intro p member
    rcases List.mem_append.mp member with own | later
    · exact placeRow_below p own
    · have lower := ih p later
      omega

theorem placeRow_apart (firstId top : Nat) (title : String) (panels : List Entries) :
    (placeRow firstId top title panels).Pairwise fun p q => p.pos.Apart q.pos := by
  refine List.pairwise_cons.mpr ⟨fun p member => ?_, placePanels_apart _ _ _⟩
  right; right; left
  exact placePanels_below p member

theorem placeFrom_apart (firstId top : Nat) (rows : List (String × List Entries)) :
    (placeFrom firstId top rows).Pairwise fun p q => p.pos.Apart q.pos := by
  induction rows generalizing firstId top with
  | nil => exact .nil
  | cons row rows ih =>
    obtain ⟨title, panels⟩ := row
    refine List.pairwise_append.mpr ⟨placeRow_apart _ _ _ _, ih _ _, fun p own q later => ?_⟩
    right; right; left
    exact Nat.le_trans (placeRow_bottom_le p own) (placeFrom_below q later)

theorem placeFrom_within {firstId top : Nat} {rows : List (String × List Entries)} :
    ∀ p ∈ placeFrom firstId top rows, p.pos.x + p.pos.w ≤ 24 := by
  induction rows generalizing firstId top with
  | nil => exact List.forall_mem_nil _
  | cons row rows ih =>
    obtain ⟨title, panels⟩ := row
    rw [placeFrom, List.forall_mem_append, placeRow, List.forall_mem_cons]
    refine ⟨⟨Nat.le_refl 24, fun p member => ?_⟩, ih⟩
    obtain ⟨index, _, same⟩ := placePanels_pos member
    rw [same]
    exact panelPos_within _ index

theorem placeFrom_stacked {top : Nat} {above : List PlacedPanel} (reached : bottom above = top)
    (firstId : Nat) (rows : List (String × List Entries)) :
    Stacked above rows (placeFrom firstId top rows) := by
  induction rows generalizing firstId top above with
  | nil => exact .nil
  | cons row rows ih =>
    obtain ⟨title, panels⟩ := row
    refine .cons ?_ (ih ?_ _)
    · exact {
        heads := rfl
        shows := placePanels_panels _ _ panels
        wide := ⟨rfl, rfl⟩
        starts := reached.symm
        firstLine := placePanels_take_two
        belowHeader := placePanels_below
        aboveNext := fun next first p member => Nat.le_trans (placePanels_bottom_le p member)
          (placeFrom_below next (List.mem_of_mem_head? first)) }
    · change bottom (above ++ placeRow firstId top title panels) = _
      rw [bottom_append, bottom_placeRow, reached]
      omega

end Layout

theorem PlacedPanel.keeps (p : PlacedPanel) : p.Keeps where
  id := by
    rw [toValue, Value.field?, Value.entries, Entries.get?_put, if_neg (by decide),
      Entries.get?_put, if_pos rfl]
  pos := by rw [toValue, Value.field?, Value.entries, Entries.get?_put, if_pos rfl]
  rest := by
    rw [toValue, Value.entries, Entries.filter_put (!isPlacement ·) _ _ rfl,
      Entries.filter_put (!isPlacement ·) _ _ rfl]

theorem Layout.place_laidOut (rows : List (String × List Entries)) : LaidOut rows (place rows) where
  order := place_panels rows
  ids := place_ids rows
  within := placeFrom_within
  apart := placeFrom_apart 1 0 rows
  stacked := placeFrom_stacked rfl 1 rows
  kept := fun p _ => p.keeps

example : ((Layout.place [("a", [[], [], []]), ("b", []), ("c", [[]])]).map (·.pos)) =
    [⟨0, 0, 24, 1⟩, ⟨0, 1, 12, 8⟩, ⟨12, 1, 12, 8⟩, ⟨0, 9, 12, 8⟩, ⟨0, 17, 24, 1⟩, ⟨0, 18, 24, 1⟩,
      ⟨0, 19, 12, 8⟩] := rfl

end SloCompiler
