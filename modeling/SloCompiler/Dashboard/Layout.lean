import SloCompiler.Dashboard.Panel

namespace SloCompiler

structure GridPos where
  x : Nat
  y : Nat
  w : Nat
  h : Nat
  deriving DecidableEq, Repr

def GridPos.toValue (g : GridPos) : Value :=
  .object [("x", .int g.x), ("y", .int g.y), ("w", .int g.w), ("h", .int g.h)]

structure PlacedPanel where
  id : Nat
  pos : GridPos
  panel : Entries

-- Placement prevails over an id and a position that the panel has already.
def PlacedPanel.toValue (p : PlacedPanel) : Value :=
  .map ((p.panel.put "id" (.int p.id)).put "gridPos" p.pos.toValue)

namespace Layout

def gridWidth : Nat := 24
def panelWidth : Nat := 12
def panelHeight : Nat := 8
def rowHeight : Nat := 1

def panelPos (top index : Nat) : GridPos :=
  ⟨index % 2 * panelWidth, top + index / 2 * panelHeight, panelWidth, panelHeight⟩

def placePanels (firstId top : Nat) (panels : List Entries) : List PlacedPanel :=
  panels.mapIdx fun index panel => ⟨firstId + index, panelPos top index, panel⟩

def linesHeight (count : Nat) : Nat := (count + 1) / 2 * panelHeight

def placeRow (firstId top : Nat) (title : String) (panels : List Entries) : List PlacedPanel :=
  ⟨firstId, ⟨0, top, gridWidth, rowHeight⟩, Panel.row (.str title) (.bool false)⟩ ::
    placePanels (firstId + 1) (top + rowHeight) panels

def placeFrom (firstId top : Nat) : List (String × List Entries) → List PlacedPanel
  | [] => []
  | (title, panels) :: rest =>
    placeRow firstId top title panels ++
      placeFrom (firstId + 1 + panels.length) (top + rowHeight + linesHeight panels.length) rest

def place (rows : List (String × List Entries)) : List PlacedPanel := placeFrom 1 0 rows

end Layout

end SloCompiler
