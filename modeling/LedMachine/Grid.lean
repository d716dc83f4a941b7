/-!
# The pixel grid

The machine shows its output on a grid of 4 by 4 pixels, each lit or dark. Columns `x` and rows
`y` count from 0 at the top left. Asking to change a pixel outside the grid changes nothing.
-/

namespace LedMachine

/-- The side of the square grid. -/
def gridSide : Nat := 4

/-- A grid of 4 by 4 pixels, each lit or dark. -/
structure Grid where
  /-- The pixels row by row from the top, each row from the left. -/
  cells : Vector Bool 16
  deriving DecidableEq, Repr

namespace Grid

/-- A grid with every pixel lit or every pixel dark. -/
def fill (lit : Bool) : Grid := ⟨Vector.replicate 16 lit⟩

/-- The grid with every pixel dark. -/
def dark : Grid := fill false

/-- Whether a coordinate lies on the grid. -/
def onGrid (v : Int) : Bool := decide (0 ≤ v ∧ v < gridSide)

/-- Whether the pixel at column `x` and row `y` is lit. -/
def lit (g : Grid) (x y : Nat) : Bool := g.cells.toArray.getD (y * gridSide + x) false

/-- The grid with the pixel at column `x` and row `y` lit or dark; a pixel off the grid is left
alone. -/
def paint (g : Grid) (x y : Int) (lit : Bool) : Grid :=
  if onGrid x && onGrid y then ⟨g.cells.setIfInBounds (y.toNat * gridSide + x.toNat) lit⟩ else g

/-- The rows from the top, each a text of `1` for a lit and `0` for a dark pixel. -/
def rows (g : Grid) : List String :=
  (List.range gridSide).map fun y =>
    String.ofList ((List.range gridSide).map fun x => if g.lit x y then '1' else '0')

example : (dark.paint 1 2 true).rows = ["0000", "0000", "0100", "0000"] := by decide
example : (dark.paint 4 0 true) = dark := by decide

end Grid

end LedMachine
