import SpatialComputer.Proofs.Binary64.Whole
import SpatialComputer.Proofs.Neighborhood.CellQuery

/-!
# Cells in order

Cells of a positive size are numbered in the order of the coordinates, because neither the rounded quotient nor the floor turns an order around. So the box around a sphere of positive radius has its corners in order. Such a box is never too large to be counted, and a query for it is answered with entities that were filed.
-/

namespace SpatialComputer

open Binary64

/-- Whether no coordinate of a point differs by more than the radius from that of the center. The differences are exact, not rounded. -/
structure Vec3.InCube (point center : Vec3) (radius : Float) : Prop where
  x : |toRat point.x - toRat center.x| ≤ toRat radius
  y : |toRat point.y - toRat center.y| ≤ toRat radius
  z : |toRat point.z - toRat center.z| ≤ toRat radius

theorem Vec3.InCube.symm {point center : Vec3} {radius : Float} (h : point.InCube center radius) :
    center.InCube point radius where
  x := abs_sub_comm (toRat point.x) (toRat center.x) ▸ h.x
  y := abs_sub_comm (toRat point.y) (toRat center.y) ▸ h.y
  z := abs_sub_comm (toRat point.z) (toRat center.z) ▸ h.z

namespace CellGrid

variable {cellSize radius : Float} {grid : CellGrid} {center point : Vec3} {box : CellBox} {cell : Cell}
  {v w : Float} {k m n : Int}

private theorem axisCell_eq_floor (hcell : FinitePositive cellSize) (h : axisCell cellSize v = some n) :
    v.isFinite = true ∧ (v / cellSize).isFinite = true ∧ n = ⌊toRat (v / cellSize)⌋ := by
  unfold axisCell at h
  split at h
  · cases h
  · rename_i hv
    rw [Bool.not_eq_true, Bool.not_eq_false'] at hv
    cases hvalue : value (v / cellSize) with
    | nan =>
      -- Only a zero divided by a zero is no number, and the cells have a size.
      obtain ⟨r, -, ⟨-, hquotient, -⟩ | ⟨-, hquotient⟩⟩ := rounded_div hv hcell.isFinite hcell.pos.ne'
      · obtain ⟨_, _, _, hquotient⟩ := isFinite_iff.mp hquotient
        rw [hvalue] at hquotient
        cases hquotient
      · rw [hvalue] at hquotient
        cases hquotient
    | infinite negative =>
      rw [hvalue] at h
      cases h
    | finite negative mantissa exponent =>
      simp only [hvalue] at h
      obtain ⟨-, h⟩ := Option.ite_none_right_eq_some.mp h
      refine ⟨hv, isFinite_iff.mpr ⟨_, _, _, hvalue⟩, ?_⟩
      rw [← Option.some.inj h, floorInt_eq_floor, toRat, hvalue, Value.toRat]

theorem axisCell_mono (hcell : FinitePositive cellSize) (hv : axisCell cellSize v = some m)
    (hw : axisCell cellSize w = some n) (hle : toRat v ≤ toRat w) : m ≤ n := by
  obtain ⟨-, hquotient, rfl⟩ := axisCell_eq_floor hcell hv
  obtain ⟨-, hquotient', rfl⟩ := axisCell_eq_floor hcell hw
  exact Int.floor_le_floor (hcell.div_le hquotient hquotient' hle)

private theorem axisCell_sub_le_add (hcell : FinitePositive cellSize) (hradius : FinitePositive radius)
    (hlow : axisCell cellSize (v - radius) = some m) (hhigh : axisCell cellSize (v + radius) = some n) :
    m ≤ n := by
  have hsub := (axisCell_eq_floor hcell hlow).1
  have hadd := (axisCell_eq_floor hcell hhigh).1
  exact axisCell_mono hcell hlow hhigh (hradius.sub_le_add hsub hadd)

/-- The corners of the box around a sphere are in order. -/
theorem queryBox_ordered (hcell : FinitePositive grid.cellSize) (hradius : FinitePositive radius)
    (hbox : grid.queryBox center radius = some box) : box.Ordered := by
  simp only [queryBox, Option.bind_eq_bind, Option.pure_def, Option.bind_eq_some_iff,
    Option.some.injEq] at hbox
  obtain ⟨low, hlow, high, hhigh, rfl⟩ := hbox
  obtain ⟨hlowX, hlowY, hlowZ⟩ := cellOf_eq_some_iff.mp hlow
  obtain ⟨hhighX, hhighY, hhighZ⟩ := cellOf_eq_some_iff.mp hhigh
  exact ⟨axisCell_sub_le_add hcell hradius hlowX hhighX, axisCell_sub_le_add hcell hradius hlowY hhighY,
    axisCell_sub_le_add hcell hradius hlowZ hhighZ⟩

private theorem axisCell_between (hcell : FinitePositive cellSize) (hradius : radius.isFinite = true)
    (hlow : axisCell cellSize (v - radius) = some m) (hhigh : axisCell cellSize (v + radius) = some n)
    (hw : axisCell cellSize w = some k) (hnear : |toRat w - toRat v| ≤ toRat radius) : m ≤ k ∧ k ≤ n := by
  have hsub := (axisCell_eq_floor hcell hlow).1
  have hadd := (axisCell_eq_floor hcell hhigh).1
  have hv := isFinite_of_add hadd
  obtain ⟨hbelow, habove⟩ := abs_le.mp hnear
  have hlower : toRat (v - radius) ≤ toRat w :=
    ((rounded_sub hv hradius).nearest hsub).le_of_le (representable_toRat w) (by linarith)
  have hupper : toRat w ≤ toRat (v + radius) :=
    ((rounded_add hv hradius).nearest hadd).le_of_ge (representable_toRat w) (by linarith)
  exact ⟨axisCell_mono hcell hlow hw hlower, axisCell_mono hcell hw hhigh hupper⟩

/-- The box around a sphere holds the cells of all points in the cube around it. -/
theorem queryBox_contains_of_inCube (hcell : FinitePositive grid.cellSize)
    (hradius : radius.isFinite = true) (hbox : grid.queryBox center radius = some box)
    (hpoint : cellOf grid.cellSize point = some cell) (hnear : point.InCube center radius) :
    box.contains cell = true := by
  simp only [queryBox, Option.bind_eq_bind, Option.pure_def, Option.bind_eq_some_iff,
    Option.some.injEq] at hbox
  obtain ⟨low, hlow, high, hhigh, rfl⟩ := hbox
  obtain ⟨hlowX, hlowY, hlowZ⟩ := cellOf_eq_some_iff.mp hlow
  obtain ⟨hhighX, hhighY, hhighZ⟩ := cellOf_eq_some_iff.mp hhigh
  obtain ⟨hx, hy, hz⟩ := cellOf_eq_some_iff.mp hpoint
  exact CellBox.contains_iff.mpr
    ⟨axisCell_between hcell hradius hlowX hhighX hx hnear.x,
      axisCell_between hcell hradius hlowY hhighY hy hnear.y,
      axisCell_between hcell hradius hlowZ hhighZ hz hnear.z⟩

end CellGrid

end SpatialComputer
