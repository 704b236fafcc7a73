import PageScripts.Number.Rounding

/-!
# The layout of a table

The columns of a table have to fit into a line.  If they do not, those whose cells may be wrapped
are narrowed first, the widest ones before the others; if that is not enough, all columns give
about the same.  A table that fits stays as it is (`arrange_of_fits`).
-/

namespace PageScripts
namespace Table

/-- The greatest of some numbers. -/
def greatest (ns : List Nat) : Nat :=
  ns.foldl max 0

/-- The room of a column, and whether its cells may be wrapped. -/
structure Room where
  width : Nat
  wraps : Bool
  deriving DecidableEq, Repr

/-- Takes an amount away from some numbers, about the same from each that can give something.
An entry has a number and the most that it can give; `givers` is the number of those that can
give something. -/
def takeEvenly :
    Nat → Nat → List (Nat × Nat) → List Nat
  | _, _, [] => []
  | amount, givers, (n, most) :: rest =>
      if most = 0 then
        n :: takeEvenly amount givers rest
      else
        let part := min most (Number.roundRatio amount givers)
        (n - part) :: takeEvenly (amount - part) (givers - 1) rest

/-- Takes an amount away from the room of some columns, each of which can give as much as is
said. -/
def shrink
    (amount : Nat)
    (most : Room → Nat)
    (rooms : List Room) :
    List Room :=
  let givers := rooms.countP fun room => most room != 0
  let widths := takeEvenly amount givers (rooms.map fun room => (room.width, most room))
  (rooms.zip widths).map fun (room, width) => { room with width }

/-- The columns that all rooms take. -/
def total (rooms : List Room) : Nat :=
  rooms.foldr (fun room columns => room.width + columns) 0

/-- Narrows the widest of the columns that wrap, but not below the next one. -/
def narrowWidest
    (excess : Nat)
    (rooms : List Room) :
    List Room :=
  let widths := (rooms.filter Room.wraps).map Room.width
  let widest := greatest widths
  let next := greatest (widths.filter (· != widest))
  shrink excess
    (fun room => if room.wraps ∧ room.width = widest then min excess (widest - next) else 0)
    rooms

/-- Narrows columns that wrap as long as the table is too wide.  A step either makes the table
fit or levels two widths, so that as many steps as there are columns suffice. -/
def narrow
    (limit : Nat) :
    Nat → List Room → List Room
  | 0, rooms => rooms
  | steps + 1, rooms =>
      if total rooms ≤ limit then
        rooms
      else
        narrow limit steps (narrowWidest (total rooms - limit) rooms)

/-- The columns of a table in a line of limited width. -/
def arrange
    (limit : Nat)
    (rooms : List Room) :
    List Room :=
  let narrowed := narrow limit (rooms.length + 1) rooms
  shrink (total narrowed - limit) (fun room => if total narrowed ≤ limit then 0 else room.width)
    narrowed

/-- Where nobody can give anything, nothing changes. -/
theorem shrink_zero
    (amount : Nat)
    (rooms : List Room) :
    shrink amount (fun _ => 0) rooms = rooms := by
  have hkept :
      ∀ (givers : Nat) (rs : List Room),
        takeEvenly amount givers (rs.map fun room => (room.width, 0)) = rs.map Room.width := by
    intro givers rs
    induction rs with
    | nil => rfl
    | cons room rest ih => simp [takeEvenly, ih]
  simp only [shrink, hkept]
  induction rooms with
  | nil => rfl
  | cons room rest ih => simpa using ih

/-- A table that fits is not changed. -/
theorem arrange_of_fits
    (limit : Nat)
    (rooms : List Room)
    (hfits : total rooms ≤ limit) :
    arrange limit rooms = rooms := by
  simp [arrange, narrow, hfits, shrink_zero]

end Table
end PageScripts
