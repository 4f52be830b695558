import RepoBrowser.Number.Total

/-!
# Areas one below the other

* `shares` — the heights of areas that want certain heights, on a screen of some height.

Areas get what they want where the screen is high enough.  On a screen that is too low no area gets
more than it wants, and heights differ as little as they can between neighbours; edges are rounded
to whole rows.
-/

namespace RepoBrowser.Stack

open Number

/-- Heights are computed in twelfths of a row, in which up to four areas can share any number of
rows evenly. -/
def unit : Nat := 12

def unevenness : List Nat → Nat
  | a :: b :: rest => (a - b) + (b - a) + unevenness (b :: rest)
  | _ => 0

/-- All ways to give each area a level, or none so that it shares in what is left. -/
def choices (levels : List Nat) : List Nat → List (List (Option Nat))
  | [] => [[]]
  | wanted :: rest =>
    (choices levels rest).flatMap fun more =>
      (none :: ((levels.filter (· ≤ wanted)).map some)).map (· :: more)

/-- Areas with given levels, the others sharing evenly what these leave of `h`; none if that is not
what `h` asks for. -/
def settle? (h : Nat) (wanted : List Nat) (choice : List (Option Nat)) : Option (List Nat) :=
  let fixed := total (choice.map (·.getD 0))
  let free := choice.countP (·.isNone)
  let share := if free = 0 then 0 else (h - fixed) / free
  let sizes := choice.map (·.getD share)
  if total sizes = h && (sizes.zip wanted).all (fun (s, w) => s ≤ w) then some sizes else none

/-- Whether one way to share is to be preferred: it is more even or, if both are as even, gives the
first area that they differ in less. -/
def better (a b : List Nat) : Bool :=
  unevenness a < unevenness b || (unevenness a = unevenness b && decide (a < b))

def best : List (List Nat) → List Nat
  | [] => []
  | a :: rest => rest.foldl (fun a b => if better b a then b else a) a

/-- Heights in whole rows, from heights in twelfths that begin at `start`: edges are rounded. -/
def rounded (start : Nat) : List Nat → List Nat
  | [] => []
  | s :: rest =>
    ((start + s + unit / 2) / unit - (start + unit / 2) / unit) :: rounded (start + s) rest

def squeezed (h : Nat) (wanted : List Nat) : List Nat :=
  let wanted := wanted.map (· * unit)
  rounded 0 (best ((choices (0 :: wanted) wanted).filterMap (settle? (h * unit) wanted)))

/-- The heights of areas that want the given heights, on a screen of height `h`. -/
def shares (h : Nat) (wanted : List Nat) : List Nat :=
  if total wanted ≤ h then wanted else squeezed h wanted

theorem shares_eq {h : Nat} {wanted : List Nat} (fits : total wanted ≤ h) :
    shares h wanted = wanted := by simp [shares, fits]

example : [1, 2, 3, 4, 5, 6].map (fun h => shares h [3, 2, 0, 1]) =
    [[1, 0, 0, 0], [1, 1, 0, 0], [2, 1, 0, 0], [2, 2, 0, 0], [2, 2, 0, 1], [3, 2, 0, 1]] := by
  decide +kernel

end RepoBrowser.Stack
