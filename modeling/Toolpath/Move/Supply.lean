import Toolpath.Move.Waypoint

/-!
# Finite supplies of waypoints

A move in segments hands out its waypoints one at a time, so that a move of billions of segments
costs nothing until its waypoints are asked for. What it still holds is a list, and the
list is what statements about it speak of.
-/

namespace Toolpath

/-- A state that hands out waypoints and knows how many it still holds. -/
class WaypointSupply (S : Type) (α : outParam Type) where
  /-- Hand out one waypoint, unless none is left. -/
  next : S → Option (Waypoint α) × S
  /-- Skip waypoints and hand out the one after them, unless none is left. -/
  nth : S → UInt64 → Option (Waypoint α) × S
  /-- Number of waypoints that are left. -/
  remaining : S → Nat

namespace WaypointSupply

variable {S α : Type} [WaypointSupply S α]

/-- The first waypoints of a supply, at most the given number, and what is left of it. -/
def take : Nat → S → List (Waypoint α) × S
  | 0, supply => ([], supply)
  | count + 1, supply =>
    match next supply with
    | (none, rest) => ([], rest)
    | (some waypoint, rest) =>
      let (waypoints, rest) := take count rest
      (waypoint :: waypoints, rest)

/-- Everything that a supply still holds. -/
def toList (supply : S) : List (Waypoint α) := (take (remaining supply) supply).1

/-- The last waypoint that a supply still holds. -/
def last? (supply : S) : Option (Waypoint α) :=
  match remaining supply with
  | 0 => none
  | before + 1 => (nth supply (UInt64.ofNat before)).1

/-- Waypoints at equal strides, at most the given number: each is reached by skipping. -/
def strides (skipped : UInt64) : Nat → S → List (Waypoint α)
  | 0, _ => []
  | count + 1, supply =>
    match nth supply skipped with
    | (none, _) => []
    | (some waypoint, rest) => waypoint :: strides skipped count rest

/-- The next waypoint and from there on every one that lies a stride ahead, a stride of
zero acting as one. -/
def stride (step : UInt64) (supply : S) : List (Waypoint α) :=
  match next supply with
  | (none, _) => []
  | (some waypoint, rest) =>
    waypoint :: strides (if step = 0 then 0 else step - 1) (remaining supply) rest

end WaypointSupply

/-- A segment count that is not zero: moves of any length have at least one segment. -/
def atLeastOne (count : UInt32) : UInt32 := if count = 0 then 1 else count

/-- The count is positive. -/
theorem atLeastOne_pos (count : UInt32) : 0 < (atLeastOne count).toNat := by
  unfold atLeastOne
  split
  · decide
  · rename_i h
    exact Nat.pos_of_ne_zero fun hz => h (UInt32.toNat_inj.mp hz)

/-- A positive count is kept. -/
theorem atLeastOne_of_ne_zero {count : UInt32} (h : count ≠ 0) : atLeastOne count = count := by
  rw [atLeastOne, if_neg h]

/-- A count that is known to be positive is kept. -/
theorem atLeastOne_of_pos {count : UInt32} (h : 0 < count.toNat) : atLeastOne count = count := by
  refine atLeastOne_of_ne_zero fun hzero => ?_
  rw [hzero] at h
  exact Nat.lt_irrefl 0 h

/-- Sum of two words, kept at the greatest word instead of wrapping. -/
def addSaturating (left right : UInt64) : UInt64 := UInt64.ofNatClamp (left.toNat + right.toNat)

/-- The saturated sum is the smaller of the sum and the greatest word. -/
theorem addSaturating_toNat (left right : UInt64) :
    (addSaturating left right).toNat = min (left.toNat + right.toNat) (UInt64.size - 1) := by
  unfold addSaturating UInt64.ofNatClamp
  split
  · rename_i h
    rw [UInt64.toNat_ofNatLT, Nat.min_eq_left (Nat.le_sub_one_of_lt h)]
  · rename_i h
    rw [UInt64.toNat_ofNatLT, Nat.min_eq_right (by omega)]

end Toolpath
