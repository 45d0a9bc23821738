import Toolpath.Scalar

/-!
# Vectors in a plane

The radius of an arc is a vector in the arc's plane. A rotation takes the cosine and the
sine as given numbers, so that it may be exact or a cheap approximation.
-/

namespace Toolpath

variable {α : Type} [Scalar α]

/-- A vector by its coordinates along the two axes of a plane. -/
structure Planar (α : Type) where
  /-- Coordinate along the first axis. -/
  first : α
  /-- Coordinate along the second axis. -/
  second : α
  deriving DecidableEq, Repr

namespace Planar

/-- Opposite vector. -/
def neg (vector : Planar α) : Planar α := ⟨-vector.first, -vector.second⟩

/-- Sum of two vectors. -/
def add (left right : Planar α) : Planar α :=
  ⟨left.first + right.first, left.second + right.second⟩

/-- Difference of two vectors. -/
def sub (left right : Planar α) : Planar α :=
  ⟨left.first - right.first, left.second - right.second⟩

/-- Length of a vector. -/
def norm (vector : Planar α) : α := Scalar.hypot vector.first vector.second

/-- Inner product. -/
def dot (left right : Planar α) : α := left.first * right.first + left.second * right.second

/-- Component of the cross product out of the plane. -/
def cross (left right : Planar α) : α := left.first * right.second - left.second * right.first

/-- Vector turned by the angle with the given cosine and sine. -/
def rotate (cosine sine : α) (vector : Planar α) : Planar α :=
  ⟨vector.first * cosine - vector.second * sine, vector.first * sine + vector.second * cosine⟩

end Planar

end Toolpath
