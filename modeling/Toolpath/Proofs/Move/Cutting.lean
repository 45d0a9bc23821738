import Toolpath.Proofs.Distance
import Toolpath.Proofs.Move.Arrival
import Toolpath.Proofs.Move.Leg

/-!
# Lines in equal segments

The waypoints of a line are those of its indices, one after the other. In exact arithmetic they cut
the line into equal segments, as few as the greatest length allows. The legs through such waypoints
are hardly longer than a segment, whichever waypoints were too near to count.
-/

namespace Toolpath

namespace LineWalk

/-- A ceiling that a word can hold is counted exactly. -/
theorem exact_ceilCount_toNat {x : ℝ} (h : x ≤ 2 ^ 32 - 1) :
    (Scalar.ceilCount x).toNat = ⌈x⌉₊ := by
  have hceil : ⌈x⌉₊ ≤ 2 ^ 32 - 1 := by
    rw [Nat.ceil_le]
    norm_num at h ⊢
    exact h
  have hfits : ⌈x⌉₊ < UInt32.size := Nat.lt_of_le_sub_one (by decide) hceil
  change (UInt32.ofNatClamp ⌈x⌉₊).toNat = ⌈x⌉₊
  rw [UInt32.ofNatClamp, dif_pos hfits, UInt32.toNat_ofNatLT]

/-- In exact arithmetic a line is cut into as few segments as the greatest length allows. -/
theorem exact_cut_isLeast {start target : PerAxis ℝ} {maxLength : ℝ} (rate : ℝ)
    (hlength : 0 < (start.vectorTo target).norm) (hmax : 0 < maxLength)
    (hcount : (start.vectorTo target).norm / maxLength ≤ 2 ^ 32 - 1) :
    IsLeast {count : ℕ | 1 ≤ count ∧ (start.vectorTo target).norm / count ≤ maxLength}
      (cut start target rate maxLength).segments.toNat := by
  generalize hnorm : (start.vectorTo target).norm = length at hlength hcount ⊢
  have hpos : 0 < ⌈length / maxLength⌉₊ := Nat.ceil_pos.mpr (div_pos hlength hmax)
  have hceil := exact_ceilCount_toNat hcount
  have hsegments : (cut start target rate maxLength).segments.toNat = ⌈length / maxLength⌉₊ := by
    have hne : ¬ (length == (0.0 : ℝ)) = true := by
      rw [exact_beq_zero_iff]
      exact hlength.ne'
    simp only [cut, hnorm]
    rw [if_neg hne, atLeastOne_of_pos (hceil ▸ hpos), hceil]
  rw [hsegments]
  refine ⟨⟨hpos, ?_⟩, fun count hallowed => Nat.ceil_le.mpr ?_⟩
  · rw [div_le_comm₀ (by exact_mod_cast hpos) hmax]
    exact Nat.le_ceil _
  · obtain ⟨hone, hle⟩ := hallowed
    rwa [div_le_comm₀ (by exact_mod_cast hone) hmax] at hle

/-- In exact arithmetic the point of an index is that fraction of the way, the last one included. -/
theorem exact_pointAt (start target : PerAxis ℝ) (rate maxLength : ℝ) {index : ℕ}
    (hpos : 1 ≤ index) (hle : index ≤ (cut start target rate maxLength).segments.toNat) :
    (cut start target rate maxLength).pointAt (.ofNat index) =
      start.between target (index / (cut start target rate maxLength).segments.toNat) := by
  generalize hline : cut start target rate maxLength = line at hle ⊢
  have hindex : (UInt64.ofNat index).toNat = index := index_toNat hle
  by_cases hlast : UInt64.ofNat index = line.segments.toUInt64
  · have heq : index = line.segments.toNat := by
      rw [← hindex, hlast, UInt32.toNat_toUInt64]
    have hne : (line.segments.toNat : ℝ) ≠ 0 := by
      rw [← heq]
      positivity
    have htarget : line.target = target := by rw [← hline, cut]
    rw [pointAt, if_pos hlast, htarget, heq, div_self hne, PerAxis.between_one]
  · have hstart : line.start = start := by rw [← hline, cut]
    have hdisplacement : line.displacement = start.vectorTo target := by rw [← hline, cut]
    have hword : (Scalar.ofWord (UInt64.ofNat index) : ℝ) = index := by
      change ((UInt64.ofNat index).toNat : ℝ) = index
      rw [hindex]
    have hsegments : (Scalar.ofWord line.segments.toUInt64 : ℝ) = line.segments.toNat := by
      change (line.segments.toUInt64.toNat : ℝ) = line.segments.toNat
      rw [UInt32.toNat_toUInt64]
    refine PerAxis.ext_get fun axis => ?_
    rw [pointAt, if_neg hlast, PerAxis.between_get, PerAxis.get_zipWith, hword, hsegments, hstart,
      hdisplacement, PerAxis.vectorTo_get]

/-- In exact arithmetic the waypoints of a line cut it into equal segments. -/
theorem exact_cut_points (start target : PerAxis ℝ) (rate maxLength : ℝ) :
    let line := cut start target rate maxLength
    start :: (WaypointSupply.toList line).map Waypoint.point =
      (List.range' 0 (line.segments.toNat + 1)).map fun index : ℕ =>
        start.between target (index / line.segments.toNat) := by
  intro line
  rw [cut_toList, List.map_map, List.range'_succ, List.map_cons, Nat.cast_zero, zero_div,
    PerAxis.between_zero]
  refine congrArg (start :: ·) (List.map_congr_left fun index hindex => ?_)
  have hrange := List.mem_range'_1.mp hindex
  exact exact_pointAt start target rate maxLength hrange.1 (by omega)

/-- In exact arithmetic neighboring waypoints of a line are apart by one share of the way. -/
theorem exact_cut_isChain (start target : PerAxis ℝ) (rate maxLength : ℝ) :
    let line := cut start target rate maxLength
    List.IsChain
      (fun here next : PerAxis ℝ => ∃ index : ℕ,
        here = start.between target (index / line.segments.toNat) ∧
        next = start.between target ((index + 1 : ℕ) / line.segments.toNat))
      (start :: (WaypointSupply.toList line).map Waypoint.point) := by
  intro line
  rw [exact_cut_points, List.isChain_map]
  refine (List.isChain_range' 0 _ 1).imp fun here next hnext => ?_
  subst hnext
  exact ⟨here, rfl, rfl⟩

/-- In exact arithmetic each waypoint of a line is one equal share of the way beyond the one
before. -/
theorem exact_cut_isChain_share (start target : PerAxis ℝ) (rate maxLength : ℝ) :
    let line := cut start target rate maxLength
    List.IsChain
      (fun here next : PerAxis ℝ => ∀ axis, next.get axis - here.get axis =
        (target.get axis - start.get axis) / line.segments.toNat)
      (start :: (WaypointSupply.toList line).map Waypoint.point) := by
  intro line
  refine (exact_cut_isChain start target rate maxLength).imp fun here next hneighbors axis => ?_
  obtain ⟨index, rfl, rfl⟩ := hneighbors
  rw [PerAxis.between_get, PerAxis.between_get, Nat.cast_succ]
  ring

/-- In exact arithmetic neighboring waypoints of a line are not farther apart than the greatest
length. -/
theorem exact_cut_isChain_le {start target : PerAxis ℝ} {maxLength : ℝ} (rate : ℝ)
    (hlength : 0 < (start.vectorTo target).norm) (hmax : 0 < maxLength)
    (hcount : (start.vectorTo target).norm / maxLength ≤ 2 ^ 32 - 1) :
    List.IsChain (fun here next : PerAxis ℝ => (here.vectorTo next).norm ≤ maxLength)
      (start :: (WaypointSupply.toList (cut start target rate maxLength)).map Waypoint.point) := by
  refine (exact_cut_isChain start target rate maxLength).imp fun here next hneighbors => ?_
  obtain ⟨index, rfl, rfl⟩ := hneighbors
  have hshare := (exact_cut_isLeast rate hlength hmax hcount).1.2
  rw [PerAxis.exact_norm_between, ← sub_div, Nat.cast_succ, add_sub_cancel_left, abs_of_nonneg
    (by positivity), one_div_mul_eq_div]
  exact hshare

end LineWalk

namespace Leg

/-- Legs through waypoints whose neighbors are apart by some length at most are shorter than this
length and the least move together: while waypoints are passed over, where the tool was last sent
stays near to them. -/
theorem exact_through_length_lt {most : ℝ} {waypoints : List (Waypoint ℝ)} {last point : PerAxis ℝ}
    (hnear : (last.vectorTo point).norm < leastMove)
    (hneighbors : List.IsChain (fun here next : PerAxis ℝ => (here.vectorTo next).norm ≤ most)
      (point :: waypoints.map Waypoint.point)) :
    ∀ leg ∈ through last waypoints, leg.length < most + leastMove := by
  induction waypoints generalizing last point with
  | nil => exact nofun
  | cons waypoint rest ih =>
    obtain ⟨hstep, hrest⟩ := List.isChain_cons_cons.mp hneighbors
    by_cases h : (Leg.mk last waypoint).length < leastMove
    · -- the waypoint that is passed over is now the point that the tool was last sent near to
      rw [through_of_near h]
      exact ih h hrest
    · rw [through_of_far h]
      refine List.forall_mem_cons.mpr ⟨?_, ih (PerAxis.exact_norm_vectorTo_self_lt _) hrest⟩
      have hdetour : (Leg.mk last waypoint).length ≤ (last.vectorTo point).norm +
          (point.vectorTo waypoint.point).norm := PerAxis.exact_norm_vectorTo_le _ _ _
      linarith

end Leg

end Toolpath
