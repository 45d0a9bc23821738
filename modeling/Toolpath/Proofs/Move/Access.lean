import Toolpath.Binary64.Arithmetic
import Toolpath.Proofs.Move.Asking

/-!
# Random access to the waypoints of a line

Whatever is asked of a line, in any order and beyond its end, it answers as the list of its
waypoints would. The list is settled by the ends of the line and the number of its segments: each
point is computed from the start on its own, so that nothing that was asked before has a part in it.
A cursor far beyond the end, where it may stop at the greatest word, is as good as one at the end.
-/

namespace Toolpath

open WaypointSupply (Call ask askAll answers)

variable {α : Type} [Scalar α]

namespace LineWalk

/-- Waypoints at equal shares of the way between two points, of which the last one is the target
itself. -/
def shares (start target : PerAxis α) (rate : α) (segments : UInt32) : List (Waypoint α) :=
  (List.range' 1 segments.toNat).map fun index =>
    if index = segments.toNat then ⟨target, rate⟩
    else
      let share := Scalar.ofWord (.ofNat index) / Scalar.ofWord segments.toUInt64
      ⟨.ofFn fun axis => start.get axis + (target.get axis - start.get axis) * share, rate⟩

/-- A line that was cut holds the waypoints at equal shares of its way. -/
theorem cut_toList_eq_shares (start target : PerAxis α) (rate maxLength : α) :
    let line := cut start target rate maxLength
    WaypointSupply.toList line = shares start target rate line.segments := by
  intro line
  have hlist : WaypointSupply.toList line =
      (List.range' 1 line.segments.toNat).map fun index => line.waypointAt (.ofNat index) :=
    cut_toList start target rate maxLength
  rw [hlist, shares]
  refine List.map_congr_left fun index hindex => ?_
  have hrange := List.mem_range'_1.mp hindex
  have hle : index ≤ line.segments.toNat := by omega
  have hword : (UInt64.ofNat index).toNat = index := index_toNat hle
  have hlast : UInt64.ofNat index = line.segments.toUInt64 ↔ index = line.segments.toNat := by
    rw [← UInt64.toNat_inj, hword, UInt32.toNat_toUInt64]
  by_cases h : index = line.segments.toNat
  · rw [if_pos h, waypointAt, pointAt, if_pos (hlast.mpr h)]
    rfl
  · rw [if_neg h, waypointAt, pointAt, if_neg (fun hword => h (hlast.mp hword))]
    rfl

omit [Scalar α] in
/-- No cursor within a line, nor one just behind it, is near to the greatest word. -/
theorem segments_lt_size (line : LineWalk α) : line.segments.toNat + 1 < UInt64.size :=
  Nat.lt_of_lt_of_le (Nat.add_lt_add_right line.segments.toNat_lt 1) (by decide)

/-- A call moves the cursor on by what it passes over, though never beyond the greatest word, and
then hands out the waypoint there. -/
theorem exists_ask (line : LineWalk α) (call : Call) :
    ∃ cursor : UInt64, cursor.toNat = min (line.cursor.toNat + call.skipped) (UInt64.size - 1) ∧
      ask line call = next { line with cursor := cursor } := by
  cases call with
  | next =>
    have hword := line.cursor.toNat_lt_size
    refine ⟨line.cursor, ?_, rfl⟩
    rw [Call.skipped]
    omega
  | nth skipped => exact ⟨_, addSaturating_toNat _ _, rfl⟩

/-- What is left of a line behind some waypoints is what its list has left behind them, also when
the cursor stops at the greatest word. -/
theorem toList_drop (line : LineWalk α) {cursor : UInt64} {skipped : Nat}
    (hcursor : cursor.toNat = min (line.cursor.toNat + skipped) (UInt64.size - 1)) :
    WaypointSupply.toList { line with cursor := cursor } =
      (WaypointSupply.toList line).drop skipped := by
  have hsegments := line.segments_lt_size
  have hleft : ({ line with cursor := cursor } : LineWalk α).remaining =
      line.remaining - skipped := by
    unfold remaining
    dsimp only
    omega
  rw [toList_eq_map, toList_eq_map, ← List.map_drop, List.drop_range', hleft, Nat.mul_one]
  rcases Nat.eq_zero_or_pos (line.remaining - skipped) with hnone | hsome
  · rw [hnone]
    rfl
  · -- while waypoints are left, the cursor is far below the greatest word
    have hexact : cursor.toNat = line.cursor.toNat + skipped := by
      unfold remaining at hsome
      omega
    dsimp only
    rw [hexact]
    rfl

/-- Handing out the next waypoint takes the first one from the list. -/
theorem next_toList (line : LineWalk α) :
    line.next.1 = (WaypointSupply.toList line).head? ∧
      WaypointSupply.toList line.next.2 = (WaypointSupply.toList line).drop 1 := by
  rcases Nat.lt_or_ge line.segments.toNat line.cursor.toNat with hpast | hle
  · have hnone : WaypointSupply.toList line = [] := by
      refine WaypointSupply.toList_of_remaining_zero ?_
      change line.remaining = 0
      unfold remaining
      omega
    rw [next_of_gt hpast, hnone]
    exact ⟨rfl, rfl⟩
  · have hsome : line.remaining = line.remaining - 1 + 1 := by
      unfold remaining
      omega
    have hfirst : (WaypointSupply.toList line).head? = some (line.waypointAt line.cursor) := by
      rw [toList_eq_map, hsome, List.range'_succ, List.map_cons, List.head?_cons,
        UInt64.ofNat_toNat]
    have hcursor : (line.cursor + 1).toNat = min (line.cursor.toNat + 1) (UInt64.size - 1) := by
      have hsegments := line.segments_lt_size
      rw [cursor_succ hle]
      omega
    rw [next_of_le hle, hfirst]
    exact ⟨rfl, line.toList_drop hcursor⟩

/-- A line shows in the list of the waypoints that it still holds. -/
theorem shows_toList :
    WaypointSupply.Shows (fun _ : LineWalk α => True) WaypointSupply.toList id := by
  refine ⟨fun line call _ => ?_, fun _ _ _ => trivial, length_toList⟩
  obtain ⟨cursor, hcursor, hask⟩ := line.exists_ask call
  obtain ⟨hfirst, hrest⟩ := ({ line with cursor := cursor } : LineWalk α).next_toList
  rw [line.toList_drop hcursor] at hfirst hrest
  rw [WaypointSupply.ask_list, hask, hfirst, hrest, Option.map_id, List.drop_drop]
  rfl

/-- A line answers as its list. -/
theorem answers_toList (line : LineWalk α) (calls : List Call) :
    answers line calls = answers (WaypointSupply.toList line) calls := by
  rw [shows_toList.answers_eq trivial]
  simp only [Option.map_id_fun, id_eq, List.map_id']

/-- Once a line hands out nothing, it never hands out anything again and has nothing left. -/
theorem answers_of_none {line : LineWalk α} {call : Call} (hnone : (ask line call).1 = none)
    (later : List Call) :
    answers (ask line call).2 later = List.replicate later.length (none, 0) := by
  have hcall := shows_toList.ask_eq line call trivial
  rw [hnone, WaypointSupply.ask_list] at hcall
  obtain ⟨hfirst, hrest⟩ := Prod.mk.inj hcall
  rw [Option.map_none, List.head?_eq_none_iff] at hfirst
  rw [← List.drop_drop, hfirst, List.drop_nil] at hrest
  rw [answers_toList, ← hrest, WaypointSupply.answers_nil]

/-- A call moves the cursor on by what it passes over, though never beyond the greatest word, and by
one more if it hands out a waypoint. -/
theorem ask_cursor (line : LineWalk α) (call : Call) :
    (ask line call).2.cursor.toNat = min (line.cursor.toNat + call.skipped) (UInt64.size - 1) +
      if (ask line call).1.isSome then 1 else 0 := by
  obtain ⟨cursor, hcursor, hask⟩ := line.exists_ask call
  rw [hask, ← hcursor]
  rcases Nat.lt_or_ge line.segments.toNat cursor.toNat with hpast | hle
  · have hnext : next { line with cursor := cursor } = (none, { line with cursor := cursor }) :=
      next_of_gt hpast
    rw [hnext]
    rfl
  · have hsome := (next_of_le hle : next { line with cursor := cursor } = _)
    rw [hsome]
    exact cursor_succ hle

/-- Lines give random access to the list of their waypoints. Any line, cut by any length, has no
segments if its length is found to be zero, and otherwise at least one and as many as a word can
hold. Its waypoints are the list of the points at equal shares of the way, each computed on its own,
with the target itself at the end. Whatever is asked, in any order and beyond the end, the line
answers as this list. Passing over waypoints is asking for them and throwing them away. Once the
line hands out nothing, it never hands out anything again. The cursor moves by what is passed over,
kept at the greatest word, and then by the waypoint that is handed out, without ever wrapping. -/
theorem cut_randomAccess (start target : PerAxis α) (rate maxLength : α) :
    let fresh := cut start target rate maxLength
    let segments := fresh.segments.toNat
    let waypoints := shares start target rate fresh.segments
    (((start.vectorTo target).norm == (0.0 : α)) = true → segments = 0) ∧
    (¬ ((start.vectorTo target).norm == (0.0 : α)) = true →
      1 ≤ segments ∧ segments ≤ UInt32.size - 1) ∧
    waypoints.length = segments ∧ WaypointSupply.toList fresh = waypoints ∧
    (∀ calls, answers fresh calls = answers waypoints calls) ∧
    (∀ calls skipped later,
      let line := askAll fresh calls
      answers line (.nth skipped :: later) =
        (answers line (List.replicate skipped.toNat .next ++ .next :: later)).drop
          skipped.toNat) ∧
    (∀ calls call later,
      let line := askAll fresh calls
      (ask line call).1 = none →
        answers (ask line call).2 later = List.replicate later.length (none, 0)) ∧
    ∀ calls call,
      let line := askAll fresh calls
      (ask line call).2.cursor.toNat = min (line.cursor.toNat + call.skipped) (UInt64.size - 1) +
        if (ask line call).1.isSome then 1 else 0 := by
  intro fresh segments waypoints
  have hiff := cut_segments_eq_zero_iff start target rate maxLength
  have hlist : WaypointSupply.toList fresh = waypoints :=
    cut_toList_eq_shares start target rate maxLength
  refine ⟨fun hzero => ?_, fun hpath => ⟨?_, ?_⟩, ?_, hlist, fun calls => ?_,
    fun calls skipped later => ?_, fun calls call later hnone => answers_of_none hnone later,
    fun calls call => ask_cursor _ call⟩
  · exact congrArg UInt32.toNat (hiff.mpr hzero)
  · have hne : fresh.segments ≠ 0 := fun hzero => hpath (hiff.mp hzero)
    exact Nat.pos_of_ne_zero fun hzero => hne (UInt32.toNat_inj.mp hzero)
  · exact Nat.le_sub_one_of_lt fresh.segments.toNat_lt
  · change (shares start target rate fresh.segments).length = fresh.segments.toNat
    rw [shares, List.length_map, List.length_range']
  · rw [answers_toList, hlist]
  · intro line
    rw [answers_toList, answers_toList, WaypointSupply.answers_list_nth]

/-- A line of binary64 numbers in as many segments as a word can hold. Once all but the last have
been passed over there is the target, and behind it nothing, even if the cursor stops at the
greatest word. A line without length has no segments at all. -/
theorem cut_randomAccess_saturated :
    let target : PerAxis Float := ⟨1.0e6, 0.0, 0.0⟩
    let fresh := cut (.uniform 0.0) target 1.0 1.0e-6
    let line := askAll fresh [.nth 0xFFFFFFFE]
    let beyond := ask line (.nth 0xFFFFFFFFFFFFFFFF)
    1 ≤ fresh.segments.toNat ∧ fresh.segments.toNat = UInt32.size - 1 ∧
    answers fresh [.nth 0xFFFFFFFE] = [(some ⟨target, 1.0⟩, 0)] ∧
    beyond.1 = none ∧ beyond.2.cursor.toNat = UInt64.size - 1 ∧
    answers beyond.2 [.next, .nth 5] = [(none, 0), (none, 0)] ∧
    (cut target target 1.0 1.0e-6).segments.toNat = 0 := by
  intro target fresh line beyond
  obtain ⟨-, hpath, -, -, -, -, hended, -⟩ :=
    cut_randomAccess (.uniform 0.0) target 1.0 1.0e-6
  obtain ⟨hclosed, -⟩ := cut_randomAccess target target 1.0 1.0e-6
  have hpositive : ¬ (((PerAxis.uniform 0.0).vectorTo target).norm == (0.0 : Float)) = true := by
    decide +kernel
  have hzero : ((target.vectorTo target).norm == (0.0 : Float)) = true := by decide +kernel
  have hnone : beyond.1 = none := by decide +kernel
  have hstop : beyond.2.cursor.toNat = UInt64.size - 1 := by decide +kernel
  have hmost : fresh.segments.toNat = UInt32.size - 1 := by decide +kernel
  have hlast : answers fresh [.nth 0xFFFFFFFE] = [(some ⟨target, 1.0⟩, 0)] := by decide +kernel
  have hbeyond : answers beyond.2 [.next, .nth 5] = [(none, 0), (none, 0)] :=
    hended [.nth 0xFFFFFFFE] (.nth 0xFFFFFFFFFFFFFFFF) [.next, .nth 5] hnone
  exact ⟨(hpath hpositive).1, hmost, hlast, hnone, hstop, hbeyond, hclosed hzero⟩

end LineWalk

end Toolpath
