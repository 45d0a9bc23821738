import Toolpath.Proofs.Move.Arrival

/-!
# Supplies that are asked in any order

A supply is asked for its next waypoint, or for the one behind a number of others, in any order and
beyond its end. What it answers is all that a caller sees of it. Two supplies whose single calls
correspond answer every sequence of calls alike. A list of waypoints is the plainest supply: a call
drops from it what is passed over.
-/

namespace Toolpath

namespace WaypointSupply

/-- What a supply is asked for. -/
inductive Call where
  /-- The next waypoint. -/
  | next
  /-- The waypoint behind a number of others. -/
  | nth (skipped : UInt64)
  deriving DecidableEq, Repr

/-- Number of waypoints that a call passes over. -/
def Call.skipped : Call → Nat
  | next => 0
  | nth skipped => skipped.toNat

variable {S T α β : Type} [WaypointSupply S α] [WaypointSupply T β]

/-- What a supply hands out at a call, and the supply after it. -/
def ask (supply : S) : Call → Option (Waypoint α) × S
  | .next => next supply
  | .nth skipped => nth supply skipped

/-- A supply after calls. -/
def askAll (supply : S) (calls : List Call) : S :=
  calls.foldl (fun rest call => (ask rest call).2) supply

/-- Answers of a supply to calls: what it hands out at each of them, and how many waypoints are left
after it. -/
def answers (supply : S) : List Call → List (Option (Waypoint α) × Nat)
  | [] => []
  | call :: calls =>
    ((ask supply call).1, remaining (ask supply call).2) :: answers (ask supply call).2 calls

/-- There is one answer to each call. -/
theorem length_answers (supply : S) (calls : List Call) :
    (answers supply calls).length = calls.length := by
  induction calls generalizing supply with
  | nil => rfl
  | cons call calls ih => rw [answers, List.length_cons, List.length_cons, ih]

/-- Later calls are answered by the supply that the first ones leave. -/
theorem answers_append (supply : S) (calls later : List Call) :
    answers supply (calls ++ later) =
      answers supply calls ++ answers (askAll supply calls) later := by
  induction calls generalizing supply with
  | nil => rfl
  | cons call calls ih =>
    have hrest := ih (ask supply call).2
    rw [List.cons_append, answers, answers, hrest, List.cons_append]
    rfl

/-- Supplies of a kind show in others, their waypoints changed in some way: every call does the same
on both sides and leaves a supply of the kind, and as many waypoints are left. -/
structure Shows (Kind : S → Prop) (view : S → T) (change : Waypoint α → Waypoint β) : Prop where
  /-- Calls correspond. -/
  ask_eq : ∀ supply call, Kind supply →
    ask (view supply) call = ((ask supply call).1.map change, view (ask supply call).2)
  /-- The kind is kept. -/
  kept : ∀ supply call, Kind supply → Kind (ask supply call).2
  /-- The same number of waypoints is left. -/
  remaining_eq : ∀ supply, remaining (view supply) = remaining supply

/-- Where a supply shows, the answers are those of the supply with their waypoints changed. -/
theorem Shows.answers_eq {Kind : S → Prop} {view : S → T} {change : Waypoint α → Waypoint β}
    (h : Shows Kind view change) {supply : S} (hkind : Kind supply) (calls : List Call) :
    answers (view supply) calls =
      (answers supply calls).map fun answer => (answer.1.map change, answer.2) := by
  induction calls generalizing supply with
  | nil => rfl
  | cons call calls ih =>
    have hcall := h.ask_eq supply call hkind
    have hleft := h.remaining_eq (ask supply call).2
    have hrest := ih (h.kept supply call hkind)
    rw [answers, answers, hcall, hleft, hrest, List.map_cons]

/-- Two supplies are alike as far as a view of their waypoints goes: every call hands out waypoints
that look the same, leaves the supplies alike and as many waypoints in each of them. -/
structure LooksAlike {γ : Type} (Alike : S → S → Prop) (view : Waypoint α → γ) : Prop where
  /-- What is handed out looks the same. -/
  ask_eq : ∀ one other call, Alike one other →
    (ask one call).1.map view = (ask other call).1.map view
  /-- The supplies stay alike. -/
  kept : ∀ one other call, Alike one other → Alike (ask one call).2 (ask other call).2
  /-- The same number of waypoints is left. -/
  remaining_eq : ∀ one other, Alike one other → remaining one = remaining other

/-- Supplies that are alike give answers that look the same. -/
theorem LooksAlike.answers_eq {γ : Type} {Alike : S → S → Prop} {view : Waypoint α → γ}
    (h : LooksAlike Alike view) {one other : S} (halike : Alike one other) (calls : List Call) :
    ((answers one calls).map fun answer => (answer.1.map view, answer.2)) =
      (answers other calls).map fun answer => (answer.1.map view, answer.2) := by
  induction calls generalizing one other with
  | nil => rfl
  | cons call calls ih =>
    have hcall := h.ask_eq one other call halike
    have hkept := h.kept one other call halike
    have hleft := h.remaining_eq _ _ hkept
    rw [answers, answers, List.map_cons, List.map_cons, hcall, hleft, ih hkept]

/-- A list of waypoints hands them out in order. -/
instance : WaypointSupply (List (Waypoint α)) α where
  next waypoints := (waypoints.head?, waypoints.tail)
  nth waypoints skipped :=
    ((waypoints.drop skipped.toNat).head?, waypoints.drop (skipped.toNat + 1))
  remaining := List.length

/-- A call drops from a list what it passes over and what it hands out. -/
theorem ask_list (waypoints : List (Waypoint α)) (call : Call) :
    ask waypoints call =
      ((waypoints.drop call.skipped).head?, waypoints.drop (call.skipped + 1)) := by
  cases call with
  | next =>
    rw [Call.skipped, List.drop_zero, List.drop_one]
    rfl
  | nth skipped => rfl

/-- Asking a list again and again for its next waypoint drops as many. -/
theorem askAll_list_replicate (waypoints : List (Waypoint α)) (count : Nat) :
    askAll waypoints (List.replicate count .next) = waypoints.drop count := by
  induction count generalizing waypoints with
  | zero => rfl
  | succ count ih =>
    have htail : waypoints.tail.drop count = waypoints.drop (count + 1) := List.drop_tail
    rw [List.replicate_succ, ← htail, ← ih]
    rfl

/-- Nothing is handed out from an empty list. -/
theorem answers_nil (calls : List Call) :
    answers ([] : List (Waypoint α)) calls = List.replicate calls.length (none, 0) := by
  induction calls with
  | nil => rfl
  | cons call calls ih =>
    have hask : ask ([] : List (Waypoint α)) call = (none, []) := by
      rw [ask_list, List.drop_nil, List.drop_nil, List.head?_nil]
    rw [answers, hask, ih, List.length_cons, List.replicate_succ]
    rfl

/-- From a list waypoints are passed over as if they were asked for and thrown away. -/
theorem answers_list_nth (waypoints : List (Waypoint α)) (skipped : UInt64) (later : List Call) :
    answers waypoints (.nth skipped :: later) =
      (answers waypoints (List.replicate skipped.toNat .next ++ .next :: later)).drop
        skipped.toNat := by
  have hlength : (answers waypoints (List.replicate skipped.toNat .next)).length =
      skipped.toNat := by
    rw [length_answers, List.length_replicate]
  have hask : ask waypoints (.nth skipped) = ask (waypoints.drop skipped.toNat) .next := by
    rw [ask_list, ask_list, List.drop_drop, List.drop_drop, Call.skipped, Call.skipped]
    simp only [Nat.add_zero, Nat.zero_add]
  rw [answers_append, List.drop_left' hlength, askAll_list_replicate, answers, answers, hask]

end WaypointSupply

end Toolpath
