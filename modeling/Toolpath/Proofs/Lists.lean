/-!
# Lists that are split at an element

Statements about every place of a list split it into what comes before an element, the element and
what comes after. These lemmas say how such a split meets a list in two parts.
-/

namespace Toolpath

variable {β : Type}

/-- A list with an element is not empty. -/
theorem append_cons_ne_nil (before after : List β) (x : β) : before ++ x :: after ≠ [] :=
  List.append_ne_nil_of_right_ne_nil before (List.cons_ne_nil x after)

/-- A split of two lists at an element is a split of one of them. -/
theorem append_eq_append_cons {first second before after : List β} {x : β}
    (h : first ++ second = before ++ x :: after) :
    (∃ middle, first = before ++ x :: middle ∧ after = middle ++ second) ∨
      ∃ middle, before = first ++ middle ∧ second = middle ++ x :: after := by
  rcases List.append_eq_append_iff.mp h with ⟨middle, hbefore, hsecond⟩ | ⟨middle, hfirst, hafter⟩
  · exact .inr ⟨middle, hbefore, hsecond⟩
  · cases middle with
    | nil =>
      rw [List.append_nil] at hfirst
      exact .inr ⟨[], by rw [hfirst, List.append_nil], hafter.symm⟩
    | cons y middle =>
      obtain ⟨rfl, rfl⟩ := List.cons.inj hafter
      exact .inl ⟨middle, hfirst, rfl⟩

/-- A list of one element is split at this element only. -/
theorem singleton_eq_append_cons {before after : List β} {x y : β}
    (h : [y] = before ++ x :: after) :
    before = [] ∧ y = x ∧ after = [] := by
  obtain ⟨hbefore, hrest⟩ | ⟨middle, -, hnone⟩ := List.cons_eq_append_iff.mp h
  · obtain ⟨hx, hafter⟩ := List.cons.inj hrest
    exact ⟨hbefore, hx.symm, hafter⟩
  · exact absurd hnone.symm (append_cons_ne_nil middle after x)

end Toolpath
