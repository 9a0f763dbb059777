import Mathlib.Data.List.Basic

/-!
# Places — what stands at a place of a list that has changed

A log grows at its end, and the stage of one thread is replaced in place. What is found at a place
afterwards was there before or is new.
-/

namespace Places

variable {α : Type*} {xs ys : List α} {x y : α} {i k : Nat}

theorem snoc_cases (h : (xs ++ [x])[k]? = some y) : xs[k]? = some y ∨ k = xs.length ∧ x = y := by
  rcases Nat.lt_or_ge k xs.length with hlt | hge
  · rw [List.getElem?_append_left hlt] at h
    exact .inl h
  · have hlt := (List.getElem?_eq_some_iff.1 h).1
    obtain rfl : k = xs.length := by
      simp at hlt
      omega
    rw [List.getElem?_concat_length] at h
    exact .inr ⟨rfl, Option.some.inj h⟩

theorem of_prefix (h : xs <+: ys) (hk : xs[k]? = some x) : ys[k]? = some x := by
  rcases h with ⟨more, rfl⟩
  rw [List.getElem?_append_left (List.getElem?_eq_some_iff.1 hk).1]
  exact hk

theorem set_cases (h : (xs.set i x)[k]? = some y) : k = i ∧ y = x ∨ k ≠ i ∧ xs[k]? = some y := by
  by_cases hik : i = k
  · subst hik
    have hlt : i < xs.length := by
      have hlt := (List.getElem?_eq_some_iff.1 h).1
      simpa using hlt
    rw [List.getElem?_set_self hlt] at h
    exact .inl ⟨rfl, (Option.some.inj h).symm⟩
  · rw [List.getElem?_set_ne hik] at h
    exact .inr ⟨Ne.symm hik, h⟩

end Places
