import Mathlib.Data.List.Basic

/-!
# Ownership — what threads own and in which order it is dropped

A value owns resources in the order its fields are declared in. A thread that leaves a scope, by a
return or by unwinding, drops its locals in the reverse of the order they were declared in, and each
of them field by field. This file gives

* what is dropped when a scope is left,
* threads of which at most one is not over: beginning, going on, handing over and ending.
-/

namespace Ownership

variable {α ρ τ : Type*}

/-! ## Leaving a scope -/

/-- What is dropped when a scope with these locals is left, in order. -/
def unwound (fields : α → List ρ) (locals : List α) : List ρ :=
  locals.reverse.flatMap fields

/-! ## Threads of which at most one is not over -/

def AllOver (gone : τ) (threads : List τ) : Prop :=
  ∀ thread ∈ threads, thread = gone

/-- Thread `i` is the only one that may not be over, which `gone` says of a thread. -/
structure Sole (gone : τ) (threads : List τ) (i : Nat) (thread : τ) : Prop where
  owner : threads[i]? = some thread
  others : ∀ (j : Nat) (other : τ), threads[j]? = some other → j ≠ i → other = gone

variable {gone : τ} {threads : List τ} {i j : Nat} {thread other : τ}

theorem allOver_nil : AllOver gone [] := by
  intro thread h
  cases h

/-- The new thread is the only one. -/
theorem AllOver.begin (h : AllOver gone threads) (next : τ) :
    Sole gone (threads ++ [next]) threads.length next where
  owner := by simp
  others := by
    intro j other hj hne
    have hlt : j < threads.length := by
      have hbound := (List.getElem?_eq_some_iff.1 hj).1
      simp only [List.length_append, List.length_singleton] at hbound
      omega
    rw [List.getElem?_append_left hlt] at hj
    exact h other (List.mem_of_getElem? hj)

namespace Sole

theorem lt (h : Sole gone threads i thread) : i < threads.length :=
  (List.getElem?_eq_some_iff.1 h.owner).1

/-- Whoever is not over is the one. -/
theorem unique (h : Sole gone threads i thread) (hj : threads[j]? = some other)
    (hne : other ≠ gone) : j = i ∧ other = thread := by
  by_cases hij : j = i
  · subst hij
    exact ⟨rfl, Option.some.inj (hj.symm.trans h.owner)⟩
  · exact absurd (h.others j other hj hij) hne

theorem unique_of_mem (h : Sole gone threads i thread) (hmem : other ∈ threads)
    (hne : other ≠ gone) : other = thread := by
  rcases List.getElem?_of_mem hmem with ⟨j, hj⟩
  exact (h.unique hj hne).2

theorem mem (h : Sole gone threads i thread) : thread ∈ threads :=
  List.mem_of_getElem? h.owner

/-- The one goes on. -/
theorem set (h : Sole gone threads i thread) (next : τ) :
    Sole gone (threads.set i next) i next where
  owner := by simp [h.lt]
  others := by
    intro j other hj hne
    rw [List.getElem?_set_ne (Ne.symm hne)] at hj
    exact h.others j other hj hne

/-- The one ends. -/
theorem finish (h : Sole gone threads i thread) : AllOver gone (threads.set i gone) := by
  intro other hmem
  rcases List.getElem?_of_mem hmem with ⟨j, hj⟩
  by_cases hij : j = i
  · subst hij
    exact Option.some.inj (hj.symm.trans (h.set gone).owner)
  · exact (h.set gone).others j other hj hij

/-- The one ends and hands over to a new thread. -/
theorem handOver (h : Sole gone threads i thread) (next : τ) :
    Sole gone (threads.set i gone ++ [next]) threads.length next := by
  simpa using h.finish.begin next

/-- A search that passes over whoever is over finds the one. -/
theorem find? (h : Sole gone threads i thread) {q : τ → Bool} (hover : q gone = false)
    (hq : q thread = true) : threads.find? q = some thread := by
  rw [List.find?_eq_some_iff_getElem]
  refine ⟨hq, i, h.lt, (List.getElem?_eq_some_iff.1 h.owner).2, ?_⟩
  intro j hj
  have hlt : j < threads.length := Nat.lt_trans hj h.lt
  have hother : threads[j] = gone := h.others j threads[j] (by simp) (by omega)
  rw [hother, hover]
  rfl

end Sole

theorem AllOver.find? (h : AllOver gone threads) {q : τ → Bool} (hover : q gone = false) :
    threads.find? q = none := by
  rw [List.find?_eq_none]
  intro thread hmem
  rw [h thread hmem, hover]
  exact Bool.false_ne_true

end Ownership
