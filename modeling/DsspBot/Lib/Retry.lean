import Mathlib.Data.List.Basic

/-!
# Retry — loops that ask again while the answer allows it

A retry loop asks, hears an answer, and asks again if the answer allows it and the limit is not
reached. Whatever else it does, the answers it has heard when it stops are determined by the answers
it would be given. This file gives

* the answers a loop may stop at,
* their uniqueness for one stream of answers, so that two loops over one stream stop together.
-/

namespace Retry

variable {ρ : Type*}

/-- The answers are those of the stream, from its beginning. -/
def Follows (stream : Nat → ρ) (answers : List ρ) : Prop :=
  ∀ i answer, answers[i]? = some answer → answer = stream i

/-- The answers a loop stops at: each but the last allowed another request, and the last one either
did not or used up the limit. -/
structure Settled (again : ρ → Prop) (limit : Nat) (answers : List ρ) (last : ρ) : Prop where
  last_eq : answers.getLast? = some last
  allowed : ∀ answer ∈ answers.dropLast, again answer
  within : answers.length ≤ limit
  spent : again last → limit ≤ answers.length

section Stream

variable {stream : Nat → ρ} {answers answers' : List ρ} {again : ρ → Prop} {limit : Nat}
  {last last' : ρ}

theorem Follows.nil (stream : Nat → ρ) : Follows stream [] := by
  intro i answer h
  simp at h

/-- One more answer is the next of the stream. -/
theorem Follows.snoc (h : Follows stream answers) :
    Follows stream (answers ++ [stream answers.length]) := by
  intro i answer hi
  rcases Nat.lt_trichotomy i answers.length with hlt | rfl | hgt
  · rw [List.getElem?_append_left hlt] at hi
    exact h i answer hi
  · simpa [eq_comm] using hi
  · rw [List.getElem?_eq_none (by simp; omega)] at hi
    cases hi

/-- Answers of one stream and of one length are the same. -/
theorem Follows.eq_of_length (h : Follows stream answers) (h' : Follows stream answers')
    (hlength : answers.length = answers'.length) : answers = answers' := by
  apply List.ext_getElem hlength
  intro i hi hi'
  rw [h i _ (List.getElem?_eq_getElem hi), h' i _ (List.getElem?_eq_getElem hi')]

namespace Settled

theorem ne_nil (h : Settled again limit answers last) : answers ≠ [] := by
  intro hnil
  simpa [hnil] using h.last_eq

/-- A loop does not stop at an answer that another loop over the same stream goes on from. -/
theorem length_le (h : Settled again limit answers last) (h' : Settled again limit answers' last')
    (hfollows : Follows stream answers) (hfollows' : Follows stream answers') :
    answers'.length ≤ answers.length := by
  by_contra hlonger
  have hpos := List.length_pos_iff.2 h.ne_nil
  -- The last answer of the shorter run stands among the answers the longer one went on from.
  have hlast : last = stream (answers.length - 1) := by
    refine hfollows _ _ ?_
    rw [← List.getLast?_eq_getElem?]
    exact h.last_eq
  have hi : answers.length - 1 < answers'.dropLast.length := by
    rw [List.length_dropLast]
    omega
  have hsame : answers'.dropLast[answers.length - 1] = last := by
    rw [List.getElem_dropLast, hlast]
    exact hfollows' _ _ (List.getElem?_eq_getElem _)
  have hagain : again last := hsame ▸ h'.allowed _ (List.getElem_mem hi)
  have hspent := h.spent hagain
  have hwithin := h'.within
  omega

/-- Two loops over one stream stop at the same answers. -/
theorem unique (h : Settled again limit answers last) (h' : Settled again limit answers' last')
    (hfollows : Follows stream answers) (hfollows' : Follows stream answers') :
    answers = answers' ∧ last = last' := by
  have heq : answers = answers' :=
    hfollows.eq_of_length hfollows'
      (Nat.le_antisymm (h'.length_le h hfollows' hfollows) (h.length_le h' hfollows hfollows'))
  subst heq
  exact ⟨rfl, Option.some.inj (h.last_eq.symm.trans h'.last_eq)⟩

end Settled

end Stream

end Retry
