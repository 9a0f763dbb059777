import Mathlib.Computability.Language

/-!
# Pattern — searching a text

A pattern is built from single letters, runs of letters, sequence and choice. This file gives

* the language of a pattern, and the matcher that lists what may be left behind a match,
* the search for a match anywhere in a text, and what it means that there is none.
-/

inductive Pattern (α : Type*)
  | done
  | one (p : α → Bool)
  | many (p : α → Bool)
  | both (first second : Pattern α)
  | either (first second : Pattern α)

namespace Pattern

variable {α : Type*}

/-- The texts that a pattern stands for. -/
def language : Pattern α → Language α
  | .done => {[]}
  | .one p => {text | ∃ a, p a = true ∧ text = [a]}
  | .many p => {text | ∀ a ∈ text, p a = true}
  | .both first second => first.language * second.language
  | .either first second => first.language + second.language

/-- What may be left of a text behind a run of letters. -/
def restsMany (p : α → Bool) : List α → List (List α)
  | [] => [[]]
  | a :: text => (a :: text) :: if p a then restsMany p text else []

/-- What may be left of a text behind a match at its start. -/
def rests : Pattern α → List α → List (List α)
  | .done, text => [text]
  | .one _, [] => []
  | .one p, a :: text => if p a then [text] else []
  | .many p, text => restsMany p text
  | .both first second, text => (first.rests text).flatMap second.rests
  | .either first second, text => first.rests text ++ second.rests text

/-- There is a match somewhere in the text. -/
def search (pattern : Pattern α) (text : List α) : Bool :=
  text.tails.any fun tail => !(pattern.rests tail).isEmpty

/-- One letter after the other. -/
def word : List (α → Bool) → Pattern α
  | [] => .done
  | p :: rest => .both (.one p) (word rest)

theorem mem_restsMany_iff {p : α → Bool} {text rest : List α} :
    rest ∈ restsMany p text ↔ ∃ found, (∀ a ∈ found, p a = true) ∧ found ++ rest = text := by
  induction text with
  | nil =>
      constructor
      · intro h
        obtain rfl := List.mem_singleton.1 h
        exact ⟨[], by simp, rfl⟩
      · rintro ⟨found, -, h⟩
        exact List.mem_singleton.2 (List.append_eq_nil_iff.1 h).2
  | cons a text ih =>
      constructor
      · intro h
        rcases List.mem_cons.1 h with rfl | htail
        · exact ⟨[], by simp, rfl⟩
        · split at htail
          · next hp =>
              rcases ih.1 htail with ⟨found, hfound, rfl⟩
              exact ⟨a :: found, List.forall_mem_cons.2 ⟨hp, hfound⟩, rfl⟩
          · cases htail
      · rintro ⟨found, hfound, h⟩
        cases found with
        | nil => exact List.mem_cons.2 (Or.inl h)
        | cons b found =>
            obtain ⟨rfl, rfl⟩ := List.cons.inj h
            rcases List.forall_mem_cons.1 hfound with ⟨hp, hrest⟩
            have hmem : rest ∈ restsMany p (found ++ rest) := ih.2 ⟨found, hrest, rfl⟩
            refine List.mem_cons.2 (Or.inr ?_)
            simpa [hp] using hmem

/-- The matcher leaves behind exactly what follows a text of the language. -/
theorem mem_rests_iff {pattern : Pattern α} {text rest : List α} :
    rest ∈ pattern.rests text ↔ ∃ found ∈ pattern.language, found ++ rest = text := by
  induction pattern generalizing text rest with
  | done =>
      constructor
      · intro h
        exact ⟨[], rfl, List.mem_singleton.1 h⟩
      · rintro ⟨found, rfl, h⟩
        exact List.mem_singleton.2 h
  | one p =>
      cases text with
      | nil =>
          constructor
          · intro h
            cases h
          · rintro ⟨found, ⟨a, -, rfl⟩, h⟩
            cases h
      | cons b text =>
          by_cases hp : p b = true
          · constructor
            · intro h
              have hrest : rest = text := by simpa [rests, hp] using h
              exact ⟨[b], ⟨b, hp, rfl⟩, by rw [hrest]; rfl⟩
            · rintro ⟨found, ⟨a, -, rfl⟩, h⟩
              obtain ⟨-, rfl⟩ := List.cons.inj h
              simp [rests, hp]
          · constructor
            · intro h
              simp [rests, hp] at h
            · rintro ⟨found, ⟨a, ha, rfl⟩, h⟩
              obtain ⟨rfl, -⟩ := List.cons.inj h
              exact absurd ha hp
  | many p => exact mem_restsMany_iff
  | both first second hfirst hsecond =>
      constructor
      · intro h
        rcases List.mem_flatMap.1 h with ⟨middle, hmiddle, hrest⟩
        rcases hfirst.1 hmiddle with ⟨u, hu, rfl⟩
        rcases hsecond.1 hrest with ⟨v, hv, rfl⟩
        exact ⟨u ++ v, Language.mem_mul.2 ⟨u, hu, v, hv, rfl⟩, List.append_assoc u v rest⟩
      · rintro ⟨found, hfound, rfl⟩
        rcases Language.mem_mul.1 hfound with ⟨u, hu, v, hv, rfl⟩
        refine List.mem_flatMap.2 ⟨v ++ rest, ?_, hsecond.2 ⟨v, hv, rfl⟩⟩
        exact hfirst.2 ⟨u, hu, (List.append_assoc u v rest).symm⟩
  | either first second hfirst hsecond =>
      constructor
      · intro h
        rcases List.mem_append.1 h with h | h
        · rcases hfirst.1 h with ⟨found, hfound, heq⟩
          exact ⟨found, (Language.mem_add _ _ _).2 (Or.inl hfound), heq⟩
        · rcases hsecond.1 h with ⟨found, hfound, heq⟩
          exact ⟨found, (Language.mem_add _ _ _).2 (Or.inr hfound), heq⟩
      · rintro ⟨found, hfound, heq⟩
        rcases (Language.mem_add _ _ _).1 hfound with hfound | hfound
        · exact List.mem_append.2 (Or.inl (hfirst.2 ⟨found, hfound, heq⟩))
        · exact List.mem_append.2 (Or.inr (hsecond.2 ⟨found, hfound, heq⟩))

/-- The search finds a text of the language wherever there is one. -/
theorem search_iff {pattern : Pattern α} {text : List α} :
    pattern.search text = true ↔
      ∃ before found after, found ∈ pattern.language ∧ before ++ (found ++ after) = text := by
  unfold search
  rw [List.any_eq_true]
  constructor
  · rintro ⟨tail, htail, hmatch⟩
    rcases (List.mem_tails _ _).1 htail with ⟨before, rfl⟩
    have hsome : pattern.rests tail ≠ [] := by simpa using hmatch
    rcases List.exists_mem_of_ne_nil _ hsome with ⟨after, hafter⟩
    rcases mem_rests_iff.1 hafter with ⟨found, hfound, rfl⟩
    exact ⟨before, found, after, hfound, rfl⟩
  · rintro ⟨before, found, after, hfound, rfl⟩
    refine ⟨found ++ after, (List.mem_tails _ _).2 ⟨before, rfl⟩, ?_⟩
    have hafter : after ∈ pattern.rests (found ++ after) := mem_rests_iff.2 ⟨found, hfound, rfl⟩
    have hsome := List.ne_nil_of_mem hafter
    simpa using hsome

end Pattern
