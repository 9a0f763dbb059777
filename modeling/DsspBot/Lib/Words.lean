import Mathlib.Data.List.Basic
import Mathlib.Data.List.DropRight

/-!
# Words — splitting a text at separators

The words of a text are its stretches between separators, the empty ones left out. This file gives

* what trimming takes off the ends of a text, and that it leaves the words alone,
* when a text has no words,
* that only the separators in the text matter.
-/

namespace Words

variable {α : Type*}

/-- The stretches between separators that are not empty. -/
def words (sep : α → Bool) (text : List α) : List (List α) :=
  (text.splitOnP sep).filter fun word => !word.isEmpty

/-- The text without the separators at its ends. -/
def trim (sep : α → Bool) (text : List α) : List α :=
  ((text.dropWhile sep).reverse.dropWhile sep).reverse

variable {sep sep' : α → Bool} {text more : List α} {c : α}

@[simp] theorem words_nil : words sep [] = [] := rfl

theorem words_cons_of_sep (h : sep c = true) : words sep (c :: text) = words sep text := by
  unfold words
  rw [List.splitOnP_cons_eq_if_modifyHead, if_pos h]
  rfl

theorem words_concat_of_sep (h : sep c = true) : words sep (text ++ [c]) = words sep text := by
  unfold words
  rw [List.splitOnP_append_cons text [] h, List.filter_append]
  exact List.append_nil _

theorem words_dropWhile : words sep (text.dropWhile sep) = words sep text := by
  induction text with
  | nil => rfl
  | cons c text ih =>
      by_cases h : sep c = true
      · rw [List.dropWhile_cons_of_pos h, ih, words_cons_of_sep h]
      · rw [List.dropWhile_cons_of_neg h]

/-- Separators at the end add no word. -/
theorem words_append_of_seps (h : ∀ c ∈ more, sep c = true) :
    words sep (text ++ more) = words sep text := by
  induction more generalizing text with
  | nil => rw [List.append_nil]
  | cons c more ih =>
      calc words sep (text ++ c :: more) = words sep ((text ++ [c]) ++ more) := by simp
        _ = words sep (text ++ [c]) := ih fun d hd => h d (List.mem_cons_of_mem c hd)
        _ = words sep text := words_concat_of_sep (h c List.mem_cons_self)

/-- What is trimmed off at the end are separators. -/
theorem dropWhile_eq_trim_append (sep : α → Bool) (text : List α) :
    ∃ after, text.dropWhile sep = trim sep text ++ after ∧ ∀ c ∈ after, sep c = true := by
  let left := text.dropWhile sep
  refine ⟨(left.reverse.takeWhile sep).reverse, ?_, ?_⟩
  · have hends := congrArg List.reverse
      (List.takeWhile_append_dropWhile (p := sep) (l := left.reverse))
    rw [List.reverse_append, List.reverse_reverse] at hends
    exact hends.symm
  · intro c hc
    exact List.mem_takeWhile_imp (List.mem_reverse.1 hc)

/-- Trimming takes separators off both ends. -/
theorem exists_eq_append_trim (sep : α → Bool) (text : List α) :
    ∃ before after, text = before ++ trim sep text ++ after ∧
      (∀ c ∈ before, sep c = true) ∧ ∀ c ∈ after, sep c = true := by
  rcases dropWhile_eq_trim_append sep text with ⟨after, hleft, hafter⟩
  refine ⟨text.takeWhile sep, after, ?_, fun c hc => List.mem_takeWhile_imp hc, hafter⟩
  calc text = text.takeWhile sep ++ text.dropWhile sep := List.takeWhile_append_dropWhile.symm
    _ = text.takeWhile sep ++ trim sep text ++ after := by rw [hleft, List.append_assoc]

theorem dropWhile_append_of_word {word : List α} (hword : ∀ c ∈ word, sep c = false)
    (hne : word ≠ []) : (word ++ more).dropWhile sep = word ++ more := by
  rcases List.exists_cons_of_ne_nil hne with ⟨c, tail, rfl⟩
  exact List.dropWhile_cons_of_neg (by simp [hword c List.mem_cons_self])

/-- Between separators, trimming finds what has none. -/
theorem trim_append_append {before word after : List α} (hbefore : ∀ c ∈ before, sep c = true)
    (hword : ∀ c ∈ word, sep c = false) (hafter : ∀ c ∈ after, sep c = true) :
    trim sep (before ++ word ++ after) = word := by
  unfold trim
  rw [List.append_assoc, List.dropWhile_append_of_pos hbefore]
  by_cases hempty : word = []
  · subst hempty
    rw [List.nil_append, List.dropWhile_eq_nil_iff.2 hafter]
    rfl
  · have hreverse : ∀ c ∈ word.reverse, sep c = false := fun c hc => hword c (by simpa using hc)
    have hback : (word.reverse ++ []).dropWhile sep = word.reverse ++ [] :=
      dropWhile_append_of_word hreverse (by simpa using hempty)
    rw [dropWhile_append_of_word hword hempty, List.reverse_append,
      List.dropWhile_append_of_pos (fun c hc => hafter c (List.mem_reverse.1 hc)),
      ← List.append_nil word.reverse, hback]
    simp

/-- Trimming leaves the words. -/
theorem words_trim : words sep (trim sep text) = words sep text := by
  rcases dropWhile_eq_trim_append sep text with ⟨after, hleft, hafter⟩
  calc words sep (trim sep text)
      = words sep (trim sep text ++ after) := (words_append_of_seps hafter).symm
    _ = words sep (text.dropWhile sep) := by rw [← hleft]
    _ = words sep text := words_dropWhile

theorem trim_eq_nil_iff : trim sep text = [] ↔ ∀ c ∈ text, sep c = true := by
  unfold trim
  rw [List.reverse_eq_nil_iff, List.dropWhile_eq_nil_iff]
  constructor
  · intro h c hc
    by_contra hword
    -- A character that stops the first cut stops the second one too.
    have hleft : text.dropWhile sep ≠ [] := by
      intro hnil
      exact hword (List.dropWhile_eq_nil_iff.1 hnil c hc)
    have hhead : ¬sep ((text.dropWhile sep).head hleft) = true :=
      List.head_dropWhile_not sep hleft ▸ Bool.false_ne_true
    exact hhead (h _ (List.mem_reverse.2 (List.head_mem hleft)))
  · intro h c hc
    exact h c ((List.dropWhile_suffix sep).subset (List.mem_reverse.1 hc))

theorem mem_of_mem_trim (h : c ∈ trim sep text) : c ∈ text := by
  have hleft := (List.dropWhile_suffix sep).subset (List.mem_reverse.1 h)
  exact (List.dropWhile_suffix sep).subset (List.mem_reverse.1 hleft)

theorem mem_of_mem_splitOnP {piece : List α} (h : piece ∈ text.splitOnP sep) (hc : c ∈ piece) :
    c ∈ text := by
  induction text generalizing piece with
  | nil =>
      rw [List.splitOnP_nil, List.mem_singleton] at h
      exact h ▸ hc
  | cons d text ih =>
      rw [List.splitOnP_cons_eq_if_modifyHead] at h
      split at h
      · rcases List.mem_cons.1 h with rfl | hrest
        · cases hc
        · exact List.mem_cons_of_mem d (ih hrest hc)
      · rcases hpieces : text.splitOnP sep with _ | ⟨first, rest⟩
        · exact absurd hpieces (List.splitOnP_ne_nil sep text)
        rw [hpieces, List.modifyHead_cons] at h
        rcases List.mem_cons.1 h with rfl | hrest
        · -- The first piece grows by the character in front.
          rcases List.mem_cons.1 hc with rfl | hfirst
          · exact List.mem_cons_self
          · exact List.mem_cons_of_mem d (ih (hpieces ▸ List.mem_cons_self) hfirst)
        · exact List.mem_cons_of_mem d (ih (hpieces ▸ List.mem_cons_of_mem first hrest) hc)

theorem mem_of_mem_words {word : List α} (h : word ∈ words sep text) (hc : c ∈ word) :
    c ∈ text :=
  mem_of_mem_splitOnP (List.mem_filter.1 h).1 hc

theorem ne_nil_of_mem_words {word : List α} (h : word ∈ words sep text) : word ≠ [] := by
  simpa using (List.mem_filter.1 h).2

/-- A text without words is made of separators. -/
theorem words_eq_nil_iff : words sep text = [] ↔ ∀ c ∈ text, sep c = true := by
  constructor
  · intro h
    induction text with
    | nil => exact fun c hc => absurd hc List.not_mem_nil
    | cons d text ih =>
        by_cases hd : sep d = true
        · rw [words_cons_of_sep hd] at h
          exact List.forall_mem_cons.2 ⟨hd, ih h⟩
        · -- A character that separates nothing begins a word.
          rcases hpieces : text.splitOnP sep with _ | ⟨first, rest⟩
          · exact absurd hpieces (List.splitOnP_ne_nil sep text)
          unfold words at h
          rw [List.splitOnP_cons_eq_if_modifyHead, if_neg hd, hpieces] at h
          simp at h
  · intro h
    have hnone : words sep ([] ++ text) = words sep [] := words_append_of_seps h
    exact hnone

theorem splitOnP_congr (h : ∀ c ∈ text, sep c = sep' c) :
    text.splitOnP sep = text.splitOnP sep' := by
  induction text with
  | nil => rfl
  | cons d text ih =>
      have htail := ih fun c hc => h c (List.mem_cons_of_mem d hc)
      rw [List.splitOnP_cons_eq_if_modifyHead, List.splitOnP_cons_eq_if_modifyHead,
        h d List.mem_cons_self, htail]

theorem dropWhile_congr (h : ∀ c ∈ text, sep c = sep' c) :
    text.dropWhile sep = text.dropWhile sep' := by
  induction text with
  | nil => rfl
  | cons d text ih =>
      have htail := ih fun c hc => h c (List.mem_cons_of_mem d hc)
      rw [List.dropWhile_cons, List.dropWhile_cons, h d List.mem_cons_self, htail]

theorem trim_congr (h : ∀ c ∈ text, sep c = sep' c) : trim sep text = trim sep' text := by
  unfold trim
  rw [dropWhile_congr h]
  congr 1
  apply dropWhile_congr
  intro c hc
  exact h c ((List.dropWhile_suffix sep').subset (List.mem_reverse.1 hc))

/-- Two ways to separate that agree on the text find the same words in it. -/
theorem words_congr (h : ∀ c ∈ text, sep c = sep' c) : words sep text = words sep' text := by
  unfold words
  rw [splitOnP_congr h]

end Words
