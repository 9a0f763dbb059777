import Mathlib.Data.List.Nodup

/-!
# Firsts — one pass that keeps what has not been seen

A pass over a list remembers the keys it has met and keeps an element only if its key is new. This
file says what is kept: the keys are the list's keys in the order of their first occurrence, each
once, and a second labelling of the kept elements is free of repeats exactly when it tells apart
whatever the keys tell apart.
-/

namespace Firsts

variable {α β γ : Type*} [DecidableEq β]

/-- The elements whose key is neither in `seen` nor borne by an earlier element. -/
def firsts (key : α → β) : List β → List α → List α
  | _, [] => []
  | seen, x :: xs =>
      if key x ∈ seen then firsts key seen xs else x :: firsts key (key x :: seen) xs

variable {key : α → β} {seen : List β} {x : α} {xs : List α}

theorem firsts_cons_of_seen (h : key x ∈ seen) (xs : List α) :
    firsts key seen (x :: xs) = firsts key seen xs := by
  simp [firsts, h]

theorem firsts_cons_of_fresh (h : key x ∉ seen) (xs : List α) :
    firsts key seen (x :: xs) = x :: firsts key (key x :: seen) xs := by
  simp [firsts, h]

/-- What is kept has a key that was not seen before the pass. -/
theorem mem_of_mem_firsts (h : x ∈ firsts key seen xs) : x ∈ xs ∧ key x ∉ seen := by
  induction xs generalizing seen with
  | nil => cases h
  | cons y ys ih =>
      by_cases hy : key y ∈ seen
      · have hmem := ih (firsts_cons_of_seen hy ys ▸ h)
        exact ⟨List.mem_cons_of_mem _ hmem.1, hmem.2⟩
      · rcases List.mem_cons.1 (firsts_cons_of_fresh hy ys ▸ h) with rfl | hrest
        · exact ⟨List.mem_cons_self, hy⟩
        · have hmem := ih hrest
          exact ⟨List.mem_cons_of_mem _ hmem.1, fun hx => hmem.2 (List.mem_cons_of_mem _ hx)⟩

/-- No key is lost: whoever is dropped shares its key with somebody who is kept. -/
theorem exists_mem_firsts (hx : x ∈ xs) (hfresh : key x ∉ seen) :
    ∃ y ∈ firsts key seen xs, key y = key x := by
  induction xs generalizing seen with
  | nil => cases hx
  | cons y ys ih =>
      by_cases hy : key y ∈ seen
      · rw [firsts_cons_of_seen hy]
        rcases List.mem_cons.1 hx with rfl | hx
        · exact absurd hy hfresh
        · exact ih hx hfresh
      · rw [firsts_cons_of_fresh hy]
        by_cases hsame : key x = key y
        · exact ⟨y, List.mem_cons_self, hsame.symm⟩
        · have hx' : x ∈ ys := by
            rcases List.mem_cons.1 hx with rfl | hx
            · exact absurd rfl hsame
            · exact hx
          have hfresh' : key x ∉ key y :: seen := by simp [hsame, hfresh]
          rcases ih hx' hfresh' with ⟨z, hz, heq⟩
          exact ⟨z, List.mem_cons_of_mem _ hz, heq⟩

theorem nodup_firsts (key : α → β) (seen : List β) (xs : List α) :
    ((firsts key seen xs).map key).Nodup := by
  induction xs generalizing seen with
  | nil => exact List.nodup_nil
  | cons y ys ih =>
      by_cases hy : key y ∈ seen
      · rw [firsts_cons_of_seen hy]
        exact ih seen
      · rw [firsts_cons_of_fresh hy]
        refine List.nodup_cons.2 ⟨?_, ih _⟩
        intro hmem
        rcases List.mem_map.1 hmem with ⟨z, hz, heq⟩
        exact (mem_of_mem_firsts hz).2 (heq ▸ List.mem_cons_self)

/-- The kept keys are the list's keys in the order of their first occurrence. -/
theorem map_firsts (key : α → β) (seen : List β) (xs : List α) :
    (firsts key seen xs).map key = ((xs.map key).filter fun k => decide (k ∉ seen)).eraseDups := by
  induction xs generalizing seen with
  | nil => rfl
  | cons y ys ih =>
      by_cases hy : key y ∈ seen
      · rw [firsts_cons_of_seen hy, ih seen]
        simp [hy]
      · -- The head is kept, and from there on its key counts as seen.
        calc
          (firsts key seen (y :: ys)).map key
              = key y :: ((ys.map key).filter fun k => decide (k ∉ key y :: seen)).eraseDups := by
                rw [firsts_cons_of_fresh hy, List.map_cons, ih]
          _ = (key y :: (ys.map key).filter fun k => decide (k ∉ seen)).eraseDups := by
                rw [List.eraseDups_cons, List.filter_filter]
                congr 2
                apply List.filter_congr
                intro k _
                by_cases hk : k = key y <;> simp [hk]
          _ = _ := by simp [hy]

/-- Keyed by themselves, the kept elements are the list without its later repeats. -/
theorem firsts_id (xs : List β) : firsts id [] xs = xs.eraseDups := by
  have hkeys := map_firsts id [] xs
  simpa using hkeys

/-- A labelling that depends on the key only is free of repeats on what is kept if and only if it
tells apart whatever the keys of the list tell apart. -/
theorem nodup_map_firsts_iff {f : α → γ} (hf : ∀ x y, key x = key y → f x = f y) :
    ((firsts key [] xs).map f).Nodup ↔ ∀ x ∈ xs, ∀ y ∈ xs, f x = f y → key x = key y := by
  have hkeys := nodup_firsts key [] xs
  constructor
  · intro hnodup x hx y hy hxy
    have hnone : ∀ k : β, k ∉ ([] : List β) := by simp
    rcases exists_mem_firsts hx (hnone (key x)) with ⟨x', hx', hxkey⟩
    rcases exists_mem_firsts hy (hnone (key y)) with ⟨y', hy', hykey⟩
    have hlabel : f x' = f y' := by
      calc
        f x' = f x := hf _ _ hxkey
        _ = f y := hxy
        _ = f y' := (hf _ _ hykey).symm
    have hsame : x' = y' := List.inj_on_of_nodup_map hnodup hx' hy' hlabel
    calc
      key x = key x' := hxkey.symm
      _ = key y' := congrArg key hsame
      _ = key y := hykey
  · intro hinj
    refine List.Nodup.map_on ?_ hkeys.of_map
    intro x hx y hy hxy
    apply List.inj_on_of_nodup_map hkeys hx hy
    exact hinj x (mem_of_mem_firsts hx).1 y (mem_of_mem_firsts hy).1 hxy

end Firsts
