import Mathlib.Data.List.Basic

/-!
# Arrivals — bytes that arrive in pieces

A sender hands out its bytes in whatever pieces they arrived, and then says how it ended. This file
gives

* reading at most so many bytes, with the cut of the pieces as part of what arrives,
* what one read leaves: the bytes are only moved, and none is skipped,
* when two of them differ in their cuts only.
-/

structure Arrivals (α ε : Type*) where
  segments : List (List α)
  nonempty : ∀ segment ∈ segments, segment ≠ []
  ending : ε
  deriving DecidableEq

namespace Arrivals

variable {α ε : Type*}

/-- All that is still to come. -/
def rest (s : Arrivals α ε) : List α :=
  s.segments.flatten

/-- One read with room for `size` bytes. At the end it says how the stream ended. -/
def read (size : Nat) (s : Arrivals α ε) : Except ε (List α) × Arrivals α ε :=
  match s with
  | ⟨[], h, ending⟩ => (.error ending, ⟨[], h, ending⟩)
  | ⟨segment :: more, h, ending⟩ =>
      if hsize : size < segment.length then
        (.ok (segment.take size),
          { segments := segment.drop size :: more
            nonempty := by
              rcases List.forall_mem_cons.1 h with ⟨-, hmore⟩
              refine List.forall_mem_cons.2 ⟨?_, hmore⟩
              exact List.ne_nil_of_length_pos (by simpa using Nat.sub_pos_of_lt hsize)
            ending := ending })
      else
        (.ok segment,
          { segments := more, nonempty := (List.forall_mem_cons.1 h).2, ending := ending })

/-- The same bytes before the same end, however they are cut. -/
structure Alike (s s' : Arrivals α ε) : Prop where
  rest : s.rest = s'.rest
  ending : s.ending = s'.ending

/-- What a read with room for some bytes returns and leaves. -/
inductive Reads (size : Nat) (s : Arrivals α ε) : Except ε (List α) → Arrivals α ε → Prop
  | ended (hrest : s.rest = []) : Reads size s (.error s.ending) s
  | piece {piece : List α} {s' : Arrivals α ε} (hsome : piece ≠ []) (hsize : piece.length ≤ size)
      (hrest : s.rest = piece ++ s'.rest) (hending : s'.ending = s.ending) :
      Reads size s (.ok piece) s'

theorem read_cases {size : Nat} (hsize : 0 < size) (s : Arrivals α ε) :
    s.Reads size (s.read size).1 (s.read size).2 := by
  rcases s with ⟨segments, h, ending⟩
  cases segments with
  | nil => exact .ended rfl
  | cons segment more =>
      have hsegment : segment ≠ [] := (List.forall_mem_cons.1 h).1
      by_cases hlong : size < segment.length
      · simp only [read, hlong, dif_pos]
        refine .piece ?_ (List.length_take_le size segment) ?_ rfl
        · refine List.ne_nil_of_length_pos ?_
          rw [List.length_take]
          exact Nat.lt_min.2 ⟨hsize, List.length_pos_of_ne_nil hsegment⟩
        · simp [rest, ← List.append_assoc]
      · simp only [read, hlong, dif_neg, not_false_eq_true]
        exact .piece hsegment (Nat.le_of_not_lt hlong) (by simp [rest]) rfl

end Arrivals
