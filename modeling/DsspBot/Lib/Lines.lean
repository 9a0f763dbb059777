import Mathlib.Data.List.Infix
import Mathlib.Data.List.Flatten

/-!
# Lines — texts whose lines end with a pair of letters

A line ends where the first letter of the pair is followed by the second. This file gives

* splitting a text at the pairs, and that putting the lines together again gives the text,
* when a text ends at its first empty line, in terms of its lines.
-/

namespace Lines

variable {α : Type*} (cr lf : α)

/-- Each line with its pair. -/
def join (lines : List (List α)) : List α :=
  lines.flatMap (· ++ [cr, lf])

/-- The text ends with the mark, and with its first one. -/
def EndsFirst (mark text : List α) : Prop :=
  mark <:+ text ∧ ∀ before, before <+: text → mark <:+ before → before = text

/-- The stretches between the pairs. -/
def split [DecidableEq α] : List α → List (List α)
  | [] => [[]]
  | [a] => [[a]]
  | a :: b :: rest =>
      if a = cr ∧ b = lf then [] :: split rest
      else (split (b :: rest)).modifyHead (a :: ·)

variable {cr lf} {text x y line : List α} {lines : List (List α)}

theorem join_append (front back : List (List α)) :
    join cr lf (front ++ back) = join cr lf front ++ join cr lf back :=
  List.flatMap_append

@[simp] theorem join_cons (line : List α) (lines : List (List α)) :
    join cr lf (line :: lines) = line ++ cr :: lf :: join cr lf lines := by
  simp [join]

theorem join_modifyHead (a : α) (h : lines ≠ []) :
    join cr lf (lines.modifyHead (a :: ·)) = a :: join cr lf lines := by
  cases lines with
  | nil => exact absurd rfl h
  | cons first rest => simp

theorem modifyHead_append {f : List α → List α} {front back : List (List α)} (h : front ≠ []) :
    (front ++ back).modifyHead f = front.modifyHead f ++ back := by
  cases front with
  | nil => exact absurd rfl h
  | cons first rest => rfl

variable [DecidableEq α]

theorem split_ne_nil (text : List α) : split cr lf text ≠ [] := by
  induction text using split.induct cr lf with
  | case1 => simp [split]
  | case2 a => simp [split]
  | case3 a b rest h ih => simp [split, h]
  | case4 a b rest h ih => simpa [split, h] using ih

/-- A pair splits a text wherever it stands. -/
theorem split_append (hne : cr ≠ lf) (x y : List α) :
    split cr lf (x ++ cr :: lf :: y) = split cr lf x ++ split cr lf y := by
  induction x using split.induct cr lf with
  | case1 => simp [split]
  | case2 a => simp [split, hne]
  | case3 a b rest h ih => simpa [split, h] using ih
  | case4 a b rest h ih =>
      calc split cr lf (a :: b :: rest ++ cr :: lf :: y)
          = (split cr lf (b :: rest ++ cr :: lf :: y)).modifyHead (a :: ·) := by simp [split, h]
        _ = (split cr lf (b :: rest) ++ split cr lf y).modifyHead (a :: ·) := by rw [ih]
        _ = (split cr lf (b :: rest)).modifyHead (a :: ·) ++ split cr lf y :=
          modifyHead_append (split_ne_nil _)
        _ = split cr lf (a :: b :: rest) ++ split cr lf y := by simp [split, h]

@[simp] theorem split_pair : split cr lf [cr, lf] = [[], []] := by
  simp [split]

theorem split_of_not_mem (h : cr ∉ line) : split cr lf line = [line] := by
  induction line using split.induct cr lf with
  | case1 => rfl
  | case2 a => rfl
  | case3 a b rest hpair ih => simp [hpair.1] at h
  | case4 a b rest hpair ih =>
      have hrest : cr ∉ b :: rest := fun hmem => h (List.mem_cons_of_mem a hmem)
      simp [split, hpair, ih hrest]

theorem join_split (text : List α) : join cr lf (split cr lf text) = text ++ [cr, lf] := by
  induction text using split.induct cr lf with
  | case1 => simp [split, join]
  | case2 a => simp [split, join]
  | case3 a b rest h ih => simp [split, h, ih]
  | case4 a b rest h ih =>
      have hjoin : join cr lf ((split cr lf (b :: rest)).modifyHead (a :: ·)) =
          a :: join cr lf (split cr lf (b :: rest)) :=
        join_modifyHead a (split_ne_nil (b :: rest))
      simpa [split, h, ih] using hjoin

/-- Lines without the first letter are split again where they were joined. -/
theorem split_join (hne : cr ≠ lf) (h : ∀ line ∈ lines, cr ∉ line) (text : List α) :
    split cr lf (join cr lf lines ++ text) = lines ++ split cr lf text := by
  induction lines with
  | nil => rfl
  | cons line lines ih =>
      rcases List.forall_mem_cons.1 h with ⟨hline, hlines⟩
      calc split cr lf (join cr lf (line :: lines) ++ text)
          = split cr lf (line ++ cr :: lf :: (join cr lf lines ++ text)) := by simp
        _ = split cr lf line ++ split cr lf (join cr lf lines ++ text) := split_append hne _ _
        _ = line :: lines ++ split cr lf text := by rw [split_of_not_mem hline, ih hlines]; rfl

theorem eq_nil_of_split (h : split cr lf text = [[]]) : text = [] := by
  have hjoin : join cr lf (split cr lf text) = text ++ [cr, lf] := join_split text
  rw [h] at hjoin
  simpa [join] using hjoin.symm

/-! ## Up to the first empty line -/

/-- A text that ends at its first empty line is its lines, none of them empty but perhaps the first,
and the empty one. -/
theorem split_of_endsFirst (hne : cr ≠ lf) (h : EndsFirst [cr, lf, cr, lf] text) :
    ∃ first lines, split cr lf text = first :: lines ++ [[], []] ∧ (∀ line ∈ lines, line ≠ []) ∧
      text = join cr lf (first :: lines) ++ [cr, lf] := by
  rcases h with ⟨⟨x, rfl⟩, hfirst⟩
  have hsome : split cr lf x ≠ [] := split_ne_nil x
  rcases List.exists_cons_of_ne_nil hsome with ⟨first, lines, hsplit⟩
  have hjoin : join cr lf (first :: lines) = x ++ [cr, lf] := hsplit ▸ join_split x
  refine ⟨first, lines, ?_, ?_, ?_⟩
  · calc split cr lf (x ++ [cr, lf, cr, lf])
        = split cr lf x ++ split cr lf [cr, lf] := split_append hne x [cr, lf]
      _ = first :: lines ++ [[], []] := by rw [hsplit, split_pair]
  · rintro line hline rfl
    -- An empty line further up would end the text there.
    rcases List.append_of_mem hline with ⟨before, after, rfl⟩
    have hlast : join cr lf (first :: before) = join cr lf (first :: before).dropLast ++
        (first :: before).getLast (List.cons_ne_nil _ _) ++ [cr, lf] := by
      conv_lhs => rw [← List.dropLast_append_getLast (List.cons_ne_nil first before), join_append]
      simp [join]
    have hearly : join cr lf (first :: before) ++ [cr, lf] <+: x ++ [cr, lf] := by
      refine ⟨join cr lf after, ?_⟩
      rw [← hjoin, ← List.cons_append, join_append]
      simp
    have hwhole := hfirst (join cr lf (first :: before) ++ [cr, lf])
      (hearly.trans ⟨[cr, lf], by simp⟩) ⟨join cr lf (first :: before).dropLast ++
        (first :: before).getLast (List.cons_ne_nil _ _), by rw [hlast]; simp⟩
    have hlength := hearly.length_le
    rw [hwhole] at hlength
    simp at hlength
  · rw [hjoin]
    simp

/-- Lines that are not empty make a text that ends at its first empty line. -/
theorem endsFirst_join (hne : cr ≠ lf) (hlines : lines ≠ [])
    (h : ∀ line ∈ lines, line ≠ [] ∧ cr ∉ line) :
    EndsFirst [cr, lf, cr, lf] (join cr lf lines ++ [cr, lf]) := by
  constructor
  · rcases List.eq_nil_or_concat lines with hnil | ⟨front, last, rfl⟩
    · exact absurd hnil hlines
    · exact ⟨join cr lf front ++ last, by simp [join]⟩
  · rintro before ⟨q, hq⟩ ⟨p, rfl⟩
    have hsplit : split cr lf p ++ [] :: split cr lf q = lines ++ [[], []] := by
      calc split cr lf p ++ [] :: split cr lf q
          = split cr lf (p ++ cr :: lf :: ([] ++ cr :: lf :: q)) := by
            rw [split_append hne, split_append hne]
            rfl
        _ = split cr lf (join cr lf lines ++ [cr, lf]) := by rw [← hq]; simp
        _ = lines ++ [[], []] := by
            rw [split_join hne fun line hline => (h line hline).2, split_pair]
    have hempty : split cr lf q = [[]] := by
      rcases List.append_eq_append_iff.1 hsplit with ⟨c, hc, hrest⟩ | ⟨c, hc, hrest⟩
      · -- The empty line would be one of the others.
        cases c with
        | nil => simpa using hrest
        | cons line c =>
            obtain ⟨rfl, -⟩ := List.cons.inj hrest
            have hmem : [] ∈ lines := hc ▸ List.mem_append_right _ List.mem_cons_self
            exact absurd rfl (h [] hmem).1
      · cases c with
        | nil => simpa using hrest.symm
        | cons line c =>
            obtain ⟨-, hrest⟩ := List.cons.inj hrest
            cases c with
            | nil => exact absurd (List.cons.inj hrest).2.symm (split_ne_nil q)
            | cons line' c => simp at hrest
    rw [eq_nil_of_split hempty] at hq
    simpa using hq

end Lines
