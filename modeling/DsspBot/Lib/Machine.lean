import Mathlib.Logic.Relation

/-!
# Machine — runs of a partial step function

A machine is a partial step `σ → ι → Option σ`. A run consumes a list of inputs; a state is
reached when some list of inputs leads to it, so every cut of a run is a reached state too.
This file gives

* composition of runs,
* the invariant rule and the termination rule,
* the run of one machine inside another,
* the states and the steps of one run, the invariant rule for steps of a kind, and when a property
  of the former is a condition on the latter,
* the rule for inputs that an image of the states does not notice,
* the rule for a procedure that takes effect in one step,
* the invariant rule of a relational specification.
-/

namespace Machine

variable {σ τ ι : Type*}

/-- Feed the inputs one by one; a refused input ends the run with nothing. -/
def run (step : σ → ι → Option σ) : σ → List ι → Option σ
  | s, [] => some s
  | s, i :: is => (step s i).bind fun s' => run step s' is

/-- Some list of inputs leads from `s` to `s'`. -/
def Reaches (step : σ → ι → Option σ) (s s' : σ) : Prop :=
  ∃ is, run step s is = some s'

variable {step : σ → ι → Option σ}

@[simp] theorem run_nil (s : σ) : run step s [] = some s := rfl

theorem run_cons (s : σ) (i : ι) (is : List ι) :
    run step s (i :: is) = (step s i).bind fun s' => run step s' is := rfl

theorem run_cons_of_step {s s' : σ} {i : ι} (h : step s i = some s') (is : List ι) :
    run step s (i :: is) = run step s' is := by
  simp [run_cons, h]

theorem run_append (s : σ) (is js : List ι) :
    run step s (is ++ js) = (run step s is).bind fun s' => run step s' js := by
  induction is generalizing s with
  | nil => simp
  | cons i is ih =>
      cases hstep : step s i with
      | none => simp [run_cons, hstep]
      | some s' => simpa [run_cons, hstep] using ih s'

theorem run_append_of_run {s s' : σ} {is : List ι} (h : run step s is = some s') (js : List ι) :
    run step s (is ++ js) = run step s' js := by
  simp [run_append, h]

namespace Reaches

theorem refl (s : σ) : Reaches step s s :=
  ⟨[], rfl⟩

theorem trans {s s' s'' : σ} (h : Reaches step s s') (h' : Reaches step s' s'') :
    Reaches step s s'' := by
  rcases h with ⟨is, his⟩
  rcases h' with ⟨js, hjs⟩
  exact ⟨is ++ js, by rw [run_append_of_run his, hjs]⟩

theorem single {s s' : σ} {i : ι} (h : step s i = some s') : Reaches step s s' :=
  ⟨[i], by simp [run_cons, h]⟩

theorem tail {s s' s'' : σ} {i : ι} (h : Reaches step s s') (h' : step s' i = some s'') :
    Reaches step s s'' :=
  h.trans (single h')

/-- The invariant rule: what every step preserves holds at every reached state. -/
theorem invariant {P : σ → Prop} (hstep : ∀ s i s', P s → step s i = some s' → P s')
    {s s' : σ} (hs : P s) (h : Reaches step s s') : P s' := by
  rcases h with ⟨is, his⟩
  -- The induction is on the inputs, from whatever state is left to start in.
  induction is generalizing s with
  | nil =>
      have heq : s = s' := by simpa using his
      exact heq ▸ hs
  | cons i is ih =>
      rcases Option.bind_eq_some_iff.1 his with ⟨middle, hmiddle, hrest⟩
      exact ih (hstep s i middle hs hmiddle) hrest

/-- A machine whose steps another machine can take on its own states runs inside it. -/
theorem lift {κ : Type*} {step' : τ → κ → Option τ} (f : σ → τ) (g : ι → κ)
    (hlift : ∀ s i s', step s i = some s' → step' (f s) (g i) = some (f s')) {s s' : σ}
    (h : Reaches step s s') : Reaches step' (f s) (f s') := by
  refine invariant (P := fun x => Reaches step' (f s) (f x)) ?_ (refl (f s)) h
  intro x i x' hx hstep
  exact hx.tail (hlift x i x' hstep)

end Reaches

/-! ## Along one run -/

/-- The termination rule: a run is no longer than what a measure has to spare. -/
theorem run_length_le {P : σ → Prop} {left : σ → Nat}
    (hkept : ∀ s i s', P s → step s i = some s' → P s')
    (hspent : ∀ s i s', P s → step s i = some s' → left s' < left s) {s s' : σ} {is : List ι}
    (hs : P s) (h : run step s is = some s') : is.length ≤ left s := by
  induction is generalizing s with
  | nil => exact Nat.zero_le _
  | cons i is ih =>
      rcases Option.bind_eq_some_iff.1 h with ⟨middle, hmiddle, hrest⟩
      calc
        (i :: is).length ≤ left middle + 1 :=
          Nat.succ_le_succ (ih (hkept s i middle hs hmiddle) hrest)
        _ ≤ left s := hspent s i middle hs hmiddle

/-- What every state of the run that these inputs make satisfies, the last one included. -/
def Throughout (step : σ → ι → Option σ) (P : σ → Prop) (s : σ) (is : List ι) : Prop :=
  ∀ before s', before <+: is → run step s before = some s' → P s'

/-- What every step of the run satisfies, told from the state it is taken in and its input. -/
def EachStep (step : σ → ι → Option σ) (C : σ → ι → Prop) (s : σ) (is : List ι) : Prop :=
  ∀ before i s', before ++ [i] <+: is → run step s before = some s' → C s' i

section Along

variable {P : σ → Prop} {C : σ → ι → Prop}

theorem Throughout.head {s : σ} {is : List ι} (h : Throughout step P s is) : P s :=
  h [] s List.nil_prefix rfl

theorem eachStep_nil (s : σ) : EachStep step C s [] := by
  intro before i s' hbefore _
  simp at hbefore

theorem throughout_cons {s s' : σ} {i : ι} (hstep : step s i = some s') (is : List ι) :
    Throughout step P s (i :: is) ↔ P s ∧ Throughout step P s' is := by
  constructor
  · intro h
    refine ⟨h.head, ?_⟩
    intro before s'' hbefore hrun
    exact h (i :: before) s'' ((List.prefix_cons_inj i).2 hbefore)
      ((run_cons_of_step hstep before).trans hrun)
  · rintro ⟨hs, hrest⟩ before s'' hbefore hrun
    cases before with
    | nil =>
        have heq : s = s'' := by simpa using hrun
        exact heq ▸ hs
    | cons j before =>
        rcases List.cons_prefix_cons.1 hbefore with ⟨rfl, htail⟩
        rw [run_cons_of_step hstep] at hrun
        exact hrest before s'' htail hrun

theorem eachStep_cons {s s' : σ} {i : ι} (hstep : step s i = some s') (is : List ι) :
    EachStep step C s (i :: is) ↔ C s i ∧ EachStep step C s' is := by
  constructor
  · intro h
    refine ⟨h [] i s (List.prefix_append [i] is) rfl, ?_⟩
    intro before j s'' hbefore hrun
    exact h (i :: before) j s'' ((List.prefix_cons_inj i).2 hbefore)
      ((run_cons_of_step hstep before).trans hrun)
  · rintro ⟨hs, hrest⟩ before j s'' hbefore hrun
    cases before with
    | nil =>
        have heq : s = s'' := by simpa using hrun
        have hij : j = i := by simpa using hbefore
        exact heq ▸ hij ▸ hs
    | cons k before =>
        rcases List.cons_prefix_cons.1 hbefore with ⟨rfl, htail⟩
        rw [run_cons_of_step hstep] at hrun
        exact hrest before j s'' htail hrun

theorem eachStep_cons_of_none {s : σ} {i : ι} (hstep : step s i = none) (is : List ι) :
    EachStep step C s (i :: is) ↔ C s i := by
  constructor
  · intro h
    exact h [] i s (List.prefix_append [i] is) rfl
  · intro h before j s'' hbefore hrun
    cases before with
    | nil =>
        have heq : s = s'' := by simpa using hrun
        have hij : j = i := by simpa using hbefore
        exact heq ▸ hij ▸ h
    | cons k before =>
        rcases List.cons_prefix_cons.1 hbefore with ⟨rfl, -⟩
        simp [run_cons, hstep] at hrun

/-- Whether every step is of a kind can be told by running. -/
instance decidableEachStep [∀ s i, Decidable (C s i)] :
    (s : σ) → (is : List ι) → Decidable (EachStep step C s is)
  | s, [] => .isTrue (eachStep_nil s)
  | s, i :: is =>
      match hstep : step s i with
      | none => decidable_of_iff (C s i) (eachStep_cons_of_none hstep is).symm
      | some s' =>
          have : Decidable (EachStep step C s' is) := decidableEachStep s' is
          decidable_of_iff (C s i ∧ EachStep step C s' is) (eachStep_cons hstep is).symm

theorem EachStep.imp {D : σ → ι → Prop} (hweaker : ∀ s i, C s i → D s i) {s : σ} {is : List ι}
    (h : EachStep step C s is) : EachStep step D s is :=
  fun before i s' hbefore hrun => hweaker s' i (h before i s' hbefore hrun)

/-- The invariant rule for the runs whose steps are all of a kind. -/
theorem EachStep.invariant
    (hkept : ∀ s i s', P s → C s i → step s i = some s' → P s') {s e : σ} {is : List ι}
    (h : EachStep step C s is) (hs : P s) (hrun : run step s is = some e) : P e := by
  induction is generalizing s with
  | nil =>
      have heq : s = e := by simpa using hrun
      exact heq ▸ hs
  | cons i is ih =>
      rcases Option.bind_eq_some_iff.1 hrun with ⟨s', hstep, hrest⟩
      have hboth := (eachStep_cons hstep is).1 h
      exact ih hboth.2 (hkept s i s' hs hboth.1 hstep) hrest

/-- The rule for a property that fails with the first step of a kind: an invariant implies it and
is kept by every other step, and a step of the kind leads from the invariant to where the property
fails. -/
theorem throughout_iff_eachStep {I : σ → Prop} (hprop : ∀ s, I s → P s)
    (hkept : ∀ s i s', I s → C s i → step s i = some s' → I s')
    (hbroken : ∀ s i s', I s → ¬C s i → step s i = some s' → ¬P s')
    {s e : σ} {is : List ι} (hs : I s) (hrun : run step s is = some e) :
    Throughout step P s is ↔ EachStep step C s is := by
  induction is generalizing s with
  | nil =>
      have hstates : Throughout step P s [] := by
        intro before s' hbefore hreached
        obtain rfl := List.prefix_nil.1 hbefore
        have heq : s = s' := by simpa using hreached
        exact heq ▸ hprop s hs
      exact iff_of_true hstates (eachStep_nil s)
  | cons i is ih =>
      rcases Option.bind_eq_some_iff.1 hrun with ⟨s', hstep, hrest⟩
      rw [throughout_cons hstep, eachStep_cons hstep]
      by_cases hcond : C s i
      · have htail := ih (hkept s i s' hs hcond hstep) hrest
        simp [hprop s hs, hcond, htail]
      · have hfail := hbroken s i s' hs hcond hstep
        refine iff_of_false ?_ ?_
        · exact fun h => hfail h.2.head
        · exact fun h => hcond h.1

end Along

/-! ## What an image does not notice -/

/-- An image of the states keeps up with the kept inputs under the condition, and notices no other
input. -/
structure Projects (step : σ → ι → Option σ) (step' : τ → ι → Option τ) (image : σ → τ)
    (kept : ι → Bool) (C : σ → ι → Prop) : Prop where
  follows : ∀ s i s', kept i = true → C s i → step s i = some s' →
    step' (image s) i = some (image s')
  unnoticed : ∀ s i s', kept i = false → step s i = some s' → image s' = image s

/-- The image of a run is a run without the inputs that it does not notice. -/
theorem Projects.run_filter {step' : τ → ι → Option τ} {image : σ → τ} {kept : ι → Bool}
    {C : σ → ι → Prop} (h : Projects step step' image kept C) {s s' : σ} {is : List ι}
    (hsteps : EachStep step C s is) (hrun : run step s is = some s') :
    run step' (image s) (is.filter kept) = some (image s') := by
  induction is generalizing s with
  | nil =>
      have heq : s = s' := by simpa using hrun
      rw [heq]
      rfl
  | cons i is ih =>
      rcases Option.bind_eq_some_iff.1 hrun with ⟨middle, hmiddle, hrest⟩
      rcases (eachStep_cons hmiddle is).1 hsteps with ⟨hcond, hlater⟩
      have htail := ih hlater hrest
      cases hkept : kept i with
      | true =>
          rw [List.filter_cons_of_pos hkept,
            run_cons_of_step (h.follows s i middle hkept hcond hmiddle)]
          exact htail
      | false =>
          rw [List.filter_cons_of_neg (by simp [hkept]),
            ← h.unnoticed s i middle hkept hmiddle]
          exact htail

/-! ## One step that counts -/

/-- Under an invariant, the view changes in the step that commits, and in no other. -/
structure CommitsAt {ο : Type*} (step : σ → ι → Option σ) (I : σ → Prop) (view : σ → ο)
    (committed : σ → Bool) (new : ο) : Prop where
  kept : ∀ s i s', I s → step s i = some s' → I s'
  moves : ∀ s i s', I s → step s i = some s' →
    committed s' = committed s ∧ view s' = view s ∨
      committed s = false ∧ committed s' = true ∧ view s' = new

/-- What is seen is the old until the procedure has committed, and the new from then on. -/
theorem CommitsAt.view_eq {ο : Type*} {I : σ → Prop} {view : σ → ο} {committed : σ → Bool}
    {new : ο} (h : CommitsAt step I view committed new) {s s' : σ} (hs : I s)
    (hopen : committed s = false) (hreaches : Reaches step s s') :
    I s' ∧ view s' = if committed s' then new else view s := by
  refine Reaches.invariant
    (P := fun x => I x ∧ view x = if committed x then new else view s) ?_ ?_ hreaches
  · rintro x i x' ⟨hx, hview⟩ hstep
    refine ⟨h.kept x i x' hx hstep, ?_⟩
    rcases h.moves x i x' hx hstep with ⟨hcommitted, hsame⟩ | ⟨-, hcommitted, hnew⟩
    · rw [hcommitted]
      exact hsame.trans hview
    · rw [hcommitted]
      exact hnew
  · exact ⟨hs, by simp [hopen]⟩

/-- The invariant rule for the moves of a specification. -/
theorem moves_invariant {Move : τ → τ → Prop} {P : τ → Prop}
    (hmove : ∀ l l', P l → Move l l' → P l') {l l' : τ} (hl : P l)
    (h : Relation.ReflTransGen Move l l') : P l' := by
  induction h with
  | refl => exact hl
  | tail _ hstep ih => exact hmove _ _ ih hstep

end Machine
