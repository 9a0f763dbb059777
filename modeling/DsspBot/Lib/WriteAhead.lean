import Mathlib.Data.List.Nodup
import DsspBot.Lib.Machine

/-!
# WriteAhead — a work ledger that writes before it hands over

An agent works through a list of tasks by handing each one to an outside party and waiting for
an answer. What it knows is volatile; what it saved survives a crash. The discipline is that a
task is handed over only while the last save names it as open. This file states the discipline
as a transition relation over arbitrary tasks and answers, and proves what it buys:

* the tasks stay partitioned, in order, into closed, open and waiting;
* a task is handed over again only after answers that allow it;
* what the last save offers as unsent is a suffix of the tasks, and none of it was handed over.
-/

namespace WriteAhead

variable {α ρ : Type*}

/-- What the outside party sees. -/
inductive Event (α ρ : Type*)
  | handed (task : α)
  | answered (task : α) (reply : ρ)

/-- The task being worked on, the answers it got, and whether one is outstanding. -/
structure Opened (α ρ : Type*) where
  task : α
  replies : List ρ
  awaiting : Bool

/-- What a save writes down. -/
structure Picture (α ρ : Type*) where
  closed : List (α × List ρ)
  opened : Option α
  waiting : List α

structure Ledger (α ρ : Type*) where
  closed : List (α × List ρ)
  opened : Option (Opened α ρ)
  waiting : List α
  trace : List (Event α ρ)
  saved : Option (Picture α ρ)

/-- Which answers allow handing the task over again, which end all work, and how often a task
may be handed over. -/
structure Policy (ρ : Type*) where
  again : ρ → Prop
  halts : ρ → Prop
  limit : Nat
  halts_final : ∀ r, halts r → ¬again r

/-! ## Pictures -/

namespace Picture

variable (p : Picture α ρ)

/-- Closed without ever being handed over. -/
def skipped : List α :=
  (p.closed.filter fun e => e.2.isEmpty).map Prod.fst

/-- Closed with at least one answer. -/
def worked : List α :=
  (p.closed.filter fun e => !e.2.isEmpty).map Prod.fst

/-- What the picture offers as never handed over. -/
def unsent : List α :=
  p.skipped ++ p.waiting

/-- What the picture gives up on: worked, or possibly in the outside party's hands. -/
def touched : List α :=
  p.worked ++ p.opened.toList

def tasks : List α :=
  p.closed.map Prod.fst ++ p.opened.toList ++ p.waiting

/-- Skipped tasks are closed last, and never while one is open. -/
structure Ordered : Prop where
  split : ∃ done rest, p.closed = done ++ rest ∧ (∀ e ∈ done, e.2 ≠ []) ∧ ∀ e ∈ rest, e.2 = []
  opened_worked : p.opened ≠ none → ∀ e ∈ p.closed, e.2 ≠ []

/-- The tasks are what is given up followed by what is offered, in order. -/
theorem Ordered.tasks_eq {p : Picture α ρ} (h : p.Ordered) : p.tasks = p.touched ++ p.unsent := by
  rcases h.split with ⟨done, rest, hclosed, hdone, hrest⟩
  -- The two filters separate exactly where the closed tasks stop being worked.
  have hworked : p.worked = done.map Prod.fst := by
    have h₁ : (done.filter fun e => !e.2.isEmpty) = done :=
      List.filter_eq_self.2 fun e he => by simpa using hdone e he
    have h₂ : (rest.filter fun e => !e.2.isEmpty) = [] :=
      List.filter_eq_nil_iff.2 fun e he => by simp [hrest e he]
    simp [worked, hclosed, h₁, h₂]
  have hskipped : p.skipped = rest.map Prod.fst := by
    have h₁ : (done.filter fun e => e.2.isEmpty) = [] :=
      List.filter_eq_nil_iff.2 fun e he => by simpa using hdone e he
    have h₂ : (rest.filter fun e => e.2.isEmpty) = rest :=
      List.filter_eq_self.2 fun e he => by simp [hrest e he]
    simp [skipped, hclosed, h₁, h₂]
  cases hopened : p.opened with
  | none => simp [tasks, touched, unsent, hworked, hskipped, hclosed, hopened]
  | some t =>
      -- An open task leaves no room for skipped ones before it.
      have hnil : rest = [] := by
        apply List.eq_nil_iff_forall_not_mem.2
        intro e he
        have hmem : e ∈ p.closed := by simp [hclosed, he]
        exact h.opened_worked (by simp [hopened]) e hmem (hrest e he)
      simp [tasks, touched, unsent, hworked, hskipped, hclosed, hopened, hnil]

theorem mem_unsent {t : α} :
    t ∈ p.unsent ↔ (∃ e ∈ p.closed, e.1 = t ∧ e.2 = []) ∨ t ∈ p.waiting := by
  simp [unsent, skipped, and_comm]

theorem mem_worked {t : α} : t ∈ p.worked ↔ ∃ e ∈ p.closed, e.1 = t ∧ e.2 ≠ [] := by
  simp [worked, and_comm]

end Picture

/-! ## Histories -/

section Histories

variable [DecidableEq α]

/-- How often a task was handed over. -/
def hands (t : α) (trace : List (Event α ρ)) : Nat :=
  trace.countP fun
    | .handed t' => decide (t' = t)
    | .answered _ _ => false

/-- The answers a task got, in order. -/
def answers (t : α) (trace : List (Event α ρ)) : List ρ :=
  trace.filterMap fun
    | .handed _ => none
    | .answered t' r => if t' = t then some r else none

@[simp] theorem hands_nil (t : α) : hands t ([] : List (Event α ρ)) = 0 := rfl

@[simp] theorem answers_nil (t : α) : answers t ([] : List (Event α ρ)) = [] := rfl

@[simp] theorem hands_handed (t t' : α) (trace : List (Event α ρ)) :
    hands t (trace ++ [.handed t']) = hands t trace + if t' = t then 1 else 0 := by
  simp [hands]

@[simp] theorem hands_answered (t t' : α) (r : ρ) (trace : List (Event α ρ)) :
    hands t (trace ++ [.answered t' r]) = hands t trace := by
  simp [hands]

@[simp] theorem answers_handed (t t' : α) (trace : List (Event α ρ)) :
    answers t (trace ++ [.handed t']) = answers t trace := by
  simp [answers]

@[simp] theorem answers_answered (t t' : α) (r : ρ) (trace : List (Event α ρ)) :
    answers t (trace ++ [.answered t' r]) = answers t trace ++ if t' = t then [r] else [] := by
  by_cases h : t' = t <;> simp [answers, h]

theorem hands_pos_iff {t : α} {trace : List (Event α ρ)} :
    0 < hands t trace ↔ Event.handed t ∈ trace := by
  unfold hands
  rw [List.countP_pos_iff]
  constructor
  · rintro ⟨e, he, h⟩
    cases e with
    | handed t' =>
        have heq : t' = t := by simpa using h
        exact heq ▸ he
    | answered t' r => simp at h
  · intro h
    exact ⟨_, h, by simp⟩

theorem mem_answers_iff {t : α} {r : ρ} {trace : List (Event α ρ)} :
    r ∈ answers t trace ↔ Event.answered t r ∈ trace := by
  unfold answers
  rw [List.mem_filterMap]
  constructor
  · rintro ⟨e, he, h⟩
    cases e with
    | handed t' => simp at h
    | answered t' r' =>
        have heq : t' = t ∧ r' = r := by
          by_cases ht : t' = t <;> simp [ht] at h ⊢
          exact h
        rcases heq with ⟨rfl, rfl⟩
        exact he
  · intro h
    exact ⟨_, h, by simp⟩

end Histories

/-! ## The discipline -/

namespace Ledger

/-- A ledger before any work. -/
def start (tasks : List α) : Ledger α ρ :=
  { closed := [], opened := none, waiting := tasks, trace := [], saved := none }

def picture (l : Ledger α ρ) : Picture α ρ :=
  { closed := l.closed, opened := l.opened.map (·.task), waiting := l.waiting }

end Ledger

inductive Move (P : Policy ρ) : Ledger α ρ → Ledger α ρ → Prop
  /-- Open the next task, unless one was skipped or an answer ended all work. -/
  | take {l : Ledger α ρ} {t : α} {w : List α} (hopened : l.opened = none)
      (hwaiting : l.waiting = t :: w)
      (hclosed : ∀ e ∈ l.closed, e.2 ≠ [] ∧ ∀ r ∈ e.2, ¬P.halts r) :
      Move P l { l with opened := some ⟨t, [], false⟩, waiting := w }
  /-- Put an untouched task back at the front. -/
  | giveBack {l : Ledger α ρ} {t : α} (hopened : l.opened = some ⟨t, [], false⟩) :
      Move P l { l with opened := none, waiting := t :: l.waiting }
  /-- Save the present picture, between tasks or before the open one is handed over. -/
  | save {l : Ledger α ρ}
      (hquiet : ∀ o, l.opened = some o → o.replies = [] ∧ o.awaiting = false) :
      Move P l { l with saved := some l.picture }
  /-- Hand the open task over: the last save names it, and every answer so far allows it. -/
  | hand {l : Ledger α ρ} {t : α} {h : List ρ} (hopened : l.opened = some ⟨t, h, false⟩)
      (hsaved : ∃ p, l.saved = some p ∧ p.opened = some t)
      (hagain : ∀ r ∈ h, P.again r) (hlimit : h.length < P.limit) :
      Move P l { l with opened := some ⟨t, h, true⟩, trace := l.trace ++ [.handed t] }
  | answer {l : Ledger α ρ} {t : α} {h : List ρ} {r : ρ}
      (hopened : l.opened = some ⟨t, h, true⟩) :
      Move P l
        { l with opened := some ⟨t, h ++ [r], false⟩, trace := l.trace ++ [.answered t r] }
  /-- Close the open task with the answers it got, possibly none. -/
  | settle {l : Ledger α ρ} {t : α} {h : List ρ} (hopened : l.opened = some ⟨t, h, false⟩) :
      Move P l { l with opened := none, closed := l.closed ++ [(t, h)] }
  /-- Close everything that waits without working it. -/
  | drain {l : Ledger α ρ} (hopened : l.opened = none) :
      Move P l { l with closed := l.closed ++ l.waiting.map fun t => (t, []), waiting := [] }

abbrev Moves (P : Policy ρ) : Ledger α ρ → Ledger α ρ → Prop :=
  Relation.ReflTransGen (Move P)

/-- What is closed stays closed, as it was. -/
theorem Move.closed_prefix {P : Policy ρ} {l l' : Ledger α ρ} (h : Move P l l') :
    l.closed <+: l'.closed := by
  cases h with
  | settle _ => exact List.prefix_append _ _
  | drain _ => exact List.prefix_append _ _
  | take _ _ _ => exact List.prefix_rfl
  | giveBack _ => exact List.prefix_rfl
  | save _ => exact List.prefix_rfl
  | hand _ _ _ _ => exact List.prefix_rfl
  | answer _ => exact List.prefix_rfl

/-! ## The order of the tasks -/

/-- The tasks stay partitioned, in their order, and skipped ones are closed last. -/
structure Arranged (P : Policy ρ) (tasks : List α) (l : Ledger α ρ) : Prop where
  order : l.picture.tasks = tasks
  ordered : l.picture.Ordered
  opened_halt_free : l.opened ≠ none → ∀ e ∈ l.closed, ∀ r ∈ e.2, ¬P.halts r

theorem arranged_start (P : Policy ρ) (tasks : List α) :
    Arranged P tasks (Ledger.start tasks : Ledger α ρ) where
  order := by simp [Ledger.picture, Ledger.start, Picture.tasks]
  ordered :=
    ⟨⟨[], [], by simp [Ledger.picture, Ledger.start]⟩, by simp [Ledger.picture, Ledger.start]⟩
  opened_halt_free := by simp [Ledger.start]

/-- Appending a closed task keeps the shape when all before it were worked. -/
theorem split_snoc {closed : List (α × List ρ)} (h : ∀ e ∈ closed, e.2 ≠ []) (e : α × List ρ) :
    ∃ done rest, closed ++ [e] = done ++ rest ∧ (∀ e ∈ done, e.2 ≠ []) ∧ ∀ e ∈ rest, e.2 = [] := by
  by_cases he : e.2 = []
  · exact ⟨closed, [e], rfl, h, by simpa using he⟩
  · refine ⟨closed ++ [e], [], by simp, ?_, by simp⟩
    intro x hx
    rcases List.mem_append.1 hx with hx | hx
    · exact h x hx
    · have heq : x = e := by simpa using hx
      exact heq ▸ he

theorem Arranged.move {P : Policy ρ} {tasks : List α} {l l' : Ledger α ρ}
    (h : Arranged P tasks l) (hmove : Move P l l') : Arranged P tasks l' := by
  rcases h with ⟨horder, hordered, hfree⟩
  cases hmove with
  | take hopened hwaiting hclosed =>
      refine ⟨?_, ⟨hordered.split, fun _ e he => (hclosed e he).1⟩, fun _ e he => (hclosed e he).2⟩
      simpa [Ledger.picture, Picture.tasks, hopened, hwaiting] using horder
  | giveBack hopened =>
      -- Put back at the front, the task is where it was before it was opened.
      refine ⟨?_, ⟨hordered.split, by simp [Ledger.picture]⟩, by simp⟩
      simpa [Ledger.picture, Picture.tasks, hopened] using horder
  | save hquiet => exact ⟨horder, hordered, hfree⟩
  | hand hopened hsaved hagain hlimit =>
      have hworked := hordered.opened_worked (by simp [Ledger.picture, hopened])
      refine ⟨?_, ⟨hordered.split, fun _ => hworked⟩, fun _ => hfree (by simp [hopened])⟩
      simpa [Ledger.picture, Picture.tasks, hopened] using horder
  | answer hopened =>
      have hworked := hordered.opened_worked (by simp [Ledger.picture, hopened])
      refine ⟨?_, ⟨hordered.split, fun _ => hworked⟩, fun _ => hfree (by simp [hopened])⟩
      simpa [Ledger.picture, Picture.tasks, hopened] using horder
  | @settle t h hopened =>
      have hworked := hordered.opened_worked (by simp [Ledger.picture, hopened])
      -- A task closed without an answer starts the skipped part, any other extends the worked one.
      refine ⟨?_, ⟨split_snoc hworked (t, h), by simp [Ledger.picture]⟩, by simp⟩
      simpa [Ledger.picture, Picture.tasks, hopened] using horder
  | drain hopened =>
      -- Everything drained goes behind what was skipped before.
      rcases hordered.split with ⟨done, rest, hclosed, hdone, hrest⟩
      have hclosed' : l.closed = done ++ rest := hclosed
      refine ⟨?_, ⟨⟨done, rest ++ l.waiting.map fun t => (t, []), ?_, hdone, ?_⟩, ?_⟩, ?_⟩
      · simpa [Ledger.picture, Picture.tasks, hopened, Function.comp_def] using horder
      · simp [Ledger.picture, hclosed']
      · intro e he
        rcases List.mem_append.1 he with he | he
        · exact hrest e he
        · rcases List.mem_map.1 he with ⟨t, -, rfl⟩
          rfl
      · simp [Ledger.picture, hopened]
      · simp [hopened]

theorem Arranged.opened_mem {P : Policy ρ} {tasks : List α} {l : Ledger α ρ}
    (h : Arranged P tasks l) {o : Opened α ρ} (hopened : l.opened = some o) : o.task ∈ tasks := by
  have hmem : o.task ∈ l.picture.tasks := by
    simp [Ledger.picture, Picture.tasks, hopened]
  simpa [h.order] using hmem

theorem Arranged.open_apart {P : Policy ρ} {tasks : List α} {l : Ledger α ρ}
    (h : Arranged P tasks l) (hnodup : tasks.Nodup) {o : Opened α ρ} (hopened : l.opened = some o) :
    (∀ e ∈ l.closed, e.1 ≠ o.task) ∧ ∀ t ∈ l.waiting, t ≠ o.task := by
  -- The three parts are disjoint because together they list distinct tasks.
  have horder : l.closed.map Prod.fst ++ o.task :: l.waiting = tasks := by
    simpa [Ledger.picture, Picture.tasks, hopened] using h.order
  rw [← horder] at hnodup
  have hparts := List.nodup_append.1 hnodup
  constructor
  · intro e he
    exact hparts.2.2 e.1 (List.mem_map_of_mem he) o.task (by simp)
  · intro t ht heq
    exact (List.nodup_cons.1 hparts.2.1).1 (heq ▸ ht)

theorem Arranged.cover {P : Policy ρ} {tasks : List α} {l : Ledger α ρ}
    (h : Arranged P tasks l) {t : α} (ht : t ∈ tasks) :
    (∃ e ∈ l.closed, e.1 = t) ∨ (∃ o, l.opened = some o ∧ o.task = t) ∨ t ∈ l.waiting := by
  rw [← h.order] at ht
  have hcases :
      (∃ e ∈ l.closed, e.1 = t) ∨ t ∈ (l.opened.map (·.task)).toList ∨ t ∈ l.waiting := by
    simpa [Ledger.picture, Picture.tasks, or_assoc] using ht
  rcases hcases with hclosed | hopened | hwaiting
  · exact Or.inl hclosed
  · right; left
    simpa using hopened
  · exact Or.inr (Or.inr hwaiting)

/-! ## What the last save is worth -/

/-- Nothing is handed over before the first save, and the last save tells worked from unsent. -/
structure Kept (tasks : List α) (l : Ledger α ρ) : Prop where
  unsaved : l.saved = none → ∀ t, Event.handed t ∉ l.trace
  tasks_eq : ∀ p, l.saved = some p → p.tasks = tasks
  ordered : ∀ p, l.saved = some p → p.Ordered
  unsent : ∀ p, l.saved = some p → ∀ t ∈ p.unsent, Event.handed t ∉ l.trace
  worked : ∀ p, l.saved = some p → ∀ t ∈ p.worked, Event.handed t ∈ l.trace
  closed : ∀ p, l.saved = some p → p.closed <+: l.closed

theorem kept_start (tasks : List α) : Kept tasks (Ledger.start tasks : Ledger α ρ) where
  unsaved := by simp [Ledger.start]
  tasks_eq := by simp [Ledger.start]
  ordered := by simp [Ledger.start]
  unsent := by simp [Ledger.start]
  worked := by simp [Ledger.start]
  closed := by simp [Ledger.start]

/-- A picture's open task is not among the tasks it offers. -/
theorem Picture.opened_not_unsent {p : Picture α ρ} (h : p.Ordered) (hnodup : p.tasks.Nodup)
    {t : α} (hopened : p.opened = some t) : t ∉ p.unsent := by
  rw [h.tasks_eq] at hnodup
  intro hmem
  exact (List.nodup_append.1 hnodup).2.2 t (by simp [Picture.touched, hopened]) t hmem rfl

/-! ## What each task went through -/

section Tracking

variable [DecidableEq α]

/-- A task not outstanding: as many hands as answers, and all but the last answer allowed
another. -/
structure History (P : Policy ρ) (t : α) (h : List ρ) (trace : List (Event α ρ)) : Prop where
  hands_eq : hands t trace = h.length
  answers_eq : answers t trace = h
  again : ∀ r ∈ h.dropLast, P.again r
  within : h.length ≤ P.limit

/-- A task in the outside party's hands. -/
structure Outstanding (P : Policy ρ) (t : α) (h : List ρ) (trace : List (Event α ρ)) : Prop where
  hands_eq : hands t trace = h.length + 1
  answers_eq : answers t trace = h
  again : ∀ r ∈ h, P.again r
  within : h.length < P.limit

/-- What happens to one task leaves the history of the others alone. -/
theorem History.frame {P : Policy ρ} {t t' : α} {h : List ρ} {trace : List (Event α ρ)}
    (hist : History P t h trace) (hne : t ≠ t') {e : Event α ρ}
    (he : e = .handed t' ∨ ∃ r, e = .answered t' r) : History P t h (trace ++ [e]) := by
  rcases hist with ⟨hhands, hanswers, hagain, hwithin⟩
  rcases he with rfl | ⟨r, rfl⟩
  · exact ⟨by simpa [hne.symm] using hhands, by simpa using hanswers, hagain, hwithin⟩
  · exact ⟨by simpa using hhands, by simpa [hne.symm] using hanswers, hagain, hwithin⟩

/-- Every task of the ledger has the history the ledger says it has. -/
structure Tracked (P : Policy ρ) (tasks : List α) (l : Ledger α ρ) : Prop where
  closed : ∀ e ∈ l.closed, History P e.1 e.2 l.trace
  opened : ∀ t h, l.opened = some ⟨t, h, false⟩ → History P t h l.trace
  outstanding : ∀ t h, l.opened = some ⟨t, h, true⟩ → Outstanding P t h l.trace
  waiting : ∀ t ∈ l.waiting, History P t [] l.trace
  known : ∀ t, Event.handed t ∈ l.trace ∨ (∃ r, Event.answered t r ∈ l.trace) → t ∈ tasks

theorem tracked_start (P : Policy ρ) (tasks : List α) :
    Tracked P tasks (Ledger.start tasks : Ledger α ρ) where
  closed := by simp [Ledger.start]
  opened := by simp [Ledger.start]
  outstanding := by simp [Ledger.start]
  waiting := fun t _ => ⟨rfl, rfl, by simp, Nat.zero_le _⟩
  known := by simp [Ledger.start]

theorem Tracked.move {P : Policy ρ} {tasks : List α} {l l' : Ledger α ρ} (hnodup : tasks.Nodup)
    (ha : Arranged P tasks l) (h : Tracked P tasks l) (hmove : Move P l l') :
    Tracked P tasks l' := by
  rcases h with ⟨hclosed, hopen, hout, hwait, hknown⟩
  cases hmove with
  | @take t w hopened hwaiting _ =>
      refine ⟨hclosed, ?_, by simp, ?_, hknown⟩
      · intro t' h' heq
        have hparts : t = t' ∧ [] = h' := by simpa using heq
        rcases hparts with ⟨rfl, rfl⟩
        exact hwait t (by simp [hwaiting])
      · intro t' ht'
        exact hwait t' (by simp [hwaiting, ht'])
  | @giveBack t hopened =>
      refine ⟨hclosed, by simp, by simp, ?_, hknown⟩
      intro t' ht'
      rcases List.mem_cons.1 ht' with rfl | ht'
      · exact hopen _ _ hopened
      · exact hwait t' ht'
  | save hquiet => exact ⟨hclosed, hopen, hout, hwait, hknown⟩
  | @hand t h hopened hsaved hagain hlimit =>
      -- One more hand of the open task, and nobody else's count moves.
      have hapart := ha.open_apart hnodup hopened
      have hist := hopen t h hopened
      refine ⟨?_, by simp, ?_, ?_, ?_⟩
      · intro e he
        exact (hclosed e he).frame (hapart.1 e he) (Or.inl rfl)
      · intro t' h' heq
        have hparts : t = t' ∧ h = h' := by simpa using heq
        rcases hparts with ⟨rfl, rfl⟩
        exact ⟨by simp [hist.hands_eq], by simpa using hist.answers_eq, hagain, hlimit⟩
      · intro t' ht'
        exact (hwait t' ht').frame (hapart.2 t' ht') (Or.inl rfl)
      · intro t' ht'
        by_cases heq : t' = t
        · exact heq ▸ ha.opened_mem hopened
        · exact hknown t' (by simpa [heq] using ht')
  | @answer t h r hopened =>
      -- The answer makes the two counts equal again.
      have hapart := ha.open_apart hnodup hopened
      have hist := hout t h hopened
      refine ⟨?_, ?_, by simp, ?_, ?_⟩
      · intro e he
        exact (hclosed e he).frame (hapart.1 e he) (Or.inr ⟨r, rfl⟩)
      · intro t' h' heq
        have hparts : t = t' ∧ h ++ [r] = h' := by simpa using heq
        rcases hparts with ⟨rfl, rfl⟩
        refine ⟨by simp [hist.hands_eq], by simp [hist.answers_eq], ?_, ?_⟩
        · simpa using hist.again
        · simpa [Nat.succ_le_iff] using hist.within
      · intro t' ht'
        exact (hwait t' ht').frame (hapart.2 t' ht') (Or.inr ⟨r, rfl⟩)
      · intro t' ht'
        by_cases heq : t' = t
        · exact heq ▸ ha.opened_mem hopened
        · exact hknown t' (by simpa [heq] using ht')
  | @settle t h hopened =>
      refine ⟨?_, by simp, by simp, hwait, hknown⟩
      intro e he
      rcases List.mem_append.1 he with he | he
      · exact hclosed e he
      · have heq : e = (t, h) := by simpa using he
        subst heq
        exact hopen t h hopened
  | drain hopened =>
      refine ⟨?_, by simp [hopened], by simp [hopened], by simp, hknown⟩
      intro e he
      rcases List.mem_append.1 he with he | he
      · exact hclosed e he
      · rcases List.mem_map.1 he with ⟨t, ht, rfl⟩
        -- A drained task keeps the empty history it waited with.
        exact hwait t ht

/-- The save discipline keeps the picture honest. -/
theorem Kept.move {P : Policy ρ} {tasks : List α} {l l' : Ledger α ρ} (hnodup : tasks.Nodup)
    (ha : Arranged P tasks l) (ht : Tracked P tasks l) (h : Kept tasks l) (hmove : Move P l l') :
    Kept tasks l' := by
  rcases h with ⟨hunsaved, htasks, hordered, hunsent, hworked, hclosed⟩
  cases hmove with
  | take _ _ _ => exact ⟨hunsaved, htasks, hordered, hunsent, hworked, hclosed⟩
  | giveBack _ => exact ⟨hunsaved, htasks, hordered, hunsent, hworked, hclosed⟩
  | settle _ =>
      exact ⟨hunsaved, htasks, hordered, hunsent, hworked,
        fun p hp => (hclosed p hp).trans (List.prefix_append _ _)⟩
  | drain _ =>
      exact ⟨hunsaved, htasks, hordered, hunsent, hworked,
        fun p hp => (hclosed p hp).trans (List.prefix_append _ _)⟩
  | save hquiet =>
      -- The new picture is the present one, so each clause is read off the histories.
      refine ⟨by simp, ?_, ?_, ?_, ?_, ?_⟩
      · rintro p heq
        cases heq
        exact ha.order
      · rintro p heq
        cases heq
        exact ha.ordered
      · rintro p heq t hmem
        cases heq
        have hzero : hands t l.trace = 0 := by
          rcases (Picture.mem_unsent _).1 hmem with ⟨e, he, rfl, hnil⟩ | hwaiting
          · simpa [hnil] using (ht.closed e he).hands_eq
          · simpa using (ht.waiting t hwaiting).hands_eq
        intro hhanded
        exact absurd hzero (Nat.ne_of_gt (hands_pos_iff.2 hhanded))
      · rintro p heq t hmem
        cases heq
        rcases (Picture.mem_worked _).1 hmem with ⟨e, he, rfl, hne⟩
        have hist := ht.closed e he
        rw [← hands_pos_iff, hist.hands_eq]
        exact List.length_pos_iff.2 hne
      · rintro p heq
        cases heq
        exact List.prefix_rfl
  | @hand t h hopened hsaved hagain hlimit =>
      -- Only the open task can become handed over, and the saved picture does not offer it.
      rcases hsaved with ⟨p₀, hp₀, hp₀open⟩
      refine ⟨fun hnone => ?_, htasks, hordered, ?_, ?_, hclosed⟩
      · have hnone' : l.saved = none := hnone
        simp [hp₀] at hnone'
      · intro p hp t' hmem hhanded
        have hp' : l.saved = some p := hp
        have heq : p = p₀ := by simpa [hp₀, eq_comm] using hp'
        subst heq
        have hnot := Picture.opened_not_unsent (hordered p hp') (by rw [htasks p hp']; exact hnodup)
          hp₀open
        rcases List.mem_append.1 hhanded with hold | hnew
        · exact hunsent p hp' t' hmem hold
        · have heq : t' = t := by simpa using hnew
          exact hnot (heq ▸ hmem)
      · intro p hp t' hmem
        exact List.mem_append_left _ (hworked p hp t' hmem)
  | @answer t h r hopened =>
      refine ⟨fun hnone t' => ?_, htasks, hordered, ?_, ?_, hclosed⟩
      · simpa using hunsaved hnone t'
      · intro p hp t' hmem
        simpa using hunsent p hp t' hmem
      · intro p hp t' hmem
        exact List.mem_append_left _ (hworked p hp t' hmem)

/-! ## When a task may be handed over again -/

/-- An earlier answer that a later hand-over respects. -/
def Respects (P : Policy ρ) : Event α ρ → Event α ρ → Prop
  | .answered t r, .handed t' => (t = t' → P.again r) ∧ ¬P.halts r
  | _, _ => True

/-- Everything the discipline keeps. -/
structure Sound (P : Policy ρ) (tasks : List α) (l : Ledger α ρ) : Prop where
  arranged : Arranged P tasks l
  tracked : Tracked P tasks l
  kept : Kept tasks l
  respects : l.trace.Pairwise (Respects P)

/-- At a hand-over no answer in the trace forbids it. -/
theorem respects_at_hand {P : Policy ρ} {tasks : List α} {l : Ledger α ρ} (h : Sound P tasks l)
    {t : α} {replies : List ρ} (hopened : l.opened = some ⟨t, replies, false⟩)
    (hagain : ∀ r ∈ replies, P.again r) : ∀ e ∈ l.trace, Respects P e (.handed t) := by
  intro e he
  cases e with
  | handed t' => trivial
  | answered t' r =>
      have hmem : r ∈ answers t' l.trace := mem_answers_iff.2 he
      have hfree := h.arranged.opened_halt_free (by simp [hopened])
      have hhist := h.tracked.opened t replies hopened
      have hknown := h.tracked.known t' (Or.inr ⟨r, he⟩)
      have hopenAgain : t' = t → P.again r := by
        rintro rfl
        exact hagain r (by simpa [hhist.answers_eq] using hmem)
      refine ⟨hopenAgain, ?_⟩
      -- The answered task is closed, open or waiting. Only the open one could ask for another hand.
      rcases h.arranged.cover hknown with ⟨e, hclosed, rfl⟩ | ⟨o, ho, rfl⟩ | hwaiting
      · exact hfree e hclosed r (by simpa [(h.tracked.closed e hclosed).answers_eq] using hmem)
      · have heq : o = ⟨t, replies, false⟩ := by simpa [hopened, eq_comm] using ho
        intro hhalts
        exact P.halts_final r hhalts (hopenAgain (by simp [heq]))
      · simp [(h.tracked.waiting t' hwaiting).answers_eq] at hmem

theorem Sound.move {P : Policy ρ} {tasks : List α} (hnodup : tasks.Nodup) {l l' : Ledger α ρ}
    (h : Sound P tasks l) (hmove : Move P l l') : Sound P tasks l' := by
  refine ⟨h.arranged.move hmove, h.tracked.move hnodup h.arranged hmove,
    h.kept.move hnodup h.arranged h.tracked hmove, ?_⟩
  cases hmove with
  | take _ _ _ => exact h.respects
  | giveBack _ => exact h.respects
  | settle _ => exact h.respects
  | drain _ => exact h.respects
  | save _ => exact h.respects
  | @hand t replies hopened _ hagain _ =>
      -- Only a hand has anything to respect.
      refine List.pairwise_append.2 ⟨h.respects, by simp, ?_⟩
      intro e he e' he'
      have heq : e' = .handed t := by simpa using he'
      exact heq ▸ respects_at_hand h hopened hagain e he
  | answer hopened =>
      refine List.pairwise_append.2 ⟨h.respects, by simp, ?_⟩
      intro e _ e' he'
      cases e <;> simp at he' <;> subst he' <;> trivial

/-- Everything the discipline keeps, after any number of moves. -/
theorem sound_of_moves {P : Policy ρ} {tasks : List α} (hnodup : tasks.Nodup) {l : Ledger α ρ}
    (h : Moves P (Ledger.start tasks) l) : Sound P tasks l :=
  Machine.moves_invariant (fun _ _ hl hmove => hl.move hnodup hmove)
    ⟨arranged_start P tasks, tracked_start P tasks, kept_start tasks, by simp [Ledger.start]⟩ h

/-! ## Consequences -/

namespace Sound

variable {P : Policy ρ} {tasks : List α} {l : Ledger α ρ}

/-- What the last save offers is a suffix of the tasks, behind what it gives up on. -/
theorem saved_split (h : Sound P tasks l) {p : Picture α ρ} (hp : l.saved = some p) :
    tasks = p.touched ++ p.unsent := by
  rw [← h.kept.tasks_eq p hp]
  exact (h.kept.ordered p hp).tasks_eq

/-- Whoever was handed over is given up on by the last save. -/
theorem touched_of_handed (h : Sound P tasks l) {p : Picture α ρ} (hp : l.saved = some p) {t : α}
    (ht : Event.handed t ∈ l.trace) : t ∈ p.touched := by
  have hmem := h.tracked.known t (Or.inl ht)
  rw [h.saved_split hp] at hmem
  rcases List.mem_append.1 hmem with hmem | hmem
  · exact hmem
  · exact absurd ht (h.kept.unsent p hp t hmem)

/-- While nobody was handed over since the last entry was closed, whoever was handed over is
closed. -/
theorem handed_closed (h : Sound P tasks l)
    (hquiet : ∀ o, l.opened = some o → o.replies = [] ∧ o.awaiting = false) {t : α}
    (ht : Event.handed t ∈ l.trace) : ∃ e ∈ l.closed, e.1 = t := by
  have hhands : hands t l.trace ≠ 0 := Nat.ne_of_gt (hands_pos_iff.2 ht)
  rcases h.arranged.cover (h.tracked.known t (Or.inl ht)) with
    hclosed | ⟨⟨t', replies, awaiting⟩, ho, rfl⟩ | hwaiting
  · exact hclosed
  · rcases hquiet _ ho with ⟨rfl, rfl⟩
    exact absurd (h.tracked.opened _ _ ho).hands_eq hhands
  · exact absurd (h.tracked.waiting t hwaiting).hands_eq hhands

/-- Only what was handed over is answered. -/
theorem handed_of_answered (h : Sound P tasks l) {t : α} {r : ρ}
    (hr : Event.answered t r ∈ l.trace) : Event.handed t ∈ l.trace := by
  have hmem : r ∈ answers t l.trace := mem_answers_iff.2 hr
  rcases h.arranged.cover (h.tracked.known t (Or.inr ⟨r, hr⟩)) with
    ⟨entry, hentry, rfl⟩ | ⟨⟨t', replies, awaiting⟩, ho, rfl⟩ | hwaiting
  · have hist := h.tracked.closed entry hentry
    have hpos : 0 < entry.2.length := List.length_pos_of_mem (hist.answers_eq ▸ hmem)
    exact hands_pos_iff.1 (hist.hands_eq ▸ hpos)
  · cases awaiting with
    | false =>
        have hist := h.tracked.opened _ _ ho
        have hpos : 0 < replies.length := List.length_pos_of_mem (hist.answers_eq ▸ hmem)
        exact hands_pos_iff.1 (hist.hands_eq ▸ hpos)
    | true =>
        have hout := h.tracked.outstanding _ _ ho
        exact hands_pos_iff.1 (hout.hands_eq ▸ Nat.succ_pos _)
  · rw [(h.tracked.waiting t hwaiting).answers_eq] at hmem
    cases hmem

/-- The last save gives up on at most one task that was never handed over: the open one. -/
theorem handed_or_open_of_touched (h : Sound P tasks l) {p : Picture α ρ} (hp : l.saved = some p)
    {t : α} (ht : t ∈ p.touched) : Event.handed t ∈ l.trace ∨ p.opened = some t := by
  rcases List.mem_append.1 ht with hworked | hopen
  · exact Or.inl (h.kept.worked p hp t hworked)
  · exact Or.inr (by simpa using hopen)

/-- A hand-over is always preceded by a save. -/
theorem saved_of_handed (h : Sound P tasks l) {t : α} (ht : Event.handed t ∈ l.trace) :
    ∃ p, l.saved = some p := by
  cases hp : l.saved with
  | none => exact absurd ht (h.kept.unsaved hp t)
  | some p => exact ⟨p, rfl⟩

/-- No task is handed over more often than the limit. -/
theorem hands_le (h : Sound P tasks l) (t : α) : hands t l.trace ≤ P.limit := by
  by_cases hzero : hands t l.trace = 0
  · simp [hzero]
  · have hmem : t ∈ tasks := h.tracked.known t (Or.inl (hands_pos_iff.1 (Nat.pos_of_ne_zero hzero)))
    -- The history of the part it stands in bounds its hands.
    rcases h.arranged.cover hmem with ⟨e, he, rfl⟩ | ⟨⟨t', replies, awaiting⟩, ho, rfl⟩ | hwaiting
    · have hist := h.tracked.closed e he
      exact hist.hands_eq ▸ hist.within
    · cases awaiting with
      | false =>
          have hist := h.tracked.opened t' replies ho
          exact hist.hands_eq ▸ hist.within
      | true =>
          have hist := h.tracked.outstanding t' replies ho
          exact hist.hands_eq ▸ hist.within
    · exact absurd (h.tracked.waiting t hwaiting).hands_eq hzero

end Sound

end Tracking

end WriteAhead
