import Mathlib.Data.List.Count
import Mathlib.Data.List.Basic
import DsspBot.Lib.Machine

/-!
# Link — asking a remote worker for an effect that cannot be undone

A caller writes one request at a time into a pipe and waits. The worker may perform the effect the
request asks for, and its answer may prove that it did not. The caller may lose the answer, and a
lost answer breaks the pipe for good. This file gives

* the pipe and its four operations,
* the rule under which the effect of a key is performed at most once, whatever the worker does:
  the caller asks again only after answers that proved nothing was done,
* the machine of a caller and a worker at the two ends of a pipe, and the rule for its runs.
-/

/-- A pipe to a worker. `κ` names what a request is about, `α` is the request, `ρ` the answer. -/
structure Link (κ α ρ : Type*) where
  /-- What the caller is waiting for. -/
  waiting : Option κ := none
  /-- Requests written and not yet handled. -/
  inbox : List (κ × α) := []
  /-- An answer written and not yet read. -/
  answer : Option ρ := none
  /-- Whether an answer was lost. -/
  broken : Bool := false
  /-- The effects performed so far, by key. -/
  done : List κ := []

namespace Link

variable {κ α ρ : Type*}

/-- Write a request; a broken pipe takes nothing. -/
def send (l : Link κ α ρ) (key : κ) (request : α) : Link κ α ρ :=
  if l.broken then { l with waiting := some key }
  else { l with waiting := some key, inbox := l.inbox ++ [(key, request)] }

/-- The worker takes the oldest request, performs its effect `n` times and answers. -/
def handled (l : Link κ α ρ) (answer : ρ) (n : Nat) : Link κ α ρ :=
  match l.inbox with
  | [] => l
  | (key, _) :: rest =>
      { l with inbox := rest, answer := some answer, done := l.done ++ List.replicate n key }

/-- Read the answer, if one is there and the pipe is whole. -/
def deliver (l : Link κ α ρ) : Option (ρ × Link κ α ρ) :=
  if l.broken then none
  else
    match l.waiting, l.answer with
    | some _, some answer => some (answer, { l with waiting := none, answer := none })
    | _, _ => none

/-- Give up on the answer. The worker may still be at it. -/
def lose (l : Link κ α ρ) : Link κ α ρ :=
  { l with waiting := none, broken := true }

variable [DecidableEq κ]

/-- How often the effect of a key was performed, or may still be. -/
def spent (l : Link κ α ρ) (key : κ) : Nat :=
  l.done.count key + (l.inbox.map Prod.fst).count key

/-- What the caller has heard about a key proves that nothing was done. -/
def Proven (proves : ρ → Prop) (heard : List (κ × Option ρ)) (key : κ) : Prop :=
  ∀ heard' ∈ heard, heard'.1 = key → ∃ answer, heard'.2 = some answer ∧ proves answer

/-- The pipe of a caller that asks again only on proof. `heard` is what the caller was told, `none`
for a lost answer. -/
structure Careful (proves : ρ → Prop) (heard : List (κ × Option ρ)) (l : Link κ α ρ) : Prop where
  once : ∀ key, l.spent key ≤ 1
  idle : l.broken = false → l.waiting = none → l.inbox = [] ∧ l.answer = none
  busy : l.broken = false → ∀ key, l.waiting = some key →
    (∃ request, l.inbox = [(key, request)] ∧ l.answer = none) ∨
      (l.inbox = [] ∧ ∃ answer, l.answer = some answer ∧ (proves answer → l.done.count key = 0))
  /-- Whatever was spent is waited for, or was not proven undone. -/
  accounted : ∀ key, 0 < l.spent key → l.waiting = some key ∨ ¬Proven proves heard key

namespace Careful

variable {proves : ρ → Prop} {heard : List (κ × Option ρ)} {l : Link κ α ρ}

theorem start : Careful proves ([] : List (κ × Option ρ)) ({} : Link κ α ρ) where
  once := by simp [spent]
  idle := by simp
  busy := by simp
  accounted := by simp [spent]

/-- Nothing of a key is spent while the caller waits for nothing and has proof. -/
theorem unspent (h : Careful proves heard l) (hidle : l.waiting = none) {key : κ}
    (hproven : Proven proves heard key) : l.spent key = 0 := by
  by_contra hspent
  rcases h.accounted key (Nat.pos_of_ne_zero hspent) with hwaiting | hnot
  · simp [hidle] at hwaiting
  · exact hnot hproven

/-- A caller that has proof may ask. -/
theorem send (h : Careful proves heard l) (hidle : l.waiting = none) {key : κ}
    (hproven : Proven proves heard key) (request : α) :
    Careful proves heard (l.send key request) := by
  have hunspent := h.unspent hidle hproven
  cases hbroken : l.broken with
  | true =>
      have heq : l.send key request = { l with waiting := some key } := by
        simp [Link.send, hbroken]
      rw [heq]
      -- A broken pipe takes nothing, so nothing new can be spent.
      refine ⟨h.once, ?_, ?_, ?_⟩
      · intro hwhole
        simp [hbroken] at hwhole
      · intro hwhole
        simp [hbroken] at hwhole
      · intro key' hspent
        rcases h.accounted key' hspent with hwaiting | hnot
        · simp [hidle] at hwaiting
        · exact Or.inr hnot
  | false =>
      have heq : l.send key request =
          { l with waiting := some key, inbox := l.inbox ++ [(key, request)] } := by
        simp [Link.send, hbroken]
      have hempty := h.idle hbroken hidle
      -- Only the key asked about is spent once more, and it was not spent before.
      have hspent : ∀ key', (l.send key request).spent key' =
          l.spent key' + if key = key' then 1 else 0 := by
        intro key'
        rw [heq]
        by_cases hkey : key = key'
        · simp [spent, hkey]
          omega
        · simp [spent, hkey]
      refine ⟨?_, ?_, ?_, ?_⟩
      · intro key'
        rw [hspent]
        have honce := h.once key'
        by_cases hkey : key = key'
        · rw [← hkey, hunspent]
          simp
        · simpa [hkey] using honce
      · intro _ hwaiting
        simp [heq] at hwaiting
      · intro _ key' hwaiting
        rw [heq] at hwaiting ⊢
        cases hwaiting
        exact Or.inl ⟨request, by simp [hempty.1], hempty.2⟩
      · intro key' hpos
        by_cases hkey : key = key'
        · left
          rw [heq, ← hkey]
        · rw [hspent, if_neg hkey] at hpos
          rcases h.accounted key' (by simpa using hpos) with hwaiting | hnot
          · simp [hidle] at hwaiting
          · exact Or.inr hnot

/-- A worker that performs the effect at most once, and not at all when its answer proves so, keeps
the pipe careful. -/
theorem handled (h : Careful proves heard l) {answer : ρ} {n : Nat} (hn : n ≤ 1)
    (hhonest : proves answer → n = 0) : Careful proves heard (l.handled answer n) := by
  cases hinbox : l.inbox with
  | nil =>
      have heq : l.handled answer n = l := by simp [Link.handled, hinbox]
      simpa [heq] using h
  | cons entry rest =>
      rcases entry with ⟨key, request⟩
      have heq : l.handled answer n =
          { l with
            inbox := rest, answer := some answer, done := l.done ++ List.replicate n key } := by
        simp [Link.handled, hinbox]
      -- Handling turns a waiting request into at most one effect, so no count grows.
      have hspent : ∀ key', (l.handled answer n).spent key' ≤ l.spent key' := by
        intro key'
        rw [heq]
        simp only [spent, hinbox, List.map_cons, List.count_append, List.count_cons,
          List.count_replicate]
        by_cases hkey : key = key'
        · simp [hkey]
          omega
        · simp [hkey]
      refine ⟨fun key' => Nat.le_trans (hspent key') (h.once key'), ?_, ?_, ?_⟩
      · intro hbroken hwaiting
        rw [heq] at hbroken hwaiting
        -- A caller that waits for nothing left nothing to handle.
        have hempty := (h.idle hbroken hwaiting).1
        simp [hinbox] at hempty
      · intro hbroken key' hwaiting
        rw [heq] at hbroken hwaiting ⊢
        rcases h.busy hbroken key' hwaiting with ⟨request', hone, -⟩ | ⟨hempty, -⟩
        · -- The request waited for is the one just handled, and nothing was done for it before.
          rw [hinbox] at hone
          injection hone with hentry hrest
          injection hentry with hkey
          subst hkey
          have hbefore := h.once key
          have hdone : l.done.count key = 0 := by
            simp only [spent, hinbox, List.map_cons, List.count_cons_self] at hbefore
            omega
          refine Or.inr ⟨hrest, answer, rfl, ?_⟩
          intro hproves
          simp [hdone, hhonest hproves]
        · simp [hinbox] at hempty
      · intro key' hpos
        have hbefore := h.accounted key' (Nat.lt_of_lt_of_le hpos (hspent key'))
        rw [heq]
        exact hbefore

/-- Reading an answer ends the wait, and what the answer does not prove is accounted for by it. -/
theorem deliver (h : Careful proves heard l) {key : κ} (hwaiting : l.waiting = some key)
    {answer : ρ} {l' : Link κ α ρ} (hdeliver : l.deliver = some (answer, l')) :
    l'.waiting = none ∧ Careful proves (heard ++ [(key, some answer)]) l' := by
  unfold Link.deliver at hdeliver
  split at hdeliver
  · cases hdeliver
  · next hbroken =>
      have hwhole : l.broken = false := by simpa using hbroken
      rw [hwaiting] at hdeliver
      cases hanswer : l.answer with
      | none => simp [hanswer] at hdeliver
      | some answer' =>
          have heq : answer' = answer ∧ { l with waiting := none, answer := none } = l' := by
            simpa [hanswer] using hdeliver
          rcases heq with ⟨rfl, rfl⟩
          rcases h.busy hwhole key hwaiting with ⟨-, -, hnone⟩ | ⟨hempty, answer, hsome, hproof⟩
          · simp [hanswer] at hnone
          have hanswers : answer = answer' := Option.some.inj (hsome.symm.trans hanswer)
          subst hanswers
          refine ⟨rfl, h.once, fun _ _ => ⟨hempty, rfl⟩, ?_, ?_⟩
          · intro _ key' hwaiting'
            cases hwaiting'
          · intro key' hpos
            right
            intro hproven
            rcases h.accounted key' hpos with hkey | hnot
            · have hkeys : key = key' := Option.some.inj (hwaiting.symm.trans hkey)
              subst hkeys
              -- The answer proves that nothing was done, yet something was spent.
              rcases hproven _ (List.mem_append_right _ List.mem_cons_self) rfl with
                ⟨answer', hlast, hproves⟩
              have hlast' : answer = answer' := Option.some.inj hlast
              subst hlast'
              have hzero : l.spent key = 0 := by
                simp [spent, hempty, hproof hproves]
              have hpos' : 0 < l.spent key := hpos
              omega
            · exact hnot fun heard' hmem => hproven heard' (List.mem_append_left _ hmem)

/-- A lost answer proves nothing. -/
theorem lose (h : Careful proves heard l) {key : κ} (hwaiting : l.waiting = some key) :
    Careful proves (heard ++ [(key, none)]) l.lose := by
  refine ⟨h.once, ?_, ?_, ?_⟩
  · intro hwhole
    cases hwhole
  · intro hwhole
    cases hwhole
  · intro key' hpos
    right
    intro hproven
    -- What was spent on the key is now answered by a loss, which proves nothing.
    rcases h.accounted key' hpos with hkey | hnot
    · have hkeys : key = key' := Option.some.inj (hwaiting.symm.trans hkey)
      subst hkeys
      rcases hproven _ (List.mem_append_right _ List.mem_cons_self) rfl with ⟨answer, hlast, -⟩
      cases hlast
    · exact hnot fun heard' hmem => hproven heard' (List.mem_append_left _ hmem)

/-- The effect of a key is performed at most once. -/
theorem count_done_le (h : Careful proves heard l) (key : κ) : l.done.count key ≤ 1 :=
  Nat.le_trans (Nat.le_add_right _ _) (h.once key)

end Careful

/-! ## A caller and a worker at the two ends -/

/-- A machine that writes requests and waits for their answers. -/
structure Caller (σ ι κ α ρ ε : Type*) where
  step : σ → ι → Option σ
  /-- The request that an input writes, if it writes one. -/
  writes : σ → ι → Option (κ × α)
  reply : Except ε ρ → ι
  isReply : ι → Bool
  waiting : σ → Option κ
  heard : σ → List (κ × Option ρ)

structure Coupled (σ κ α ρ : Type*) where
  caller : σ
  link : Link κ α ρ

/-- What may happen next: the caller acts, the worker handles a request, an answer is read or
lost. -/
inductive CoupledInput (ι ω ε : Type*)
  | act (input : ι)
  | serve (world : ω)
  | deliver
  | lose (why : ε)

namespace Caller

variable {σ ι ω ε : Type*} (c : Caller σ ι κ α ρ ε) (worker : ω → α → ρ × Nat)

def coupledStep (s : Coupled σ κ α ρ) : CoupledInput ι ω ε → Option (Coupled σ κ α ρ)
  | .act input =>
      if (c.waiting s.caller).isSome && c.isReply input then none
      else
        (c.step s.caller input).map fun caller =>
          { caller := caller
            link := match c.writes s.caller input with
              | some (key, request) => s.link.send key request
              | none => s.link }
  | .serve world =>
      match s.link.inbox with
      | [] => none
      | (_, request) :: _ =>
          some { s with
            link := s.link.handled (worker world request).1 (worker world request).2 }
  | .deliver =>
      s.link.deliver.bind fun (answer, link) =>
        (c.step s.caller (c.reply (.ok answer))).map fun caller =>
          { caller := caller, link := link }
  | .lose why =>
      if (c.waiting s.caller).isSome then
        (c.step s.caller (c.reply (.error why))).map fun caller =>
          { caller := caller, link := s.link.lose }
      else none

/-- What a caller must guarantee in the states with `Good`: it hears what it is told, and it writes
only while it waits for nothing and has proof. -/
structure Lawful (proves : ρ → Prop) (Good : σ → Prop) : Prop where
  good : ∀ s input s', Good s → c.step s input = some s' → Good s'
  acts : ∀ s input s', Good s → ((c.waiting s).isSome && c.isReply input) = false →
    c.step s input = some s' → c.writes s input = none →
      c.waiting s' = c.waiting s ∧ c.heard s' = c.heard s
  writes : ∀ s input s' key request, Good s → c.step s input = some s' →
    c.writes s input = some (key, request) →
      c.waiting s = none ∧ c.waiting s' = some key ∧ c.heard s' = c.heard s ∧
        Proven proves (c.heard s) key
  hears : ∀ s reply s' key, Good s → c.waiting s = some key → c.step s (c.reply reply) = some s' →
    c.waiting s' = none ∧ c.heard s' = c.heard s ++ [(key, reply.toOption)]

/-- A lawful caller over a careful pipe, both waiting for the same thing. -/
structure Paired (proves : ρ → Prop) (Good : σ → Prop) (s : Coupled σ κ α ρ) : Prop where
  good : Good s.caller
  waiting : s.link.waiting = c.waiting s.caller
  careful : Careful proves (c.heard s.caller) s.link

variable {c worker} {proves : ρ → Prop} {Good : σ → Prop} {s s' : Coupled σ κ α ρ}

theorem Paired.act (hlawful : c.Lawful proves Good) (h : c.Paired proves Good s) {input : ι}
    (hreply : ((c.waiting s.caller).isSome && c.isReply input) = false) {caller : σ}
    (hstep : c.step s.caller input = some caller) :
    c.Paired proves Good
      { caller := caller
        link := match c.writes s.caller input with
          | some (key, request) => s.link.send key request
          | none => s.link } := by
  have hgood := hlawful.good _ _ _ h.good hstep
  cases hwrites : c.writes s.caller input with
  | none =>
      rcases hlawful.acts _ _ _ h.good hreply hstep hwrites with ⟨hwaiting, hheard⟩
      refine ⟨hgood, h.waiting.trans hwaiting.symm, ?_⟩
      simpa [hheard] using h.careful
  | some written =>
      rcases written with ⟨key, request⟩
      -- Writing is allowed only on proof, which is what the pipe asks for.
      rcases hlawful.writes _ _ _ _ _ h.good hstep hwrites with ⟨hidle, hwaiting, hheard, hproven⟩
      refine ⟨hgood, ?_, ?_⟩
      · have hsend : (s.link.send key request).waiting = some key := by
          unfold send
          split <;> rfl
        exact hsend.trans hwaiting.symm
      · rw [hheard]
        exact h.careful.send (h.waiting.trans hidle) hproven request

/-- Whatever happens next, the pipe stays careful. -/
theorem Paired.step (hlawful : c.Lawful proves Good)
    (hworker : ∀ world request, (worker world request).2 ≤ 1 ∧
      (proves (worker world request).1 → (worker world request).2 = 0))
    (h : c.Paired proves Good s) {input : CoupledInput ι ω ε}
    (hstep : c.coupledStep worker s input = some s') : c.Paired proves Good s' := by
  cases input with
  | act input =>
      simp only [coupledStep] at hstep
      split at hstep
      · cases hstep
      · next hreply =>
          rcases Option.map_eq_some_iff.1 hstep with ⟨caller, hcaller, rfl⟩
          exact h.act hlawful (by simpa using hreply) hcaller
  | serve world =>
      simp only [coupledStep] at hstep
      split at hstep
      · cases hstep
      · next key request rest hinbox =>
          cases hstep
          have hhonest := hworker world request
          have hwaiting : (s.link.handled (worker world request).1
              (worker world request).2).waiting = s.link.waiting := by
            simp [handled, hinbox]
          exact ⟨h.good, hwaiting.trans h.waiting, h.careful.handled hhonest.1 hhonest.2⟩
  | deliver =>
      rcases Option.bind_eq_some_iff.1 hstep with ⟨⟨answer, link⟩, hdeliver, hnext⟩
      rcases Option.map_eq_some_iff.1 hnext with ⟨caller, hcaller, rfl⟩
      -- There is an answer to read only while the caller waits.
      have hsome : ∃ key, s.link.waiting = some key := by
        cases hwaiting : s.link.waiting with
        | some key => exact ⟨key, rfl⟩
        | none =>
            unfold deliver at hdeliver
            rw [hwaiting] at hdeliver
            split at hdeliver <;> cases hdeliver
      rcases hsome with ⟨key, hkey⟩
      rcases h.careful.deliver hkey hdeliver with ⟨hidle, hcareful⟩
      rcases hlawful.hears _ _ _ key h.good (h.waiting.symm.trans hkey) hcaller with
        ⟨hwaiting, hheard⟩
      refine ⟨hlawful.good _ _ _ h.good hcaller, hidle.trans hwaiting.symm, ?_⟩
      rw [hheard]
      exact hcareful
  | lose why =>
      simp only [coupledStep] at hstep
      split at hstep
      · next hsome =>
          rcases Option.map_eq_some_iff.1 hstep with ⟨caller, hcaller, rfl⟩
          -- The caller is told of the loss, and no answer will be read from this pipe again.
          rcases Option.isSome_iff_exists.1 hsome with ⟨key, hkey⟩
          rcases hlawful.hears _ _ _ key h.good hkey hcaller with ⟨hwaiting, hheard⟩
          refine ⟨hlawful.good _ _ _ h.good hcaller, ?_, ?_⟩
          · have hlose : s.link.lose.waiting = none := rfl
            exact hlose.trans hwaiting.symm
          · rw [hheard]
            exact h.careful.lose (h.waiting.trans hkey)
      · cases hstep

/-- In every run of a lawful caller with an honest worker, the effect of a key happens at most
once, however answers are delayed or lost. -/
theorem Lawful.at_most_once (hlawful : c.Lawful proves Good)
    (hworker : ∀ world request, (worker world request).2 ≤ 1 ∧
      (proves (worker world request).1 → (worker world request).2 = 0))
    {start : σ} (hgood : Good start) (hidle : c.waiting start = none) (hnew : c.heard start = [])
    (hreach : Machine.Reaches (c.coupledStep worker) { caller := start, link := {} } s) (key : κ) :
    s.link.done.count key ≤ 1 := by
  have hstart : c.Paired proves Good { caller := start, link := {} } := by
    refine ⟨hgood, hidle.symm, ?_⟩
    rw [hnew]
    exact .start
  have hpaired := hreach.invariant (fun _ _ _ hs hstep => hs.step hlawful hworker hstep) hstart
  exact hpaired.careful.count_done_le key

end Caller

end Link
