import Mathlib.Data.List.TakeWhile

/-!
# Freshness — reads that may have become stale

What is shown of something remote is what a read has brought back. Several reads may be under way
at once and come back in any order, and now and then something happens that makes all of them
stale. Every read carries a stamp, and is shown only if this is still the current one. This file
gives

* the events since something was last invalidated,
* what is shown, the reads under way and the current stamp, and how they change,
* that what is shown was asked for and brought back after the last invalidation.
-/

namespace Freshness

inductive Event (ρ α β : Type*)
  | asked (read : ρ)
  | answered (read : ρ) (value : α)
  | invalidated (cause : β)
  deriving DecidableEq

variable {κ ρ α β : Type*}

def Event.invalidates (stale : β → Bool) : Event ρ α β → Bool
  | .invalidated cause => stale cause
  | _ => false

/-- The events after the last one that makes reads stale. The latest event comes first. -/
def since (stale : β → Bool) (events : List (Event ρ α β)) : List (Event ρ α β) :=
  events.takeWhile fun event => !event.invalidates stale

section Since

variable {stale stale' : β → Bool} {event other : Event ρ α β} {events : List (Event ρ α β)}

theorem since_cons (h : event.invalidates stale = false) :
    since stale (event :: events) = event :: since stale events := by
  simp [since, h]

/-- The fewer causes count, the further back it goes. -/
theorem mem_since_of_imp (h : ∀ cause, stale cause = true → stale' cause = true)
    (hevent : event ∈ since stale' events) : event ∈ since stale events := by
  induction events with
  | nil => exact hevent
  | cons latest before ih =>
      by_cases hlatest : latest.invalidates stale' = true
      · simp [since, hlatest] at hevent
      · have hkept : latest.invalidates stale = false := by
          cases latest with
          | asked read => rfl
          | answered read value => rfl
          | invalidated cause =>
              exact Bool.eq_false_iff.2 fun hcause => hlatest (h cause hcause)
        rw [since_cons (Bool.eq_false_iff.2 hlatest)] at hevent
        rw [since_cons hkept]
        exact (List.mem_cons.1 hevent).elim (fun heq => heq ▸ List.mem_cons_self)
          fun hbefore => List.mem_cons_of_mem latest (ih hbefore)

end Since

/-! ## What is shown -/

structure View (κ ρ α β : Type*) where
  /-- What a read has to carry. -/
  stamp : κ
  pending : List ρ
  shown : Option α
  events : List (Event ρ α β)

namespace View

variable [DecidableEq κ] (stampOf : ρ → κ) (v : View κ ρ α β)

def ask (read : ρ) : View κ ρ α β :=
  { v with pending := v.pending ++ [read], events := .asked read :: v.events }

def answer (index : Nat) (read : ρ) (value : α) : View κ ρ α β :=
  { v with
    pending := v.pending.eraseIdx index
    shown := if stampOf read = v.stamp then some value else v.shown
    events := .answered read value :: v.events }

def hide : View κ ρ α β :=
  { v with shown := none }

def drop (index : Nat) : View κ ρ α β :=
  { v with pending := v.pending.eraseIdx index }

def invalidate (stamp : κ) (cause : β) : View κ ρ α β :=
  { v with stamp := stamp, shown := none, events := .invalidated cause :: v.events }

/-- Nothing has made it stale since. -/
structure Fresh (v : View κ ρ α β) : Prop where
  current : ∀ read ∈ v.pending, stampOf read = v.stamp →
    .asked read ∈ since (fun _ => true) v.events
  shown : ∀ value, v.shown = some value → ∃ read, stampOf read = v.stamp ∧
    .asked read ∈ since (fun _ => true) v.events ∧
      .answered read value ∈ since (fun _ => true) v.events

variable {stampOf v}

namespace Fresh

omit [DecidableEq κ] in
theorem ask (h : v.Fresh stampOf) (read : ρ) : (v.ask read).Fresh stampOf where
  current := by
    intro pending hpending hstamp
    rw [View.ask, since_cons rfl]
    rcases List.mem_append.1 hpending with hbefore | hnew
    · exact List.mem_cons_of_mem _ (h.current pending hbefore hstamp)
    · rw [List.mem_singleton.1 hnew]
      exact List.mem_cons_self
  shown := by
    intro value hvalue
    rcases h.shown value hvalue with ⟨shown, hstamp, hasked, hanswered⟩
    rw [View.ask, since_cons rfl]
    exact ⟨shown, hstamp, List.mem_cons_of_mem _ hasked, List.mem_cons_of_mem _ hanswered⟩

theorem answer (h : v.Fresh stampOf) {index : Nat} {read : ρ}
    (hread : v.pending[index]? = some read) (value : α) :
    (v.answer stampOf index read value).Fresh stampOf where
  current := by
    intro pending hpending hstamp
    rw [View.answer, since_cons rfl]
    exact List.mem_cons_of_mem _ (h.current pending (List.mem_of_mem_eraseIdx hpending) hstamp)
  shown := by
    intro shown hshown
    rw [View.answer, since_cons rfl]
    by_cases hcurrent : stampOf read = v.stamp
    · obtain rfl : value = shown := by simpa [View.answer, hcurrent] using hshown
      have hasked := h.current read (List.mem_of_getElem? hread) hcurrent
      exact ⟨read, hcurrent, List.mem_cons_of_mem _ hasked, List.mem_cons_self⟩
    · have hbefore : v.shown = some shown := by simpa [View.answer, hcurrent] using hshown
      rcases h.shown shown hbefore with ⟨other, hstamp, hasked, hanswered⟩
      exact ⟨other, hstamp, List.mem_cons_of_mem _ hasked, List.mem_cons_of_mem _ hanswered⟩

omit [DecidableEq κ] in
theorem hide (h : v.Fresh stampOf) : v.hide.Fresh stampOf where
  current := h.current
  shown := fun _ hvalue => nomatch hvalue

omit [DecidableEq κ] in
theorem drop (h : v.Fresh stampOf) (index : Nat) : (v.drop index).Fresh stampOf where
  current := fun pending hpending => h.current pending (List.mem_of_mem_eraseIdx hpending)
  shown := h.shown

omit [DecidableEq κ] in
/-- The new stamp has to be one that no read under way carries. -/
theorem invalidate (v : View κ ρ α β) {stamp : κ} (hnew : ∀ read ∈ v.pending, stampOf read ≠ stamp)
    (cause : β) : (v.invalidate stamp cause).Fresh stampOf where
  current := fun read hread hstamp => absurd hstamp (hnew read hread)
  shown := fun _ hvalue => nomatch hvalue

end Fresh

end View

end Freshness
