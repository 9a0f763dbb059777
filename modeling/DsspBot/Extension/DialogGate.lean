import DsspBot.Lib.Binary64
import DsspBot.Lib.Machine
import Mathlib.Algebra.Field.Rat

/-!
# DialogGate — when the page's dialogs are suppressed

A content script in its own world asks the page's world to suppress dialogs around an operation, and
to hand them back afterwards. The page's world keeps one deadline for any number of such operations.
What is in the queue between the two worlds may be handled at any later time, also after the asking
side has stopped waiting for it.
-/

namespace DsspBot

namespace Extension

/-! ## The gate -/

/-- A reading of the clock, and a duration. -/
abbrev Millis := ℚ≥0

/-- A `ttlMs` as it arrives, which need not be a finite number. -/
inductive Ttl
  | number (value : ℚ)
  | unusable
  deriving DecidableEq

/-- The longest a single request may last. -/
def MAX_ARM_MS : ℚ := 60000

structure DialogGate where
  /-- Zero means pass-through. -/
  armedUntil : Millis := 0
  deriving DecidableEq

namespace DialogGate

variable (gate : DialogGate)

def armed (now : Millis) : Bool :=
  decide (now < gate.armedUntil)

/-- `now + applied`, which is the double nearest to the sum. -/
def deadline (now applied : Millis) : Millis :=
  (Binary64.round (now + applied)).toNNRat

/-- The duration that is applied comes back too, and is 0 if nothing is. -/
def arm (now : Millis) : Ttl → DialogGate × Millis
  | .unusable => (gate, 0)
  | .number ttlMs =>
      if ttlMs ≤ 0 then (gate, 0)
      else
        let applied := (min ttlMs MAX_ARM_MS).toNNRat
        -- A deadline that is already further away is kept.
        ({ armedUntil := max gate.armedUntil (deadline now applied) }, applied)

def disarm (_dialogs : DialogGate) : DialogGate :=
  { armedUntil := 0 }

end DialogGate

/-! ## The bridge -/

inductive BridgeCommand
  | armDialogs (ttlMs : Ttl)
  | disarmDialogs
  deriving DecidableEq

inductive BridgeResponse
  | armed (armedForMs : Millis)
  | disarmed
  | failed (error code : String)
  deriving DecidableEq

/-- The two commands of the page's world that concern dialogs. -/
def handle (dialogs : DialogGate) (now : Millis) : BridgeCommand → DialogGate × BridgeResponse
  | .armDialogs ttl =>
      let result := dialogs.arm now ttl
      let ttlMs := result.2
      if ttlMs = 0 then
        (result.1, .failed "BRIDGE_ARM_DIALOGS requires a positive ttlMs." "MISSING_DATA")
      else
        (result.1, .armed ttlMs)
  | .disarmDialogs => (dialogs.disarm, .disarmed)

/-- How far one `withDialogsArmed` is. Once its command has been handled it has a window, if the
gate was armed by it at all. -/
inductive Operation
  /-- `BRIDGE_ARM_DIALOGS` is in the queue. -/
  | arming (ttlMs : Ttl)
  /-- It is in the queue, though nobody waits for the reply any more. -/
  | deserted (ttlMs : Ttl)
  | answered (window : Option Millis)
  | running (window : Option Millis)
  /-- `BRIDGE_DISARM_DIALOGS` is in the queue. -/
  | disarming (window : Option Millis)
  /-- It has failed before it ran, and will not disarm. -/
  | failed (window : Option Millis)
  | disarmed
  deriving DecidableEq

namespace Operation

/-- Until when this operation asks for suppression. -/
def window : Operation → Option Millis
  | .arming _ => none
  | .deserted _ => none
  | .answered window => window
  | .running window => window
  | .disarming window => window
  | .failed window => window
  | .disarmed => none

/-- The `ttlMs` of its command, while that is in the queue. -/
def asked : Operation → Option Ttl
  | .arming ttlMs => some ttlMs
  | .deserted ttlMs => some ttlMs
  | _ => none

/-- It has armed the gate, and has neither disarmed it nor outlived its time. -/
def Open (op : Operation) (now : Millis) : Prop :=
  ∃ deadline, op.window = some deadline ∧ now < deadline

end Operation

/-! ## One page -/

/-- Which readings a clock may still give after another. A clock that only goes forward is one such,
a clock that may be set back another. -/
structure Clock where
  follows : Millis → Millis → Bool
  refl : ∀ now, follows now now = true
  trans : ∀ {now later last}, follows now later = true → follows later last = true →
    follows now last = true

structure Page where
  dialogs : DialogGate := {}
  now : Millis := 0
  operations : List Operation := []
  deriving DecidableEq

inductive PageInput
  | withDialogsArmed (ttlMs : Ttl)
  /-- The page's world takes the command of this operation from the queue. -/
  | handled (index : Nat)
  | replied (index : Nat)
  /-- `armDialogs` has waited long enough. -/
  | timedOut (index : Nat)
  /-- The operation itself is over, one way or the other. -/
  | settled (index : Nat)
  | tick (now : Millis)
  deriving DecidableEq

namespace Page

variable (p : Page)

def put (index : Nat) (op : Operation) : Page :=
  { p with operations := p.operations.set index op }

/-- The window that a response tells of, to the moment. -/
def windowOf : BridgeResponse → Option Millis
  | .armed armedForMs => some (p.now + armedForMs)
  | _ => none

def handled (index : Nat) : Option Page :=
  match p.operations[index]? with
  | some (.arming ttlMs) =>
      let result := handle p.dialogs p.now (.armDialogs ttlMs)
      -- The reply says whether the gate was armed, but nobody reads it.
      some { (p.put index (.answered (p.windowOf result.2))) with dialogs := result.1 }
  | some (.deserted ttlMs) =>
      let result := handle p.dialogs p.now (.armDialogs ttlMs)
      some { (p.put index (.failed (p.windowOf result.2))) with dialogs := result.1 }
  | some (.disarming _) =>
      some { (p.put index .disarmed) with dialogs := (handle p.dialogs p.now .disarmDialogs).1 }
  | _ => none

def replied (index : Nat) : Option Page :=
  match p.operations[index]? with
  | some (.answered window) => some (p.put index (.running window))
  | _ => none

def timedOut (index : Nat) : Option Page :=
  match p.operations[index]? with
  | some (.arming ttlMs) => some (p.put index (.deserted ttlMs))
  | some (.answered window) => some (p.put index (.failed window))
  | _ => none

def settled (index : Nat) : Option Page :=
  match p.operations[index]? with
  | some (.running window) => some (p.put index (.disarming window))
  | _ => none

def step (clock : Clock) (p : Page) : PageInput → Option Page
  | .withDialogsArmed ttlMs => some { p with operations := p.operations ++ [.arming ttlMs] }
  | .handled index => p.handled index
  | .replied index => p.replied index
  | .timedOut index => p.timedOut index
  | .settled index => p.settled index
  | .tick now => if clock.follows p.now now then some { p with now := now } else none

/-- At every reading the clock may still give, dialogs are suppressed if and only if some operation
asks for it. -/
def WindowsHold (clock : Clock) (p : Page) : Prop :=
  ∀ now, clock.follows p.now now = true →
    (p.dialogs.armed now = true ↔ ∃ op ∈ p.operations, op.Open now)

/-- No other operation still asks for suppression when one hands the dialogs back. -/
def DisarmsAlone (clock : Clock) (p : Page) (input : PageInput) : Prop :=
  ∀ index window, input = .handled index → p.operations[index]? = some (.disarming window) →
    ∀ now, clock.follows p.now now = true →
      ∀ other op, other ≠ index → p.operations[other]? = some op → ¬op.Open now

/-- Where the gate is not armed already, no reading that the clock may still give lies between the
end of a new window and the double nearest to it. -/
def RoundsNothingAway (clock : Clock) (p : Page) (input : PageInput) : Prop :=
  ∀ index op value, input = .handled index → p.operations[index]? = some op →
    op.asked = some (.number value) → 0 < value →
      ∀ now, clock.follows p.now now = true → p.dialogs.armedUntil ≤ now →
        (now < DialogGate.deadline p.now (min value MAX_ARM_MS).toNNRat ↔
          now < p.now + (min value MAX_ARM_MS).toNNRat)

/-- A step after which everybody has what they asked for. -/
structure LeavesWindows (clock : Clock) (p : Page) (input : PageInput) : Prop where
  alone : DisarmsAlone clock p input
  rounded : RoundsNothingAway clock p input

/-! ## What a step does -/

section Steps

variable {clock : Clock} {p p' : Page} {input : PageInput}

/-- Everything a step can do to the gate and to the windows. -/
inductive Step (clock : Clock) (p : Page) (input : PageInput) : Page → Prop
  | called (ttlMs : Ttl) (hinput : input = .withDialogsArmed ttlMs) :
      Step clock p input { p with operations := p.operations ++ [.arming ttlMs] }
  | moved {index : Nat} {old new : Operation} (hold : p.operations[index]? = some old)
      (hasked : new.asked = none ∨ new.asked = old.asked) (hwindow : new.window = old.window) :
      Step clock p input (p.put index new)
  | armed {index : Nat} {old new : Operation} (ttlMs : Ttl) (hinput : input = .handled index)
      (hold : p.operations[index]? = some old) (hasked : old.asked = some ttlMs)
      (hnone : new.asked = none)
      (hwindow : new.window = p.windowOf (handle p.dialogs p.now (.armDialogs ttlMs)).2) :
      Step clock p input
        { (p.put index new) with dialogs := (handle p.dialogs p.now (.armDialogs ttlMs)).1 }
  | disarmed {index : Nat} {window : Option Millis} (hinput : input = .handled index)
      (hold : p.operations[index]? = some (.disarming window)) :
      Step clock p input { (p.put index .disarmed) with dialogs := p.dialogs.disarm }
  | ticked {now : Millis} (hinput : input = .tick now)
      (hfollows : clock.follows p.now now = true) : Step clock p input { p with now := now }

theorem handled_cases {index : Nat} (h : p.handled index = some p') :
    Step clock p (.handled index) p' := by
  unfold handled at h
  split at h
  · next ttlMs hold =>
      cases h
      exact .armed ttlMs rfl hold rfl rfl rfl
  · next ttlMs hold =>
      cases h
      exact .armed ttlMs rfl hold rfl rfl rfl
  · next window hold =>
      cases h
      exact .disarmed rfl hold
  · cases h

theorem step_cases (h : p.step clock input = some p') : Step clock p input p' := by
  cases input with
  | withDialogsArmed ttlMs =>
      cases h
      exact .called ttlMs rfl
  | handled index => exact handled_cases h
  | replied index =>
      simp only [step, replied] at h
      split at h
      · next window hold =>
          cases h
          exact .moved hold (Or.inl rfl) rfl
      · cases h
  | timedOut index =>
      simp only [step, timedOut] at h
      split at h
      · next ttlMs hold =>
          cases h
          exact .moved hold (Or.inr rfl) rfl
      · next window hold =>
          cases h
          exact .moved hold (Or.inl rfl) rfl
      · cases h
  | settled index =>
      simp only [step, settled] at h
      split at h
      · next window hold =>
          cases h
          exact .moved hold (Or.inl rfl) rfl
      · cases h
  | tick now =>
      simp only [step] at h
      split at h
      · next hfollows =>
          cases h
          exact .ticked rfl hfollows
      · cases h

/-- Another operation than this one asks for suppression. -/
def OthersOpen (p : Page) (index : Nat) (now : Millis) : Prop :=
  ∃ other op, other ≠ index ∧ p.operations[other]? = some op ∧ op.Open now

theorem exists_open_iff {index : Nat} {old : Operation} (hold : p.operations[index]? = some old)
    (now : Millis) :
    (∃ op ∈ p.operations, op.Open now) ↔ old.Open now ∨ p.OthersOpen index now := by
  constructor
  · rintro ⟨op, hop, hopen⟩
    rcases List.mem_iff_getElem?.1 hop with ⟨other, hother⟩
    by_cases hsame : other = index
    · subst hsame
      rw [hold] at hother
      cases hother
      exact Or.inl hopen
    · exact Or.inr ⟨other, op, hsame, hother, hopen⟩
  · rintro (hopen | ⟨other, op, -, hother, hopen⟩)
    · exact ⟨old, List.mem_iff_getElem?.2 ⟨index, hold⟩, hopen⟩
    · exact ⟨op, List.mem_iff_getElem?.2 ⟨other, hother⟩, hopen⟩

theorem exists_open_put_iff {index : Nat} {old : Operation}
    (hold : p.operations[index]? = some old) (new : Operation) (now : Millis) :
    (∃ op ∈ (p.put index new).operations, op.Open now) ↔
      new.Open now ∨ p.OthersOpen index now := by
  have hlt : index < p.operations.length := (List.getElem?_eq_some_iff.1 hold).1
  have hnew : (p.put index new).operations[index]? = some new := by simp [put, hlt]
  rw [exists_open_iff hnew]
  have hothers : (p.put index new).OthersOpen index now ↔ p.OthersOpen index now := by
    unfold OthersOpen
    apply exists_congr
    intro other
    apply exists_congr
    intro op
    apply and_congr_right
    intro hother
    simp [put, Ne.symm hother]
  rw [hothers]

theorem toNNRat_applied_ne_zero {value : ℚ} (h : 0 < value) :
    (min value MAX_ARM_MS).toNNRat ≠ 0 := by
  intro hzero
  have hpositive : 0 < min value MAX_ARM_MS := lt_min h (by decide +kernel)
  exact absurd (Rat.toNNRat_eq_zero.1 hzero) (not_le.2 hpositive)

theorem handle_of_pos {value : ℚ} (h : 0 < value) (gate : DialogGate) (now : Millis) :
    handle gate now (.armDialogs (.number value)) =
      ({ armedUntil := max gate.armedUntil
          (DialogGate.deadline now (min value MAX_ARM_MS).toNNRat) },
        .armed (min value MAX_ARM_MS).toNNRat) := by
  simp [handle, DialogGate.arm, not_le.2 h, toNNRat_applied_ne_zero h]

theorem handle_of_unusable {ttlMs : Ttl} (h : ∀ value, ttlMs = .number value → value ≤ 0)
    (gate : DialogGate) (now : Millis) :
    handle gate now (.armDialogs ttlMs) =
      (gate, .failed "BRIDGE_ARM_DIALOGS requires a positive ttlMs." "MISSING_DATA") := by
  cases ttlMs with
  | unusable => rfl
  | number value => simp [handle, DialogGate.arm, h value rfl]

/-- Arming adds a window, or nothing. -/
theorem armed_handle_iff (p : Page) (ttlMs : Ttl) {now : Millis}
    (hrounded : ∀ value, ttlMs = .number value → 0 < value → p.dialogs.armedUntil ≤ now →
      (now < DialogGate.deadline p.now (min value MAX_ARM_MS).toNNRat ↔
        now < p.now + (min value MAX_ARM_MS).toNNRat)) :
    (handle p.dialogs p.now (.armDialogs ttlMs)).1.armed now = true ↔
      p.dialogs.armed now = true ∨
        ∃ deadline, p.windowOf (handle p.dialogs p.now (.armDialogs ttlMs)).2 = some deadline ∧
          now < deadline := by
  by_cases husable : ∃ value, ttlMs = .number value ∧ 0 < value
  · rcases husable with ⟨value, rfl, hpos⟩
    rw [handle_of_pos hpos]
    simp only [DialogGate.armed, windowOf, decide_eq_true_iff, lt_max_iff, Option.some.injEq,
      exists_eq_left']
    by_cases hbefore : now < p.dialogs.armedUntil
    · simp [hbefore]
    · rw [hrounded value rfl hpos (not_lt.1 hbefore)]
  · have hnothing : ∀ value, ttlMs = .number value → value ≤ 0 :=
      fun value hvalue => not_lt.1 fun hpos => husable ⟨value, hvalue, hpos⟩
    rw [handle_of_unusable hnothing]
    simp [windowOf]

@[simp] theorem armed_disarm (dialogs : DialogGate) (now : Millis) :
    dialogs.disarm.armed now = false :=
  decide_eq_false not_lt_bot

end Steps

/-! ## When windows hold -/

section Windows

variable {clock : Clock} {p p' : Page} {input : PageInput}

theorem windowsHold_start (clock : Clock) : WindowsHold clock {} := by
  intro now _
  have hclosed : ({} : Page).dialogs.armed now = false := armed_disarm {} now
  simp [hclosed]

theorem not_open_of_asked {ttlMs : Ttl} {op : Operation} (h : op.asked = some ttlMs)
    (now : Millis) : ¬op.Open now := by
  have hwindow : op.window = none := by
    cases op <;> first | rfl | cases h
  rintro ⟨deadline, hdeadline, -⟩
  rw [hwindow] at hdeadline
  cases hdeadline

theorem WindowsHold.kept (h : WindowsHold clock p) (hleaves : LeavesWindows clock p input)
    (hstep : p.step clock input = some p') : WindowsHold clock p' := by
  cases step_cases hstep with
  | called ttlMs hinput =>
      intro now hnow
      rw [h now hnow]
      simp [Operation.Open, Operation.window]
  | moved hold hasked hwindow =>
      intro now hnow
      have hopen : ∀ {old new : Operation}, new.window = old.window →
          (new.Open now ↔ old.Open now) := by
        intro old new hsame
        unfold Operation.Open
        rw [hsame]
      rw [exists_open_put_iff hold, hopen hwindow, ← exists_open_iff hold]
      exact h now hnow
  | @armed index old new ttlMs hinput hold hasked hnone hwindow =>
      intro now hnow
      have hrounded := armed_handle_iff p ttlMs fun value hvalue hpos =>
        hleaves.rounded index old value hinput hold (hvalue ▸ hasked) hpos now hnow
      have hall := (h now hnow).trans (exists_open_iff hold now)
      have hoperations := exists_open_put_iff hold new now
      rw [or_iff_right (not_open_of_asked hasked now)] at hall
      rw [hrounded, hall, hoperations, or_comm]
      unfold Operation.Open
      rw [hwindow]
  | @disarmed index window hinput hold =>
      intro now hnow
      have hself : ¬Operation.disarmed.Open now := by
        rintro ⟨deadline, hdeadline, -⟩
        cases hdeadline
      have hothers : ¬p.OthersOpen index now := by
        rintro ⟨other, op, hother, hop, hopen⟩
        exact hleaves.alone index window hinput hold now hnow other op hother hop hopen
      have hoperations := exists_open_put_iff hold .disarmed now
      simp [hoperations, hself, hothers]
  | ticked hinput hfollows =>
      intro now hnow
      exact h now (clock.trans hfollows hnow)

/-- Handing the dialogs back closes the gate for whoever still asks for suppression. -/
theorem not_windowsHold_of_disarm (h : ¬DisarmsAlone clock p input)
    (hstep : p.step clock input = some p') : ¬WindowsHold clock p' := by
  unfold DisarmsAlone at h
  push Not at h
  rcases h with ⟨index, window, rfl, hold, now, hnow, other, op, hother, hop, hopen⟩
  have hp : p' = { (p.put index .disarmed) with dialogs := p.dialogs.disarm } := by
    simpa [step, handled, hold, handle] using hstep.symm
  subst hp
  intro hwindows
  have hsome : ∃ op ∈ (p.put index .disarmed).operations, op.Open now :=
    (exists_open_put_iff hold .disarmed now).2 (Or.inr ⟨other, op, hother, hop, hopen⟩)
  have harmed := (hwindows now hnow).2 hsome
  simp at harmed

/-- At a reading between the end of a window and its double, only one of the two is still to
come. -/
theorem not_windowsHold_of_rounding (hwindows : WindowsHold clock p)
    (h : ¬RoundsNothingAway clock p input) (hstep : p.step clock input = some p') :
    ¬WindowsHold clock p' := by
  unfold RoundsNothingAway at h
  push Not at h
  rcases h with ⟨index, op, value, rfl, hold, hasked, hpos, now, hnow, hlate, hbetween⟩
  have hp : ∃ new, new.window = some (p.now + (min value MAX_ARM_MS).toNNRat) ∧
      p' = { (p.put index new) with
        dialogs := (handle p.dialogs p.now (.armDialogs (.number value))).1 } := by
    cases op <;> cases hasked
    · exact ⟨.answered (some _), rfl,
        by simpa [step, handled, hold, handle_of_pos hpos, windowOf] using hstep.symm⟩
    · exact ⟨.failed (some _), rfl,
        by simpa [step, handled, hold, handle_of_pos hpos, windowOf] using hstep.symm⟩
  rcases hp with ⟨new, hwindow, rfl⟩
  have hothers : ¬p.OthersOpen index now := by
    intro hopen
    have harmed := (hwindows now hnow).2 ((exists_open_iff hold now).2 (Or.inr hopen))
    exact absurd (of_decide_eq_true harmed) (not_lt.2 hlate)
  intro hafter
  have hboth := (hafter now hnow).trans (exists_open_put_iff hold new now)
  simp only [handle_of_pos hpos, DialogGate.armed, decide_eq_true_iff, lt_max_iff, not_lt.2 hlate,
    false_or, hothers, or_false, Operation.Open, hwindow, Option.some.injEq,
    exists_eq_left'] at hboth
  rcases hbetween with ⟨hbefore, hover⟩ | ⟨hover, hbefore⟩
  · exact absurd (hboth.1 hbefore) (not_lt.2 hover)
  · exact absurd (hboth.2 hbefore) (not_lt.2 hover)

end Windows

/-- In a run from the start, dialogs are suppressed exactly while somebody asks for it if and only
if no operation hands them back while another still does, and rounding moves no deadline past a
reading of the clock. -/
theorem windows_hold_iff {clock : Clock} {inputs : List PageInput} {p : Page}
    (hrun : Machine.run (step clock) {} inputs = some p) :
    Machine.Throughout (step clock) (WindowsHold clock) {} inputs ↔
      Machine.EachStep (step clock) (LeavesWindows clock) {} inputs := by
  apply Machine.throughout_iff_eachStep (I := WindowsHold clock) _ _ _
    (windowsHold_start clock) hrun
  · exact fun _ h => h
  · exact fun _ _ _ h hleaves hstep => h.kept hleaves hstep
  · intro p input p' h hnot hstep
    by_cases halone : DisarmsAlone clock p input
    · exact not_windowsHold_of_rounding h (fun hrounded => hnot ⟨halone, hrounded⟩) hstep
    · exact not_windowsHold_of_disarm halone hstep

/-! ### Whole milliseconds -/

/-- A whole duration, or a reading like those of `Date.now`. -/
def WholeInput : PageInput → Prop
  | .withDialogsArmed (.number ttlMs) => ∃ n : ℕ, ttlMs = n
  | .tick now => ∃ n : ℕ, now = n ∧ n + 60000 < 2 ^ 53
  | _ => True

structure Whole (p : Page) : Prop where
  now : ∃ n : ℕ, p.now = n ∧ n + 60000 < 2 ^ 53
  asked : ∀ op ∈ p.operations, ∀ ttlMs, op.asked = some (.number ttlMs) → ∃ n : ℕ, ttlMs = n

theorem deadline_natCast {now applied : ℕ} (h : now + applied < 2 ^ 53) :
    DialogGate.deadline now applied = now + applied := by
  have hsmall : |(((now + applied : ℕ) : ℤ) : ℚ)| < 2 ^ 53 := by
    rw [Int.cast_natCast, abs_of_nonneg (Nat.cast_nonneg _)]
    exact_mod_cast h
  have hround : Binary64.round (((now : ℚ≥0) : ℚ) + ((applied : ℚ≥0) : ℚ)) =
      ((now + applied : ℕ) : ℚ) := by
    simpa using Binary64.round_intCast hsmall
  unfold DialogGate.deadline
  rw [hround, NNRat.toNNRat_coe_nat]
  exact Nat.cast_add now applied

theorem Whole.roundsNothingAway {clock : Clock} {p : Page} (h : p.Whole) (input : PageInput) :
    RoundsNothingAway clock p input := by
  rintro index op value - hop hasked - now - -
  rcases h.now with ⟨reading, hreading, hbound⟩
  rcases h.asked op (List.mem_of_getElem? hop) value hasked with ⟨n, rfl⟩
  have happlied : (min (n : ℚ) MAX_ARM_MS).toNNRat = ((min n 60000 : ℕ) : ℚ≥0) := by
    rw [← NNRat.toNNRat_coe_nat]
    exact congrArg Rat.toNNRat (Nat.cast_min n 60000).symm
  have hsum : reading + min n 60000 < 2 ^ 53 := by omega
  rw [happlied, hreading, deadline_natCast hsum]

theorem Whole.step {clock : Clock} {p p' : Page} {input : PageInput} (h : p.Whole)
    (hinput : WholeInput input) (hstep : p.step clock input = some p') : p'.Whole := by
  cases step_cases hstep with
  | called ttlMs hcalled =>
      subst hcalled
      refine ⟨h.now, ?_⟩
      intro op hop value hasked
      rcases List.mem_append.1 hop with hbefore | hnew
      · exact h.asked op hbefore value hasked
      · obtain rfl := List.mem_singleton.1 hnew
        cases hasked
        exact hinput
  | @moved index old new hold hasked hwindow =>
      refine ⟨h.now, ?_⟩
      intro op hop value hvalue
      rcases List.mem_or_eq_of_mem_set hop with hbefore | rfl
      · exact h.asked op hbefore value hvalue
      · rcases hasked with hnone | hsame
        · cases hnone.symm.trans hvalue
        · exact h.asked old (List.mem_of_getElem? hold) value (hsame ▸ hvalue)
  | armed ttlMs harming hold hasked hnone hwindow =>
      refine ⟨h.now, ?_⟩
      intro op hop value hvalue
      rcases List.mem_or_eq_of_mem_set hop with hbefore | rfl
      · exact h.asked op hbefore value hvalue
      · cases hnone.symm.trans hvalue
  | disarmed hdisarming hold =>
      refine ⟨h.now, ?_⟩
      intro op hop value hvalue
      rcases List.mem_or_eq_of_mem_set hop with hbefore | rfl
      · exact h.asked op hbefore value hvalue
      · cases hvalue
  | ticked hticked hfollows =>
      subst hticked
      exact ⟨hinput, h.asked⟩

/-- In whole milliseconds, rounding changes nothing. -/
theorem eachStep_roundsNothingAway {clock : Clock} {inputs : List PageInput}
    (h : ∀ input ∈ inputs, WholeInput input) :
    Machine.EachStep (step clock) (RoundsNothingAway clock) {} inputs := by
  intro before input p hbefore hrun
  refine Whole.roundsNothingAway ?_ input
  have hinputs : Machine.EachStep (step clock) (fun _ input => WholeInput input) {} before := by
    intro earlier input' _ hearlier _
    have hmem : input' ∈ before := hearlier.subset (by simp)
    exact h input' (hbefore.subset (List.mem_append_left _ hmem))
  refine hinputs.invariant (fun _ _ _ hp hinput hstep => hp.step hinput hstep) ?_ hrun
  exact ⟨⟨0, rfl, by decide⟩, fun op hop => absurd hop List.not_mem_nil⟩

/-! ### One after the other, and overlapping -/

/-- A clock that only goes forward. -/
def forward : Clock where
  follows now later := decide (now ≤ later)
  refl _ := decide_eq_true le_rfl
  trans h h' := decide_eq_true ((of_decide_eq_true h).trans (of_decide_eq_true h'))

/-- Two submissions overlap, and the first one ends first. -/
def overlapping : List PageInput :=
  [.withDialogsArmed (.number 30000), .handled 0, .replied 0, .withDialogsArmed (.number 30000),
    .handled 1, .replied 1, .settled 0, .handled 0]

/-- The second one is left without suppression. -/
theorem overlap_cuts_short :
    ¬∀ inputs p, Machine.run (step forward) {} inputs = some p → p.WindowsHold forward := by
  intro h
  have hrun : Machine.run (step forward) {} overlapping =
      some { operations := [.disarmed, .running (some 30000)] } := by decide +kernel
  have harmed := (h overlapping _ hrun 0 (forward.refl 0)).2
    ⟨.running (some 30000), by simp, 30000, rfl, by decide +kernel⟩
  exact absurd harmed (by decide +kernel)

/-- Two submissions one after the other. -/
def consecutive : List PageInput :=
  [.withDialogsArmed (.number 30000), .handled 0, .replied 0, .settled 0, .handled 0,
    .withDialogsArmed (.number 30000), .handled 1, .replied 1]

theorem consecutive_windows_hold :
    Machine.Throughout (step forward) (WindowsHold forward) {} consecutive := by
  have hrun : Machine.run (step forward) {} consecutive =
      some { dialogs := { armedUntil := 30000 },
             operations := [.disarmed, .running (some 30000)] } := by decide +kernel
  have halone : Machine.EachStep (step forward) (DisarmsAlone forward) {} consecutive := by
    iterate 8
      refine (Machine.eachStep_cons rfl _).2 ⟨?_, ?_⟩
      -- Only the first operation is there when it disarms.
      · rintro index window ⟨⟩ ⟨⟩ now - (_ | other) op hother hop - <;>
          first | exact hother rfl | cases hop
    exact Machine.eachStep_nil _
  have hwhole : ∀ input ∈ consecutive, WholeInput input := by
    simp only [consecutive, List.forall_mem_cons, WholeInput, List.not_mem_nil, false_imp_iff,
      implies_true, and_true, true_and]
    exact ⟨⟨30000, rfl⟩, 30000, rfl⟩
  have hrounded : Machine.EachStep (step forward) (RoundsNothingAway forward) {} consecutive :=
    eachStep_roundsNothingAway hwhole
  exact (windows_hold_iff hrun).2 fun before input p hbefore hreached =>
    ⟨halone before input p hbefore hreached, hrounded before input p hbefore hreached⟩

/-- Dialogs are suppressed for somebody who asks for it. -/
def OnlyInAWindow (clock : Clock) (p : Page) : Prop :=
  ∀ now, clock.follows p.now now = true → p.dialogs.armed now = true →
    ∃ op ∈ p.operations, op.Open now

theorem OnlyInAWindow.step {clock : Clock} {p p' : Page} {input : PageInput}
    (h : p.OnlyInAWindow clock) (hrounded : RoundsNothingAway clock p input)
    (hstep : p.step clock input = some p') : p'.OnlyInAWindow clock := by
  intro now hfuture hnow
  cases step_cases hstep with
  | called ttlMs hinput =>
      rcases h now hfuture hnow with ⟨op, hop, hopen⟩
      exact ⟨op, List.mem_append_left _ hop, hopen⟩
  | moved hold hasked hwindow =>
      have hopen := (exists_open_iff hold now).1 (h now hfuture hnow)
      refine (exists_open_put_iff hold _ now).2 (hopen.imp_left ?_)
      rintro ⟨deadline, hdeadline, hlater⟩
      exact ⟨deadline, hwindow.trans hdeadline, hlater⟩
  | armed ttlMs hinput hold hasked hnone hwindow =>
      refine (exists_open_put_iff hold _ now).2 ?_
      have hhandled := armed_handle_iff p ttlMs fun value hvalue hpos =>
        hrounded _ _ value hinput hold (hvalue ▸ hasked) hpos now hfuture
      rcases hhandled.1 hnow with hbefore | ⟨deadline, hdeadline, hlater⟩
      · have hopen := (exists_open_iff hold now).1 (h now hfuture hbefore)
        exact Or.inr (hopen.resolve_left (not_open_of_asked hasked now))
      · exact Or.inl ⟨deadline, hwindow.trans hdeadline, hlater⟩
  | disarmed hinput hold =>
      rw [armed_disarm] at hnow
      cases hnow
  | ticked hinput hfollows => exact h now (clock.trans hfollows hfuture) hnow

/-- Whatever overlaps: dialogs are suppressed for somebody who asks for it, or not at all. -/
theorem armed_only_in_a_window {clock : Clock} {inputs : List PageInput} {p : Page}
    (hrun : Machine.run (step clock) {} inputs = some p)
    (h : Machine.EachStep (step clock) (RoundsNothingAway clock) {} inputs) :
    p.OnlyInAWindow clock := by
  refine h.invariant (fun _ _ _ hp hrounded hstep => hp.step hrounded hstep) ?_ hrun
  intro now _ hnow
  cases (armed_disarm {} now).symm.trans hnow

end Page

end Extension

end DsspBot
