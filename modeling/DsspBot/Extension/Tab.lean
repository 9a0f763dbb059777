import DsspBot.Extension.PortalAdapter
import DsspBot.Extension.Turns
import DsspBot.Lib.Places

/-!
# Tab — the engine and the tab it drives

The engine asks the portal through a tab. Its adapter waits fifteen seconds for an answer and then
gives up, but the tab does not: it may take up or finish a command that nobody waits for any more.
An answer takes its time too, the more so after a submission, which does not answer before it has
tried to hand the dialogs back. What the engine believes about a trainee's form therefore depends on
when a late command comes.
-/

namespace DsspBot

namespace Extension

/-- What crosses to the tab where the engine waits for the portal. -/
def Await.command : Await → Option PortalCommand
  | .initializeTrainingSession => some .initializeSession
  | .preparing _ _ .isPortalPage => some .isPage
  | .preparing _ _ .isTrainingSessionReady => some .sessionReady
  | .preparing _ _ .initializeTrainingSession => some .initializeSession
  | .preparing task _ .prepareTrainee => some (.prepareTrainee task.trainee)
  | .preparing task _ .fillTrainingForm =>
      some (.fillForm { traineeId := task.trainee.id, session := task.session })
  | .preparing _ _ .validateTrainingForm => some .validateForm
  | .submitting task _ => some (.submitForm task)
  | .verifying _ _ _ => some .waitResult
  | _ => none

/-- These two are surrounded by the suppression of dialogs. -/
def PortalCommand.suppressesDialogs : PortalCommand → Bool
  | .submitForm _ => true
  | .waitResult => true
  | _ => false

/-! ## The remote end -/

namespace RemotePortalAdapter

/-- Only the text and the code of an error cross, and whether it is worth another attempt is told
from the code. -/
def parse : Answer → Answer
  | .failure error =>
      .failure
        { message := error.message
          code := error.code
          recoverable := [ErrorCode.elementNotFound, .timeout, .network,
            .portalUnavailable].contains error.code }
  | answer => answer

/-- Without an answer, a question is answered with no. -/
def unanswered (await : Await) (message : String) : Answer :=
  match await.command with
  | some .isPage => .told false
  | some .sessionReady => .told false
  | _ => .failure (.portalUnavailable message)

end RemotePortalAdapter

/-! ## The engine and the tab -/

structure Tab where
  engine : AutomationEngine := {}
  adapter : DSSPPortalAdapter := {}
  attached : Bool := true
  /-- Every command that has been sent, and how far it is. -/
  processes : List Process := []
  /-- The one that is waited for. -/
  waiting : Option Nat := none

inductive TabInput
  /-- Whatever moves the engine but an answer. -/
  | engine (input : EngineInput)
  | attach
  | detach
  /-- The tab takes the command up, and its dialogs could be suppressed or not. -/
  | starts (id : Nat) (armed : Bool)
  | lands (id : Nat) (landing : Landing)
  /-- The answer of a process reaches the other side. Dialogs that it suppressed have been handed
  back by then, or handing them back has failed. -/
  | arrives (id : Nat)
  | timesOut (message : String)
  /-- There is no tab to send the command to. -/
  | refused
  deriving DecidableEq

namespace Tab

variable (options : AutomationEngineOptions) (reading : PageReading) (t : Tab)

/-- The engine has come to where it is, and sends what it is to ask there. -/
def send (engine : AutomationEngine) : Tab :=
  match engine.await.command, t.attached with
  | some command, true =>
      { t with
        engine := engine
        processes := t.processes ++ [.received command]
        waiting := some t.processes.length }
  | _, _ => { t with engine := engine, waiting := none }

/-- An answer reaches the engine. -/
def hears (answer : Answer) : Option Tab :=
  (t.engine.answered options answer).map t.send

/-- A process goes on, and the adapter with it. -/
def carriesOn (id : Nat) (result : DSSPPortalAdapter × Process) : Tab :=
  { t with adapter := result.1, processes := t.processes.set id result.2 }

def starts (id : Nat) (armed : Bool) : Option Tab :=
  match t.processes[id]? with
  | some (.received command) =>
      if command.suppressesDialogs && !armed then
        some (t.carriesOn id
          (t.adapter, .answering (.failure (.timeout "MAIN world bridge" 5000))))
      else some (t.carriesOn id (t.adapter.start reading command))
  | _ => none

def lands (id : Nat) (landing : Landing) : Option Tab :=
  (t.processes[id]?).bind fun process =>
    (t.adapter.land reading process landing).map (t.carriesOn id)

/-- A process is over, and its answer goes to the engine if that still waits for it. -/
def arrives (id : Nat) : Option Tab :=
  match t.processes[id]? with
  | some (.answering answer) =>
      let done := t.carriesOn id (t.adapter, .over)
      if t.waiting = some id then done.hears options (RemotePortalAdapter.parse answer)
      else some done
  | _ => none

def step : TabInput → Option Tab
  | .engine (.answered _) => none
  | .engine .run =>
      if t.engine.running then some { t with engine := t.engine.run }
      else some (t.send t.engine.run)
  | .engine input =>
      (t.engine.step options input).map fun engine =>
        if input.proceeds then t.send engine else { t with engine := engine }
  | .attach => some { t with attached := true }
  | .detach => some { t with attached := false }
  | .starts id armed => t.starts reading id armed
  | .lands id landing => t.lands reading id landing
  | .arrives id => t.arrives options id
  | .timesOut message =>
      if t.waiting.isSome then
        t.hears options (RemotePortalAdapter.unanswered t.engine.await message)
      else none
  | .refused =>
      if t.waiting.isNone && t.engine.await.command.isSome then
        t.hears options (RemotePortalAdapter.unanswered t.engine.await
          "Portal adapter is not attached to a tab.")
      else none

end Tab

namespace Tab

section Steps

variable {options : AutomationEngineOptions} {reading : PageReading} {e : AutomationEngine}
  {input : EngineInput} {answer : Answer} {t t' : Tab}

@[simp] theorem send_engine : (t.send e).engine = e := by
  unfold send
  split <;> rfl

@[simp] theorem send_adapter : (t.send e).adapter = t.adapter := by
  unfold send
  split <;> rfl

/-- Whatever else moves the engine, it moves on by itself or has something to ask. -/
theorem step_engine (hrun : input ≠ .run) (hanswer : ∀ answer, input ≠ .answered answer) :
    t.step options reading (.engine input) =
      (t.engine.step options input).map fun engine =>
        if input.proceeds then t.send engine else { t with engine := engine } := by
  cases input with
  | run => exact absurd rfl hrun
  | answered answer => exact absurd rfl (hanswer answer)
  | _ => rfl

/-! ## One answer for each post -/

/-- No post has been answered twice, and what still waits for an answer has none. -/
structure AnsweredOnce (t : Tab) : Prop where
  distinct : (t.adapter.replies.map (·.1)).Nodup
  posted : ∀ index ∈ t.adapter.replies.map (·.1), index < t.adapter.posts.length
  waits : ∀ id index : Nat, t.processes[id]? = some (.posting index) →
    index < t.adapter.posts.length ∧ index ∉ t.adapter.replies.map (·.1)
  apart : ∀ id other index : Nat, t.processes[id]? = some (.posting index) →
    t.processes[other]? = some (.posting index) → id = other

namespace AnsweredOnce

theorem start : AnsweredOnce {} where
  distinct := .nil
  posted := by simp
  waits := by simp
  apart := by simp

theorem engine (h : AnsweredOnce t) : AnsweredOnce { t with engine := e } :=
  ⟨h.distinct, h.posted, h.waits, h.apart⟩

/-- A command that is sent waits for nothing yet. -/
theorem send (h : AnsweredOnce t) : AnsweredOnce (t.send e) := by
  unfold Tab.send
  split
  · have hsame : ∀ (command : PortalCommand) (id index : Nat),
        (t.processes ++ [.received command])[id]? = some (.posting index) →
          t.processes[id]? = some (.posting index) := by
      intro command id index hid
      rcases Places.snoc_cases hid with hbefore | ⟨-, hnew⟩
      · exact hbefore
      · cases hnew
    refine ⟨h.distinct, h.posted, fun id index hid => h.waits id index (hsame _ id index hid), ?_⟩
    exact fun id other index hid hother =>
      h.apart id other index (hsame _ id index hid) (hsame _ other index hother)
  · exact ⟨h.distinct, h.posted, h.waits, h.apart⟩

/-- A process that goes on may post what is new, or get the answer it waits for. -/
theorem carriesOn {id : Nat} {result : DSSPPortalAdapter × Process} (h : AnsweredOnce t)
    (hposts : t.adapter.posts.length ≤ result.1.posts.length)
    (hdistinct : (result.1.replies.map (·.1)).Nodup)
    (hposted : ∀ index ∈ result.1.replies.map (·.1), index < result.1.posts.length)
    (hown : ∀ index, result.2 = .posting index →
      index < result.1.posts.length ∧ index ∉ result.1.replies.map (·.1))
    (hothers : ∀ other index : Nat, other ≠ id → t.processes[other]? = some (.posting index) →
      index ∉ result.1.replies.map (·.1) ∧ result.2 ≠ .posting index) :
    AnsweredOnce (t.carriesOn id result) where
  distinct := hdistinct
  posted := hposted
  waits := by
    intro other index hother
    rcases Places.set_cases hother with ⟨-, hnew⟩ | ⟨hne, hbefore⟩
    · exact hown index hnew.symm
    · exact ⟨(h.waits other index hbefore).1.trans_le hposts, (hothers other index hne hbefore).1⟩
  apart := by
    intro one other index hone hother
    rcases Places.set_cases hone with ⟨rfl, hnew⟩ | ⟨hne, hbefore⟩
    · rcases Places.set_cases hother with ⟨rfl, -⟩ | ⟨hne, hbefore⟩
      · rfl
      · exact absurd hnew.symm (hothers other index hne hbefore).2
    · rcases Places.set_cases hother with ⟨rfl, hnew⟩ | ⟨-, hother⟩
      · exact absurd hnew.symm (hothers one index hne hbefore).2
      · exact h.apart one other index hbefore hother

/-- A process that goes on without the portal posts nothing and gets no answer to a post. -/
theorem quiet {id : Nat} {result : DSSPPortalAdapter × Process} (h : AnsweredOnce t)
    (hposts : result.1.posts = t.adapter.posts) (hreplies : result.1.replies = t.adapter.replies)
    (hposting : ∀ index, result.2 ≠ .posting index) : AnsweredOnce (t.carriesOn id result) := by
  have hlength : t.adapter.posts.length ≤ result.1.posts.length := by rw [hposts]
  refine h.carriesOn hlength ?_ ?_ (fun index heq => absurd heq (hposting index)) ?_
  · exact hreplies ▸ h.distinct
  · rw [hreplies, hposts]
    exact h.posted
  · intro other index _ hother
    exact ⟨hreplies ▸ (h.waits other index hother).2, hposting index⟩

theorem starts {id : Nat} {armed : Bool} (h : AnsweredOnce t)
    (hstep : t.starts reading id armed = some t') : AnsweredOnce t' := by
  unfold Tab.starts at hstep
  split at hstep
  · next command _ =>
      split at hstep <;> cases hstep
      · exact h.quiet rfl rfl (by simp)
      · have hstart := @DSSPPortalAdapter.posting_start reading t.adapter command
        rcases hstart with ⟨hreplies, ⟨hposts, hposting⟩ | ⟨post, hposts, hposting⟩⟩
        · exact h.quiet hposts hreplies hposting
        · -- Its place among the posts is new.
          have hlength : (t.adapter.start reading command).1.posts.length =
              t.adapter.posts.length + 1 := by simp [hposts]
          refine h.carriesOn (by omega) (hreplies ▸ h.distinct) ?_ ?_ ?_
          · intro index hindex
            have hless := h.posted index (hreplies ▸ hindex)
            omega
          · intro index heq
            obtain rfl : t.adapter.posts.length = index := by simpa [hposting] using heq
            refine ⟨by omega, fun hindex => ?_⟩
            exact lt_irrefl _ (h.posted _ (hreplies ▸ hindex))
          · intro other index _ hother
            rcases h.waits other index hother with ⟨hless, hopen⟩
            refine ⟨hreplies ▸ hopen, fun heq => ?_⟩
            obtain rfl : t.adapter.posts.length = index := by simpa [hposting] using heq
            exact lt_irrefl _ hless
  · cases hstep

theorem lands {id : Nat} {landing : Landing} (h : AnsweredOnce t)
    (hstep : t.lands reading id landing = some t') : AnsweredOnce t' := by
  rcases Option.bind_eq_some_iff.1 hstep with ⟨process, hprocess, hrest⟩
  rcases Option.map_eq_some_iff.1 hrest with ⟨result, hland, rfl⟩
  have hlands := DSSPPortalAdapter.lands_of_land hland
  cases hlands with
  | @records index snapshot =>
      rcases h.waits id index hprocess with ⟨hless, hopen⟩
      refine h.carriesOn le_rfl ?_ ?_ (by simp) ?_
      · rw [List.map_append, List.map_singleton]
        exact h.distinct.append (List.nodup_singleton _) (by simpa using hopen)
      · intro other hother
        rw [List.map_append, List.map_singleton] at hother
        rcases List.mem_append.1 hother with hbefore | hnew
        · exact h.posted other hbefore
        · rwa [List.mem_singleton.1 hnew]
      · intro other index' hne hother
        refine ⟨fun hindex => ?_, by simp⟩
        rw [List.map_append, List.map_singleton] at hindex
        rcases List.mem_append.1 hindex with hbefore | hnew
        · exact (h.waits other index' hother).2 hbefore
        · rw [List.mem_singleton.1 hnew] at hother
          exact hne (h.apart other id index hother hprocess)
  | _ => exact h.quiet rfl rfl (by simp)

theorem hears (h : AnsweredOnce t) (hheard : t.hears options answer = some t') :
    AnsweredOnce t' := by
  rcases Option.map_eq_some_iff.1 hheard with ⟨engine, -, rfl⟩
  exact h.send

theorem ofEngine (h : AnsweredOnce t)
    (hstep : t.step options reading (.engine input) = some t') : AnsweredOnce t' := by
  by_cases hrun : input = .run
  · subst hrun
    simp only [Tab.step] at hstep
    split at hstep <;> cases hstep
    · exact h.engine
    · exact h.send
  by_cases hanswer : ∃ answer, input = .answered answer
  · rcases hanswer with ⟨answer, rfl⟩
    cases hstep
  rw [step_engine hrun fun answer heq => hanswer ⟨answer, heq⟩] at hstep
  rcases Option.map_eq_some_iff.1 hstep with ⟨e, -, rfl⟩
  split
  · exact h.send
  · exact h.engine

theorem step {input : TabInput} (h : AnsweredOnce t)
    (hstep : t.step options reading input = some t') : AnsweredOnce t' := by
  cases input with
  | engine input => exact h.ofEngine hstep
  | attach =>
      cases hstep
      exact ⟨h.distinct, h.posted, h.waits, h.apart⟩
  | detach =>
      cases hstep
      exact ⟨h.distinct, h.posted, h.waits, h.apart⟩
  | starts id armed => exact h.starts hstep
  | lands id landing => exact h.lands hstep
  | arrives id =>
      simp only [Tab.step, Tab.arrives] at hstep
      split at hstep
      · have hover : AnsweredOnce (t.carriesOn id (t.adapter, .over)) :=
          h.quiet rfl rfl (by simp)
        split at hstep
        · exact hover.hears hstep
        · cases hstep
          exact hover
      · cases hstep
  | timesOut message =>
      simp only [Tab.step] at hstep
      split at hstep
      · exact h.hears hstep
      · cases hstep
  | refused =>
      simp only [Tab.step] at hstep
      split at hstep
      · exact h.hears hstep
      · cases hstep

end AnsweredOnce

/-- The portal's answer to a post is the only one it gives. -/
theorem posts_are_answered_once {inputs : List TabInput}
    (hrun : Machine.run (step options reading) {} inputs = some t) :
    (t.adapter.replies.map (·.1)).Nodup := by
  have honce : AnsweredOnce t :=
    Machine.Reaches.invariant (P := AnsweredOnce) (fun _ _ _ h hstep => h.step hstep)
      AnsweredOnce.start ⟨inputs, hrun⟩
  exact honce.distinct

end Steps

end Tab

end Extension

end DsspBot
