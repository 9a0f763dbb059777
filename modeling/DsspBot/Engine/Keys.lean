import DsspBot.Engine.Latch
import DsspBot.Engine.Sweep
import DsspBot.Engine.Verdict
import DsspBot.Lib.Firsts

/-!
# Keys — whom a checkpoint names

Repeats are collapsed on namespaced keys, and the file holds the bare strings. The strings a run
writes name its trainees apart if and only if no two entries of the roster share a string across
namespaces.
-/

namespace DsspBot

open Firsts (firsts)

/-! ## The roster as a pass that keeps first occurrences -/

/-- The string under which a namespaced key is queued and written. -/
def QueueKey.text : QueueKey → String
  | .id value => value
  | .name value => value
  | .position index => "#" ++ Nat.repr index

theorem queueKey_eq_text (trainee : TraineeRef) (index : Nat) :
    queueKey trainee index = (keyNamespace trainee index).text := by
  rcases trainee with ⟨id, name⟩
  cases id with
  | some id => rfl
  | none => cases name <;> rfl

/-- An entry of the roster and where it stands. -/
def indexedKey (entry : TraineeRef × Nat) : QueueKey :=
  keyNamespace entry.1 entry.2

theorem dedupeFrom_eq_firsts (index : Nat) (seen : List QueueKey) (trainees : List TraineeRef) :
    dedupeFrom index seen trainees =
      (firsts indexedKey seen (trainees.zipIdx index)).map fun entry =>
        (queueKey entry.1 entry.2, entry.1) := by
  induction trainees generalizing index seen with
  | nil => rfl
  | cons trainee rest ih =>
      by_cases hseen : keyNamespace trainee index ∈ seen
      · have hskip : indexedKey (trainee, index) ∈ seen := hseen
        simp only [dedupeFrom, hseen, if_true, List.zipIdx_cons, Firsts.firsts_cons_of_seen hskip]
        exact ih (index + 1) seen
      · have hkeep : indexedKey (trainee, index) ∉ seen := hseen
        simp only [dedupeFrom, hseen, if_false, List.zipIdx_cons, Firsts.firsts_cons_of_fresh hkeep,
          List.map_cons, List.cons.injEq, true_and]
        exact ih (index + 1) (keyNamespace trainee index :: seen)

/-- Entries with one string have it in one namespace. -/
def KeysAgree (trainees : List TraineeRef) : Prop :=
  ∀ i j a c, trainees[i]? = some a → trainees[j]? = some c →
    queueKey a i = queueKey c j → keyNamespace a i = keyNamespace c j

/-- The queued keys are distinct exactly for the rosters whose namespaces stay apart. -/
theorem queuedTasks_ids_nodup_iff (trainees : List TraineeRef) :
    ((queuedTasks trainees).map (·.id)).Nodup ↔ KeysAgree trainees := by
  have hids : (queuedTasks trainees).map (·.id) =
      (firsts indexedKey [] trainees.zipIdx).map fun entry => queueKey entry.1 entry.2 := by
    simp [queuedTasks, dedupe, dedupeFrom_eq_firsts, toTask, Function.comp_def]
  have htext : ∀ x y : TraineeRef × Nat, indexedKey x = indexedKey y →
      queueKey x.1 x.2 = queueKey y.1 y.2 := by
    intro x y hxy
    calc
      queueKey x.1 x.2 = (indexedKey x).text := queueKey_eq_text _ _
      _ = (indexedKey y).text := congrArg QueueKey.text hxy
      _ = queueKey y.1 y.2 := (queueKey_eq_text _ _).symm
  rw [hids, Firsts.nodup_map_firsts_iff htext]
  constructor
  · intro h i j a c ha hc heq
    exact h (a, i) (List.mem_zipIdx_iff_getElem?.2 ha) (c, j)
      (List.mem_zipIdx_iff_getElem?.2 hc) heq
  · rintro h ⟨a, i⟩ ha ⟨c, j⟩ hc heq
    exact h i j a c (List.mem_zipIdx_iff_getElem?.1 ha) (List.mem_zipIdx_iff_getElem?.1 hc) heq

/-! ## The moment of a write -/

section Moment

variable {b : Batch} {store : CheckpointStore} {e e' : Engine}

/-- The writes of a log that was added to are its own and the added ones. -/
theorem Engine.unwritten_of_writes {more : List EngineEvent} (hlog : e'.log = e.log ++ more)
    (hwrites : e'.writes = e.writes) (cp : BatchCheckpoint) (landed : Bool) :
    EngineEvent.wrote cp landed ∉ more := by
  have hnone : more.filterMap EngineEvent.written = [] := by
    have hsplit : e'.writes = e.writes ++ more.filterMap EngineEvent.written := by
      simp [Engine.writes, hlog]
    simpa [hwrites] using hsplit
  intro hmem
  have hwritten := List.filterMap_eq_nil_iff.1 hnone _ hmem
  cases hwritten

/-- A step adds at most one write to the log, and then as the first event it adds. -/
theorem Batch.Step.log_cases (h : b.Step e e') :
    ∃ more, e'.log = e.log ++ more ∧
      ((∀ cp landed, EngineEvent.wrote cp landed ∉ more) ∨
        ∃ site now landed moves, e.pc = .writing site ∧
          more = .wrote (b.snapshot e site now) landed :: moves ∧
          ∀ cp landed, EngineEvent.wrote cp landed ∉ moves) := by
  have hstart : ∀ x : Engine, Onward (fun _ => True) x x := fun x => .refl x
  cases h.wrote with
  | nothing hwrites =>
      rcases h.onward.log with ⟨more, hlog, -⟩
      exact ⟨more, hlog, Or.inl (Engine.unwritten_of_writes hlog hwrites)⟩
  | @landed site now hpc hwrites hafter =>
      -- After the write itself only the machine moves.
      rcases ((hstart _).writeLanded (fun _ _ _ => trivial) site).log with ⟨moves, hmoves, -⟩
      rw [← hafter] at hmoves
      refine ⟨_ :: moves, by simpa using hmoves, Or.inr ⟨site, now, true, moves, hpc, rfl, ?_⟩⟩
      apply Engine.unwritten_of_writes hmoves
      rw [hwrites]
      exact (Engine.writes_of_written rfl).symm
  | @failed site now text hpc hwrites hafter =>
      rcases ((hstart _).writeFailed (fun _ _ _ => trivial) text site).log with ⟨moves, hmoves, -⟩
      rw [← hafter] at hmoves
      refine ⟨_ :: moves, by simpa using hmoves, Or.inr ⟨site, now, false, moves, hpc, rfl, ?_⟩⟩
      apply Engine.unwritten_of_writes hmoves
      rw [hwrites]
      exact (Engine.writes_of_written rfl).symm

/-- Every write of a log was made in a state of the run, with what came before it as its log. -/
def Traced (b : Batch) (store : CheckpointStore) (e : Engine) : Prop :=
  ∀ before cp landed after, e.log = before ++ .wrote cp landed :: after →
    ∃ x site now, b.Reachable store x ∧ x.pc = .writing site ∧ x.log = before ∧
      cp = b.snapshot x site now

theorem Traced.step (h : Traced b store e) (hreach : b.Reachable store e) (hstep : b.Step e e') :
    Traced b store e' := by
  rcases hstep.log_cases with ⟨more, hlog, hmore⟩
  intro before cp landed after hsplit
  rw [hlog] at hsplit
  -- The write stands in the old log, or it is the one the step has made.
  rcases List.append_eq_append_iff.1 hsplit with ⟨rest, hbefore, hrest⟩ | ⟨rest, hold, hrest⟩
  · rcases hmore with hnone | ⟨site, now, landed', moves, hpc, rfl, hmoves⟩
    · exact absurd (hrest ▸ List.mem_append_right _ List.mem_cons_self) (hnone cp landed)
    · cases rest with
      | nil =>
          have hparts := List.cons.inj hrest
          cases hparts.1
          exact ⟨e, site, now, hreach, hpc, by simpa using hbefore.symm, rfl⟩
      | cons ev rest =>
          have hparts := List.cons.inj hrest
          exact absurd (hparts.2 ▸ List.mem_append_right _ List.mem_cons_self) (hmoves cp landed)
  · cases rest with
    | nil =>
        have hhead : more = .wrote cp landed :: after := by simpa using hrest.symm
        rcases hmore with hnone | ⟨site, now, landed', moves, hpc, rfl, hmoves⟩
        · exact absurd (hhead ▸ List.mem_cons_self) (hnone cp landed)
        · cases (List.cons.inj hhead).1
          exact ⟨e, site, now, hreach, hpc, by simpa using hold, rfl⟩
    | cons ev rest =>
        have hparts := List.cons.inj hrest
        cases hparts.1
        exact h before cp landed rest hold

theorem Batch.Reachable.traced (h : b.Reachable store e) : Traced b store e := by
  rcases h with ⟨control, hcontrol, hreach⟩
  have hboth : b.Reachable store e ∧ Traced b store e := by
    refine hreach.invariant (P := fun e => b.Reachable store e ∧ Traced b store e) ?_ ⟨?_, ?_⟩
    · rintro x input x' ⟨hx, htraced⟩ hstep
      refine ⟨?_, htraced.step hx (Batch.step_cases hstep)⟩
      rcases hx with ⟨control', hcontrol', hx⟩
      exact ⟨control', hcontrol', hx.tail hstep⟩
    · exact ⟨control, hcontrol, .refl _⟩
    · intro before cp landed after hsplit
      have hmem : EngineEvent.wrote cp landed ∈ (b.start control store).log := by
        simp [hsplit]
      cases List.mem_singleton.1 hmem
  exact hboth.2

end Moment

/-! ## The keys of the files -/

/-- Whom a file leaves to a resume: the trainee in flight, and the queue. -/
def BatchCheckpoint.keys (cp : BatchCheckpoint) : List String :=
  cp.inFlight.toList ++ cp.pending

/-- The keys of every file are distinct, and none is that of a trainee sent before it. -/
def KeysApart (log : List EngineEvent) : Prop :=
  ∀ before cp landed after, log = before ++ .wrote cp landed :: after →
    cp.keys.Nodup ∧ ∀ task req, .submitted task req ∈ before → task.id ∉ cp.keys

section Apart

variable {b : Batch} {store : CheckpointStore} {e : Engine} {l : WorkLedger}

/-- At a write, the batch is what is closed followed by the keys of the file, and whoever was sent
is closed. -/
theorem Sim.keys_at_write {slot₀ : Slot} {site : WriteSite} (h : Sim b slot₀ e l)
    (hpc : e.pc = .writing site) (now : String) :
    b.tasks.map (·.id) = l.closed.map (·.1.id) ++ (b.snapshot e site now).keys ∧
      ∀ task req, .submitted task req ∈ e.log → task.id ∈ l.closed.map (·.1.id) := by
  have hdescribes := h.describes hpc now
  rcases h.stage.quiet_at_write hpc with ⟨-, -, hquiet⟩
  constructor
  · calc
      b.tasks.map (·.id) = l.picture.tasks.map (·.id) := by rw [h.sound.arranged.order]
      _ = l.closed.map (·.1.id) ++ (b.snapshot e site now).keys := by
          unfold BatchCheckpoint.keys
          rw [hdescribes.inFlight, hdescribes.pending]
          cases hopened : l.opened <;>
            simp [WriteAhead.Picture.tasks, WriteAhead.Ledger.picture, Function.comp_def, hopened]
  · intro task req hsent
    have hhanded : WriteAhead.Event.handed task ∈ l.trace := by
      rw [← h.trace]
      exact List.mem_filterMap.2 ⟨_, hsent, rfl⟩
    rcases h.sound.handed_closed hquiet hhanded with ⟨entry, hentry, rfl⟩
    exact List.mem_map.2 ⟨entry, hentry, rfl⟩

/-- Distinct queue keys keep the keys of every file apart. -/
theorem Batch.Reachable.keysApart (h : b.Reachable store e)
    (hnodup : (b.tasks.map (·.id)).Nodup) : KeysApart e.log := by
  intro before cp landed after hsplit
  rcases h.traced before cp landed after hsplit with ⟨x, site, now, hx, hpc, rfl, rfl⟩
  rcases hx.sim with ⟨l, hsim⟩
  rcases hsim.keys_at_write hpc now with ⟨hkeys, hclosed⟩
  rw [hkeys] at hnodup
  have hparts := List.nodup_append'.1 hnodup
  refine ⟨hparts.2.1, ?_⟩
  intro task req hsent hmem
  exact hparts.2.2 (hclosed task req hsent) hmem

/-- The first file of a batch with somebody to do lists every key of the queue. -/
theorem exists_full_file (b : Batch) (store : CheckpointStore) (hsome : b.tasks ≠ []) :
    ∃ e cp, b.Reachable store e ∧ e.log.getLast? = some (.wrote cp true) ∧
      cp.keys = b.tasks.map (·.id) := by
  obtain ⟨task, queue, htasks⟩ := List.exists_cons_of_ne_nil hsome
  rcases sweep_start b store with ⟨e₁, hreach₁, h₁⟩
  rcases sweep_dequeue (b := b) (htasks ▸ h₁) with ⟨e₂, hreach₂, h₂⟩
  let cp := b.snapshot e₂ (.inFlight task) ""
  let e : Engine :=
    { e₂ with
      store := e₂.store.save cp (.ok ())
      log := e₂.log ++ [.wrote cp true]
      pc := .entering task }
  have hwrite : b.step e₂ (.write "" (.ok ())) = some e := by
    simp [Batch.step, h₂.pc_eq, Batch.wrote, Batch.writeLanded, e, cp]
  refine ⟨e, cp, ⟨none, Or.inl rfl, (hreach₁.trans hreach₂).tail hwrite⟩, ?_, ?_⟩
  · exact List.getLast?_concat
  · simp [BatchCheckpoint.keys, cp, Batch.snapshot, Batch.inFlightAt, TaskQueue.ids, h₂.queue_eq,
      htasks]

end Apart

/-- Every file of every run of a batch names its trainees apart if and only if no two entries of
the roster share a key across namespaces. -/
theorem checkpoint_keys_apart_iff (b : Batch) :
    (∀ store e, b.Reachable store e → KeysApart e.log) ↔ KeysAgree b.trainees := by
  rw [← queuedTasks_ids_nodup_iff]
  constructor
  · intro h
    by_cases hnone : b.tasks = []
    · have hempty : queuedTasks b.trainees = [] := hnone
      simp [hempty]
    · rcases exists_full_file b { path := "", slot := .absent } hnone with
        ⟨e, cp, hreach, hlast, hkeys⟩
      rcases List.getLast?_eq_some_iff.1 hlast with ⟨before, hlog⟩
      have hapart := (h _ e hreach before cp true [] hlog).1
      exact hkeys ▸ hapart
  · intro hnodup store e hreach
    exact hreach.keysApart hnodup

end DsspBot
