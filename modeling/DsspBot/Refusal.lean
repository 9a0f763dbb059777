import DsspBot.Owed

/-!
# Refusal — what it takes to lift a refusal

An operator may call the gate again and again, acknowledged or not, and any of its saves may fail.
Whatever the calls, the file keeps whom it places and in which order, and a start that was refused
stays refused until an acknowledged call with nothing left over has closed the file out.
-/

namespace DsspBot

/-! ## Calls of the gate -/

/-- One call of the gate, with what becomes of its saves. -/
structure GuardCall where
  resume : Bool
  saves : GuardSaves := {}

namespace GuardCall

/-- The file versions a call writes or tries to write, each with the result of its save. -/
def writes (loaded : StoredCheckpoint) (call : GuardCall) :
    List (BatchCheckpoint × Except String Unit) :=
  let reading := Reading.of loaded
  (if reading.recovered || reading.suspect.isSome then
      [(reading.previous, call.saves.interruption)]
    else []) ++
    -- Only an acknowledged call goes on to a second write.
    (if call.resume && reading.closesOut then
        [({ reading.previous with status := .finished }, call.saves.closeOut)]
      else [])

/-- What a call leaves of the slot. -/
def leaves (store : CheckpointStore) (call : GuardCall) : CheckpointStore :=
  (guard store call.resume call.saves).2

/-- The call answers with an empty plan that owes nobody, and its last write, a finished file,
was saved. -/
def ClosesOut (store : CheckpointStore) (call : GuardCall) : Prop :=
  call.resume = true ∧
    (∃ start carried, (guard store true call.saves).1 = .ok start ∧
      start.plan = .resume [] carried 0) ∧
    ∃ loaded cp, store.slot = .file loaded ∧ (cp, .ok ()) ∈ call.writes loaded ∧
      cp.status = .finished ∧ (call.leaves store).slot = .file (.written cp)

end GuardCall

/-- The store after some calls in a row, with no run in between. -/
def afterCalls (store : CheckpointStore) (calls : List GuardCall) : CheckpointStore :=
  calls.foldl GuardCall.leaves store

@[simp] theorem afterCalls_append (store : CheckpointStore) (calls more : List GuardCall) :
    afterCalls store (calls ++ more) = afterCalls (afterCalls store calls) more :=
  List.foldl_append

@[simp] theorem afterCalls_cons (store : CheckpointStore) (call : GuardCall)
    (calls : List GuardCall) :
    afterCalls store (call :: calls) = afterCalls (call.leaves store) calls :=
  rfl

/-- The slot changes by the listed writes and by nothing else. -/
theorem GuardCall.leaves_eq {store : CheckpointStore} {loaded : StoredCheckpoint}
    (h : store.slot = .file loaded) (call : GuardCall) :
    call.leaves store =
      (call.writes loaded).foldl (fun store write => store.save write.1 write.2) store := by
  rcases call with ⟨resume, saves⟩
  unfold leaves writes guard
  rw [CheckpointStore.loadWithProvenance_of_file h]
  simp only
  -- One case for each write that is made or left out.
  cases resume with
  | true =>
      simp only [if_true, Bool.true_and]
      split <;> split <;> rfl
  | false =>
      simp only [Bool.false_eq_true, if_false, Bool.false_and]
      split <;> split <;> rfl

/-- After a call the slot holds the file it held, the interrupted one, or the closed-out one. -/
theorem GuardCall.leaves_cases {store : CheckpointStore} {loaded : StoredCheckpoint}
    (h : store.slot = .file loaded) (call : GuardCall) :
    (call.leaves store).slot = .file loaded ∨
      (call.leaves store).slot = .file (.written (Reading.of loaded).previous) ∨
        (call.leaves store).slot =
            .file (.written { (Reading.of loaded).previous with status := .finished }) ∧
          call.resume = true ∧ (Reading.of loaded).closesOut = true ∧
            call.saves.closeOut = .ok () := by
  rw [call.leaves_eq h, GuardCall.writes, List.foldl_append]
  generalize hfirst : (if (Reading.of loaded).recovered || (Reading.of loaded).suspect.isSome then
    [((Reading.of loaded).previous, call.saves.interruption)] else []).foldl
      (fun store write => store.save write.1 write.2) store = first
  -- The first write, if it is made and lands, leaves the interrupted file.
  have hslot : first.slot = .file loaded ∨
      first.slot = .file (.written (Reading.of loaded).previous) := by
    rw [← hfirst]
    split
    · rcases save_slot store (Reading.of loaded).previous call.saves.interruption with
        hkept | hsaved
      · exact Or.inl (hkept.trans h)
      · exact Or.inr hsaved
    · exact Or.inl h
  simp only
  split
  · next hclose =>
      have hparts : call.resume = true ∧ (Reading.of loaded).closesOut = true := by
        simpa using hclose
      cases hresult : call.saves.closeOut with
      | ok _ => exact Or.inr (Or.inr ⟨rfl, hparts.1, hparts.2, rfl⟩)
      | error text =>
          rcases hslot with hkept | hsaved
          · exact Or.inl hkept
          · exact Or.inr (Or.inl hsaved)
  · rcases hslot with hkept | hsaved
    · exact Or.inl hkept
    · exact Or.inr (Or.inl hsaved)

/-- An acknowledged call that closes the file out answers with an empty plan that owes nobody. -/
theorem closesOut_of_saved {store : CheckpointStore} {loaded : StoredCheckpoint} {call : GuardCall}
    (h : store.slot = .file loaded) (hresume : call.resume = true)
    (hcloses : (Reading.of loaded).closesOut = true) (hsaved : call.saves.closeOut = .ok ())
    (hslot : (call.leaves store).slot =
      .file (.written { (Reading.of loaded).previous with status := .finished })) :
    call.ClosesOut store := by
  have hparts : (Reading.of loaded).roster = [] ∧ (Reading.of loaded).owed = 0 := by
    simpa [Reading.closesOut] using hcloses
  refine ⟨hresume, ?_, loaded, _, h, ?_, rfl, hslot⟩
  · rcases guard_resumes h call.saves with ⟨start, hstart, hplan⟩
    rw [hparts.1, hparts.2] at hplan
    exact ⟨start, _, hstart, hplan⟩
  · refine List.mem_append_right _ ?_
    simp [hresume, hcloses, hsaved]

/-! ## What every version of the file keeps -/

/-- The later file says the same of everybody: only its status, and whether its first queued trainee
already counts as in flight, may differ. -/
structure SameRecord (original later : BatchCheckpoint) : Prop where
  startedAt : later.startedAt = original.startedAt
  total : later.total = original.total
  results : later.results = original.results
  order : later.inFlight.toList ++ later.pending = original.inFlight.toList ++ original.pending

namespace SameRecord

theorem refl (cp : BatchCheckpoint) : SameRecord cp cp :=
  ⟨rfl, rfl, rfl, rfl⟩

theorem trans {cp cp' cp'' : BatchCheckpoint} (h : SameRecord cp cp') (h' : SameRecord cp' cp'') :
    SameRecord cp cp'' :=
  ⟨h'.startedAt.trans h.startedAt, h'.total.trans h.total, h'.results.trans h.results,
    h'.order.trans h.order⟩

/-- The status is not part of the record. -/
theorem status {cp cp' : BatchCheckpoint} (h : SameRecord cp cp') (s : CheckpointStatus) :
    SameRecord cp { cp' with status := s } :=
  ⟨h.startedAt, h.total, h.results, h.order⟩

theorem of_promoted (loaded : StoredCheckpoint) :
    SameRecord loaded.checkpoint (promoted loaded) := by
  rcases promoted_eq loaded with ⟨pending, inFlight, heq, horder⟩
  rw [heq]
  exact ⟨rfl, rfl, rfl, horder⟩

theorem of_previous (loaded : StoredCheckpoint) :
    SameRecord loaded.checkpoint (Reading.of loaded).previous := by
  rcases Reading.previous_eq loaded with ⟨status, hprevious⟩
  rw [hprevious]
  exact (of_promoted loaded).status status

/-- Every version a call writes. -/
theorem of_writes {loaded : StoredCheckpoint} {call : GuardCall}
    {write : BatchCheckpoint × Except String Unit} (h : write ∈ call.writes loaded) :
    SameRecord loaded.checkpoint write.1 := by
  rcases List.mem_append.1 h with h | h
  · split at h
    · rw [List.mem_singleton.1 h]
      exact of_previous loaded
    · cases h
  · split at h
    · rw [List.mem_singleton.1 h]
      exact (of_previous loaded).status .finished
    · cases h

end SameRecord

/-- A call leaves a file with the same record. -/
theorem GuardCall.keeps {store : CheckpointStore} {loaded : StoredCheckpoint}
    (h : store.slot = .file loaded) (call : GuardCall) :
    ∃ loaded', (call.leaves store).slot = .file loaded' ∧
      SameRecord loaded.checkpoint loaded'.checkpoint := by
  rcases call.leaves_cases h with hkept | hsaved | ⟨hclosed, -, -, -⟩
  · exact ⟨loaded, hkept, .refl _⟩
  · exact ⟨_, hsaved, .of_previous loaded⟩
  · exact ⟨_, hclosed, (SameRecord.of_previous loaded).status .finished⟩

theorem afterCalls_keeps {store : CheckpointStore} {loaded : StoredCheckpoint}
    (h : store.slot = .file loaded) (calls : List GuardCall) :
    ∃ loaded', (afterCalls store calls).slot = .file loaded' ∧
      SameRecord loaded.checkpoint loaded'.checkpoint := by
  induction calls generalizing store loaded with
  | nil => exact ⟨loaded, h, .refl _⟩
  | cons call calls ih =>
      rcases call.keeps h with ⟨middle, hmiddle, hsame⟩
      rcases ih hmiddle with ⟨loaded', hslot, hsame'⟩
      exact ⟨loaded', hslot, hsame.trans hsame'⟩

/-! ## What keeps a refusal up -/

theorem refused_iff {store : CheckpointStore} {loaded : StoredCheckpoint}
    (h : store.slot = .file loaded) : Refused store ↔ (promoted loaded).blocksStart = true :=
  ⟨fun hrefused => (guard_refuses_iff h {}).1 (hrefused {}),
    fun hblocks saves => (guard_refuses_iff h saves).2 hblocks⟩

/-- One refused call is enough to know that the slot refuses every plain start. -/
theorem refused_of_error {store : CheckpointStore} {loaded : StoredCheckpoint}
    (h : store.slot = .file loaded) {saves : GuardSaves} {text : String}
    (herror : (guard store false saves).1 = .error text) : Refused store :=
  (refused_iff h).2 ((guard_refuses_iff h saves).1 ⟨text, herror⟩)

/-- Recording the interruption does not clear a refusal. -/
theorem previous_blocks (loaded : StoredCheckpoint) :
    (Reading.of loaded).previous.blocksStart = (promoted loaded).blocksStart :=
  (promoted loaded).blocksStart_markInterrupted

/-- Only the call that closes a file out lifts its refusal. -/
theorem GuardCall.stays_refused {store : CheckpointStore} {loaded : StoredCheckpoint}
    {call : GuardCall} (h : store.slot = .file loaded) (hrefused : Refused store)
    (hopen : ¬call.ClosesOut store) : Refused (call.leaves store) := by
  rcases call.leaves_cases h with hkept | hsaved | ⟨hclosed, hresume, hcloses, hresult⟩
  · exact (refused_iff hkept).2 ((refused_iff h).1 hrefused)
  · refine (refused_iff hsaved).2 ?_
    rw [promoted_of_written, previous_blocks]
    exact (refused_iff h).1 hrefused
  · exact absurd (closesOut_of_saved h hresume hcloses hresult hclosed) hopen

/-- None of these calls, made in a row on this slot, closes the file out. -/
def NoneClosesOut (store : CheckpointStore) (calls : List GuardCall) : Prop :=
  ∀ before call after, calls = before ++ call :: after → ¬call.ClosesOut (afterCalls store before)

theorem NoneClosesOut.tail {store : CheckpointStore} {call : GuardCall} {calls : List GuardCall}
    (h : NoneClosesOut store (call :: calls)) : NoneClosesOut (call.leaves store) calls := by
  intro before call' after hsplit
  exact h (call :: before) call' after (by rw [hsplit, List.cons_append])

theorem afterCalls_refused {store : CheckpointStore} {loaded : StoredCheckpoint}
    {calls : List GuardCall} (h : store.slot = .file loaded) (hrefused : Refused store)
    (hnone : NoneClosesOut store calls) : Refused (afterCalls store calls) := by
  induction calls generalizing store loaded with
  | nil => exact hrefused
  | cons call calls ih =>
      rcases call.keeps h with ⟨middle, hmiddle, -⟩
      -- The first call keeps the refusal, and the rest start from a file again.
      exact ih hmiddle (call.stays_refused h hrefused (hnone [] call calls rfl)) hnone.tail

/-- Over a file that loads, and whatever calls of the gate are made on it: after a refused plain
start every later one is refused until a call has closed the file out, and every version of the file
that any call writes keeps its record. -/
theorem refusal_is_durable {store : CheckpointStore} {loaded : StoredCheckpoint}
    (h : store.slot = .file loaded) :
    (∀ before saves text middle saves',
      (guard (afterCalls store before) false saves).1 = .error text →
        NoneClosesOut (afterCalls store before) (⟨false, saves⟩ :: middle) →
          ∃ text', (guard (afterCalls store (before ++ ⟨false, saves⟩ :: middle)) false saves').1 =
            .error text') ∧
      ∀ before (call : GuardCall), ∃ current, (afterCalls store before).slot = .file current ∧
        ∀ write ∈ call.writes current, SameRecord loaded.checkpoint write.1 := by
  constructor
  · intro before saves text middle saves' herror hnone
    rcases afterCalls_keeps h before with ⟨current, hcurrent, -⟩
    rw [afterCalls_append]
    exact afterCalls_refused hcurrent (refused_of_error hcurrent herror) hnone saves'
  · intro before call
    rcases afterCalls_keeps h before with ⟨current, hcurrent, hsame⟩
    exact ⟨current, hcurrent, fun write hwrite => hsame.trans (.of_writes hwrite)⟩

/-! ### A batch that died after its last settlement -/

def landedFile : StoredCheckpoint :=
  .written
    { status := .running, startedAt := "t0", updatedAt := "t1", total := 1
      results := [{ traineeId := "1", traineeName := "", outcome := .success, attempts := 1 }]
      pending := [] }

def landedStore : CheckpointStore :=
  { path := "dssp.checkpoint.json", slot := .file landedFile }

/-- A plain start is refused, the close-out cannot be written, and the next start is refused
again. -/
theorem refusal_is_durable_over_landedFile :
    ∃ text', (guard (afterCalls landedStore
      [⟨false, {}⟩, ⟨true, { closeOut := .error "disk full" }⟩]) false {}).1 = .error text' := by
  refine (refusal_is_durable (show landedStore.slot = .file landedFile from rfl)).1 [] {} _
    [⟨true, { closeOut := .error "disk full" }⟩] {} rfl ?_
  intro before call after hsplit hcloses
  -- After either call the file says that the batch was interrupted.
  rcases hcloses with ⟨hresume, -, loaded, cp, -, -, hfinished, hslot⟩
  rcases before with _ | ⟨first, _ | ⟨second, rest⟩⟩
  · have hcall : ⟨false, {}⟩ = call := (List.cons.inj hsplit).1
    simp [← hcall] at hresume
  · have hparts := List.cons.inj hsplit
    have hcall : ⟨true, { closeOut := .error "disk full" }⟩ = call := (List.cons.inj hparts.2).1
    have hinterrupted : (call.leaves (afterCalls landedStore [first])).slot =
        .file (.written { landedFile.checkpoint with status := .interrupted }) := by
      rw [← hcall, ← hparts.1]
      rfl
    have hsame := hslot.symm.trans hinterrupted
    have hstatus := congrArg (fun slot => match slot with
      | .file stored => stored.checkpoint.status
      | _ => .running) hsame
    simp [StoredCheckpoint.written, hfinished] at hstatus
  · simp at hsplit

end DsspBot
