import DsspBot.File

/-!
# Save — a save replaces the checkpoint or leaves it

The rename is the one call that changes what the target holds. Whenever a process dies, a later
start therefore reads what it would have read before the save, or the checkpoint that was saved.
-/

namespace DsspBot

/-- The temporary file is never the target. -/
theorem PathBuf.temp_ne (path : PathBuf) (pid : Nat) : path.temp pid ≠ path := by
  unfold temp withFileName
  split
  · next hname =>
      rcases Option.isSome_iff_exists.1 hname with ⟨name, hname⟩
      have hlast : path.getLast? = some (.normal name) := by
        unfold fileName at hname
        split at hname
        · next found hlast =>
            cases hname
            exact hlast
        · cases hname
      intro heq
      rw [hname] at heq
      have hend := congrArg List.getLast? heq
      rw [List.getLast?_concat, hlast] at hend
      -- No name is itself with something behind it.
      simp at hend
  · intro heq
    have hlength := congrArg List.length heq
    simp at hlength

namespace Saving

variable {path : PathBuf} {pid : Nat} {json : List UInt8} {s s' : Saving}

/-! ## The steps of a save -/

/-- The rename has happened. -/
def committed (s : Saving) : Bool :=
  match s.stage with
  | .opening => true
  | .syncingDir => true
  | .returned (.ok ()) => true
  | _ => false

/-- What the temporary file holds until the rename, and that it is gone afterwards. -/
def Sound (path : PathBuf) (pid : Nat) (json : List UInt8) (s : Saving) : Prop :=
  match s.stage with
  | .creating text => text = json
  | .writing done left => done ++ left = json ∧ s.files (path.temp pid) = some (.file done)
  | .syncing => s.files (path.temp pid) = some (.file json)
  | .replacing => s.files (path.temp pid) = some (.file json)
  | .opening => s.files (path.temp pid) = none
  | .syncingDir => s.files (path.temp pid) = none
  | .returned (.ok ()) => s.files (path.temp pid) = none
  | _ => True

@[simp] theorem put_files (s : Saving) (name : PathBuf) (node : Option Node) :
    (s.put name node).files = Function.update s.files name node := rfl

/-- How many calls are left at most. -/
def left (s : Saving) : Nat :=
  match s.stage with
  | .creating json => json.length + 5
  | .writing _ rest => rest.length + 4
  | .syncing => 4
  | .replacing => 3
  | .opening => 2
  | .syncingDir => 1
  | .discarding _ => 1
  | .returned _ => 0

/-- What one call does. -/
inductive Step (path : PathBuf) (pid : Nat) (s : Saving) : Saving → Prop
  | created {json : List UInt8} (hstage : s.stage = .creating json) :
      Step path pid s { s.put (path.temp pid) (some (.file [])) with stage := written [] json }
  | wrote {done rest : List UInt8} {n : Nat} (hstage : s.stage = .writing done rest)
      (hsome : n ≠ 0) (hroom : n ≤ rest.length) :
      Step path pid s { s.put (path.temp pid) (some (.file (done ++ rest.take n))) with
        stage := written (done ++ rest.take n) (rest.drop n) }
  | gaveUp {text : String} (hopen : s.committed = false) (hleft : 1 < s.left) :
      Step path pid s (s.giveUp path pid text)
  | synced (hstage : s.stage = .syncing) : Step path pid s { s with stage := .replacing }
  | renamed (hstage : s.stage = .replacing) :
      Step path pid s { (s.put path (s.files (path.temp pid))).put (path.temp pid) none with
        stage := .opening }
  | refused {text : String} (hstage : s.stage = .replacing) :
      Step path pid s { s with stage := .discarding text }
  | discarded {text : String} {gone : Bool} (hstage : s.stage = .discarding text) :
      Step path pid s { (if gone then s.put (path.temp pid) none else s) with
        stage := .returned (.error text) }
  | opened (hstage : s.stage = .opening) : Step path pid s { s with stage := .syncingDir }
  | finished {stderr : List String} (hstage : s.stage = .opening ∨ s.stage = .syncingDir) :
      Step path pid s { s with stage := .returned (.ok ()), stderr := stderr }

theorem step_cases {input : SaveInput} (h : s.step path pid input = some s') :
    s.Step path pid s' := by
  -- In the order of the branches of `Saving.step`.
  unfold step at h
  split at h
  · next json hstage =>
      cases h
      exact .created hstage
  · next json text hstage =>
      cases h
      exact .gaveUp (by simp [committed, hstage]) (by simp [left, hstage])
  · next done rest n hstage =>
      split at h
      · cases h
        exact .gaveUp (by simp [committed, hstage]) (by simp [left, hstage])
      · next hsome =>
          split at h
          · next hroom =>
              cases h
              exact .wrote hstage hsome hroom
          · cases h
  · next done rest text hstage =>
      cases h
      exact .gaveUp (by simp [committed, hstage]) (by simp [left, hstage])
  · next hstage =>
      cases h
      exact .synced hstage
  · next text hstage =>
      cases h
      exact .gaveUp (by simp [committed, hstage]) (by simp [left, hstage])
  · next hstage =>
      cases h
      exact .renamed hstage
  · next text hstage =>
      cases h
      exact .refused hstage
  · next text gone hstage =>
      cases h
      exact .discarded hstage
  · next hstage =>
      cases h
      exact .opened hstage
  · next hstage =>
      cases h
      exact .finished (Or.inl hstage)
  · next hstage =>
      cases h
      exact .finished (Or.inr hstage)
  · next text hstage =>
      cases h
      exact .finished (Or.inr hstage)
  · cases h

/-! ### A piece that has been written -/

section Written

variable {files : Files} {done rest : List UInt8} {stderr : List String}

/-- What is written and what is left are still the whole. -/
theorem sound_written (hwhole : done ++ rest = json)
    (hfiles : files (path.temp pid) = some (.file done)) :
    ({ files := files, stage := written done rest, stderr := stderr } : Saving).Sound
      path pid json := by
  cases rest with
  | nil =>
      rw [List.append_nil] at hwhole
      exact hwhole ▸ hfiles
  | cons b rest => exact ⟨hwhole, hfiles⟩

theorem committed_written :
    ({ files := files, stage := written done rest, stderr := stderr } : Saving).committed =
      false := by
  cases rest <;> rfl

theorem left_written :
    ({ files := files, stage := written done rest, stderr := stderr } : Saving).left ≤
      rest.length + 4 := by
  cases rest <;> simp [left, written]

end Written

/-! ## A whole save -/

theorem Step.sound (h : s.Step path pid s') (hsound : s.Sound path pid json) :
    s'.Sound path pid json := by
  cases h with
  | created hstage =>
      simp only [Sound, hstage] at hsound
      exact sound_written hsound (by simp)
  | wrote hstage _ _ =>
      simp only [Sound, hstage] at hsound
      refine sound_written ?_ (by simp)
      rw [List.append_assoc, List.take_append_drop, hsound.1]
  | gaveUp _ _ => trivial
  | synced hstage => simpa [Sound, hstage] using hsound
  | renamed _ => simp [Sound]
  | refused _ => trivial
  | discarded _ => trivial
  | opened hstage => simpa [Sound, hstage] using hsound
  | finished hstage => rcases hstage with hstage | hstage <;> simpa [Sound, hstage] using hsound

/-- The target changes with the rename only, when the temporary file is complete. -/
theorem Step.target (h : s.Step path pid s') (hsound : s.Sound path pid json) :
    s'.committed = s.committed ∧ s'.files path = s.files path ∨
      s.committed = false ∧ s'.committed = true ∧ s'.files path = some (.file json) := by
  have hother : ∀ node : Option Node,
      Function.update s.files (path.temp pid) node path = s.files path :=
    fun node => Function.update_of_ne (path.temp_ne pid).symm node s.files
  cases h with
  | created hstage =>
      refine Or.inl ⟨?_, hother _⟩
      rw [committed_written]
      simp [committed, hstage]
  | wrote hstage _ _ =>
      refine Or.inl ⟨?_, hother _⟩
      rw [committed_written]
      simp [committed, hstage]
  | gaveUp hopen _ => exact Or.inl ⟨hopen.symm, rfl⟩
  | synced hstage => exact Or.inl ⟨by simp [committed, hstage], rfl⟩
  | renamed hstage =>
      have hwhole : s.files (path.temp pid) = some (.file json) := by
        simpa [Sound, hstage] using hsound
      refine Or.inr ⟨by simp [committed, hstage], rfl, ?_⟩
      rw [put_files, Function.update_of_ne (path.temp_ne pid).symm, put_files,
        Function.update_self, hwhole]
  | refused hstage => exact Or.inl ⟨by simp [committed, hstage], rfl⟩
  | @discarded text gone hstage =>
      refine Or.inl ⟨by simp [committed, hstage], ?_⟩
      cases gone with
      | true => exact hother none
      | false => rfl
  | opened hstage => exact Or.inl ⟨by simp [committed, hstage], rfl⟩
  | finished hstage =>
      refine Or.inl ⟨?_, rfl⟩
      rcases hstage with hstage | hstage <;> simp [committed, hstage]

/-- The rename is where a save takes effect. -/
theorem commitsAt :
    Machine.CommitsAt (step path pid) (Sound path pid json) (fun s => s.files path) committed
      (some (.file json)) where
  kept := fun _ _ _ hsound hstep => (step_cases hstep).sound hsound
  moves := fun _ _ _ hsound hstep => (step_cases hstep).target hsound

/-- Only the target and its temporary file are touched. -/
theorem Step.untouched {name : PathBuf} (h : s.Step path pid s') (hpath : name ≠ path)
    (htemp : name ≠ path.temp pid) : s'.files name = s.files name := by
  cases h with
  | created _ => exact Function.update_of_ne htemp _ _
  | wrote _ _ _ => exact Function.update_of_ne htemp _ _
  | renamed _ => exact (Function.update_of_ne htemp _ _).trans (Function.update_of_ne hpath _ _)
  | @discarded text gone _ =>
      cases gone with
      | true => exact Function.update_of_ne htemp _ _
      | false => rfl
  | _ => rfl

theorem untouched {files : Files} {name : PathBuf} (hpath : name ≠ path)
    (htemp : name ≠ path.temp pid) (hname : s.files name = files name)
    (hreaches : Machine.Reaches (step path pid) s s') : s'.files name = files name := by
  refine Machine.Reaches.invariant (P := fun s => s.files name = files name) ?_ hname hreaches
  intro s input s' hname hstep
  exact ((step_cases hstep).untouched hpath htemp).trans hname

theorem Step.left_lt (h : s.Step path pid s') : s'.left < s.left := by
  cases h with
  | @created json hstage =>
      calc _ ≤ json.length + 4 := left_written
        _ < s.left := by simp [left, hstage]
  | @wrote done rest n hstage hsome hroom =>
      -- Every call that succeeds writes at least a byte.
      have hshorter : (rest.drop n).length < rest.length := by
        rw [List.length_drop]
        omega
      calc _ ≤ (rest.drop n).length + 4 := left_written
        _ < rest.length + 4 := Nat.add_lt_add_right hshorter 4
        _ = s.left := by simp [left, hstage]
  | gaveUp _ hleft => exact hleft
  | synced hstage => simp [left, hstage]
  | renamed hstage => simp [left, hstage]
  | refused hstage => simp [left, hstage]
  | discarded hstage => simp [left, hstage]
  | opened hstage => simp [left, hstage]
  | finished hstage => rcases hstage with hstage | hstage <;> simp [left, hstage]

/-- A save makes finitely many calls, -/
theorem run_length_le {inputs : List SaveInput}
    (hrun : Machine.run (step path pid) s inputs = some s') : inputs.length ≤ s.left :=
  Machine.run_length_le (P := fun _ => True) (fun _ _ _ _ _ => trivial)
    (fun _ _ _ _ hstep => (step_cases hstep).left_lt) trivial hrun

/-- and makes the next one until it has returned. -/
theorem goes_on (hopen : ∀ result, s.stage ≠ .returned result) :
    ∃ input, (s.step path pid input).isSome = true := by
  cases hstage : s.stage with
  | creating json => exact ⟨.created (.error ""), by simp [step, hstage]⟩
  | writing done rest => exact ⟨.wrote (.error ""), by simp [step, hstage]⟩
  | syncing => exact ⟨.synced (.error ""), by simp [step, hstage]⟩
  | discarding text => exact ⟨.removed true, by simp [step, hstage]⟩
  | replacing => exact ⟨.renamed (.error ""), by simp [step, hstage]⟩
  | opening => exact ⟨.opened false, by simp [step, hstage]⟩
  | syncingDir => exact ⟨.dirSynced (.ok ()), by simp [step, hstage]⟩
  | returned result => exact absurd hstage (hopen result)

/-! ## What a later start reads -/

section Reading

variable {serde : SerdeJson} {cp : BatchCheckpoint} {files : Files}

/-- The JSON library reads what it has written for this checkpoint. -/
def Faithful (serde : SerdeJson) (cp : BatchCheckpoint) : Prop :=
  ∀ text, serde.toStringPretty (File.checkpoint.encode cp) = .ok text →
    serde.document text = some (File.checkpoint.encode cp)

theorem hasKey_encode (cp : BatchCheckpoint) :
    (File.checkpoint.encode cp).hasKey "in_flight" = true :=
  Json.hasKey_record.2 ⟨File.text?.encode cp.inFlight, by simp [File.checkpointEntries]⟩

theorem loadWithProvenance_saved {text : String} (hfits : File.Fits cp)
    (hserde : Faithful serde cp)
    (htext : serde.toStringPretty (File.checkpoint.encode cp) = .ok text)
    (hfile : files path = some (.file (utf8 text))) :
    loadWithProvenance serde path files =
      .ok (some { checkpoint := cp, tracksInFlight := true }) := by
  have hdecode : File.checkpoint.decode (File.checkpoint.encode cp) = some cp :=
    File.checkpoint.roundtrip cp hfits
  have hread : readText serde text = .ok { checkpoint := cp, tracksInFlight := true } := by
    unfold readText
    simp only [hserde text htext, hdecode, hasKey_encode]
  unfold loadWithProvenance readNode
  simp only [hfile, ofUtf8_utf8, hread]
  rfl

theorem loadWithProvenance_congr {files' : Files} (h : files' path = files path) :
    loadWithProvenance serde path files' = loadWithProvenance serde path files := by
  unfold loadWithProvenance
  rw [h]

/-- Where a save stands, told by whether the rename has happened. -/
theorem read_of_reaches (hfits : File.Fits cp) (hserde : Faithful serde cp)
    (hreaches : Machine.Reaches (step path pid) (start serde cp files) s) :
    loadWithProvenance serde path s.files =
      if s.committed then .ok (some { checkpoint := cp, tracksInFlight := true })
      else loadWithProvenance serde path files := by
  unfold start at hreaches
  split at hreaches
  · next text htext =>
      have hstart : Sound path pid (utf8 text) { files := files, stage := .creating (utf8 text) } :=
        rfl
      have hview := commitsAt.view_eq hstart rfl hreaches
      cases hcommitted : s.committed with
      | true =>
          have hfile : s.files path = some (.file (utf8 text)) := by
            simpa [hcommitted] using hview.2
          simpa using loadWithProvenance_saved hfits hserde htext hfile
      | false =>
          have hfile : s.files path = files path := by simpa [hcommitted] using hview.2
          simpa using loadWithProvenance_congr hfile
  · next text htext =>
      -- The checkpoint could not be written down, and no call is ever made.
      have hsame : s = { files := files
                         stage := .returned (.error s!"could not serialize checkpoint: {text}") } :=
        Machine.Reaches.invariant (P := fun x => x = _) (by rintro _ _ _ rfl ⟨⟩) rfl hreaches
      rw [hsame]
      rfl

/-- Only a missing file reads as no checkpoint. -/
theorem loadWithProvenance_eq_none_iff :
    loadWithProvenance serde path files = .ok none ↔ files path = none := by
  unfold loadWithProvenance readNode
  split
  · next hnode => exact iff_of_true rfl hnode
  · next reason hnode => exact iff_of_false nofun (by simp [hnode])
  · next bytes hnode =>
      refine iff_of_false ?_ (by simp [hnode])
      split
      · nofun
      · next text _ => cases readText serde text <;> nofun

/-- What has been loaded is what the text of the file decodes to, and the file's own key. -/
theorem loaded_of_ok {loaded : Loaded}
    (h : loadWithProvenance serde path files = .ok (some loaded)) :
    ∃ bytes text raw, files path = some (.file bytes) ∧ ofUtf8 bytes = some text ∧
      serde.document text = some raw ∧ File.checkpoint.decode raw = some loaded.checkpoint ∧
        loaded.tracksInFlight = raw.hasKey "in_flight" := by
  unfold loadWithProvenance readNode at h
  split at h
  · cases h
  · cases h
  · next bytes hnode =>
      split at h
      · cases h
      · next text htext =>
          unfold readText at h
          split at h
          · cases h
          · next raw hraw =>
              split at h
              · cases h
              · next cp hcp =>
                  cases h
                  exact ⟨bytes, text, raw, hnode, htext, hraw, hcp, rfl⟩

/-! ## The slot the other modules see -/

/-- A stored checkpoint as it was loaded. -/
def loadedOf (stored : StoredCheckpoint) : Loaded :=
  { checkpoint := stored.checkpoint, tracksInFlight := stored.tracksInFlight }

/-- The store, as the rest of the program is modelled over it, answers like the file. -/
def OnDisk (serde : SerdeJson) (path : PathBuf) (files : Files) (store : CheckpointStore) : Prop :=
  store.loadWithProvenance.map (Option.map loadedOf) = loadWithProvenance serde path files

/-- Every file is a slot. -/
theorem exists_onDisk (serde : SerdeJson) (path : PathBuf) (files : Files) :
    ∃ store : CheckpointStore, OnDisk serde path files store := by
  cases hload : readNode serde (files path) with
  | error reason =>
      refine ⟨{ path := path.display, slot := .unreadable reason }, ?_⟩
      unfold OnDisk loadWithProvenance
      rw [hload]
      rfl
  | ok found =>
      have hloaded : loadWithProvenance serde path files = .ok found := by
        unfold loadWithProvenance
        rw [hload]
        rfl
      cases found with
      | none =>
          refine ⟨{ path := path.display, slot := .absent }, ?_⟩
          unfold OnDisk
          rw [hloaded]
          rfl
      | some loaded =>
          refine ⟨{ path := path.display
                    slot := .file ⟨loaded.checkpoint, loaded.tracksInFlight⟩ }, ?_⟩
          unfold OnDisk
          rw [hloaded]
          rfl

/-- A save on disk is the save of the slot: it has not happened, or it has, and it returns what
the slot's save is told. -/
theorem onDisk_save {store : CheckpointStore} (hfits : File.Fits cp) (hserde : Faithful serde cp)
    (hstore : OnDisk serde path files store)
    (hreaches : Machine.Reaches (step path pid) (start serde cp files) s) :
    (OnDisk serde path s.files store ∨ OnDisk serde path s.files (store.save cp (.ok ()))) ∧
      ∀ result, s.stage = .returned result →
        OnDisk serde path s.files (store.save cp result) := by
  have hread := read_of_reaches hfits hserde hreaches
  have hkept : s.committed = false → OnDisk serde path s.files store := by
    intro hopen
    unfold OnDisk
    rw [hread, hopen]
    exact hstore
  have hsaved : s.committed = true → OnDisk serde path s.files (store.save cp (.ok ())) := by
    intro hcommitted
    unfold OnDisk
    rw [hread, hcommitted]
    rfl
  refine ⟨?_, ?_⟩
  · cases hcommitted : s.committed with
    | false => exact Or.inl (hkept hcommitted)
    | true => exact Or.inr (hsaved hcommitted)
  · intro result hstage
    cases result with
    | ok _ => exact hsaved (by simp [committed, hstage])
    | error text => exact hkept (by simp [committed, hstage])

end Reading

/-! ## Wherever a save ends -/

/-- However far a save gets, the checkpoint loads as before or as the one that was saved, and the
latter exactly when the save has returned well. Only a missing file loads as none, and what loads is
marked as tracking exactly if the file is an object with the key. -/
theorem save_is_crash_atomic (serde : SerdeJson) (path : PathBuf) (pid : Nat)
    {cp : BatchCheckpoint} (hfits : File.Fits cp) (hserde : Faithful serde cp) :
    (∀ files s, Machine.Reaches (step path pid) (start serde cp files) s →
      (loadWithProvenance serde path s.files = loadWithProvenance serde path files ∨
        loadWithProvenance serde path s.files =
          .ok (some { checkpoint := cp, tracksInFlight := true })) ∧
        (s.stage = .returned (.ok ()) → loadWithProvenance serde path s.files =
          .ok (some { checkpoint := cp, tracksInFlight := true })) ∧
          ∀ text, s.stage = .returned (.error text) →
            loadWithProvenance serde path s.files = loadWithProvenance serde path files) ∧
      (∀ files, loadWithProvenance serde path files = .ok none ↔ files path = none) ∧
        ∀ files loaded, loadWithProvenance serde path files = .ok (some loaded) →
          ∃ bytes text raw, files path = some (.file bytes) ∧ ofUtf8 bytes = some text ∧
            serde.document text = some raw ∧
              (loaded.tracksInFlight = true ↔
                ∃ fields value, raw = .object fields ∧ ("in_flight", value) ∈ fields) := by
  refine ⟨?_, fun _ => loadWithProvenance_eq_none_iff, ?_⟩
  · intro files s hreaches
    have hread := read_of_reaches hfits hserde hreaches
    refine ⟨?_, ?_, ?_⟩
    · cases hcommitted : s.committed with
      | true => exact Or.inr (by simpa [hcommitted] using hread)
      | false => exact Or.inl (by simpa [hcommitted] using hread)
    · intro hstage
      have hcommitted : s.committed = true := by simp [committed, hstage]
      simpa [hcommitted] using hread
    · intro text hstage
      have hopen : s.committed = false := by simp [committed, hstage]
      simpa [hopen] using hread
  · intro files loaded hload
    rcases loaded_of_ok hload with ⟨bytes, text, raw, hfile, htext, hraw, -, htracks⟩
    exact ⟨bytes, text, raw, hfile, htext, hraw, htracks ▸ Json.hasKey_iff⟩

/-! ### A save that fails at the rename, and one that goes through -/

def pausedCheckpoint : BatchCheckpoint where
  status := .paused
  startedAt := "1758285600000"
  updatedAt := "1758285900000"
  total := 2
  results :=
    [{ traineeId := "1", traineeName := "Ada", outcome := .success, attempts := 1
       message := some "ref-1" }]
  pending := ["2"]

def pausedText : String :=
  "\x7b\n  \"status\": \"paused\",\n  \"started_at\": \"1758285600000\",\n" ++
    "  \"updated_at\": \"1758285900000\",\n  \"total\": 2,\n  \"results\": [\n    \x7b\n" ++
      "      \"trainee_id\": \"1\",\n      \"trainee_name\": \"Ada\",\n" ++
        "      \"outcome\": \"success\",\n      \"attempts\": 1,\n" ++
          "      \"message\": \"ref-1\"\n    \x7d\n  ],\n  \"pending\": [\n    \"2\"\n  ],\n" ++
            "  \"in_flight\": null\n\x7d"

/-- The JSON library on one checkpoint. -/
def pausedSerde : SerdeJson where
  toStringPretty _ := .ok pausedText
  document text :=
    if text = pausedText then some (File.checkpoint.encode pausedCheckpoint) else none
  complaint _ := "expected value at line 1 column 1"

theorem pausedSerde_faithful : Faithful pausedSerde pausedCheckpoint := by
  intro text htext
  have hsame : pausedText = text := Except.ok.inj htext
  unfold pausedSerde
  dsimp only
  rw [hsame]
  exact if_pos rfl

/-- The text is written in two pieces; then comes what the rename returns. -/
def pausedSave (renamed : Except String Unit) : List SaveInput :=
  [.created (.ok ()), .wrote (.ok 100), .wrote (.ok (pausedText.utf8ByteSize - 100)),
    .synced (.ok ()), .renamed renamed]

def pausedPath : PathBuf :=
  [.cur, .normal "dssp.checkpoint.json"]

def pausedStart : Saving :=
  start pausedSerde pausedCheckpoint fun _ => none

def pausedEnd (inputs : List SaveInput) : Saving :=
  (Machine.run (step pausedPath 7) pausedStart inputs).getD pausedStart

theorem pausedEnd_reaches {inputs : List SaveInput}
    (h : (Machine.run (step pausedPath 7) pausedStart inputs).isSome = true) :
    Machine.Reaches (step pausedPath 7) pausedStart (pausedEnd inputs) := by
  rcases Option.isSome_iff_exists.1 h with ⟨s, hs⟩
  refine ⟨inputs, ?_⟩
  unfold pausedEnd
  rw [hs]
  rfl

theorem paused_save_is_crash_atomic :
    loadWithProvenance pausedSerde pausedPath
        (pausedEnd (pausedSave (.ok ()) ++ [.opened false])).files =
      .ok (some { checkpoint := pausedCheckpoint, tracksInFlight := true }) ∧
      loadWithProvenance pausedSerde pausedPath
          (pausedEnd (pausedSave (.error "Permission denied (os error 13)") ++
            [.removed false])).files =
        .ok none := by
  have hfits : File.Fits pausedCheckpoint := by
    constructor
    · decide
    · decide
  have hall := save_is_crash_atomic pausedSerde pausedPath 7 hfits pausedSerde_faithful
  refine ⟨?_, ?_⟩
  · have hstage : (pausedEnd (pausedSave (.ok ()) ++ [.opened false])).stage =
        .returned (.ok ()) := by decide +kernel
    exact (hall.1 _ _ (pausedEnd_reaches (by decide +kernel))).2.1 hstage
  · have hstage : (pausedEnd (pausedSave (.error "Permission denied (os error 13)") ++
        [.removed false])).stage =
          .returned (.error "./dssp.checkpoint.json: Permission denied (os error 13)") := by
      decide +kernel
    have hkept := (hall.1 _ _ (pausedEnd_reaches (by decide +kernel))).2.2 _ hstage
    exact hkept.trans ((hall.2.1 _).2 rfl)

end Saving

end DsspBot
