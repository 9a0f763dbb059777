import DsspBot.File
import DsspBot.Lib.Places

/-!
# Token — the file that every daemon takes its token from

The first daemon draws a token and writes it into a new file; whoever starts later, or at the same
time, reads it there. Each call to the system is a step of its own and may fail, any number of
daemons start, each under a uid of its own, and each may die at any time.
-/

namespace DsspBot

/-- What the system says of an open file. -/
structure FileMetadata where
  isFile : Bool
  mode : Nat
  uid : Nat
  nlink : Nat
  deriving DecidableEq, Repr

/-- What the path leads to. A symlink, for one, does not open. -/
inductive TokenNode
  | absent
  | closed (reason : String)
  | file (metadata : FileMetadata) (bytes : List UInt8)
  deriving DecidableEq, Repr

/-- The call to the system that comes next. -/
inductive TokenStage
  | opening
  | drawing
  | creating (token : List UInt8)
  | writing (left : List UInt8)
  | syncing
  | reopening
  | checking
  | reading (read : List UInt8)
  | returned (result : Except String String)
  | dead
  deriving DecidableEq

/-- How a call to the system turns out. -/
inductive TokenEvent
  | opened (fault : Option String)
  | drew (random : Except String (List UInt8))
  /-- What the new file is like, if there is to be one. -/
  | created (result : Except String FileMetadata)
  | wrote (result : Except String Nat)
  | synced (result : Except String Unit)
  /-- The metadata can be had, and so can that of `/proc/self`. -/
  | checked (result : Except String Unit)
  | got (result : Except String Nat)
  | died

/-- All daemons that have been started. -/
structure TokenRun where
  node : TokenNode
  stages : List TokenStage := []
  deriving DecidableEq

inductive TokenInput
  | start
  | goes (daemon : Nat) (event : TokenEvent)

/-! ## One daemon -/

/-- `is_ascii_hexdigit` -/
def isHexDigit (b : UInt8) : Bool :=
  (decide (48 ≤ b) && decide (b ≤ 57)) || (decide (65 ≤ b) && decide (b ≤ 70)) ||
    (decide (97 ≤ b) && decide (b ≤ 102))

def hexDigit (n : UInt8) : UInt8 :=
  if n < 10 then 48 + n else 87 + n

/-- Each byte in two digits. -/
def hex (bytes : List UInt8) : List UInt8 :=
  bytes.flatMap fun b => [hexDigit (b / 16), hexDigit (b % 16)]

def FileMetadata.isOwn (metadata : FileMetadata) (ownUid : Nat) : Bool :=
  metadata.isFile && decide (metadata.mode &&& 0o7777 = 0o600) && decide (metadata.uid = ownUid) &&
    decide (metadata.nlink = 1)

namespace TokenStage

def failed (text : String) : TokenStage :=
  .returned (.error text)

/-- `write_all`: nothing is left to write, or the next piece. -/
def written : List UInt8 → TokenStage
  | [] => .syncing
  | left@(_ :: _) => .writing left

/-- What has been read to its end. -/
def judged (read : List UInt8) : TokenStage :=
  match ofUtf8 read with
  | none => failed "stream did not contain valid UTF-8"
  | some token =>
      if (utf8 token).length = 64 && (utf8 token).all isHexDigit then .returned (.ok token)
      else failed "token must contain exactly 64 hexadecimal characters"

def opened (node : TokenNode) (what : String) (absent : TokenStage) : TokenStage :=
  match node with
  | .absent => absent
  | .closed reason => failed s!"{what}: {reason}"
  | .file _ _ => .checking

variable (path : String) (ownUid : Nat) (node : TokenNode)

/-- `token_file` -/
def next (stage : TokenStage) (event : TokenEvent) : Option (TokenNode × TokenStage) :=
  match stage, event with
  | .opening, .opened none => some (node, opened node s!"read token {path}" .drawing)
  | .opening, .opened (some fault) => some (node, failed s!"read token {path}: {fault}")
  | .drawing, .drew (.ok random) =>
      if random.length = 32 then some (node, .creating (hex random)) else none
  | .drawing, .drew (.error text) => some (node, failed s!"token entropy: {text}")
  | .creating token, .created (.ok metadata) =>
      match node with
      | .absent => some (.file metadata [], written token)
      -- `create_new`: somebody was faster.
      | _ => some (node, .reopening)
  | .creating _, .created (.error text) => some (node, failed s!"create token {path}: {text}")
  | .writing left, .wrote (.ok n) =>
      match node with
      | .file metadata bytes =>
          if n = 0 then some (node, failed "write token: failed to write whole buffer")
          else if n ≤ left.length then
            some (.file metadata (bytes ++ left.take n), written (left.drop n))
          else none
      | _ => none
  | .writing _, .wrote (.error text) => some (node, failed s!"write token: {text}")
  | .syncing, .synced (.ok ()) => some (node, .reopening)
  | .syncing, .synced (.error text) => some (node, failed s!"write token: {text}")
  | .reopening, .opened none =>
      some (node, opened node "read token"
        (failed "read token: No such file or directory (os error 2)"))
  | .reopening, .opened (some fault) => some (node, failed s!"read token: {fault}")
  | .checking, .checked (.ok ()) =>
      match node with
      | .file metadata _ =>
          if metadata.isOwn ownUid then some (node, .reading [])
          else
            some (node, failed "token must be an owned, unlinked regular file with mode 0600")
      | _ => none
  | .checking, .checked (.error text) => some (node, failed text)
  | .reading read, .got (.ok n) =>
      match node with
      | .file _ bytes =>
          -- `take(65)`: nothing more is there, or nothing more is wanted.
          let rest := (bytes.drop read.length).take (65 - read.length)
          if rest = [] then if n = 0 then some (node, judged read) else none
          else if 0 < n ∧ n ≤ rest.length then some (node, .reading (read ++ rest.take n))
          else none
      | _ => none
  | .reading _, .got (.error text) => some (node, failed text)
  | .returned _, _ => none
  | .dead, _ => none
  | _, .died => some (node, .dead)
  | _, _ => none

end TokenStage

/-! ## All daemons -/

namespace TokenRun

variable (path : String) (uids : Nat → Nat) (s : TokenRun)

/-- The daemons are numbered as they start. -/
def step : TokenInput → Option TokenRun
  | .start => some { s with stages := s.stages ++ [.opening] }
  | .goes daemon event =>
      s.stages[daemon]?.bind fun stage =>
        (stage.next path (uids daemon) s.node event).map fun out =>
          { node := out.1, stages := s.stages.set daemon out.2 }

end TokenRun

/-! ## What a token is -/

def IsToken (bytes : List UInt8) : Prop :=
  bytes.length = 64 ∧ bytes.all isHexDigit = true

/-- A regular file of this user's alone, which nobody else can read or has a name for. -/
structure FileMetadata.OwnedBy (metadata : FileMetadata) (uid : Nat) : Prop where
  regular : metadata.isFile = true
  mode : metadata.mode &&& 0o7777 = 0o600
  owner : metadata.uid = uid
  single : metadata.nlink = 1

theorem FileMetadata.isOwn_iff {metadata : FileMetadata} {uid : Nat} :
    metadata.isOwn uid = true ↔ metadata.OwnedBy uid := by
  constructor
  · intro h
    simp only [isOwn, Bool.and_eq_true, decide_eq_true_eq] at h
    exact ⟨h.1.1.1, h.1.1.2, h.1.2, h.2⟩
  · rintro ⟨hregular, hmode, howner, hsingle⟩
    simp [isOwn, hregular, hmode, howner, hsingle]

theorem isHexDigit_hexDigit {n : UInt8} (h : n < 16) : isHexDigit (hexDigit n) = true := by
  have hall : ∀ n : Fin 16, isHexDigit (hexDigit (UInt8.ofNat n)) = true := by decide
  have hn := hall ⟨n.toNat, h⟩
  simpa using hn

theorem isToken_hex {random : List UInt8} (h : random.length = 32) : IsToken (hex random) := by
  refine ⟨?_, ?_⟩
  · have hlength : ∀ bytes : List UInt8, (hex bytes).length = 2 * bytes.length := by
      intro bytes
      simp [hex, List.length_flatMap]
      omega
    rw [hlength, h]
  · rw [hex, List.all_eq_true]
    intro b hb
    rcases List.mem_flatMap.1 hb with ⟨r, -, hdigit⟩
    have hhigh : r / 16 < 16 := by
      rw [UInt8.lt_iff_toNat_lt]
      have hr := r.toNat_lt
      simp
      omega
    have hlow : r % 16 < 16 := by
      rw [UInt8.lt_iff_toNat_lt]
      simp
      omega
    rcases List.mem_cons.1 hdigit with rfl | hdigit
    · exact isHexDigit_hexDigit hhigh
    · rw [List.mem_singleton.1 hdigit]
      exact isHexDigit_hexDigit hlow

theorem utf8_of_ofUtf8 {bytes : List UInt8} {text : String} (h : ofUtf8 bytes = some text) :
    utf8 text = bytes := by
  unfold ofUtf8 String.fromUTF8? at h
  split at h
  · cases h
    rfl
  · cases h

namespace TokenStage

variable {path : String} {ownUid : Nat} {node node' : TokenNode} {stage stage' : TokenStage}
  {event : TokenEvent}

theorem judged_returned (read : List UInt8) : ∃ result, judged read = .returned result := by
  unfold judged
  split
  · exact ⟨_, rfl⟩
  · split
    · exact ⟨_, rfl⟩
    · exact ⟨_, rfl⟩

/-- What has been read to its end is a token, or nothing is returned. -/
theorem judged_ok {read : List UInt8} {token : String}
    (h : judged read = .returned (.ok token)) : utf8 token = read ∧ IsToken read := by
  unfold judged at h
  split at h
  · cases h
  · next token' hread =>
      have hbytes := utf8_of_ofUtf8 hread
      split at h
      · next htoken =>
          cases h
          rw [hbytes] at htoken
          exact ⟨hbytes, by simpa [IsToken] using htoken⟩
      · cases h

/-- Nothing but a token is written, or returned, and nothing but the start of a file of one's own is
read. -/
def Fits (ownUid : Nat) (node : TokenNode) : TokenStage → Prop
  | .creating token => IsToken token
  | .writing left =>
      left ≠ [] ∧ ∃ metadata bytes, node = .file metadata bytes ∧ IsToken (bytes ++ left)
  | .checking => ∃ metadata bytes, node = .file metadata bytes
  | .reading read =>
      ∃ metadata bytes, node = .file metadata bytes ∧ metadata.isOwn ownUid = true ∧ read <+: bytes
  | .returned (.ok token) =>
      ∃ metadata, node = .file metadata (utf8 token) ∧ metadata.isOwn ownUid = true ∧
        IsToken (utf8 token)
  | _ => True

/-- What one call to the system does. -/
inductive Goes (ownUid : Nat) (node : TokenNode) : TokenStage → TokenNode → TokenStage → Prop
  | keeps (stage stage' : TokenStage) (hfits : stage.Fits ownUid node → stage'.Fits ownUid node)
      (hidle : ∀ left, stage' ≠ .writing left) (hbefore : ∀ result, stage ≠ .returned result) :
      Goes ownUid node stage node stage'
  | creates (token : List UInt8) (metadata : FileMetadata) (hnode : node = .absent) :
      Goes ownUid node (.creating token) (.file metadata []) (written token)
  | writes (left : List UInt8) (n : Nat) {metadata : FileMetadata} {bytes : List UInt8}
      (hnode : node = .file metadata bytes) :
      Goes ownUid node (.writing left) (.file metadata (bytes ++ left.take n))
        (written (left.drop n))

theorem opened_fits {what : String} {absent : TokenStage} (habsent : absent.Fits ownUid node) :
    (opened node what absent).Fits ownUid node := by
  unfold opened
  split
  · exact habsent
  · trivial
  · exact ⟨_, _, rfl⟩

theorem opened_ne_writing {what : String} {absent : TokenStage} {left : List UInt8}
    (habsent : absent ≠ .writing left) : opened node what absent ≠ .writing left := by
  unfold opened
  split
  · exact habsent
  · exact TokenStage.noConfusion
  · exact TokenStage.noConfusion

/-- A daemon that goes on to a stage that fits in any case. -/
theorem Goes.on (hfits : stage'.Fits ownUid node) (hidle : ∀ left, stage' ≠ .writing left)
    (hbefore : ∀ result, stage ≠ .returned result) : Goes ownUid node stage node stage' :=
  .keeps stage stage' (fun _ => hfits) hidle hbefore

theorem Goes.fails {text : String} (hbefore : ∀ result, stage ≠ .returned result) :
    Goes ownUid node stage node (failed text) :=
  .on trivial (by simp [failed]) hbefore

/-- The end has been reached, or more than a token was there. -/
theorem judged_fits {read bytes : List UInt8} {metadata : FileMetadata}
    (hown : metadata.isOwn ownUid = true) (hread : read <+: bytes)
    (hend : (bytes.drop read.length).take (65 - read.length) = []) :
    (judged read).Fits ownUid (.file metadata bytes) := by
  rcases judged_returned read with ⟨result, hjudged⟩
  rw [hjudged]
  cases result with
  | error text => trivial
  | ok token =>
      rcases judged_ok hjudged with ⟨hbytes, htoken⟩
      have hwhole : read = bytes := by
        refine hread.eq_of_length_le ?_
        have hrest := congrArg List.length hend
        have hlength := htoken.1
        simp only [List.length_take, List.length_drop, List.length_nil] at hrest
        omega
      refine ⟨metadata, ?_, hown, hbytes ▸ htoken⟩
      rw [hbytes, hwhole]

theorem goes_of_next (h : stage.next path ownUid node event = some (node', stage')) :
    Goes ownUid node stage node' stage' := by
  unfold next at h
  split at h
  · cases h
    exact .on (opened_fits trivial) (fun _ => opened_ne_writing (by simp)) (by simp)
  · cases h
    exact .fails (by simp)
  · split at h
    · next hlength =>
        cases h
        exact .on (isToken_hex hlength) (by simp) (by simp)
    · cases h
  · cases h
    exact .fails (by simp)
  · split at h
    · cases h
      exact .creates _ _ rfl
    · cases h
      exact .on trivial (by simp) (by simp)
  · cases h
    exact .fails (by simp)
  · split at h
    · split at h
      · cases h
        exact .fails (by simp)
      · split at h
        · cases h
          exact .writes _ _ rfl
        · cases h
    · cases h
  · cases h
    exact .fails (by simp)
  · cases h
    exact .on trivial (by simp) (by simp)
  · cases h
    exact .fails (by simp)
  · cases h
    exact .on (opened_fits trivial) (fun _ => opened_ne_writing (by simp [failed])) (by simp)
  · cases h
    exact .fails (by simp)
  · split at h
    · split at h
      · next hown =>
          cases h
          exact .on ⟨_, _, rfl, hown, List.nil_prefix⟩ (by simp) (by simp)
      · cases h
        exact .fails (by simp)
    · cases h
  · cases h
    exact .fails (by simp)
  · next read n =>
      split at h
      · next metadata bytes =>
          dsimp only at h
          split at h
          · next hrest =>
              split at h
              · cases h
                rcases judged_returned read with ⟨result, hjudged⟩
                refine .keeps _ _ ?_ (by simp [hjudged]) (by simp)
                rintro ⟨metadata', bytes', hnode, hown, hread⟩
                cases hnode
                exact judged_fits hown hread hrest
              · cases h
          · split at h
            · cases h
              refine .keeps _ _ ?_ (by simp) (by simp)
              rintro ⟨metadata', bytes', hnode, hown, more, rfl⟩
              cases hnode
              refine ⟨_, _, rfl, hown, ?_⟩
              rw [List.drop_left, List.prefix_append_right_inj]
              exact (List.take_prefix _ _).trans (List.take_prefix _ _)
            · cases h
      · cases h
  · cases h
    exact .fails (by simp)
  · cases h
  · cases h
  · next hreturned _ =>
      cases h
      exact .on trivial (by simp) hreturned
  · cases h

end TokenStage

/-! ## Any number of daemons -/

namespace TokenRun

variable {path : String} {uids : Nat → Nat} {s s' : TokenRun}

/-- What every daemon is at fits the file, and at most one is writing it. -/
structure Sound (uids : Nat → Nat) (s : TokenRun) : Prop where
  fits : ∀ (i : Nat) (stage : TokenStage), s.stages[i]? = some stage → stage.Fits (uids i) s.node
  single : ∀ (i j : Nat) (left left' : List UInt8), s.stages[i]? = some (.writing left) →
    s.stages[j]? = some (.writing left') → i = j

/-- What a step of any daemon does. -/
inductive Moves (uids : Nat → Nat) (s : TokenRun) : TokenRun → Prop
  | starts : Moves uids s { s with stages := s.stages ++ [.opening] }
  | goes (i : Nat) {stage stage' : TokenStage} {node : TokenNode}
      (hstage : s.stages[i]? = some stage) (hgoes : stage.Goes (uids i) s.node node stage') :
      Moves uids s { node := node, stages := s.stages.set i stage' }

theorem moves_of_step {input : TokenInput} (h : s.step path uids input = some s') :
    Moves uids s s' := by
  cases input with
  | start =>
      cases h
      exact .starts
  | goes i event =>
      rcases Option.bind_eq_some_iff.1 h with ⟨stage, hstage, hnext⟩
      rcases Option.map_eq_some_iff.1 hnext with ⟨⟨node, stage'⟩, hout, rfl⟩
      exact .goes i hstage (TokenStage.goes_of_next hout)

/-- One daemon goes on; the others still fit, and they write only if they did and it does not. -/
theorem Sound.goes (h : Sound uids s) {i : Nat} {stage' : TokenStage} {node : TokenNode}
    (hothers : ∀ (j : Nat) (stage : TokenStage), j ≠ i → s.stages[j]? = some stage →
      stage.Fits (uids j) node)
    (hfits : stage'.Fits (uids i) node)
    (hsole : ∀ left, stage' = .writing left → ∀ (j : Nat) (left' : List UInt8), j ≠ i →
      s.stages[j]? ≠ some (.writing left')) :
    Sound uids { node := node, stages := s.stages.set i stage' } where
  fits := by
    intro j stage hj
    rcases Places.set_cases hj with ⟨rfl, rfl⟩ | ⟨hne, hbefore⟩
    · exact hfits
    · exact hothers j stage hne hbefore
  single := by
    intro j k left left' hj hk
    rcases Places.set_cases hj with ⟨rfl, hnew⟩ | ⟨hj', hbefore⟩
    · rcases Places.set_cases hk with ⟨rfl, -⟩ | ⟨hk', hbefore'⟩
      · rfl
      · exact absurd hbefore' (hsole left hnew.symm k left' hk')
    · rcases Places.set_cases hk with ⟨rfl, hnew⟩ | ⟨-, hbefore'⟩
      · exact absurd hbefore (hsole left' hnew.symm j left hj')
      · exact h.single j k left left' hbefore hbefore'

/-- Whatever fits no file fits an empty one. -/
theorem fits_of_absent {ownUid : Nat} {stage : TokenStage} (h : stage.Fits ownUid .absent)
    (metadata : FileMetadata) : stage.Fits ownUid (.file metadata []) := by
  cases stage with
  | creating token => exact h
  | writing left =>
      rcases h with ⟨-, metadata', bytes, hnode, -⟩
      cases hnode
  | reading read =>
      rcases h with ⟨metadata', bytes, hnode, -⟩
      cases hnode
  | checking => exact ⟨_, _, rfl⟩
  | returned result =>
      cases result with
      | error text => trivial
      | ok token =>
          rcases h with ⟨metadata', hnode, -⟩
          cases hnode
  | _ => trivial

/-- While the token is not whole, what is added to it changes nothing for the others. -/
theorem fits_append {ownUid : Nat} {stage : TokenStage} {metadata : FileMetadata}
    {bytes more : List UInt8} (h : stage.Fits ownUid (.file metadata bytes))
    (htorn : bytes.length < 64) (hidle : ∀ left, stage ≠ .writing left) :
    stage.Fits ownUid (.file metadata (bytes ++ more)) := by
  cases stage with
  | creating token => exact h
  | writing left => exact absurd rfl (hidle left)
  | reading read =>
      rcases h with ⟨metadata', bytes', hnode, hown, hread⟩
      cases hnode
      exact ⟨_, _, rfl, hown, hread.trans (List.prefix_append _ _)⟩
  | checking => exact ⟨_, _, rfl⟩
  | returned result =>
      cases result with
      | error text => trivial
      | ok token =>
          rcases h with ⟨metadata', hnode, -, htoken⟩
          cases hnode
          have hlength := htoken.1
          omega
  | _ => trivial

theorem written_fits {ownUid : Nat} {metadata : FileMetadata} {bytes left : List UInt8}
    (h : IsToken (bytes ++ left)) :
    (TokenStage.written left).Fits ownUid (.file metadata bytes) := by
  cases left with
  | nil => trivial
  | cons b left => exact ⟨List.cons_ne_nil b left, metadata, bytes, rfl, h⟩

theorem Sound.step (h : Sound uids s) (hmoves : Moves uids s s') : Sound uids s' := by
  cases hmoves with
  | starts =>
      refine ⟨?_, ?_⟩
      · intro i stage hi
        rcases Places.snoc_cases hi with hbefore | ⟨-, rfl⟩
        · exact h.fits i stage hbefore
        · trivial
      · intro i j left left' hi hj
        have hbefore : ∀ (k : Nat) (left : List UInt8),
            (s.stages ++ [.opening])[k]? = some (.writing left) →
              s.stages[k]? = some (.writing left) := by
          intro k left hk
          rcases Places.snoc_cases hk with hk | ⟨-, hnew⟩
          · exact hk
          · cases hnew
        exact h.single i j left left' (hbefore i left hi) (hbefore j left' hj)
  | goes i hstage hgoes =>
      cases hgoes with
      | keeps stage stage' hfits hidle hbefore =>
          refine h.goes ?_ (hfits (h.fits i _ hstage)) ?_
          · intro j other _ hj
            exact h.fits j other hj
          · intro left hleft
            exact absurd hleft (hidle left)
      | creates token metadata hnode =>
          have hall := h.fits
          rw [hnode] at hall
          refine h.goes ?_ (written_fits (hall i _ hstage)) ?_
          · intro j other _ hj
            exact fits_of_absent (hall j other hj) metadata
          · intro left _ j left' _ hj
            rcases hall j _ hj with ⟨-, metadata', bytes, hfile, -⟩
            cases hfile
      | @writes left n metadata bytes hnode =>
          have hall := h.fits
          rw [hnode] at hall
          rcases hall i _ hstage with ⟨hleft, metadata', bytes', hfile, htoken⟩
          cases hfile
          have hsole : ∀ (j : Nat) (left' : List UInt8), j ≠ i →
              s.stages[j]? ≠ some (.writing left') := by
            intro j left' hne hj
            exact hne (h.single j i left' left hj hstage)
          have htorn : bytes.length < 64 := by
            have hlength := htoken.1
            have hpos := List.length_pos_of_ne_nil hleft
            simp only [List.length_append] at hlength
            omega
          refine h.goes ?_ (written_fits ?_) fun _ _ => hsole
          · intro j other hne hj
            refine fits_append (hall j other hj) htorn ?_
            rintro left' rfl
            exact hsole j left' hne hj
          · rwa [List.append_assoc, List.take_append_drop]

/-- A daemon that has its token, or has failed, stays so. -/
theorem Moves.returned {i : Nat} {result : Except String String} (h : Moves uids s s')
    (hi : s.stages[i]? = some (.returned result)) : s'.stages[i]? = some (.returned result) := by
  cases h with
  | starts => exact Places.of_prefix (List.prefix_append _ _) hi
  | @goes j stage stage' node hstage hgoes =>
      have hne : j ≠ i := by
        rintro rfl
        obtain rfl := Option.some.inj (hstage.symm.trans hi)
        cases hgoes with
        | keeps _ _ _ _ hbefore => exact hbefore result rfl
      rw [List.getElem?_set_ne hne]
      exact hi

/-- The file is there, and nobody is writing it. -/
structure Settled (metadata : FileMetadata) (bytes : List UInt8) (s : TokenRun) : Prop where
  node : s.node = .file metadata bytes
  idle : ∀ left, .writing left ∉ s.stages

theorem Settled.step {metadata : FileMetadata} {bytes : List UInt8} (h : Settled metadata bytes s)
    (hmoves : Moves uids s s') : Settled metadata bytes s' := by
  cases hmoves with
  | starts =>
      refine ⟨h.node, fun left hmem => ?_⟩
      rcases List.mem_append.1 hmem with hbefore | hnew
      · exact h.idle left hbefore
      · cases List.mem_singleton.1 hnew
  | goes i hstage hgoes =>
      cases hgoes with
      | keeps stage stage' _ hidle _ =>
          refine ⟨h.node, fun left hmem => ?_⟩
          rcases List.mem_or_eq_of_mem_set hmem with hbefore | hnew
          · exact h.idle left hbefore
          · exact hidle left hnew.symm
      | creates token metadata' hnode =>
          rw [h.node] at hnode
          cases hnode
      | writes left n hnode => exact absurd (List.mem_of_getElem? hstage) (h.idle left)

theorem Sound.of_run {node : TokenNode}
    (h : Machine.Reaches (TokenRun.step path uids) { node := node } s) : Sound uids s := by
  have hstart : Sound uids { node := node } := by
    refine ⟨?_, ?_⟩
    · intro i stage hi
      cases hi
    · intro i j left left' hi
      cases hi
  exact h.invariant (fun _ _ _ hx hstep => hx.step (moves_of_step hstep)) hstart

/-- However many daemons start, and whenever each of them goes on or dies, all that get a token get
the same one. It stays in the file, and the file is of those who got it. -/
theorem token_is_shared {node : TokenNode} {s s' : TokenRun}
    (h : Machine.Reaches (TokenRun.step path uids) { node := node } s)
    (h' : Machine.Reaches (TokenRun.step path uids) s s') {i j : Nat} {token token' : String}
    (hi : s.stages[i]? = some (.returned (.ok token)))
    (hj : s'.stages[j]? = some (.returned (.ok token'))) :
    token' = token ∧ ∃ metadata, s'.node = .file metadata (utf8 token) ∧
      metadata.OwnedBy (uids i) ∧ metadata.OwnedBy (uids j) ∧ IsToken (utf8 token) := by
  have hsound := Sound.of_run (h.trans h')
  have hi' : s'.stages[i]? = some (.returned (.ok token)) :=
    h'.invariant (P := fun s => s.stages[i]? = some (.returned (.ok token)))
      (fun _ _ _ hx hstep => (moves_of_step hstep).returned hx) hi
  rcases hsound.fits i _ hi' with ⟨metadata, hnode, hown, htoken⟩
  rcases hsound.fits j _ hj with ⟨metadata', hnode', hown', -⟩
  rw [hnode] at hnode'
  injection hnode' with hmetadata hbytes
  subst hmetadata
  exact ⟨(utf8_injective hbytes).symm, metadata, hnode, FileMetadata.isOwn_iff.1 hown,
    FileMetadata.isOwn_iff.1 hown', htoken⟩

/-- A file that nobody is writing is never written again. If it holds no token, because whoever made
it has died or failed on the way, no daemon gets one any more. -/
theorem settled_file_stays {node : TokenNode} {s s' : TokenRun} {metadata : FileMetadata}
    {bytes : List UInt8} (h : Machine.Reaches (TokenRun.step path uids) { node := node } s)
    (h' : Machine.Reaches (TokenRun.step path uids) s s') (hnode : s.node = .file metadata bytes)
    (hidle : ∀ left, .writing left ∉ s.stages) :
    s'.node = .file metadata bytes ∧
      (¬IsToken bytes → ∀ (j : Nat) (token : String),
        s'.stages[j]? ≠ some (.returned (.ok token))) := by
  have hsettled : Settled metadata bytes s' :=
    h'.invariant (fun _ _ _ hx hstep => hx.step (moves_of_step hstep)) ⟨hnode, hidle⟩
  refine ⟨hsettled.node, fun htorn j token hj => ?_⟩
  rcases (Sound.of_run (h.trans h')).fits j _ hj with ⟨_, hnode', -, htoken⟩
  rw [hsettled.node] at hnode'
  injection hnode' with hmetadata hbytes
  exact htorn (hbytes ▸ htoken)

/-! ### Two daemons at the same time, and one that dies -/

def tokenFile : FileMetadata where
  isFile := true
  mode := 0o600
  uid := 1000
  nlink := 1

/-- Both daemons find no file and draw a token; the second is faster. -/
def raceInputs : List TokenInput :=
  [.start, .start, .goes 0 (.opened none), .goes 1 (.opened none),
    .goes 0 (.drew (.ok (List.replicate 32 171))), .goes 1 (.drew (.ok (List.replicate 32 205))),
    .goes 1 (.created (.ok tokenFile)), .goes 0 (.created (.ok tokenFile)),
    .goes 1 (.wrote (.ok 64)), .goes 1 (.synced (.ok ())), .goes 0 (.opened none),
    .goes 1 (.opened none), .goes 0 (.checked (.ok ())), .goes 1 (.checked (.ok ())),
    .goes 0 (.got (.ok 64)), .goes 1 (.got (.ok 40)), .goes 1 (.got (.ok 24)),
    .goes 0 (.got (.ok 0)), .goes 1 (.got (.ok 0))]

/-- The first daemon dies before it has written its token. -/
def deathInputs : List TokenInput :=
  [.start, .goes 0 (.opened none), .goes 0 (.drew (.ok (List.replicate 32 171))),
    .goes 0 (.created (.ok tokenFile)), .goes 0 .died]

/-- A daemon that is started after that. -/
def lateInputs : List TokenInput :=
  [.start, .goes 1 (.opened none), .goes 1 (.checked (.ok ())), .goes 1 (.got (.ok 0))]

/-- All daemons of one user. -/
def tokenStep : TokenRun → TokenInput → Option TokenRun :=
  TokenRun.step "dssp.daemon.token" fun _ => 1000

def tokenRun (inputs : List TokenInput) : TokenRun :=
  (Machine.run tokenStep { node := .absent } inputs).getD { node := .absent }

theorem tokenRun_reaches {inputs : List TokenInput}
    (h : (Machine.run tokenStep { node := .absent } inputs).isSome = true) :
    Machine.Reaches tokenStep { node := .absent } (tokenRun inputs) := by
  rcases Option.isSome_iff_exists.1 h with ⟨s, hs⟩
  exact ⟨inputs, by simp [tokenRun, hs]⟩

theorem both_get_one_token :
    (tokenRun raceInputs).stages[0]? =
        some (.returned (.ok (String.ofList (List.replicate 32 ['c', 'd']).flatten))) ∧
      ∃ metadata, (tokenRun raceInputs).node =
          .file metadata (utf8 (String.ofList (List.replicate 32 ['c', 'd']).flatten)) ∧
        metadata.OwnedBy 1000 ∧ metadata.OwnedBy 1000 ∧
          IsToken (utf8 (String.ofList (List.replicate 32 ['c', 'd']).flatten)) := by
  have hreaches := @tokenRun_reaches raceInputs (by decide +kernel)
  have h0 : (tokenRun raceInputs).stages[0]? =
      some (.returned (.ok (String.ofList (List.replicate 32 ['c', 'd']).flatten))) := by
    decide +kernel
  have h1 : (tokenRun raceInputs).stages[1]? =
      some (.returned (.ok (String.ofList (List.replicate 32 ['c', 'd']).flatten))) := by
    decide +kernel
  exact ⟨h0, (token_is_shared hreaches (.refl _) h0 h1).2⟩

theorem nobody_starts_after_a_death :
    (tokenRun (deathInputs ++ lateInputs)).node = .file tokenFile [] ∧
      ∀ (j : Nat) (token : String),
        (tokenRun (deathInputs ++ lateInputs)).stages[j]? ≠ some (.returned (.ok token)) := by
  have hbefore := @tokenRun_reaches deathInputs (by decide +kernel)
  have hlate : Machine.Reaches tokenStep (tokenRun deathInputs)
      (tokenRun (deathInputs ++ lateInputs)) := by
    refine ⟨lateInputs, ?_⟩
    decide +kernel
  have hstages : (tokenRun deathInputs).stages = [.dead] := by decide +kernel
  have hidle : ∀ left, .writing left ∉ (tokenRun deathInputs).stages := by
    intro left hmem
    rw [hstages] at hmem
    cases List.mem_singleton.1 hmem
  have hnode : (tokenRun deathInputs).node = .file tokenFile [] := by decide +kernel
  have hstays := settled_file_stays hbefore hlate hnode hidle
  exact ⟨hstays.1, hstays.2 (by simp [IsToken])⟩

end TokenRun

end DsspBot
