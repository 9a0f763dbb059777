import DsspBot.Worker.Selector

/-!
# Classification — what a response to a submission proves

A submission is confirmed by one thing only: a page that is not the login page, with a success
status, that complains of nothing and whose JSON says so. This file states the four cases in terms
of the page itself, whatever the libraries make of it.
-/

namespace DsspBot

section Response

variable {Soup Tag : Type} {lib : Libraries Soup Tag} {body finalUrl : String}

/-- The body of a response as the libraries read it. -/
structure ResultPage (lib : Libraries Soup Tag) (body : String) where
  soup : Soup
  loginForm : Option Tag
  complaints : List Tag
  text : Tag → String
  parsed : lib.parseHtml body = .ok soup
  form_selected : lib.selectOne soup LOGIN_FORM_SELECTOR = .ok loginForm
  complaints_selected : lib.select soup VALIDATION_MESSAGE_SELECTOR = .ok complaints
  text_read : ∀ tag ∈ complaints, lib.getText tag = .ok (text tag)
  /-- A body that is no JSON is refused with one of these two. One that is nested too deeply for the
  interpreter is not considered. -/
  refused : ∀ e, lib.loads body = .error e → ∃ text, e = .value text ∨ e = .type text

namespace ResultPage

variable (page : ResultPage lib body)

/-- The login page, or a URL that cannot be told from it. -/
def IsLogin (finalUrl : String) : Prop :=
  (∀ url, lib.urlparse finalUrl = .ok url → url.path.startsWith "/Account/Login" = true) ∨
    page.loginForm ≠ none

/-- Some complaint on the page has a letter in it. -/
def ShowsMessage : Prop :=
  ∃ tag ∈ page.complaints, ∃ c ∈ (page.text tag).toList, isspace c = false

end ResultPage

/-- The keys that may carry the flag, the first one that is there deciding. -/
def SUCCESS_KEYS : List String := ["IsSuccessful", "success", "Success"]

/-- The body is a JSON object, and the first of the keys that is there holds this value. -/
def Declares (lib : Libraries Soup Tag) (body : String) (value : Bool) : Prop :=
  ∃ fields before key after, lib.loads body = .ok (.object fields) ∧
    SUCCESS_KEYS = before ++ key :: after ∧ (∀ other ∈ before, Json.field fields other = none) ∧
      Json.field fields key = some (.bool value)

/-- What proves that a session was recorded. -/
def ResultPage.Confirms (page : ResultPage lib body) (finalUrl : String) (status : Nat) : Prop :=
  ¬page.IsLogin finalUrl ∧ 200 ≤ status ∧ status < 300 ∧ ¬page.ShowsMessage ∧
    Declares lib body true

/-- What shows that it was refused. -/
def ResultPage.Rejects (page : ResultPage lib body) (finalUrl : String) (status : Nat) : Prop :=
  ¬page.IsLogin finalUrl ∧ ¬(300 ≤ status ∧ status < 400) ∧
    (Declares lib body false ∨ page.ShowsMessage ∨ 400 ≤ status)

/-! ## What the page is read as -/

namespace ResultPage

variable (page : ResultPage lib body)

theorem isLoginPage_ok (finalUrl : String) :
    ∃ login, isLoginPage lib page.soup finalUrl = .ok login ∧
      (login = true ↔ page.IsLogin finalUrl) := by
  unfold isLoginPage IsLogin
  cases hurl : lib.urlparse finalUrl with
  | error e => exact ⟨true, rfl, iff_of_true rfl (Or.inl fun url hok => nomatch hok)⟩
  | ok url =>
      -- The root stands in for an empty path, and neither is the login path.
      have hroot : (if url.path = "" then "/" else url.path).startsWith "/Account/Login" =
          url.path.startsWith "/Account/Login" := by
        by_cases hempty : url.path = ""
        · rw [if_pos hempty, hempty]
          decide +kernel
        · rw [if_neg hempty]
      simp only [hroot, Except.ok.injEq, forall_eq']
      cases url.path.startsWith "/Account/Login" with
      | true => exact ⟨true, rfl, iff_of_true rfl (Or.inl rfl)⟩
      | false =>
          refine ⟨page.loginForm.isSome, ?_, ?_⟩
          · simp [page.form_selected, Except.map]
          · simp [Option.isSome_iff_ne_none]

theorem mapM_getText : page.complaints.mapM lib.getText = .ok (page.complaints.map page.text) := by
  have hread := page.text_read
  generalize page.complaints = complaints at hread
  induction complaints with
  | nil => rfl
  | cons tag rest ih =>
      rcases List.forall_mem_cons.1 hread with ⟨htag, hrest⟩
      rw [List.mapM_cons, htag, ih hrest]
      rfl

theorem validationMessage_ok : ∃ message, validationMessage lib page.soup = .ok message ∧
    (message.isSome = true ↔ page.ShowsMessage) := by
  unfold validationMessage
  rw [page.complaints_selected]
  simp only [bind, Except.bind, page.mapM_getText]
  refine ⟨_, rfl, ?_⟩
  -- A message is left unless every text is blank.
  have hblank : ∀ text, " ".intercalate (splitSpace text) = "" ↔
      ∀ c ∈ text.toList, isspace c = true := by
    intro text
    rw [collapsed_eq_empty_iff, splitSpace_eq, List.map_eq_nil_iff, Words.words_eq_nil_iff]
  unfold ShowsMessage
  split
  · next hnone =>
      rw [List.isEmpty_iff, List.filter_eq_nil_iff] at hnone
      refine iff_of_false (by simp) ?_
      rintro ⟨tag, htag, c, hc, hletter⟩
      have hempty := hnone _ (List.mem_map_of_mem (List.mem_map_of_mem htag))
      have hseps := (hblank _).1 (by simpa using hempty) c hc
      simp [hletter] at hseps
  · next hsome =>
      refine iff_of_true rfl ?_
      rw [List.isEmpty_iff, List.filter_eq_nil_iff] at hsome
      push Not at hsome
      rcases hsome with ⟨message, hmem, hmessage⟩
      rcases List.mem_map.1 hmem with ⟨text, htext, rfl⟩
      rcases List.mem_map.1 htext with ⟨tag, htag, rfl⟩
      have hletters : ¬∀ c ∈ (page.text tag).toList, isspace c = true := by
        rw [← hblank]
        simpa using hmessage
      push Not at hletters
      rcases hletters with ⟨c, hc, hletter⟩
      exact ⟨tag, htag, c, hc, by simpa using hletter⟩

end ResultPage

theorem declares_iff_of_object {fields : List (String × Json)}
    (hloads : lib.loads body = .ok (.object fields)) (value : Bool) :
    Declares lib body value ↔
      SUCCESS_KEYS.findSome? (Json.field fields) = some (.bool value) := by
  rw [List.findSome?_eq_some_iff]
  constructor
  · rintro ⟨fields', before, key, after, hok, hkeys, hnone, hvalue⟩
    rw [hloads] at hok
    cases hok
    exact ⟨before, key, after, hkeys, hvalue, hnone⟩
  · rintro ⟨before, key, after, hkeys, hvalue, hnone⟩
    exact ⟨fields, before, key, after, hloads, hkeys, hnone, hvalue⟩

theorem not_declares_of_not_object (h : ∀ fields, lib.loads body ≠ .ok (.object fields))
    (value : Bool) : ¬Declares lib body value := by
  rintro ⟨fields, before, key, after, hok, -⟩
  exact h fields hok

/-- The nested defaults of the flag look the keys up one after the other. -/
theorem or_or_eq_findSome? (fields : List (String × Json)) :
    (Json.field fields "IsSuccessful").or
        ((Json.field fields "success").or (Json.field fields "Success")) =
      SUCCESS_KEYS.findSome? (Json.field fields) := by
  simp only [SUCCESS_KEYS, List.findSome?_cons, List.findSome?_nil]
  cases Json.field fields "IsSuccessful" with
  | some value => rfl
  | none =>
      cases Json.field fields "success" with
      | some value => rfl
      | none => cases Json.field fields "Success" <;> rfl

/-- The flag of the reply is what the first key that is there holds, if that is a boolean. -/
theorem ResultPage.messageFromJson_ok (page : ResultPage lib body) :
    ∃ json, messageFromJson lib body = .ok json ∧
      ∀ value, json.bind (·.success) = some value ↔ Declares lib body value := by
  unfold messageFromJson
  cases hloads : lib.loads body with
  | error e =>
      have hnone : ∀ value, ¬Declares lib body value :=
        not_declares_of_not_object fun fields hok => by simp [hloads] at hok
      rcases page.refused e hloads with ⟨text, rfl | rfl⟩
      · exact ⟨none, rfl, fun value => iff_of_false (by simp) (hnone value)⟩
      · exact ⟨none, rfl, fun value => iff_of_false (by simp) (hnone value)⟩
  | ok document =>
      cases document with
      | object fields =>
          refine ⟨_, rfl, ?_⟩
          intro value
          rw [declares_iff_of_object hloads, ← or_or_eq_findSome?]
          simp only [Option.bind_some]
          split
          · next found hfound => rw [hfound]; simp
          · next hother =>
              refine iff_of_false (by simp) ?_
              intro hbool
              exact hother value hbool
      | _ =>
          refine ⟨none, rfl, fun value => iff_of_false (by simp) ?_⟩
          exact not_declares_of_not_object (fun fields hok => by simp [hloads] at hok) value

/-- What is returned for a page that is not the login page. -/
theorem ResultPage.submissionOutcome_ok (page : ResultPage lib body) (status : Nat)
    (hlogin : ¬page.IsLogin finalUrl) :
    ∃ o, submissionOutcome lib body finalUrl status = .ok o ∧
      (o.outcome = "confirmed" ↔
        200 ≤ status ∧ status < 300 ∧ ¬page.ShowsMessage ∧ Declares lib body true) ∧
      (o.outcome = "rejected" ↔ ¬(300 ≤ status ∧ status < 400) ∧
        (Declares lib body false ∨ page.ShowsMessage ∨ 400 ≤ status)) ∧
      (o.outcome = "confirmed" ∨ o.outcome = "rejected" ∨ o.outcome = "indeterminate") := by
  rcases page.isLoginPage_ok finalUrl with ⟨login, hlogin_ok, hlogin_iff⟩
  rcases page.messageFromJson_ok with ⟨json, hjson, hflag⟩
  rcases page.validationMessage_ok with ⟨message, hmessage, hshows⟩
  obtain rfl : login = false := by simpa using mt hlogin_iff.1 hlogin
  have hone : ¬(Declares lib body true ∧ Declares lib body false) := by
    rw [← hflag, ← hflag]
    rintro ⟨htrue, hfalse⟩
    rw [htrue] at hfalse
    cases hfalse
  rw [← hflag, ← hflag] at hone
  rw [← hflag, ← hflag, ← hshows]
  unfold submissionOutcome
  simp only [bind, Except.bind, page.parsed, hlogin_ok, hjson, hmessage, Except.mapError]
  rw [if_neg Bool.false_ne_true]
  by_cases hredirect : 300 ≤ status ∧ status < 400
  · refine ⟨_, if_pos hredirect, ?_⟩
    have hlate : ¬status < 300 := by omega
    simp [hredirect, hlate]
  · rw [if_neg hredirect]
    by_cases hrefused : json.bind (·.success) = some false ∨ message.isSome = true ∨ 400 ≤ status
    · refine ⟨_, if_pos hrefused, ?_⟩
      -- What is refused is not confirmed: the flag cannot hold both values.
      have hnot : ¬(200 ≤ status ∧ status < 300 ∧ ¬message.isSome = true ∧
          json.bind (·.success) = some true) := by
        rintro ⟨-, hlow, hquiet, htrue⟩
        rcases hrefused with hfalse | hloud | hhigh
        · exact hone ⟨htrue, hfalse⟩
        · exact hquiet hloud
        · omega
      exact ⟨iff_of_false (by simp) hnot, iff_of_true rfl ⟨hredirect, hrefused⟩,
        Or.inr (Or.inl rfl)⟩
    · rw [if_neg hrefused]
      have hkept : ¬(¬(300 ≤ status ∧ status < 400) ∧
          (json.bind (·.success) = some false ∨ message.isSome = true ∨ 400 ≤ status)) :=
        fun h => hrefused h.2
      by_cases hproof : 200 ≤ status ∧ status < 300 ∧ json.bind (·.success) = some true
      · rcases hproof with ⟨hhigh, hlow, htrue⟩
        have hquiet : ¬message.isSome = true := fun hloud => hrefused (Or.inr (Or.inl hloud))
        refine ⟨_, if_pos ⟨hhigh, hlow, htrue⟩, ?_⟩
        exact ⟨iff_of_true rfl ⟨hhigh, hlow, hquiet, htrue⟩, iff_of_false (by simp) hkept,
          Or.inl rfl⟩
      · refine ⟨_, if_neg hproof, ?_⟩
        refine ⟨iff_of_false (by simp) ?_, iff_of_false (by simp) hkept, Or.inr (Or.inr rfl)⟩
        rintro ⟨hhigh, hlow, -, htrue⟩
        exact hproof ⟨hhigh, hlow, htrue⟩

/-- On the login page the attempt is admitted and nothing is made of the rest. -/
theorem ResultPage.submissionOutcome_login (page : ResultPage lib body) (status : Nat)
    (hlogin : page.IsLogin finalUrl) :
    submissionOutcome lib body finalUrl status = .error (.portal (.sessionExpired true)) := by
  rcases page.isLoginPage_ok finalUrl with ⟨login, hlogin_ok, hlogin_iff⟩
  obtain rfl := hlogin_iff.2 hlogin
  unfold submissionOutcome
  simp only [bind, Except.bind, page.parsed, hlogin_ok, Except.mapError]
  exact if_pos trivial

/-- A submission is confirmed only on proof, and rejected only on a sign of refusal. -/
theorem submission_classified (page : ResultPage lib body) (finalUrl : String) (status : Nat) :
    ((∃ o, submissionOutcome lib body finalUrl status = .ok o ∧ o.outcome = "confirmed") ↔
        page.Confirms finalUrl status) ∧
      ((∃ o, submissionOutcome lib body finalUrl status = .ok o ∧ o.outcome = "rejected") ↔
        page.Rejects finalUrl status) ∧
      (page.IsLogin finalUrl → submissionOutcome lib body finalUrl status =
        .error (.portal (.sessionExpired true))) ∧
      (¬page.IsLogin finalUrl → ¬page.Confirms finalUrl status → ¬page.Rejects finalUrl status →
        ∃ o, submissionOutcome lib body finalUrl status = .ok o ∧
          o.outcome = "indeterminate") := by
  unfold ResultPage.Confirms ResultPage.Rejects
  by_cases hlogin : page.IsLogin finalUrl
  · have hraised := page.submissionOutcome_login status hlogin
    simp [hraised, hlogin]
  · rcases page.submissionOutcome_ok status hlogin with ⟨o, ho, hconfirmed, hrejected, hothers⟩
    refine ⟨?_, ?_, fun h => absurd h hlogin, ?_⟩
    · simp [ho, hlogin, hconfirmed]
    · simp [ho, hlogin, hrejected]
    · intro _ hnot hkept
      refine ⟨o, ho, ?_⟩
      rcases hothers with h | h | h
      · exact absurd ⟨hlogin, hconfirmed.1 h⟩ hnot
      · exact absurd ⟨hlogin, hrejected.1 h⟩ hkept
      · exact h

end Response

/-! ### A reply that says it succeeded -/

def successBody : String := "\x7b\"success\": true\x7d"

def successLibraries : Libraries String String :=
  { plainLibraries with
    loads := fun body =>
      if body = successBody then .ok (.object [("success", .bool true)])
      else .error (.value "Expecting value: line 1 column 1 (char 0)") }

def successPage : ResultPage successLibraries successBody where
  soup := successBody
  loginForm := none
  complaints := []
  text _ := ""
  parsed := rfl
  form_selected := rfl
  complaints_selected := rfl
  text_read := by simp
  refused := by
    intro e he
    cases he

theorem success_is_confirmed :
    ∃ o, submissionOutcome successLibraries successBody "https://portal/Trainee/LogTraining" 200 =
      .ok o ∧ o.outcome = "confirmed" := by
  refine (submission_classified successPage "https://portal/Trainee/LogTraining" 200).1.2 ?_
  refine ⟨?_, by decide, by decide, ?_, ?_⟩
  · rintro (hlogin | hform)
    · have hurl : successLibraries.urlparse "https://portal/Trainee/LogTraining" =
          .ok ⟨"https", "portal", "/Trainee/LogTraining", ""⟩ := rfl
      exact absurd (hlogin _ hurl) (by decide +kernel)
    · exact hform rfl
  · rintro ⟨tag, htag, -⟩
    cases htag
  · exact ⟨_, ["IsSuccessful"], "success", ["Success"], rfl, rfl, by simp [Json.field], rfl⟩

end DsspBot
