import DsspBot.Extension.Stakes
import DsspBot.Lib.Pattern
import DsspBot.Worker.Classification

/-!
# Confirmation — what the extension makes of the answer to a post

The tab keeps the answer to its post and reads it when the engine asks for the result. It takes the
word of the page where the worker wants a flag: a page that talks of success is a confirmation. This
file states what each verdict rests on, what a success in the report rests on, and how far the two
programs agree on one and the same answer.
-/

namespace DsspBot

namespace Extension

/-! ## Reading the answer -/

/-- What the browser makes of addresses, texts and documents. -/
structure Browser (Document : Type) where
  /-- The path of an address as the portal's pages use it, unless it is none. -/
  pathname : String → Option String
  parseJson : String → Option Json
  parseHtml : String → Document
  /-- The texts of the elements that a selector finds, in the order of the document. -/
  querySelectorAll : Document → String → List String
  /-- The text of the body, if there is one. -/
  bodyText : Document → Option String

def LOGIN_FORM_SELECTOR : String := "#loginForm, form[action*=\"/Account/Login\"]"
def VALIDATION_MESSAGE_SELECTOR : String := ".validation-summary-errors, .field-validation-error"

/-- The flag `i` adds the other case of a letter. -/
def eitherCase (letter c : Char) : Bool :=
  decide (c = letter ∨ c = letter.toUpper)

def spelled (text : String) : Pattern Char :=
  .word (text.toList.map eitherCase)

/-- `/duplicate|already\s+(?:logged|recorded|exists?)/i`. -/
def DUPLICATE_RE : Pattern Char :=
  .either (spelled "duplicate")
    (.both (spelled "already")
      (.both (.both (.one isSpace) (.many isSpace))
        (.either (spelled "logged")
          (.either (spelled "recorded") (.both (spelled "exist") (.either (spelled "s") .done))))))

/-- `/success|successfully|saved|recorded|created/i`. -/
def SUCCESS_RE : Pattern Char :=
  .either (spelled "success")
    (.either (spelled "successfully")
      (.either (spelled "saved") (.either (spelled "recorded") (spelled "created"))))

/-- `replace(/\s+/g, " ").trim()`. -/
def collapse (text : String) : String :=
  trim (String.ofList (collapseFrom false text.toList))

namespace Browser

variable {Document : Type} (browser : Browser Document)

/-- An address that cannot be parsed counts as the login page's. -/
def isLoginPage (document : Document) (href : String) : Bool :=
  match browser.pathname href with
  | none => true
  | some path =>
      path.startsWith "/Account/Login" ||
        !(browser.querySelectorAll document LOGIN_FORM_SELECTOR).isEmpty

def validationMessage (document : Document) : Option String :=
  let messages := ((browser.querySelectorAll document VALIDATION_MESSAGE_SELECTOR).map
    collapse).filter (· ≠ "")
  if messages.isEmpty then none else some (" ".intercalate messages)

def messageFromJson (body : String) : Option JsonMessage :=
  match browser.parseJson body with
  | some (.object fields) =>
      some
        { success := match firstPresent fields ["success", "Success"] with
            | some (.bool value) => some value
            | _ => none
          message := match firstPresent fields ["message", "Message", "error", "Error"] with
            | some (.string value) => some value
            | _ => none }
  -- An array is an object too, without any of these.
  | some (.array _) => some {}
  | _ => none

/-- What the answer is searched for. -/
def message (snapshot : SubmissionSnapshot) : String :=
  let visibleText := ((browser.bodyText (browser.parseHtml snapshot.body)).map collapse).getD
    (trim snapshot.body)
  ((browser.messageFromJson snapshot.body).bind (·.message)).getD visibleText

/-- It has been sent on to a page outside the training log. -/
def leftTheLog (snapshot : SubmissionSnapshot) : Bool :=
  snapshot.redirected && (browser.pathname snapshot.url).all fun path =>
    !decide ("/TrainingLog".toList <:+: path.toList)

def submissionOutcome (snapshot : SubmissionSnapshot) :
    Except AutomationError SubmissionOutcome :=
  let json := browser.messageFromJson snapshot.body
  let document := browser.parseHtml snapshot.body
  if browser.isLoginPage document snapshot.url then .error .sessionExpired
  else
    let message := browser.message snapshot
    if DUPLICATE_RE.search message.toList then .ok (.duplicate message)
    else
      let validation := browser.validationMessage document
      if json.bind (·.success) = some false ∨ validation.isSome ∨ 400 ≤ snapshot.status then
        .ok (.rejected (((json.bind (·.message)).or validation).getD
          s!"DSSP returned HTTP {snapshot.status}."))
      else if json.bind (·.success) = some true ∨ SUCCESS_RE.search message.toList ∨
          snapshot.status = 204 ∨
          (200 ≤ snapshot.status ∧ snapshot.status < 300 ∧ trim snapshot.body = "") ∨
          browser.leftTheLog snapshot then
        .ok (.confirmed (some snapshot.url))
      else
        .error (.confirmationUnknown
          s!"DSSP returned HTTP {snapshot.status} without a recognizable result.")

/-- What the tab makes of a form is left open. -/
def reading (checkValidity : TrainingForm → Bool) : PageReading where
  checkValidity := checkValidity
  isLoginPage snapshot := browser.isLoginPage (browser.parseHtml snapshot.body) snapshot.url
  submissionOutcome := browser.submissionOutcome

/-! ## What a verdict rests on -/

/-- The pattern stands for some stretch of the text. -/
def Mentions (pattern : Pattern Char) (text : String) : Prop :=
  ∃ before found after, found ∈ pattern.language ∧ before ++ (found ++ after) = text.toList

/-- The login page, or an address that cannot be told from it. -/
def IsLogin (snapshot : SubmissionSnapshot) : Prop :=
  (∀ path, browser.pathname snapshot.url = some path → path.startsWith "/Account/Login" = true) ∨
    browser.querySelectorAll (browser.parseHtml snapshot.body) LOGIN_FORM_SELECTOR ≠ []

/-- The body is a JSON object, and the first of the two keys that is there and not null holds this
value. -/
def Declares (snapshot : SubmissionSnapshot) (value : Bool) : Prop :=
  ∃ fields, browser.parseJson snapshot.body = some (.object fields) ∧
    firstPresent fields ["success", "Success"] = some (.bool value)

/-- Some complaint on the page has a letter in it. -/
def ShowsMessage (snapshot : SubmissionSnapshot) : Prop :=
  ∃ text ∈ browser.querySelectorAll (browser.parseHtml snapshot.body) VALIDATION_MESSAGE_SELECTOR,
    ∃ c ∈ text.toList, isSpace c = false

/-- The portal knows the session already. -/
def Duplicates (snapshot : SubmissionSnapshot) : Prop :=
  ¬browser.IsLogin snapshot ∧ Mentions DUPLICATE_RE (browser.message snapshot)

/-- Something speaks against it. -/
def Refuses (snapshot : SubmissionSnapshot) : Prop :=
  browser.Declares snapshot false ∨ browser.ShowsMessage snapshot ∨ 400 ≤ snapshot.status

/-- Something speaks for it. -/
def Affirms (snapshot : SubmissionSnapshot) : Prop :=
  browser.Declares snapshot true ∨ Mentions SUCCESS_RE (browser.message snapshot) ∨
    snapshot.status = 204 ∨
    (200 ≤ snapshot.status ∧ snapshot.status < 300 ∧
      ∀ c ∈ snapshot.body.toList, isSpace c = true) ∨
    browser.leftTheLog snapshot = true

/-- What a verdict says about the answer. -/
def Justifies (snapshot : SubmissionSnapshot) : Except AutomationError SubmissionOutcome → Prop
  | .ok (.duplicate _) => browser.Duplicates snapshot
  | .ok (.rejected _) =>
      ¬browser.IsLogin snapshot ∧ ¬browser.Duplicates snapshot ∧ browser.Refuses snapshot
  | .ok (.confirmed _) =>
      ¬browser.IsLogin snapshot ∧ ¬browser.Duplicates snapshot ∧ ¬browser.Refuses snapshot ∧
        browser.Affirms snapshot
  | .error error =>
      (browser.IsLogin snapshot ∧ error = .sessionExpired) ∨
        (¬browser.IsLogin snapshot ∧ ¬browser.Duplicates snapshot ∧ ¬browser.Refuses snapshot ∧
          ¬browser.Affirms snapshot ∧ error.code = .confirmationUnknown)

section Lemmas

variable {browser} {snapshot : SubmissionSnapshot}

theorem trim_eq_empty_iff (text : String) :
    trim text = "" ↔ ∀ c ∈ text.toList, isSpace c = true := by
  unfold trim
  rw [← @Words.trim_eq_nil_iff _ isSpace]
  constructor
  · intro h
    simpa using congrArg String.toList h
  · intro h
    rw [h]

theorem isLoginPage_iff :
    browser.isLoginPage (browser.parseHtml snapshot.body) snapshot.url = true ↔
      browser.IsLogin snapshot := by
  unfold isLoginPage IsLogin
  cases browser.pathname snapshot.url with
  | none => simp
  | some path => simp

theorem success_iff (value : Bool) :
    (browser.messageFromJson snapshot.body).bind (·.success) = some value ↔
      browser.Declares snapshot value := by
  unfold messageFromJson Declares
  cases browser.parseJson snapshot.body with
  | none => simp
  | some document =>
      cases document with
      | object fields =>
          simp only [Option.bind_some, Option.some.injEq, Json.object.injEq, exists_eq_left']
          split
          · next found hfound => simp [hfound]
          · next hother =>
              refine iff_of_false (by simp) ?_
              intro hbool
              exact hother value hbool
      | _ => simp

/-- A letter stays, and a text of spaces collapses to one at most. -/
theorem collapseFrom_spaces_iff (after : Bool) (text : List Char) :
    (∀ c ∈ collapseFrom after text, isSpace c = true) ↔ ∀ c ∈ text, isSpace c = true := by
  induction text generalizing after with
  | nil => exact Iff.rfl
  | cons c text ih =>
      unfold collapseFrom
      by_cases hc : isSpace c = true
      · have hblank : isSpace ' ' = true := by decide
        cases after with
        | true => simp [hc, ih]
        | false => simp [hc, hblank, ih]
      · simp [hc]

theorem collapse_eq_empty_iff (text : String) :
    collapse text = "" ↔ ∀ c ∈ text.toList, isSpace c = true := by
  unfold collapse
  rw [trim_eq_empty_iff, String.toList_ofList, collapseFrom_spaces_iff]

theorem validationMessage_isSome_iff :
    (browser.validationMessage (browser.parseHtml snapshot.body)).isSome = true ↔
      browser.ShowsMessage snapshot := by
  unfold validationMessage ShowsMessage
  generalize browser.querySelectorAll (browser.parseHtml snapshot.body)
    VALIDATION_MESSAGE_SELECTOR = texts
  have hmessages : ((texts.map collapse).filter (· ≠ "")).isEmpty = true ↔
      ∀ text ∈ texts, ∀ c ∈ text.toList, isSpace c = true := by
    rw [List.isEmpty_iff, List.filter_eq_nil_iff]
    simp [collapse_eq_empty_iff]
  dsimp only
  split
  · next hnone =>
      have hblank := hmessages.1 hnone
      refine iff_of_false (by simp) ?_
      rintro ⟨text, htext, c, hc, hletter⟩
      rw [hblank text htext c hc] at hletter
      cases hletter
  · next hsome =>
      refine iff_of_true rfl ?_
      have hletters := mt hmessages.2 hsome
      push Not at hletters
      rcases hletters with ⟨text, htext, c, hc, hletter⟩
      exact ⟨text, htext, c, hc, by simpa using hletter⟩

theorem mentions_iff (pattern : Pattern Char) (text : String) :
    pattern.search text.toList = true ↔ Mentions pattern text :=
  Pattern.search_iff

theorem refuses_iff :
    ((browser.messageFromJson snapshot.body).bind (·.success) = some false ∨
        (browser.validationMessage (browser.parseHtml snapshot.body)).isSome = true ∨
          400 ≤ snapshot.status) ↔ browser.Refuses snapshot := by
  rw [success_iff, validationMessage_isSome_iff]
  rfl

theorem affirms_iff :
    ((browser.messageFromJson snapshot.body).bind (·.success) = some true ∨
        SUCCESS_RE.search (browser.message snapshot).toList = true ∨ snapshot.status = 204 ∨
        (200 ≤ snapshot.status ∧ snapshot.status < 300 ∧ trim snapshot.body = "") ∨
        browser.leftTheLog snapshot = true) ↔ browser.Affirms snapshot := by
  rw [success_iff, mentions_iff, trim_eq_empty_iff]
  rfl

/-- Each verdict is justified by the answer. -/
theorem justifies_submissionOutcome (browser : Browser Document) (snapshot : SubmissionSnapshot) :
    browser.Justifies snapshot (browser.submissionOutcome snapshot) := by
  unfold submissionOutcome
  dsimp only
  split
  · next hlogin => exact Or.inl ⟨isLoginPage_iff.1 hlogin, rfl⟩
  · next hlogin =>
      have hpage : ¬browser.IsLogin snapshot := mt isLoginPage_iff.2 hlogin
      split
      · next hmentions => exact ⟨hpage, (mentions_iff _ _).1 hmentions⟩
      · next hmentions =>
          have hnew : ¬browser.Duplicates snapshot :=
            fun hduplicates => hmentions ((mentions_iff _ _).2 hduplicates.2)
          split
          · next hrefuses => exact ⟨hpage, hnew, refuses_iff.1 hrefuses⟩
          · next hrefuses =>
              have hquiet : ¬browser.Refuses snapshot := mt refuses_iff.2 hrefuses
              split
              · next haffirms => exact ⟨hpage, hnew, hquiet, affirms_iff.1 haffirms⟩
              · next haffirms =>
                  exact Or.inr ⟨hpage, hnew, hquiet, mt affirms_iff.2 haffirms, rfl⟩

end Lemmas

end Browser

/-! ## What a success in the report rests on -/

namespace Tab

section Reading

variable {Document : Type} {browser : Browser Document} {options : AutomationEngineOptions}
  {checkValidity : TrainingForm → Bool} {t : Tab}

/-- Behind every success there is a post for the trainee of the row; the portal's only answer to
that very post was not the login page, did not call it a duplicate, and spoke for it and not against
it. -/
theorem success_is_affirmed {inputs : List TabInput}
    (htime : Machine.EachStep (step options (browser.reading checkValidity)) InTime {} inputs)
    (hrun : Machine.run (step options (browser.reading checkValidity)) {} inputs = some t) :
    ∀ row ∈ t.engine.results, row.outcome = .success →
      ∃ index post snapshot, t.adapter.posts[index]? = some post ∧
        post.task.trainee.id = row.traineeId ∧ post.task.trainee.name = row.traineeName ∧
        (index, snapshot) ∈ t.adapter.replies ∧
        (∀ other, (index, other) ∈ t.adapter.replies → other = snapshot) ∧
        ¬browser.IsLogin snapshot ∧ ¬browser.Duplicates snapshot ∧ ¬browser.Refuses snapshot ∧
        browser.Affirms snapshot := by
  intro row hmem hsuccess
  rcases (orderly_of_run htime hrun).rows row hmem hsuccess with
    ⟨index, post, snapshot, reference, hpost, hid, hname, hreply, hread⟩
  have hconfirmed : browser.submissionOutcome snapshot = .ok (.confirmed reference) := hread
  have hjustified := browser.justifies_submissionOutcome snapshot
  rw [hconfirmed] at hjustified
  have honly : ∀ other, (index, other) ∈ t.adapter.replies → other = snapshot := by
    intro other hother
    have hsame := List.inj_on_of_nodup_map (posts_are_answered_once hrun) hother hreply rfl
    exact (Prod.mk.inj hsame).2
  exact ⟨index, post, snapshot, hpost, hid, hname, hreply, honly, hjustified⟩

end Reading

end Tab

/-! ## The worker's reading of the same answer -/

section Worker

variable {Soup Tag Document : Type} {lib : Libraries Soup Tag} {browser : Browser Document}
  {snapshot : SubmissionSnapshot}

/-- The libraries of the worker and the browser make the same of the answer. -/
structure SameReading (snapshot : SubmissionSnapshot) (page : ResultPage lib snapshot.body)
    (browser : Browser Document) : Prop where
  path : browser.pathname snapshot.url =
    match lib.urlparse snapshot.url with
    | .ok url => some (if url.path = "" then "/" else url.path)
    | .error _ => none
  json : browser.parseJson snapshot.body = (lib.loads snapshot.body).toOption
  loginForm : browser.querySelectorAll (browser.parseHtml snapshot.body) LOGIN_FORM_SELECTOR = [] ↔
    page.loginForm = none
  complaints : browser.querySelectorAll (browser.parseHtml snapshot.body)
    VALIDATION_MESSAGE_SELECTOR = page.complaints.map page.text
  /-- Nothing on the page is a space to one of the two only. -/
  spaces : ∀ tag ∈ page.complaints, ∀ c ∈ (page.text tag).toList, isspace c = isSpace c

/-- The flag is not in the key that the worker alone looks at, nor null in the one where only the
extension goes on to the next. -/
def PlainFlag (lib : Libraries Soup Tag) (body : String) : Prop :=
  ∀ fields, lib.loads body = .ok (.object fields) →
    Json.field fields "IsSuccessful" = none ∧ Json.field fields "success" ≠ some .null

/-- What the worker answers to its caller. -/
def Concludes (lib : Libraries Soup Tag) (snapshot : SubmissionSnapshot) (outcome : String) :
    Prop :=
  ∃ o, DsspBot.submissionOutcome lib snapshot.body snapshot.url snapshot.status = .ok o ∧
    o.outcome = outcome

theorem SameReading.isLogin_iff {page : ResultPage lib snapshot.body}
    (same : SameReading snapshot page browser) :
    page.IsLogin snapshot.url ↔ browser.IsLogin snapshot := by
  unfold ResultPage.IsLogin Browser.IsLogin
  rw [same.path]
  refine or_congr ?_ (not_congr same.loginForm).symm
  cases lib.urlparse snapshot.url with
  | error e => simp
  | ok url =>
      by_cases hempty : url.path = ""
      · simp [hempty]
      · simp [hempty]

theorem SameReading.showsMessage_iff {page : ResultPage lib snapshot.body}
    (same : SameReading snapshot page browser) :
    page.ShowsMessage ↔ browser.ShowsMessage snapshot := by
  unfold ResultPage.ShowsMessage Browser.ShowsMessage
  rw [same.complaints]
  constructor
  · rintro ⟨tag, htag, c, hc, hletter⟩
    exact ⟨page.text tag, List.mem_map_of_mem htag, c, hc, same.spaces tag htag c hc ▸ hletter⟩
  · rintro ⟨text, htext, c, hc, hletter⟩
    rcases List.mem_map.1 htext with ⟨tag, htag, rfl⟩
    exact ⟨tag, htag, c, hc, (same.spaces tag htag c hc).trans hletter⟩

/-- A boolean is found by both if the keys are plain. -/
theorem firstPresent_iff {fields : List (String × Json)} {value : Bool}
    (hother : Json.field fields "IsSuccessful" = none)
    (hnull : Json.field fields "success" ≠ some .null) :
    SUCCESS_KEYS.findSome? (Json.field fields) = some (.bool value) ↔
      firstPresent fields ["success", "Success"] = some (.bool value) := by
  simp only [SUCCESS_KEYS, List.findSome?_cons, List.findSome?_nil, hother, firstPresent]
  cases hfirst : Json.field fields "success" with
  | some document =>
      have hpresent : document ≠ .null := fun heq => hnull (heq ▸ hfirst)
      cases document <;> first | exact absurd rfl hpresent | simp
  | none =>
      cases hsecond : Json.field fields "Success" with
      | some document => cases document <;> simp
      | none => simp

theorem SameReading.declares_iff {page : ResultPage lib snapshot.body}
    (same : SameReading snapshot page browser) (hplain : PlainFlag lib snapshot.body)
    (value : Bool) :
    DsspBot.Declares lib snapshot.body value ↔ browser.Declares snapshot value := by
  unfold Browser.Declares
  rw [same.json]
  cases hloads : lib.loads snapshot.body with
  | error e =>
      refine iff_of_false (not_declares_of_not_object ?_ value) (by simp [Except.toOption])
      simp [hloads]
  | ok document =>
      by_cases hobject : ∃ fields, document = .object fields
      · rcases hobject with ⟨fields, rfl⟩
        rcases hplain fields hloads with ⟨hother, hnull⟩
        rw [declares_iff_of_object hloads, firstPresent_iff hother hnull]
        simp [Except.toOption]
      · refine iff_of_false (not_declares_of_not_object ?_ value) ?_
        · intro fields hok
          exact hobject ⟨fields, Except.ok.inj (hloads.symm.trans hok)⟩
        · rintro ⟨fields, hok, -⟩
          exact hobject ⟨fields, Option.some.inj hok⟩

section Same

variable {page : ResultPage lib snapshot.body} (same : SameReading snapshot page browser)
  (hplain : PlainFlag lib snapshot.body)

include same

theorem SameReading.isLogin_of_expired
    (h : DsspBot.submissionOutcome lib snapshot.body snapshot.url snapshot.status =
      .error (.portal (.sessionExpired true))) : browser.IsLogin snapshot := by
  by_contra hpage
  rcases page.submissionOutcome_ok snapshot.status (mt same.isLogin_iff.1 hpage) with ⟨o, ho, -⟩
  rw [h] at ho
  cases ho

/-- Nothing is concluded from the login page. -/
theorem SameReading.not_isLogin {outcome : String} (h : Concludes lib snapshot outcome) :
    ¬browser.IsLogin snapshot := by
  intro hpage
  rcases h with ⟨o, ho, -⟩
  rw [page.submissionOutcome_login snapshot.status (same.isLogin_iff.2 hpage)] at ho
  cases ho

include hplain

theorem SameReading.concludes_iff (hpage : ¬browser.IsLogin snapshot) :
    (Concludes lib snapshot "confirmed" ↔ 200 ≤ snapshot.status ∧ snapshot.status < 300 ∧
      ¬browser.ShowsMessage snapshot ∧ browser.Declares snapshot true) ∧
    (Concludes lib snapshot "rejected" ↔ ¬(300 ≤ snapshot.status ∧ snapshot.status < 400) ∧
      browser.Refuses snapshot) ∧
    (Concludes lib snapshot "confirmed" ∨ Concludes lib snapshot "rejected" ∨
      Concludes lib snapshot "indeterminate") := by
  rcases page.submissionOutcome_ok snapshot.status (mt same.isLogin_iff.1 hpage) with
    ⟨o, ho, hconfirmed, hrejected, hothers⟩
  rw [same.showsMessage_iff, same.declares_iff hplain] at hconfirmed hrejected
  have hconcludes : ∀ outcome, Concludes lib snapshot outcome ↔ o.outcome = outcome := by
    intro outcome
    unfold Concludes
    simp [ho]
  simp only [hconcludes]
  exact ⟨hconfirmed, hrejected, hothers⟩

/-- What the worker takes for proof is affirmed, and nothing speaks against it. -/
theorem SameReading.affirms_of_confirmed (h : Concludes lib snapshot "confirmed") :
    ¬browser.Refuses snapshot ∧ browser.Affirms snapshot := by
  rcases (same.concludes_iff hplain (same.not_isLogin h)).1.1 h with
    ⟨-, hlow, hquiet, htrue⟩
  refine ⟨?_, .inl htrue⟩
  rintro (hfalse | hloud | hhigh)
  · rw [← Browser.success_iff] at htrue hfalse
    rw [htrue] at hfalse
    cases hfalse
  · exact hquiet hloud
  · omega

end Same

/-- Where the flag is plain the extension departs from the worker in two ways only: it may call an
answer a duplicate, and it is content with less than the flag. -/
theorem verdicts_agree (page : ResultPage lib snapshot.body)
    (same : SameReading snapshot page browser) (hplain : PlainFlag lib snapshot.body) :
    (DsspBot.submissionOutcome lib snapshot.body snapshot.url snapshot.status =
        .error (.portal (.sessionExpired true)) ↔
      browser.submissionOutcome snapshot = .error .sessionExpired) ∧
    (Concludes lib snapshot "confirmed" →
      (∃ reference, browser.submissionOutcome snapshot = .ok (.confirmed reference)) ∨
        ∃ message, browser.submissionOutcome snapshot = .ok (.duplicate message)) ∧
    (Concludes lib snapshot "rejected" →
      (∃ message, browser.submissionOutcome snapshot = .ok (.rejected message)) ∨
        ∃ message, browser.submissionOutcome snapshot = .ok (.duplicate message)) ∧
    (∀ message, browser.submissionOutcome snapshot = .ok (.rejected message) →
      Concludes lib snapshot "rejected" ∨
        Concludes lib snapshot "indeterminate" ∧ 300 ≤ snapshot.status ∧ snapshot.status < 400) ∧
    (∀ reference, browser.submissionOutcome snapshot = .ok (.confirmed reference) →
      Concludes lib snapshot "confirmed" ∨
        Concludes lib snapshot "indeterminate" ∧ browser.Affirms snapshot) := by
  have hjustified := browser.justifies_submissionOutcome snapshot
  refine ⟨⟨?_, ?_⟩, ?_, ?_, ?_, ?_⟩
  · intro hexpired
    have hpage := same.isLogin_of_expired hexpired
    rw [Browser.submissionOutcome, if_pos (Browser.isLoginPage_iff.2 hpage)]
  · intro hexpired
    rw [hexpired] at hjustified
    rcases hjustified with ⟨hpage, -⟩ | ⟨-, -, -, -, hcode⟩
    · exact page.submissionOutcome_login snapshot.status (same.isLogin_iff.2 hpage)
    · cases hcode
  · intro hconfirmed
    have hpage := same.not_isLogin hconfirmed
    rcases same.affirms_of_confirmed hplain hconfirmed with ⟨hquiet, haffirms⟩
    cases hext : browser.submissionOutcome snapshot with
    | error error =>
        rw [hext] at hjustified
        rcases hjustified with ⟨hlogin, -⟩ | ⟨-, -, -, hsilent, -⟩
        · exact absurd hlogin hpage
        · exact absurd haffirms hsilent
    | ok outcome =>
        rw [hext] at hjustified
        cases outcome with
        | confirmed reference => exact .inl ⟨reference, rfl⟩
        | duplicate message => exact .inr ⟨message, rfl⟩
        | rejected message => exact absurd hjustified.2.2 hquiet
  · intro hrejected
    have hpage := same.not_isLogin hrejected
    have hrefuses := ((same.concludes_iff hplain hpage).2.1.1 hrejected).2
    cases hext : browser.submissionOutcome snapshot with
    | error error =>
        rw [hext] at hjustified
        rcases hjustified with ⟨hlogin, -⟩ | ⟨-, -, hquiet, -, -⟩
        · exact absurd hlogin hpage
        · exact absurd hrefuses hquiet
    | ok outcome =>
        rw [hext] at hjustified
        cases outcome with
        | confirmed reference => exact absurd hrefuses hjustified.2.2.1
        | duplicate message => exact .inr ⟨message, rfl⟩
        | rejected message => exact .inl ⟨message, rfl⟩
  · intro message hext
    rw [hext] at hjustified
    rcases hjustified with ⟨hpage, -, hrefuses⟩
    rcases same.concludes_iff hplain hpage with ⟨-, hrejected, hsome⟩
    by_cases hredirect : 300 ≤ snapshot.status ∧ snapshot.status < 400
    · refine .inr ⟨?_, hredirect⟩
      rcases hsome with hconfirmed | hrejected' | hopen
      · exact absurd hrefuses (same.affirms_of_confirmed hplain hconfirmed).1
      · exact absurd hredirect (hrejected.1 hrejected').1
      · exact hopen
    · exact .inl (hrejected.2 ⟨hredirect, hrefuses⟩)
  · intro reference hext
    rw [hext] at hjustified
    rcases hjustified with ⟨hpage, -, hquiet, haffirms⟩
    rcases same.concludes_iff hplain hpage with ⟨-, hrejected, hsome⟩
    rcases hsome with hconfirmed | hrejected' | hopen
    · exact .inl hconfirmed
    · exact absurd (hrejected.1 hrejected').2 hquiet
    · exact .inr ⟨hopen, haffirms⟩

end Worker

/-! ### A reply that says it succeeded, and one that denies it -/

def successSnapshot : SubmissionSnapshot where
  status := 200
  url := "https://portal/Trainee/LogTraining"
  body := successBody
  redirected := false

def flagBody : String := "\x7b\"IsSuccessful\": false\x7d"

/-- The body of a reply that is no document is shown as it is. -/
def flagBrowser : Browser String where
  pathname _ := some "/Trainee/LogTraining"
  parseJson body :=
    if body = successBody then some (.object [("success", .bool true)])
    else if body = flagBody then some (.object [("IsSuccessful", .bool false)])
    else none
  parseHtml := id
  querySelectorAll _ _ := []
  bodyText := some

theorem success_is_read_alike : Concludes successLibraries successSnapshot "confirmed" ∨
    Concludes successLibraries successSnapshot "indeterminate" ∧
      flagBrowser.Affirms successSnapshot := by
  have same : SameReading successSnapshot successPage flagBrowser :=
    { path := rfl
      json := rfl
      loginForm := iff_of_true rfl rfl
      complaints := rfl
      spaces := by
        intro tag htag
        cases htag }
  have hplain : PlainFlag successLibraries successSnapshot.body := by
    intro fields hfields
    cases hfields
    exact ⟨rfl, by simp [Json.field]⟩
  have hread : flagBrowser.submissionOutcome successSnapshot =
      .ok (.confirmed (some successSnapshot.url)) := by decide +kernel
  exact (verdicts_agree successPage same hplain).2.2.2.2 _ hread

def flagLibraries : Libraries String String :=
  { plainLibraries with
    loads := fun body =>
      if body = flagBody then .ok (.object [("IsSuccessful", .bool false)])
      else .error (.value "Expecting value: line 1 column 1 (char 0)") }

/-- The name of the flag is taken for a success by the one program, and its value for a refusal by
the other. -/
theorem denial_is_confirmed :
    flagBrowser.submissionOutcome { successSnapshot with body := flagBody } =
        .ok (.confirmed (some successSnapshot.url)) ∧
      Concludes flagLibraries { successSnapshot with body := flagBody } "rejected" := by
  refine ⟨by decide +kernel, ?_⟩
  refine ⟨{ outcome := "rejected", message := some "DSSP returned HTTP 200." }, ?_, rfl⟩
  decide +kernel

namespace Tab

/-- The same run, with an answer that the browser reads. -/
def readByTab : List TabInput :=
  uptoSubmission 0 AutomationEngine.adaTask ++
    [.lands 6 (.answered successSnapshot), .arrives 6] ++ answeredAtOnce 7

def readTab : Tab :=
  (Machine.run (step {} (flagBrowser.reading fun _ => true)) {} readByTab).getD {}

theorem ada_is_affirmed : ∃ index post snapshot,
    readTab.adapter.posts[index]? = some post ∧ post.task.trainee.id = "7" ∧
      post.task.trainee.name = "Ada Obi" ∧ (index, snapshot) ∈ readTab.adapter.replies ∧
      (∀ other, (index, other) ∈ readTab.adapter.replies → other = snapshot) ∧
      ¬flagBrowser.IsLogin snapshot ∧ ¬flagBrowser.Duplicates snapshot ∧
      ¬flagBrowser.Refuses snapshot ∧ flagBrowser.Affirms snapshot := by
  have hrun : Machine.run (step {} (flagBrowser.reading fun _ => true)) {} readByTab =
      some readTab := by
    have hends : (Machine.run (step {} (flagBrowser.reading fun _ => true)) {}
        readByTab).isSome = true := by decide +kernel
    rcases Option.isSome_iff_exists.1 hends with ⟨t, ht⟩
    rw [readTab, ht]
    rfl
  exact success_is_affirmed (by decide +kernel) hrun
    (AutomationEngine.settle AutomationEngine.adaTask 1 .success none) (by decide +kernel) rfl

end Tab

end Extension

end DsspBot
