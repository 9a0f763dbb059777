import DsspBot.Worker.Form
import DsspBot.Worker.Identity

/-!
# Ordinary — what a POST of the worker says

The worker posts only what it has built from the form it opened for the trainee it selected. Each
check in between rules out one way in which a page could make it say something else.
-/

namespace DsspBot

open Raising

/-! ## The form -/

namespace HtmlDocument

/-- An enabled control of the form. -/
structure EnabledControl (doc : HtmlDocument) (form control : Tag) (tag : String) : Prop where
  named : doc.name control = tag
  inside : doc.Inside form control
  owned : ∀ owner, doc.get control "form" = some owner → doc.get form "id" = some owner
  enabled : doc.hasAttr control "disabled" = false

/-- The form's only control for the trainee, hidden and with this id in it. -/
structure IdentityControl (text : TextLibrary) (doc : HtmlDocument) (form control : Tag)
    (traineeId : String) : Prop extends doc.EnabledControl form control "input" where
  hidden : text.lower ((doc.get control "type").getD "") = "hidden"
  holds : doc.get control "value" = some traineeId
  single : ∀ other, doc.isElement other = true → doc.Inside form other →
    doc.name other = "input" →
      (doc.get other "id" = some "TraineeId" ∨ doc.get other "name" = some "TraineeId") →
        other = control

/-- An enabled option, with a value, of a select of the form that is enabled itself. -/
structure EnabledOption (doc : HtmlDocument) (form select option : Tag) : Prop where
  enabled : doc.EnabledControl form select "select"
  member : option ∈ doc.enabledOptions select
  valued : doc.optionValue option ≠ ""

/-- The label names the control as its own, or stands around it or next to it. -/
def Labels (doc : HtmlDocument) (form label control : Tag) : Prop :=
  (∃ own, own ≠ "" ∧ doc.get label "for" = some own ∧ doc.Inside form control ∧
      doc.get control "id" = some own) ∨
    doc.Inside label control ∨ ∃ around, doc.parent label = some around ∧ doc.Inside around control

/-- By its id or name, by its label, or by the words in its id and name. -/
def GoesBy (text : TextLibrary) (doc : HtmlDocument) (form control : Tag)
    (spellings : List String) (pattern : Pattern Char) (words : List String) : Prop :=
  (∃ key ∈ spellings, doc.get control "id" = some key ∨ doc.get control "name" = some key) ∨
    (∃ label ∈ doc.findAll form "label", pattern.search (doc.labelText label).toList = true ∧
      doc.Labels form label control) ∨
    ∀ word ∈ words, word.toList <:+: (doc.identity text control).toList

/-- The select that the form calls its instructor. -/
def InstructorControl (text : TextLibrary) (doc : HtmlDocument) (form control : Tag) : Prop :=
  doc.GoesBy text form control ["Instructor", "InstructorId", "InstructorID"] INSTRUCTOR_RE
    ["instructor"]

/-- The select that the form calls its training type. -/
def TrainingTypeControl (text : TextLibrary) (doc : HtmlDocument) (form control : Tag) : Prop :=
  doc.GoesBy text form control
    ["TrainingOptionId", "TrainingType", "TrainingTypeId", "TrainingTypeID"] TRAINING_TYPE_RE
    ["training", "type"]

/-- Nowhere in the label is there anything like "final assessment", and the value is not 4. -/
structure OrdinaryType (doc : HtmlDocument) (option : Tag) : Prop where
  value : doc.optionValue option ≠ "4"
  label : ∀ before found after, found ∈ FINAL_ASSESSMENT_RE.language →
    before ++ (found ++ after) ≠ (doc.optionLabel option).toList

/-- An ordinary session of this trainee, and nothing else. -/
def OrdinaryPayload (text : TextLibrary) (doc : HtmlDocument) (traineeId : String)
    (payload : List (String × String)) : Prop :=
  ∃ (form control instructors instructor types trainingType : Tag) (date : CalendarDate),
    doc.select 0 TRAINING_FORM_SELECTOR = [form] ∧
      doc.IdentityControl text form control traineeId ∧
        doc.InstructorControl text form instructors ∧
          doc.EnabledOption form instructors instructor ∧
            doc.TrainingTypeControl text form types ∧
              doc.EnabledOption form types trainingType ∧ doc.OrdinaryType trainingType ∧
                payload = [("LogDetails[TraineeId]", traineeId),
                  ("LogDetails[TrainingDate]", date.text),
                  ("LogDetails[InstructorId]", doc.optionValue instructor),
                  ("LogDetails[TrainingOptionId]", doc.optionValue trainingType)]

variable {text : TextLibrary} {doc : HtmlDocument} {form : Tag}

theorem owned_of_not_misowned {control : Tag} (h : doc.misowned form control = false) :
    doc.Inside form control ∧
      ∀ owner, doc.get control "form" = some owner → doc.get form "id" = some owner := by
  simp only [misowned, decide_eq_false_iff_not, not_or, not_not] at h
  refine ⟨(findParent_inside h.1).1, ?_⟩
  intro owner howner
  simpa [howner] using h.2.symm

theorem requireControl_enabled {found : Option Tag} {name tag : String} {control : Tag}
    (h : doc.requireControl form found name tag = .ok control) :
    doc.EnabledControl form control tag := by
  cases found with
  | none => cases h
  | some found =>
      simp only [requireControl] at h
      split at h
      · cases h
      · next hchecks =>
          obtain rfl : found = control := Except.ok.inj h
          simp only [Bool.or_eq_true, not_or, decide_eq_true_iff, not_not,
            Bool.not_eq_true] at hchecks
          have howned := owned_of_not_misowned hchecks.1.2
          exact ⟨hchecks.1.1, howned.1, howned.2, hchecks.2⟩

theorem requireControl_found {found : Option Tag} {name tag : String} {control : Tag}
    (h : doc.requireControl form found name tag = .ok control) : found = some control := by
  cases found with
  | none => cases h
  | some found =>
      simp only [requireControl] at h
      split at h
      · cases h
      · exact congrArg some (Except.ok.inj h)

theorem find_inside {t found : Tag} {name : String} (h : doc.find t name = some found) :
    doc.Inside t found :=
  (mem_descendants_iff.1 (List.mem_filter.1 (List.mem_of_mem_head? h)).1).2

theorem findById_inside {t found : Tag} {value : String}
    (h : doc.findById t value = some found) :
    doc.Inside t found ∧ doc.get found "id" = some value :=
  ⟨(mem_descendants_iff.1 (List.mem_of_find?_eq_some h)).2, by simpa using List.find?_some h⟩

theorem queryFirst_spelled {control : Tag} {spellings : List String}
    (h : doc.queryFirst form (selectSelectors spellings) = some control) :
    ∃ key ∈ spellings, doc.get control "id" = some key ∨ doc.get control "name" = some key := by
  rcases List.exists_of_findSome?_eq_some h with ⟨selector, hselector, hfound⟩
  rcases List.mem_flatMap.1 hselector with ⟨key, hkey, hselector⟩
  have hmatches := (mem_select_iff.1 (List.mem_of_mem_head? hfound)).2.2
  refine ⟨key, hkey, ?_⟩
  simp only [List.mem_cons, List.not_mem_nil, or_false] at hselector
  rcases hselector with rfl | rfl
  · left
    simp [matchesSelector, just, fits, passes, surrounded] at hmatches
    exact hmatches.2
  · right
    simp [matchesSelector, just, fits, passes, surrounded] at hmatches
    exact hmatches.2

/-- Its own control first, then one inside the label, then one beside it. -/
theorem labelledControl_labels {control : Tag} {tag : String} {pattern : Pattern Char}
    (h : doc.labelledControl form tag pattern = some control) :
    ∃ label ∈ doc.findAll form "label", pattern.search (doc.labelText label).toList = true ∧
      doc.Labels form label control := by
  rcases List.exists_of_findSome?_eq_some h with ⟨label, hlabel, hfound⟩
  simp only at hfound
  split at hfound
  · next hsearch =>
      refine ⟨label, hlabel, hsearch, ?_⟩
      rcases Option.or_eq_some_iff.1 (Option.filter_eq_some_iff.1 hfound).1 with hin | ⟨-, hbeside⟩
      · rcases Option.or_eq_some_iff.1 hin with hown | ⟨-, hinside⟩
        · rcases Option.bind_eq_some_iff.1 hown with ⟨own, hfor, hown⟩
          rcases Option.filter_eq_some_iff.1 hfor with ⟨hfor, hnonempty⟩
          have hcontrol := findById_inside hown
          exact Or.inl ⟨own, by simpa using hnonempty, hfor, hcontrol.1, hcontrol.2⟩
        · exact Or.inr (Or.inl (find_inside hinside))
      · rcases Option.bind_eq_some_iff.1 hbeside with ⟨around, hparent, hbeside⟩
        exact Or.inr (Or.inr ⟨around, hparent, find_inside hbeside⟩)
  · cases hfound

theorem tokenControl_words {control : Tag} {tag : String} {words : List String}
    (h : doc.tokenControl text form tag words = some control) :
    ∀ word ∈ words, word.toList <:+: (doc.identity text control).toList := by
  intro word hword
  have hall := List.find?_some h
  simp only [List.all_eq_true, decide_eq_true_iff] at hall
  exact hall word hword

theorem goesBy_of_found {control : Tag} {spellings words : List String} {pattern : Pattern Char}
    (h : ((doc.queryFirst form (selectSelectors spellings)).or
      (doc.labelledControl form "select" pattern)).or
        (doc.tokenControl text form "select" words) = some control) :
    doc.GoesBy text form control spellings pattern words := by
  rcases Option.or_eq_some_iff.1 h with h | ⟨-, hwords⟩
  · rcases Option.or_eq_some_iff.1 h with hspelled | ⟨-, hlabelled⟩
    · exact Or.inl (queryFirst_spelled hspelled)
    · exact Or.inr (Or.inl (labelledControl_labels hlabelled))
  · exact Or.inr (Or.inr (tokenControl_words hwords))

/-- Each select is enabled, and the one its lookup is after. -/
theorem getTrainingFormFields_enabled {fields : FormFields}
    (h : doc.getTrainingFormFields text = .ok fields) :
    doc.select 0 TRAINING_FORM_SELECTOR = [fields.form] ∧
      (doc.InstructorControl text fields.form fields.instructor ∧
        doc.EnabledControl fields.form fields.instructor "select") ∧
        doc.TrainingTypeControl text fields.form fields.trainingType ∧
          doc.EnabledControl fields.form fields.trainingType "select" := by
  unfold getTrainingFormFields at h
  split at h
  · cases h
  · cases h
  · next form hform =>
      rcases Except.ok_of_bind h with ⟨trainingDate, -, h⟩
      rcases Except.ok_of_bind h with ⟨instructor, hinstructor, h⟩
      rcases Except.ok_of_bind h with ⟨trainingType, htype, h⟩
      obtain rfl := Except.ok.inj h
      exact ⟨hform,
        ⟨goesBy_of_found (requireControl_found hinstructor), requireControl_enabled hinstructor⟩,
        goesBy_of_found (requireControl_found htype), requireControl_enabled htype⟩

/-- The lookup lists every input of the form that could be taken for the trainee's. -/
theorem checkIdentity_single {traineeId : String}
    (h : doc.checkIdentity text form traineeId = .ok ()) :
    ∃ control, doc.IdentityControl text form control traineeId := by
  unfold checkIdentity at h
  split at h
  · next control hcontrols =>
      split at h
      · cases h
      · next hstrange =>
          split at h
          · cases h
          · next hvalue =>
              simp only [strangeIdentity, Bool.or_eq_true, not_or, decide_eq_true_iff, not_not,
                Bool.not_eq_true] at hstrange
              obtain ⟨⟨⟨⟨hid, hname⟩, hhidden⟩, howner⟩, henabled⟩ := hstrange
              simp only [Bool.or_eq_true, not_or, decide_eq_true_iff, not_not] at hvalue
              have howned := owned_of_not_misowned howner
              have hmember : control ∈ doc.select form TRAINEE_ID_SELECTOR := by
                rw [hcontrols]
                exact List.mem_singleton_self control
              have hfits := (mem_select_iff.1 hmember).2.2
              have hnamed : doc.name control = "input" := by
                simp only [matchesSelector, TRAINEE_ID_SELECTOR, just, fits, List.any_cons,
                  Option.all_some, Bool.or_eq_true, Bool.and_eq_true, decide_eq_true_iff] at hfits
                rcases hfits with hfits | hfits | hfits
                · exact hfits.1.1
                · exact hfits.1.1
                · cases hfits
              refine ⟨control, ⟨hnamed, howned.1, howned.2, henabled⟩, hhidden, hvalue.2, ?_⟩
              intro other helement hinside hinput hnames
              have hother : other ∈ doc.select form TRAINEE_ID_SELECTOR := by
                refine mem_select_iff.2 ⟨helement, hinside, ?_⟩
                rcases hnames with hother_id | hother_name
                · simp [matchesSelector, TRAINEE_ID_SELECTOR, just, fits, passes, surrounded,
                    hinput, hother_id]
                · simp [matchesSelector, TRAINEE_ID_SELECTOR, just, fits, passes, surrounded,
                    hinput, hother_name]
              rw [hcontrols] at hother
              exact List.mem_singleton.1 hother
  · cases h

theorem selectFormOption_enabled {select : Tag} {value : String} {label : Option String}
    {chosen : FormOption} (hselect : doc.EnabledControl form select "select")
    (h : doc.selectFormOption select value label = .ok chosen) :
    ∃ option, doc.EnabledOption form select option ∧ doc.optionOf option = chosen := by
  rcases selectFormOption_ok_iff.1 h with ⟨option, henabled, hchosen, hvalued, -, -⟩
  exact ⟨option, ⟨hselect, henabled, hvalued⟩, hchosen⟩

/-- A payload is built only for the trainee in the form, and only for an ordinary session. -/
theorem buildFormPayload_ordinary {extras : SessionExtras} {session : SessionInput}
    {traineeId : String} {payload : List (String × String)}
    (h : doc.buildFormPayload text extras session traineeId = .ok payload) :
    doc.OrdinaryPayload text traineeId payload := by
  rcases Except.ok_of_bind h with ⟨fields, hfields, h⟩
  rcases Except.ok_of_bind h with ⟨_, hidentity, h⟩
  rcases Except.ok_of_bind h with ⟨chosenType, htype, h⟩
  rcases getTrainingFormFields_enabled hfields with
    ⟨hform, ⟨hinstructors, hinstructors_enabled⟩, htypes, htypes_enabled⟩
  rcases checkIdentity_single hidentity with ⟨control, hcontrol⟩
  rcases selectFormOption_enabled htypes_enabled htype with ⟨trainingType, htype_enabled, rfl⟩
  split at h
  · cases h
  · next hordinary =>
      rcases Except.ok_of_bind h with ⟨trainingDate, hdate, h⟩
      rcases Except.ok_of_bind h with ⟨chosenInstructor, hinstructor, h⟩
      rcases formatTrainingDate_real _ hdate with ⟨date, rfl⟩
      rcases selectFormOption_enabled hinstructors_enabled hinstructor with
        ⟨instructor, hinstructor_enabled, rfl⟩
      simp only [Bool.or_eq_true, not_or, decide_eq_true_iff] at hordinary
      have hlabel : ∀ before found after, found ∈ FINAL_ASSESSMENT_RE.language →
          before ++ (found ++ after) ≠ (doc.optionLabel trainingType).toList := by
        intro before found after hfound hsplit
        exact hordinary.1.2 (Pattern.search_iff.2 ⟨before, found, after, hfound, hsplit⟩)
      exact ⟨fields.form, control, fields.instructor, instructor, fields.trainingType,
        trainingType, date, hform, hcontrol, hinstructors, hinstructor_enabled, htypes,
        htype_enabled, ⟨hordinary.1.1, hlabel⟩, (Except.ok.inj h).symm⟩

end HtmlDocument

/-! ## The request -/

section Worker

variable {Soup Tag : Type} {lib : Libraries Soup Tag} {pages : PageReader Soup} {portal : Portal}
  {s s' : List Issued}

/-- A row of the fetched list that is the selector's. -/
def Selected (lib : Libraries Soup Tag) (list : List TraineeInfo) (entry : TraineeRef)
    (row : TraineeInfo) : Prop :=
  row ∈ list ∧ ResolvedTo lib list entry row

/-- The URL is the expected one, and names this trainee once and nobody else. -/
def FormUrl (lib : Libraries Soup Tag) (expected formUrl traineeId : String) : Prop :=
  ∃ wanted actual query, lib.urlparse expected = .ok wanted ∧ lib.urlparse formUrl = .ok actual ∧
    actual.scheme = wanted.scheme ∧ actual.netloc = wanted.netloc ∧ actual.path = wanted.path ∧
      lib.parseQs actual.query = .ok query ∧
        (query.find? fun entry => decide (entry.1 = "TraineeId")).map (·.2) = some [traineeId]

theorem ofExcept_ok {α : Type} {x : Except PyException α} {a : α}
    (h : (Py.ofExcept x).run.run s = (.ok a, s')) : x = .ok a ∧ s' = s := by
  cases x with
  | ok b =>
      cases h
      exact ⟨rfl, rfl⟩
  | error e => cases h

theorem call_ok {α : Type} {x : Except LibraryError α} {a : α}
    (h : (call x).run.run s = (.ok a, s')) : x = .ok a ∧ s' = s := by
  rcases ofExcept_ok h with ⟨hx, hs⟩
  cases x with
  | ok b =>
      cases hx
      exact ⟨rfl, hs⟩
  | error e => cases hx

theorem raise_onlyIf_ok {condition : Bool} {e : PortalError} {u : Unit}
    (h : (onlyIf condition (raise e)).run.run s = (.ok u, s')) : condition = false ∧ s' = s := by
  cases condition with
  | true => cases h
  | false =>
      cases h
      exact ⟨rfl, rfl⟩

theorem wrongForm_formUrl {expected formUrl traineeId : String} {wanted actual : Url}
    (hwanted : lib.urlparse expected = .ok wanted) (hactual : lib.urlparse formUrl = .ok actual)
    (h : PortalClient.wrongForm lib wanted actual traineeId = .ok false) :
    FormUrl lib expected formUrl traineeId := by
  unfold PortalClient.wrongForm at h
  split at h
  · cases h
  · next hsame =>
      have hparts := not_not.1 hsame
      simp only [Prod.mk.injEq] at hparts
      cases hquery : lib.parseQs actual.query with
      | error e =>
          rw [hquery] at h
          cases h
      | ok query =>
          rw [hquery] at h
          have hid := Except.ok.inj h
          simp only [decide_eq_false_iff_not, not_not] at hid
          exact ⟨wanted, actual, query, hwanted, hactual, hparts.1, hparts.2.1, hparts.2.2, hquery,
            hid⟩

/-- The selected row comes from the list that was fetched. -/
theorem resolveTrainee_selected {entry : TraineeRef} {row : TraineeInfo}
    (h : (PortalClient.resolveTrainee lib pages portal entry).run.run s = (.ok row, s')) :
    ∃ list, (PortalClient.listTrainees lib pages portal).run.run s = (.ok list, s') ∧
      Selected lib list entry row := by
  unfold PortalClient.resolveTrainee at h
  simp only at h
  by_cases hwanted : strip (entry.id.getD "") ≠ ""
  · rw [if_pos hwanted] at h
    rcases Raising.ok_of_bind h with ⟨list, middle, hlist, h⟩
    split at h
    · next found hfound =>
        cases h
        have hid : row.id = strip (entry.id.getD "") := by simpa using List.find?_some hfound
        refine ⟨list, hlist, List.mem_of_find?_eq_some hfound, ?_⟩
        simpa [ResolvedTo, hwanted] using hid
    · cases h
  · rw [if_neg hwanted] at h
    split at h
    · cases h
    · rcases Raising.ok_of_bind h with ⟨list, middle, hlist, h⟩
      split at h
      · next found hfound =>
          cases h
          have hmem : row ∈ workerNamed lib list (entry.name.getD "") := by
            unfold workerNamed
            rw [hfound]
            exact List.mem_singleton_self row
          have hnamed : workerNamed lib list (entry.name.getD "") = [row] := hfound
          refine ⟨list, hlist, (List.mem_filter.1 hmem).1, ?_⟩
          simpa [ResolvedTo, hwanted] using hnamed
      · cases h
      · cases h

/-- What stands behind a submission that is ready to be posted. -/
structure Grounds (lib : Libraries Soup Tag) (pages : PageReader Soup) (portal : Portal)
    (entry : TraineeRef) (session : SessionInput) (data : String) (list : List TraineeInfo)
    (row : TraineeInfo) (page : PortalClient.Page Soup) (payload : List (String × String)) :
    Prop where
  fetched : ∃ middle after,
    (PortalClient.listTrainees lib pages portal).run.run [] = (.ok list, middle) ∧
      (PortalClient.fetch lib portal (PortalClient.trainingFormUrl lib portal row.id)
        s!"training-form-{row.id}.html").run.run middle = (.ok page, after)
  selected : Selected lib list entry row
  url : FormUrl lib (PortalClient.trainingFormUrl lib portal row.id) page.finalUrl row.id
  built : pages.buildFormPayload page.soup session row.id = .ok payload
  encoded : lib.urlencode payload = .ok data

theorem prepare_grounds {entry : TraineeRef} {session : SessionInput}
    {prepared : PortalClient.Prepared}
    (h : (PortalClient.prepare lib pages portal entry session).run.run [] = (.ok prepared, s')) :
    ∃ list row page payload,
      Grounds lib pages portal entry session prepared.data list row page payload := by
  rcases Raising.ok_of_bind h with ⟨row, middle, hrow, h⟩
  rcases Raising.ok_of_bind h with ⟨page, after, hpage, h⟩
  rcases Raising.ok_of_bind h with ⟨wanted, _, hwanted, h⟩
  rcases Raising.ok_of_bind h with ⟨actual, _, hactual, h⟩
  rcases Raising.ok_of_bind h with ⟨wrong, _, hwrong, h⟩
  rcases Raising.ok_of_bind h with ⟨_, _, hchecked, h⟩
  rcases Raising.ok_of_bind h with ⟨payload, _, hpayload, h⟩
  rcases Raising.ok_of_bind h with ⟨action, _, haction, h⟩
  rcases Raising.ok_of_bind h with ⟨data, _, hdata, h⟩
  rcases Raising.ok_of_bind h with ⟨_, _, _, h⟩
  cases h
  rcases resolveTrainee_selected hrow with ⟨list, hlist, hselected⟩
  obtain rfl := (raise_onlyIf_ok hchecked).1
  exact ⟨list, row, page, payload, ⟨middle, after, hlist, hpage⟩, hselected,
    wrongForm_formUrl (call_ok hwanted).1 (call_ok hactual).1 (call_ok hwrong).1,
    (ofExcept_ok hpayload).1, (call_ok hdata).1⟩

/-- Whatever has been posted is this. -/
def PostedOnly (action data : String) (issued : List Issued) : Prop :=
  ∀ action' data', .post action' data' ∈ issued → action' = action ∧ data' = data

theorem not_mem_of_unposted {issued : List Issued} (h : Posted 0 issued) (action data : String) :
    .post action data ∉ issued := by
  have hnone := List.countP_eq_zero.1 h
  exact fun hmem => hnone _ hmem rfl

theorem commit_posts (prepared : PortalClient.Prepared) :
    Ensures (Posted 0) (PortalClient.commit portal prepared)
      (fun _ => PostedOnly prepared.action prepared.data)
        fun _ => PostedOnly prepared.action prepared.data := by
  have hposts : ∀ before, Posted 0 before →
      PostedOnly prepared.action prepared.data
        (before ++ [.post prepared.action prepared.data]) := by
    intro before hbefore action data hmem
    rcases List.mem_append.1 hmem with hold | hnew
    · exact absurd hold (not_mem_of_unposted hbefore action data)
    · cases List.mem_singleton.1 hnew
      exact ⟨rfl, rfl⟩
  refine Ensures.rescue ?_ fun e => Ensures.raise fun _ h => h
  refine Ensures.bind Ensures.get fun before => ?_
  refine Ensures.bind (R := fun _ => PostedOnly prepared.action prepared.data) ?_ fun _ => ?_
  · refine Ensures.mono (Ensures.set (P := PostedOnly prepared.action prepared.data)) ?_
      (fun _ _ h => h) fun _ _ h => h
    rintro s ⟨hs, rfl⟩
    exact hposts before hs
  · exact Ensures.mono (call_keeps _) (fun _ h => h) (fun _ _ h => h) fun _ _ h => h.1

variable (lib portal) in
/-- The POST and what follows it. -/
theorem committed_posts (prepared : PortalClient.Prepared) :
    Ensures (Posted 0)
      (do
        let resp ← PortalClient.commit portal prepared
        let outcome ← PortalClient.classify lib portal prepared.resolved.id resp
        return (prepared.resolved, outcome))
      (fun _ => PostedOnly prepared.action prepared.data)
        fun _ => PostedOnly prepared.action prepared.data := by
  refine Ensures.bind (commit_posts prepared) fun resp => ?_
  refine Ensures.bind (R := fun _ => PostedOnly prepared.action prepared.data) ?_ fun outcome =>
    Ensures.pure fun _ h => h
  exact Ensures.mono (classify_keeps lib portal _ resp) (fun _ h => h) (fun _ _ h => h)
    fun _ _ h => h.1

/-- A request posts what it has prepared and nothing else. -/
theorem submitTraining_prepared {entry : TraineeRef} {session : SessionInput}
    {result : Except PyException (TraineeInfo × SubmissionOutcome)} {action data : String}
    (h : (PortalClient.submitTraining lib pages portal entry session).run.run [] = (result, s'))
    (hpost : .post action data ∈ s') :
    ∃ prepared after, data = prepared.data ∧
      (PortalClient.prepare lib pages portal entry session).run.run [] = (.ok prepared, after) := by
  rcases (prepare_keeps lib pages portal entry session).run (s := []) rfl with
    ⟨prepared, after, hprepared, hnone⟩ | ⟨e, after, hfailed, hnone, -⟩
  · unfold PortalClient.submitTraining at h
    rw [Raising.run_bind_of_ok hprepared] at h
    have honly : PostedOnly prepared.action prepared.data s' := by
      rcases (committed_posts lib portal prepared).run hnone with
        ⟨_, _, hrest, honly⟩ | ⟨_, _, hrest, honly⟩
      · obtain rfl := (Prod.mk.inj (hrest.symm.trans h)).2
        exact honly
      · obtain rfl := (Prod.mk.inj (hrest.symm.trans h)).2
        exact honly
    exact ⟨prepared, after, (honly action data hpost).2, hprepared⟩
  · -- Nothing is posted before everything is prepared.
    unfold PortalClient.submitTraining at h
    rw [Raising.run_bind_of_error hfailed] at h
    cases h
    exact absurd hpost (not_mem_of_unposted hnone action data)

end Worker

def markup (parent : Nat) (name : String) (attributes : List (String × String)) : HtmlNode :=
  { parent := some parent, content := .element name attributes }

def caption (parent : Nat) (value : String) : HtmlNode :=
  { parent := some parent, content := .text value }

def listPage : HtmlDocument :=
  .ofNodes
    [{ content := .element "[document]" [] }, markup 0 "table" [("class", "table-checkable")],
      markup 1 "tbody" [], markup 2 "tr" [], markup 3 "td" [], markup 3 "td" [], markup 3 "td" [],
      caption 6 " Grace ", markup 3 "a" [("href", "/Trainee/TrainingLog?TraineeId=7")]] (by decide)

def formPage : HtmlDocument :=
  .ofNodes
    [{ content := .element "[document]" [] }, markup 0 "form" [("id", "frmtraininglog")],
      markup 1 "input"
        [("type", "hidden"), ("id", "TraineeId"), ("name", "TraineeId"), ("value", "7")],
      markup 1 "input" [("type", "text"), ("id", "TrainingDate")],
      markup 1 "select" [("id", "InstructorId")], markup 4 "option" [("value", "10")],
      caption 5 "Ada", markup 1 "select" [("id", "TrainingOptionId")],
      markup 7 "option" [("value", "1")], caption 8 "Practical"] (by decide)

def quoted (key : String) : String :=
  String.ofList (key.toList.flatMap fun c =>
    if c = '[' then "%5B".toList else if c = ']' then "%5D".toList else [c])

def markupLibraries : Libraries HtmlDocument Unit where
  parseHtml body :=
    .ok (if body = "list" then listPage else if body = "form" then formPage
      else .ofNodes [] (by decide))
  select _ _ := .ok []
  selectOne _ _ := .ok none
  getText _ := .ok ""
  loads := plainLibraries.loads
  dumps _ := .ok ""
  urlparse := plainLibraries.urlparse
  parseQs := plainLibraries.parseQs
  urljoin := plainLibraries.urljoin
  urlencode fields :=
    .ok ("&".intercalate (fields.map fun field => quoted field.1 ++ "=" ++ field.2))
  quote := plainLibraries.quote
  repr := plainLibraries.repr
  upper := String.toUpper

def asciiText : TextLibrary where
  lower := String.toLower
  decimal c := if '0' ≤ c ∧ c ≤ '9' then some (c.toNat - '0'.toNat) else none

def graceRun : Except PyException (TraineeInfo × SubmissionOutcome) × List Issued :=
  (PortalClient.submitTraining markupLibraries (pageReader asciiText {}) (plainPortal "form")
    { id := some "7" } { trainingDate := "5/1/2026", instructor := "Ada", trainingType := "1" }
    ).run.run []

end DsspBot
