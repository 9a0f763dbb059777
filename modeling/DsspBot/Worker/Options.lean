import DsspBot.Worker.Html

/-!
# Options — choosing an option of a select

An option is chosen by its value or by its label, whichever of the two is met first in document
order. The label of one option may therefore stand in front of the value of another.
-/

namespace DsspBot

namespace HtmlDocument

variable (doc : HtmlDocument)

/-! ## Values and labels -/

def optionLabel (option : Tag) : String :=
  let text := doc.getText option
  strip (if strip text ≠ "" then text else (doc.get option "label").getD "")

/-- An option without a value attribute reports its text as the value. -/
def optionValue (option : Tag) : String :=
  strip ((doc.get option "value").getD (doc.getText option))

def optionOf (option : Tag) : FormOption :=
  { value := doc.optionValue option, label := doc.optionLabel option }

def enabledOptions (select : Tag) : List Tag :=
  (doc.select select [just "option" []]).filter fun option => !doc.hasAttr option "disabled"

def getSelectOptions (select : Tag) : List FormOption :=
  ((doc.enabledOptions select).map doc.optionOf).filter fun option =>
    decide (option.value ≠ "" ∧ option.label ≠ "")

/-! ## The choice -/

/-- With a label both must match, without one either may. -/
def optionMatches (selectedValue : String) (selectedLabel : Option String) (option : Tag) : Bool :=
  match selectedLabel with
  | some label =>
      decide (doc.optionValue option = selectedValue ∧ doc.optionLabel option = label)
  | none =>
      decide (doc.optionValue option = selectedValue ∨ doc.optionLabel option = selectedValue)

def selectFormOption (select : Tag) (selectedValue : String) (selectedLabel : Option String) :
    Except PyException FormOption :=
  let options := (doc.enabledOptions select).filter fun option =>
    decide (doc.optionValue option ≠ "")
  match options.find? (doc.optionMatches selectedValue selectedLabel) with
  | some option => .ok (doc.optionOf option)
  | none =>
      let named := ((doc.get select "name").filter (· ≠ "")).or
        ((doc.get select "id").filter (· ≠ ""))
      let name := named.getD "select"
      .error (.portal (.validation s!"The selected value is not present in {name}."))

variable {doc} {select : Tag} {value : String}

/-- Among the enabled options that have a value, the chosen one matches and none before it does. -/
theorem selectFormOption_ok_iff {label : Option String} {chosen : FormOption} :
    doc.selectFormOption select value label = .ok chosen ↔
      ∃ option ∈ doc.enabledOptions select, doc.optionOf option = chosen ∧
        doc.optionValue option ≠ "" ∧ doc.optionMatches value label option = true ∧
          ∀ other ∈ doc.enabledOptions select, other < option → doc.optionValue other ≠ "" →
            doc.optionMatches value label other = false := by
  have hordered : ((doc.enabledOptions select).filter fun option =>
      decide (doc.optionValue option ≠ "")).Pairwise (· < ·) := by
    unfold enabledOptions
    exact ((select_pairwise_lt select [just "option" []]).filter _).filter _
  unfold selectFormOption
  dsimp only
  constructor
  · intro h
    split at h
    · next option hfound =>
        rcases List.find?_eq_some_iff_append.1 hfound with ⟨hmatch, before, after, hsplit, hnone⟩
        have hmem := List.mem_of_find?_eq_some hfound
        rcases List.mem_filter.1 hmem with ⟨henabled, hvalue⟩
        refine ⟨option, henabled, by simpa using h, by simpa using hvalue, hmatch, ?_⟩
        intro other hother hlt hvalued
        -- An earlier option of the list stands before the one that was found.
        have hlisted : other ∈ before ++ option :: after := by
          rw [← hsplit]
          exact List.mem_filter.2 ⟨hother, by simpa using hvalued⟩
        rw [hsplit] at hordered
        have hbefore : other ∈ before := by
          rcases List.mem_append.1 hlisted with hbefore | hlater
          · exact hbefore
          · have hafter := (List.pairwise_append.1 hordered).2.1
            rcases List.mem_cons.1 hlater with rfl | hrest
            · exact absurd hlt (Nat.lt_irrefl _)
            · exact absurd hlt (Nat.lt_asymm ((List.pairwise_cons.1 hafter).1 other hrest))
        simpa using hnone other hbefore
    · cases h
  · rintro ⟨option, henabled, rfl, hvalued, hmatch, hfirst⟩
    have hmem : option ∈ (doc.enabledOptions select).filter fun option =>
        decide (doc.optionValue option ≠ "") :=
      List.mem_filter.2 ⟨henabled, by simpa using hvalued⟩
    rcases List.append_of_mem hmem with ⟨before, after, hsplit⟩
    have hfound : ((doc.enabledOptions select).filter fun option =>
        decide (doc.optionValue option ≠ "")).find? (doc.optionMatches value label) =
          some option := by
      refine List.find?_eq_some_iff_append.2 ⟨hmatch, before, after, hsplit, ?_⟩
      intro other hother
      have hlisted : other ∈ (doc.enabledOptions select).filter fun option =>
          decide (doc.optionValue option ≠ "") := by
        rw [hsplit]
        exact List.mem_append_left _ hother
      rcases List.mem_filter.1 hlisted with ⟨henabled', hvalued'⟩
      rw [hsplit] at hordered
      have hlt : other < option :=
        (List.pairwise_append.1 hordered).2.2 other hother option List.mem_cons_self
      simpa using hfirst other henabled' hlt (by simpa using hvalued')
    rw [hfound]

/-- Where the enabled options have different values, an option is chosen by its own value exactly if
that value is not empty and no option with a value before it is labelled so. -/
theorem option_selected_by_value_iff {option : Tag} (hoption : option ∈ doc.enabledOptions select)
    (hdistinct : ((doc.enabledOptions select).map doc.optionValue).Nodup) :
    doc.selectFormOption select (doc.optionValue option) none = .ok (doc.optionOf option) ↔
      doc.optionValue option ≠ "" ∧ ∀ other ∈ doc.enabledOptions select, other < option →
        doc.optionValue other ≠ "" → doc.optionLabel other ≠ doc.optionValue option := by
  have hunique : ∀ other ∈ doc.enabledOptions select,
      doc.optionValue other = doc.optionValue option → other = option := by
    intro other hother hvalue
    exact List.inj_on_of_nodup_map hdistinct hother hoption hvalue
  rw [selectFormOption_ok_iff]
  constructor
  · rintro ⟨chosen, hchosen, hsame, hvalued, -, hfirst⟩
    -- The chosen option has the same value, so it is the same option.
    obtain rfl := hunique chosen hchosen (congrArg FormOption.value hsame)
    refine ⟨hvalued, ?_⟩
    intro other hother hlt hother_valued hlabel
    have hno := hfirst other hother hlt hother_valued
    simp [optionMatches, hlabel] at hno
  · rintro ⟨hvalued, hlabels⟩
    refine ⟨option, hoption, rfl, hvalued, by simp [optionMatches], ?_⟩
    intro other hother hlt hother_valued
    have hlabel := hlabels other hother hlt hother_valued
    have hvalue : doc.optionValue other ≠ doc.optionValue option := by
      intro hsame
      exact absurd hlt (hunique other hother hsame ▸ Nat.lt_irrefl _)
    simp [optionMatches, hlabel, hvalue]

end HtmlDocument

/-! ### A select whose first label is its second value -/

/-- Two options: the first is called 2 and stands for 1, the second stands for 2. -/
def twistedSelect : HtmlDocument :=
  .ofNodes
    [{ content := .element "select" [("name", "InstructorId")] },
      { parent := some 0, content := .element "option" [("value", "1")] },
      { parent := some 1, content := .text "2" },
      { parent := some 0, content := .element "option" [("value", "2")] },
      { parent := some 3, content := .text "Bea" }] (by decide)

theorem twistedSelect_records_the_other :
    ¬∀ (doc : HtmlDocument) (select option : Tag), option ∈ doc.enabledOptions select →
      ((doc.enabledOptions select).map doc.optionValue).Nodup →
        ∃ chosen, doc.selectFormOption select (doc.optionValue option) none = .ok chosen ∧
          chosen.value = doc.optionValue option := by
  intro h
  rcases h twistedSelect 0 3 (by decide +kernel) (by decide +kernel) with ⟨chosen, hok, hvalue⟩
  have hother : twistedSelect.selectFormOption 0 "2" none = .ok { value := "1", label := "2" } := by
    decide +kernel
  have hself : twistedSelect.optionValue 3 = "2" := by decide +kernel
  rw [hself, hother] at hok
  rw [hself] at hvalue
  cases hok
  exact absurd hvalue (by decide)

/-- By the value 1 the first option is found. -/
theorem twistedSelect_finds_the_first :
    twistedSelect.selectFormOption 0 (twistedSelect.optionValue 1) none =
      .ok (twistedSelect.optionOf 1) := by
  refine (HtmlDocument.option_selected_by_value_iff (by decide +kernel) (by decide +kernel)).2 ?_
  decide +kernel

end DsspBot
