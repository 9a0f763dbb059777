import DsspBot.Worker.Portal
import Mathlib.Logic.Relation

/-!
# Html — the pages the worker reads

A parsed page lists its elements and texts in document order, each with the place of its parent. The
place of an element is its identity. Comments and scripts are no text and are left out.
-/

namespace DsspBot

inductive HtmlContent
  | text (value : String)
  | element (name : String) (attributes : List (String × String))
  deriving DecidableEq, Repr

structure HtmlNode where
  parent : Option Nat := none
  content : HtmlContent
  deriving DecidableEq, Repr

structure HtmlDocument where
  nodes : List HtmlNode
  /-- A parent comes before its children. -/
  ordered : ∀ (place : Nat) (node : HtmlNode), nodes[place]? = some node →
    ∀ parent, node.parent = some parent → parent < place

/-- A page whose places are checked one by one. -/
def HtmlDocument.ofNodes (nodes : List HtmlNode)
    (h : ∀ entry ∈ nodes.zipIdx, ∀ parent ∈ entry.1.parent, parent < entry.2) : HtmlDocument where
  nodes := nodes
  ordered := by
    intro place node hnode parent hparent
    exact h (node, place) (List.mem_zipIdx_iff_getElem?.2 hnode) parent hparent

/-- The place of an element. The page itself is at place 0. -/
abbrev Tag := Nat

/-! ## Selectors -/

inductive SelectorTest
  | id (value : String)
  | hasClass (value : String)
  | equals (key value : String)
  | contains (key value : String)
  deriving DecidableEq, Repr

/-- A compound selector, such as `input#TraineeId`. -/
structure Compound where
  tag : Option String := none
  tests : List SelectorTest := []
  deriving DecidableEq, Repr

/-- Alternatives, each a compound and, nearest first, the compounds that stand around it. -/
abbrev Selector := List (Compound × List Compound)

/-- A selector of one compound. -/
def just (tag : String) (tests : List SelectorTest) : Compound × List Compound :=
  ({ tag := some tag, tests := tests }, [])

namespace HtmlDocument

variable (doc : HtmlDocument)

/-! ## Elements -/

def parent (t : Tag) : Option Tag :=
  doc.nodes[t]?.bind (·.parent)

def element (t : Tag) : Option (String × List (String × String)) :=
  doc.nodes[t]?.bind fun node =>
    match node.content with
    | .text _ => none
    | .element name attributes => some (name, attributes)

def name (t : Tag) : String :=
  ((doc.element t).map (·.1)).getD ""

/-- `tag.get(key)`. -/
def get (t : Tag) (key : String) : Option String :=
  (doc.element t).bind fun element =>
    (element.2.find? fun entry => decide (entry.1 = key)).map (·.2)

def hasAttr (t : Tag) (key : String) : Bool :=
  (doc.get t key).isSome

def ancestorsWithin : Nat → Tag → List Tag
  | 0, _ => []
  | steps + 1, t =>
      match doc.parent t with
      | none => []
      | some p => p :: ancestorsWithin steps p

/-- Nearest first. There are no more of them than places before this one. -/
def ancestors (t : Tag) : List Tag :=
  doc.ancestorsWithin t t

def isElement (t : Tag) : Bool :=
  (doc.element t).isSome

/-- The elements inside, in document order. -/
def descendants (t : Tag) : List Tag :=
  (List.range doc.nodes.length).filter fun place =>
    doc.isElement place && decide (t ∈ doc.ancestors place)

/-- The text at a place, nothing for an element. -/
def textAt (place : Nat) : Option String :=
  doc.nodes[place]?.bind fun node =>
    match node.content with
    | .text value => some value
    | .element _ _ => none

/-- `tag.get_text()`. -/
def getText (t : Tag) : String :=
  String.join (((List.range doc.nodes.length).filter fun place =>
    decide (t ∈ doc.ancestors place)).filterMap doc.textAt)

/-! ## Lookups -/

def passes (t : Tag) : SelectorTest → Bool
  | .id value => decide (doc.get t "id" = some value)
  | .hasClass value => (doc.get t "class").any fun classes => decide (value ∈ splitSpace classes)
  | .equals key value => decide (doc.get t key = some value)
  | .contains key value =>
      (doc.get t key).any fun text => decide (value.toList <:+: text.toList)

def fits (t : Tag) (compound : Compound) : Bool :=
  (compound.tag.all fun tag => decide (doc.name t = tag)) && compound.tests.all (doc.passes t)

/-- One after the other, these compounds stand around the element. -/
def surrounded : List Compound → Tag → Bool
  | [], _ => true
  | compound :: rest, t =>
      (doc.ancestors t).any fun a => doc.fits a compound && surrounded rest a

def matchesSelector (selector : Selector) (t : Tag) : Bool :=
  selector.any fun alternative => doc.fits t alternative.1 && doc.surrounded alternative.2 t

def select (t : Tag) (selector : Selector) : List Tag :=
  (doc.descendants t).filter (doc.matchesSelector selector)

def selectOne (t : Tag) (selector : Selector) : Option Tag :=
  (doc.select t selector).head?

def findAll (t : Tag) (name : String) : List Tag :=
  (doc.descendants t).filter fun found => decide (doc.name found = name)

def find (t : Tag) (name : String) : Option Tag :=
  (doc.findAll t name).head?

/-- `tag.find(id=value)`. -/
def findById (t : Tag) (value : String) : Option Tag :=
  (doc.descendants t).find? fun found => decide (doc.get found "id" = some value)

def findParent (t : Tag) (name : String) : Option Tag :=
  (doc.ancestors t).find? fun found => decide (doc.name found = name)

/-! ## What is inside -/

/-- The way up from an element leads there. -/
def Inside (outer inner : Tag) : Prop :=
  Relation.TransGen (fun t p => doc.parent t = some p) inner outer

variable {doc}

theorem parent_lt {t p : Nat} (h : doc.parent t = some p) : p < t := by
  rcases Option.bind_eq_some_iff.1 h with ⟨node, hnode, hparent⟩
  exact doc.ordered t node hnode p hparent

theorem mem_ancestorsWithin {steps : Nat} {t a : Tag} (h : a ∈ doc.ancestorsWithin steps t) :
    doc.Inside a t := by
  induction steps generalizing t with
  | zero => cases h
  | succ steps ih =>
      unfold ancestorsWithin at h
      split at h
      · cases h
      · next p hp =>
          rcases List.mem_cons.1 h with rfl | hrest
          · exact Relation.TransGen.single hp
          · exact Relation.TransGen.head hp (ih hrest)

/-- Enough steps go all the way up, because every step goes to an earlier place. -/
theorem ancestorsWithin_complete {t a : Nat} (h : doc.Inside a t) :
    ∀ steps : Nat, t ≤ steps → a ∈ doc.ancestorsWithin steps t := by
  induction h using Relation.TransGen.head_induction_on with
  | single hp =>
      intro steps hsteps
      have hlt := parent_lt hp
      obtain ⟨left, rfl⟩ : ∃ left, steps = left + 1 := ⟨steps - 1, by omega⟩
      simp [ancestorsWithin, hp]
  | head hp _ ih =>
      intro steps hsteps
      have hlt := parent_lt hp
      obtain ⟨left, rfl⟩ : ∃ left, steps = left + 1 := ⟨steps - 1, by omega⟩
      have hrest := ih left (by omega)
      simp [ancestorsWithin, hp, hrest]

theorem mem_ancestors_iff {t a : Tag} : a ∈ doc.ancestors t ↔ doc.Inside a t :=
  ⟨mem_ancestorsWithin, fun h => ancestorsWithin_complete h t le_rfl⟩

theorem lt_length_of_isElement {t : Tag} (h : doc.isElement t = true) : t < doc.nodes.length := by
  rcases Option.isSome_iff_exists.1 h with ⟨element, helement⟩
  rcases Option.bind_eq_some_iff.1 helement with ⟨node, hnode, -⟩
  exact (List.getElem?_eq_some_iff.1 hnode).1

theorem mem_descendants_iff {t inner : Tag} :
    inner ∈ doc.descendants t ↔ doc.isElement inner = true ∧ doc.Inside t inner := by
  unfold descendants
  rw [List.mem_filter, List.mem_range, Bool.and_eq_true, decide_eq_true_iff, mem_ancestors_iff]
  constructor
  · exact fun h => h.2
  · exact fun h => ⟨lt_length_of_isElement h.1, h⟩

theorem mem_select_iff {t inner : Tag} {selector : Selector} :
    inner ∈ doc.select t selector ↔ doc.isElement inner = true ∧ doc.Inside t inner ∧
      doc.matchesSelector selector inner = true := by
  unfold select
  rw [List.mem_filter, mem_descendants_iff, and_assoc]

/-- Lookups return what they find in document order. -/
theorem select_pairwise_lt (t : Tag) (selector : Selector) :
    (doc.select t selector).Pairwise (· < ·) := by
  unfold select descendants
  rw [List.filter_filter]
  exact List.Pairwise.filter _ List.pairwise_lt_range

theorem findParent_inside {t found : Tag} {name : String}
    (h : doc.findParent t name = some found) : doc.Inside found t ∧ doc.name found = name :=
  ⟨mem_ancestors_iff.1 (List.mem_of_find?_eq_some h), by simpa using List.find?_some h⟩

end HtmlDocument

end DsspBot
