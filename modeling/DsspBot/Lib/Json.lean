import Mathlib.Data.List.Basic
import Mathlib.Data.List.Nodup

/-!
# Json — documents, and records written into them

A document keeps the fields of an object as they are written, doubled names included. This file
gives

* reading a record of named fields: no field twice, the order and unknown fields ignored, or all
  fields by position,
* codecs that carry their round trip, for texts, bounded numbers, lists, nullable values and
  variants,
* the round trip of a record some of whose fields are left out,
* renaming the fields of a document throughout.
-/

inductive Json
  | null
  | bool (value : Bool)
  | number (text : String)
  | string (value : String)
  | array (items : List Json)
  | object (fields : List (String × Json))

namespace Json

/-- The first field of that name. -/
def field (fields : List (String × Json)) (key : String) : Option Json :=
  (fields.find? fun entry => decide (entry.1 = key)).map (·.2)

/-- An object has a field of that name, whatever its value. -/
def hasKey (key : String) : Json → Bool
  | .object fields => fields.any fun entry => decide (entry.1 = key)
  | _ => false

theorem hasKey_iff {key : String} {value : Json} :
    value.hasKey key = true ↔ ∃ fields inner, value = .object fields ∧ (key, inner) ∈ fields := by
  cases value with
  | object fields => simp [hasKey]
  | _ => simp [hasKey]

theorem field_eq_none_iff {fields : List (String × Json)} {key : String} :
    field fields key = none ↔ (Json.object fields).hasKey key = false := by
  unfold field hasKey
  rw [Option.map_eq_none_iff, List.find?_eq_none, List.any_eq_false]

/-! ## Records -/

/-- The fields that have a value. -/
def present (entries : List (String × Option Json)) : List (String × Json) :=
  entries.filterMap fun entry => entry.2.map fun value => (entry.1, value)

def record (entries : List (String × Option Json)) : Json :=
  .object (present entries)

/-- The values of the named fields, in the order of the names. -/
def row (names : List String) : Json → Option (List (Option Json))
  | .object fields =>
      -- A known field that comes twice is refused, an unknown one is skipped.
      if ((fields.map (·.1)).filter (· ∈ names)).Nodup then some (names.map (field fields))
      else none
  | .array items =>
      if items.length ≤ names.length then
        some (items.map some ++ List.replicate (names.length - items.length) none)
      else none
  | _ => none

section Record

variable {entries : List (String × Option Json)}

theorem mem_present {key : String} {value : Json} :
    (key, value) ∈ present entries ↔ (key, some value) ∈ entries := by
  unfold present
  rw [List.mem_filterMap]
  constructor
  · rintro ⟨⟨name, inner⟩, hmem, hsome⟩
    rcases Option.map_eq_some_iff.1 hsome with ⟨value', rfl, heq⟩
    cases heq
    exact hmem
  · intro hmem
    exact ⟨_, hmem, rfl⟩

theorem present_keys_sublist : ((present entries).map (·.1)).Sublist (entries.map (·.1)) := by
  induction entries with
  | nil => exact .slnil
  | cons entry rest ih =>
      rcases entry with ⟨name, value⟩
      cases value with
      | none => exact ih.cons name
      | some value => exact ih.cons_cons name

/-- Among fields of different names, each is found under its name, if it is there. -/
theorem field_present (hnodup : (entries.map (·.1)).Nodup) {key : String} {value : Option Json}
    (hmem : (key, value) ∈ entries) : field (present entries) key = value := by
  cases hfield : field (present entries) key with
  | none =>
      cases value with
      | none => rfl
      | some value =>
          have hpresent := mem_present.2 hmem
          rw [field_eq_none_iff] at hfield
          have hkey := hasKey_iff.2 ⟨_, _, rfl, hpresent⟩
          rw [hfield] at hkey
          cases hkey
  | some found =>
      rcases Option.map_eq_some_iff.1 hfield with ⟨⟨name, inner⟩, hfound, rfl⟩
      obtain rfl : name = key := by simpa using List.find?_some hfound
      have hentry := mem_present.1 (List.mem_of_find?_eq_some hfound)
      -- Two entries of one name are the same entry.
      have hsame := List.inj_on_of_nodup_map hnodup hentry hmem rfl
      exact congrArg Prod.snd hsame

theorem row_record (hnodup : (entries.map (·.1)).Nodup) :
    (record entries).row (entries.map (·.1)) = some (entries.map (·.2)) := by
  have hknown : ((present entries).map (·.1)).filter (· ∈ entries.map (·.1)) =
      (present entries).map (·.1) := by
    rw [List.filter_eq_self]
    intro name hname
    simpa using present_keys_sublist.subset hname
  have hvalues : (entries.map (·.1)).map (field (present entries)) = entries.map (·.2) := by
    rw [List.map_map]
    apply List.map_congr_left
    rintro ⟨name, value⟩ hmem
    exact field_present hnodup hmem
  unfold record row
  dsimp only
  rw [hknown, if_pos (hnodup.sublist present_keys_sublist), hvalues]

theorem hasKey_record {key : String} :
    (record entries).hasKey key = true ↔ ∃ value, (key, some value) ∈ entries := by
  rw [hasKey_iff]
  constructor
  · rintro ⟨fields, inner, hfields, hmem⟩
    cases hfields
    exact ⟨inner, mem_present.1 hmem⟩
  · rintro ⟨value, hmem⟩
    exact ⟨_, value, rfl, mem_present.2 hmem⟩

end Record

/-! ## Renaming -/

section Renaming

variable (f : String → String)

mutual

/-- The same document, with every field renamed at every depth. -/
def mapKeys : Json → Json
  | .object fields => .object (mapKeysFields fields)
  | .array items => .array (mapKeysItems items)
  | value => value

def mapKeysFields : List (String × Json) → List (String × Json)
  | [] => []
  | (key, value) :: rest => (f key, mapKeys value) :: mapKeysFields rest

def mapKeysItems : List Json → List Json
  | [] => []
  | value :: rest => mapKeys value :: mapKeysItems rest

end

theorem mapKeys_array (items : List Json) :
    mapKeys f (.array items) = .array (items.map (mapKeys f)) := by
  have hitems : mapKeysItems f items = items.map (mapKeys f) := by
    induction items with
    | nil => rfl
    | cons value rest ih => rw [mapKeysItems, ih, List.map_cons]
  rw [mapKeys, hitems]

theorem mapKeys_object (fields : List (String × Json)) :
    mapKeys f (.object fields) =
      .object (fields.map fun entry => (f entry.1, mapKeys f entry.2)) := by
  have hfields : mapKeysFields f fields =
      fields.map fun entry => (f entry.1, mapKeys f entry.2) := by
    induction fields with
    | nil => rfl
    | cons entry rest ih => rw [mapKeysFields, ih, List.map_cons]
  rw [mapKeys, hfields]

theorem mapKeys_record (entries : List (String × Option Json)) :
    mapKeys f (record entries) =
      record (entries.map fun entry => (f entry.1, entry.2.map (mapKeys f))) := by
  have hpresent : (present entries).map (fun entry => (f entry.1, mapKeys f entry.2)) =
      present (entries.map fun entry => (f entry.1, entry.2.map (mapKeys f))) := by
    unfold present
    rw [List.map_filterMap, List.filterMap_map]
    apply List.filterMap_congr
    rintro ⟨key, value⟩ -
    cases value <;> rfl
  unfold record
  rw [mapKeys_object, hpresent]

end Renaming

/-! ## Codecs -/

structure Codec (α : Type*) where
  encode : α → Json
  decode : Json → Option α
  /-- What the type it is read into has room for. -/
  Fits : α → Prop
  roundtrip : ∀ a, Fits a → decode (encode a) = some a

namespace Codec

variable {α : Type*}

/-- The value of a field that may be left out. -/
def orElse (c : Codec α) (default : α) : Option Json → Option α
  | none => some default
  | some value => c.decode value

def string : Codec String where
  encode := .string
  decode
    | .string value => some value
    | _ => none
  Fits _ := True
  roundtrip _ _ := rfl

@[simp] theorem decode_string (value : String) : string.decode (.string value) = some value := rfl

/-- Decimal digits of a number below a bound. -/
def natural (bound : Nat) : Codec Nat where
  encode n := .number n.repr
  decode
    | .number text =>
        if text.toList ≠ [] ∧ text.toList.all Char.isDigit = true ∧
            Nat.ofDigitChars 10 text.toList 0 < bound then
          some (Nat.ofDigitChars 10 text.toList 0)
        else none
    | _ => none
  Fits n := n < bound
  roundtrip n h := by
    have hvalue : Nat.ofDigitChars 10 n.repr.toList 0 = n := by
      rw [Nat.toList_repr]
      exact Nat.ofDigitChars_toDigits (by decide) (by decide)
    have hdigits : n.repr.toList.all Char.isDigit = true := by
      rw [List.all_eq_true, Nat.toList_repr]
      exact fun c hc => Nat.isDigit_of_mem_toDigits (by decide) (by decide) hc
    have hsome : n.repr.toList ≠ [] := by simp
    simp only [hvalue]
    exact if_pos ⟨hsome, hdigits, h⟩

theorem mapM_map_of_roundtrip {c : Codec α} {xs : List α} (h : ∀ x ∈ xs, c.Fits x) :
    (xs.map c.encode).mapM c.decode = some xs := by
  induction xs with
  | nil => rfl
  | cons x xs ih =>
      rcases List.forall_mem_cons.1 h with ⟨hx, hxs⟩
      rw [List.map_cons, List.mapM_cons, c.roundtrip x hx, ih hxs]
      rfl

def list (c : Codec α) : Codec (List α) where
  encode xs := .array (xs.map c.encode)
  decode
    | .array items => items.mapM c.decode
    | _ => none
  Fits xs := ∀ x ∈ xs, c.Fits x
  roundtrip _ h := mapM_map_of_roundtrip h

/-- Nothing is written as `null`. -/
def nullable (c : Codec α) (hnull : ∀ a, c.encode a ≠ .null) : Codec (Option α) where
  encode
    | none => .null
    | some a => c.encode a
  decode
    | .null => some none
    | value => (c.decode value).map some
  Fits a := ∀ x, a = some x → c.Fits x
  roundtrip a h := by
    cases a with
    | none => rfl
    | some a =>
        dsimp only
        split
        · next heq => exact absurd heq (hnull a)
        · rw [c.roundtrip a (h a rfl)]
          rfl

/-- Variants without content, by name. Such a variant may also be written as an object that holds
nothing under the name. -/
def variant (all : List α) (name : α → String)
    (hall : ∀ a, all.find? (fun b => decide (name b = name a)) = some a) : Codec α where
  encode a := .string (name a)
  decode
    | .string text => all.find? fun b => decide (name b = text)
    | .object [(text, .null)] => all.find? fun b => decide (name b = text)
    | _ => none
  Fits _ := True
  roundtrip a _ := hall a

end Codec

end Json
