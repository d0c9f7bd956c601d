import RevenueRescue.Base.Paths
import RevenueRescue.Cases.Normalizer
import RevenueRescue.Properties.Redelivery
import RevenueRescue.Refinement.Redaction

/-!
# The law of redaction

At every depth the redaction puts its mark under the sensitive keys and in the place of the
texts that show a card number, and it leaves everything else as it is. The law is stated by the
paths into the two values, the one before and the one after.

What is redacted has nothing left to redact, so a second redaction changes nothing.
-/

namespace RevenueRescue

open Python EventNormalizer

/-- A path on which no key is sensitive. -/
def Exposed (path : List Place) : Prop :=
  ∀ key, Place.field key ∈ path → isSensitive key = false

/-- What stands in the place of a value that no key hides. -/
inductive Replaces (lib : Library) : Json → Json → Prop
  | pan {text : String} (h : searchCardNumber lib none text.toList = true) :
    Replaces lib (.str text) (.str "[REDACTED_PAN]")
  | text {text : String} (h : searchCardNumber lib none text.toList = false) :
    Replaces lib (.str text) (.str text)
  | items {items others : List Json} (h : others.length = items.length) :
    Replaces lib (.arr items) (.arr others)
  | fields {fields others : Dict} (h : others.map Prod.fst = fields.map Prod.fst) :
    Replaces lib (.obj fields) (.obj others)
  | leaf {value : Json} (htext : ∀ text, value ≠ .str text) (hitems : ∀ items, value ≠ .arr items)
      (hfields : ∀ fields, value ≠ .obj fields) : Replaces lib value value

/-- The law that relates a value to what is stored of it. -/
structure RedactionLaw (lib : Library) (before after : Json) : Prop where
  /-- Every sensitive key of the result maps to the mark, at every depth. -/
  secret : ∀ path key value, isSensitive key = true →
    after.valueAt (path ++ [.field key]) = some value → value = .str "[REDACTED]"
  /-- Everything that no sensitive key hides is in its place. -/
  kept : ∀ path value, Exposed path → before.valueAt path = some value →
    ∃ replacement, after.valueAt path = some replacement ∧ Replaces lib value replacement
  /-- Nothing is added. -/
  nothingNew : ∀ path, before.valueAt path = none → Exposed path → after.valueAt path = none

variable (lib : Library)

theorem sanitizeItems_eq_map (items : List Json) :
    sanitizeItems lib items = items.map (sanitizeMetadata lib) := by
  induction items with
  | nil => rfl
  | cons item rest ih => rw [sanitizeItems, ih, List.map_cons]

/-- What stands under a key after the redaction. -/
def sanitizedField (field : String × Json) : String × Json :=
  (field.1, if isSensitive field.1 then .str "[REDACTED]" else sanitizeMetadata lib field.2)

theorem fst_comp_sanitizedField : Prod.fst ∘ sanitizedField lib = Prod.fst := by
  funext field
  simp only [Function.comp_apply, sanitizedField]

theorem sanitizeFields_eq_map (fields : Dict) :
    sanitizeFields lib fields = fields.map (sanitizedField lib) := by
  induction fields with
  | nil => rfl
  | cons field rest ih =>
    rw [sanitizeFields, ih, List.map_cons]
    rfl

/-! ## One step -/

/-- A step that passes no sensitive key leads to the redacted part. -/
theorem child_sanitizeMetadata {place : Place}
    (hplace : ∀ key, place = .field key → isSensitive key = false) (value : Json) :
    (sanitizeMetadata lib value).child place =
      (value.child place).map (sanitizeMetadata lib) := by
  cases value with
  | str text =>
    rw [sanitizeMetadata]
    split <;> cases place <;> rfl
  | arr items =>
    rw [sanitizeMetadata, sanitizeItems_eq_map]
    cases place with
    | item i => exact List.getElem?_map
    | field key => rfl
  | obj fields =>
    rw [sanitizeMetadata]
    cases place with
    | item i => rfl
    | field key =>
      change (sanitizeFields lib fields).lookup key = _
      rw [lookup_sanitizeFields, hplace key rfl]
      rfl
  | _ =>
    rw [sanitizeMetadata]
    cases place <;> rfl

/-- A step to a sensitive key leads to the mark. -/
theorem child_sanitizeMetadata_of_isSensitive {key : String} (hkey : isSensitive key = true)
    {value part : Json} (h : (sanitizeMetadata lib value).child (.field key) = some part) :
    part = .str "[REDACTED]" := by
  cases value with
  | obj fields =>
    rw [sanitizeMetadata] at h
    change (sanitizeFields lib fields).lookup key = _ at h
    rw [lookup_sanitizeFields, Option.map_eq_some_iff] at h
    obtain ⟨before, -, hpart⟩ := h
    rw [hkey, if_pos rfl] at hpart
    exact hpart.symm
  | str text =>
    rw [sanitizeMetadata] at h
    split at h <;> cases h
  | _ =>
    rw [sanitizeMetadata] at h
    cases h

/-- Nothing is below a mark. -/
theorem valueAt_redacted {path : List Place} {part : Json} {key : String}
    (h : (Json.str "[REDACTED]").valueAt (path ++ [.field key]) = some part) : False := by
  cases path with
  | nil => cases h
  | cons place path => cases place <;> cases h

theorem replaces_sanitizeMetadata (value : Json) :
    Replaces lib value (sanitizeMetadata lib value) := by
  cases value with
  | str text =>
    rw [sanitizeMetadata]
    rcases hfound : searchCardNumber lib none text.toList with _ | _
    · rw [if_neg Bool.false_ne_true]
      exact .text hfound
    · rw [if_pos rfl]
      exact .pan hfound
  | arr items =>
    rw [sanitizeMetadata, sanitizeItems_eq_map]
    exact .items (List.length_map _)
  | obj fields =>
    rw [sanitizeMetadata, sanitizeFields_eq_map]
    refine .fields ?_
    rw [List.map_map, fst_comp_sanitizedField]
  | _ =>
    rw [sanitizeMetadata]
    exact .leaf (fun _ => Json.noConfusion) (fun _ => Json.noConfusion) fun _ => Json.noConfusion

/-! ## Every depth -/

/-- On an exposed path the two values have the same parts, one redacted. -/
theorem valueAt_sanitizeMetadata {path : List Place} (hpath : Exposed path) (value : Json) :
    (sanitizeMetadata lib value).valueAt path =
      (value.valueAt path).map (sanitizeMetadata lib) := by
  induction path generalizing value with
  | nil => rfl
  | cons place path ih =>
    have hplace : ∀ key, place = .field key → isSensitive key = false :=
      fun key hkey => hpath key (hkey ▸ List.mem_cons_self)
    have hrest : Exposed path := fun key hkey => hpath key (List.mem_cons_of_mem _ hkey)
    rw [Json.valueAt_cons, Json.valueAt_cons, child_sanitizeMetadata lib hplace,
      Option.bind_map, Option.map_bind]
    congr 1
    funext part
    exact ih hrest part

/-- Whatever the path to it, a sensitive key maps to the mark. -/
theorem valueAt_sanitizeMetadata_of_isSensitive {path : List Place} {key : String}
    (hkey : isSensitive key = true) {value part : Json}
    (h : (sanitizeMetadata lib value).valueAt (path ++ [.field key]) = some part) :
    part = .str "[REDACTED]" := by
  induction path generalizing value with
  | nil =>
    rw [List.nil_append, Json.valueAt_singleton] at h
    exact child_sanitizeMetadata_of_isSensitive lib hkey h
  | cons place path ih =>
    rw [List.cons_append, Json.valueAt_cons, Option.bind_eq_some_iff] at h
    obtain ⟨inner, hinner, hrest⟩ := h
    by_cases hplace : ∀ name, place = .field name → isSensitive name = false
    · rw [child_sanitizeMetadata lib hplace, Option.map_eq_some_iff] at hinner
      obtain ⟨before, -, rfl⟩ := hinner
      exact ih hrest
    · -- Below another sensitive key there is nothing.
      push Not at hplace
      obtain ⟨name, rfl, hname⟩ := hplace
      rw [ne_eq, Bool.not_eq_false] at hname
      rw [child_sanitizeMetadata_of_isSensitive lib hname hinner] at hrest
      exact (valueAt_redacted hrest).elim

/-- The redaction keeps the law. -/
theorem redactionLaw_sanitizeMetadata (value : Json) :
    RedactionLaw lib value (sanitizeMetadata lib value) where
  secret _ _ _ hkey hvalue := valueAt_sanitizeMetadata_of_isSensitive lib hkey hvalue
  kept path part hpath hpart := by
    refine ⟨sanitizeMetadata lib part, ?_, replaces_sanitizeMetadata lib part⟩
    rw [valueAt_sanitizeMetadata lib hpath, hpart]
    rfl
  nothingNew path hpath hexposed := by
    rw [valueAt_sanitizeMetadata lib hexposed, hpath]
    rfl

/-! ## A second redaction -/

/-- A value with nothing to redact. -/
inductive Redacted : Json → Prop
  | str {text : String} (h : searchCardNumber lib none text.toList = false) : Redacted (.str text)
  | arr {items : List Json} (h : ∀ item ∈ items, Redacted item) : Redacted (.arr items)
  | obj {fields : Dict}
      (hsecret : ∀ field ∈ fields, isSensitive field.1 = true → field.2 = .str "[REDACTED]")
      (hplain : ∀ field ∈ fields, isSensitive field.1 = false → Redacted field.2) :
    Redacted (.obj fields)
  | leaf {value : Json} (htext : ∀ text, value ≠ .str text) (hitems : ∀ items, value ≠ .arr items)
      (hfields : ∀ fields, value ≠ .obj fields) : Redacted value

/-- The redaction leaves a value with nothing to redact as it is. -/
theorem Redacted.sanitizeMetadata_eq {value : Json} (h : Redacted lib value) :
    sanitizeMetadata lib value = value := by
  induction h with
  | str h =>
    rw [sanitizeMetadata, h]
    rfl
  | @arr items _ ih =>
    rw [sanitizeMetadata, sanitizeItems_eq_map]
    have hsame : items.map (sanitizeMetadata lib) = items.map id :=
      List.map_congr_left ih
    rw [hsame, List.map_id]
  | @obj fields hsecret _ ih =>
    rw [sanitizeMetadata, sanitizeFields_eq_map]
    have hsame : fields.map (sanitizedField lib) = fields.map id := by
      apply List.map_congr_left
      intro field hfield
      rcases hkey : isSensitive field.1 with _ | _
      · unfold sanitizedField
        rw [hkey, if_neg Bool.false_ne_true, ih field hfield hkey]
        rfl
      · unfold sanitizedField
        rw [hkey, if_pos rfl, ← hsecret field hfield hkey]
        rfl
    rw [hsame, List.map_id]
  | @leaf value htext hitems hfields =>
    cases value with
    | str text => exact absurd rfl (htext text)
    | arr items => exact absurd rfl (hitems items)
    | obj fields => exact absurd rfl (hfields fields)
    | _ => rw [sanitizeMetadata]

variable {lib}

mutual
/-- What the redaction leaves has nothing to redact. -/
theorem redacted_sanitizeMetadata (hlib : lib.AsciiDigits) :
    (value : Json) → Redacted lib (sanitizeMetadata lib value)
  | .str text => by
    rw [sanitizeMetadata]
    split_ifs with hfound
    · exact .str (searchCardNumber_of_no_digits hlib (by decide))
    · exact .str (Bool.eq_false_of_not_eq_true hfound)
  | .arr items => by
    rw [sanitizeMetadata]
    exact .arr (redacted_sanitizeItems hlib items)
  | .obj fields => by
    rw [sanitizeMetadata]
    refine .obj ?_ (redacted_sanitizeFields hlib fields)
    intro field hfield hkey
    obtain ⟨before, -, hvalue⟩ := (mem_sanitizeFields lib).mp hfield
    rw [hvalue, hkey, if_pos rfl]
  | .null | .bool _ | .int _ | .float _ | .inf _ | .nan => by
    rw [sanitizeMetadata]
    exact .leaf (fun _ => Json.noConfusion) (fun _ => Json.noConfusion) fun _ => Json.noConfusion

theorem redacted_sanitizeItems (hlib : lib.AsciiDigits) :
    (items : List Json) → ∀ item ∈ sanitizeItems lib items, Redacted lib item
  | [] => by simp [sanitizeItems]
  | item :: rest => by
    rw [sanitizeItems, List.forall_mem_cons]
    exact ⟨redacted_sanitizeMetadata hlib item, redacted_sanitizeItems hlib rest⟩

theorem redacted_sanitizeFields (hlib : lib.AsciiDigits) : (fields : List (String × Json)) →
    ∀ field ∈ sanitizeFields lib fields, isSensitive field.1 = false → Redacted lib field.2
  | [] => by simp [sanitizeFields]
  | (key, value) :: rest => by
    rw [sanitizeFields, List.forall_mem_cons]
    refine ⟨fun hkey => ?_, redacted_sanitizeFields hlib rest⟩
    dsimp only at hkey ⊢
    rw [hkey, if_neg Bool.false_ne_true]
    exact redacted_sanitizeMetadata hlib value
end

/-- Redaction follows its law at every depth, and applied again it changes nothing. -/
theorem redaction_law (hlib : lib.AsciiDigits) (value : Json) :
    RedactionLaw lib value (sanitizeMetadata lib value) ∧
      sanitizeMetadata lib (sanitizeMetadata lib value) = sanitizeMetadata lib value :=
  ⟨redactionLaw_sanitizeMetadata lib value,
    (redacted_sanitizeMetadata hlib value).sanitizeMetadata_eq lib⟩

namespace Sample

theorem library_asciiDigits : library.AsciiDigits := by
  intro c _
  change (if '0' ≤ c ∧ c ≤ '9' then some (c.toNat - 48) else none).isSome = _
  unfold Char.isDigit
  split_ifs with hdigit
  · exact (Bool.and_eq_true_iff.mpr ⟨decide_eq_true hdigit.1, decide_eq_true hdigit.2⟩).symm
  · refine (Bool.eq_false_iff.mpr fun hboth => hdigit ?_).symm
    rwa [Bool.and_eq_true, decide_eq_true_eq, decide_eq_true_eq] at hboth

/-- A payment method with a card number in its notes and a secret below a list. -/
def storedMethod : Json :=
  .obj [("notes", .arr [.str "card 4111 1111 1111 1111", .int 2]),
    ("attempts", .arr [.obj [("Api_Key", .arr [.str "sk_1"]), ("status", .str "failed")]])]

end Sample

theorem redaction_law_storedMethod :
    RedactionLaw Sample.library Sample.storedMethod
        (sanitizeMetadata Sample.library Sample.storedMethod) ∧
      sanitizeMetadata Sample.library (sanitizeMetadata Sample.library Sample.storedMethod) =
        sanitizeMetadata Sample.library Sample.storedMethod :=
  redaction_law Sample.library_asciiDigits Sample.storedMethod

example : dumps (sanitizeMetadata Sample.library Sample.storedMethod) =
    "\x7b\"attempts\": [\x7b\"Api_Key\": \"[REDACTED]\", \"status\": \"failed\"\x7d], " ++
      "\"notes\": [\"[REDACTED_PAN]\", 2]\x7d" := by
  decide +kernel

end RevenueRescue
