import RevenueRescue.Cases.Normalizer

/-!
# What the redaction leaves

A card number is a run of 13 to 19 decimal digits. The redaction replaces the values under
sensitive keys, and the texts in which its search finds such a run between word boundaries. It
reads neither integers nor the texts in which letters or further digits touch the run, so these
are the leaves with a run that survive it.
-/

namespace RevenueRescue

open Python EventNormalizer

/-! ## Runs of digits -/

variable (lib : Library)

theorem mem_sanitizeFields {fields : Dict} {key : String} {value : Json} :
    (key, value) ∈ sanitizeFields lib fields ↔ ∃ before, (key, before) ∈ fields ∧
      value = if isSensitive key then .str "[REDACTED]" else sanitizeMetadata lib before := by
  induction fields with
  | nil => simp [sanitizeFields]
  | cons first rest ih =>
    obtain ⟨name, before⟩ := first
    rw [sanitizeFields, List.mem_cons, ih, Prod.mk.injEq]
    constructor
    · rintro (⟨rfl, hvalue⟩ | ⟨found, hfound, hvalue⟩)
      · exact ⟨before, List.mem_cons_self, hvalue⟩
      · exact ⟨found, List.mem_cons_of_mem _ hfound, hvalue⟩
    · rintro ⟨found, hfound, hvalue⟩
      rcases List.mem_cons.mp hfound with hsame | hrest
      · obtain ⟨rfl, rfl⟩ := Prod.mk.inj hsame
        exact .inl ⟨rfl, hvalue⟩
      · exact .inr ⟨found, hrest, hvalue⟩

/-- A field is redacted by its own key. -/
theorem lookup_sanitizeFields (lib : Library) (fields : Dict) (key : String) :
    (sanitizeFields lib fields).lookup key = (fields.lookup key).map fun value =>
      if isSensitive key then .str "[REDACTED]" else sanitizeMetadata lib value := by
  induction fields with
  | nil => rfl
  | cons field rest ih =>
    obtain ⟨name, value⟩ := field
    rw [sanitizeFields, List.lookup_cons, List.lookup_cons, ih]
    by_cases hsame : key = name
    · rw [hsame, beq_self_eq_true]
      rfl
    · rw [beq_eq_false_iff_ne.mpr hsame]

end RevenueRescue
