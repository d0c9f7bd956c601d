import Mathlib.Data.List.Basic
import Mathlib.Data.List.Sort
import Mathlib.Order.Defs.Unbundled

/-!
# Append-only tables

A table is the list of its rows in the order of their insertion, and a row's position
is its identity: rows are added at the end or rewritten in place, never removed.

`Evolves R` compares two states of one table. Every old row is still at its position,
up to the row relation `R`; when `R` is a preorder so is the comparison, which carries
what one operation may do to a row over to whole runs.
-/

namespace Table

variable {A B : Type}

/-- Every row of `before` is still at its position in `after`, up to `R`. -/
def Evolves (R : A → A → Prop) (before after : List A) : Prop :=
  ∀ (i : ℕ) (a : A), before[i]? = some a → ∃ b, after[i]? = some b ∧ R a b

theorem Evolves.refl {R : A → A → Prop} [Std.Refl R] (rows : List A) : Evolves R rows rows :=
  fun _ a ha => ⟨a, ha, Std.Refl.refl a⟩

theorem Evolves.trans {R : A → A → Prop} [IsTrans A R] {first second third : List A}
    (h : Evolves R first second) (h' : Evolves R second third) : Evolves R first third := by
  intro i a ha
  obtain ⟨b, hb, hab⟩ := h i a ha
  obtain ⟨c, hc, hbc⟩ := h' i b hb
  exact ⟨c, hc, IsTrans.trans _ _ _ hab hbc⟩

/-- Inserting rows leaves the earlier rows as they were. -/
theorem Evolves.append {R : A → A → Prop} [Std.Refl R] (rows new : List A) :
    Evolves R rows (rows ++ new) := by
  intro i a ha
  refine ⟨a, ?_, Std.Refl.refl a⟩
  rw [List.getElem?_append_left (List.getElem?_eq_some_iff.mp ha).1]
  exact ha

/-- Rewriting one row respects `R` when the rewriting does so on that row. -/
theorem Evolves.modify {R : A → A → Prop} [Std.Refl R] (rows : List A) (i : ℕ) (f : A → A)
    (h : ∀ a, rows[i]? = some a → R a (f a)) : Evolves R rows (rows.modify i f) := by
  intro j a ha
  by_cases hij : i = j
  · subst hij
    exact ⟨f a, by simp [ha], h a ha⟩
  · exact ⟨a, by simp [ha, hij], Std.Refl.refl a⟩

/-- A row that is present stays present. -/
theorem Evolves.getElem? {R : A → A → Prop} {before after : List A} (h : Evolves R before after)
    {i : ℕ} {a : A} (ha : before[i]? = some a) : ∃ b, after[i]? = some b ∧ R a b :=
  h i a ha

/-- No position is lost. -/
theorem Evolves.length_le {R : A → A → Prop} {before after : List A}
    (h : Evolves R before after) : before.length ≤ after.length := by
  by_contra hlt
  have hi : after.length < before.length := Nat.lt_of_not_le hlt
  obtain ⟨b, hb, -⟩ := h after.length _ (List.getElem?_eq_getElem hi)
  simp at hb

/-- Where no row was added, every row was there before. -/
theorem Evolves.row_before {R : A → A → Prop} {before after : List A}
    (h : Evolves R before after) (hlength : after.length = before.length) {i : ℕ} {b : A}
    (hb : after[i]? = some b) : ∃ a, before[i]? = some a ∧ R a b := by
  have hlt : i < before.length := by
    rw [← hlength]
    exact (List.getElem?_eq_some_iff.mp hb).1
  obtain ⟨c, hc, hrel⟩ := h i _ (List.getElem?_eq_getElem hlt)
  obtain rfl : c = b := Option.some.inj (hc.symm.trans hb)
  exact ⟨_, List.getElem?_eq_getElem hlt, hrel⟩

/-- A position of the table keeps its reading when the row found there is unchanged. -/
theorem getElem?_append_of_some {rows : List A} {i : ℕ} {a : A} (h : rows[i]? = some a)
    (new : List A) : (rows ++ new)[i]? = some a := by
  rw [List.getElem?_append_left (List.getElem?_eq_some_iff.mp h).1]
  exact h

/-- A row of the extended table is an old row in its place or the new one at the end. -/
theorem getElem?_append_one {rows : List A} {new a : A} {i : ℕ}
    (h : (rows ++ [new])[i]? = some a) : rows[i]? = some a ∨ i = rows.length ∧ a = new := by
  have hi : i < rows.length + 1 := by simpa using (List.getElem?_eq_some_iff.mp h).1
  by_cases hlt : i < rows.length
  · rw [List.getElem?_append_left hlt] at h
    exact .inl h
  · have hlast : i = rows.length := by omega
    subst hlast
    rw [List.getElem?_concat_length, Option.some.injEq] at h
    exact .inr ⟨rfl, h.symm⟩

/-- Every row of the extended table is an old row or a new one. -/
theorem forall_append_one {P : A → Prop} {rows : List A} {new : A} (h : ∀ a ∈ rows, P a)
    (hnew : P new) : ∀ a ∈ rows ++ [new], P a := by
  intro a ha
  rcases List.mem_append.mp ha with hold | hone
  · exact h a hold
  · exact List.mem_singleton.mp hone ▸ hnew

/-- A row after one of them was rewritten is a row as it was, or the rewritten one. -/
theorem getElem?_modify_some {rows : List A} {i j : ℕ} {f : A → A} {b : A}
    (h : (rows.modify i f)[j]? = some b) :
    ∃ a, rows[j]? = some a ∧ b = if i = j then f a else a := by
  rw [List.getElem?_modify] at h
  rcases hrow : rows[j]? with _ | a
  · simp [hrow] at h
  · refine ⟨a, rfl, ?_⟩
    rw [hrow, Option.map_eq_map, Option.map_some, Option.some.injEq] at h
    split_ifs at h ⊢ <;> exact h.symm

/-- Rewriting one row keeps a property of all rows when it keeps it of that row. -/
theorem forall_modify {P : A → Prop} {rows : List A} {i : ℕ} {f : A → A} (h : ∀ a ∈ rows, P a)
    (hf : ∀ a, rows[i]? = some a → P a → P (f a)) : ∀ a ∈ rows.modify i f, P a := by
  intro b hb
  obtain ⟨j, hj⟩ := List.mem_iff_getElem?.mp hb
  obtain ⟨a, hrow, rfl⟩ := getElem?_modify_some hj
  have ha := h a (List.mem_of_getElem? hrow)
  by_cases hij : i = j
  · subst hij
    rw [if_pos rfl]
    exact hf a hrow ha
  · rw [if_neg hij]
    exact ha

/-- Rewriting a row that is there replaces it. -/
theorem modify_eq_set {rows : List A} {i : ℕ} {a : A} {f : A → A} (h : rows[i]? = some a) :
    rows.modify i f = rows.set i (f a) := by
  apply List.ext_getElem?
  intro j
  rw [List.getElem?_modify, List.getElem?_set]
  by_cases hij : i = j
  · subst hij
    rw [if_pos rfl, if_pos (List.getElem?_eq_some_iff.mp h).1, h]
    simp
  · simp [hij]

/-- The two states of the table have the same rows with a property, in the same places. -/
def SameRows (P : A → Prop) (before after : List A) : Prop :=
  ∀ (i : ℕ) (a : A), P a → (before[i]? = some a ↔ after[i]? = some a)

theorem SameRows.refl (P : A → Prop) (rows : List A) : SameRows P rows rows :=
  fun _ _ _ => Iff.rfl

/-- A new row without the property leaves the rows with it alone. -/
theorem SameRows.append_one {P : A → Prop} (rows : List A) {new : A} (hnew : ¬P new) :
    SameRows P rows (rows ++ [new]) := by
  intro i a ha
  constructor
  · exact fun h => getElem?_append_of_some h [new]
  · intro h
    rcases getElem?_append_one h with hold | ⟨-, rfl⟩
    · exact hold
    · exact absurd ha hnew

/-- Rewriting a row is not noticed when it has the property neither before nor after, or when
nothing of it changes. -/
theorem SameRows.modify {P : A → Prop} (rows : List A) (i : ℕ) {f : A → A}
    (h : ∀ a, rows[i]? = some a → (¬P a ∧ ¬P (f a)) ∨ f a = a) :
    SameRows P rows (rows.modify i f) := by
  intro j a ha
  by_cases hij : i = j
  · subst hij
    rw [List.getElem?_modify_eq]
    rcases hrow : rows[i]? with _ | b
    · simp
    · rcases h b hrow with ⟨hb, hfb⟩ | hsame
      · simp only [Option.map_eq_map, Option.map_some, Option.some.injEq]
        exact ⟨fun hba => absurd (hba ▸ ha) hb, fun hba => absurd (hba ▸ ha) hfb⟩
      · simp [hsame]
  · rw [List.getElem?_modify_ne _ _ hij]

/-- Rewriting that keeps a projection of its row keeps the column of its values. -/
theorem map_modify_row {g : A → B} {f : A → A} {rows : List A} {i : ℕ}
    (h : ∀ a, rows[i]? = some a → g (f a) = g a) : (rows.modify i f).map g = rows.map g := by
  apply List.ext_getElem?
  intro j
  rw [List.getElem?_map, List.getElem?_map, List.getElem?_modify]
  rcases hrow : rows[j]? with _ | a
  · rfl
  · by_cases hij : i = j
    · subst hij
      simp [h a hrow]
    · simp [hij]

/-- Rewriting that keeps a projection of each row keeps the column of its values. -/
theorem map_modify {g : A → B} {f : A → A} (h : ∀ a, g (f a) = g a) (rows : List A) (i : ℕ) :
    (rows.modify i f).map g = rows.map g :=
  map_modify_row fun a _ => h a

/-- Rewriting that keeps a selection of rows and a projection keeps the selected column. -/
theorem filter_map_modify {p : A → Bool} {g : A → B} {f : A → A} (hp : ∀ a, p (f a) = p a)
    (hg : ∀ a, g (f a) = g a) (rows : List A) (i : ℕ) :
    ((rows.modify i f).filter p).map g = (rows.filter p).map g := by
  have h := map_modify (g := fun a => (p a, g a)) (f := f) (by simp [hp, hg]) rows i
  have hcol : ∀ l : List A,
      (l.filter p).map g = ((l.map fun a => (p a, g a)).filter Prod.fst).map Prod.snd := by
    intro l
    simp [List.filter_map, Function.comp_def]
  rw [hcol, hcol, h]

/-- The first row with the property, together with its position. -/
def find? (p : A → Bool) (rows : List A) : Option (ℕ × A) :=
  (rows.findIdx? p).bind fun i => rows[i]?.map fun a => (i, a)

theorem find?_some {p : A → Bool} {rows : List A} {i : ℕ} {a : A}
    (h : find? p rows = some (i, a)) : rows[i]? = some a ∧ p a = true := by
  simp only [find?, Option.bind_eq_some_iff, Option.map_eq_some_iff, Prod.mk.injEq] at h
  obtain ⟨j, hj, b, hb, rfl, rfl⟩ := h
  obtain ⟨hlt, hp, -⟩ := List.findIdx?_eq_some_iff_getElem.mp hj
  rw [List.getElem?_eq_getElem hlt, Option.some.injEq] at hb
  exact ⟨by rw [List.getElem?_eq_getElem hlt, hb], hb ▸ hp⟩

/-- No row before the one that is found has the property. -/
theorem find?_first {p : A → Bool} {rows : List A} {i j : ℕ} {a b : A}
    (h : find? p rows = some (i, a)) (hlt : j < i) (hb : rows[j]? = some b) : ¬p b = true := by
  simp only [find?, Option.bind_eq_some_iff, Option.map_eq_some_iff, Prod.mk.injEq] at h
  obtain ⟨k, hk, -, -, rfl, -⟩ := h
  obtain ⟨_, _, hbefore⟩ := List.findIdx?_eq_some_iff_getElem.mp hk
  obtain ⟨hj, rfl⟩ := List.getElem?_eq_some_iff.mp hb
  exact hbefore j hlt

/-- The search fails only when no row has the property. -/
theorem find?_none {p : A → Bool} {rows : List A} :
    find? p rows = none ↔ ∀ a ∈ rows, p a = false := by
  simp only [find?]
  cases h : rows.findIdx? p with
  | none => simpa using List.findIdx?_eq_none_iff.mp h
  | some j =>
    obtain ⟨hlt, hp, -⟩ := List.findIdx?_eq_some_iff_getElem.mp h
    simp only [Option.bind_some, List.getElem?_eq_getElem hlt, Option.map_some, reduceCtorEq,
      false_iff, not_forall]
    exact ⟨rows[j], List.getElem_mem hlt, by simp [hp]⟩

/-- What the search finds is the first row with the property. -/
theorem find?_eq_some_iff {p : A → Bool} {rows : List A} {i : ℕ} {a : A} :
    find? p rows = some (i, a) ↔ rows[i]? = some a ∧ p a = true ∧
      ∀ (j : ℕ) (b : A), j < i → rows[j]? = some b → ¬p b = true := by
  constructor
  · intro h
    exact ⟨(find?_some h).1, (find?_some h).2, fun j b hlt hb => find?_first h hlt hb⟩
  · rintro ⟨ha, hp, hbefore⟩
    rcases hfind : find? p rows with _ | ⟨j, b⟩
    · have hnone := find?_none.mp hfind a (List.mem_of_getElem? ha)
      rw [hp] at hnone
      cases hnone
    · obtain ⟨hb, hpb⟩ := find?_some hfind
      rcases Nat.lt_trichotomy i j with hlt | rfl | hlt
      · exact absurd hp (find?_first hfind hlt ha)
      · rw [ha, Option.some.injEq] at hb
        rw [hb]
      · exact absurd hpb (hbefore j b hlt hb)

/-- A row that is the first of its kind is found where it was added. -/
theorem find?_append_one {p : A → Bool} {rows : List A} {new : A} (h : find? p rows = none)
    (hnew : p new = true) : find? p (rows ++ [new]) = some (rows.length, new) := by
  rw [find?_eq_some_iff]
  refine ⟨List.getElem?_concat_length, hnew, fun j b hlt hb => ?_⟩
  rw [List.getElem?_append_left hlt] at hb
  rw [find?_none.mp h b (List.mem_of_getElem? hb)]
  exact Bool.false_ne_true

/-- The same search finds the row that evolved, since new rows come after it. -/
theorem Evolves.find? {R : A → A → Prop} {before after : List A} (h : Evolves R before after)
    {p : A → Bool} (hp : ∀ a b, R a b → p b = p a) {i : ℕ} {a : A}
    (hfind : find? p before = some (i, a)) : ∃ b, find? p after = some (i, b) ∧ R a b := by
  obtain ⟨ha, hpa, hbefore⟩ := find?_eq_some_iff.mp hfind
  obtain ⟨b, hb, hab⟩ := h i a ha
  refine ⟨b, find?_eq_some_iff.mpr ⟨hb, (hp a b hab).trans hpa, fun j d hlt hd => ?_⟩, hab⟩
  have hj : j < before.length := Nat.lt_trans hlt (List.getElem?_eq_some_iff.mp ha).1
  obtain ⟨c, hc, hcd⟩ := h j _ (List.getElem?_eq_getElem hj)
  obtain rfl := Option.some.inj (hd.symm.trans hc)
  rw [hp _ d hcd]
  exact hbefore j _ hlt (List.getElem?_eq_getElem hj)

theorem find?_none_any {p : A → Bool} {rows : List A} (h : find? p rows = none) :
    rows.any p = false := by
  rw [List.any_eq_false]
  intro a ha
  rw [find?_none.mp h a ha]
  exact Bool.false_ne_true

/-- Two different rows are two rows. -/
theorem one_lt_length {rows : List A} {a b : A} (ha : a ∈ rows) (hb : b ∈ rows) (hne : a ≠ b) :
    1 < rows.length := by
  match rows with
  | [] => cases ha
  | [only] =>
    rw [List.mem_singleton] at ha hb
    exact absurd (ha.trans hb.symm) hne
  | _ :: _ :: rest => exact Nat.succ_lt_succ (Nat.succ_pos rest.length)

/-! ## Sorted queries -/

/-- The row with the highest key, and the first one of several. -/
def Latest (key : A → ℤ) (rows : List A) (a : A) : Prop :=
  ∃ before after, rows = before ++ a :: after ∧ (∀ b ∈ before, key b < key a) ∧
    ∀ b ∈ after, key b ≤ key a

theorem latest_cons {key : A → ℤ} {first a : A} {rest : List A} :
    Latest key (first :: rest) a ↔
      (a = first ∧ ∀ b ∈ rest, key b ≤ key first) ∨ (key first < key a ∧ Latest key rest a) := by
  constructor
  · rintro ⟨before, after, hrows, hbefore, hafter⟩
    cases before with
    | nil =>
      obtain ⟨rfl, rfl⟩ := List.cons.inj hrows
      exact .inl ⟨rfl, hafter⟩
    | cons b before =>
      obtain ⟨rfl, hrest⟩ := List.cons.inj hrows
      exact .inr ⟨hbefore _ List.mem_cons_self, before, after, hrest,
        fun c hc => hbefore c (List.mem_cons_of_mem _ hc), hafter⟩
  · rintro (⟨rfl, hrest⟩ | ⟨hfirst, before, after, rfl, hbefore, hafter⟩)
    · exact ⟨[], rest, rfl, fun _ h => absurd h List.not_mem_nil, hrest⟩
    · refine ⟨first :: before, after, rfl, fun b hb => ?_, hafter⟩
      rcases List.mem_cons.mp hb with rfl | hb
      · exact hfirst
      · exact hbefore b hb

theorem Latest.mem {key : A → ℤ} {rows : List A} {a : A} (h : Latest key rows a) : a ∈ rows := by
  obtain ⟨before, after, rfl, -, -⟩ := h
  exact List.mem_append_right before List.mem_cons_self

/-- No row has a higher key. -/
theorem Latest.le {key : A → ℤ} {rows : List A} {a : A} (h : Latest key rows a) :
    ∀ b ∈ rows, key b ≤ key a := by
  obtain ⟨before, after, rfl, hbefore, hafter⟩ := h
  intro b hb
  rcases List.mem_append.mp hb with hb | hb
  · exact Int.le_of_lt (hbefore b hb)
  · rcases List.mem_cons.mp hb with rfl | hb
    · exact Int.le_refl _
    · exact hafter b hb

/-- A key that only looks at part of a row can be looked up by that part. -/
theorem Latest.map {rowKey : A → ℤ} {rows : List A} {a : A} (h : Latest rowKey rows a) (part : A → B)
    (key : B → ℤ) (hkey : ∀ b ∈ rows, rowKey b = key (part b)) :
    Latest key (rows.map part) (part a) := by
  have ha := hkey a h.mem
  obtain ⟨before, after, rfl, hbefore, hafter⟩ := h
  refine ⟨before.map part, after.map part, List.map_append, fun c hc => ?_, fun c hc => ?_⟩
  · obtain ⟨b, hb, rfl⟩ := List.mem_map.mp hc
    rw [← hkey b (List.mem_append_left _ hb), ← ha]
    exact hbefore b hb
  · obtain ⟨b, hb, rfl⟩ := List.mem_map.mp hc
    rw [← hkey b (List.mem_append_right _ (List.mem_cons_of_mem _ hb)), ← ha]
    exact hafter b hb

/-- A row that some later row beats is not the latest. -/
theorem Latest.tail {key : A → ℤ} {first a : A} {rest : List A}
    (h : Latest key (first :: rest) a) (b : A) (hb : b ∈ rest) (hlt : key first < key b) :
    Latest key rest a := by
  rcases latest_cons.mp h with ⟨-, hle⟩ | ⟨-, hrest⟩
  · exact absurd (hle b hb) (Int.not_le.mpr hlt)
  · exact hrest

/-- A stable sort that puts high keys first starts with the latest row. -/
theorem head?_insertionSort {key : A → ℤ} {rows : List A} {a : A} :
    (rows.insertionSort fun a b => key b ≤ key a).head? = some a ↔ Latest key rows a := by
  induction rows generalizing a with
  | nil =>
    constructor
    · intro h
      cases h
    · intro h
      cases h.mem
  | cons first rest ih =>
    rw [latest_cons, List.insertionSort_cons]
    rcases hsort : rest.insertionSort (fun a b => key b ≤ key a) with _ | ⟨top, others⟩
    · have hnil : rest = [] := by
        rw [← List.length_eq_zero_iff, ← List.length_insertionSort (fun a b => key b ≤ key a), hsort]
        rfl
      subst hnil
      rw [List.orderedInsert_nil, List.head?_cons, Option.some.injEq]
      refine ⟨fun h => .inl ⟨h.symm, fun b hb => absurd hb List.not_mem_nil⟩, ?_⟩
      rintro (⟨h, -⟩ | ⟨-, h⟩)
      · exact h.symm
      · cases h.mem
    · have htop : ∀ b, some top = some b ↔ Latest key rest b := fun b => by
        rw [← ih, hsort, List.head?_cons]
      have hlatest : Latest key rest top := (htop top).mp rfl
      by_cases hle : key top ≤ key first
      · rw [List.orderedInsert_cons, if_pos hle, List.head?_cons, Option.some.injEq]
        refine ⟨fun h => .inl ⟨h.symm, fun b hb => (hlatest.le b hb).trans hle⟩, ?_⟩
        rintro (⟨h, -⟩ | ⟨hlt, h⟩)
        · exact h.symm
        · rw [← Option.some.inj ((htop a).mpr h)] at hlt
          exact absurd hle (Int.not_le.mpr hlt)
      · rw [List.orderedInsert_cons, if_neg hle, List.head?_cons, htop]
        refine ⟨fun h => .inr ⟨?_, h⟩, ?_⟩
        · rw [← Option.some.inj ((htop a).mpr h)]
          exact Int.not_le.mp hle
        · rintro (⟨-, hfirst⟩ | ⟨-, h⟩)
          · exact absurd (hfirst top hlatest.mem) hle
          · exact h

/-- Leaving out other rows keeps the latest one. -/
theorem Latest.filter {key : A → ℤ} {rows : List A} {a : A} (h : Latest key rows a) {p : A → Bool}
    (ha : p a = true) : Latest key (rows.filter p) a := by
  obtain ⟨before, after, rfl, hbefore, hafter⟩ := h
  refine ⟨before.filter p, after.filter p, ?_, fun b hb => ?_, fun b hb => ?_⟩
  · rw [List.filter_append, List.filter_cons_of_pos ha]
  · exact hbefore b (List.mem_of_mem_filter hb)
  · exact hafter b (List.mem_of_mem_filter hb)

/-- A row with a lower key than another is not the latest. -/
theorem Latest.ne {key : A → ℤ} {rows : List A} {a b c : A} (h : Latest key rows a) (hc : c ∈ rows)
    (hlt : key b < key c) : a ≠ b := by
  rintro rfl
  exact absurd (h.le c hc) (Int.not_le.mpr hlt)

section Filter

variable {r : A → A → Prop} [DecidableRel r] [IsTrans A r] {p : A → Bool}

private theorem filter_orderedInsert (a : A) {rows : List A} (h : rows.Pairwise r) :
    (rows.orderedInsert r a).filter p =
      if p a then (rows.filter p).orderedInsert r a else rows.filter p := by
  induction rows with
  | nil => cases ha : p a <;> simp [ha]
  | cons first rest ih =>
    obtain ⟨hfirst, hrest⟩ := List.pairwise_cons.mp h
    rw [List.orderedInsert_cons]
    by_cases hle : r a first
    · rw [if_pos hle, List.filter_cons]
      cases ha : p a with
      | false => rfl
      | true =>
        -- whatever is left stands behind the new row
        rcases hfiltered : (first :: rest).filter p with _ | ⟨top, others⟩
        · rfl
        · have htop : top ∈ first :: rest :=
            List.mem_of_mem_filter (hfiltered ▸ List.mem_cons_self)
          have hbehind : r a top := by
            rcases List.mem_cons.mp htop with rfl | hin
            · exact hle
            · exact IsTrans.trans _ _ _ hle (hfirst top hin)
          simp only [if_true]
          rw [List.orderedInsert_cons, if_pos hbehind]
    · rw [if_neg hle, List.filter_cons, ih hrest]
      cases hp : p first with
      | false =>
        rw [List.filter_cons_of_neg (by rw [hp]; exact Bool.false_ne_true)]
        rfl
      | true =>
        rw [List.filter_cons_of_pos hp]
        cases ha : p a with
        | false => rfl
        | true =>
          simp only [if_true]
          rw [List.orderedInsert_cons, if_neg hle]

/-- What is left of a sorted list is the sorted list of what is left. -/
theorem filter_insertionSort [Std.Total r] (rows : List A) :
    (rows.insertionSort r).filter p = (rows.filter p).insertionSort r := by
  induction rows with
  | nil => rfl
  | cons first rest ih =>
    rw [List.insertionSort_cons, filter_orderedInsert first (List.pairwise_insertionSort r rest), ih,
      List.filter_cons]
    cases p first <;> rfl

end Filter

end Table
