import Mathlib.Data.List.Nodup
import Mathlib.Order.Lattice

/-!
# Pages of sorted rows

A query with an order, a limit and an offset returns a page of its rows. The order is given by a
key, and rows with the same key may come in any order, in another one for each page that is asked
for. The pages together are the rows exactly when no tie lies across the border of two pages.

The first rank of a row counts the rows with a smaller key, and its last rank those with a key that
is no greater. Any arrangement has a row between its ranks.
-/

namespace Pagination

variable {α K : Type}

/-- The page at an index that starts at zero. -/
def page (size i : ℕ) (l : List α) : List α := (l.drop (i * size)).take size

/-- The number of pages, `ceil(total / size)`. -/
def pageCount (size total : ℕ) : ℕ := (total + (size - 1)) / size

/-- A position that some page shows. -/
theorem div_lt_pageCount {size total j : ℕ} (hsize : 0 < size) (hj : j < total) :
    j / size < pageCount size total := by
  unfold pageCount
  rw [Nat.div_lt_iff_lt_mul hsize]
  have hround := Nat.lt_mul_div_succ (total + (size - 1)) hsize
  rw [Nat.mul_add, Nat.mul_one, Nat.mul_comm] at hround
  omega

/-- A page has the rows at its positions. -/
theorem mem_page {size i j : ℕ} (hsize : 0 < size) {l : List α} {a : α} (ha : l[j]? = some a)
    (hi : j / size = i) : a ∈ page size i l := by
  obtain ⟨hlow, hhigh⟩ := (Nat.div_eq_iff hsize).mp hi
  unfold page
  rw [List.mem_iff_getElem?]
  use j - i * size
  rw [List.getElem?_take_of_lt (by omega), List.getElem?_drop, Nat.add_sub_cancel' hlow, ha]

/-- The rows of a page are rows of the list. -/
theorem mem_of_mem_page {size i : ℕ} {l : List α} {a : α} (ha : a ∈ page size i l) : a ∈ l :=
  List.mem_of_mem_drop (List.mem_of_mem_take ha)

/-- A condition that holds at the positions of a page selects the page. -/
theorem page_eq_filter {size i : ℕ} (hsize : 0 < size) {l : List α} {p : α → Bool}
    (h : ∀ j (hj : j < l.length), p l[j] = true ↔ j / size = i) : page size i l = l.filter p := by
  have hbefore : (l.take (i * size)).filter p = [] := by
    rw [List.filter_eq_nil_iff]
    intro a ha hp
    obtain ⟨j, hj, rfl⟩ := List.mem_iff_getElem.mp ha
    rw [List.length_take] at hj
    rw [List.getElem_take, h j (by omega), Nat.div_eq_iff hsize] at hp
    omega
  have hat : (page size i l).filter p = page size i l := by
    rw [List.filter_eq_self]
    intro a ha
    obtain ⟨j, hj, rfl⟩ := List.mem_iff_getElem.mp ha
    unfold page at hj ⊢
    rw [List.length_take, List.length_drop] at hj
    rw [List.getElem_take, List.getElem_drop, h _ (by omega), Nat.div_eq_iff hsize]
    omega
  have hafter : ((l.drop (i * size)).drop size).filter p = [] := by
    rw [List.filter_eq_nil_iff]
    intro a ha hp
    obtain ⟨j, hj, rfl⟩ := List.mem_iff_getElem.mp ha
    rw [List.length_drop, List.length_drop] at hj
    rw [List.getElem_drop, List.getElem_drop, h _ (by omega), Nat.div_eq_iff hsize] at hp
    omega
  have hsplit : l = l.take (i * size) ++ (page size i l ++ (l.drop (i * size)).drop size) := by
    unfold page
    rw [List.take_append_drop, List.take_append_drop]
  conv_rhs => rw [hsplit]
  rw [List.filter_append, List.filter_append, hbefore, hat, hafter, List.nil_append,
    List.append_nil]

/-- A condition that holds of a front part of a list holds of as many elements as satisfy it. -/
theorem lt_countP_iff {p : α → Bool} {l : List α}
    (h : l.Pairwise fun a b => p b = true → p a = true) {j : ℕ} (hj : j < l.length) :
    j < l.countP p ↔ p l[j] = true := by
  induction l generalizing j with
  | nil => exact absurd hj (Nat.not_lt_zero j)
  | cons a l ih =>
    obtain ⟨hfirst, hrest⟩ := List.pairwise_cons.mp h
    by_cases ha : p a = true
    · rw [List.countP_cons_of_pos ha]
      cases j with
      | zero => exact iff_of_true (Nat.succ_pos _) ha
      | succ j =>
        rw [Nat.succ_lt_succ_iff, List.getElem_cons_succ]
        exact ih hrest (Nat.lt_of_succ_lt_succ hj)
    · have hnone : ∀ b ∈ a :: l, ¬p b = true :=
        List.forall_mem_cons.mpr ⟨ha, fun b hb hp => ha (hfirst b hb hp)⟩
      rw [List.countP_eq_zero.mpr hnone]
      exact iff_of_false (Nat.not_lt_zero j) (hnone _ (List.getElem_mem hj))

variable [LinearOrder K] (key : α → K)

/-- An arrangement of rows in the order of their keys. -/
structure Arranged (rows l : List α) : Prop where
  perm : l.Perm rows
  sorted : l.Pairwise fun a b => key a ≤ key b

/-- The first rank of a row. -/
def below (rows : List α) (a : α) : ℕ := rows.countP fun b => decide (key b < key a)

/-- The number of rows up to the last rank of a row. -/
def upto (rows : List α) (a : α) : ℕ := rows.countP fun b => decide (key b ≤ key a)

/-- The rows that tie with a row are on its page. -/
def TiesFit (size : ℕ) (rows : List α) : Prop :=
  ∀ a ∈ rows, below key rows a / size = (upto key rows a - 1) / size

instance (size : ℕ) (rows : List α) : Decidable (TiesFit key size rows) :=
  inferInstanceAs (Decidable (∀ a ∈ rows, _))

/-- However each page is arranged, the pages together are the rows. -/
def Complete (size : ℕ) (rows : List α) : Prop :=
  ∀ arrangement : ℕ → List α, (∀ i, Arranged key rows (arrangement i)) →
    ((List.range (pageCount size rows.length)).flatMap fun i =>
      page size i (arrangement i)).Perm rows

/-- There is an arrangement. -/
theorem exists_arranged (rows : List α) : ∃ l, Arranged key rows l := by
  refine ⟨rows.mergeSort fun a b => decide (key a ≤ key b), List.mergeSort_perm _ _, ?_⟩
  have hsorted : (rows.mergeSort fun a b => decide (key a ≤ key b)).Pairwise
      fun a b => decide (key a ≤ key b) = true := by
    apply List.pairwise_mergeSort
    · intro a b c hab hbc
      exact decide_eq_true (le_trans (of_decide_eq_true hab) (of_decide_eq_true hbc))
    · intro a b
      simpa using le_total (key a) (key b)
  exact hsorted.imp of_decide_eq_true

variable {key} {rows l : List α}

theorem Arranged.length (h : Arranged key rows l) : l.length = rows.length := h.perm.length_eq

/-- The position of a row is between its ranks, and so is that of every row that ties with it. -/
theorem Arranged.key_getElem_eq_iff (h : Arranged key rows l) {j : ℕ} (hj : j < l.length) (a : α) :
    key l[j] = key a ↔ below key rows a ≤ j ∧ j < upto key rows a := by
  have hbelow := lt_countP_iff (p := fun b => decide (key b < key a))
    (h.sorted.imp fun hle hlt => decide_eq_true (lt_of_le_of_lt hle (of_decide_eq_true hlt))) hj
  have hupto := lt_countP_iff (p := fun b => decide (key b ≤ key a))
    (h.sorted.imp fun hle hother => decide_eq_true (le_trans hle (of_decide_eq_true hother))) hj
  rw [h.perm.countP_eq, decide_eq_true_eq] at hbelow hupto
  unfold below upto
  rw [← Nat.not_lt, hbelow, hupto]
  constructor
  · intro heq
    rw [heq]
    exact ⟨lt_irrefl _, le_refl _⟩
  · rintro ⟨hnot, hle⟩
    exact le_antisymm hle (not_lt.mp hnot)

/-- Two rows side by side with the same key may change places. -/
theorem Arranged.swap {A B : List α} {x y : α} (h : Arranged key rows (A ++ x :: y :: B))
    (htie : key x = key y) : Arranged key rows (A ++ y :: x :: B) where
  perm := ((List.Perm.swap x y B).append_left A).trans h.perm
  sorted := by
    have hsorted := h.sorted
    simp only [List.pairwise_append, List.pairwise_cons, List.mem_cons, forall_eq_or_imp, htie]
      at hsorted ⊢
    grind

/-- Pages that select the rows by a number below the number of pages are together the rows. -/
theorem pages_perm {n : ℕ} {f : α → ℕ} {L : ℕ → List α} (hnodup : rows.Nodup)
    (hpage : ∀ i, (L i).Perm (rows.filter fun a => f a = i)) (hlt : ∀ a ∈ rows, f a < n) :
    ((List.range n).flatMap L).Perm rows := by
  have hmem (i : ℕ) (a : α) : a ∈ L i ↔ a ∈ rows ∧ f a = i := by
    rw [(hpage i).mem_iff, List.mem_filter, decide_eq_true_eq]
  have hpages : ((List.range n).flatMap L).Nodup := by
    rw [List.nodup_flatMap]
    refine ⟨fun i _ => (hpage i).nodup_iff.mpr (hnodup.filter _), ?_⟩
    refine List.nodup_range.imp fun hne a hi hj => hne ?_
    rw [← ((hmem _ a).mp hi).2, ← ((hmem _ a).mp hj).2]
  rw [List.perm_ext_iff_of_nodup hpages hnodup]
  intro a
  rw [List.mem_flatMap]
  constructor
  · rintro ⟨i, -, ha⟩
    exact ((hmem i a).mp ha).1
  · intro ha
    exact ⟨f a, List.mem_range.mpr (hlt a ha), (hmem _ a).mpr ⟨ha, rfl⟩⟩

/-- The ranks of a row enclose a position. -/
theorem below_lt_upto {a : α} (ha : a ∈ rows) : below key rows a < upto key rows a := by
  obtain ⟨l, hl⟩ := exists_arranged key rows
  obtain ⟨j, hj, hat⟩ := List.mem_iff_getElem.mp (hl.perm.mem_iff.mpr ha)
  obtain ⟨hlow, hhigh⟩ := (hl.key_getElem_eq_iff hj a).mp (by rw [hat])
  exact Nat.lt_of_le_of_lt hlow hhigh

theorem upto_le_length (a : α) : upto key rows a ≤ rows.length := List.countP_le_length

/-- Where the ties fit, the pages of any arrangement hold the same rows. -/
theorem TiesFit.page_perm {size : ℕ} (hsize : 0 < size) (h : TiesFit key size rows)
    (hl : Arranged key rows l) (i : ℕ) :
    (page size i l).Perm (rows.filter fun a => below key rows a / size = i) := by
  have hpage : page size i l = l.filter fun a => below key rows a / size = i := by
    apply page_eq_filter hsize
    intro j hj
    have hrow : l[j] ∈ rows := hl.perm.mem_iff.mp (List.getElem_mem hj)
    obtain ⟨hlow, hhigh⟩ := (hl.key_getElem_eq_iff hj l[j]).mp rfl
    have hsame : below key rows l[j] / size = j / size := by
      apply Nat.le_antisymm (Nat.div_le_div_right hlow)
      rw [h l[j] hrow]
      exact Nat.div_le_div_right (Nat.le_sub_one_of_lt hhigh)
    rw [decide_eq_true_eq, hsame]
  rw [hpage]
  exact hl.perm.filter _

/-- Two arrangements that put one row on different pages. -/
theorem exists_split {size : ℕ} (hsize : 0 < size) {a : α} (ha : a ∈ rows)
    (hborder : below key rows a / size ≠ (upto key rows a - 1) / size) :
    ∃ (l l' : List α) (x : α) (p : ℕ), Arranged key rows l ∧ Arranged key rows l' ∧
      p + 1 < pageCount size rows.length ∧ x ∈ page size p l ∧ x ∈ page size (p + 1) l' := by
  obtain ⟨l, hl⟩ := exists_arranged key rows
  have hlt : below key rows a < upto key rows a := below_lt_upto ha
  have hend : upto key rows a ≤ rows.length := upto_le_length a
  have hpages := Nat.lt_of_le_of_ne
    (Nat.div_le_div_right (c := size) (Nat.le_sub_one_of_lt hlt)) hborder
  obtain ⟨p, hp⟩ : ∃ p, below key rows a / size = p := ⟨_, rfl⟩
  rw [hp, Nat.lt_iff_add_one_le, Nat.le_div_iff_mul_le hsize] at hpages
  have hfirst := (Nat.div_eq_iff hsize).mp hp
  -- the border between the pages `p` and `p + 1` is in front of position `m + 1`
  obtain ⟨m, hm⟩ : ∃ m, (p + 1) * size = m + 1 :=
    Nat.exists_eq_succ_of_ne_zero (Nat.mul_ne_zero (Nat.succ_ne_zero p) (by omega))
  rw [Nat.add_mul, Nat.one_mul] at hm hpages
  have hlength := hl.length
  have hlast : m < l.length := by omega
  have hnext : m + 1 < l.length := by omega
  have hx := (hl.key_getElem_eq_iff hlast a).mpr (by omega)
  have hy := (hl.key_getElem_eq_iff hnext a).mpr (by omega)
  have hsplit : l = l.take m ++ l[m] :: l[m + 1] :: l.drop (m + 2) := by
    rw [← List.drop_eq_getElem_cons, ← List.drop_eq_getElem_cons, List.take_append_drop]
  have htake : (l.take m).length = m := List.length_take_of_le (Nat.le_of_lt hlast)
  have hl' : Arranged key rows (l.take m ++ l[m + 1] :: l[m] :: l.drop (m + 2)) :=
    Arranged.swap (hsplit ▸ hl) (hx.trans hy.symm)
  have hnumber : (m + 1) / size = p + 1 := by
    rw [Nat.div_eq_iff hsize, Nat.add_mul, Nat.one_mul]
    omega
  refine ⟨l, _, l[m], p, hl, hl', ?_,
    mem_page hsize (List.getElem?_eq_getElem hlast) ?_, ?_⟩
  · rw [← hnumber]
    exact div_lt_pageCount hsize (hlength ▸ hnext)
  · rw [Nat.div_eq_iff hsize]
    omega
  · have hat : (l.take m ++ l[m + 1] :: l[m] :: l.drop (m + 2))[m + 1]? = some l[m] := by
      rw [List.getElem?_append_right (by omega), htake, Nat.add_sub_cancel_left]
      rfl
    exact mem_page hsize hat hnumber

/-- The pages are together the rows exactly when the ties fit. -/
theorem complete_iff {size : ℕ} (hnodup : rows.Nodup) (hsize : 0 < size) :
    Complete key size rows ↔ TiesFit key size rows := by
  constructor
  · intro h a ha
    by_contra hborder
    obtain ⟨l, l', x, p, hl, hl', hp, hx, hx'⟩ := exists_split hsize ha hborder
    have hperm := h (fun i => if i = p + 1 then l' else l)
      (fun i => by split <;> assumption)
    have hpages := (List.nodup_flatMap.mp (hperm.nodup_iff.mpr hnodup)).2
    have hdisjoint := List.pairwise_iff_getElem.mp hpages p (p + 1)
      (by rw [List.length_range]; omega) (by rw [List.length_range]; omega) (Nat.lt_succ_self p)
    simp only [List.getElem_range, Function.onFun, if_true, Nat.ne_of_lt (Nat.lt_succ_self p),
      if_false] at hdisjoint
    exact hdisjoint hx hx'
  · intro h arrangement harranged
    apply pages_perm hnodup (fun i => h.page_perm hsize (harranged i) i)
    intro a ha
    exact div_lt_pageCount hsize (Nat.lt_of_lt_of_le (below_lt_upto ha) (upto_le_length a))

end Pagination
