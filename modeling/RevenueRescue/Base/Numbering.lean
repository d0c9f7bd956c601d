import Mathlib.Data.List.Basic
import Mathlib.Data.List.Range
import Mathlib.Data.List.Sort

/-!
# Numbering the entries of a log

The next entry of a log gets one more than the highest number in use. A log is dense
when its entries carry `1, 2, …` in the order in which they were written; numbering by
`next` keeps it dense and never meets a number that is taken.

A log of moves from one state to another can be replayed: each move starts in the state in
which the one before it ended.
-/

namespace Numbering

/-- One more than the highest number in use, and `1` when there is none. -/
def next (numbers : List ℕ) : ℕ := numbers.foldr max 0 + 1

/-- The numbers are `1, 2, …` in the order of the log. -/
def Dense (numbers : List ℕ) : Prop := numbers = List.range' 1 numbers.length

instance (numbers : List ℕ) : Decidable (Dense numbers) :=
  inferInstanceAs (Decidable (numbers = List.range' 1 numbers.length))

theorem lt_next {numbers : List ℕ} {n : ℕ} (h : n ∈ numbers) : n < next numbers := by
  induction numbers with
  | nil => simp at h
  | cons m rest ih =>
    rcases List.mem_cons.mp h with rfl | hrest
    · simp only [next, List.foldr_cons]
      omega
    · have := ih hrest
      simp only [next, List.foldr_cons] at this ⊢
      omega

/-- The next number is free. -/
theorem next_not_mem (numbers : List ℕ) : next numbers ∉ numbers :=
  fun h => Nat.lt_irrefl _ (lt_next h)

theorem dense_nil : Dense [] := rfl

private theorem foldr_max_append (numbers : List ℕ) (n : ℕ) :
    (numbers ++ [n]).foldr max 0 = max (numbers.foldr max 0) n := by
  induction numbers with
  | nil => simp
  | cons m rest ih => simp [ih, Nat.max_assoc]

private theorem foldr_max_range' (n : ℕ) : (List.range' 1 n).foldr max 0 = n := by
  induction n with
  | zero => rfl
  | succ n ih =>
    rw [List.range'_concat, foldr_max_append, ih]
    omega

/-- In a dense log the next number is one more than the number of entries. -/
theorem Dense.next_eq {numbers : List ℕ} (h : Dense numbers) :
    next numbers = numbers.length + 1 := by
  unfold next
  rw [h, foldr_max_range', List.length_range']

/-- Writing one more entry under its position keeps the log dense. -/
theorem Dense.append_length {numbers : List ℕ} (h : Dense numbers) :
    Dense (numbers ++ [numbers.length + 1]) := by
  unfold Dense
  rw [List.length_append, List.length_singleton, List.range'_concat, ← h]
  simp [Nat.add_comm]

/-- Writing one more entry under the next number keeps the log dense. -/
theorem Dense.append_next {numbers : List ℕ} (h : Dense numbers) :
    Dense (numbers ++ [next numbers]) := by
  rw [h.next_eq]
  exact h.append_length

/-- Writing several entries from the next number on keeps the log dense. -/
theorem Dense.append_range {numbers : List ℕ} (h : Dense numbers) (n : ℕ) :
    Dense (numbers ++ List.range' (next numbers) n) := by
  have hlength := h.next_eq
  unfold Dense at h ⊢
  rw [hlength, List.length_append, List.length_range', Nat.add_comm numbers.length 1]
  rw [← List.range'_append_1, ← h]

section Sorting

variable {A : Type} {number : A → ℕ} {rows : List A}

theorem Dense.pairwise (h : Dense (rows.map number)) :
    rows.Pairwise fun a b => number a < number b := by
  rw [← List.pairwise_map, h]
  exact List.pairwise_lt_range'

/-- Rows that were numbered in order are in order. -/
theorem Dense.insertionSort_ascending (h : Dense (rows.map number)) :
    rows.insertionSort (fun a b => number a ≤ number b) = rows :=
  (h.pairwise.imp Nat.le_of_lt).insertionSort_eq

theorem Dense.insertionSort_descending (h : Dense (rows.map number)) :
    rows.insertionSort (fun a b => number b ≤ number a) = rows.reverse := by
  have hordered := h.pairwise
  clear h
  induction rows with
  | nil => rfl
  | cons first rest ih =>
    obtain ⟨hfirst, hrest⟩ := List.pairwise_cons.mp hordered
    have hbehind : ∀ later : List A, (∀ b ∈ later, number first < number b) →
        later.orderedInsert (fun a b => number b ≤ number a) first = later ++ [first] := by
      intro later hlater
      induction later with
      | nil => rfl
      | cons b later ih =>
        rw [List.orderedInsert_cons, if_neg (Nat.not_le.mpr (hlater b List.mem_cons_self)),
          ih fun c hc => hlater c (List.mem_cons_of_mem _ hc), List.cons_append]
    rw [List.insertionSort_cons, ih hrest, List.reverse_cons,
      hbehind _ fun b hb => hfirst b (List.mem_reverse.mp hb)]

end Sorting

/-- After one more number the next one is above it and above all others. -/
theorem next_append (numbers : List ℕ) (n : ℕ) :
    next (numbers ++ [n]) = max (next numbers) (n + 1) := by
  unfold next
  rw [foldr_max_append]
  omega

/-- Numbering by `next` goes up by one. -/
theorem next_append_next (numbers : List ℕ) :
    next (numbers ++ [next numbers]) = next numbers + 1 := by
  have hlast := foldr_max_append numbers (next numbers)
  have hnext : next numbers = numbers.foldr max 0 + 1 := rfl
  unfold next at hlast ⊢
  omega

end Numbering

namespace Replay

variable {S : Type} [DecidableEq S]

/-- Follow the moves from a state on; `none` when one of them starts somewhere else. -/
def replay : S → List (S × S) → Option S
  | a, [] => some a
  | a, (source, target) :: rest => if source = a then replay target rest else none

@[simp] theorem replay_nil (a : S) : replay a [] = some a := rfl

/-- Replaying two logs in a row. -/
theorem replay_append (a : S) (moves later : List (S × S)) :
    replay a (moves ++ later) = (replay a moves).bind fun b => replay b later := by
  induction moves generalizing a with
  | nil => rfl
  | cons move rest ih =>
    obtain ⟨source, target⟩ := move
    rw [List.cons_append, replay, replay]
    by_cases h : source = a
    · rw [if_pos h, if_pos h, ih]
    · rw [if_neg h, if_neg h, Option.bind_none]

end Replay
