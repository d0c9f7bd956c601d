import Mathlib.Data.Rat.Defs
import Mathlib.Tactic.FieldSimp
import Mathlib.Tactic.Linarith

/-!
# Decimal numerals

The number that a text of decimal digits says, with a point and a sign if it has them, and the text
of a number with a fixed number of places, which says the number it was written for.
-/

namespace Numeral

/-- The number that digits with at most one point among them say. -/
def ofDigits (digits : List Char) : Option ℚ :=
  let whole := digits.takeWhile (· != '.')
  let fraction := (digits.dropWhile (· != '.')).drop 1
  if whole ++ fraction ≠ [] ∧ (whole ++ fraction).all Char.isDigit then
    some ((Nat.ofDigitChars 10 (whole ++ fraction) 0 : ℚ) / 10 ^ fraction.length)
  else none

/-- The number that a text says; `none` for a text that is no numeral. -/
def ofText (text : String) : Option ℚ :=
  match text.toList with
  | '-' :: digits => (ofDigits digits).map fun x => -x
  | '+' :: digits => ofDigits digits
  | digits => ofDigits digits

/-- The digits of `n` units of the last of so many places. -/
def fixedDigits (places n : ℕ) : List Char :=
  Nat.toDigits 10 (n / 10 ^ places) ++ '.' ::
    (List.replicate (places - (Nat.toDigits 10 (n % 10 ^ places)).length) '0' ++
      Nat.toDigits 10 (n % 10 ^ places))

theorem isDigit_of_mem_toDigits {c : Char} {n : ℕ} (h : c ∈ Nat.toDigits 10 n) :
    c.isDigit = true :=
  Nat.isDigit_of_mem_toDigits (by decide) (by decide) h

/-- Digits around a point. -/
theorem ofDigits_append {whole fraction : List Char} (hne : whole ≠ [])
    (hdigits : ∀ c ∈ whole ++ fraction, c.isDigit = true) :
    ofDigits (whole ++ '.' :: fraction) =
      some ((Nat.ofDigitChars 10 (whole ++ fraction) 0 : ℚ) / 10 ^ fraction.length) := by
  have hpoint : ∀ c ∈ whole, (c != '.') = true := by
    intro c hc
    have hdigit := hdigits c (List.mem_append_left _ hc)
    rw [bne_iff_ne]
    rintro rfl
    exact absurd hdigit (by decide)
  have htake : (whole ++ '.' :: fraction).takeWhile (· != '.') = whole := by
    rw [List.takeWhile_append_of_pos hpoint, List.takeWhile_cons_of_neg (by decide),
      List.append_nil]
  have hdrop : (whole ++ '.' :: fraction).dropWhile (· != '.') = '.' :: fraction := by
    rw [List.dropWhile_append_of_pos hpoint, List.dropWhile_cons_of_neg (by decide)]
  unfold ofDigits
  dsimp only
  rw [htake, hdrop, List.drop_one, List.tail_cons,
    if_pos ⟨by simp [hne], List.all_eq_true.mpr hdigits⟩]

/-- A number written with a fixed number of places is read back. -/
theorem ofDigits_fixedDigits {places : ℕ} (hplaces : 0 < places) (n : ℕ) :
    ofDigits (fixedDigits places n) = some ((n : ℚ) / 10 ^ places) := by
  have hpos : 0 < 10 ^ places := Nat.pow_pos (by decide)
  have hlength : (Nat.toDigits 10 (n % 10 ^ places)).length ≤ places :=
    (Nat.length_toDigits_le_iff (by decide) hplaces).mpr (Nat.mod_lt _ hpos)
  unfold fixedDigits
  rw [ofDigits_append Nat.toDigits_ne_nil]
  · rw [Nat.ofDigitChars_append, Nat.ofDigitChars_append, Nat.ofDigitChars_ten_toDigits,
      Nat.ofDigitChars_replicate_zero, Nat.ofDigitChars_eq_ofDigitChars_zero,
      Nat.ofDigitChars_ten_toDigits, List.length_append, List.length_replicate,
      Nat.sub_add_cancel hlength, ← mul_assoc, ← pow_add, Nat.add_sub_cancel' hlength,
      Nat.div_add_mod]
  · intro c hc
    simp only [List.mem_append, List.mem_replicate] at hc
    rcases hc with hc | ⟨-, rfl⟩ | hc
    · exact isDigit_of_mem_toDigits hc
    · decide
    · exact isDigit_of_mem_toDigits hc

theorem fixedDigits_cons (places n : ℕ) :
    ∃ c rest, fixedDigits places n = c :: rest ∧ c.isDigit = true := by
  unfold fixedDigits
  rcases hwhole : Nat.toDigits 10 (n / 10 ^ places) with _ | ⟨c, rest⟩
  · exact absurd hwhole Nat.toDigits_ne_nil
  · exact ⟨c, _, rfl, isDigit_of_mem_toDigits (hwhole ▸ List.mem_cons_self)⟩

/-- The text of such a number with its sign is read back. -/
theorem ofText_fixedDigits {text : String} {places n : ℕ} (hplaces : 0 < places) {negative : Bool}
    (h : text.toList = (if negative then ['-'] else []) ++ fixedDigits places n) :
    ofText text = some ((if negative then -(n : ℚ) else n) / 10 ^ places) := by
  unfold ofText
  rw [h]
  cases negative with
  | true =>
    rw [if_pos rfl, List.singleton_append, if_pos rfl]
    change (ofDigits (fixedDigits places n)).map (fun x => -x) = _
    rw [ofDigits_fixedDigits hplaces, Option.map_some, neg_div]
  | false =>
    obtain ⟨c, rest, hcons, hdigit⟩ := fixedDigits_cons places n
    rw [if_neg Bool.false_ne_true, List.nil_append, if_neg Bool.false_ne_true,
      ← ofDigits_fixedDigits hplaces n, hcons]
    split
    · next heq =>
      cases heq
      exact absurd hdigit (by decide)
    · next heq =>
      cases heq
      exact absurd hdigit (by decide)
    · rfl

end Numeral
