import Mathlib.Tactic.FieldSimp
import Mathlib.Tactic.Linarith
import Mathlib.Tactic.Ring
import RevenueRescue.Base.Text

/-!
# The text of a JSON value

`dumps` with sorted keys is canonical: two values have the same text exactly when they are equal
up to the order of the keys in their objects. So whoever compares digests of such texts compares
values, as far as the digest tells texts apart.

The proof is that no text of a value begins the text of another one, as long as what follows is a
comma, a closing bracket or the end. For that the keys are sorted first, which leaves a text that
follows the structure of the value.
-/

namespace Python

/-! ## Scalars -/

theorem toString_int (n : ℤ) : (toString n).toList =
    if 0 ≤ n then Nat.toDigits 10 n.toNat else '-' :: Nat.toDigits 10 (-n).toNat := by
  rw [Int.toString_eq_repr, Int.repr_eq_if]
  split
  · exact Nat.toList_repr
  · rw [String.toList_append, Nat.toList_repr]
    rfl

theorem toDigits_injective {m n : ℕ} (h : Nat.toDigits 10 m = Nat.toDigits 10 n) : m = n := by
  have hm := Nat.ofDigitChars_ten_toDigits (n := m)
  rw [h, Nat.ofDigitChars_ten_toDigits] at hm
  exact hm.symm

/-- Digits, possibly after a minus sign, tell a number. -/
theorem signed_injective {m n : ℕ} {p q : Prop} [Decidable p] [Decidable q]
    (h : (if p then Nat.toDigits 10 m else '-' :: Nat.toDigits 10 m) =
      if q then Nat.toDigits 10 n else '-' :: Nat.toDigits 10 n) : (p ↔ q) ∧ m = n := by
  have hminus (k : ℕ) : '-' ∉ Nat.toDigits 10 k := by
    intro hmem
    have hdigit := Nat.isDigit_of_mem_toDigits (by decide) (by decide) hmem
    exact absurd hdigit (by decide)
  by_cases hp : p <;> by_cases hq : q
  · rw [if_pos hp, if_pos hq] at h
    exact ⟨iff_of_true hp hq, toDigits_injective h⟩
  · rw [if_pos hp, if_neg hq] at h
    exact absurd (h ▸ List.mem_cons_self) (hminus m)
  · rw [if_neg hp, if_pos hq] at h
    exact absurd (h.symm ▸ List.mem_cons_self) (hminus n)
  · rw [if_neg hp, if_neg hq] at h
    exact ⟨iff_of_false hp hq, toDigits_injective (List.cons.inj h).2⟩

theorem toString_int_injective {m n : ℤ} (h : (toString m).toList = (toString n).toList) :
    m = n := by
  have habs (k : ℤ) : (toString k).toList =
      if 0 ≤ k then Nat.toDigits 10 k.natAbs else '-' :: Nat.toDigits 10 k.natAbs := by
    rw [toString_int]
    split
    · rw [show k.toNat = k.natAbs by omega]
    · rw [show (-k).toNat = k.natAbs by omega]
  rw [habs, habs] at h
  obtain ⟨hsign, hvalue⟩ := signed_injective h
  omega

/-- The number below one that digits after the point write. -/
def fractionValue : List Char → ℚ
  | [] => 0
  | c :: rest => (((c.toNat - 48 : ℕ) : ℚ) + fractionValue rest) / 10

/-- A number with a bounded number of decimals is read back. -/
theorem fractionValue_fractionDigits (fuel : ℕ) {x : ℚ} (h0 : 0 ≤ x) (h1 : x < 1)
    (hdecimals : ∃ n : ℤ, x * 10 ^ fuel = n) : fractionValue (fractionDigits fuel x) = x := by
  induction fuel generalizing x with
  | zero =>
    obtain ⟨n, hn⟩ := hdecimals
    rw [pow_zero, mul_one] at hn
    subst hn
    have hlow : 0 ≤ n := by exact_mod_cast h0
    have hhigh : n < 1 := by exact_mod_cast h1
    obtain rfl : n = 0 := by omega
    rfl
  | succ fuel ih =>
    obtain ⟨n, hn⟩ := hdecimals
    have hfloor := Int.floor_le (x * 10)
    have hlt := Int.lt_floor_add_one (x * 10)
    have hlow : 0 ≤ ⌊x * 10⌋ := Int.floor_nonneg.mpr (by linarith)
    have hhigh : ⌊x * 10⌋ < 10 := Int.floor_lt.mpr (by push_cast; linarith)
    have hchar : ((Char.ofNat (48 + ⌊x * 10⌋.toNat)).toNat - 48 : ℕ) = ⌊x * 10⌋.toNat := by
      have hall : ∀ k < 10, (Char.ofNat (48 + k)).toNat - 48 = k := by decide
      exact hall _ (by omega)
    have hcast : ((⌊x * 10⌋.toNat : ℕ) : ℚ) = (⌊x * 10⌋ : ℚ) := by
      exact_mod_cast Int.toNat_of_nonneg hlow
    have hrest : fractionValue (if x * 10 - ⌊x * 10⌋ = 0 then [] else
        fractionDigits fuel (x * 10 - ⌊x * 10⌋)) = x * 10 - ⌊x * 10⌋ := by
      split
      · next hzero =>
        rw [hzero]
        rfl
      · refine ih (by linarith) (by linarith) ⟨n - ⌊x * 10⌋ * 10 ^ fuel, ?_⟩
        push_cast
        rw [← hn]
        ring
    change fractionValue (Char.ofNat (48 + ⌊x * 10⌋.toNat) :: _) = x
    rw [fractionValue, hchar, hcast]
    exact (congrArg (fun value : ℚ => ((⌊x * 10⌋ : ℚ) + value) / 10) hrest).trans (by ring)

/-- The part of a float's text before the point. -/
def floatWhole (x : ℚ) : List Char :=
  if 0 ≤ x then Nat.toDigits 10 ⌊|x|⌋.toNat else '-' :: Nat.toDigits 10 ⌊|x|⌋.toNat

theorem toList_floatStr (x : ℚ) : (floatStr x).toList =
    floatWhole x ++ '.' :: fractionDigits 17 (|x| - ⌊|x|⌋.toNat) := by
  have habs : (if x < 0 then -x else x) = |x| := by
    split
    · next h => exact (abs_of_neg h).symm
    · next h => exact (abs_of_nonneg (not_lt.mp h)).symm
  have hsign : (if x < 0 then "-" else "").toList ++ Nat.toDigits 10 ⌊|x|⌋.toNat =
      floatWhole x := by
    unfold floatWhole
    by_cases h : x < 0
    · rw [if_pos h, if_neg (not_le.mpr h)]
      rfl
    · rw [if_neg h, if_pos (not_lt.mp h)]
      rfl
  have hwhole (n : ℕ) : (toString n).toList = Nat.toDigits 10 n := Nat.toList_repr
  have hfloor : |x|.floor = ⌊|x|⌋ := rfl
  simp only [floatStr, habs, hfloor, String.toList_append, hwhole, String.toList_ofList]
  rw [hsign, List.append_assoc]
  rfl

/-- The numbers whose texts show them exactly. -/
def HasDecimals (x : ℚ) : Prop := ∃ n : ℤ, x * 10 ^ 17 = n

theorem floatStr_injective {x y : ℚ} (hx : HasDecimals x) (hy : HasDecimals y)
    (h : (floatStr x).toList = (floatStr y).toList) : x = y := by
  have hpoint (z : ℚ) : '.' ∉ floatWhole z := by
    have hdigits (n : ℕ) : '.' ∉ Nat.toDigits 10 n := by
      intro hmem
      have hdigit := Nat.isDigit_of_mem_toDigits (by decide) (by decide) hmem
      exact absurd hdigit (by decide)
    unfold floatWhole
    split
    · exact hdigits _
    · rintro (_ | ⟨_, hmem⟩)
      exact hdigits _ hmem
  have hvalue {z : ℚ} (hz : HasDecimals z) :
      fractionValue (fractionDigits 17 (|z| - ⌊|z|⌋.toNat)) = |z| - ⌊|z|⌋.toNat := by
    have hfloor : ((⌊|z|⌋.toNat : ℕ) : ℚ) = (⌊|z|⌋ : ℚ) := by
      exact_mod_cast Int.toNat_of_nonneg (Int.floor_nonneg.mpr (abs_nonneg z))
    have hlow := Int.floor_le |z|
    have hhigh := Int.lt_floor_add_one |z|
    rw [hfloor]
    refine fractionValue_fractionDigits 17 (by linarith) (by linarith) ?_
    obtain ⟨n, hn⟩ := hz
    refine ⟨|n| - ⌊|z|⌋ * 10 ^ 17, ?_⟩
    have hpos : (0 : ℚ) < 10 ^ 17 := by positivity
    have habs : |z| * 10 ^ 17 = |(n : ℚ)| := by rw [← hn, abs_mul, abs_of_pos hpos]
    rw [sub_mul, habs]
    push_cast
    ring
  rw [toList_floatStr, toList_floatStr] at h
  have hsplit : floatWhole x = floatWhole y ∧ fractionDigits 17 (|x| - ⌊|x|⌋.toNat) =
      fractionDigits 17 (|y| - ⌊|y|⌋.toNat) := by
    have htake (whole later : List Char) (hnot : '.' ∉ whole) :
        (whole ++ '.' :: later).takeWhile (· != '.') = whole := by
      have hall : ∀ c ∈ whole, (c != '.') = true := by
        intro c hc
        rw [bne_iff_ne]
        rintro rfl
        exact hnot hc
      rw [List.takeWhile_append_of_pos hall]
      simp
    have hwhole := htake _ (fractionDigits 17 (|x| - ⌊|x|⌋.toNat)) (hpoint x)
    rw [h, htake _ _ (hpoint y)] at hwhole
    rw [← hwhole, List.append_cancel_left_eq, List.cons.injEq] at h
    exact ⟨hwhole.symm, h.2⟩
  obtain ⟨hsign, hfloor⟩ := signed_injective hsplit.1
  have hfraction := hvalue hx
  rw [hsplit.2, hvalue hy, hfloor] at hfraction
  have habs : |x| = |y| := by linarith
  rcases le_or_gt 0 x with hpos | hneg
  · rwa [abs_of_nonneg hpos, abs_of_nonneg (hsign.mp hpos)] at habs
  · have hy0 : y < 0 := not_le.mp fun hle => absurd (hsign.mpr hle) (not_le.mpr hneg)
    rw [abs_of_neg hneg, abs_of_neg hy0] at habs
    linarith

/-! ## Strings -/

/-- The character that an escape of one letter stands for. -/
def unescape : Char → Option Char
  | '"' => some '"'
  | '\\' => some '\\'
  | 'n' => some '\n'
  | 'r' => some '\r'
  | 't' => some '\t'
  | 'b' => some (Char.ofNat 8)
  | 'f' => some (Char.ofNat 12)
  | _ => none

/-- The escapes of one letter are those characters. -/
theorem dumpsChar_cases (c : Char) :
    (dumpsChar c = [c] ∧ c ≠ '"' ∧ c ≠ '\\') ∨
    (∃ letter, dumpsChar c = ['\\', letter] ∧ unescape letter = some c ∧ letter ≠ 'u') ∨
    (c.toNat < 0x10000 ∧ dumpsChar c = '\\' :: 'u' :: hexDigits 4 c.toNat) ∨
    (0x10000 ≤ c.toNat ∧ dumpsChar c =
      '\\' :: 'u' :: hexDigits 4 (0xd800 + (c.toNat - 0x10000) / 0x400) ++
        '\\' :: 'u' :: hexDigits 4 (0xdc00 + (c.toNat - 0x10000) % 0x400)) := by
  unfold dumpsChar
  by_cases hquote : c = '"'
  · exact .inr (.inl ⟨'"', by rw [if_pos hquote], by rw [hquote]; rfl, by decide⟩)
  by_cases hslash : c = '\\'
  · exact .inr (.inl ⟨'\\', by simp [hslash], by rw [hslash]; rfl, by decide⟩)
  by_cases hn : c = '\n'
  · exact .inr (.inl ⟨'n', by simp [hn], by rw [hn]; rfl, by decide⟩)
  by_cases hr : c = '\r'
  · exact .inr (.inl ⟨'r', by simp [hr], by rw [hr]; rfl, by decide⟩)
  by_cases ht : c = '\t'
  · exact .inr (.inl ⟨'t', by simp [ht], by rw [ht]; rfl, by decide⟩)
  simp only [if_neg hquote, if_neg hslash, if_neg hn, if_neg hr, if_neg ht]
  by_cases hb : c.toNat = 8
  · obtain rfl : c = Char.ofNat 8 := by rw [← hb, Char.ofNat_toNat]
    exact .inr (.inl ⟨'b', by simp, rfl, by decide⟩)
  by_cases hf : c.toNat = 12
  · obtain rfl : c = Char.ofNat 12 := by rw [← hf, Char.ofNat_toNat]
    exact .inr (.inl ⟨'f', by simp, rfl, by decide⟩)
  simp only [if_neg hb, if_neg hf]
  by_cases hplain : 32 ≤ c.toNat ∧ c.toNat ≤ 126
  · exact .inl ⟨by rw [if_pos hplain], hquote, hslash⟩
  rw [if_neg hplain]
  by_cases hlow : c.toNat < 0x10000
  · exact .inr (.inr (.inl ⟨hlow, by rw [if_pos hlow]⟩))
  · exact .inr (.inr (.inr ⟨not_lt.mp hlow, by rw [if_neg hlow]⟩))

/-- No character is a surrogate. -/
theorem not_surrogate (c : Char) : c.toNat < 0xd800 ∨ 0xe000 ≤ c.toNat := by
  have hvalid : c.toNat < 0xd800 ∨ 0xdfff < c.toNat ∧ c.toNat < 0x110000 := c.valid
  omega

/-- Where the text of a character ends is seen from the text. -/
theorem dumpsChar_append_inj {c e : Char} {x y : List Char}
    (h : dumpsChar c ++ x = dumpsChar e ++ y) : c = e ∧ x = y := by
  have hdigits {m n : ℕ} {u v : List Char} (hm : m < 16 ^ 4) (hn : n < 16 ^ 4)
      (heq : hexDigits 4 m ++ u = hexDigits 4 n ++ v) : m = n ∧ u = v := by
    obtain ⟨hhex, htail⟩ := List.append_inj heq (by rw [hexDigits_length, hexDigits_length])
    have hmod := (hexDigits_eq_iff 4 m n).mp hhex
    rw [Nat.mod_eq_of_lt hm, Nat.mod_eq_of_lt hn] at hmod
    exact ⟨hmod, htail⟩
  have hsame (hnat : c.toNat = e.toNat) : c = e := Char.toNat_inj.mp hnat
  have hc := not_surrogate c
  have he := not_surrogate e
  have hcmax : c.toNat < 0x110000 := by
    have hvalid : c.toNat < 0xd800 ∨ 0xdfff < c.toNat ∧ c.toNat < 0x110000 := c.valid
    omega
  have hemax : e.toNat < 0x110000 := by
    have hvalid : e.toNat < 0xd800 ∨ 0xdfff < e.toNat ∧ e.toNat < 0x110000 := e.valid
    omega
  rcases dumpsChar_cases c with ⟨hd, -, hcs⟩ | ⟨l, hd, hl, hlu⟩ | ⟨hlow, hd⟩ | ⟨hhigh, hd⟩ <;>
  rcases dumpsChar_cases e with ⟨hd', -, hes⟩ | ⟨l', hd', hl', hlu'⟩ | ⟨hlow', hd'⟩ | ⟨hhigh', hd'⟩ <;>
  rw [hd, hd'] at h <;>
  simp only [List.cons_append, List.nil_append, List.append_assoc, List.cons.injEq] at h
  · exact h
  · exact absurd h.1 hcs
  · exact absurd h.1 hcs
  · exact absurd h.1 hcs
  · exact absurd h.1.symm hes
  · obtain ⟨-, rfl, rfl⟩ := h
    exact ⟨Option.some.inj (hl.symm.trans hl'), rfl⟩
  · exact absurd h.2.1 hlu
  · exact absurd h.2.1 hlu
  · exact absurd h.1.symm hes
  · exact absurd h.2.1.symm hlu'
  · obtain ⟨hnat, htail⟩ := hdigits (by omega) (by omega) h.2.2
    exact ⟨hsame hnat, htail⟩
  · obtain ⟨hnat, -⟩ := hdigits (by omega) (by omega) h.2.2
    omega
  · exact absurd h.1.symm hes
  · exact absurd h.2.1.symm hlu'
  · obtain ⟨hnat, -⟩ := hdigits (by omega) (by omega) h.2.2
    omega
  · obtain ⟨hfirst, hrest⟩ := hdigits (by omega) (by omega) h.2.2
    simp only [List.cons.injEq, true_and] at hrest
    obtain ⟨hsecond, htail⟩ := hdigits (by omega) (by omega) hrest
    exact ⟨hsame (by omega), htail⟩

/-- The text of a character does not start with a quote. -/
theorem dumpsChar_ne_quote (c : Char) (x y : List Char) : dumpsChar c ++ x ≠ '"' :: y := by
  rcases dumpsChar_cases c with ⟨hd, hquote, -⟩ | ⟨l, hd, -⟩ | ⟨-, hd⟩ | ⟨-, hd⟩
  · rw [hd]
    simpa using fun h => absurd h hquote
  all_goals
    rw [hd]
    simp

/-- Where the text of a string ends is seen from the text. -/
theorem dumpsStr_append_inj {s t : String} {x y : List Char}
    (h : (dumpsStr s).toList ++ x = (dumpsStr t).toList ++ y) : s = t ∧ x = y := by
  have hchars : ∀ cs ds : List Char,
      cs.flatMap dumpsChar ++ '"' :: x = ds.flatMap dumpsChar ++ '"' :: y → cs = ds ∧ x = y := by
    intro cs
    induction cs with
    | nil =>
      rintro (_ | ⟨e, ds⟩) heq
      · exact ⟨rfl, (List.cons.inj heq).2⟩
      · rw [List.flatMap_cons, List.append_assoc] at heq
        exact absurd heq.symm (dumpsChar_ne_quote _ _ _)
    | cons c cs ih =>
      rintro (_ | ⟨e, ds⟩) heq
      · rw [List.flatMap_cons, List.append_assoc] at heq
        exact absurd heq (dumpsChar_ne_quote _ _ _)
      · rw [List.flatMap_cons, List.flatMap_cons, List.append_assoc, List.append_assoc] at heq
        obtain ⟨rfl, hrest⟩ := dumpsChar_append_inj heq
        obtain ⟨rfl, htail⟩ := ih ds hrest
        exact ⟨rfl, htail⟩
  have hquoted (u : String) (z : List Char) :
      (dumpsStr u).toList ++ z = '"' :: (u.toList.flatMap dumpsChar ++ '"' :: z) := by
    simp [dumpsStr, String.toList_append]
  rw [hquoted, hquoted, List.cons.injEq] at h
  obtain ⟨hlist, htail⟩ := hchars _ _ h.2
  exact ⟨String.toList_inj.mp hlist, htail⟩

/-! ## Values -/

/-- A value that is not built from others and is not a string. -/
def Json.isScalar : Json → Bool
  | .str _ | .arr _ | .obj _ => false
  | _ => true

/-- The characters that the text of a number consists of. -/
def isNumeral (c : Char) : Bool := c.isDigit || c == '-' || c == '.'

theorem isNumeral_of_mem_signed {n : ℕ} {p : Prop} [Decidable p] {c : Char}
    (h : c ∈ if p then Nat.toDigits 10 n else '-' :: Nat.toDigits 10 n) :
    isNumeral c = true ∧ c ≠ '.' := by
  have hdigit (hmem : c ∈ Nat.toDigits 10 n) : isNumeral c = true ∧ c ≠ '.' := by
    have hc := Nat.isDigit_of_mem_toDigits (by decide) (by decide) hmem
    refine ⟨by rw [isNumeral, hc]; rfl, ?_⟩
    rintro rfl
    exact absurd hc (by decide)
  split at h
  · exact hdigit h
  · rcases List.mem_cons.mp h with rfl | hmem
    · decide
    · exact hdigit hmem

theorem isNumeral_of_mem_int {n : ℤ} {c : Char} (h : c ∈ (toString n).toList) :
    isNumeral c = true ∧ c ≠ '.' := by
  rw [toString_int] at h
  split at h
  · exact isNumeral_of_mem_signed (p := True) (n := n.toNat) (by rwa [if_pos trivial])
  · exact isNumeral_of_mem_signed (p := False) (n := (-n).toNat) (by rwa [if_neg not_false])

theorem isDigit_of_mem_fractionDigits {fuel : ℕ} {x : ℚ} (h0 : 0 ≤ x) (h1 : x < 1) {c : Char}
    (h : c ∈ fractionDigits fuel x) : c.isDigit = true := by
  induction fuel generalizing x with
  | zero => cases h
  | succ fuel ih =>
    have hfloor := Int.floor_le (x * 10)
    have hlt := Int.lt_floor_add_one (x * 10)
    have hhigh : ⌊x * 10⌋ < 10 := Int.floor_lt.mpr (by push_cast; linarith)
    change c ∈ Char.ofNat (48 + ⌊x * 10⌋.toNat) :: (if x * 10 - ⌊x * 10⌋ = 0 then [] else
      fractionDigits fuel (x * 10 - ⌊x * 10⌋)) at h
    rcases List.mem_cons.mp h with rfl | hrest
    · have hall : ∀ k < 10, (Char.ofNat (48 + k)).isDigit = true := by decide
      exact hall _ (by omega)
    · split at hrest
      · cases hrest
      · exact ih (by linarith) (by linarith) hrest

theorem isNumeral_of_mem_float {x : ℚ} {c : Char} (h : c ∈ (floatStr x).toList) :
    isNumeral c = true := by
  rw [toList_floatStr] at h
  rcases List.mem_append.mp h with hwhole | hfraction
  · exact (isNumeral_of_mem_signed hwhole).1
  · rcases List.mem_cons.mp hfraction with rfl | hdigit
    · decide
    · have hfloor : ((⌊|x|⌋.toNat : ℕ) : ℚ) = (⌊|x|⌋ : ℚ) := by
        exact_mod_cast Int.toNat_of_nonneg (Int.floor_nonneg.mpr (abs_nonneg x))
      have hlow := Int.floor_le |x|
      have hhigh := Int.lt_floor_add_one |x|
      rw [hfloor] at hdigit
      rw [isNumeral, isDigit_of_mem_fractionDigits (by linarith) (by linarith) hdigit]
      rfl

/-- The word that a constant is written as. -/
def Json.word : Json → Option String
  | .null => some "null"
  | .bool b => some (if b then "true" else "false")
  | .inf negative => some (if negative then "-Infinity" else "Infinity")
  | .nan => some "NaN"
  | _ => none

theorem dumps_of_word {v : Json} {w : String} (h : v.word = some w) : dumps v = w := by
  cases v <;> simp_all [Json.word, dumps]

/-- A word has a letter that no number has. -/
theorem exists_letter_of_word {v : Json} {w : String} (h : v.word = some w) :
    ∃ c ∈ w.toList, isNumeral c = false := by
  cases v with
  | null => cases h; exact ⟨'n', by decide, by decide⟩
  | bool b => cases b <;> cases h <;> exact ⟨'e', by decide, by decide⟩
  | inf negative => cases negative <;> cases h <;> exact ⟨'I', by decide, by decide⟩
  | nan => cases h; exact ⟨'N', by decide, by decide⟩
  | int n => cases h
  | float x => cases h
  | str s => cases h
  | arr items => cases h
  | obj fields => cases h

/-- The constant that a word is written for. -/
def Json.ofWord (w : String) : Json :=
  if w = "null" then .null
  else if w = "true" then .bool true
  else if w = "false" then .bool false
  else if w = "-Infinity" then .inf true
  else if w = "Infinity" then .inf false
  else .nan

theorem ofWord_of_word {v : Json} {w : String} (h : v.word = some w) : Json.ofWord w = v := by
  cases v with
  | null => cases h; simp [Json.ofWord]
  | bool b => cases b <;> cases h <;> simp [Json.ofWord]
  | inf negative => cases negative <;> cases h <;> simp [Json.ofWord]
  | nan => cases h; simp [Json.ofWord]
  | int n => cases h
  | float x => cases h
  | str s => cases h
  | arr items => cases h
  | obj fields => cases h

/-- A scalar is a constant, an integer or a float. -/
theorem isScalar_cases {v : Json} (h : v.isScalar = true) :
    (∃ w, v.word = some w) ∨ (∃ n, v = .int n) ∨ ∃ x, v = .float x := by
  cases v <;> simp_all [Json.isScalar, Json.word]

mutual
/-- The values whose floats are shown exactly. -/
def Json.Printable : Json → Prop
  | .float x => HasDecimals x
  | .arr items => PrintableItems items
  | .obj fields => PrintableFields fields
  | _ => True

def Json.PrintableItems : List Json → Prop
  | [] => True
  | item :: rest => item.Printable ∧ Json.PrintableItems rest

def Json.PrintableFields : List (String × Json) → Prop
  | [] => True
  | (_, value) :: rest => value.Printable ∧ Json.PrintableFields rest
end

/-- The texts of scalars tell them apart. -/
theorem dumps_scalar_injective {v v' : Json} (hv : v.isScalar = true) (hv' : v'.isScalar = true)
    (hp : v.Printable) (hp' : v'.Printable) (h : (dumps v).toList = (dumps v').toList) : v = v' := by
  have hint (n : ℤ) : dumps (.int n) = toString n := by rw [dumps]
  have hfloat (x : ℚ) : dumps (.float x) = floatStr x := by rw [dumps]
  have hword {u u' : Json} {w : String} (hw : u.word = some w)
      (heq : (dumps u).toList = (dumps u').toList)
      (hnumeral : ∀ c ∈ (dumps u').toList, isNumeral c = true) : False := by
    obtain ⟨c, hc, hletter⟩ := exists_letter_of_word hw
    rw [dumps_of_word hw] at heq
    rw [hnumeral c (heq ▸ hc)] at hletter
    cases hletter
  have hintNumeral (n : ℤ) : ∀ c ∈ (dumps (.int n)).toList, isNumeral c = true := by
    intro c hc
    rw [hint] at hc
    exact (isNumeral_of_mem_int hc).1
  have hfloatNumeral (x : ℚ) : ∀ c ∈ (dumps (.float x)).toList, isNumeral c = true := by
    intro c hc
    rw [hfloat] at hc
    exact isNumeral_of_mem_float hc
  have hpoint (n : ℤ) (x : ℚ) : (dumps (.int n)).toList ≠ (dumps (.float x)).toList := by
    intro heq
    have hmem : '.' ∈ (dumps (.float x)).toList := by
      rw [hfloat, toList_floatStr]
      exact List.mem_append_right _ List.mem_cons_self
    rw [← heq, hint] at hmem
    exact (isNumeral_of_mem_int hmem).2 rfl
  rcases isScalar_cases hv with ⟨w, hw⟩ | ⟨n, rfl⟩ | ⟨x, rfl⟩ <;>
    rcases isScalar_cases hv' with ⟨w', hw'⟩ | ⟨n', rfl⟩ | ⟨x', rfl⟩
  · rw [dumps_of_word hw, dumps_of_word hw', String.toList_inj] at h
    subst h
    rw [← ofWord_of_word hw, ofWord_of_word hw']
  · exact (hword hw h (hintNumeral n')).elim
  · exact (hword hw h (hfloatNumeral x')).elim
  · exact (hword hw' h.symm (hintNumeral n)).elim
  · rw [hint, hint] at h
    rw [toString_int_injective h]
  · exact (hpoint n x' h).elim
  · exact (hword hw' h.symm (hfloatNumeral x)).elim
  · exact (hpoint n' x h.symm).elim
  · rw [hfloat, hfloat] at h
    rw [floatStr_injective hp hp' h]

/-- The characters that structure a text. -/
def isStructural (c : Char) : Bool :=
  c == ',' || c == ']' || c == '\x7d' || c == '[' || c == '\x7b' || c == '"'

theorem not_structural_of_numeral {c : Char} (h : isNumeral c = true) : isStructural c = false := by
  by_contra hnot
  rw [Bool.not_eq_false] at hnot
  simp only [isStructural, Bool.or_eq_true, beq_iff_eq] at hnot
  rcases hnot with ((((rfl | rfl) | rfl) | rfl) | rfl) | rfl <;> exact absurd h (by decide)

/-- The text of a scalar has none of them. -/
theorem not_structural_of_mem_scalar {v : Json} (hv : v.isScalar = true) :
    ∀ c ∈ (dumps v).toList, isStructural c = false := by
  rcases isScalar_cases hv with ⟨w, hw⟩ | ⟨n, rfl⟩ | ⟨x, rfl⟩
  · have hall : w.toList.all (fun c => !isStructural c) = true := by
      cases v with
      | null => cases hw; rfl
      | bool b => cases b <;> cases hw <;> rfl
      | inf negative => cases negative <;> cases hw <;> rfl
      | nan => cases hw; rfl
      | _ => cases hw
    intro c hc
    rw [dumps_of_word hw] at hc
    simpa using List.all_eq_true.mp hall c hc
  · intro c hc
    rw [dumps] at hc
    exact not_structural_of_numeral (isNumeral_of_mem_int hc).1
  · intro c hc
    rw [dumps] at hc
    exact not_structural_of_numeral (isNumeral_of_mem_float hc)

theorem scalar_ne_nil {v : Json} (hv : v.isScalar = true) : (dumps v).toList ≠ [] := by
  rcases isScalar_cases hv with ⟨w, hw⟩ | ⟨n, rfl⟩ | ⟨x, rfl⟩
  · obtain ⟨c, hc, -⟩ := exists_letter_of_word hw
    rw [dumps_of_word hw]
    exact List.ne_nil_of_mem hc
  · rw [dumps, toString_int]
    split
    · exact Nat.toDigits_ne_nil
    · exact List.cons_ne_nil _ _
  · rw [dumps, toList_floatStr]
    simp

/-! ## Sequences -/

/-- What may follow a value: a comma, a closing bracket or nothing. -/
def Stops : List Char → Prop
  | [] => True
  | c :: _ => c = ',' ∨ c = ']' ∨ c = '\x7d'

/-- The texts after the first, each after a comma, and the closing bracket. -/
def joinedRest (close : Char) : List (List Char) → List Char
  | [] => [close]
  | text :: rest => ',' :: ' ' :: (text ++ joinedRest close rest)

/-- The texts with commas between them and the closing bracket. -/
def joined (close : Char) : List (List Char) → List Char
  | [] => [close]
  | text :: rest => text ++ joinedRest close rest

theorem intercalate_append_close (close : Char) (texts : List (List Char)) :
    List.intercalate [',', ' '] texts ++ [close] = joined close texts := by
  cases texts with
  | nil => rfl
  | cons text rest =>
    induction rest generalizing text with
    | nil => simp [joined, joinedRest]
    | cons next rest ih =>
      rw [List.intercalate_cons_cons, List.append_assoc, List.append_assoc, ih]
      rfl

theorem stops_joinedRest {close : Char} (hclose : close = ']' ∨ close = '\x7d')
    (texts : List (List Char)) (x : List Char) : Stops (joinedRest close texts ++ x) := by
  cases texts with
  | nil => exact .inr hclose
  | cons text rest => exact .inl rfl

section Joined

variable {T : Type} {β : Type} {text : T → List Char} {f : T → β} {close : Char} {x y : List Char}

/-- Texts whose ends are seen from the texts can be told apart in a sequence. -/
theorem joinedRest_inj (hclose : close = ']' ∨ close = '\x7d') {l m : List T}
    (hinj : ∀ a ∈ l, ∀ b ∈ m, ∀ x y, Stops x → Stops y → text a ++ x = text b ++ y →
      f a = f b ∧ x = y)
    (h : joinedRest close (l.map text) ++ x = joinedRest close (m.map text) ++ y) :
    l.map f = m.map f ∧ x = y := by
  have hcomma : ¬close = ',' := by
    rcases hclose with rfl | rfl <;> decide
  induction l generalizing m with
  | nil =>
    cases m with
    | nil => exact ⟨rfl, (List.cons.inj h).2⟩
    | cons b m => exact absurd (List.cons.inj h).1 hcomma
  | cons a l ih =>
    cases m with
    | nil => exact absurd (List.cons.inj h).1.symm hcomma
    | cons b m =>
      simp only [List.map_cons, joinedRest, List.cons_append, List.cons.injEq, true_and,
        List.append_assoc] at h
      obtain ⟨hhead, htail⟩ := hinj a List.mem_cons_self b List.mem_cons_self _ _
        (stops_joinedRest hclose _ x) (stops_joinedRest hclose _ y) h
      obtain ⟨hrest, hxy⟩ := ih (fun a' ha b' hb => hinj a' (List.mem_cons_of_mem _ ha) b'
        (List.mem_cons_of_mem _ hb)) htail
      exact ⟨by rw [List.map_cons, List.map_cons, hhead, hrest], hxy⟩

theorem joined_inj (hclose : close = ']' ∨ close = '\x7d') {l m : List T}
    (hinj : ∀ a ∈ l, ∀ b ∈ m, ∀ x y, Stops x → Stops y → text a ++ x = text b ++ y →
      f a = f b ∧ x = y)
    (hopen : ∀ a x y, text a ++ x ≠ close :: y)
    (h : joined close (l.map text) ++ x = joined close (m.map text) ++ y) :
    l.map f = m.map f ∧ x = y := by
  cases l with
  | nil =>
    cases m with
    | nil => exact ⟨rfl, (List.cons.inj h).2⟩
    | cons b m =>
      rw [List.map_cons, joined, List.append_assoc] at h
      exact absurd h.symm (hopen b _ _)
  | cons a l =>
    cases m with
    | nil =>
      rw [List.map_cons, joined, List.append_assoc] at h
      exact absurd h (hopen a _ _)
    | cons b m =>
      rw [List.map_cons, List.map_cons, joined, joined, List.append_assoc, List.append_assoc] at h
      obtain ⟨hhead, htail⟩ := hinj a List.mem_cons_self b List.mem_cons_self _ _
        (stops_joinedRest hclose _ x) (stops_joinedRest hclose _ y) h
      obtain ⟨hrest, hxy⟩ := joinedRest_inj hclose (fun a' ha b' hb =>
        hinj a' (List.mem_cons_of_mem _ ha) b' (List.mem_cons_of_mem _ hb)) htail
      exact ⟨by rw [List.map_cons, List.map_cons, hhead, hrest], hxy⟩

end Joined

/-! ## Values up to the order of keys -/

/-- The entries of an object in the order of their keys. -/
def sortFields (fields : List (String × Json)) : List (String × Json) :=
  fields.insertionSort fun a b => a.1 ≤ b.1

mutual
/-- The value with the keys of all its objects in order. -/
def Json.canonical : Json → Json
  | .arr items => .arr (canonicalItems items)
  | .obj fields => .obj (sortFields (canonicalFields fields))
  | value => value

def Json.canonicalItems : List Json → List Json
  | [] => []
  | item :: rest => item.canonical :: Json.canonicalItems rest

def Json.canonicalFields : List (String × Json) → List (String × Json)
  | [] => []
  | (key, value) :: rest => (key, value.canonical) :: Json.canonicalFields rest
end

theorem canonicalItems_eq (items : List Json) :
    Json.canonicalItems items = items.map Json.canonical := by
  induction items with
  | nil => rw [Json.canonicalItems, List.map_nil]
  | cons item rest ih => rw [Json.canonicalItems, ih, List.map_cons]

theorem canonicalFields_eq (fields : List (String × Json)) :
    Json.canonicalFields fields = fields.map fun e => (e.1, e.2.canonical) := by
  induction fields with
  | nil => rw [Json.canonicalFields, List.map_nil]
  | cons entry rest ih => rw [Json.canonicalFields, ih, List.map_cons]

theorem dumpsItems_eq (items : List Json) : dumpsItems items = items.map dumps := by
  induction items with
  | nil => rw [dumpsItems, List.map_nil]
  | cons item rest ih => rw [dumpsItems, ih, List.map_cons]

theorem dumpsFields_eq (fields : List (String × Json)) :
    dumpsFields fields = fields.map fun e => (e.1, dumps e.2) := by
  induction fields with
  | nil => rw [dumpsFields, List.map_nil]
  | cons entry rest ih => rw [dumpsFields, ih, List.map_cons]

theorem printableItems_iff (items : List Json) :
    Json.PrintableItems items ↔ ∀ v ∈ items, v.Printable := by
  induction items with
  | nil => simp [Json.PrintableItems]
  | cons item rest ih => simp [Json.PrintableItems, ih]

theorem printableFields_iff (fields : List (String × Json)) :
    Json.PrintableFields fields ↔ ∀ e ∈ fields, e.2.Printable := by
  induction fields with
  | nil => simp [Json.PrintableFields]
  | cons entry rest ih => simp [Json.PrintableFields, ih]

/-- The entries are sorted before or after their values are rewritten. -/
theorem sortFields_map (g : Json → Json) (fields : List (String × Json)) :
    sortFields (fields.map fun e => (e.1, g e.2)) = (sortFields fields).map fun e => (e.1, g e.2) :=
  (List.map_insertionSort (fun a b : String × Json => a.1 ≤ b.1)
    (fun a b : String × Json => a.1 ≤ b.1) (fun e => (e.1, g e.2)) fields
    fun _ _ _ _ => Iff.rfl).symm

theorem sortEntries_map (g : Json → String) (fields : List (String × Json)) :
    sortEntries (fields.map fun e => (e.1, g e.2)) =
      (sortFields fields).map fun e => (e.1, g e.2) :=
  (List.map_insertionSort (fun a b : String × Json => a.1 ≤ b.1)
    (fun a b : String × String => a.1 ≤ b.1) (fun e => (e.1, g e.2)) fields
    fun _ _ _ _ => Iff.rfl).symm

/-- Sorting again changes nothing. -/
theorem sortFields_sortFields (fields : List (String × Json)) :
    sortFields (sortFields fields) = sortFields fields := by
  have htotal : Std.Total fun a b : String × Json => a.1 ≤ b.1 := ⟨fun a b => String.le_total a.1 b.1⟩
  have htrans : IsTrans (String × Json) fun a b => a.1 ≤ b.1 := ⟨fun _ _ _ => String.le_trans⟩
  exact (List.pairwise_insertionSort _ fields).insertionSort_eq

/-- Induction on a value with a hypothesis for each part of it. -/
theorem Json.parts_induction {P : Json → Prop} (scalar : ∀ v, v.isScalar = true → P v)
    (str : ∀ s, P (.str s)) (arr : ∀ items, (∀ v ∈ items, P v) → P (.arr items))
    (obj : ∀ fields, (∀ e ∈ fields, P e.2) → P (.obj fields)) : ∀ v, P v
  | .null => scalar _ rfl
  | .bool _ => scalar _ rfl
  | .int _ => scalar _ rfl
  | .float _ => scalar _ rfl
  | .inf _ => scalar _ rfl
  | .nan => scalar _ rfl
  | .str s => str s
  | .arr items => arr items fun v hv =>
    have := List.sizeOf_lt_of_mem hv
    parts_induction scalar str arr obj v
  | .obj fields => obj fields fun e he =>
    have := List.sizeOf_lt_of_mem he
    have : sizeOf e.2 < sizeOf e := by
      cases e
      simp only [Prod.mk.sizeOf_spec]
      omega
    parts_induction scalar str arr obj e.2

theorem toList_dumps_arr (items : List Json) : (dumps (.arr items)).toList =
    '[' :: joined ']' (items.map fun v => (dumps v).toList) := by
  rw [dumps, dumpsItems_eq, String.toList_append, String.toList_append, String.toList_intercalate,
    List.map_map, List.append_assoc]
  exact congrArg ('[' :: ·) (intercalate_append_close ']' _)

/-- An entry of an object as it is written. -/
def fieldText (e : String × Json) : List Char :=
  (dumpsStr e.1).toList ++ ':' :: ' ' :: (dumps e.2).toList

theorem toList_dumps_obj (fields : List (String × Json)) : (dumps (.obj fields)).toList =
    '\x7b' :: joined '\x7d' ((sortFields fields).map fieldText) := by
  have hentry : ∀ e : String × Json,
      (dumpsStr e.1 ++ ": " ++ dumps e.2).toList = fieldText e := by
    intro e
    rw [String.toList_append, String.toList_append, List.append_assoc]
    rfl
  rw [dumps, dumpsFields_eq, sortEntries_map, String.toList_append, String.toList_append,
    String.toList_intercalate, List.map_map, List.map_map, List.append_assoc]
  simp only [Function.comp_def, hentry]
  exact congrArg ('\x7b' :: ·) (intercalate_append_close '\x7d' _)

theorem dumps_obj_ne_empty (fields : List (String × Json)) : dumps (.obj fields) ≠ "" := by
  intro h
  have htext := toList_dumps_obj fields
  rw [h] at htext
  cases htext

/-- The text of a value starts with a character that shows which kind it is of. -/
theorem exists_first (v : Json) : ∃ c rest, (dumps v).toList = c :: rest ∧
    ((v.isScalar = true ∧ isStructural c = false) ∨ ((∃ s, v = .str s) ∧ c = '"') ∨
      ((∃ items, v = .arr items) ∧ c = '[') ∨ ((∃ fields, v = .obj fields) ∧ c = '\x7b')) := by
  by_cases hscalar : v.isScalar = true
  · rcases htext : (dumps v).toList with _ | ⟨c, rest⟩
    · exact absurd htext (scalar_ne_nil hscalar)
    · exact ⟨c, rest, rfl, .inl ⟨hscalar, not_structural_of_mem_scalar hscalar c
        (htext ▸ List.mem_cons_self)⟩⟩
  · cases v with
    | str s =>
      refine ⟨'"', s.toList.flatMap dumpsChar ++ ['"'], ?_, .inr (.inl ⟨⟨s, rfl⟩, rfl⟩)⟩
      rw [dumps]
      simp [dumpsStr, String.toList_append]
    | arr items => exact ⟨'[', _, toList_dumps_arr items, .inr (.inr (.inl ⟨⟨items, rfl⟩, rfl⟩))⟩
    | obj fields =>
      exact ⟨'\x7b', _, toList_dumps_obj fields, .inr (.inr (.inr ⟨⟨fields, rfl⟩, rfl⟩))⟩
    | _ => exact absurd rfl hscalar

/-- No text of a value starts with a closing bracket. -/
theorem dumps_ne_close {close : Char} (hclose : close = ']' ∨ close = '\x7d') (v : Json)
    (x y : List Char) : (dumps v).toList ++ x ≠ close :: y := by
  obtain ⟨c, rest, htext, hkind⟩ := exists_first v
  rw [htext, List.cons_append]
  intro h
  rw [(List.cons.inj h).1] at hkind
  rcases hclose with rfl | rfl <;>
    rcases hkind with ⟨-, hc⟩ | ⟨-, hc⟩ | ⟨-, hc⟩ | ⟨-, hc⟩ <;> exact absurd hc (by decide)

/-- Up to a character that may follow, a scalar is what comes before the structure. -/
theorem takeWhile_scalar {v : Json} (hv : v.isScalar = true) {x : List Char} (hx : Stops x) :
    ((dumps v).toList ++ x).takeWhile (fun c => !isStructural c) = (dumps v).toList := by
  rw [List.takeWhile_append_of_pos fun c hc => by
    rw [not_structural_of_mem_scalar hv c hc]
    rfl]
  cases x with
  | nil => rw [List.takeWhile_nil, List.append_nil]
  | cons c rest =>
    have hc : isStructural c = true := by
      rcases hx with rfl | rfl | rfl <;> decide
    rw [List.takeWhile_cons, hc]
    simp

/-- Where the text of a value ends is seen from the text, and so is the value up to the order of
keys. -/
theorem dumps_append_inj (v : Json) : v.Printable → ∀ v' : Json, v'.Printable →
    ∀ x y, Stops x → Stops y → (dumps v).toList ++ x = (dumps v').toList ++ y →
      v.canonical = v'.canonical ∧ x = y := by
  -- what the first characters say about the kinds of two values with the same text
  have hkinds {u u' : Json} {x y : List Char} (h : (dumps u).toList ++ x = (dumps u').toList ++ y) :
      (u.isScalar = true ∧ u'.isScalar = true) ∨ ((∃ s, u = .str s) ∧ ∃ s, u' = .str s) ∨
        ((∃ items, u = .arr items) ∧ ∃ items, u' = .arr items) ∨
        ((∃ fields, u = .obj fields) ∧ ∃ fields, u' = .obj fields) := by
    obtain ⟨c, rest, htext, hkind⟩ := exists_first u
    obtain ⟨c', rest', htext', hkind'⟩ := exists_first u'
    rw [htext, htext', List.cons_append, List.cons_append] at h
    obtain rfl := (List.cons.inj h).1
    rcases hkind with ⟨hu, hc⟩ | ⟨hu, hc⟩ | ⟨hu, hc⟩ | ⟨hu, hc⟩ <;>
      rcases hkind' with ⟨hu', hc'⟩ | ⟨hu', hc'⟩ | ⟨hu', hc'⟩ | ⟨hu', hc'⟩
    · exact .inl ⟨hu, hu'⟩
    · exact absurd (hc'.symm ▸ hc) (by decide)
    · exact absurd (hc'.symm ▸ hc) (by decide)
    · exact absurd (hc'.symm ▸ hc) (by decide)
    · exact absurd (hc ▸ hc') (by decide)
    · exact .inr (.inl ⟨hu, hu'⟩)
    · exact absurd (hc.symm.trans hc') (by decide)
    · exact absurd (hc.symm.trans hc') (by decide)
    · exact absurd (hc ▸ hc') (by decide)
    · exact absurd (hc.symm.trans hc') (by decide)
    · exact .inr (.inr (.inl ⟨hu, hu'⟩))
    · exact absurd (hc.symm.trans hc') (by decide)
    · exact absurd (hc ▸ hc') (by decide)
    · exact absurd (hc.symm.trans hc') (by decide)
    · exact absurd (hc.symm.trans hc') (by decide)
    · exact .inr (.inr (.inr ⟨hu, hu'⟩))
  induction v using Json.parts_induction with
  | scalar v hv =>
    intro hp v' hp' x y hx hy h
    obtain ⟨-, hv'⟩ | ⟨⟨s, rfl⟩, -⟩ | ⟨⟨items, rfl⟩, -⟩ | ⟨⟨fields, rfl⟩, -⟩ := hkinds h
    · have htake := takeWhile_scalar hv hx
      rw [h, takeWhile_scalar hv' hy] at htake
      rw [htake, List.append_cancel_left_eq] at h
      exact ⟨by rw [dumps_scalar_injective hv hv' hp hp' htake.symm], h⟩
    all_goals cases hv
  | str s =>
    intro hp v' hp' x y hx hy h
    obtain ⟨hv, -⟩ | ⟨-, s', rfl⟩ | ⟨⟨items, heq⟩, -⟩ | ⟨⟨fields, heq⟩, -⟩ := hkinds h
    · cases hv
    · rw [dumps, dumps] at h
      obtain ⟨rfl, hxy⟩ := dumpsStr_append_inj h
      exact ⟨rfl, hxy⟩
    · cases heq
    · cases heq
  | arr items ih =>
    intro hp v' hp' x y hx hy h
    obtain ⟨hv, -⟩ | ⟨⟨s, heq⟩, -⟩ | ⟨-, items', rfl⟩ | ⟨⟨fields, heq⟩, -⟩ := hkinds h
    · cases hv
    · cases heq
    · rw [toList_dumps_arr, toList_dumps_arr, List.cons_append, List.cons_append,
        List.cons.injEq] at h
      have hitems := (printableItems_iff items).mp hp
      have hitems' := (printableItems_iff items').mp hp'
      obtain ⟨hcanonical, hxy⟩ := joined_inj (f := Json.canonical) (.inl rfl)
        (fun v hv v' hv' => ih v hv (hitems v hv) v' (hitems' v' hv'))
        (fun v x y => dumps_ne_close (.inl rfl) v x y) h.2
      exact ⟨by rw [Json.canonical, Json.canonical, canonicalItems_eq, canonicalItems_eq,
        hcanonical], hxy⟩
    · cases heq
  | obj fields ih =>
    intro hp v' hp' x y hx hy h
    obtain ⟨hv, -⟩ | ⟨⟨s, heq⟩, -⟩ | ⟨⟨items, heq⟩, -⟩ | ⟨-, fields', rfl⟩ := hkinds h
    · cases hv
    · cases heq
    · cases heq
    · rw [toList_dumps_obj, toList_dumps_obj, List.cons_append, List.cons_append,
        List.cons.injEq] at h
      have hfields := (printableFields_iff fields).mp hp
      have hfields' := (printableFields_iff fields').mp hp'
      have hmem {l : List (String × Json)} {e : String × Json} (he : e ∈ sortFields l) : e ∈ l :=
        (List.perm_insertionSort _ l).mem_iff.mp he
      have hentry : ∀ e ∈ sortFields fields, ∀ e' ∈ sortFields fields', ∀ x y, Stops x → Stops y →
          fieldText e ++ x = fieldText e' ++ y →
            (e.1, e.2.canonical) = (e'.1, e'.2.canonical) ∧ x = y := by
        intro e he e' he' x y hx hy htext
        rw [fieldText, fieldText, List.append_assoc, List.append_assoc] at htext
        obtain ⟨hkey, hrest⟩ := dumpsStr_append_inj htext
        simp only [List.cons_append, List.cons.injEq, true_and] at hrest
        obtain ⟨hvalue, hxy⟩ := ih e (hmem he) (hfields e (hmem he)) e'.2 (hfields' e' (hmem he'))
          x y hx hy hrest
        exact ⟨by rw [hkey, hvalue], hxy⟩
      have hopen : ∀ (e : String × Json) (x y : List Char), fieldText e ++ x ≠ '\x7d' :: y := by
        intro e x y htext
        have hquote : fieldText e ++ x = '"' :: (e.1.toList.flatMap dumpsChar ++ '"' :: ':' :: ' ' ::
            (dumps e.2).toList ++ x) := by
          simp [fieldText, dumpsStr, String.toList_append]
        rw [hquote] at htext
        exact absurd (List.cons.inj htext).1 (by decide)
      obtain ⟨hcanonical, hxy⟩ := joined_inj (f := fun e : String × Json => (e.1, e.2.canonical))
        (.inr rfl) hentry hopen h.2
      refine ⟨?_, hxy⟩
      rw [Json.canonical, Json.canonical, canonicalFields_eq, canonicalFields_eq, sortFields_map,
        sortFields_map, hcanonical]

/-- The text is that of the value with its keys in order. -/
theorem dumps_canonical (v : Json) : dumps v.canonical = dumps v := by
  induction v using Json.parts_induction with
  | scalar v hv => cases v <;> first | rfl | cases hv
  | str s => rfl
  | arr items ih =>
    rw [← String.toList_inj, Json.canonical, canonicalItems_eq, toList_dumps_arr, toList_dumps_arr,
      List.map_map, List.map_congr_left fun v hv => ?_]
    rw [Function.comp_apply, ih v hv]
  | obj fields ih =>
    have hentries : (sortFields fields).map (fun e => fieldText (e.1, e.2.canonical)) =
        (sortFields fields).map fieldText :=
      List.map_congr_left fun e he => by
        rw [fieldText, ih e ((List.perm_insertionSort _ fields).mem_iff.mp he), fieldText]
    rw [← String.toList_inj, Json.canonical, canonicalFields_eq, sortFields_map, toList_dumps_obj,
      toList_dumps_obj, sortFields_map, sortFields_sortFields, List.map_map]
    exact congrArg (fun texts => '\x7b' :: joined '\x7d' texts) hentries

/-- Two values have the same text exactly when they are equal up to the order of keys. -/
theorem dumps_eq_iff {v v' : Json} (hv : v.Printable) (hv' : v'.Printable) :
    dumps v = dumps v' ↔ v.canonical = v'.canonical := by
  constructor
  · intro h
    exact (dumps_append_inj v hv v' hv' [] [] trivial trivial (by rw [h])).1
  · intro h
    rw [← dumps_canonical v, h, dumps_canonical]

/-- Entries in another order, but with the same keys in the same order, are the same entries. -/
theorem eq_of_perm_of_keys {β : Type} {l m : List (String × β)} (h : l.Perm m)
    (hkeys : l.map Prod.fst = m.map Prod.fst) (hnodup : (l.map Prod.fst).Nodup) : l = m := by
  induction l generalizing m with
  | nil => exact (List.nil_perm.mp h).symm
  | cons entry l ih =>
    cases m with
    | nil => cases hkeys
    | cons entry' m =>
      rw [List.map_cons, List.map_cons, List.cons.injEq] at hkeys
      rw [List.map_cons, List.nodup_cons] at hnodup
      have hmem : entry ∈ entry' :: m := h.mem_iff.mp List.mem_cons_self
      obtain rfl : entry = entry' := by
        rcases List.mem_cons.mp hmem with heq | hlater
        · exact heq
        · have hkey := List.mem_map_of_mem (f := Prod.fst) hlater
          rw [← hkeys.2] at hkey
          exact absurd hkey hnodup.1
      rw [ih (List.Perm.cons_inv h) hkeys.2 hnodup.2]

/-- Objects that list the same keys in the same order have the same text exactly when their values
are equal up to the order of keys. -/
theorem dumps_obj_eq_iff {d d' : Dict} (hd : (Json.obj d).Printable) (hd' : (Json.obj d').Printable)
    (hkeys : d.map Prod.fst = d'.map Prod.fst) (hnodup : (d.map Prod.fst).Nodup) :
    dumps (.obj d) = dumps (.obj d') ↔
      d.map (fun e => (e.1, e.2.canonical)) = d'.map fun e => (e.1, e.2.canonical) := by
  have hfst (l : Dict) : (l.map fun e => (e.1, e.2.canonical)).map Prod.fst = l.map Prod.fst := by
    rw [List.map_map]
    rfl
  rw [dumps_eq_iff hd hd', Json.canonical, Json.canonical, canonicalFields_eq, canonicalFields_eq]
  constructor
  · intro h
    rw [Json.obj.injEq] at h
    have hperm : (d.map fun e => (e.1, e.2.canonical)).Perm
        (d'.map fun e => (e.1, e.2.canonical)) :=
      (List.perm_insertionSort _ _).symm.trans
        ((List.Perm.of_eq h).trans (List.perm_insertionSort _ _))
    exact eq_of_perm_of_keys hperm (by rw [hfst, hfst, hkeys]) (by rwa [hfst])
  · intro h
    rw [h]

end Python
