import RevenueRescue.Base.Text

/-!
# Reading hexadecimal text

The constructors `int(text, 16)` and `UUID(text)`, which read more spellings than the digits
that `str` writes: signs, underscores, a mark of the base, Unicode digits, braces and hyphens.
A number of 128 bits that was written in five groups of digits is read back.
-/

namespace Python

/-- The value of a hexadecimal digit. -/
def hexValue (lib : Library) (c : Char) : Option ℕ :=
  if 48 ≤ c.toNat ∧ c.toNat ≤ 57 then some (c.toNat - 48)
  else if 97 ≤ c.toNat ∧ c.toNat ≤ 102 then some (c.toNat - 87)
  else if 65 ≤ c.toNat ∧ c.toNat ≤ 70 then some (c.toNat - 55)
  else lib.decimal c

/-- The value of digits that single underscores may separate; `pending` says that a digit must
come next. -/
def hexDigitsValue (lib : Library) : Bool → ℕ → List Char → Option ℕ
  | pending, value, [] => if pending then none else some value
  | pending, value, c :: rest =>
    match hexValue lib c with
    | some digit => hexDigitsValue lib false (16 * value + digit) rest
    | none => if c = '_' ∧ pending = false then hexDigitsValue lib true value rest else none

/-- The digits without the `0x` that may stand before them and the underscore after it. -/
def dropMark (lib : Library) : List Char → List Char
  | zero :: mark :: rest =>
    if hexValue lib zero = some 0 ∧ (mark = 'x' ∨ mark = 'X') then
      if rest.head? = some '_' then rest.tail else rest
    else zero :: mark :: rest
  | digits => digits

/-- The value of the digits after a sign. -/
def unsignedHex (lib : Library) (digits : List Char) : Option ℕ :=
  hexDigitsValue lib true 0 (dropMark lib digits)

/-- `int(text, 16)`; `none` stands for its `ValueError`. -/
def intOfHex (lib : Library) (text : List Char) : Option ℤ :=
  match (strip (String.ofList text)).toList with
  | '-' :: digits => (unsignedHex lib digits).map fun n => -Int.ofNat n
  | '+' :: digits => (unsignedHex lib digits).map Int.ofNat
  | digits => (unsignedHex lib digits).map Int.ofNat

/-- `text.replace(needle, "")`; `skip` counts the characters of an occurrence still to pass. -/
def removeAll (needle : List Char) : ℕ → List Char → List Char
  | _, [] => []
  | skip + 1, _ :: rest => removeAll needle skip rest
  | 0, c :: rest =>
    if needle.isPrefixOf (c :: rest) then removeAll needle (needle.length - 1) rest
    else c :: removeAll needle 0 rest

/-- Whether a character is one of the braces that may surround a UUID. -/
def isBrace (c : Char) : Bool := c.toNat == 123 || c.toNat == 125

/-- The digits in the text of a UUID: `text.replace("urn:", "").replace("uuid:", "")`, without
braces at the ends and without hyphens. -/
def uuidDigits (text : String) : List Char :=
  ((((removeAll "uuid:".toList 0 (removeAll "urn:".toList 0 text.toList)).dropWhile
    isBrace).rdropWhile isBrace).filter fun c => c != '-')

/-- `UUID(text)`; `none` stands for its `ValueError`. -/
def uuidOfText (lib : Library) (text : String) : Option (Fin (2 ^ 128)) :=
  let hex := uuidDigits text
  if hex.length = 32 then
    match intOfHex lib hex with
    | some (.ofNat n) => if h : n < 2 ^ 128 then some ⟨n, h⟩ else none
    | _ => none
  else none

/-! ## Reading back -/

theorem hexDigit_toNat {n : ℕ} (h : n < 16) :
    (hexDigit n).toNat = if n < 10 then 48 + n else 87 + n := by
  have hall : ∀ n < 16, (hexDigit n).toNat = if n < 10 then 48 + n else 87 + n := by decide
  exact hall n h

theorem hexValue_hexDigit (lib : Library) {n : ℕ} (h : n < 16) :
    hexValue lib (hexDigit n) = some n := by
  unfold hexValue
  rw [hexDigit_toNat h]
  by_cases hten : n < 10
  · rw [if_pos hten, if_pos (by omega)]
    congr 1
    omega
  · rw [if_neg hten, if_neg (by omega), if_pos (by omega)]
    congr 1
    omega

theorem mem_hexDigits {width n : ℕ} {c : Char} (h : c ∈ hexDigits width n) :
    ∃ digit < 16, c = hexDigit digit := by
  induction width generalizing n with
  | zero => cases h
  | succ width ih =>
    rcases List.mem_append.mp h with hhigh | hlow
    · exact ih hhigh
    · exact ⟨n % 16, Nat.mod_lt n (by decide), List.mem_singleton.mp hlow⟩

theorem hexDigitsValue_append (lib : Library) {digits : List Char} {later : List Char}
    {value result : ℕ} {pending : Bool}
    (h : hexDigitsValue lib pending value digits = some result) :
    hexDigitsValue lib pending value (digits ++ later) = hexDigitsValue lib false result later := by
  induction digits generalizing pending value with
  | nil =>
    cases pending with
    | false =>
      rw [hexDigitsValue, if_neg Bool.false_ne_true, Option.some.injEq] at h
      rw [List.nil_append, h]
    | true =>
      rw [hexDigitsValue, if_pos rfl] at h
      cases h
  | cons c rest ih =>
    rw [hexDigitsValue] at h
    rw [List.cons_append, hexDigitsValue]
    rcases hdigit : hexValue lib c with _ | digit
    · rw [hdigit] at h
      by_cases hc : c = '_' ∧ pending = false
      · simp only [if_pos hc] at h ⊢
        exact ih h
      · simp only [if_neg hc] at h
        cases h
    · rw [hdigit] at h
      exact ih h

/-- What is read from the digits of a number is the number, up to the digits not shown. -/
theorem hexDigitsValue_hexDigits (lib : Library) (width n : ℕ) :
    hexDigitsValue lib true 0 (hexDigits (width + 1) n) = some (n % 16 ^ (width + 1)) := by
  have hlast (m : ℕ) (value : ℕ) (pending : Bool) :
      hexDigitsValue lib pending value [hexDigit (m % 16)] = some (16 * value + m % 16) := by
    rw [hexDigitsValue, hexValue_hexDigit lib (Nat.mod_lt m (by decide))]
    rfl
  induction width generalizing n with
  | zero =>
    rw [hexDigits, hexDigits, List.nil_append, hlast]
    simp
  | succ width ih =>
    rw [hexDigits, hexDigitsValue_append lib (ih (n / 16)), hlast, pow_succ' 16 (width + 1),
      Nat.mod_mul]
    congr 1
    omega

/-- Text without one of the characters of the needle has no occurrence of it. -/
theorem removeAll_of_not_mem {needle text : List Char} {c : Char} (hc : c ∈ needle)
    (h : c ∉ text) : removeAll needle 0 text = text := by
  induction text with
  | nil => rfl
  | cons d rest ih =>
    have hnot : needle.isPrefixOf (d :: rest) = false := by
      rw [← Bool.not_eq_true, List.isPrefixOf_iff_prefix]
      intro hstarts
      exact h (hstarts.subset hc)
    rw [removeAll, hnot, if_neg Bool.false_ne_true, ih fun hrest => h (List.mem_cons_of_mem d hrest)]

/-- The digits of a number have no mark. -/
theorem dropMark_hexDigits (lib : Library) (width n : ℕ) :
    dropMark lib (hexDigits width n) = hexDigits width n := by
  rcases h : hexDigits width n with _ | ⟨first, _ | ⟨second, rest⟩⟩
  · rfl
  · rfl
  · have hsecond : second ∈ hexDigits width n := by
      rw [h]
      exact List.mem_cons_of_mem _ List.mem_cons_self
    obtain ⟨digit, hlt, rfl⟩ := mem_hexDigits hsecond
    have hall : ∀ digit < 16, ¬(hexDigit digit = 'x' ∨ hexDigit digit = 'X') := by decide
    rw [dropMark, if_neg fun hmark => hall digit hlt hmark.2]

/-- The digits of a number need no stripping. -/
theorem strip_hexDigits (width n : ℕ) :
    (strip (String.ofList (hexDigits width n))).toList = hexDigits width n := by
  have hspace : ∀ c ∈ hexDigits width n, ¬isSpace c = true := by
    have hall : ∀ digit < 16, ¬isSpace (hexDigit digit) = true := by decide
    intro c hc
    obtain ⟨digit, hlt, rfl⟩ := mem_hexDigits hc
    exact hall digit hlt
  have hback : ∀ c ∈ (hexDigits width n).reverse, ¬isSpace c = true :=
    fun c hc => hspace c (List.mem_reverse.mp hc)
  rw [strip, String.toList_ofList, String.toList_ofList,
    List.dropWhile_eq_self_iff.mpr fun hlt => hspace _ (List.getElem_mem hlt),
    List.dropWhile_eq_self_iff.mpr fun hlt => hback _ (List.getElem_mem hlt), List.reverse_reverse]

/-- Digits in five groups are read as the digits. -/
theorem uuidDigits_groups {digits : List Char} (hlength : digits.length = 32)
    (hdigits : ∀ c ∈ digits, ∃ digit < 16, c = hexDigit digit) :
    uuidDigits (String.ofList ((digits.drop 0).take 8 ++ '-' :: (digits.drop 8).take 4 ++
      '-' :: (digits.drop 12).take 4 ++ '-' :: (digits.drop 16).take 4 ++
      '-' :: (digits.drop 20).take 12)) = digits := by
  have hall : ∀ digit < 16, hexDigit digit ≠ ':' ∧ ¬isBrace (hexDigit digit) = true ∧
      (hexDigit digit != '-') = true := by decide
  have hchar {c : Char} (hc : c ∈ digits) :
      c ≠ ':' ∧ ¬isBrace c = true ∧ (c != '-') = true := by
    obtain ⟨digit, hlt, rfl⟩ := hdigits c hc
    exact hall digit hlt
  have hgroup {start width : ℕ} {c : Char} (hc : c ∈ (digits.drop start).take width) :
      c ≠ ':' ∧ ¬isBrace c = true ∧ (c != '-') = true :=
    hchar (List.mem_of_mem_drop (List.mem_of_mem_take hc))
  have hkeep (start width : ℕ) : ((digits.drop start).take width).filter (fun c => c != '-') =
      (digits.drop start).take width :=
    List.filter_eq_self.mpr fun c hc => (hgroup hc).2.2
  have hlast : (digits.drop 20).take 12 = digits.drop 20 :=
    List.take_of_length_le (by rw [List.length_drop, hlength])
  have hsplit (start width : ℕ) : (digits.drop start).take width ++ digits.drop (start + width) =
      digits.drop start := by
    rw [← List.drop_drop, List.take_append_drop]
  have hfilter : ((digits.drop 0).take 8 ++ '-' :: (digits.drop 8).take 4 ++
      '-' :: (digits.drop 12).take 4 ++ '-' :: (digits.drop 16).take 4 ++
      '-' :: (digits.drop 20).take 12).filter (fun c => c != '-') = digits := by
    simp only [List.filter_append, List.filter_cons, hkeep, bne_self_eq_false,
      Bool.false_eq_true, if_false, List.append_assoc]
    rw [hlast, hsplit 16 4, hsplit 12 4, hsplit 8 4, hsplit 0 8, List.drop_zero]
  generalize htext : (digits.drop 0).take 8 ++ '-' :: (digits.drop 8).take 4 ++
      '-' :: (digits.drop 12).take 4 ++ '-' :: (digits.drop 16).take 4 ++
      '-' :: (digits.drop 20).take 12 = text at hfilter
  have hplain : ∀ c ∈ text, c ≠ ':' ∧ ¬isBrace c = true := by
    intro c hc
    by_cases hhyphen : c = '-'
    · subst hhyphen
      decide
    · have hmem : c ∈ text.filter fun c => c != '-' :=
        List.mem_filter.mpr ⟨hc, bne_iff_ne.mpr hhyphen⟩
      rw [hfilter] at hmem
      exact ⟨(hchar hmem).1, (hchar hmem).2.1⟩
  have hcolon : ':' ∉ text := fun h => (hplain ':' h).1 rfl
  have hurn : removeAll "urn:".toList 0 text = text := removeAll_of_not_mem (by decide) hcolon
  have huuid : removeAll "uuid:".toList 0 text = text := removeAll_of_not_mem (by decide) hcolon
  have htoList : (String.ofList text).toList = text := String.toList_ofList
  rw [uuidDigits, htoList, hurn, huuid,
    List.dropWhile_eq_self_iff.mpr fun hlt => (hplain _ (List.getElem_mem hlt)).2,
    List.rdropWhile_eq_self_iff.mpr fun hne => (hplain _ (List.getLast_mem hne)).2, hfilter]

/-- The number that a line of digits writes is read back. -/
theorem intOfHex_hexDigits (lib : Library) (width n : ℕ) :
    intOfHex lib (hexDigits (width + 1) n) = some (Int.ofNat (n % 16 ^ (width + 1))) := by
  have hunsigned : unsignedHex lib (hexDigits (width + 1) n) = some (n % 16 ^ (width + 1)) := by
    rw [unsignedHex, dropMark_hexDigits, hexDigitsValue_hexDigits]
  have hsign : ∀ digit < 16, hexDigit digit ≠ '-' ∧ hexDigit digit ≠ '+' := by decide
  have hfirst {c : Char} {rest : List Char} (h : hexDigits (width + 1) n = c :: rest) :
      c ≠ '-' ∧ c ≠ '+' := by
    obtain ⟨digit, hlt, rfl⟩ := mem_hexDigits (h ▸ List.mem_cons_self : c ∈ hexDigits (width + 1) n)
    exact hsign digit hlt
  unfold intOfHex
  rw [strip_hexDigits]
  split
  · next h => exact absurd rfl (hfirst h).1
  · next h => exact absurd rfl (hfirst h).2
  · rw [hunsigned, Option.map_some]

end Python
