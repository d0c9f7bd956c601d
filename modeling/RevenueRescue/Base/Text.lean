import Mathlib.Data.List.DropRight
import Mathlib.Data.List.Infix
import Mathlib.Data.List.Sort
import Mathlib.Data.List.TakeWhile
import Mathlib.Data.Rat.Floor
import RevenueRescue.Base.Python

/-!
# Text, numbers and digests in request bodies

How the source language reads a JSON body: default values, integer conversion, time stamps
as numbers, one regular expression, and the JSON text that a digest is taken of.

What depends on the Unicode tables, on the grammar of ISO 8601 or on a hash function is
collected in a `Library`, so that statements hold whatever these are.
-/

namespace Python

/-- The parts of the standard library that the program uses as they are. -/
structure Library where
  /-- The value of a Unicode decimal digit. -/
  decimal : Char → Option ℕ
  /-- The character class `\w`. -/
  isWord : Char → Bool
  /-- `datetime.fromisoformat`; `none` stands for its `ValueError`. -/
  fromisoformat : String → Option Datetime
  /-- `hashlib.sha256(bytes).hexdigest()`. -/
  sha256 : List UInt8 → String
  /-- `hmac.new(secret.encode(), bytes, hashlib.sha256).hexdigest()`. -/
  hmacSha256 : String → List UInt8 → String
  /-- `json.loads(bytes)`, or the text of the error it raises. -/
  loads : List UInt8 → Except String Json
  /-- `json.loads(bytes.decode("utf-8"))`, or the text of the error that either part raises. -/
  decodeAndLoad : List UInt8 → Except String Json

/-- `text.encode("utf-8")`. -/
def encode (text : String) : List UInt8 := text.toUTF8.data.toList

/-- `value or otherwise`. -/
def Json.or (value otherwise : Json) : Json := if value.truthy then value else otherwise

theorem Json.or_of_truthy {value : Json} (h : value.truthy = true) (otherwise : Json) :
    value.or otherwise = value :=
  if_pos h

theorem Json.or_of_not_truthy {value : Json} (h : ¬ value.truthy = true) (otherwise : Json) :
    value.or otherwise = otherwise :=
  if_neg h

/-- A string or `None`. -/
def Json.ofOption : Option String → Json
  | none => .null
  | some s => .str s

/-- `str(value) or None`. -/
def strOrNone (value : Json) : Option String :=
  let text := strJson value
  if text = "" then none else some text

/-- `d.get(key, default)`. -/
def Dict.getD (d : Dict) (key : String) (default : Json) : Json := (d.lookup key).getD default

/-- `key in value`, for the values that allow the question. -/
def Json.contains (key : String) : Json → Option Bool
  | .str s => some (isIn key s)
  | .arr items => some (items.any fun item => match item with | .str s => s == key | _ => false)
  | .obj fields => some (fields.lookup key).isSome
  | _ => none

/-- `text.replace(old, new)` for single characters. -/
def replaceChar (old new : Char) (text : String) : String :=
  String.ofList (text.toList.map fun c => if c = old then new else c)

/-- `text.replace("Z", "+00:00")`. -/
def replaceZ (text : String) : String :=
  String.ofList (text.toList.flatMap fun c => if c = 'Z' then "+00:00".toList else [c])

/-! ## Characters -/

theorem hexDigits_length (width n : ℕ) : (hexDigits width n).length = width := by
  induction width generalizing n with
  | zero => rfl
  | succ width ih => rw [hexDigits, List.length_append, ih, List.length_singleton]

theorem hexDigit_injective {m n : ℕ} (hm : m < 16) (hn : n < 16) (h : hexDigit m = hexDigit n) :
    m = n := by
  have hall : ∀ m < 16, ∀ n < 16, hexDigit m = hexDigit n → m = n := by decide
  exact hall m hm n hn h

/-- The digits tell a number up to the ones that are not shown. -/
theorem hexDigits_eq_iff (width m n : ℕ) :
    hexDigits width m = hexDigits width n ↔ m % 16 ^ width = n % 16 ^ width := by
  induction width generalizing m n with
  | zero => simp only [hexDigits, pow_zero, Nat.mod_one]
  | succ width ih =>
    rw [pow_succ', Nat.mod_mul, Nat.mod_mul, hexDigits, hexDigits]
    constructor
    · intro h
      obtain ⟨hhigh, hlow⟩ := List.append_inj' h rfl
      have hdigit := hexDigit_injective (Nat.mod_lt m (by decide)) (Nat.mod_lt n (by decide))
        (List.singleton_inj.mp hlow)
      rw [(ih _ _).mp hhigh, hdigit]
    · intro h
      have hlow : m % 16 = n % 16 := by omega
      have hhigh : m / 16 % 16 ^ width = n / 16 % 16 ^ width := by omega
      rw [(ih _ _).mpr hhigh, hlow]

/-- All digits but the last are those of the quotient. -/
theorem take_hexDigits (width n : ℕ) :
    (hexDigits (width + 1) n).take width = hexDigits width (n / 16) := by
  rw [hexDigits, List.take_left' (hexDigits_length width (n / 16))]

/-- Text in groups of the given widths, with a hyphen after each and the rest at the end. -/
def hyphenate : List ℕ → List Char → List Char
  | [], cs => cs
  | width :: widths, cs => cs.take width ++ '-' :: hyphenate widths (cs.drop width)

theorem hyphenate_inj (widths : List ℕ) {cs ds : List Char} (hlength : cs.length = ds.length) :
    hyphenate widths cs = hyphenate widths ds ↔ cs = ds := by
  induction widths generalizing cs ds with
  | nil => exact Iff.rfl
  | cons width widths ih =>
    constructor
    · intro h
      obtain ⟨hfront, hrest⟩ := List.append_inj h (by simp only [List.length_take, hlength])
      have hback := (ih (by simp only [List.length_drop, hlength])).mp (List.cons.inj hrest).2
      rw [← List.take_append_drop width cs, ← List.take_append_drop width ds, hfront, hback]
    · rintro rfl
      rfl

/-- Cutting in the last group cuts the text before it is grouped. -/
theorem take_hyphenate (widths : List ℕ) {n : ℕ} (cs : List Char) (hlength : widths.sum ≤ n)
    (hn : n ≤ cs.length) :
    (hyphenate widths cs).take (n + widths.length) = hyphenate widths (cs.take n) := by
  induction widths generalizing cs n with
  | nil => rfl
  | cons width widths ih =>
    rw [List.sum_cons] at hlength
    have hwidth : (cs.take width).length = width := List.length_take_of_le (by omega)
    have hcut : n + (width :: widths).length = width + ((n - width + widths.length) + 1) := by
      rw [List.length_cons]
      omega
    have hrest := ih (cs.drop width) (n := n - width) (by omega)
      (by rw [List.length_drop]; omega)
    rw [hyphenate, hyphenate, hcut, List.take_append, hwidth, List.take_of_length_le (by omega),
      Nat.add_sub_cancel_left, List.take_succ_cons, hrest, List.take_take,
      Nat.min_eq_left (by omega), List.drop_take]

/-- Text with a character that is no space is not blank. -/
theorem strip_ne_empty {s : String} {c : Char} (hc : c ∈ s.toList) (h : isSpace c = false) :
    strip s ≠ "" := by
  intro hempty
  unfold strip at hempty
  have hchars := congrArg String.toList hempty
  rw [String.toList_ofList] at hchars
  have hback := List.dropWhile_eq_nil_iff.mp (List.reverse_eq_nil_iff.mp hchars)
  have hfront : s.toList.dropWhile isSpace = [] := by
    rcases hrest : s.toList.dropWhile isSpace with _ | ⟨d, rest⟩
    · rfl
    · have hd := hback d (List.mem_reverse.mpr (hrest ▸ List.mem_cons_self))
      have hnonempty : s.toList.dropWhile isSpace ≠ [] := by rw [hrest]; exact List.cons_ne_nil d rest
      have hnot := List.head_dropWhile_not isSpace hnonempty
      simp only [hrest, List.head_cons] at hnot
      rw [hd] at hnot
      cases hnot
  have hspace := List.dropWhile_eq_nil_iff.mp hfront c hc
  rw [h] at hspace
  cases hspace

/-- Dropping from the front commutes with a mapping that keeps the dropped elements and starts
every other image with a kept one. -/
theorem dropWhile_flatMap {α : Type} {p : α → Bool} {f : α → List α}
    (hdropped : ∀ a, p a = true → f a = [a])
    (hkept : ∀ a, p a = false → ∃ b rest, f a = b :: rest ∧ p b = false) (l : List α) :
    (l.flatMap f).dropWhile p = (l.dropWhile p).flatMap f := by
  induction l with
  | nil => rfl
  | cons a rest ih =>
    rw [List.flatMap_cons]
    rcases h : p a with _ | _
    · obtain ⟨b, tail, hf, hb⟩ := hkept a h
      rw [List.dropWhile_cons_of_neg (by rw [h]; exact Bool.false_ne_true), List.flatMap_cons, hf,
        List.cons_append, List.dropWhile_cons_of_neg (by rw [hb]; exact Bool.false_ne_true)]
    · rw [hdropped a h, List.singleton_append, List.dropWhile_cons_of_pos h,
        List.dropWhile_cons_of_pos h, ih]

/-- A capital letter moves to its small one, and no other character changes. -/
theorem toNat_toLower (c : Char) :
    c.toLower.toNat = if 65 ≤ c.toNat ∧ c.toNat ≤ 90 then c.toNat + 32 else c.toNat := by
  unfold Char.toLower
  split
  · have hval : (c.val + 32).toNat = c.toNat + 32 := by
      grind [UInt32.toNat_add, UInt32.le_iff_toNat_le, Char.toNat_val]
    change (c.val + 32).toNat = _
    rw [hval]
    grind [UInt32.le_iff_toNat_le, Char.toNat_val]
  · grind [UInt32.le_iff_toNat_le, Char.toNat_val]

theorem toLower_of_not_capital {c : Char} (h : ¬ (65 ≤ c.toNat ∧ c.toNat ≤ 90)) :
    c.toLower = c := by
  have hcode := toNat_toLower c
  rw [if_neg h] at hcode
  exact Char.ext (UInt32.toNat_inj.mp hcode)

/-- The lower case of a character by its code. -/
theorem lowerChar_cases (c : Char) :
    (c.toNat = 0x130 ∧ lowerChar c = ['i', Char.ofNat 0x307]) ∨
    (c.toNat = 0x212a ∧ lowerChar c = ['k']) ∨
    (65 ≤ c.toNat ∧ c.toNat ≤ 90 ∧ lowerChar c = [c.toLower] ∧
      c.toLower.toNat = c.toNat + 32) ∨
    (c.toNat ≠ 0x130 ∧ c.toNat ≠ 0x212a ∧ ¬ (65 ≤ c.toNat ∧ c.toNat ≤ 90) ∧
      lowerChar c = [c]) := by
  unfold lowerChar
  split
  · exact .inl ⟨‹_›, rfl⟩
  · exact .inr (.inl ⟨‹_›, rfl⟩)
  · by_cases hcapital : 65 ≤ c.toNat ∧ c.toNat ≤ 90
    · refine .inr (.inr (.inl ⟨hcapital.1, hcapital.2, rfl, ?_⟩))
      rw [toNat_toLower, if_pos hcapital]
    · refine .inr (.inr (.inr ⟨‹_›, ‹_›, hcapital, ?_⟩))
      rw [toLower_of_not_capital hcapital]

theorem isSpace_iff (c : Char) : isSpace c = true ↔ (9 ≤ c.toNat ∧ c.toNat ≤ 13) ∨
    (28 ≤ c.toNat ∧ c.toNat ≤ 32) ∨ c.toNat = 0x85 ∨ c.toNat = 0xa0 ∨ c.toNat = 0x1680 ∨
    (0x2000 ≤ c.toNat ∧ c.toNat ≤ 0x200a) ∨ c.toNat = 0x2028 ∨ c.toNat = 0x2029 ∨
    c.toNat = 0x202f ∨ c.toNat = 0x205f ∨ c.toNat = 0x3000 := by
  simp [isSpace, or_assoc]

/-- A space has no other case. -/
theorem lowerChar_of_isSpace {c : Char} (h : isSpace c = true) : lowerChar c = [c] := by
  have hcode := (isSpace_iff c).mp h
  rcases lowerChar_cases c with ⟨hc, -⟩ | ⟨hc, -⟩ | ⟨hlow, hhigh, -⟩ | ⟨-, -, -, hlower⟩
  · omega
  · omega
  · omega
  · exact hlower

/-- The lower case of what is no space has no space. -/
theorem lowerChar_of_not_isSpace {c : Char} (h : isSpace c = false) :
    ∀ d ∈ lowerChar c, isSpace d = false := by
  intro d hd
  rcases lowerChar_cases c with
    ⟨-, hlower⟩ | ⟨-, hlower⟩ | ⟨hlow, hhigh, hlower, hcode⟩ | ⟨-, -, -, hlower⟩
  · rw [hlower] at hd
    rcases List.mem_cons.mp hd with rfl | hd
    · decide
    · rw [List.mem_singleton.mp hd]
      decide
  · rw [hlower] at hd
    rw [List.mem_singleton.mp hd]
    decide
  · rw [hlower] at hd
    rw [List.mem_singleton.mp hd, Bool.eq_false_iff, ne_eq, isSpace_iff]
    omega
  · rw [hlower] at hd
    rw [List.mem_singleton.mp hd]
    exact h

theorem lowerChar_ne_nil (c : Char) : lowerChar c ≠ [] := by
  unfold lowerChar
  split <;> exact List.cons_ne_nil _ _

/-- Stripping and lower casing commute. -/
theorem strip_lower (s : String) : strip (lower s) = lower (strip s) := by
  unfold strip lower
  rw [String.toList_ofList, String.toList_ofList]
  have hfront := dropWhile_flatMap (fun c h => lowerChar_of_isSpace h) (fun c h => by
    obtain ⟨d, rest, hd⟩ := List.exists_cons_of_ne_nil (lowerChar_ne_nil c)
    exact ⟨d, rest, hd, lowerChar_of_not_isSpace h d (hd ▸ List.mem_cons_self)⟩) s.toList
  have hback := dropWhile_flatMap (f := List.reverse ∘ lowerChar)
    (fun c h => congrArg List.reverse (lowerChar_of_isSpace h)) (fun c h => by
      obtain ⟨d, rest, hd⟩ := List.exists_cons_of_ne_nil
        (List.reverse_ne_nil_iff.mpr (lowerChar_ne_nil c))
      exact ⟨d, rest, hd, lowerChar_of_not_isSpace h d
        (List.mem_reverse.mp (hd ▸ List.mem_cons_self))⟩) (s.toList.dropWhile isSpace).reverse
  rw [hfront, List.reverse_flatMap, hback, List.reverse_flatMap]
  simp [Function.comp_def]

theorem strip_strip (s : String) : strip (strip s) = strip s := by
  change String.ofList (((strip s).toList.dropWhile isSpace).rdropWhile isSpace) = _
  have hstrip : (strip s).toList = (s.toList.dropWhile isSpace).rdropWhile isSpace :=
    String.toList_ofList
  have hfront : (strip s).toList.dropWhile isSpace = (strip s).toList := by
    rw [hstrip, List.dropWhile_eq_self_iff]
    intro hnonempty
    have hprefix := List.rdropWhile_prefix isSpace (s.toList.dropWhile isSpace)
    have hlong : 0 < (s.toList.dropWhile isSpace).length := hnonempty.trans_le hprefix.length_le
    rw [List.IsPrefix.getElem hprefix hnonempty]
    exact List.dropWhile_get_zero_not isSpace s.toList hlong
  rw [hfront, hstrip, List.rdropWhile_idempotent]
  rfl

theorem lower_lower (s : String) : lower (lower s) = lower s := by
  unfold lower
  rw [String.toList_ofList, List.flatMap_assoc]
  congr 2
  funext c
  rcases lowerChar_cases c with ⟨-, h⟩ | ⟨-, h⟩ | ⟨hlow, hhigh, h, hcode⟩ | ⟨-, -, -, h⟩
  · rw [h]
    decide
  · rw [h]
    decide
  · rw [h, List.flatMap_singleton]
    rcases lowerChar_cases c.toLower with ⟨hc, -⟩ | ⟨hc, -⟩ | ⟨hlow', hhigh', -⟩ | ⟨-, -, -, h'⟩
    · omega
    · omega
    · omega
    · exact h'
  · rw [h, List.flatMap_singleton, h]

/-! ## Integers -/

/-- The value of digits that single underscores may separate; `pending` says that a digit must
come next. -/
def digitsValue (lib : Library) : Bool → ℕ → List Char → Option ℕ
  | pending, value, [] => if pending then none else some value
  | pending, value, c :: rest =>
    match lib.decimal c with
    | some digit => digitsValue lib false (10 * value + digit) rest
    | none => if c = '_' ∧ pending = false then digitsValue lib true value rest else none

/-- The most digits that `int` reads. -/
def maxStrDigits : ℕ := 4300

/-- `int(text)`; `none` stands for its `ValueError`. -/
def intOfString (lib : Library) (text : String) : Option ℤ :=
  let unsigned (digits : List Char) : Option ℤ :=
    if maxStrDigits < digits.countP fun c => (lib.decimal c).isSome then none
    else (digitsValue lib true 0 digits).map Int.ofNat
  match (strip text).toList with
  | '-' :: digits => (unsigned digits).map Neg.neg
  | '+' :: digits => unsigned digits
  | digits => unsigned digits

/-- The integer next to a number in the direction of zero. -/
def truncate (x : ℚ) : ℤ := if 0 ≤ x then x.floor else -(-x).floor

/-- The nearest integer, the even one of two. -/
def roundHalfEven (x : ℚ) : ℤ :=
  let below := x.floor
  let rest := x - below
  if rest < 1 / 2 then below
  else if 1 / 2 < rest then below + 1
  else if below % 2 = 0 then below
  else below + 1

example : roundHalfEven (5 / 2) = 2 ∧ roundHalfEven (-7 / 2) = -4 ∧ truncate (-7 / 2) = -3 := by
  decide +kernel

/-- `f"{x:.2f}"`. -/
def fixed2 (x : ℚ) : String :=
  let cents := roundHalfEven (x * 100)
  (if cents < 0 then "-" else "") ++ toString (cents.natAbs / 100) ++ "." ++
    Datetime.padded 2 (cents.natAbs % 100)

example : fixed2 (3 / 5) = "0.60" := by
  decide +kernel

/-! ## Time stamps -/

/-- `datetime.fromtimestamp(seconds, tz=timezone.utc)`; `none` stands for the error it raises
outside the years 1 to 9999. -/
def Datetime.fromtimestamp (seconds : ℚ) : Option Datetime :=
  let wall := roundHalfEven (seconds * 1000000)
  if -62135596800 * 1000000 ≤ wall ∧ wall < 253402300800 * 1000000 then some ⟨wall, some 0⟩
  else none

/-! ## Card numbers -/

/-- Whether one of the two characters around a position is a word character and the other, if
there is one, is not. -/
def isBoundary (lib : Library) (before after : Option Char) : Bool :=
  before.any lib.isWord != after.any lib.isWord

/-- Match the rest of `(?:\d[ -]*?){13,19}\b` after so many digits. -/
def matchCardDigits (lib : Library) (digits : ℕ) (before : Option Char) : List Char → Bool
  | [] => decide (13 ≤ digits ∧ digits ≤ 19) && isBoundary lib before none
  | c :: rest =>
    (decide (13 ≤ digits ∧ digits ≤ 19) && isBoundary lib before (some c)) ||
      if (lib.decimal c).isSome then
        decide (digits < 19) && matchCardDigits lib (digits + 1) (some c) rest
      else
        (c == ' ' || c == '-') && decide (0 < digits) && matchCardDigits lib digits (some c) rest

/-- Search for `\b(?:\d[ -]*?){13,19}\b` from a position on. -/
def searchCardNumber (lib : Library) (before : Option Char) : List Char → Bool
  | [] => false
  | c :: rest =>
    (isBoundary lib before (some c) && matchCardDigits lib 0 before (c :: rest)) ||
      searchCardNumber lib (some c) rest

/-! ## JSON text -/

/-- One character as `json.dumps` writes it inside a string. -/
def dumpsChar (c : Char) : List Char :=
  let n := c.toNat
  if c = '"' then ['\\', '"']
  else if c = '\\' then ['\\', '\\']
  else if c = '\n' then ['\\', 'n']
  else if c = '\r' then ['\\', 'r']
  else if c = '\t' then ['\\', 't']
  else if n = 8 then ['\\', 'b']
  else if n = 12 then ['\\', 'f']
  else if 32 ≤ n ∧ n ≤ 126 then [c]
  else if n < 0x10000 then '\\' :: 'u' :: hexDigits 4 n
  else
    '\\' :: 'u' :: hexDigits 4 (0xd800 + (n - 0x10000) / 0x400) ++
      '\\' :: 'u' :: hexDigits 4 (0xdc00 + (n - 0x10000) % 0x400)

def dumpsStr (s : String) : String := "\"" ++ String.ofList (s.toList.flatMap dumpsChar) ++ "\""

/-- The entries of an object in the order of their keys. -/
def sortEntries (entries : List (String × String)) : List (String × String) :=
  entries.insertionSort fun a b => a.1 ≤ b.1

mutual
/-- `json.dumps(value, sort_keys=True)`. -/
def dumps : Json → String
  | .null => "null"
  | .bool b => if b then "true" else "false"
  | .int n => toString n
  | .float x => floatStr x
  | .inf negative => if negative then "-Infinity" else "Infinity"
  | .nan => "NaN"
  | .str s => dumpsStr s
  | .arr items => "[" ++ String.intercalate ", " (dumpsItems items) ++ "]"
  | .obj fields =>
    let entries := (sortEntries (dumpsFields fields)).map fun e => dumpsStr e.1 ++ ": " ++ e.2
    "\x7b" ++ String.intercalate ", " entries ++ "\x7d"

/-- The texts of the items of a list. -/
def dumpsItems : List Json → List String
  | [] => []
  | item :: rest => dumps item :: dumpsItems rest

/-- The keys of a dictionary with the texts of their values. -/
def dumpsFields : List (String × Json) → List (String × String)
  | [] => []
  | (key, value) :: rest => (key, dumps value) :: dumpsFields rest
end

example : dumps (.obj [("b", .arr [.int 1, .null]), ("a", .str "é\n")]) =
    "\x7b\"a\": \"\\u00e9\\n\", \"b\": [1, null]\x7d" := by
  decide +kernel

/-! ## Patterns -/

/-- A character that a pattern matches with nothing but itself. -/
def isLiteral (c : Char) : Bool := c != '%' && c != '_' && !c.isAlpha

theorem isAlpha_iff (c : Char) : c.isAlpha = true ↔
    (65 ≤ c.toNat ∧ c.toNat ≤ 90) ∨ (97 ≤ c.toNat ∧ c.toNat ≤ 122) := by
  unfold Char.isAlpha Char.isUpper Char.isLower
  simp only [Bool.or_eq_true, Bool.and_eq_true, decide_eq_true_eq, ge_iff_le,
    UInt32.le_iff_toNat_le, ← Char.toNat_val]
  rfl

/-- A letter has another case. -/
theorem exists_otherCase {c : Char} (h : c.isAlpha = true) :
    ∃ d : Char, d ≠ c ∧ d.toLower = c.toLower := by
  have hcode : ∀ {a b : Char}, a.toNat = b.toNat → a = b :=
    fun h => Char.ext (UInt32.toNat_inj.mp h)
  rcases (isAlpha_iff c).mp h with hcapital | hsmall
  · refine ⟨c.toLower, fun hsame => ?_, hcode ?_⟩
    · have hlower := toNat_toLower c
      rw [if_pos hcapital, hsame] at hlower
      omega
    · rw [toNat_toLower c.toLower, toNat_toLower c, if_pos hcapital]
      exact if_neg (by omega)
  · have hupper : (Char.ofNat (c.toNat - 32)).toNat = c.toNat - 32 := by
      have hvalid : (c.toNat - 32).isValidChar := .inl (by omega)
      unfold Char.ofNat
      rw [dif_pos hvalid]
      rfl
    refine ⟨Char.ofNat (c.toNat - 32), fun hsame => ?_, hcode ?_⟩
    · rw [hsame] at hupper
      omega
    · rw [toNat_toLower, toNat_toLower, hupper, if_pos (by omega), if_neg (by omega)]
      omega

/-- A literal character is alone in its case. -/
theorem toLower_eq_iff {p c : Char} (h : p.isAlpha = false) : p.toLower = c.toLower ↔ p = c := by
  refine ⟨fun hsame => Char.ext (UInt32.toNat_inj.mp ?_), congrArg Char.toLower⟩
  have hp : ¬((65 ≤ p.toNat ∧ p.toNat ≤ 90) ∨ (97 ≤ p.toNat ∧ p.toNat ≤ 122)) := by
    rw [← isAlpha_iff, h]
    exact Bool.false_ne_true
  have hcodes := congrArg Char.toNat hsame
  rw [toNat_toLower, toNat_toLower, if_neg (fun hcapital => hp (.inl hcapital))] at hcodes
  change p.toNat = c.toNat
  split_ifs at hcodes with hcapital <;> omega

theorem isIn_iff (needle s : String) : isIn needle s = true ↔ needle.toList <:+: s.toList := by
  unfold isIn
  rw [List.any_eq_true, List.infix_iff_prefix_suffix]
  simp only [List.mem_tails, List.isPrefixOf_iff_prefix]
  exact exists_congr fun t => and_comm

/-- Everything matches what is left of a pattern that ends in a wildcard. -/
theorem likeChars_percent (text : List Char) : likeChars ['%'] text = true := by
  refine List.any_eq_true.mpr ⟨[], (List.mem_tails ..).mpr List.nil_suffix, rfl⟩

/-- A pattern without wildcards and letters is matched by itself alone. -/
theorem likeChars_literal {pattern : List Char} (h : ∀ c ∈ pattern, isLiteral c = true)
    (text : List Char) : likeChars (pattern ++ ['%']) text = pattern.isPrefixOf text := by
  induction pattern generalizing text with
  | nil => rw [List.nil_append, likeChars_percent, List.isPrefixOf_nil_left]
  | cons p pattern ih =>
    have hp := h p List.mem_cons_self
    unfold isLiteral at hp
    simp only [Bool.and_eq_true, bne_iff_ne, Bool.not_eq_true', ne_eq] at hp
    obtain ⟨⟨hpercent, hunderscore⟩, halpha⟩ := hp
    rw [List.cons_append, likeChars.eq_def]
    dsimp only
    rw [if_neg hpercent]
    cases text with
    | nil => rfl
    | cons c rest =>
      have hsame : (p == '_' || p.toLower == c.toLower) = (p == c) := by
        rw [beq_eq_false_iff_ne.mpr hunderscore, Bool.false_or, Bool.eq_iff_iff, beq_iff_eq,
          beq_iff_eq, toLower_eq_iff halpha]
      dsimp only
      rw [hsame, ih (fun c hc => h c (List.mem_cons_of_mem _ hc)), List.isPrefixOf_cons_cons]

/-- A text matches every pattern that it matches after a common beginning. -/
theorem likeChars_append (start : List Char) {pattern text : List Char}
    (h : likeChars pattern text = true) : likeChars (start ++ pattern) (start ++ text) = true := by
  induction start with
  | nil => exact h
  | cons c start ih =>
    rw [List.cons_append, List.cons_append, likeChars.eq_def]
    dsimp only
    split_ifs with hpercent
    · exact List.any_eq_true.mpr ⟨start ++ text,
        (List.mem_tails ..).mpr (List.suffix_cons _ _), ih⟩
    · simp only [beq_self_eq_true, Bool.or_true, Bool.true_and]
      exact ih

/-- What matches the rest of a pattern that begins with something else than a literal: another
text of at most one character in its place. -/
theorem exists_variant {c : Char} (h : isLiteral c = false) :
    ∃ variant : List Char, variant.length ≤ 1 ∧ variant ≠ [c] ∧
      ∀ pattern text, likeChars pattern text = true →
        likeChars (c :: pattern) (variant ++ text) = true := by
  by_cases hpercent : c = '%'
  · refine ⟨[], Nat.zero_le 1, (List.cons_ne_nil _ _).symm, fun pattern text hmatch => ?_⟩
    rw [likeChars.eq_def]
    dsimp only
    rw [if_pos hpercent]
    exact List.any_eq_true.mpr ⟨text, (List.mem_tails ..).mpr (List.suffix_refl _), hmatch⟩
  by_cases hunderscore : c = '_'
  · subst hunderscore
    refine ⟨['x'], Nat.le_refl 1, by decide, fun pattern text hmatch => ?_⟩
    rw [List.singleton_append, likeChars, if_neg hpercent]
    exact hmatch
  · have halpha : c.isAlpha = true := by
      unfold isLiteral at h
      rw [bne_iff_ne.mpr hpercent, bne_iff_ne.mpr hunderscore] at h
      simpa using h
    obtain ⟨d, hne, hlower⟩ := exists_otherCase halpha
    refine ⟨[d], Nat.le_refl 1, fun hsame => hne (List.cons.inj hsame).1,
      fun pattern text hmatch => ?_⟩
    rw [List.singleton_append, likeChars, if_neg hpercent]
    rw [hlower, beq_self_eq_true, Bool.or_true, Bool.true_and]
    exact hmatch

theorem like_within (text ref : String) : like text ("%" ++ ref ++ "%") =
    text.toList.tails.any fun rest => likeChars (ref.toList ++ ['%']) rest := by
  unfold like
  rw [String.toList_append, String.toList_append]
  rfl

/-- A text that contains another matches the pattern that looks for it. -/
theorem like_within_of_isIn {ref text : String} (h : isIn ref text = true) :
    like text ("%" ++ ref ++ "%") = true := by
  obtain ⟨start, rest, htext⟩ := (isIn_iff ref text).mp h
  rw [like_within, ← htext, List.append_assoc]
  refine List.any_eq_true.mpr ⟨ref.toList ++ rest,
    (List.mem_tails ..).mpr (List.suffix_append _ _), ?_⟩
  exact likeChars_append ref.toList (likeChars_percent rest)

/-- The pattern that looks for a text inside another finds just the texts that contain it
exactly when it has neither a wildcard nor a letter. -/
theorem like_within_eq_isIn_iff {ref : String} :
    (∀ text, like text ("%" ++ ref ++ "%") = isIn ref text) ↔
      ∀ c ∈ ref.toList, isLiteral c = true := by
  constructor
  · intro hsame
    by_contra hnot
    push Not at hnot
    obtain ⟨c, hc, hvaries⟩ := hnot
    rw [ne_eq, Bool.not_eq_true] at hvaries
    obtain ⟨start, rest, href⟩ := List.mem_iff_append.mp hc
    obtain ⟨variant, hlength, hne, hmatch⟩ := exists_variant hvaries
    have hlike : like (String.ofList (start ++ (variant ++ rest))) ("%" ++ ref ++ "%") = true := by
      rw [like_within, href, String.toList_ofList, List.append_assoc]
      refine List.any_eq_true.mpr ⟨_, (List.mem_tails ..).mpr (List.suffix_refl _), ?_⟩
      refine likeChars_append start (hmatch _ _ ?_)
      have hend := likeChars_append rest (likeChars_percent [])
      rwa [List.append_nil] at hend
    rw [hsame, isIn_iff, href, String.toList_ofList] at hlike
    have hshort := hlike.length_le
    have hequal := hlike.eq_of_length (by
      simp only [List.length_append, List.length_cons] at hshort ⊢
      omega)
    apply hne
    rw [List.append_cancel_left_eq, ← List.singleton_append] at hequal
    exact (List.append_cancel_right hequal).symm
  · intro hliteral text
    rw [like_within]
    unfold isIn
    congr 1
    funext rest
    exact likeChars_literal hliteral rest

end Python
