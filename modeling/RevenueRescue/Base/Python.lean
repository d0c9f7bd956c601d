import Mathlib.Data.Rat.Defs

/-!
# The parts of the source language the program rests on

Strings are read through their characters. Case mapping covers ASCII and the few other
letters whose upper or lower case is ASCII; every table the program compares with is
ASCII, so the remaining letters cannot change a comparison. Timestamps carry the wall
clock in microseconds and an optional offset, and comparing a naive timestamp with an
aware one is an error, which is returned as `none`.
-/

namespace Python

/-- The characters that `str.strip` removes. -/
def isSpace (c : Char) : Bool :=
  let n := c.toNat
  (9 ≤ n && n ≤ 13) || (28 ≤ n && n ≤ 32) || n == 0x85 || n == 0xa0 || n == 0x1680 ||
    (0x2000 ≤ n && n ≤ 0x200a) || n == 0x2028 || n == 0x2029 || n == 0x202f || n == 0x205f ||
    n == 0x3000

/-- `str.strip()`. -/
def strip (s : String) : String :=
  String.ofList ((s.toList.dropWhile isSpace).reverse.dropWhile isSpace).reverse

/-- The upper case of one character, which may be several characters. -/
def upperChar (c : Char) : List Char :=
  match c.toNat with
  | 0xdf => ['S', 'S']
  | 0x131 => ['I']
  | 0x17f => ['S']
  | 0xfb00 => ['F', 'F']
  | 0xfb01 => ['F', 'I']
  | 0xfb02 => ['F', 'L']
  | 0xfb03 => ['F', 'F', 'I']
  | 0xfb04 => ['F', 'F', 'L']
  | 0xfb05 => ['S', 'T']
  | 0xfb06 => ['S', 'T']
  | _ => [c.toUpper]

/-- `str.upper()`. -/
def upper (s : String) : String := String.ofList (s.toList.flatMap upperChar)

/-- The lower case of one character. -/
def lowerChar (c : Char) : List Char :=
  match c.toNat with
  | 0x130 => ['i', Char.ofNat 0x307]
  | 0x212a => ['k']
  | _ => [c.toLower]

/-- `str.lower()`. -/
def lower (s : String) : String := String.ofList (s.toList.flatMap lowerChar)

/-- `s.startswith(start)`. -/
def startsWith (s start : String) : Bool := start.toList.isPrefixOf s.toList

/-- `needle in s` for strings. -/
def isIn (needle s : String) : Bool := s.toList.tails.any needle.toList.isPrefixOf

/-- The SQL pattern match `text LIKE pattern`, which ignores ASCII case. -/
def likeChars : List Char → List Char → Bool
  | [], text => text.isEmpty
  | p :: pattern, text =>
    if p = '%' then text.tails.any fun rest => likeChars pattern rest
    else
      match text with
      | [] => false
      | c :: rest => (p == '_' || p.toLower == c.toLower) && likeChars pattern rest

/-- `column.like(pattern)`. -/
def like (text pattern : String) : Bool := likeChars pattern.toList text.toList

/-- A string column or reference that is set and not empty. -/
def truthy (s : Option String) : Bool := s.any (· ≠ "")

/-- `a or b` for two references. -/
def eitherReference (a b : Option String) : Option String := if truthy a then a else b

/-- The first reference that is set and not empty, as `a or b` gives it. -/
def firstTruthy (first : Option String) (otherwise : String) : String :=
  match first with
  | some s => if s = "" then otherwise else s
  | none => otherwise

/-- One hexadecimal digit. -/
def hexDigit (n : ℕ) : Char :=
  if n < 10 then Char.ofNat (48 + n) else Char.ofNat (87 + n)

/-- The lowest `width` hexadecimal digits of a number, the highest of them first. -/
def hexDigits : ℕ → ℕ → List Char
  | 0, _ => []
  | width + 1, n => hexDigits width (n / 16) ++ [hexDigit (n % 16)]

/-- A JSON value as the program's dictionaries hold it. A number beyond the range of a float is
read as an infinite one. -/
inductive Json where
  | null
  | bool (b : Bool)
  | int (n : ℤ)
  | float (x : ℚ)
  | inf (negative : Bool)
  | nan
  | str (s : String)
  | arr (items : List Json)
  | obj (fields : List (String × Json))
  deriving Repr

/-- A dictionary: its keys in the order of insertion, each once. -/
abbrev Dict := List (String × Json)

namespace Json

/-- Python's truth value. -/
def truthy : Json → Bool
  | .null => false
  | .bool b => b
  | .int n => n ≠ 0
  | .float x => x ≠ 0
  | .inf _ => true
  | .nan => true
  | .str s => s ≠ ""
  | .arr items => !items.isEmpty
  | .obj fields => !fields.isEmpty

/-- `value + 1`, defined on numbers only. -/
def addOne : Json → Option Json
  | .bool b => some (.int (if b then 2 else 1))
  | .int n => some (.int (n + 1))
  | .float x => some (.float (x + 1))
  | .inf negative => some (.inf negative)
  | .nan => some .nan
  | _ => none

end Json

/-- The decimal digits after the point, without trailing zeros and at least one. -/
def fractionDigits : ℕ → ℚ → List Char
  | 0, _ => []
  | fuel + 1, x =>
    let digit := (x * 10).floor
    let rest := x * 10 - digit
    Char.ofNat (48 + digit.toNat) :: if rest = 0 then [] else fractionDigits fuel rest

/-- `str` of a float, in positional notation with at most seventeen decimals. -/
def floatStr (x : ℚ) : String :=
  let magnitude := if x < 0 then -x else x
  let whole := magnitude.floor.toNat
  (if x < 0 then "-" else "") ++ toString whole ++ "." ++
    String.ofList (fractionDigits 17 (magnitude - whole))

/-- `repr` of a string. -/
def reprStr (s : String) : String :=
  let quote := if s.toList.contains '\'' && !s.toList.contains '"' then '"' else '\''
  let escaped := s.toList.flatMap fun c =>
    if c = '\\' then ['\\', '\\']
    else if c = quote then ['\\', quote]
    else if c = '\n' then ['\\', 'n']
    else if c = '\r' then ['\\', 'r']
    else if c = '\t' then ['\\', 't']
    else if c.toNat < 32 || c.toNat = 127 then '\\' :: 'x' :: hexDigits 2 c.toNat
    else [c]
  String.ofList (quote :: escaped ++ [quote])

mutual
/-- `repr` of a JSON value. -/
def reprJson : Json → String
  | .null => "None"
  | .bool b => if b then "True" else "False"
  | .int n => toString n
  | .float x => floatStr x
  | .inf negative => if negative then "-inf" else "inf"
  | .nan => "nan"
  | .str s => reprStr s
  | .arr items => "[" ++ reprItems items ++ "]"
  | .obj fields => "\x7b" ++ reprFields fields ++ "\x7d"

/-- The items of a list, separated by commas. -/
def reprItems : List Json → String
  | [] => ""
  | [item] => reprJson item
  | item :: rest => reprJson item ++ ", " ++ reprItems rest

/-- The entries of a dictionary, separated by commas. -/
def reprFields : List (String × Json) → String
  | [] => ""
  | [(key, value)] => reprStr key ++ ": " ++ reprJson value
  | (key, value) :: rest => reprStr key ++ ": " ++ reprJson value ++ ", " ++ reprFields rest
end

/-- `str` of a JSON value, as an f-string shows it. -/
def strJson : Json → String
  | .str s => s
  | value => reprJson value

namespace Dict

/-- `d.get(key)`, with `None` for a missing key. -/
def get (d : Dict) (key : String) : Json := (d.lookup key).getD .null

/-- `d[key] = value`. -/
def set : Dict → String → Json → Dict
  | [], key, value => [(key, value)]
  | (k, v) :: rest, key, value =>
    if k = key then (k, value) :: rest else (k, v) :: set rest key value

/-- `d.update(other)`, also written as `{**d, **other}`. -/
def update (d other : Dict) : Dict := other.foldl (fun acc entry => set acc entry.1 entry.2) d

@[simp] theorem lookup_set_same (d : Dict) (key : String) (value : Json) :
    (set d key value).lookup key = some value := by
  induction d with
  | nil => simp [set]
  | cons entry rest ih =>
    by_cases h : entry.1 = key
    · simp [set, h]
    · have hne : (key == entry.1) = false := beq_eq_false_iff_ne.mpr (Ne.symm h)
      simp only [set, if_neg h, List.lookup_cons, hne]
      exact ih

theorem lookup_set_other (d : Dict) {key other : String} (value : Json) (hne : key ≠ other) :
    (set d key value).lookup other = d.lookup other := by
  have hother : (other == key) = false := beq_eq_false_iff_ne.mpr hne.symm
  induction d with
  | nil => simp only [set, List.lookup_cons, List.lookup_nil, hother]
  | cons entry rest ih =>
    obtain ⟨k, v⟩ := entry
    by_cases h : k = key
    · subst h
      simp only [set, if_true, List.lookup_cons, hother]
    · simp only [set, if_neg h, List.lookup_cons]
      rcases other == k with _ | _
      · exact ih
      · rfl

/-- Entries under other keys leave the entry of a key as it was. -/
theorem lookup_update_other (d : Dict) {other : Dict} {key : String}
    (h : ∀ entry ∈ other, entry.1 ≠ key) : (update d other).lookup key = d.lookup key := by
  unfold update
  induction other generalizing d with
  | nil => rfl
  | cons entry rest ih =>
    rw [List.foldl_cons, ih (set d entry.1 entry.2) fun e he => h e (List.mem_cons_of_mem _ he)]
    exact lookup_set_other d entry.2 (h entry List.mem_cons_self)

@[simp] theorem get_set_same (d : Dict) (key : String) (value : Json) :
    get (set d key value) key = value := by
  unfold get
  rw [lookup_set_same]
  rfl

theorem get_set_other (d : Dict) {key other : String} (value : Json) (hne : key ≠ other) :
    get (set d key value) other = get d other := by
  unfold get
  rw [lookup_set_other _ _ hne]

/-- Entries under other keys leave the value of a key as it was. -/
theorem get_update_other (d : Dict) {other : Dict} {key : String}
    (h : ∀ entry ∈ other, entry.1 ≠ key) : get (update d other) key = get d key := by
  unfold get
  rw [lookup_update_other _ h]

end Dict

/-- A timestamp: its wall clock in microseconds since the epoch, and its offset if it has one. -/
structure Datetime where
  wall : ℤ
  utcoffset : Option ℤ
  deriving DecidableEq, Repr

namespace Datetime

/-- The microseconds in one hour. -/
def hour : ℤ := 3600 * 1000000

/-- Without the offset, as a timestamp comes back from a column without a time zone. -/
def naive (t : Datetime) : Datetime := { t with utcoffset := none }

/-- `t.replace(tzinfo=timezone.utc)` for a timestamp that has no offset. -/
def assumeUtc (t : Datetime) : Datetime :=
  match t.utcoffset with
  | none => { t with utcoffset := some 0 }
  | some _ => t

/-- The point on the UTC time line, for a timestamp read as UTC when it has no offset. -/
def instant (t : Datetime) : ℤ := t.wall - t.utcoffset.getD 0

/-- `datetime.min.replace(tzinfo=timezone.utc)`. -/
def minUtc : Datetime := ⟨-62135596800 * 1000000, some 0⟩

/-- `a < b`; `none` when only one of the two has an offset. -/
def lt? (a b : Datetime) : Option Bool :=
  if a.utcoffset.isSome = b.utcoffset.isSome then some (decide (a.instant < b.instant)) else none

/-- The timestamp so many hours later. -/
def plusHours (t : Datetime) (hours : ℤ) : Datetime := { t with wall := t.wall + hours * hour }

/-- The civil year, month and day of the wall clock. -/
def civilDate (t : Datetime) : ℤ × ℤ × ℤ :=
  let days := t.wall / (24 * hour) + 719468
  let era := days / 146097
  let dayOfEra := days % 146097
  let yearOfEra := (dayOfEra - dayOfEra / 1460 + dayOfEra / 36524 - dayOfEra / 146096) / 365
  let dayOfYear := dayOfEra - (365 * yearOfEra + yearOfEra / 4 - yearOfEra / 100)
  let shifted := (5 * dayOfYear + 2) / 153
  let month := if shifted < 10 then shifted + 3 else shifted - 9
  (yearOfEra + era * 400 + (if month ≤ 2 then 1 else 0), month,
    dayOfYear - (153 * shifted + 2) / 5 + 1)

/-- A number with leading zeros up to a width. -/
def padded (width : ℕ) (n : ℤ) : String :=
  let digits := (toString n.toNat).toList
  String.ofList (List.replicate (width - digits.length) '0' ++ digits)

/-- `t.strftime("%Y%m")`. -/
def strftimeYearMonth (t : Datetime) : String :=
  let (year, month, _) := t.civilDate
  toString year ++ padded 2 month

/-- `t.isoformat()`, for offsets of whole minutes. -/
def isoformat (t : Datetime) : String :=
  let (year, month, day) := t.civilDate
  let micros := t.wall % (24 * hour)
  let fraction := micros % 1000000
  let seconds := micros / 1000000
  let offset :=
    match t.utcoffset with
    | none => ""
    | some micros =>
      let minutes := micros.natAbs / 60000000
      (if micros < 0 then "-" else "+") ++ padded 2 (minutes / 60) ++ ":" ++
        padded 2 (minutes % 60)
  padded 4 year ++ "-" ++ padded 2 month ++ "-" ++ padded 2 day ++ "T" ++
    padded 2 (seconds / 3600) ++ ":" ++ padded 2 (seconds / 60 % 60) ++ ":" ++
    padded 2 (seconds % 60) ++ (if fraction = 0 then "" else "." ++ padded 6 fraction) ++ offset

example : (Datetime.mk (20000 * 24 * hour + hour) (some 0)).isoformat =
    "2024-10-04T01:00:00+00:00" := by decide +kernel

/-- A timestamp in the JSON of a schema, which writes UTC as `Z`. -/
def json (t : Datetime) : String :=
  if t.utcoffset = some 0 then t.naive.isoformat ++ "Z" else t.isoformat

end Datetime

end Python
