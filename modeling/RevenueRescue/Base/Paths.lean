import RevenueRescue.Base.Text

/-!
# Places in a JSON value

A path names at most one place of a value, by the indices of lists and the keys of dictionaries
on the way to it. A statement about a value at every depth is a statement about every path.
-/

namespace Python

/-- One step into a value: to an item of a list, or to the value of a key. -/
inductive Place where
  | item (i : ℕ)
  | field (key : String)
  deriving DecidableEq, Repr

/-- The part of a value that one step leads to. -/
def Json.child (value : Json) : Place → Option Json
  | .item i =>
    match value with
    | .arr items => items[i]?
    | _ => none
  | .field key =>
    match value with
    | .obj fields => fields.lookup key
    | _ => none

/-- The part of a value that a path leads to. -/
def Json.valueAt (value : Json) : List Place → Option Json
  | [] => some value
  | place :: path => (value.child place).bind fun part => part.valueAt path

@[simp] theorem Json.valueAt_nil (value : Json) : value.valueAt [] = some value := rfl

@[simp] theorem Json.valueAt_cons (value : Json) (place : Place) (path : List Place) :
    value.valueAt (place :: path) = (value.child place).bind fun part => part.valueAt path := rfl

theorem Json.valueAt_singleton (value : Json) (place : Place) :
    value.valueAt [place] = value.child place := by
  simp

example : (Json.obj [("a", .arr [.null, .int 3])]).valueAt [.field "a", .item 1] = some (.int 3) :=
  rfl

/-! ## Decimal digits -/

/-- Among the ASCII characters the decimal digits are `0` to `9`. -/
def Library.AsciiDigits (lib : Library) : Prop :=
  ∀ c : Char, c.toNat < 128 → (lib.decimal c).isSome = c.isDigit

/-- What is matched as the rest of a card number has the digits that are missing. -/
theorem le_countP_of_matchCardDigits (lib : Library) {digits : ℕ} {before : Option Char}
    {text : List Char} (h : matchCardDigits lib digits before text = true) :
    13 ≤ digits + text.countP fun c => (lib.decimal c).isSome := by
  induction text generalizing digits before with
  | nil =>
    unfold matchCardDigits at h
    simp only [Bool.and_eq_true, decide_eq_true_eq] at h
    omega
  | cons c rest ih =>
    unfold matchCardDigits at h
    rw [Bool.or_eq_true, Bool.and_eq_true, decide_eq_true_eq] at h
    rcases h with ⟨henough, -⟩ | hmore
    · omega
    · split_ifs at hmore with hdigit
      · rw [Bool.and_eq_true] at hmore
        have hrest := ih hmore.2
        rw [List.countP_cons, if_pos hdigit]
        omega
      · rw [Bool.and_eq_true] at hmore
        have hrest := ih hmore.2
        rw [List.countP_cons, if_neg hdigit]
        exact hrest

/-- A text in which the search finds a card number has its digits. -/
theorem le_countP_of_searchCardNumber (lib : Library) {before : Option Char} {text : List Char}
    (h : searchCardNumber lib before text = true) :
    13 ≤ text.countP fun c => (lib.decimal c).isSome := by
  induction text generalizing before with
  | nil => cases h
  | cons c rest ih =>
    unfold searchCardNumber at h
    rw [Bool.or_eq_true, Bool.and_eq_true] at h
    rcases h with ⟨-, hhere⟩ | hlater
    · have hdigits := le_countP_of_matchCardDigits lib hhere
      omega
    · have hrest := ih hlater
      rw [List.countP_cons]
      omega

/-- The search finds no card number in an ASCII text without digits. -/
theorem searchCardNumber_of_no_digits {lib : Library} (hlib : lib.AsciiDigits)
    {before : Option Char} {text : List Char}
    (h : text.all (fun c => decide (c.toNat < 128) && !c.isDigit) = true) :
    searchCardNumber lib before text = false := by
  rw [Bool.eq_false_iff]
  intro hfound
  have hmany := le_countP_of_searchCardNumber lib hfound
  have hnone : (text.countP fun c => (lib.decimal c).isSome) = 0 := by
    rw [List.countP_eq_zero]
    intro c hc
    have hplain := List.all_eq_true.mp h c hc
    rw [Bool.and_eq_true, decide_eq_true_eq, Bool.not_eq_true'] at hplain
    rw [hlib c hplain.1, hplain.2]
    exact Bool.false_ne_true
  omega

end Python
