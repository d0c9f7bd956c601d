import Mathlib.Data.List.Nodup

/-!
# Ledgers of tokens that are spent once

A ledger lists the tokens that were spent and knows which ones are live, that is, can still
be spent. Spending takes tokens out of the live ones and nothing returns to them; minting
adds tokens that were never spent. Under these moves no token is spent twice.
-/

namespace Ledger

variable {T : Type}

/-- From the live tokens `live` the list `used` is spent, each token once, and `rest` is left. -/
structure Spends (live : T → Prop) (used : List T) (rest : T → Prop) : Prop where
  nodup : used.Nodup
  spendable : ∀ t ∈ used, live t
  kept : ∀ t, rest t → live t ∧ t ∉ used

theorem Spends.none {live rest : T → Prop} (h : ∀ t, rest t → live t) : Spends live [] rest :=
  ⟨List.nodup_nil, by simp, fun t ht => ⟨h t ht, List.not_mem_nil⟩⟩

/-- Spending twice in a row is spending once. -/
theorem Spends.trans {live middle rest : T → Prop} {used later : List T}
    (h : Spends live used middle) (h' : Spends middle later rest) :
    Spends live (used ++ later) rest := by
  refine ⟨List.nodup_append.mpr ⟨h.nodup, h'.nodup, ?_⟩, ?_, fun t ht => ?_⟩
  · rintro t ht u hu rfl
    exact (h.kept t (h'.spendable t hu)).2 ht
  · intro t ht
    rcases List.mem_append.mp ht with hused | hlater
    · exact h.spendable t hused
    · exact (h.kept t (h'.spendable t hlater)).1
  · obtain ⟨hmiddle, hlater⟩ := h'.kept t ht
    obtain ⟨hlive, hused⟩ := h.kept t hmiddle
    exact ⟨hlive, by simp [hused, hlater]⟩

/-- No token was spent twice and no live token was spent. -/
structure Sound (spent : List T) (live : T → Prop) : Prop where
  nodup : spent.Nodup
  disjoint : ∀ t, live t → t ∉ spent

theorem Sound.empty (live : T → Prop) : Sound [] live :=
  ⟨List.nodup_nil, fun _ _ => List.not_mem_nil⟩

theorem Sound.spend {spent used : List T} {live rest : T → Prop} (h : Sound spent live)
    (hspends : Spends live used rest) : Sound (spent ++ used) rest := by
  refine ⟨List.nodup_append.mpr ⟨h.nodup, hspends.nodup, ?_⟩, fun t ht => ?_⟩
  · rintro t ht u hu rfl
    exact h.disjoint t (hspends.spendable t hu) ht
  · obtain ⟨hlive, hused⟩ := hspends.kept t ht
    simp [h.disjoint t hlive, hused]

/-- New live tokens must not have been spent before. -/
theorem Sound.mint {spent : List T} {live more : T → Prop} (h : Sound spent live)
    (hmore : ∀ t, more t → live t ∨ t ∉ spent) : Sound spent more := by
  refine ⟨h.nodup, fun t ht => ?_⟩
  rcases hmore t ht with hlive | hfresh
  · exact h.disjoint t hlive
  · exact hfresh

/-- Where each token is spent once, at most one item spends what only one token can be. -/
theorem length_filter_le_one {A : Type} {items : List A} {token : A → T} {p : A → Bool}
    (hnodup : (items.map token).Nodup)
    (hsame : ∀ a ∈ items, ∀ b ∈ items, p a = true → p b = true → token a = token b) :
    (items.filter p).length ≤ 1 := by
  have hdistinct : ((items.filter p).map token).Nodup :=
    hnodup.sublist (List.filter_sublist.map token)
  have hmem : ∀ a ∈ items.filter p, a ∈ items ∧ p a = true := fun a ha => List.mem_filter.mp ha
  generalize items.filter p = found at hdistinct hmem ⊢
  rcases found with _ | ⟨a, _ | ⟨b, rest⟩⟩
  · exact Nat.zero_le 1
  · exact Nat.le_refl 1
  · obtain ⟨ha, hpa⟩ := hmem a (by simp)
    obtain ⟨hb, hpb⟩ := hmem b (by simp)
    have heq : token a = token b := hsame a ha b hb hpa hpb
    simp [heq] at hdistinct

end Ledger
