import Mathlib.Data.List.Forall2
import Mathlib.Logic.Basic
import Mathlib.Order.Defs.Unbundled

/-!
# Computations inside one database transaction

A transactional computation reads and writes a store and either ends with a result
or raises. Raising loses every write of the computation, so a handler starts again
from the store at which the guarded part began, as after a rollback to a savepoint.

The weakest precondition of a computation speaks about both ways of ending, and its
equations let a proof follow the program text from the first statement to the last.
-/

/-- A sequence of checks that ends normally got through both of its parts. -/
theorem Except.bind_eq_ok {ε α β : Type} {x : Except ε α} {f : α → Except ε β} {b : β} :
    (x >>= f) = .ok b ↔ ∃ a, x = .ok a ∧ f a = .ok b := by
  cases x with
  | error e => simp [bind, Except.bind]
  | ok a => simp [bind, Except.bind]

/-- A check passes on to what follows it. -/
theorem Except.check_bind_eq_ok {ε β : Type} {x : Except ε Unit} {f : Unit → Except ε β} {b : β} :
    (x >>= f) = .ok b ↔ x = .ok () ∧ f () = .ok b := by
  cases x with
  | error e => simp [bind, Except.bind]
  | ok a => simp [bind, Except.bind]

/-- A traversal that ends normally did so at every element. -/
theorem Except.mapM_eq_ok {ε α β : Type} {f : α → Except ε β} {as : List α} {bs : List β} :
    as.mapM f = .ok bs ↔ List.Forall₂ (fun a b => f a = .ok b) as bs := by
  induction as generalizing bs with
  | nil => cases bs <;> simp [pure, Except.pure]
  | cons a as ih =>
    rw [List.mapM_cons, Except.bind_eq_ok]
    constructor
    · rintro ⟨b, hb, h⟩
      obtain ⟨rest, hrest, h⟩ := Except.bind_eq_ok.mp h
      cases h
      exact .cons hb (ih.mp hrest)
    · intro h
      cases h with
      | cons hb hrest => exact ⟨_, hb, Except.bind_eq_ok.mpr ⟨_, ih.mpr hrest, rfl⟩⟩

theorem Option.mapM_eq_some {α β : Type} {f : α → Option β} {as : List α} {bs : List β} :
    as.mapM f = some bs ↔ List.Forall₂ (fun a b => f a = some b) as bs := by
  induction as generalizing bs with
  | nil => cases bs <;> simp
  | cons a as ih =>
    rw [List.mapM_cons, Option.bind_eq_bind, Option.bind_eq_some_iff]
    constructor
    · rintro ⟨b, hb, h⟩
      obtain ⟨rest, hrest, h⟩ := Option.bind_eq_some_iff.mp h
      cases h
      exact .cons hb (ih.mp hrest)
    · intro h
      cases h with
      | cons hb hrest => exact ⟨_, hb, Option.bind_eq_some_iff.mpr ⟨_, ih.mpr hrest, rfl⟩⟩

/-- When every element has a partner, the list has one. -/
theorem List.exists_forall₂ {α β : Type} {R : α → β → Prop} {as : List α}
    (h : ∀ a ∈ as, ∃ b, R a b) : ∃ bs, List.Forall₂ R as bs := by
  induction as with
  | nil => exact ⟨[], .nil⟩
  | cons a as ih =>
    obtain ⟨b, hb⟩ := h a List.mem_cons_self
    obtain ⟨bs, hbs⟩ := ih fun other hother => h other (List.mem_cons_of_mem _ hother)
    exact ⟨b :: bs, .cons hb hbs⟩

/-- Among related lists every element on the right has a partner on the left. -/
theorem List.Forall₂.exists_of_mem_right {α β : Type} {R : α → β → Prop} {as : List α}
    {bs : List β} (h : List.Forall₂ R as bs) {b : β} (hb : b ∈ bs) : ∃ a ∈ as, R a b := by
  induction h with
  | nil => exact absurd hb List.not_mem_nil
  | @cons first other rest others hfirst _ ih =>
    rcases List.mem_cons.mp hb with rfl | hrest
    · exact ⟨first, List.mem_cons_self, hfirst⟩
    · obtain ⟨a, ha, hab⟩ := ih hrest
      exact ⟨a, List.mem_cons_of_mem _ ha, hab⟩

theorem List.Forall₂.exists_of_mem_left {α β : Type} {R : α → β → Prop} {as : List α}
    {bs : List β} (h : List.Forall₂ R as bs) {a : α} (ha : a ∈ as) : ∃ b ∈ bs, R a b :=
  h.flip.exists_of_mem_right ha

/-- Every error that is raised has the property. -/
structure Except.Raises {ε α : Type} (p : ε → Prop) (x : Except ε α) : Prop where
  of_eq : ∀ fault, x = .error fault → p fault

namespace Except.Raises

variable {ε α β : Type} {p : ε → Prop} {x : Except ε α}

theorem of_ok (a : α) : Raises p (.ok a : Except ε α) := ⟨fun _ h => by cases h⟩

theorem of_error {fault : ε} (h : p fault) : Raises p (.error fault : Except ε α) :=
  ⟨fun _ hfault => by cases hfault; exact h⟩

theorem bind {f : α → Except ε β} (hx : Raises p x) (hf : ∀ a, Raises p (f a)) :
    Raises p (x >>= f) := by
  rcases x with fault | a
  · exact of_error (hx.of_eq fault rfl)
  · exact hf a

theorem map (hx : Raises p x) (f : α → β) : Raises p (x.map f) := by
  rcases x with fault | a
  · exact of_error (hx.of_eq fault rfl)
  · exact of_ok _

theorem ite {c : Prop} [Decidable c] {y : Except ε α} (hx : c → Raises p x)
    (hy : ¬c → Raises p y) : Raises p (if c then x else y) := by
  by_cases h : c
  · rw [if_pos h]
    exact hx h
  · rw [if_neg h]
    exact hy h

end Except.Raises

/-- A computation over a store that ends with a result and a new store, or raises. -/
def Tx (σ ε α : Type) : Type := σ → Except ε (α × σ)

namespace Tx

variable {σ ε α β : Type}

instance : Monad (Tx σ ε) where
  pure a := fun s => .ok (a, s)
  bind x f := fun s =>
    match x s with
    | .ok (a, s') => f a s'
    | .error e => .error e

instance : MonadStateOf σ (Tx σ ε) where
  get := fun s => .ok (s, s)
  set s := fun _ => .ok ((), s)
  modifyGet f := fun s => .ok (f s)

instance : MonadExceptOf ε (Tx σ ε) where
  throw e := fun _ => .error e
  tryCatch x handler := fun s =>
    match x s with
    | .ok r => .ok r
    | .error e => handler e s

theorem bind_apply (x : Tx σ ε α) (f : α → Tx σ ε β) (s : σ) :
    (x >>= f) s = match x s with
      | .ok (a, s') => f a s'
      | .error e => .error e :=
  rfl

theorem get_bind_apply (f : σ → Tx σ ε β) (s : σ) : (get >>= f) s = f s s := rfl

theorem modify_bind_apply (f : σ → σ) (g : Unit → Tx σ ε β) (s : σ) :
    (modify f >>= g) s = g () (f s) :=
  rfl

theorem tryCatch_apply (x : Tx σ ε α) (handler : ε → Tx σ ε α) (s : σ) :
    (tryCatch x handler) s = match x s with
      | .ok r => .ok r
      | .error e => handler e s :=
  rfl

/-- A sequence that ends normally got through both of its parts. -/
theorem bind_eq_ok {x : Tx σ ε α} {f : α → Tx σ ε β} {s : σ} {r : β × σ} :
    (x >>= f) s = .ok r ↔ ∃ a t, x s = .ok (a, t) ∧ f a t = .ok r := by
  rw [bind_apply]
  rcases x s with e | ⟨a, t⟩
  · simp
  · constructor
    · exact fun h => ⟨a, t, rfl, h⟩
    · rintro ⟨b, u, heq, h⟩
      cases heq
      exact h

/-- Commit the store a computation ends with; a computation that raises changes nothing. -/
def commit (x : Tx σ ε α) (s : σ) : σ :=
  match x s with
  | .ok (_, s') => s'
  | .error _ => s

/-- A computation that ends normally ends with the store it commits. -/
theorem ok_of_isSome {x : Tx σ ε α} {s : σ} (h : (x s).toOption.isSome = true) :
    ∃ a, x s = .ok (a, x.commit s) := by
  unfold commit
  rcases hrun : x s with e | ⟨a, t⟩
  · rw [hrun] at h
    cases h
  · exact ⟨a, rfl⟩

/-- The fault a computation raises, if it does. -/
def fault (x : Tx σ ε α) (s : σ) : Option ε :=
  match x s with
  | .ok _ => none
  | .error e => some e

/-- Started in `s`, the computation ends with `Q` or raises a fault in `E`. -/
def wp (x : Tx σ ε α) (Q : α → σ → Prop) (E : ε → Prop) (s : σ) : Prop :=
  match x s with
  | .ok (a, s') => Q a s'
  | .error e => E e

@[simp] theorem wp_pure (a : α) (Q : α → σ → Prop) (E : ε → Prop) (s : σ) :
    wp (pure a : Tx σ ε α) Q E s ↔ Q a s :=
  Iff.rfl

@[simp] theorem wp_throw (e : ε) (Q : α → σ → Prop) (E : ε → Prop) (s : σ) :
    wp (throw e : Tx σ ε α) Q E s ↔ E e :=
  Iff.rfl

@[simp] theorem wp_get (Q : σ → σ → Prop) (E : ε → Prop) (s : σ) :
    wp (get : Tx σ ε σ) Q E s ↔ Q s s :=
  Iff.rfl

@[simp] theorem wp_modify (f : σ → σ) (Q : Unit → σ → Prop) (E : ε → Prop) (s : σ) :
    wp (modify f : Tx σ ε Unit) Q E s ↔ Q () (f s) :=
  Iff.rfl

@[simp] theorem wp_set (t : σ) (Q : Unit → σ → Prop) (E : ε → Prop) (s : σ) :
    wp (set t : Tx σ ε Unit) Q E s ↔ Q () t :=
  Iff.rfl

/-- The precondition of a sequence is the first part's, with the second part's as its goal. -/
@[simp] theorem wp_bind (x : Tx σ ε α) (f : α → Tx σ ε β) (Q : β → σ → Prop) (E : ε → Prop)
    (s : σ) : wp (x >>= f) Q E s ↔ wp x (fun a s' => wp (f a) Q E s') E s := by
  simp only [wp, bind_apply]
  rcases x s with e | ⟨a, s'⟩ <;> rfl

/-- A sequence whose first part is known to end normally. -/
theorem wp_bind_of_ok {x : Tx σ ε α} {f : α → Tx σ ε β} {Q : β → σ → Prop} {E : ε → Prop}
    {s t : σ} {a : α} (h : x s = .ok (a, t)) : wp (x >>= f) Q E s ↔ wp (f a) Q E t := by
  rw [wp_bind]
  simp only [wp, h]

/-- A handler runs from the store at which the guarded part started. -/
theorem wp_tryCatch (x : Tx σ ε α) (handler : ε → Tx σ ε α) (Q : α → σ → Prop) (E : ε → Prop)
    (s : σ) :
    wp (tryCatch x handler) Q E s ↔ wp x Q (fun e => wp (handler e) Q E s) s := by
  simp only [wp, tryCatch_apply]
  rcases x s with e | ⟨a, s'⟩ <;> rfl

theorem wp_ite (c : Prop) [Decidable c] (x y : Tx σ ε α) (Q : α → σ → Prop) (E : ε → Prop)
    (s : σ) : wp (if c then x else y) Q E s ↔ (c → wp x Q E s) ∧ (¬c → wp y Q E s) := by
  by_cases hc : c <;> simp [hc]

/-- Weaken what is promised of both ways of ending. -/
theorem wp_mono {x : Tx σ ε α} {Q Q' : α → σ → Prop} {E E' : ε → Prop} {s : σ}
    (h : wp x Q E s) (hQ : ∀ a s', Q a s' → Q' a s') (hE : ∀ e, E e → E' e) :
    wp x Q' E' s := by
  unfold wp at h ⊢
  cases hx : x s with
  | ok r => exact hQ _ _ (by simpa [hx] using h)
  | error e => exact hE _ (by simpa [hx] using h)

/-- Two promises about one computation hold together. -/
theorem wp_and {x : Tx σ ε α} {Q Q' : α → σ → Prop} {E E' : ε → Prop} {s : σ}
    (h : wp x Q E s) (h' : wp x Q' E' s) :
    wp x (fun a s' => Q a s' ∧ Q' a s') (fun e => E e ∧ E' e) s := by
  unfold wp at h h' ⊢
  cases hx : x s with
  | ok r => simp only [hx] at h h' ⊢; exact ⟨h, h'⟩
  | error e => simp only [hx] at h h' ⊢; exact ⟨h, h'⟩

/-- A reflexive promise about normal ends extends to the committed store. -/
theorem wp_commit {R : σ → σ → Prop} {x : Tx σ ε α} {s : σ} (hrefl : R s s)
    (h : wp x (fun _ s' => R s s') (fun _ => True) s) : R s (x.commit s) := by
  unfold wp at h
  unfold commit
  cases hx : x s with
  | ok r => simpa [hx] using h
  | error e => exact hrefl

/-! ## Preorders on stores -/

/-- Started in `s`, a computation that ends normally goes up in the preorder. -/
structure Respects (R : σ → σ → Prop) (s : σ) (x : Tx σ ε α) : Prop where
  wp : x.wp (fun _ t => R s t) (fun _ => True) s

namespace Respects

variable {R : σ → σ → Prop} {s : σ}

theorem of_ok {x : Tx σ ε α} (h : ∀ a t, x s = .ok (a, t) → R s t) : Respects R s x := by
  constructor
  unfold Tx.wp
  rcases hx : x s with e | ⟨a, t⟩
  · trivial
  · exact h a t hx

/-- Where a computation that ends normally leads to. -/
theorem related {x : Tx σ ε α} {a : α} {t : σ} (hx : Respects R s x) (h : x s = .ok (a, t)) :
    R s t := by
  have hwp := hx.wp
  unfold Tx.wp at hwp
  rwa [h] at hwp

theorem of_throw {e : ε} : Respects R s (throw e : Tx σ ε α) := ⟨trivial⟩

theorem throw_bind {e : ε} {f : α → Tx σ ε β} : Respects R s ((throw e : Tx σ ε α) >>= f) :=
  ⟨trivial⟩

theorem get_bind {f : σ → Tx σ ε β} (hf : Respects R s (f s)) : Respects R s (get >>= f) :=
  ⟨hf.wp⟩

theorem of_modify {f : σ → σ} (h : R s (f s)) : Respects R s (modify f : Tx σ ε Unit) := ⟨h⟩

theorem of_set {t : σ} (h : R s t) : Respects R s (set t : Tx σ ε Unit) := ⟨h⟩

theorem ite {c : Prop} [Decidable c] {x y : Tx σ ε α} (hx : c → Respects R s x)
    (hy : ¬c → Respects R s y) : Respects R s (if c then x else y) := by
  by_cases hc : c
  · rw [if_pos hc]
    exact hx hc
  · rw [if_neg hc]
    exact hy hc

theorem of_pure [Std.Refl R] (a : α) : Respects R s (pure a : Tx σ ε α) :=
  ⟨Std.Refl.refl (r := R) s⟩

/-- What is committed goes up as well, since a fault changes nothing. -/
theorem commit [Std.Refl R] {x : Tx σ ε α} (hx : Respects R s x) : R s (x.commit s) :=
  wp_commit (Std.Refl.refl s) hx.wp

/-- The rule for a sequence. -/
theorem bind [IsTrans σ R] {x : Tx σ ε α} {f : α → Tx σ ε β} (hx : Respects R s x)
    (hf : ∀ a t, x s = .ok (a, t) → R s t → Respects R t (f a)) : Respects R s (x >>= f) := by
  refine of_ok fun b u h => ?_
  obtain ⟨a, t, ht, hu⟩ := bind_eq_ok.mp h
  have hst : R s t := hx.related ht
  exact IsTrans.trans _ _ _ hst ((hf a t ht hst).related hu)

/-- The rule for a write that is followed by more. -/
theorem modify_bind [IsTrans σ R] {f : σ → σ} {g : Unit → Tx σ ε β} (h : R s (f s))
    (hg : Respects R (f s) (g ())) : Respects R s (modify f >>= g) := by
  refine bind (of_modify h) fun a t ht _ => ?_
  cases ht
  exact hg

theorem of_tryCatch {x : Tx σ ε α} {handler : ε → Tx σ ε α} (hx : Respects R s x)
    (hh : ∀ e, Respects R s (handler e)) : Respects R s (tryCatch x handler) := by
  constructor
  rw [wp_tryCatch]
  exact wp_mono hx.wp (fun _ _ h => h) fun e _ => (hh e).wp

end Respects

end Tx
