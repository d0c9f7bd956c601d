import RevenueRescue.Base.Transaction

/-!
# Requests with effects outside the store

A request works on a store inside one transaction and may also emit effects that no
rollback takes back, such as calls to another system. It ends with the effects it emitted
and either a result and a new store or a fault. When it raises, the store is lost and the
effects remain.
-/

/-- A computation that emits effects `ω` besides working on a store. -/
def Req (σ ω ε α : Type) : Type := σ → List ω × Except ε (α × σ)

namespace Req

variable {σ τ ω ε α β : Type}

instance : Monad (Req σ ω ε) where
  pure a := fun s => ([], .ok (a, s))
  bind x f := fun s =>
    match x s with
    | (sent, .ok (a, s')) => (sent ++ (f a s').1, (f a s').2)
    | (sent, .error e) => (sent, .error e)

instance : MonadStateOf σ (Req σ ω ε) where
  get := fun s => ([], .ok (s, s))
  set s := fun _ => ([], .ok ((), s))
  modifyGet f := fun s => ([], .ok (f s))

instance : MonadExceptOf ε (Req σ ω ε) where
  throw e := fun _ => ([], .error e)
  tryCatch x handler := fun s =>
    match x s with
    | (sent, .ok r) => (sent, .ok r)
    | (sent, .error e) => (sent ++ (handler e s).1, (handler e s).2)

/-- Emit one effect. -/
def emit (w : ω) : Req σ ω ε Unit := fun s => ([w], .ok ((), s))

/-- Run a transactional computation on a part of the state. -/
def onPart (read : σ → τ) (write : τ → σ → σ) (x : Tx τ ε α) : Req σ ω ε α := fun s =>
  match x (read s) with
  | .ok (a, t) => ([], .ok (a, write t s))
  | .error e => ([], .error e)

theorem bind_apply (x : Req σ ω ε α) (f : α → Req σ ω ε β) (s : σ) :
    (x >>= f) s = match x s with
      | (sent, .ok (a, s')) => (sent ++ (f a s').1, (f a s').2)
      | (sent, .error e) => (sent, .error e) :=
  rfl

theorem bind_assoc {γ : Type} (x : Req σ ω ε α) (f : α → Req σ ω ε β) (g : β → Req σ ω ε γ) :
    x >>= f >>= g = x >>= fun a => f a >>= g := by
  funext s
  simp only [bind_apply]
  rcases x s with ⟨sent, e | ⟨a, t⟩⟩
  · rfl
  · dsimp only
    rcases f a t with ⟨later, e | ⟨b, u⟩⟩
    · rfl
    · simp [List.append_assoc]

theorem get_bind_apply (f : σ → Req σ ω ε β) (s : σ) : (get >>= f) s = f s s := rfl

/-- A sequence that ends normally got through both of its parts. -/
theorem of_bind_eq_ok {x : Req σ ω ε α} {f : α → Req σ ω ε β} {s u : σ} {sent : List ω} {b : β}
    (h : (x >>= f) s = (sent, .ok (b, u))) :
    ∃ first a t later, x s = (first, .ok (a, t)) ∧ f a t = (later, .ok (b, u)) := by
  rw [bind_apply] at h
  rcases hx : x s with ⟨first, e | ⟨a, t⟩⟩
  · rw [hx] at h
    cases h
  · rw [hx] at h
    have hend : (f a t).2 = .ok (b, u) := congrArg Prod.snd h
    exact ⟨first, a, t, _, rfl, Prod.ext rfl hend⟩

/-- A part of the state that ends normally is written back. -/
theorem of_onPart_eq_ok {read : σ → τ} {write : τ → σ → σ} {x : Tx τ ε α} {s u : σ}
    {sent : List ω} {a : α} (h : onPart read write x s = (sent, .ok (a, u))) :
    ∃ t, x (read s) = .ok (a, t) ∧ u = write t s := by
  unfold onPart at h
  rcases hx : x (read s) with e | ⟨b, t⟩
  · rw [hx] at h
    cases h
  · rw [hx] at h
    cases h
    exact ⟨t, rfl, rfl⟩

/-- Started in `s`, the request emits effects and ends with `Q`, or emits and raises with `E`. -/
def wp (x : Req σ ω ε α) (Q : α → List ω → σ → Prop) (E : ε → List ω → Prop) (s : σ) : Prop :=
  match x s with
  | (sent, .ok (a, s')) => Q a sent s'
  | (sent, .error e) => E e sent

@[simp] theorem wp_pure (a : α) (Q : α → List ω → σ → Prop) (E : ε → List ω → Prop) (s : σ) :
    wp (pure a : Req σ ω ε α) Q E s ↔ Q a [] s :=
  Iff.rfl

@[simp] theorem wp_throw (e : ε) (Q : α → List ω → σ → Prop) (E : ε → List ω → Prop) (s : σ) :
    wp (throw e : Req σ ω ε α) Q E s ↔ E e [] :=
  Iff.rfl

@[simp] theorem wp_get (Q : σ → List ω → σ → Prop) (E : ε → List ω → Prop) (s : σ) :
    wp (get : Req σ ω ε σ) Q E s ↔ Q s [] s :=
  Iff.rfl

@[simp] theorem wp_modify (f : σ → σ) (Q : Unit → List ω → σ → Prop) (E : ε → List ω → Prop)
    (s : σ) : wp (modify f : Req σ ω ε Unit) Q E s ↔ Q () [] (f s) :=
  Iff.rfl

@[simp] theorem wp_emit (w : ω) (Q : Unit → List ω → σ → Prop) (E : ε → List ω → Prop) (s : σ) :
    wp (emit w : Req σ ω ε Unit) Q E s ↔ Q () [w] s :=
  Iff.rfl

/-- The effects of a sequence are those of its parts, in order. -/
@[simp] theorem wp_bind (x : Req σ ω ε α) (f : α → Req σ ω ε β) (Q : β → List ω → σ → Prop)
    (E : ε → List ω → Prop) (s : σ) :
    wp (x >>= f) Q E s ↔
      wp x (fun a sent s' =>
        wp (f a) (fun b later => Q b (sent ++ later)) (fun e later => E e (sent ++ later)) s')
        E s := by
  simp only [wp, bind_apply]
  rcases x s with ⟨sent, e | ⟨a, s'⟩⟩
  · rfl
  · dsimp only
    rcases f a s' with ⟨later, e | ⟨b, s''⟩⟩ <;> rfl

/-- A transactional part emits nothing. -/
@[simp] theorem wp_onPart (read : σ → τ) (write : τ → σ → σ) (x : Tx τ ε α)
    (Q : α → List ω → σ → Prop) (E : ε → List ω → Prop) (s : σ) :
    wp (onPart read write x) Q E s ↔
      x.wp (fun a t => Q a [] (write t s)) (fun e => E e []) (read s) := by
  simp only [wp, onPart, Tx.wp]
  rcases x (read s) with e | ⟨a, t⟩ <;> rfl

theorem wp_ite (c : Prop) [Decidable c] (x y : Req σ ω ε α) (Q : α → List ω → σ → Prop)
    (E : ε → List ω → Prop) (s : σ) :
    wp (if c then x else y) Q E s ↔ (c → wp x Q E s) ∧ (¬c → wp y Q E s) := by
  by_cases hc : c <;> simp [hc]

/-- Weaken what is promised of both ways of ending. -/
theorem wp_mono {x : Req σ ω ε α} {Q Q' : α → List ω → σ → Prop} {E E' : ε → List ω → Prop}
    {s : σ} (h : wp x Q E s) (hQ : ∀ a sent s', Q a sent s' → Q' a sent s')
    (hE : ∀ e sent, E e sent → E' e sent) : wp x Q' E' s := by
  unfold wp at h ⊢
  rcases hx : x s with ⟨sent, e | ⟨a, s'⟩⟩
  · exact hE _ _ (by simpa [hx] using h)
  · exact hQ _ _ _ (by simpa [hx] using h)

end Req

/-- A property of what a request did that composes along a sequence: `done` relates the two
ends of a normal run with its effects, `failed` speaks of the effects of one that raised. -/
structure Trace (σ ω : Type) where
  done : σ → List ω → σ → Prop
  failed : σ → List ω → Prop
  refl : ∀ s, done s [] s
  trans : ∀ {s t u : σ} {sent later : List ω}, done s sent t → done t later u →
    done s (sent ++ later) u
  fail : ∀ {s t : σ} {sent later : List ω}, done s sent t → failed t later →
    failed s (sent ++ later)

/-- Every effect has the property, whichever way the request ends. -/
def Trace.sending {σ ω : Type} (P : ω → Prop) : Trace σ ω where
  done _ sent _ := ∀ w ∈ sent, P w
  failed _ sent := ∀ w ∈ sent, P w
  refl _ := List.forall_mem_nil P
  trans h hlater := List.forall_mem_append.mpr ⟨h, hlater⟩
  fail h hlater := List.forall_mem_append.mpr ⟨h, hlater⟩

namespace Req

variable {σ τ ω ε α β : Type} {T : Trace σ ω} {s : σ}

/-- Started in `s`, the request does what the trace property says. -/
structure Follows (T : Trace σ ω) (s : σ) (x : Req σ ω ε α) : Prop where
  wp : x.wp (fun _ sent t => T.done s sent t) (fun _ sent => T.failed s sent) s

namespace Follows

theorem of_pure (a : α) : Follows T s (pure a : Req σ ω ε α) := ⟨T.refl s⟩

theorem of_throw {e : ε} (h : T.failed s []) : Follows T s (throw e : Req σ ω ε α) := ⟨h⟩

theorem done {x : Req σ ω ε α} {sent : List ω} {a : α} {t : σ} (hx : Follows T s x)
    (h : x s = (sent, .ok (a, t))) : T.done s sent t := by
  have hwp := hx.wp
  unfold Req.wp at hwp
  rwa [h] at hwp

theorem failed {x : Req σ ω ε α} {sent : List ω} {e : ε} (hx : Follows T s x)
    (h : x s = (sent, .error e)) : T.failed s sent := by
  have hwp := hx.wp
  unfold Req.wp at hwp
  rwa [h] at hwp

/-- The rule for a sequence. -/
theorem bind {x : Req σ ω ε α} {f : α → Req σ ω ε β} (hx : Follows T s x)
    (hf : ∀ a sent t, x s = (sent, .ok (a, t)) → T.done s sent t → Follows T t (f a)) :
    Follows T s (x >>= f) := by
  constructor
  rw [wp_bind]
  unfold Req.wp
  rcases h : x s with ⟨sent, e | ⟨a, t⟩⟩
  · exact hx.failed h
  · have hdone : T.done s sent t := hx.done h
    exact wp_mono (hf a sent t h hdone).wp (fun _ _ _ hlater => T.trans hdone hlater)
      fun _ _ hlater => T.fail hdone hlater

theorem get_bind {f : σ → Req σ ω ε β} (hf : Follows T s (f s)) : Follows T s (get >>= f) := by
  refine ⟨?_⟩
  rw [wp_bind, wp_get]
  simpa using hf.wp

theorem ite {c : Prop} [Decidable c] {x y : Req σ ω ε α} (hx : c → Follows T s x)
    (hy : ¬c → Follows T s y) : Follows T s (if c then x else y) := by
  by_cases hc : c
  · rw [if_pos hc]
    exact hx hc
  · rw [if_neg hc]
    exact hy hc

/-- A request that follows the trace of a property emits effects with the property alone. -/
theorem sent {P : ω → Prop} {x : Req σ ω ε α} (hx : Follows (Trace.sending P) s x) :
    ∀ w ∈ (x s).1, P w := by
  rcases h : x s with ⟨sent, e | ⟨a, t⟩⟩
  · exact hx.failed h
  · exact hx.done h

/-- A transactional part has nothing to answer for. -/
theorem onPart_sending {P : ω → Prop} (read : σ → τ) (write : τ → σ → σ) (x : Tx τ ε α) :
    Follows (Trace.sending P) s (onPart read write x) := by
  refine ⟨?_⟩
  rw [wp_onPart]
  unfold Tx.wp
  rcases x (read s) with e | ⟨a, t⟩ <;> exact List.forall_mem_nil P

end Follows

end Req
