import Mathlib.Data.List.Infix
import Mathlib.Logic.Function.Basic
import RevenueRescue.Base.Statements

/-!
# Concurrent transactions under READ COMMITTED

Open transactions take turns, one statement at a time. A query sees what is committed at that
moment and the transaction's own updates. An update waits as long as another open transaction
has locked the same row or key, and a lock is held until the transaction ends. Committing
puts the updates on top of what is committed by then; a transaction may be aborted at any
time, which leaves no trace.

For two transactions that both commit this comes down to programs that change databases once:
the first one to commit ran alone, and the second one began on the database as it was and
finished on what the first one committed.
-/

namespace ReadCommitted

variable {ι σ ε κ ℓ α : Type}

/-- A transaction that is open, with its updates so far, or has ended. -/
inductive Session (σ ε κ ℓ α : Type) where
  | running (p : Program σ ε κ ℓ α) (ws : List (Update σ ε κ))
  | committed (a : α) (ws : List (Update σ ε κ))
  | aborted

/-- The committed rows and the transactions. -/
structure Config (ι σ ε κ ℓ α : Type) where
  db : σ
  session : ι → Session σ ε κ ℓ α

/-- All transactions at their beginning. -/
def Config.start (db : σ) (program : ι → Program σ ε κ ℓ α) : Config ι σ ε κ ℓ α :=
  ⟨db, fun i => .running (program i) []⟩

/-- What is seen of a step from outside. -/
inductive Event (ℓ : Type) where
  | moved (l : Option ℓ)
  | committed
  | aborted
  deriving DecidableEq, Repr

/-- No other open transaction holds the lock that the next statement needs. -/
def Unblocked (c : Config ι σ ε κ ℓ α) (i : ι) (p : Program σ ε κ ℓ α) : Prop :=
  ∀ u next violated, p = .update u next violated → ∀ j, j ≠ i → ∀ q vs,
    c.session j = .running q vs → ∀ v ∈ vs, v.lock ≠ u.lock

/-- An update that is not blocked has a lock that no other open transaction holds. -/
theorem Move.lock_ne {c : Config ι σ ε κ ℓ α} {i j : ι} {p q p' : Program σ ε κ ℓ α}
    {ws vs us : List (Update σ ε κ)} {l : Option ℓ} (h : Move c.db p ws l q vs)
    (hfree : Unblocked c i p) (hne : j ≠ i) (hother : c.session j = .running p' us)
    (hws : ∀ u ∈ ws, ∀ v ∈ us, u.lock ≠ v.lock) : ∀ u ∈ vs, ∀ v ∈ us, u.lock ≠ v.lock := by
  cases h with
  | query label next => exact hws
  | violated h => exact hws
  | update h =>
    intro u hu v hv
    rcases List.mem_append.mp hu with hold | hnew
    · exact hws u hold v hv
    · rw [List.mem_singleton.mp hnew]
      exact (hfree _ _ _ rfl j hne p' us hother v hv).symm

section Steps

variable [DecidableEq ι]

/-- A step of one transaction. -/
inductive Step (c : Config ι σ ε κ ℓ α) : ι × Event ℓ → Config ι σ ε κ ℓ α → Prop
  | move {i : ι} {p q : Program σ ε κ ℓ α} {ws vs : List (Update σ ε κ)} {l : Option ℓ}
      (hopen : c.session i = .running p ws) (hfree : Unblocked c i p)
      (hmove : Move c.db p ws l q vs) :
    Step c (i, .moved l) ⟨c.db, Function.update c.session i (.running q vs)⟩
  | commit {i : ι} {a : α} {ws : List (Update σ ε κ)}
      (hopen : c.session i = .running (.done a) ws) :
    Step c (i, .committed) ⟨view c.db ws, Function.update c.session i (.committed a ws)⟩
  | abort {i : ι} {p : Program σ ε κ ℓ α} {ws : List (Update σ ε κ)}
      (hopen : c.session i = .running p ws) :
    Step c (i, .aborted) ⟨c.db, Function.update c.session i .aborted⟩

/-- Steps in any order, with the trace they leave. -/
inductive Steps (c : Config ι σ ε κ ℓ α) : List (ι × Event ℓ) → Config ι σ ε κ ℓ α → Prop
  | refl : Steps c [] c
  | tail {trace : List (ι × Event ℓ)} {d d' : Config ι σ ε κ ℓ α} {e : ι × Event ℓ}
      (h : Steps c trace d) (hstep : Step d e d') : Steps c (trace ++ [e]) d'

/-- A property that every step keeps holds after any steps. -/
theorem Steps.invariant {P : Config ι σ ε κ ℓ α → Prop}
    (hstep : ∀ c e d, Step c e d → P c → P d) {c d : Config ι σ ε κ ℓ α}
    {trace : List (ι × Event ℓ)} (h : Steps c trace d) (hc : P c) : P d := by
  induction h with
  | refl => exact hc
  | tail _ hs ih => exact hstep _ _ _ hs ih

theorem Steps.trans {c d d' : Config ι σ ε κ ℓ α} {trace more : List (ι × Event ℓ)}
    (h : Steps c trace d) (h' : Steps d more d') : Steps c (trace ++ more) d' := by
  induction h' with
  | refl => exact (List.append_nil trace).symm ▸ h
  | tail _ hs ih =>
    rw [← List.append_assoc]
    exact ih.tail hs

/-- Steps in any order, each of which meets a condition on the configuration before it. -/
inductive GuardedSteps (ok : Config ι σ ε κ ℓ α → ι × Event ℓ → Prop)
    (c : Config ι σ ε κ ℓ α) : Config ι σ ε κ ℓ α → Prop
  | refl : GuardedSteps ok c c
  | tail {d d' : Config ι σ ε κ ℓ α} {e : ι × Event ℓ} (h : GuardedSteps ok c d) (hok : ok d e)
      (hstep : Step d e d') : GuardedSteps ok c d'

/-- A property that every step under the condition keeps holds after any such steps. -/
theorem GuardedSteps.invariant {ok : Config ι σ ε κ ℓ α → ι × Event ℓ → Prop}
    {P : Config ι σ ε κ ℓ α → Prop} (hstep : ∀ c e d, ok c e → Step c e d → P c → P d)
    {c d : Config ι σ ε κ ℓ α} (h : GuardedSteps ok c d) (hc : P c) : P d := by
  induction h with
  | refl => exact hc
  | tail _ hok hs ih => exact hstep _ _ _ hok hs ih

/-- No two open transactions hold the same lock. -/
def Config.Exclusive (c : Config ι σ ε κ ℓ α) : Prop :=
  ∀ i j, i ≠ j → ∀ p ws q vs, c.session i = .running p ws → c.session j = .running q vs →
    ∀ u ∈ ws, ∀ v ∈ vs, u.lock ≠ v.lock

omit [DecidableEq ι] in
theorem Config.start_exclusive (db : σ) (program : ι → Program σ ε κ ℓ α) :
    (Config.start db program).Exclusive := by
  intro i j _ p ws q vs hi _ u hu
  cases hi
  cases hu

/-- A transaction that ends leaves the locks of the others as they were. -/
theorem Config.Exclusive.ended {c : Config ι σ ε κ ℓ α} (hc : c.Exclusive) (db : σ) (i : ι)
    {session : Session σ ε κ ℓ α} (hended : ∀ p ws, session ≠ .running p ws) :
    Config.Exclusive ⟨db, Function.update c.session i session⟩ := by
  intro j k hne p ws q vs hj hk
  have hother : ∀ l p ws, Function.update c.session i session l = .running p ws →
      c.session l = .running p ws := by
    intro l p ws hl
    by_cases hli : l = i
    · subst hli
      rw [Function.update_self] at hl
      exact absurd hl (hended p ws)
    · rwa [Function.update_of_ne hli] at hl
  exact hc j k hne p ws q vs (hother j p ws hj) (hother k q vs hk)

/-- No step gives a lock away that is held. -/
theorem Step.exclusive {c d : Config ι σ ε κ ℓ α} {e : ι × Event ℓ} (h : Step c e d)
    (hc : c.Exclusive) : d.Exclusive := by
  cases h with
  | @move i p q ws vs l hopen hfree hmove =>
    have hnew : ∀ j, j ≠ i → ∀ p' us, c.session j = .running p' us →
        ∀ u ∈ vs, ∀ v ∈ us, u.lock ≠ v.lock := by
      intro j hne p' us hj
      exact hmove.lock_ne hfree hne hj (hc i j hne.symm p ws p' us hopen hj)
    intro j k hne p₁ ws₁ p₂ ws₂ hj hk
    dsimp only at hj hk
    by_cases hji : j = i
    · subst hji
      rw [Function.update_self] at hj
      rw [Function.update_of_ne hne.symm] at hk
      cases hj
      exact hnew k hne.symm p₂ ws₂ hk
    · rw [Function.update_of_ne hji] at hj
      by_cases hki : k = i
      · subst hki
        rw [Function.update_self] at hk
        cases hk
        exact fun u hu v hv => (hnew j hji p₁ ws₁ hj v hv u hu).symm
      · rw [Function.update_of_ne hki] at hk
        exact hc j k hne p₁ ws₁ p₂ ws₂ hj hk
  | commit hopen => exact hc.ended _ _ fun _ _ h => by cases h
  | abort hopen => exact hc.ended _ _ fun _ _ h => by cases h

/-- The other open transactions hold no locks. -/
def Config.Idle (c : Config ι σ ε κ ℓ α) (i : ι) : Prop :=
  ∀ j, j ≠ i → ∀ q us, c.session j = .running q us → us = []

theorem Config.Idle.update {c : Config ι σ ε κ ℓ α} {i : ι} (h : c.Idle i) (db : σ)
    (session : Session σ ε κ ℓ α) : Config.Idle ⟨db, Function.update c.session i session⟩ i := by
  intro j hne q us hj
  dsimp only at hj
  rw [Function.update_of_ne hne] at hj
  exact h j hne q us hj

/-- Meanwhile a transaction can make its next statement. -/
theorem Config.Idle.step {c : Config ι σ ε κ ℓ α} {i : ι} {p q : Program σ ε κ ℓ α}
    {ws vs : List (Update σ ε κ)} {l : Option ℓ} (h : c.Idle i)
    (hopen : c.session i = .running p ws) (hmove : Move c.db p ws l q vs) :
    Step c (i, .moved l) ⟨c.db, Function.update c.session i (.running q vs)⟩ := by
  refine .move hopen (fun u next violated _ j hne q us hj v hv => ?_) hmove
  rw [h j hne q us hj] at hv
  cases hv

/-- While the others hold no locks, a transaction can run to its end and commit. -/
theorem Config.Idle.steps {c : Config ι σ ε κ ℓ α} {i : ι} {p : Program σ ε κ ℓ α}
    {ws vs : List (Update σ ε κ)} {a : α} (h : c.Idle i) (hopen : c.session i = .running p ws)
    (hrun : p.run c.db ws = .ok (a, vs)) :
    ∃ trace, (∀ e ∈ trace, e.1 = i) ∧
      Steps c trace ⟨view c.db vs, Function.update c.session i (.committed a vs)⟩ := by
  have hnext : ∀ {c : Config ι σ ε κ ℓ α} {p q : Program σ ε κ ℓ α} {ws us : List (Update σ ε κ)}
      {l : Option ℓ}, c.Idle i → c.session i = .running p ws → Move c.db p ws l q us →
      (∃ trace, (∀ e ∈ trace, e.1 = i) ∧
        Steps ⟨c.db, Function.update c.session i (.running q us)⟩ trace
          ⟨view c.db vs, Function.update (Function.update c.session i (.running q us)) i
            (.committed a vs)⟩) →
      ∃ trace, (∀ e ∈ trace, e.1 = i) ∧
        Steps c trace ⟨view c.db vs, Function.update c.session i (.committed a vs)⟩ := by
    rintro c p q ws us l hidle hopen hmove ⟨trace, hown, hrest⟩
    rw [Function.update_idem] at hrest
    exact ⟨_, List.forall_mem_cons.mpr ⟨rfl, hown⟩,
      (Steps.refl.tail (hidle.step hopen hmove)).trans hrest⟩
  induction p generalizing c ws with
  | done b =>
    cases hrun
    exact ⟨_, List.forall_mem_singleton.mpr rfl, Steps.refl.tail (.commit hopen)⟩
  | fail e => cases hrun
  | query label next ih =>
    refine hnext h hopen (.query label next ws) ?_
    exact ih _ (h.update c.db _) (Function.update_self ..) hrun
  | update u next violated ih ihv =>
    rw [Program.run] at hrun
    rcases hviolation : u.violation (view c.db ws) with _ | e
    · rw [hviolation] at hrun
      refine hnext h hopen (.update hviolation) ?_
      exact ih (h.update c.db _) (Function.update_self ..) hrun
    · rw [hviolation] at hrun
      refine hnext h hopen (.violated hviolation) ?_
      exact ihv _ (h.update c.db _) (Function.update_self ..) hrun

/-- What the queries of one transaction found. -/
def found (i : ι) (trace : List (ι × Event ℓ)) : List ℓ :=
  trace.flatMap fun e => if e.1 = i then
    match e.2 with
    | .moved l => l.toList
    | _ => []
  else []

theorem found_append (i : ι) (trace more : List (ι × Event ℓ)) :
    found i (trace ++ more) = found i trace ++ found i more :=
  List.flatMap_append

@[simp] theorem found_moved (i : ι) (l : Option ℓ) : found i [(i, Event.moved l)] = l.toList := by
  simp [found]

theorem found_other {i j : ι} (hne : j ≠ i) (e : Event ℓ) : found i [(j, e)] = [] := by
  simp [found, hne]

theorem mem_found {i : ι} {l : ℓ} {trace : List (ι × Event ℓ)} :
    l ∈ found i trace ↔ (i, Event.moved (some l)) ∈ trace := by
  unfold found
  rw [List.mem_flatMap]
  constructor
  · rintro ⟨⟨j, e⟩, he, hl⟩
    by_cases hj : j = i
    · subst hj
      rcases e with (_ | l') | _ | _
      · simp at hl
      · simp only [if_true, Option.toList_some, List.mem_singleton] at hl
        exact hl ▸ he
      · simp at hl
      · simp at hl
    · simp [hj] at hl
  · intro he
    exact ⟨_, he, by simp⟩

end Steps

/-! ## Two transactions -/

variable {db : σ} {program : Bool → Program σ ε κ ℓ α} {trace : List (Bool × Event ℓ)}
  {c : Config Bool σ ε κ ℓ α}

/-- How far two transactions have come: both are open, one of them has committed, or both have;
or one of them is lost. -/
inductive Stage (db : σ) (program : Bool → Program σ ε κ ℓ α) :
    List (Bool × Event ℓ) → Config Bool σ ε κ ℓ α → Prop
  | both {trace : List (Bool × Event ℓ)} {c : Config Bool σ ε κ ℓ α}
      (p : Bool → Program σ ε κ ℓ α) (ws : Bool → List (Update σ ε κ)) (hdb : c.db = db)
      (hopen : ∀ i, c.session i = .running (p i) (ws i))
      (hadvance : ∀ i, Advance db (program i) [] (found i trace) (p i) (ws i))
      (hdisjoint : ∀ i, ∀ u ∈ ws i, ∀ v ∈ ws !i, u.lock ≠ v.lock)
      (hnone : ∀ i, (i, Event.committed) ∉ trace) : Stage db program trace c
  | one {t₁ t₂ : List (Bool × Event ℓ)} {c : Config Bool σ ε κ ℓ α} (first : Bool) (a : α)
      (ws : List (Update σ ε κ)) (hrun : (program first).run db [] = .ok (a, ws))
      (hcommitted : c.session first = .committed a ws) (hdb : c.db = view db ws)
      (hnone : ∀ i, (i, Event.committed) ∉ t₁) (honce : ∀ e, (first, e) ∉ t₂)
      (q p : Program σ ε κ ℓ α) (us vs : List (Update σ ε κ)) (ls : List ℓ)
      (hbegun : Advance db (program !first) [] (found (!first) t₁) q us)
      (hdisjoint : ∀ u ∈ us, ∀ v ∈ ws, u.lock ≠ v.lock)
      (hopen : c.session (!first) = .running p vs) (hadvance : Advance (view db ws) q us ls p vs) :
    Stage db program (t₁ ++ (first, .committed) :: t₂) c
  | two {t₁ t₂ : List (Bool × Event ℓ)} {c : Config Bool σ ε κ ℓ α} (first : Bool) (a b : α)
      (ws vs : List (Update σ ε κ)) (hrun : (program first).run db [] = .ok (a, ws))
      (hfirst : c.session first = .committed a ws) (hlast : c.session (!first) = .committed b vs)
      (hdb : c.db = view (view db ws) vs) (hnone : ∀ i, (i, Event.committed) ∉ t₁)
      (honce : ∀ e, (first, e) ∉ t₂) (hend : (!first, .committed) ∈ t₂) (us : List (Update σ ε κ))
      (hdisjoint : ∀ u ∈ us, ∀ v ∈ ws, u.lock ≠ v.lock)
      (hsplit : SplitRun db (view db ws) (program !first) [] (found (!first) t₁) us b vs) :
    Stage db program (t₁ ++ (first, .committed) :: t₂) c
  | lost {trace : List (Bool × Event ℓ)} {c : Config Bool σ ε κ ℓ α} (i : Bool)
      (h : c.session i = .aborted) : Stage db program trace c

theorem Stage.start (db : σ) (program : Bool → Program σ ε κ ℓ α) :
    Stage db program [] (.start db program) :=
  .both program (fun _ => []) rfl (fun _ => rfl) (fun i => .refl (program i) [])
    (fun _ _ hu => absurd hu List.not_mem_nil) fun _ => List.not_mem_nil

theorem ne_not {i first : Bool} (h : i ≠ first) : i = !first := by
  cases i <;> cases first <;> simp_all

theorem not_ne (i : Bool) : (!i) ≠ i := by
  cases i <;> decide

/-- Beside a committed transaction the open one is the other. -/
theorem eq_not_of_open {i first : Bool} {a : α} {p : Program σ ε κ ℓ α}
    {ws vs : List (Update σ ε κ)} (hcommitted : c.session first = .committed a ws)
    (hopen : c.session i = .running p vs) : i = !first := by
  apply ne_not
  rintro rfl
  rw [hcommitted] at hopen
  cases hopen

/-- After two commits no transaction is open. -/
theorem not_open_of_committed {i first : Bool} {a b : α} {p : Program σ ε κ ℓ α}
    {ws vs us : List (Update σ ε κ)} (hfirst : c.session first = .committed a ws)
    (hlast : c.session (!first) = .committed b vs) : c.session i ≠ .running p us := by
  intro hopen
  obtain rfl := eq_not_of_open hfirst hopen
  rw [hlast] at hopen
  cases hopen

/-- A lost transaction stays lost while the other one takes steps. -/
theorem Stage.still_lost {i k : Bool} {p : Program σ ε κ ℓ α} {ws : List (Update σ ε κ)}
    {session : Session σ ε κ ℓ α} (hopen : c.session i = .running p ws)
    (hk : c.session k = .aborted) (db' : σ) :
    Stage db program trace ⟨db', Function.update c.session i session⟩ := by
  have hne : k ≠ i := by
    rintro rfl
    rw [hk] at hopen
    cases hopen
  exact .lost k ((Function.update_of_ne hne ..).trans hk)

/-- While both are open, each of them advances on its own. -/
theorem Stage.both_move {i : Bool} {q : Program σ ε κ ℓ α} {vs : List (Update σ ε κ)}
    {l : Option ℓ} (p : Bool → Program σ ε κ ℓ α) (ws : Bool → List (Update σ ε κ))
    (hdb : c.db = db) (hopen : ∀ i, c.session i = .running (p i) (ws i))
    (hadvance : ∀ i, Advance db (program i) [] (found i trace) (p i) (ws i))
    (hdisjoint : ∀ i, ∀ u ∈ ws i, ∀ v ∈ ws !i, u.lock ≠ v.lock)
    (hnone : ∀ i, (i, Event.committed) ∉ trace) (hfree : Unblocked c i (p i))
    (hmove : Move c.db (p i) (ws i) l q vs) :
    Stage db program (trace ++ [(i, .moved l)])
      ⟨c.db, Function.update c.session i (.running q vs)⟩ := by
  refine .both (Function.update p i q) (Function.update ws i vs) hdb ?_ ?_ ?_ ?_
  · intro k
    by_cases hk : k = i
    · subst hk
      simp only [Function.update_self]
    · simp only [Function.update_of_ne hk]
      exact hopen k
  · intro k
    rw [found_append]
    by_cases hk : k = i
    · subst hk
      simp only [Function.update_self, found_moved]
      exact (hadvance k).tail (hdb ▸ hmove)
    · simp only [Function.update_of_ne hk, found_other (Ne.symm hk), List.append_nil]
      exact hadvance k
  · have hnew : ∀ u ∈ vs, ∀ v ∈ ws !i, u.lock ≠ v.lock :=
      hmove.lock_ne hfree (not_ne i) (hopen !i) (hdisjoint i)
    intro k
    by_cases hk : k = i
    · subst hk
      simp only [Function.update_self, Function.update_of_ne (not_ne k)]
      exact hnew
    · obtain rfl := ne_not hk
      simp only [Bool.not_not, Function.update_self, Function.update_of_ne hk]
      exact fun u hu v hv => (hnew v hv u hu).symm
  · intro k
    simp [hnone k]

/-- A statement of one transaction. -/
theorem Stage.move {i : Bool} {p q : Program σ ε κ ℓ α} {ws vs : List (Update σ ε κ)}
    {l : Option ℓ} (h : Stage db program trace c) (hopen : c.session i = .running p ws)
    (hfree : Unblocked c i p) (hmove : Move c.db p ws l q vs) :
    Stage db program (trace ++ [(i, .moved l)])
      ⟨c.db, Function.update c.session i (.running q vs)⟩ := by
  cases h with
  | lost k hk => exact .still_lost hopen hk c.db
  | both p' ws' hdb hopen' hadvance hdisjoint hnone =>
    obtain ⟨rfl, rfl⟩ : p' i = p ∧ ws' i = ws := by
      rw [hopen' i] at hopen
      cases hopen
      exact ⟨rfl, rfl⟩
    exact .both_move p' ws' hdb hopen' hadvance hdisjoint hnone hfree hmove
  | one first a ws' hrun hcommitted hdb hnone honce q' p' us vs' ls hbegun hdisjoint hopen'
      hadvance =>
    obtain rfl := eq_not_of_open hcommitted hopen
    rw [hopen'] at hopen
    cases hopen
    rw [List.append_assoc, List.cons_append]
    refine .one first a ws' hrun ?_ hdb hnone ?_ q' q us vs (ls ++ l.toList) hbegun
      hdisjoint (Function.update_self ..) (hadvance.tail (hdb ▸ hmove))
    · exact (Function.update_of_ne (not_ne first).symm ..).trans hcommitted
    · intro e he
      rcases List.mem_append.mp he with hold | hnew
      · exact honce e hold
      · simp at hnew
  | two first a b ws' vs' hrun hfirst hlast =>
    exact absurd hopen (not_open_of_committed hfirst hlast)

/-- The commit of one transaction: the first one, or the second one. -/
theorem Stage.commit {i : Bool} {a : α} {ws : List (Update σ ε κ)}
    (h : Stage db program trace c) (hopen : c.session i = .running (.done a) ws) :
    Stage db program (trace ++ [(i, .committed)])
      ⟨view c.db ws, Function.update c.session i (.committed a ws)⟩ := by
  cases h with
  | lost k hk => exact .still_lost hopen hk _
  | both p' ws' hdb hopen' hadvance hdisjoint hnone =>
    obtain ⟨hp, rfl⟩ : p' i = .done a ∧ ws' i = ws := by
      have hboth := (hopen' i).symm.trans hopen
      injection hboth with hp hws
      exact ⟨hp, hws⟩
    have hrun : (program i).run db [] = .ok (a, ws' i) := by
      rw [(hadvance i).run_eq, hp]
      rfl
    refine .one i a (ws' i) hrun (Function.update_self ..) (congrArg (view · _) hdb) hnone
      (fun _ => List.not_mem_nil) (p' !i) (p' !i) (ws' !i) (ws' !i) [] (hadvance !i) ?_ ?_
      (.refl ..)
    · have hself := hdisjoint !i
      rw [Bool.not_not] at hself
      exact hself
    · exact (Function.update_of_ne (not_ne i) ..).trans (hopen' !i)
  | one first b ws' hrun hcommitted hdb hnone honce q p us vs ls hbegun hdisjoint hopen'
      hadvance =>
    obtain rfl := eq_not_of_open hcommitted hopen
    rw [hopen'] at hopen
    cases hopen
    rw [List.append_assoc, List.cons_append]
    refine .two first b a ws' ws hrun ?_ (Function.update_self ..)
      (congrArg (view · ws) hdb) hnone ?_
      (List.mem_append_right _ (List.mem_singleton_self _)) us hdisjoint ⟨q, hbegun, ?_⟩
    · exact (Function.update_of_ne (not_ne first).symm ..).trans hcommitted
    · intro e he
      rcases List.mem_append.mp he with hold | hnew
      · exact honce e hold
      · simp at hnew
    · rw [hadvance.run_eq]
      rfl
  | two first b b' ws' vs' hrun hfirst hlast =>
    exact absurd hopen (not_open_of_committed hfirst hlast)

theorem Stage.step {c d : Config Bool σ ε κ ℓ α} {e : Bool × Event ℓ}
    (h : Stage db program trace c) (hstep : Step c e d) : Stage db program (trace ++ [e]) d := by
  cases hstep with
  | @abort i p ws hopen => exact .lost i (Function.update_self ..)
  | move hopen hfree hmove => exact h.move hopen hfree hmove
  | commit hopen => exact h.commit hopen

theorem Steps.stage (h : Steps (.start db program) trace c) : Stage db program trace c := by
  induction h with
  | refl => exact .start db program
  | tail _ hstep ih => exact ih.step hstep

/-- The first of two committed transactions ran alone on `db`. The second one began on `db`,
where no update of it had a lock of the first one, and finished on what the first one
committed; its updates are on top. -/
structure Overlap (db : σ) (program : Bool → Program σ ε κ ℓ α) (a : Bool → α)
    (ws : Bool → List (Update σ ε κ)) (first : Bool) (t₁ : List (Bool × Event ℓ)) : Prop where
  alone : (program first).run db [] = .ok (a first, ws first)
  split : ∃ us, (∀ u ∈ us, ∀ v ∈ ws first, u.lock ≠ v.lock) ∧
    SplitRun db (view db (ws first)) (program !first) [] (found (!first) t₁) us (a !first)
      (ws !first)

/-- Two transactions that both commit overlap, with one commit before the other. -/
theorem Steps.two_commits (h : Steps (.start db program) trace c) {a : Bool → α}
    {ws : Bool → List (Update σ ε κ)} (hend : ∀ i, c.session i = .committed (a i) (ws i)) :
    ∃ first t₁ t₂, trace = t₁ ++ (first, .committed) :: t₂ ∧ (∀ i, (i, .committed) ∉ t₁) ∧
      (∀ e, (first, e) ∉ t₂) ∧ (!first, .committed) ∈ t₂ ∧ Overlap db program a ws first t₁ ∧
      c.db = view (view db (ws first)) (ws !first) := by
  cases h.stage with
  | both p ws' hdb hopen =>
    cases (hend true).symm.trans (hopen true)
  | one first _ _ _ _ _ _ _ _ _ _ _ _ _ _ hopen =>
    cases (hend !first).symm.trans hopen
  | lost i h =>
    cases (hend i).symm.trans h
  | @two t₁ t₂ _ first a' b ws' vs hrun hfirst hlast hdb hnone honce hlater us hdisjoint hsplit =>
    have hf := (hend first).symm.trans hfirst
    have hl := (hend !first).symm.trans hlast
    injection hf with ha hws
    injection hl with hb hvs
    subst ha hws hb hvs
    exact ⟨first, t₁, t₂, rfl, hnone, honce, hlater, ⟨hrun, us, hdisjoint, hsplit⟩, hdb⟩

/-- There is one way to tell which of two transactions committed first. -/
theorem first_commit_unique {t₁ t₂ s₁ s₂ : List (Bool × Event ℓ)} {first i : Bool}
    (h : t₁ ++ (first, .committed) :: t₂ = s₁ ++ (i, .committed) :: s₂)
    (hnone : ∀ i, (i, Event.committed) ∉ t₁) (honce : ∀ e, (first, e) ∉ t₂)
    (hlater : (!i, .committed) ∈ s₂) : i = first ∧ s₁ = t₁ := by
  rcases List.append_eq_append_iff.mp h with ⟨as, rfl, hrest⟩ | ⟨bs, rfl, hrest⟩
  · rcases as with _ | ⟨e, as⟩
    · cases hrest
      exact ⟨rfl, List.append_nil t₁⟩
    · obtain ⟨rfl, rfl⟩ := List.cons_eq_cons.mp hrest
      have hne : i ≠ first := by
        rintro rfl
        exact honce _ (List.mem_append_right as List.mem_cons_self)
      rw [ne_not hne, Bool.not_not] at hlater
      exact absurd (List.mem_append_right as (List.mem_cons_of_mem _ hlater)) (honce _)
  · rcases bs with _ | ⟨e, bs⟩
    · cases hrest
      exact ⟨rfl, (List.append_nil s₁).symm⟩
    · obtain ⟨rfl, -⟩ := List.cons_eq_cons.mp hrest
      exact absurd (List.mem_append_right s₁ List.mem_cons_self) (hnone i)

/-- Two transactions that have written nothing yet can run to their ends one after the other. -/
theorem Config.turns {i : Bool} {p q : Program σ ε κ ℓ α} {a b : α} {ws vs : List (Update σ ε κ)}
    (hp : c.session i = .running p []) (hq : c.session (!i) = .running q [])
    (hfirst : p.run c.db [] = .ok (a, ws)) (hsecond : q.run (view c.db ws) [] = .ok (b, vs)) :
    ∃ t t' d, (∀ e ∈ t, e.1 = i) ∧ (∀ e ∈ t', e.1 = !i) ∧ Steps c (t ++ t') d ∧
      d.session i = .committed a ws ∧ d.session (!i) = .committed b vs ∧
      d.db = view (view c.db ws) vs := by
  have hidle : c.Idle i := by
    intro j hne r us hj
    rw [ne_not hne, hq] at hj
    cases hj
    rfl
  obtain ⟨t, hown, hsteps⟩ := hidle.steps hp hfirst
  have hlast : Config.Idle
      ⟨view c.db ws, Function.update c.session i (.committed a ws)⟩ (!i) := by
    intro j hne r us hj
    rw [ne_not hne, Bool.not_not] at hj
    dsimp only at hj
    rw [Function.update_self] at hj
    cases hj
  obtain ⟨t', hown', hrest⟩ :=
    hlast.steps ((Function.update_of_ne (not_ne i) ..).trans hq) hsecond
  exact ⟨t, t', _, hown, hown', hsteps.trans hrest,
    (Function.update_of_ne (not_ne i).symm ..).trans (Function.update_self ..),
    Function.update_self .., rfl⟩

end ReadCommitted
