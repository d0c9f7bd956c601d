import Mathlib.Data.List.Pairwise
import Mathlib.Logic.Function.Basic
import RevenueRescue.Base.Run
import RevenueRescue.Base.Table

/-!
# Results remembered under a key

Calls look up their key among the stored results, compute a result where there is none, and store
it. Each of the three is atomic, and the calls take turns in any order. A call between its lookup
and its store is invisible to a lookup, so a second call with its key computes again.

A run in which no lookup misses while another call with the key is in that window computes once for
each key, and all calls with the key return that one result. Where all calls have returned, no other
runs do.
-/

namespace Memo

variable {ι K V : Type}

/-- Where a call stands. -/
inductive Call (V : Type) where
  | ready
  | missed
  | computed (v : V)
  | returned (v : V)
  deriving DecidableEq, Repr

/-- The stored results, the calls, and the computations so far. -/
structure State (ι K V : Type) where
  stored : K → Option V
  call : ι → Call V
  computations : List (ι × V)

/-- A part of one call, with the value that a computation yields. -/
inductive Act (ι V : Type) where
  | lookup (i : ι)
  | compute (i : ι) (v : V)
  | store (i : ι)
  deriving DecidableEq, Repr

/-- All calls at their beginning. -/
def State.start (stored : K → Option V) : State ι K V := ⟨stored, fun _ => .ready, []⟩

/-- The call has missed its key and has not stored a result yet. -/
def State.InWindow (s : State ι K V) (i : ι) : Prop :=
  s.call i = .missed ∨ ∃ v, s.call i = .computed v

section Steps

variable [DecidableEq ι] [DecidableEq K]

/-- One act. A call that is not at this part of its course is left as it is. -/
def step (key : ι → K) (s : State ι K V) : Act ι V → State ι K V
  | .lookup i =>
    match s.call i with
    | .ready =>
      match s.stored (key i) with
      | some v => { s with call := Function.update s.call i (.returned v) }
      | none => { s with call := Function.update s.call i .missed }
    | _ => s
  | .compute i v =>
    match s.call i with
    | .missed =>
      { s with
        call := Function.update s.call i (.computed v), computations := s.computations ++ [(i, v)] }
    | _ => s
  | .store i =>
    match s.call i with
    | .computed v =>
      { s with
        stored := Function.update s.stored (key i) (some v)
        call := Function.update s.call i (.returned v) }
    | _ => s

/-- One call has moved, and no other. -/
structure Moves (s t : State ι K V) (i : ι) (c : Call V) : Prop where
  call : t.call i = c
  others : ∀ j, j ≠ i → t.call j = s.call j

omit [DecidableEq K] in
theorem moves_update {s t : State ι K V} {i : ι} {c : Call V}
    (h : t.call = Function.update s.call i c) : Moves s t i c := by
  constructor
  · rw [h, Function.update_self]
  · intro j hj
    rw [h, Function.update_of_ne hj]

/-- What an act can do. -/
inductive Step (key : ι → K) (s t : State ι K V) : Act ι V → Prop
  | stay {a : Act ι V} (hsame : t = s) : Step key s t a
  | hit {i : ι} {v : V} (hready : s.call i = .ready) (hfound : s.stored (key i) = some v)
      (hmoves : Moves s t i (.returned v)) (hstored : t.stored = s.stored)
      (hcomputations : t.computations = s.computations) : Step key s t (.lookup i)
  | miss {i : ι} (hready : s.call i = .ready) (hnone : s.stored (key i) = none)
      (hmoves : Moves s t i .missed) (hstored : t.stored = s.stored)
      (hcomputations : t.computations = s.computations) : Step key s t (.lookup i)
  | compute {i : ι} {v : V} (hmissed : s.call i = .missed) (hmoves : Moves s t i (.computed v))
      (hstored : t.stored = s.stored)
      (hcomputations : t.computations = s.computations ++ [(i, v)]) : Step key s t (.compute i v)
  | store {i : ι} {v : V} (hcomputed : s.call i = .computed v)
      (hmoves : Moves s t i (.returned v))
      (hstored : t.stored = Function.update s.stored (key i) (some v))
      (hcomputations : t.computations = s.computations) : Step key s t (.store i)

theorem step_cases (key : ι → K) (s : State ι K V) (a : Act ι V) : Step key s (step key s a) a := by
  cases a with
  | lookup i =>
    dsimp only [step]
    split
    next hready =>
      split
      next v hfound => exact .hit hready hfound (moves_update rfl) rfl rfl
      next hnone => exact .miss hready hnone (moves_update rfl) rfl rfl
    next => exact .stay rfl
  | compute i v =>
    dsimp only [step]
    split
    next hmissed => exact .compute hmissed (moves_update rfl) rfl rfl
    next => exact .stay rfl
  | store i =>
    dsimp only [step]
    split
    next v hcomputed => exact .store hcomputed (moves_update rfl) rfl rfl
    next => exact .stay rfl

end Steps

/-! ## Lookups that miss alone -/

/-- A lookup misses only while no call with its key is in the window. -/
def MissesAlone (key : ι → K) (s : State ι K V) (a : Act ι V) : Prop :=
  ∀ i, a = .lookup i → s.call i = .ready → s.stored (key i) = none →
    ∀ j, key j = key i → ¬s.InWindow j

/-- The computations for a key. -/
def computationsFor [DecidableEq K] (key : ι → K) (s : State ι K V) (k : K) : List (ι × V) :=
  s.computations.filter fun c => key c.1 = k

/-- No key is computed twice, and calls with the same key return the same. -/
structure Once [DecidableEq K] (key : ι → K) (s : State ι K V) : Prop where
  computed : ∀ k, (computationsFor key s k).length ≤ 1
  returned : ∀ i j v w, key i = key j → s.call i = .returned v → s.call j = .returned w → v = w

/-- What lookups that miss alone keep: at most one call of a key is in the window, and only while
nothing is stored; what was returned is stored; and no two computations share their key. -/
structure Kept (key : ι → K) (s : State ι K V) : Prop where
  window : ∀ i, s.InWindow i → s.stored (key i) = none
  alone : ∀ i j, s.InWindow i → s.InWindow j → key i = key j → i = j
  returned : ∀ i v, s.call i = .returned v → s.stored (key i) = some v
  computed : ∀ i v, (i, v) ∈ s.computations → s.call i = .computed v ∨ s.call i = .returned v
  distinct : s.computations.Pairwise fun c d => key c.1 ≠ key d.1

theorem Kept.start (key : ι → K) (stored : K → Option V) : Kept key (State.start stored) where
  window i h := by rcases h with h | ⟨v, h⟩ <;> cases h
  alone i j h := by rcases h with h | ⟨v, h⟩ <;> cases h
  returned i v h := by cases h
  computed i v h := by cases h
  distinct := .nil

/-- A call that has missed has nothing computed under its key. -/
theorem Kept.not_computed {key : ι → K} {s : State ι K V} (h : Kept key s) {i : ι}
    (hmissed : s.call i = .missed) {c : ι × V} (hc : c ∈ s.computations) : key c.1 ≠ key i := by
  intro hkey
  rcases h.computed c.1 c.2 hc with hcomputed | hreturned
  · obtain rfl := h.alone _ _ (.inr ⟨_, hcomputed⟩) (.inl hmissed) hkey
    rw [hcomputed] at hmissed
    cases hmissed
  · have hstored := h.returned _ _ hreturned
    rw [hkey, h.window i (.inl hmissed)] at hstored
    cases hstored

section Moves

variable {key : ι → K} {s t : State ι K V} {i j : ι} {c : Call V}

/-- A call that is in the window has moved there, or it was there before. -/
theorem Moves.inWindow (h : Moves s t i c) (hj : t.InWindow j) : j = i ∨ s.InWindow j := by
  by_cases hji : j = i
  · exact .inl hji
  · unfold State.InWindow at hj
    rw [h.others j hji] at hj
    exact .inr hj

/-- A call that returns leaves the window. -/
theorem Moves.inWindow_returned {v : V} (h : Moves s t i (.returned v)) (hj : t.InWindow j) :
    j ≠ i ∧ s.InWindow j := by
  have hne : j ≠ i := by
    rintro rfl
    unfold State.InWindow at hj
    rw [h.call] at hj
    rcases hj with hj | ⟨_, hj⟩ <;> cases hj
  exact ⟨hne, (h.inWindow hj).resolve_left hne⟩

/-- A call that was not moved to a result had it before. -/
theorem Moves.returned {v : V} (h : Moves s t i c) (hc : ∀ v, c ≠ .returned v)
    (hj : t.call j = .returned v) : s.call j = .returned v := by
  have hne : j ≠ i := by
    rintro rfl
    exact hc v (h.call.symm.trans hj)
  rw [← h.others j hne]
  exact hj

/-- A call that had nothing computed is none of those that had. -/
theorem Moves.computed {v : V} (h : Moves s t i c) (hi : s.call i = .ready ∨ s.call i = .missed)
    (hj : s.call j = .computed v ∨ s.call j = .returned v) :
    t.call j = .computed v ∨ t.call j = .returned v := by
  have hne : j ≠ i := by
    rintro rfl
    rcases hi with hi | hi <;> rw [hi] at hj <;> rcases hj with hj | hj <;> cases hj
  rw [h.others j hne]
  exact hj

end Moves

section Kept

variable {key : ι → K} {s t : State ι K V} {i : ι} {v : V}

/-- A call returns what is stored. -/
theorem Kept.hit (h : Kept key s) (hready : s.call i = .ready)
    (hfound : s.stored (key i) = some v) (hmoves : Moves s t i (.returned v))
    (hstored : t.stored = s.stored) (hcomputations : t.computations = s.computations) :
    Kept key t := by
  constructor
  · intro j hj
    rw [hstored]
    exact h.window j (hmoves.inWindow_returned hj).2
  · intro j k hj hk
    exact h.alone j k (hmoves.inWindow_returned hj).2 (hmoves.inWindow_returned hk).2
  · intro j w hj
    rw [hstored]
    by_cases hji : j = i
    · rw [hji, hmoves.call] at hj
      rw [hji, hfound, Call.returned.inj hj]
    · rw [hmoves.others j hji] at hj
      exact h.returned j w hj
  · intro j w hj
    rw [hcomputations] at hj
    exact hmoves.computed (.inl hready) (h.computed j w hj)
  · rw [hcomputations]
    exact h.distinct

/-- A call enters the window alone. -/
theorem Kept.miss (h : Kept key s) (hready : s.call i = .ready) (hnone : s.stored (key i) = none)
    (halone : ∀ j, key j = key i → ¬s.InWindow j) (hmoves : Moves s t i .missed)
    (hstored : t.stored = s.stored) (hcomputations : t.computations = s.computations) :
    Kept key t := by
  constructor
  · intro j hj
    rw [hstored]
    rcases hmoves.inWindow hj with rfl | hj
    · exact hnone
    · exact h.window j hj
  · intro j k hj hk hkey
    rcases hmoves.inWindow hj with rfl | hj
    · rcases hmoves.inWindow hk with rfl | hk
      · rfl
      · exact absurd hk (halone k hkey.symm)
    · rcases hmoves.inWindow hk with rfl | hk
      · exact absurd hj (halone j hkey)
      · exact h.alone j k hj hk hkey
  · intro j w hj
    rw [hstored]
    exact h.returned j w (hmoves.returned (fun _ h => by cases h) hj)
  · intro j w hj
    rw [hcomputations] at hj
    exact hmoves.computed (.inl hready) (h.computed j w hj)
  · rw [hcomputations]
    exact h.distinct

/-- A call computes while it is in the window. -/
theorem Kept.compute (h : Kept key s) (hmissed : s.call i = .missed)
    (hmoves : Moves s t i (.computed v)) (hstored : t.stored = s.stored)
    (hcomputations : t.computations = s.computations ++ [(i, v)]) : Kept key t := by
  have hwindow : ∀ j, t.InWindow j → s.InWindow j := fun j hj => by
    rcases hmoves.inWindow hj with rfl | hj
    · exact .inl hmissed
    · exact hj
  constructor
  · intro j hj
    rw [hstored]
    exact h.window j (hwindow j hj)
  · intro j k hj hk
    exact h.alone j k (hwindow j hj) (hwindow k hk)
  · intro j w hj
    rw [hstored]
    exact h.returned j w (hmoves.returned (fun _ h => by cases h) hj)
  · intro j w hj
    rw [hcomputations, List.mem_append, List.mem_singleton] at hj
    rcases hj with hj | hj
    · exact hmoves.computed (.inr hmissed) (h.computed j w hj)
    · obtain ⟨rfl, rfl⟩ := Prod.mk.inj hj
      exact .inl hmoves.call
  · rw [hcomputations, List.pairwise_append]
    refine ⟨h.distinct, List.pairwise_singleton .., fun c hc d hd => ?_⟩
    rw [List.mem_singleton.mp hd]
    exact h.not_computed hmissed hc

/-- A call leaves the window and stores what it computed. -/
theorem Kept.store [DecidableEq K] (h : Kept key s) (hcomputed : s.call i = .computed v)
    (hmoves : Moves s t i (.returned v))
    (hstored : t.stored = Function.update s.stored (key i) (some v))
    (hcomputations : t.computations = s.computations) : Kept key t := by
  have hwindow : s.InWindow i := .inr ⟨v, hcomputed⟩
  constructor
  · intro j hj
    obtain ⟨hne, hj⟩ := hmoves.inWindow_returned hj
    have hkey : key j ≠ key i := fun hkey => hne (h.alone j i hj hwindow hkey)
    rw [hstored, Function.update_of_ne hkey]
    exact h.window j hj
  · intro j k hj hk
    exact h.alone j k (hmoves.inWindow_returned hj).2 (hmoves.inWindow_returned hk).2
  · intro j w hj
    by_cases hji : j = i
    · rw [hji, hmoves.call] at hj
      rw [hji, hstored, Function.update_self, Call.returned.inj hj]
    · rw [hmoves.others j hji] at hj
      have hfound := h.returned j w hj
      have hkey : key j ≠ key i := fun hkey => by
        rw [hkey, h.window i hwindow] at hfound
        cases hfound
      rw [hstored, Function.update_of_ne hkey]
      exact hfound
  · intro j w hj
    rw [hcomputations] at hj
    by_cases hji : j = i
    · have hcall := h.computed j w hj
      rw [hji, hcomputed] at hcall
      rw [hji, hmoves.call]
      rcases hcall with hcall | hcall
      · rw [Call.computed.inj hcall]
        exact .inr rfl
      · cases hcall
    · rw [hmoves.others j hji]
      exact h.computed j w hj
  · rw [hcomputations]
    exact h.distinct

end Kept

section Steps

variable [DecidableEq ι] [DecidableEq K] {key : ι → K} {s t : State ι K V} {a : Act ι V}

/-- Lookups that miss alone keep it. -/
theorem Kept.step (h : Kept key s) (hguard : MissesAlone key s a) : Kept key (step key s a) := by
  have hstep := step_cases key s a
  generalize Memo.step key s a = t at hstep
  cases hstep with
  | stay hsame => rwa [hsame]
  | hit hready hfound hmoves hstored hcomputations =>
    exact h.hit hready hfound hmoves hstored hcomputations
  | @miss i hready hnone hmoves hstored hcomputations =>
    exact h.miss hready hnone (hguard i rfl hready hnone) hmoves hstored hcomputations
  | compute hmissed hmoves hstored hcomputations =>
    exact h.compute hmissed hmoves hstored hcomputations
  | store hcomputed hmoves hstored hcomputations =>
    exact h.store hcomputed hmoves hstored hcomputations

omit [DecidableEq ι] in
/-- What is kept makes each computation the only one for its key. -/
theorem Kept.once (h : Kept key s) : Once key s := by
  constructor
  · intro k
    by_contra hmany
    obtain ⟨c, rest, hfilter⟩ : ∃ c rest, computationsFor key s k = c :: rest :=
      List.exists_cons_of_length_pos (by omega)
    have hpairwise := h.distinct.filter fun c => key c.1 = k
    unfold computationsFor at hmany hfilter
    rw [hfilter] at hmany hpairwise
    obtain ⟨d, rest', hrest⟩ : ∃ d rest', rest = d :: rest' :=
      List.exists_cons_of_length_pos (by rw [List.length_cons] at hmany; omega)
    have hmem : ∀ e ∈ c :: rest, key e.1 = k := fun e he => by
      rw [← hfilter] at he
      exact of_decide_eq_true (List.mem_filter.mp he).2
    have hd : d ∈ rest := hrest ▸ List.mem_cons_self
    exact (List.pairwise_cons.mp hpairwise).1 d hd ((hmem c List.mem_cons_self).trans
      (hmem d (List.mem_cons_of_mem _ hd)).symm)
  · intro i j v w hkey hi hj
    have hv := h.returned i v hi
    rw [hkey, h.returned j w hj] at hv
    exact (Option.some.inj hv).symm

/-- A run whose lookups miss alone computes once for each key. -/
theorem once_of_guarded {stored : K → Option V} {acts : List (Act ι V)}
    (h : Run.Guarded (step key) (MissesAlone key) (State.start stored) acts) :
    Once key (Run.after (step key) (State.start stored) acts) :=
  (Run.guarded_invariant (fun _ _ hguard hs => Kept.step hs hguard) acts h (.start key stored)).once

/-! ## Lookups that miss together -/

/-- The call has missed its key or has computed. -/
def State.Begun (s : State ι K V) (i : ι) : Prop :=
  s.call i = .missed ∨ ∃ v, (i, v) ∈ s.computations

/-- Every result that waits for its store is among the computations. -/
def State.Logged (s : State ι K V) : Prop :=
  ∀ i v, s.call i = .computed v → (i, v) ∈ s.computations

theorem State.Begun.step {i : ι} (h : s.Begun i) : (Memo.step key s a).Begun i := by
  have hstep := step_cases key s a
  generalize Memo.step key s a = t at hstep
  have hkept : (∀ c ∈ s.computations, c ∈ t.computations) →
      (s.call i = .missed → t.Begun i) → t.Begun i := fun hlog hmissed =>
    h.elim hmissed fun ⟨v, hv⟩ => .inr ⟨v, hlog _ hv⟩
  cases hstep with
  | stay hsame => rwa [hsame]
  | @hit j v hready hfound hmoves hstored hcomputations =>
    refine hkept (fun c hc => hcomputations ▸ hc) fun hmissed => .inl ?_
    rw [hmoves.others i (by rintro rfl; rw [hmissed] at hready; cases hready)]
    exact hmissed
  | @miss j hready hnone hmoves hstored hcomputations =>
    refine hkept (fun c hc => hcomputations ▸ hc) fun hmissed => .inl ?_
    rw [hmoves.others i (by rintro rfl; rw [hmissed] at hready; cases hready)]
    exact hmissed
  | @compute j v hmissed hmoves hstored hcomputations =>
    refine hkept (fun c hc => hcomputations ▸ List.mem_append_left _ hc) fun hi => ?_
    by_cases hij : i = j
    · refine .inr ⟨v, ?_⟩
      rw [hij, hcomputations]
      exact List.mem_append_right _ List.mem_cons_self
    · exact .inl ((hmoves.others i hij).trans hi)
  | @store j v hcomputed hmoves hstored hcomputations =>
    refine hkept (fun c hc => hcomputations ▸ hc) fun hmissed => .inl ?_
    rw [hmoves.others i (by rintro rfl; rw [hmissed] at hcomputed; cases hcomputed)]
    exact hmissed

theorem State.Logged.step (h : s.Logged) : (Memo.step key s a).Logged := by
  have hstep := step_cases key s a
  generalize Memo.step key s a = t at hstep
  have hother : ∀ {j c}, Moves s t j c → (∀ v, c ≠ .computed v) →
      t.computations = s.computations → t.Logged := by
    intro j c hmoves hc hcomputations i v hi
    have hij : i ≠ j := by
      rintro rfl
      exact hc v (hmoves.call.symm.trans hi)
    rw [hcomputations]
    exact h i v ((hmoves.others i hij).symm.trans hi)
  cases hstep with
  | stay hsame => rwa [hsame]
  | hit hready hfound hmoves hstored hcomputations =>
    exact hother hmoves (fun _ h => by cases h) hcomputations
  | miss hready hnone hmoves hstored hcomputations =>
    exact hother hmoves (fun _ h => by cases h) hcomputations
  | @compute j v hmissed hmoves hstored hcomputations =>
    intro i w hi
    rw [hcomputations]
    by_cases hij : i = j
    · rw [hij, hmoves.call] at hi
      rw [hij, Call.computed.inj hi]
      exact List.mem_append_right _ List.mem_cons_self
    · exact List.mem_append_left _ (h i w ((hmoves.others i hij).symm.trans hi))
  | store hcomputed hmoves hstored hcomputations =>
    exact hother hmoves (fun _ h => by cases h) hcomputations

/-- A lookup that misses while another call with the key is in the window leads to two
computations, once both calls have returned. -/
theorem guarded_of_once {stored : K → Option V} {acts : List (Act ι V)}
    (hreturned : ∀ i, ∃ v, (Run.after (step key) (State.start stored) acts).call i = .returned v)
    (honce : Once key (Run.after (step key) (State.start stored) acts)) :
    Run.Guarded (step key) (MissesAlone key) (State.start stored) acts := by
  by_contra hunguarded
  obtain ⟨before, a, later, hacts, hrefused⟩ := Run.exists_unguarded acts hunguarded
  unfold MissesAlone at hrefused
  push Not at hrefused
  obtain ⟨i, rfl, hready, hnone, j, hkey, hwindow⟩ := hrefused
  have hlogged : (Run.after (step key) (State.start stored) before).Logged :=
    Run.invariant (fun _ _ h => h.step) before (fun _ _ h => by cases h)
  have hend : Run.after (step key) (State.start stored) acts = Run.after (step key)
      (step key (Run.after (step key) (State.start stored) before) (.lookup i)) later := by
    rw [hacts, Run.after_append, Run.after_cons]
  -- both calls have begun after the lookup, so both have computed in the end
  have hcomputed : ∀ k,
      (step key (Run.after (step key) (State.start stored) before) (.lookup i)).Begun k →
        ∃ v, (k, v) ∈ (Run.after (step key) (State.start stored) acts).computations := by
    intro k hk
    have hlast : (Run.after (step key) (State.start stored) acts).Begun k := by
      rw [hend]
      exact Run.invariant (I := fun s : State ι K V => s.Begun k)
        (fun _ _ h => State.Begun.step h) later hk
    obtain ⟨v, hv⟩ := hreturned k
    refine hlast.resolve_left fun hmissed => ?_
    rw [hv] at hmissed
    cases hmissed
  have hmissed : (step key (Run.after (step key) (State.start stored) before) (.lookup i)).call i =
      .missed := by
    simp [step, hready, hnone]
  obtain ⟨v, hv⟩ := hcomputed i (.inl hmissed)
  obtain ⟨w, hw⟩ := hcomputed j (State.Begun.step (hwindow.imp id fun ⟨v, hj⟩ =>
    ⟨v, hlogged j v hj⟩))
  have hne : (i, v) ≠ (j, w) := by
    rintro hsame
    obtain ⟨rfl, -⟩ := Prod.mk.inj hsame
    unfold State.InWindow at hwindow
    rw [hready] at hwindow
    rcases hwindow with hwindow | ⟨_, hwindow⟩ <;> cases hwindow
  have hfirst : (i, v) ∈ computationsFor key (Run.after (step key) (State.start stored) acts)
      (key i) := List.mem_filter.mpr ⟨hv, decide_eq_true rfl⟩
  have hsecond : (j, w) ∈ computationsFor key (Run.after (step key) (State.start stored) acts)
      (key i) := List.mem_filter.mpr ⟨hw, decide_eq_true hkey⟩
  exact absurd (honce.computed (key i)) (Nat.not_le.mpr (Table.one_lt_length hfirst hsecond hne))

end Steps

end Memo
