import Mathlib.Data.List.Basic

/-!
# Transactions as sequences of statements

A transaction is a program of single statements: a query sees the rows of the database and
goes on with what it found, an update locks a row or a key and may violate a constraint.
What a transaction has written so far is kept apart from the database until it commits, so a
query sees the committed rows with the transaction's own updates on top.

The same program can be run alone on one database, or begun on one database and finished on
another one, as happens when the rest of the world commits in between.
-/

namespace ReadCommitted

/-- A statement that writes: what it locks, whether it violates a constraint on the rows it sees,
and what it does to them. -/
structure Update (σ ε κ : Type) where
  lock : κ
  violation : σ → Option ε
  apply : σ → σ

/-- A program of statements. The label of a query tells from outside what it found, where that
matters; a violated constraint leads on to a handler, as under a savepoint. -/
inductive Program (σ ε κ ℓ α : Type) where
  | done (a : α)
  | fail (e : ε)
  | query (label : σ → Option ℓ) (next : σ → Program σ ε κ ℓ α)
  | update (u : Update σ ε κ) (next : Program σ ε κ ℓ α) (violated : ε → Program σ ε κ ℓ α)

variable {σ ε κ ℓ α β γ : Type}

namespace Program

/-- The program that goes on with what the first one returns. -/
def bind : Program σ ε κ ℓ α → (α → Program σ ε κ ℓ β) → Program σ ε κ ℓ β
  | done a, k => k a
  | fail e, _ => fail e
  | query label next, k => query label fun s => (next s).bind k
  | update u next violated, k => update u (next.bind k) fun e => (violated e).bind k

instance : Monad (Program σ ε κ ℓ) where
  pure := done
  bind := bind

@[simp] theorem pure_eq (a : α) : (pure a : Program σ ε κ ℓ α) = done a := rfl

@[simp] theorem done_bind (a : α) (k : α → Program σ ε κ ℓ β) : (done a >>= k) = k a := rfl

@[simp] theorem fail_bind (e : ε) (k : α → Program σ ε κ ℓ β) : (fail e >>= k) = fail e := rfl

@[simp] theorem query_bind (label : σ → Option ℓ) (next : σ → Program σ ε κ ℓ α)
    (k : α → Program σ ε κ ℓ β) :
    (query label next >>= k) = query label fun s => next s >>= k :=
  rfl

@[simp] theorem update_bind (u : Update σ ε κ) (next : Program σ ε κ ℓ α)
    (violated : ε → Program σ ε κ ℓ α) (k : α → Program σ ε κ ℓ β) :
    (update u next violated >>= k) = update u (next >>= k) fun e => violated e >>= k :=
  rfl

theorem bind_assoc (p : Program σ ε κ ℓ α) (k : α → Program σ ε κ ℓ β)
    (k' : β → Program σ ε κ ℓ γ) : (p >>= k >>= k') = p >>= fun a => k a >>= k' := by
  induction p with
  | done a => rfl
  | fail e => rfl
  | query label next ih =>
    simp only [query_bind]
    congr 1
    funext s
    exact ih s
  | update u next violated ih ihv =>
    simp only [update_bind, ih]
    congr 1
    funext e
    exact ihv e

end Program

/-- The rows a transaction sees: the committed ones with its own updates on top. -/
def view (db : σ) (ws : List (Update σ ε κ)) : σ := ws.foldl (fun s u => u.apply s) db

@[simp] theorem view_nil (db : σ) : view db ([] : List (Update σ ε κ)) = db := rfl

theorem view_append (db : σ) (ws vs : List (Update σ ε κ)) :
    view db (ws ++ vs) = view (view db ws) vs :=
  List.foldl_append

@[simp] theorem view_cons (db : σ) (u : Update σ ε κ) (ws : List (Update σ ε κ)) :
    view db (u :: ws) = view (u.apply db) ws :=
  rfl

theorem view_snoc (db : σ) (ws : List (Update σ ε κ)) (u : Update σ ε κ) :
    view db (ws ++ [u]) = u.apply (view db ws) := by
  rw [view_append, view_cons, view_nil]

/-- What every single update leaves alone is left alone by all of them. -/
theorem view_eq_of_forall {ρ : Type} (read : σ → ρ) {ws : List (Update σ ε κ)}
    (h : ∀ u ∈ ws, ∀ s, read (u.apply s) = read s) (db : σ) : read (view db ws) = read db := by
  induction ws generalizing db with
  | nil => rfl
  | cons u ws ih =>
    rw [view_cons, ih fun v hv => h v (List.mem_cons_of_mem u hv)]
    exact h u List.mem_cons_self db

/-- What is found under a key stays as it is, or it is new and some update has locked the key, when
that is so for every single update. -/
theorem view_find {ρ : Type} (read : σ → Option ρ) (key : κ) {ws : List (Update σ ε κ)}
    (h : ∀ u ∈ ws, ∀ s, read (u.apply s) = read s ∨ read s = none ∧ u.lock = key) (db : σ) :
    read (view db ws) = read db ∨ read db = none ∧ ∃ u ∈ ws, u.lock = key := by
  induction ws generalizing db with
  | nil => exact .inl rfl
  | cons u ws ih =>
    rw [view_cons]
    have hrest := ih (fun v hv => h v (List.mem_cons_of_mem u hv)) (u.apply db)
    rcases h u List.mem_cons_self db with hsame | ⟨hnone, hlock⟩
    · rw [hsame] at hrest
      exact hrest.imp_right fun ⟨hnone, v, hv, hkey⟩ => ⟨hnone, v, List.mem_cons_of_mem u hv, hkey⟩
    · exact .inr ⟨hnone, u, List.mem_cons_self, hlock⟩

/-- One statement of a program on a database, with the label of a query. -/
inductive Move (db : σ) :
    Program σ ε κ ℓ α → List (Update σ ε κ) → Option ℓ → Program σ ε κ ℓ α →
      List (Update σ ε κ) → Prop
  | query (label : σ → Option ℓ) (next : σ → Program σ ε κ ℓ α) (ws : List (Update σ ε κ)) :
    Move db (.query label next) ws (label (view db ws)) (next (view db ws)) ws
  | update {u : Update σ ε κ} {next : Program σ ε κ ℓ α} {violated : ε → Program σ ε κ ℓ α}
      {ws : List (Update σ ε κ)} (h : u.violation (view db ws) = none) :
    Move db (.update u next violated) ws none next (ws ++ [u])
  | violated {u : Update σ ε κ} {next : Program σ ε κ ℓ α} {violated : ε → Program σ ε κ ℓ α}
      {ws : List (Update σ ε κ)} {e : ε} (h : u.violation (view db ws) = some e) :
    Move db (.update u next violated) ws none (violated e) ws

/-- Any number of statements on a database that does not change. -/
inductive Advance (db : σ) :
    Program σ ε κ ℓ α → List (Update σ ε κ) → List ℓ → Program σ ε κ ℓ α → List (Update σ ε κ) →
      Prop
  | refl (p : Program σ ε κ ℓ α) (ws : List (Update σ ε κ)) : Advance db p ws [] p ws
  | tail {p q r : Program σ ε κ ℓ α} {ws vs us : List (Update σ ε κ)} {ls : List ℓ}
      {l : Option ℓ} (h : Advance db p ws ls q vs) (hmove : Move db q vs l r us) :
    Advance db p ws (ls ++ l.toList) r us

/-- The result of a program that runs alone, and its updates. -/
def Program.run (db : σ) :
    Program σ ε κ ℓ α → List (Update σ ε κ) → Except ε (α × List (Update σ ε κ))
  | .done a, ws => .ok (a, ws)
  | .fail e, _ => .error e
  | .query _ next, ws => (next (view db ws)).run db ws
  | .update u next violated, ws =>
    match u.violation (view db ws) with
    | none => next.run db (ws ++ [u])
    | some e => (violated e).run db ws

/-- The database after a program that runs alone and is then committed. -/
def Program.commit (db : σ) (p : Program σ ε κ ℓ α) : σ :=
  match p.run db [] with
  | .ok (_, ws) => view db ws
  | .error _ => db

variable {db db' : σ} {p q : Program σ ε κ ℓ α} {k : α → Program σ ε κ ℓ β}
  {ws vs us : List (Update σ ε κ)} {ls : List ℓ} {l : Option ℓ} {a : α} {b : β}

theorem Program.run_bind (k : α → Program σ ε κ ℓ β) :
    (p >>= k).run db ws = (p.run db ws >>= fun r => (k r.1).run db r.2) := by
  induction p generalizing ws with
  | done a => rfl
  | fail e => rfl
  | query label next ih => exact ih (view db ws)
  | update u next violated ih ihv =>
    simp only [update_bind, Program.run]
    rcases u.violation (view db ws) with _ | e
    · exact ih
    · exact ihv e

/-- A sequence that ends normally got through both of its parts. -/
theorem Program.run_bind_eq_ok {r : β × List (Update σ ε κ)} :
    (p >>= k).run db ws = .ok r ↔ ∃ a vs, p.run db ws = .ok (a, vs) ∧ (k a).run db vs = .ok r := by
  rw [run_bind]
  rcases p.run db ws with e | ⟨a, vs⟩
  · exact iff_of_false (by rintro ⟨⟩) (by rintro ⟨_, _, ⟨⟩, _⟩)
  · constructor
    · exact fun h => ⟨a, vs, rfl, h⟩
    · rintro ⟨a', vs', ha, h⟩
      cases ha
      exact h

/-- A statement does not change where the program ends when it runs alone. -/
theorem Move.run_eq (h : Move db p ws l q vs) : p.run db ws = q.run db vs := by
  cases h with
  | query label next => rfl
  | update h => simp only [Program.run, h]
  | violated h => simp only [Program.run, h]

theorem Advance.run_eq (h : Advance db p ws ls q vs) : p.run db ws = q.run db vs := by
  induction h with
  | refl => rfl
  | tail _ hmove ih => exact ih.trans hmove.run_eq

/-- Updates are only added. -/
theorem Move.grows (h : Move db p ws l q vs) : ws <+: vs := by
  cases h with
  | query label next => exact List.prefix_refl ws
  | update h => exact List.prefix_append ws _
  | violated h => exact List.prefix_refl ws

theorem Advance.grows (h : Advance db p ws ls q vs) : ws <+: vs := by
  induction h with
  | refl => exact List.prefix_refl _
  | tail _ hmove ih => exact ih.trans hmove.grows

/-- A statement of a sequence is one of its first part, until that part is done. -/
theorem Move.bind_cases {r : Program σ ε κ ℓ β} (h : Move db (p >>= k) ws l r vs) :
    (∃ a, p = .done a) ∨ ∃ q, r = q >>= k ∧ Move db p ws l q vs := by
  cases p with
  | done a => exact .inl ⟨a, rfl⟩
  | fail e => cases h
  | query label next =>
    cases h with
    | query => exact .inr ⟨_, rfl, .query label next ws⟩
  | update u next violated =>
    cases h with
    | update h => exact .inr ⟨next, rfl, .update h⟩
    | violated h => exact .inr ⟨_, rfl, .violated h⟩

/-- The beginning of a sequence is within its first part, or that part is done. -/
theorem Advance.bind_cases {r : Program σ ε κ ℓ β} (h : Advance db (p >>= k) ws ls r vs) :
    (∃ q, r = q >>= k ∧ Advance db p ws ls q vs) ∨
      ∃ a us ls₁ ls₂, Advance db p ws ls₁ (.done a) us ∧ Advance db (k a) us ls₂ r vs ∧
        ls = ls₁ ++ ls₂ := by
  generalize hp : (p >>= k) = p' at h
  induction h with
  | refl ws => exact .inl ⟨p, hp.symm, .refl p ws⟩
  | @tail q r ws vs us ls l h hmove ih =>
    rcases ih with ⟨q', rfl, hfirst⟩ | ⟨a, us', ls₁, ls₂, hfirst, hsecond, rfl⟩
    · rcases hmove.bind_cases with ⟨a, rfl⟩ | ⟨r', rfl, hmove'⟩
      · refine .inr ⟨a, vs, ls, l.toList, hfirst, ?_, rfl⟩
        exact Advance.tail (.refl (k a) vs) hmove
      · exact .inl ⟨r', rfl, hfirst.tail hmove'⟩
    · exact .inr ⟨a, us', ls₁, ls₂ ++ l.toList, hfirst, hsecond.tail hmove, List.append_assoc ..⟩

/-- The beginning of a program is empty or starts with its first statement. -/
theorem Advance.head_cases (h : Advance db p ws ls q vs) :
    (q = p ∧ vs = ws ∧ ls = []) ∨
      ∃ r us l rest, Move db p ws l r us ∧ Advance db r us rest q vs ∧ ls = l.toList ++ rest := by
  induction h with
  | refl => exact .inl ⟨rfl, rfl, rfl⟩
  | @tail q r ws vs us ls l h hmove ih =>
    rcases ih with ⟨rfl, rfl, rfl⟩ | ⟨r', us', l', rest, hfirst, hrest, rfl⟩
    · exact .inr ⟨r, us, l, [], hmove, .refl r us, (List.append_nil _).symm⟩
    · exact .inr ⟨r', us', l', rest ++ l.toList, hfirst, hrest.tail hmove, List.append_assoc ..⟩

/-! ## Programs begun on one database and finished on another -/

/-- The program runs for a while on `db`, where it finds `ls` and comes to the updates `us`, and
from then on on `db'`. -/
def SplitRun (db db' : σ) (p : Program σ ε κ ℓ α) (ws : List (Update σ ε κ)) (ls : List ℓ)
    (us : List (Update σ ε κ)) (a : α) (vs : List (Update σ ε κ)) : Prop :=
  ∃ q, Advance db p ws ls q us ∧ q.run db' us = .ok (a, vs)

/-- A sequence changes databases within its first part or within its second one. -/
theorem SplitRun.bind_cases (h : SplitRun db db' (p >>= k) ws ls us b vs) :
    (∃ a vs', SplitRun db db' p ws ls us a vs' ∧ (k a).run db' vs' = .ok (b, vs)) ∨
      ∃ a ws' ls₁ ls₂, Advance db p ws ls₁ (.done a) ws' ∧
        SplitRun db db' (k a) ws' ls₂ us b vs ∧ ls = ls₁ ++ ls₂ := by
  obtain ⟨r, hfirst, hrun⟩ := h
  rcases hfirst.bind_cases with ⟨q, rfl, hq⟩ | ⟨a, ws', ls₁, ls₂, hp, hk, rfl⟩
  · obtain ⟨a, vs', ha, hb⟩ := Program.run_bind_eq_ok.mp hrun
    exact .inl ⟨a, vs', ⟨q, hq, ha⟩, hb⟩
  · exact .inr ⟨a, ws', ls₁, ls₂, hp, ⟨r, hk, hrun⟩, rfl⟩

/-- Whatever the queries find, the program may end so. -/
inductive MayEnd : Program σ ε κ ℓ α → List (Update σ ε κ) → α → List (Update σ ε κ) → Prop
  | done (a : α) (ws : List (Update σ ε κ)) : MayEnd (.done a) ws a ws
  | query {label : σ → Option ℓ} {next : σ → Program σ ε κ ℓ α} {ws vs : List (Update σ ε κ)}
      {a : α} (s : σ) (h : MayEnd (next s) ws a vs) : MayEnd (.query label next) ws a vs
  | update {u : Update σ ε κ} {next : Program σ ε κ ℓ α} {violated : ε → Program σ ε κ ℓ α}
      {ws vs : List (Update σ ε κ)} {a : α} (h : MayEnd next (ws ++ [u]) a vs) :
    MayEnd (.update u next violated) ws a vs
  | violated {u : Update σ ε κ} {next : Program σ ε κ ℓ α} {violated : ε → Program σ ε κ ℓ α}
      {ws vs : List (Update σ ε κ)} {a : α} (e : ε) (h : MayEnd (violated e) ws a vs) :
    MayEnd (.update u next violated) ws a vs

theorem MayEnd.of_run (h : p.run db ws = .ok (a, vs)) : MayEnd p ws a vs := by
  induction p generalizing ws with
  | done =>
    cases h
    exact .done _ _
  | fail e => cases h
  | query label next ih => exact .query (view db ws) (ih (view db ws) h)
  | update u next violated ih ihv =>
    simp only [Program.run] at h
    rcases hviolation : u.violation (view db ws) with _ | e
    · rw [hviolation] at h
      exact .update (ih h)
    · rw [hviolation] at h
      exact .violated e (ihv e h)

theorem Move.mayEnd (h : Move db p ws l q vs) (hend : MayEnd q vs a us) : MayEnd p ws a us := by
  cases h with
  | query label next => exact .query _ hend
  | update h => exact .update hend
  | violated h => exact .violated _ hend

theorem Advance.mayEnd (h : Advance db p ws ls q vs) (hend : MayEnd q vs a us) :
    MayEnd p ws a us := by
  induction h with
  | refl => exact hend
  | tail _ hmove ih => exact ih (hmove.mayEnd hend)

theorem SplitRun.mayEnd (h : SplitRun db db' p ws ls us a vs) : MayEnd p ws a vs := by
  obtain ⟨q, hfirst, hrun⟩ := h
  exact hfirst.mayEnd (.of_run hrun)

theorem MayEnd.bind_cases (h : MayEnd (p >>= k) ws b vs) :
    ∃ a us, MayEnd p ws a us ∧ MayEnd (k a) us b vs := by
  induction p generalizing ws with
  | done a => exact ⟨a, ws, .done a ws, h⟩
  | fail e => cases h
  | query label next ih =>
    cases h with
    | query s h =>
      obtain ⟨a, us, hfirst, hsecond⟩ := ih s h
      exact ⟨a, us, .query s hfirst, hsecond⟩
  | update u next violated ih ihv =>
    cases h with
    | update h =>
      obtain ⟨a, us, hfirst, hsecond⟩ := ih h
      exact ⟨a, us, .update hfirst, hsecond⟩
    | violated e h =>
      obtain ⟨a, us, hfirst, hsecond⟩ := ihv e h
      exact ⟨a, us, .violated e hfirst, hsecond⟩

/-- A program whose result is only renamed changes databases as the program does. -/
theorem SplitRun.map_cases {f : α → β}
    (h : SplitRun db db' (p >>= fun a => pure (f a)) ws ls us b vs) :
    ∃ a, b = f a ∧ SplitRun db db' p ws ls us a vs := by
  rcases h.bind_cases with ⟨a, vs', hp, hrun⟩ | ⟨a, ws', ls₁, ls₂, hp, ⟨q, hdone, hrun⟩, rfl⟩
  · cases hrun
    exact ⟨a, rfl, hp⟩
  · rcases hdone.head_cases with ⟨rfl, rfl, rfl⟩ | ⟨_, _, _, _, hmove, _⟩
    · cases hrun
      rw [List.append_nil]
      exact ⟨a, rfl, .done a, hp, rfl⟩
    · cases hmove

/-! ## Finding a row or inserting it -/

/-- A query for a row, and its insert when there is none. -/
def Program.findOrInsert (find : σ → Option α) (u : Update σ ε κ) (made : α) :
    Program σ ε κ ℓ α :=
  .query (fun _ => none) fun s =>
    match find s with
    | some a => .done a
    | none => .update u (.done made) .fail

/-- The constraint that an insert may violate is that the query finds no row. -/
def Guards (u : Update σ ε κ) (find : σ → Option α) : Prop :=
  ∀ s, u.violation s = none ↔ find s = none

variable {find : σ → Option α} {u : Update σ ε κ} {made : α}

theorem Program.findOrInsert_run_eq_ok (hu : Guards u find) :
    (findOrInsert find u made : Program σ ε κ ℓ α).run db ws = .ok (a, vs) ↔
      find (view db ws) = some a ∧ vs = ws ∨
        find (view db ws) = none ∧ a = made ∧ vs = ws ++ [u] := by
  simp only [findOrInsert, run]
  rcases hfind : find (view db ws) with _ | b
  · simp only [run, (hu _).mpr hfind, Except.ok.injEq, Prod.mk.injEq, reduceCtorEq, false_and,
      true_and, false_or]
    constructor
    · exact fun h => ⟨h.1.symm, h.2.symm⟩
    · exact fun h => ⟨h.1.symm, h.2.symm⟩
  · simp only [run, Except.ok.injEq, Prod.mk.injEq, Option.some.injEq, reduceCtorEq, false_and,
      or_false]
    constructor
    · exact fun h => ⟨h.1, h.2.symm⟩
    · exact fun h => ⟨h.1, h.2.symm⟩

theorem MayEnd.findOrInsert_cases
    (h : MayEnd (.findOrInsert find u made : Program σ ε κ ℓ α) ws a vs) :
    vs = ws ∨ vs = ws ++ [u] := by
  cases h with
  | query s h =>
    dsimp only at h
    rcases hfind : find s with _ | b
    · rw [hfind] at h
      cases h with
      | update h =>
        cases h
        exact .inr rfl
      | violated e h => cases h
    · rw [hfind] at h
      cases h
      exact .inl rfl

/-- How far the search for a row has come. -/
theorem Advance.findOrInsert_cases
    (h : Advance db (.findOrInsert find u made) ws ls q us) :
    ls = [] ∧ (q = .findOrInsert find u made ∧ us = ws ∨
      (∃ a, find (view db ws) = some a ∧ q = .done a ∧ us = ws) ∨
      find (view db ws) = none ∧
        (q = .update u (.done made) .fail ∧ us = ws ∨ q = .done made ∧ us = ws ++ [u] ∨
          ∃ e, q = .fail e ∧ us = ws)) := by
  induction h with
  | refl => exact ⟨rfl, .inl ⟨rfl, rfl⟩⟩
  | tail _ hmove ih =>
    obtain ⟨rfl, ⟨rfl, rfl⟩ | ⟨a, -, rfl, -⟩ | ⟨hnone, ⟨rfl, rfl⟩ | ⟨rfl, -⟩ | ⟨e, rfl, -⟩⟩⟩ := ih
    · cases hmove with
      | query =>
        refine ⟨rfl, .inr ?_⟩
        rcases hfind : find (view db _) with _ | a
        · exact .inr ⟨rfl, .inl ⟨by simp only [hfind], rfl⟩⟩
        · exact .inl ⟨a, rfl, by simp only [hfind], rfl⟩
    · cases hmove
    · cases hmove with
      | update => exact ⟨rfl, .inr (.inr ⟨hnone, .inr (.inl ⟨rfl, rfl⟩)⟩)⟩
      | violated => exact ⟨rfl, .inr (.inr ⟨hnone, .inr (.inr ⟨_, rfl, rfl⟩)⟩)⟩
    · cases hmove
    · cases hmove

/-- A search that began on `db` and ended normally on `db'` may as well be made on `db'`, when
a row found on `db` is the one found on `db'` and no row is new that was already inserted. -/
theorem SplitRun.findOrInsert (h : SplitRun db db' (.findOrInsert find u made) ws ls us a vs)
    (hu : Guards u find)
    (hkeep : ∀ a, find (view db ws) = some a → find (view db' ws) = some a)
    (hnew : find (view db ws) = none → u ∈ us → find (view db' ws) = none) :
    (Program.findOrInsert find u made : Program σ ε κ ℓ α).run db' ws = .ok (a, vs) := by
  obtain ⟨q, hadvance, hrun⟩ := h
  obtain ⟨-, ⟨rfl, rfl⟩ | ⟨b, hfind, rfl, rfl⟩ |
      ⟨hnone, ⟨rfl, rfl⟩ | ⟨rfl, rfl⟩ | ⟨e, rfl, rfl⟩⟩⟩ :=
    hadvance.findOrInsert_cases
  · exact hrun
  · cases hrun
    exact (Program.findOrInsert_run_eq_ok hu).mpr (.inl ⟨hkeep a hfind, rfl⟩)
  · simp only [Program.run] at hrun
    rcases hviolation : u.violation (view db' us) with _ | e
    · rw [hviolation] at hrun
      cases hrun
      exact (Program.findOrInsert_run_eq_ok hu).mpr (.inr ⟨(hu _).mp hviolation, rfl, rfl⟩)
    · rw [hviolation] at hrun
      cases hrun
  · cases hrun
    have hfind := hnew hnone (List.mem_append_right ws (List.mem_singleton_self u))
    exact (Program.findOrInsert_run_eq_ok hu).mpr (.inr ⟨hfind, rfl, rfl⟩)
  · cases hrun

/-! ## The updates of a program -/

/-- Every update of the program satisfies `P`, whatever the queries find. -/
inductive Program.Sends (P : Update σ ε κ → Prop) : Program σ ε κ ℓ α → Prop
  | done (a : α) : Sends P (.done a)
  | fail (e : ε) : Sends P (.fail e)
  | query {label : σ → Option ℓ} {next : σ → Program σ ε κ ℓ α} (h : ∀ s, Sends P (next s)) :
    Sends P (.query label next)
  | update {u : Update σ ε κ} {next : Program σ ε κ ℓ α} {violated : ε → Program σ ε κ ℓ α}
      (hu : P u) (h : Sends P next) (hviolated : ∀ e, Sends P (violated e)) :
    Sends P (.update u next violated)

theorem Program.Sends.bind {P : Update σ ε κ → Prop} (h : p.Sends P)
    (hk : ∀ a, (k a).Sends P) : (p >>= k).Sends P := by
  induction h with
  | done a => exact hk a
  | fail e => exact .fail e
  | query _ ih => exact .query ih
  | update hu _ _ ih ihv => exact .update hu ih ihv

/-- A program that runs alone adds updates, all of which satisfy `P`. -/
theorem Program.Sends.run {P : Update σ ε κ → Prop} (h : p.Sends P)
    (hrun : p.run db ws = .ok (a, vs)) : ∃ us, vs = ws ++ us ∧ ∀ u ∈ us, P u := by
  induction h generalizing ws with
  | done b =>
    cases hrun
    exact ⟨[], (List.append_nil _).symm, fun _ hu => absurd hu List.not_mem_nil⟩
  | fail e => cases hrun
  | query _ ih => exact ih _ hrun
  | @update u next violated hu _ _ ih ihv =>
    rw [Program.run] at hrun
    rcases hviolation : u.violation (view db ws) with _ | e
    · rw [hviolation] at hrun
      obtain ⟨us, rfl, hus⟩ := ih hrun
      exact ⟨u :: us, List.append_assoc .., List.forall_mem_cons.mpr ⟨hu, hus⟩⟩
    · rw [hviolation] at hrun
      exact ihv e hrun

/-- A search inserts at most the row that it does not find. -/
theorem Program.Sends.findOrInsert {P : Update σ ε κ → Prop} {find : σ → Option α}
    {u : Update σ ε κ} {made : α} (hu : P u) :
    (Program.findOrInsert find u made : Program σ ε κ ℓ α).Sends P := by
  refine .query fun s => ?_
  rcases find s with _ | a
  · exact .update hu (.done made) .fail
  · exact .done a

/-! ## Reading first and writing at the end -/

/-- The program asks nothing but queries until it comes to one of the points, as long as the
database satisfies `R`. -/
inductive Program.Asks (R : σ → Prop) (Point : Program σ ε κ ℓ α → Prop) :
    Program σ ε κ ℓ α → Prop
  | point {p : Program σ ε κ ℓ α} (h : Point p) : Asks R Point p
  | query {label : σ → Option ℓ} {next : σ → Program σ ε κ ℓ α}
      (h : ∀ s, R s → Asks R Point (next s)) : Asks R Point (.query label next)

/-- The next statement starts from a point, or it is a query and the program asks on. -/
theorem Program.Asks.move {R : σ → Prop} {Point : Program σ ε κ ℓ α → Prop}
    (h : Asks R Point p) (hdb : R db) (hmove : Move db p [] l q vs) :
    Point p ∨ vs = [] ∧ Asks R Point q := by
  cases h with
  | point h => exact .inl h
  | query h =>
    cases hmove with
    | query => exact .inr ⟨rfl, h db hdb⟩

/-- Send the updates one after another; a violation ends the program. -/
def Program.flushAll : List (Update σ ε κ) → α → Program σ ε κ ℓ α
  | [], a => .done a
  | u :: us, a => .update u (flushAll us a) .fail

/-- None of the updates violates a constraint on the rows with those before it. -/
def Unviolated (s : σ) : List (Update σ ε κ) → Prop
  | [] => True
  | u :: us => u.violation s = none ∧ Unviolated (u.apply s) us

/-- Alone, the updates are all sent when none of them violates a constraint. -/
theorem Program.run_flushAll {us : List (Update σ ε κ)} (h : Unviolated (view db ws) us) :
    (flushAll us a : Program σ ε κ ℓ α).run db ws = .ok (a, ws ++ us) := by
  induction us generalizing ws with
  | nil => simp [flushAll, run]
  | cons u us ih =>
    obtain ⟨hfirst, hrest⟩ := h
    rw [← view_snoc] at hrest
    rw [flushAll, run, hfirst]
    dsimp only
    rw [ih hrest, List.append_assoc, List.singleton_append]

/-- Sending the next update, or failing. -/
theorem Move.flushAll_cases {us : List (Update σ ε κ)}
    (h : Move db (.flushAll us a : Program σ ε κ ℓ α) ws l q vs) :
    ∃ u rest, us = u :: rest ∧
      (u.violation (view db ws) = none ∧ q = .flushAll rest a ∧ vs = ws ++ [u] ∨
        ∃ e, u.violation (view db ws) = some e ∧ q = .fail e ∧ vs = ws) := by
  rcases us with _ | ⟨u, rest⟩
  · cases h
  · refine ⟨u, rest, rfl, ?_⟩
    cases h with
    | update h => exact .inl ⟨h, rfl, rfl⟩
    | @violated _ _ _ _ e h => exact .inr ⟨e, h, rfl, rfl⟩

end ReadCommitted
