import Mathlib.Data.List.Basic

/-!
# Runs of a deterministic system

A system is a step function that takes a state and an action to the next state; a run
applies a list of actions in order. The rules here turn what one step does into what
every run does: an invariant of each step, a preorder each step respects, a property
of the steps that pass a guard, the step at which something first appeared, and what the steps
write to a log.
-/

namespace Run

variable {S A : Type} (step : S → A → S)

/-- The state after taking the actions in order. -/
def after (s : S) (acts : List A) : S := acts.foldl step s

@[simp] theorem after_nil (s : S) : after step s [] = s := rfl

@[simp] theorem after_cons (s : S) (a : A) (rest : List A) :
    after step s (a :: rest) = after step (step s a) rest := rfl

theorem after_append (s : S) (acts later : List A) :
    after step s (acts ++ later) = after step (after step s acts) later :=
  List.foldl_append

/-- One more action at the end of a run. -/
theorem after_snoc (s : S) (acts : List A) (a : A) :
    after step s (acts ++ [a]) = step (after step s acts) a := by
  rw [after_append, after_cons, after_nil]

variable {step}

/-- A property that every step keeps holds after every run. -/
theorem invariant {I : S → Prop} (hstep : ∀ s a, I s → I (step s a)) (acts : List A) {s : S}
    (hs : I s) : I (after step s acts) := by
  induction acts generalizing s with
  | nil => exact hs
  | cons a rest ih => exact ih (hstep s a hs)

/-- A preorder that every step respects relates the two ends of every run. -/
theorem preorder {R : S → S → Prop} (hrefl : ∀ s, R s s)
    (htrans : ∀ s t u, R s t → R t u → R s u) (hstep : ∀ s a, R s (step s a)) (s : S)
    (acts : List A) : R s (after step s acts) := by
  induction acts generalizing s with
  | nil => exact hrefl s
  | cons a rest ih => exact htrans _ _ _ (hstep s a) (ih (step s a))

/-- Every step of the run is taken in a state and with an action that pass the guard. -/
def Guarded (step : S → A → S) (guard : S → A → Prop) : S → List A → Prop
  | _, [] => True
  | s, a :: rest => guard s a ∧ Guarded step guard (step s a) rest

/-- A property kept by the steps that pass the guard holds after every guarded run. -/
theorem guarded_invariant {guard : S → A → Prop} {I : S → Prop}
    (hstep : ∀ s a, guard s a → I s → I (step s a)) (acts : List A) {s : S}
    (hg : Guarded step guard s acts) (hs : I s) : I (after step s acts) := by
  induction acts generalizing s with
  | nil => exact hs
  | cons a rest ih => exact ih hg.2 (hstep s a hg.1 hs)

/-- A guarded run is guarded up to each of its steps. -/
theorem guarded_append {guard : S → A → Prop} (acts later : List A) {s : S} :
    Guarded step guard s (acts ++ later) ↔
      Guarded step guard s acts ∧ Guarded step guard (after step s acts) later := by
  induction acts generalizing s with
  | nil => simp [Guarded]
  | cons a rest ih => simp [Guarded, ih, and_assoc]

/-- A run that is not guarded has a step that the guard refuses. -/
theorem exists_unguarded {guard : S → A → Prop} (acts : List A) {s : S}
    (h : ¬Guarded step guard s acts) :
    ∃ before a later, acts = before ++ a :: later ∧ ¬guard (after step s before) a := by
  induction acts generalizing s with
  | nil => exact absurd trivial h
  | cons a rest ih =>
    by_cases ha : guard s a
    · obtain ⟨before, b, later, hrest, hb⟩ := ih fun hguarded => h ⟨ha, hguarded⟩
      exact ⟨a :: before, b, later, by rw [hrest]; rfl, hb⟩
    · exact ⟨[], a, rest, rfl, ha⟩

/-- A weaker guard accepts more runs. -/
theorem Guarded.mono {guard guard' : S → A → Prop} (h : ∀ s a, guard s a → guard' s a)
    (acts : List A) {s : S} (hg : Guarded step guard s acts) : Guarded step guard' s acts := by
  induction acts generalizing s with
  | nil => trivial
  | cons a rest ih => exact ⟨h s a hg.1, ih hg.2⟩

/-- Something absent at the start and present at the end appeared at one step of the run. -/
theorem exists_step {P : S → Prop} (acts : List A) {s : S} (hs : ¬P s)
    (hend : P (after step s acts)) :
    ∃ before a later, acts = before ++ a :: later ∧ ¬P (after step s before) ∧
      P (step (after step s before) a) := by
  induction acts generalizing s with
  | nil => exact absurd hend hs
  | cons a rest ih =>
    by_cases hstep : P (step s a)
    · exact ⟨[], a, rest, rfl, hs, hstep⟩
    · obtain ⟨before, b, later, hacts, hbefore, hb⟩ := ih hstep hend
      exact ⟨a :: before, b, later, by rw [hacts]; rfl, hbefore, hb⟩

/-! ## Runs of a component -/

/-- What an action does to a component. -/
def onComponent {T B : Type} (part : T → B → T) (t : T) : Option B → T
  | none => t
  | some b => part t b

variable {T B : Type} {part : T → B → T} {view : S → T} {project : A → Option B}

/-- A component runs through the actions that concern it. -/
theorem after_filterMap (hstep : ∀ s a, view (step s a) = onComponent part (view s) (project a))
    (acts : List A) (s : S) :
    view (after step s acts) = after part (view s) (acts.filterMap project) := by
  induction acts generalizing s with
  | nil => rfl
  | cons a rest ih =>
    rw [after_cons, ih, hstep, List.filterMap_cons]
    cases project a <;> rfl

/-- A guarded run is a guarded run of its component. -/
theorem Guarded.filterMap {guard : S → A → Prop} {guard' : T → B → Prop}
    (hstep : ∀ s a, view (step s a) = onComponent part (view s) (project a))
    (hguard : ∀ s a b, project a = some b → guard s a → guard' (view s) b) (acts : List A) {s : S}
    (hg : Guarded step guard s acts) : Guarded part guard' (view s) (acts.filterMap project) := by
  induction acts generalizing s with
  | nil => trivial
  | cons a rest ih =>
    have hrest := ih hg.2
    rw [hstep] at hrest
    rw [List.filterMap_cons]
    rcases hproject : project a with _ | b
    · rw [hproject] at hrest
      exact hrest
    · rw [hproject] at hrest
      exact ⟨hguard s a b hproject hg.1, hrest⟩

/-- The actions that a component takes in a run, in order, each for one action of the system. -/
inductive Taken (step : S → A → S) (why : S → A → B → Prop) : S → List A → List B → Prop
  | nil (s : S) : Taken step why s [] []
  | skip {s : S} {a : A} {rest : List A} {taken : List B} (h : Taken step why (step s a) rest taken) :
    Taken step why s (a :: rest) taken
  | take {s : S} {a : A} {b : B} {rest : List A} {taken : List B} (hwhy : why s a b)
      (h : Taken step why (step s a) rest taken) : Taken step why s (a :: rest) (b :: taken)

/-- A run whose steps leave a component alone or take one of its actions is one of its runs. -/
theorem exists_taken {why : S → A → B → Prop}
    (hstep : ∀ s a, view (step s a) = view s ∨
      ∃ b, why s a b ∧ view (step s a) = part (view s) b) (s : S) (acts : List A) :
    ∃ taken, Taken step why s acts taken ∧ view (after step s acts) = after part (view s) taken := by
  induction acts generalizing s with
  | nil => exact ⟨[], .nil s, rfl⟩
  | cons a rest ih =>
    obtain ⟨taken, htaken, hview⟩ := ih (step s a)
    rcases hstep s a with hsame | ⟨b, hwhy, hb⟩
    · exact ⟨taken, .skip htaken, by rw [after_cons, hview, hsame]⟩
    · exact ⟨b :: taken, .take hwhy htaken, by rw [after_cons, hview, hb, after_cons]⟩

/-! ## Logs -/

/-- The entries that the steps of a run append to a log, in order. -/
def log {E : Type} (step : S → A → S) (entries : S → A → List E) : S → List A → List E
  | _, [] => []
  | s, a :: rest => entries s a ++ log step entries (step s a) rest

theorem log_append {E : Type} {entries : S → A → List E} (acts later : List A) (s : S) :
    log step entries s (acts ++ later) =
      log step entries s acts ++ log step entries (after step s acts) later := by
  induction acts generalizing s with
  | nil => rfl
  | cons a rest ih => rw [List.cons_append, log, ih, log, List.append_assoc, after_cons]

/-- The steps that write entries number them from a counter, which such a step advances. -/
structure Numbered {E : Type} (step : S → A → S) (size : S → ℕ)
    (entries : S → A → List (ℕ × E)) : Prop where
  grows : ∀ s a, size s ≤ size (step s a)
  number : ∀ s a, ∀ entry ∈ entries s a, entry.1 = size s ∧ size s < size (step s a)

section Numbered

variable {E : Type} {size : S → ℕ} {entries : S → A → List (ℕ × E)}

theorem Numbered.size_le (h : Numbered step size entries) (acts : List A) (s : S) :
    size s ≤ size (after step s acts) :=
  preorder (R := fun s t => size s ≤ size t) (fun _ => Nat.le_refl _) (fun _ _ _ => Nat.le_trans)
    h.grows s acts

/-- The numbers of a run lie between the counter before and after it. -/
theorem Numbered.mem_log (h : Numbered step size entries) {acts : List A} {s : S} {entry : ℕ × E}
    (hentry : entry ∈ log step entries s acts) :
    size s ≤ entry.1 ∧ entry.1 < size (after step s acts) := by
  induction acts generalizing s with
  | nil => cases hentry
  | cons a rest ih =>
    rcases List.mem_append.mp hentry with hnow | hlater
    · obtain ⟨hnumber, hadvances⟩ := h.number s a entry hnow
      have hrest := h.size_le rest (step s a)
      rw [after_cons]
      omega
    · obtain ⟨hlow, hhigh⟩ := ih hlater
      exact ⟨Nat.le_trans (h.grows s a) hlow, hhigh⟩

/-- The entries with the number of a step that advances the counter are those of this step. -/
theorem Numbered.filter_log (h : Numbered step size entries) (earlier : List A) (a : A)
    (later : List A) (s : S)
    (hadvances : size (after step s earlier) < size (step (after step s earlier) a)) :
    ((log step entries s (earlier ++ a :: later)).filter fun entry =>
        entry.1 == size (after step s earlier)) = entries (after step s earlier) a := by
  have hearlier : ((log step entries s earlier).filter fun entry =>
      entry.1 == size (after step s earlier)) = [] := by
    refine List.filter_eq_nil_iff.mpr fun entry hentry hsame => ?_
    have hbelow := (h.mem_log hentry).2
    rw [beq_iff_eq] at hsame
    omega
  have hlater : ((log step entries (step (after step s earlier) a) later).filter fun entry =>
      entry.1 == size (after step s earlier)) = [] := by
    refine List.filter_eq_nil_iff.mpr fun entry hentry hsame => ?_
    have habove := (h.mem_log hentry).1
    rw [beq_iff_eq] at hsame
    omega
  have hnow : ((entries (after step s earlier) a).filter fun entry =>
      entry.1 == size (after step s earlier)) = entries (after step s earlier) a :=
    List.filter_eq_self.mpr fun entry hentry => beq_iff_eq.mpr (h.number _ a entry hentry).1
  rw [log_append, log, List.filter_append, List.filter_append, hearlier, hlater, hnow,
    List.nil_append, List.append_nil]

end Numbered

end Run
