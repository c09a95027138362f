import Mathlib.Tactic

set_option autoImplicit false

/-! # Runs of a state machine

A state machine is a total step function over events; a run folds it over a list of events.
What holds at the start and is preserved by every step holds after every run (`run_induction`).
Two refinements of that rule carry most arguments about concrete machines: a property that is
preserved only by the steps that meet a side condition (`Meets.induction`), and the states that
some run reaches from an initial one (`Reachable`). A step that can fail has the same rule for the
runs that do not (`tryRun_induction`).
-/

namespace Runs

variable {σ ι : Type} (step : σ → ι → σ)

/-- The state after the events of a list, in order. -/
def run (s : σ) (es : List ι) : σ := es.foldl step s

@[simp] theorem run_nil (s : σ) : run step s [] = s := rfl

@[simp] theorem run_cons (s : σ) (e : ι) (es : List ι) :
    run step s (e :: es) = run step (step s e) es := rfl

theorem run_append (s : σ) (es es' : List ι) :
    run step s (es ++ es') = run step (run step s es) es' :=
  List.foldl_append

theorem run_snoc (s : σ) (es : List ι) (e : ι) :
    run step s (es ++ [e]) = step (run step s es) e := by
  rw [run_append]
  rfl

/-- The rule for invariants. -/
theorem run_induction {P : σ → Prop} (hstep : ∀ s e, P s → P (step s e)) {s : σ} (hs : P s)
    (es : List ι) : P (run step s es) := by
  induction es generalizing s with
  | nil => exact hs
  | cons e es ih => exact ih (hstep s e hs)

/-- What no step changes is unchanged by a run. -/
theorem run_fixed {α : Type} (f : σ → α) (hstep : ∀ s e, f (step s e) = f s) (s : σ)
    (es : List ι) : f (run step s es) = f s :=
  run_induction (P := fun s' => f s' = f s) step (fun s' e h => (hstep s' e).trans h) rfl es

/-- A part of the state that evolves on its own follows its own run. -/
theorem run_map {τ : Type} (f : σ → τ) (stepF : τ → ι → τ)
    (hstep : ∀ s e, f (step s e) = stepF (f s) e) (s : σ) (es : List ι) :
    f (run step s es) = run stepF (f s) es :=
  (List.foldl_hom f (fun s e => (hstep s e).symm)).symm

/-! ## Runs whose steps meet a condition -/

/-- Every step of the run is taken in a state that meets `ok` for its event. -/
def Meets (ok : σ → ι → Prop) : σ → List ι → Prop
  | _, [] => True
  | s, e :: es => ok s e ∧ Meets ok (step s e) es

variable {step} {ok : σ → ι → Prop}

theorem Meets.append_iff {s : σ} {es es' : List ι} :
    Meets step ok s (es ++ es') ↔ Meets step ok s es ∧ Meets step ok (run step s es) es' := by
  induction es generalizing s with
  | nil => simp [Meets]
  | cons e es ih => simp [Meets, ih, and_assoc]

/-- A condition on the events alone is met in every state. -/
theorem Meets.of_forall {E : ι → Prop} {s : σ} {es : List ι} (hes : ∀ e ∈ es, E e) :
    Meets step (fun _ e => E e) s es := by
  induction es generalizing s with
  | nil => exact True.intro
  | cons e es ih =>
      refine ⟨hes e List.mem_cons_self, ih ?_⟩
      intro e' he'
      exact hes e' (List.mem_cons_of_mem e he')

theorem Meets.and {ok' : σ → ι → Prop} {s : σ} {es : List ι} (hes : Meets step ok s es)
    (hes' : Meets step ok' s es) : Meets step (fun s e => ok s e ∧ ok' s e) s es := by
  induction es generalizing s with
  | nil => exact True.intro
  | cons e es ih => exact ⟨⟨hes.1, hes'.1⟩, ih hes.2 hes'.2⟩

/-- The rule for properties that only the steps meeting the condition preserve. -/
theorem Meets.induction {P : σ → Prop} (hstep : ∀ s e, ok s e → P s → P (step s e))
    {s : σ} (hs : P s) {es : List ι} (hes : Meets step ok s es) : P (run step s es) := by
  induction es generalizing s with
  | nil => exact hs
  | cons e es ih => exact ih (hstep s e hes.1 hs) hes.2

/-- Whether a run meets a condition can be computed when the condition can. -/
instance Meets.decidable [∀ s e, Decidable (ok s e)] :
    ∀ (s : σ) (es : List ι), Decidable (Meets step ok s es)
  | _, [] => inferInstanceAs (Decidable True)
  | s, e :: es =>
      have := Meets.decidable (step s e) es
      inferInstanceAs (Decidable (ok s e ∧ Meets step ok (step s e) es))

theorem Meets.mono {ok' : σ → ι → Prop} (himp : ∀ s e, ok s e → ok' s e) {s : σ}
    {es : List ι} (hes : Meets step ok s es) : Meets step ok' s es := by
  induction es generalizing s with
  | nil => exact True.intro
  | cons e es ih => exact ⟨himp s e hes.1, ih hes.2⟩

/-- Two conditions that agree as long as an invariant holds are met by the same runs. -/
theorem Meets.congr_of_inv {ok' : σ → ι → Prop} {inv : σ → Prop}
    (hinv : ∀ s e, inv s → inv (step s e)) (hsame : ∀ s e, inv s → (ok s e ↔ ok' s e)) {s : σ}
    (hs : inv s) (es : List ι) : Meets step ok s es ↔ Meets step ok' s es := by
  induction es generalizing s with
  | nil => exact Iff.rfl
  | cons e es ih => exact and_congr (hsame s e hs) (ih (hinv s e hs))

/-! ## Progress -/

variable (step) in
/-- How many steps of the run are counted by `p`, each in the state in which it is taken. -/
def countSteps (p : σ → ι → Bool) : σ → List ι → Nat
  | _, [] => 0
  | s, e :: es => (p s e).toNat + countSteps p (step s e) es

/-- The rule for progress: a counted step lowers a measure until the goal is reached, and no
other step raises it. So a run with more counted steps than the measure it starts from reaches
the goal, and stays there. -/
theorem Meets.reaches {inv goal : σ → Prop} {measure : σ → Nat} {p : σ → ι → Bool}
    (hinv : ∀ s e, ok s e → inv s → inv (step s e))
    (hgoal : ∀ s e, ok s e → inv s → goal s → goal (step s e))
    (hdown : ∀ s e, ok s e → inv s → p s e → ¬ goal s → measure (step s e) < measure s)
    (hkeep : ∀ s e, ok s e → inv s → p s e = false → measure (step s e) ≤ measure s)
    {s : σ} {es : List ι} (hs : inv s) (hes : Meets step ok s es)
    (hcount : goal s ∨ measure s < countSteps step p s es) : goal (run step s es) := by
  induction es generalizing s with
  | nil =>
      rcases hcount with h | h
      · exact h
      · exact absurd h (Nat.not_lt_zero _)
  | cons e es ih =>
      obtain ⟨hok, hrest⟩ := hes
      refine ih (hinv s e hok hs) hrest ?_
      by_cases hreached : goal s
      · exact .inl (hgoal s e hok hs hreached)
      · have hmore : measure s < (p s e).toNat + countSteps step p (step s e) es :=
          hcount.resolve_left hreached
        right
        cases hp : p s e with
        | true =>
            have hlt := hdown s e hok hs hp hreached
            rw [hp, Bool.toNat_true] at hmore
            omega
        | false =>
            have hle := hkeep s e hok hs hp
            rw [hp, Bool.toNat_false] at hmore
            omega

/-! ## Totals -/

variable (step) in
/-- The total of a weight over the steps of a run, each in the state in which it is taken. -/
def sumSteps (weight : σ → ι → Nat) : σ → List ι → Nat
  | _, [] => 0
  | s, e :: es => weight s e + sumSteps weight (step s e) es

/-- Nothing is counted exactly when no step counts. -/
theorem sumSteps_eq_zero_iff (weight : σ → ι → Nat) (s : σ) (es : List ι) :
    sumSteps step weight s es = 0 ↔ Meets step (fun s e => weight s e = 0) s es := by
  induction es generalizing s with
  | nil => exact iff_of_true rfl True.intro
  | cons e es ih =>
      rw [sumSteps, Nat.add_eq_zero_iff, ih]
      rfl

/-- Weights that agree on the steps taken have the same total. -/
theorem Meets.sumSteps_congr {weight weight' : σ → ι → Nat}
    (hsame : ∀ s e, ok s e → weight s e = weight' s e) {s : σ} {es : List ι}
    (hes : Meets step ok s es) : sumSteps step weight s es = sumSteps step weight' s es := by
  induction es generalizing s with
  | nil => rfl
  | cons e es ih =>
      show weight s e + sumSteps step weight (step s e) es
        = weight' s e + sumSteps step weight' (step s e) es
      rw [hsame s e hes.1, ih hes.2]

/-- A counter that adds a weight in each step and stops at `top` shows the total, up to `top`. -/
theorem Meets.saturating {inv : σ → Prop} {counter : σ → Nat} {weight : σ → ι → Nat} {top : Nat}
    (hinv : ∀ s e, ok s e → inv s → inv (step s e))
    (hstep : ∀ s e, ok s e → inv s → counter (step s e) = min (counter s + weight s e) top)
    {s : σ} (hs : inv s) (hle : counter s ≤ top) {es : List ι} (hes : Meets step ok s es) :
    counter (run step s es) = min (counter s + sumSteps step weight s es) top := by
  induction es generalizing s with
  | nil => exact (min_eq_left hle).symm
  | cons e es ih =>
      have hnext := hstep s e hes.1 hs
      have hrest := ih (hinv s e hes.1 hs) (by omega) hes.2
      have htotal : sumSteps step weight s (e :: es)
          = weight s e + sumSteps step weight (step s e) es := rfl
      rw [run_cons, hrest, htotal]
      omega

/-! ## Reachable states -/

variable (step)

/-- Some run from an initial state ends in `s`. -/
def Reachable (init : σ → Prop) (s : σ) : Prop :=
  ∃ s₀ es, init s₀ ∧ s = run step s₀ es

variable {step} {init : σ → Prop}

theorem Reachable.start {s : σ} (hs : init s) : Reachable step init s := ⟨s, [], hs, rfl⟩

theorem Reachable.after {s : σ} (hs : Reachable step init s) (e : ι) :
    Reachable step init (step s e) := by
  obtain ⟨s₀, es, h₀, rfl⟩ := hs
  exact ⟨s₀, es ++ [e], h₀, (run_snoc step s₀ es e).symm⟩

/-- What holds initially and is preserved by every step holds of every reachable state. -/
theorem Reachable.induction {P : σ → Prop} (hinit : ∀ s, init s → P s)
    (hstep : ∀ s e, P s → P (step s e)) {s : σ} (hs : Reachable step init s) : P s := by
  obtain ⟨s₀, es, h₀, rfl⟩ := hs
  exact run_induction step hstep (hinit s₀ h₀) es

/-! ## Runs that can fail -/

variable {ε : Type}

/-- A computation succeeds when its parts do. -/
theorem bind_eq_ok {α β : Type} {x : Except ε α} {f : α → Except ε β} {b : β} :
    x >>= f = .ok b ↔ ∃ a, x = .ok a ∧ f a = .ok b := by
  cases x with
  | error failure => simp [bind, Except.bind]
  | ok a => simp [bind, Except.bind]

/-- A computation fails where one of its parts does. -/
theorem bind_eq_error {α β : Type} {x : Except ε α} {f : α → Except ε β} {failure : ε} :
    x >>= f = .error failure ↔ x = .error failure ∨ ∃ a, x = .ok a ∧ f a = .error failure := by
  cases x with
  | error failure' => simp [bind, Except.bind]
  | ok a => simp [bind, Except.bind]

@[simp] theorem mapError_eq_ok {ε' α : Type} {x : Except ε α} {f : ε → ε'} {a : α} :
    x.mapError f = .ok a ↔ x = .ok a := by
  cases x <;> simp [Except.mapError]

@[simp] theorem mapError_eq_error {ε' α : Type} {x : Except ε α} {f : ε → ε'} {failure : ε'} :
    x.mapError f = .error failure ↔ ∃ error, x = .error error ∧ f error = failure := by
  cases x <;> simp [Except.mapError]

/-- The run of a step that can fail. The first failure ends it. -/
def tryRun (tryStep : σ → ι → Except ε σ) (s : σ) (es : List ι) : Except ε σ :=
  es.foldlM tryStep s

variable {tryStep : σ → ι → Except ε σ}

@[simp] theorem tryRun_nil (s : σ) : tryRun tryStep s [] = .ok s := rfl

theorem tryRun_cons_eq_ok {s s' : σ} {e : ι} {es : List ι} :
    tryRun tryStep s (e :: es) = .ok s' ↔
      ∃ t, tryStep s e = .ok t ∧ tryRun tryStep t es = .ok s' := by
  unfold tryRun
  rw [List.foldlM_cons]
  exact bind_eq_ok

theorem tryRun_cons_eq_error {s : σ} {e : ι} {es : List ι} {failure : ε} :
    tryRun tryStep s (e :: es) = .error failure ↔
      tryStep s e = .error failure ∨
        ∃ t, tryStep s e = .ok t ∧ tryRun tryStep t es = .error failure := by
  unfold tryRun
  rw [List.foldlM_cons]
  exact bind_eq_error

/-- The rule for invariants: a failed step has no state after it. -/
theorem tryRun_induction {P : σ → Prop}
    (hstep : ∀ s e s', tryStep s e = .ok s' → P s → P s') {s s' : σ} {es : List ι}
    (hrun : tryRun tryStep s es = .ok s') (hs : P s) : P s' := by
  induction es generalizing s with
  | nil =>
      rw [tryRun_nil] at hrun
      exact Except.ok.inj hrun ▸ hs
  | cons e es ih =>
      obtain ⟨t, hfirst, hrest⟩ := tryRun_cons_eq_ok.mp hrun
      exact ih hrest (hstep s e t hfirst hs)

/-! ## Parts of a state that steps apart from the rest -/

variable {τ : Type} {part : σ → τ} {partStep : τ → ι → Except ε τ} {mine : ι → Bool}

variable (part mine) in
/-- A part that takes the steps of its own events, and that no other event touches, runs by itself
on its own events. -/
theorem tryRun_part
    (hmine : ∀ s e s', tryStep s e = .ok s' → mine e = true → partStep (part s) e = .ok (part s'))
    (hother : ∀ s e s', tryStep s e = .ok s' → mine e = false → part s' = part s)
    {s s' : σ} {es : List ι} (hrun : tryRun tryStep s es = .ok s') :
    tryRun partStep (part s) (es.filter mine) = .ok (part s') := by
  induction es generalizing s with
  | nil =>
      rw [tryRun_nil] at hrun
      rw [List.filter_nil, tryRun_nil, Except.ok.inj hrun]
  | cons e es ih =>
      obtain ⟨t, hfirst, hrest⟩ := tryRun_cons_eq_ok.mp hrun
      cases hown : mine e with
      | true =>
          rw [List.filter_cons_of_pos hown]
          exact tryRun_cons_eq_ok.mpr ⟨part t, hmine s e t hfirst hown, ih hrest⟩
      | false =>
          rw [List.filter_cons_of_neg (by simp [hown]), ← hother s e t hfirst hown]
          exact ih hrest

theorem tryRun_part_head {s : σ} {e : ι} {es : List ι} {t : τ}
    (hrun : tryRun partStep (part s) ((e :: es).filter mine) = .ok t) (hown : mine e = true) :
    ∃ u, partStep (part s) e = .ok u := by
  rw [List.filter_cons_of_pos hown] at hrun
  obtain ⟨u, hfirst, -⟩ := tryRun_cons_eq_ok.mp hrun
  exact ⟨u, hfirst⟩

theorem tryRun_part_tail
    (hmine : ∀ s e s', tryStep s e = .ok s' → mine e = true → partStep (part s) e = .ok (part s'))
    (hother : ∀ s e s', tryStep s e = .ok s' → mine e = false → part s' = part s)
    {s s' : σ} {e : ι} {es : List ι} {t : τ} (hstep : tryStep s e = .ok s')
    (hrun : tryRun partStep (part s) ((e :: es).filter mine) = .ok t) :
    tryRun partStep (part s') (es.filter mine) = .ok t := by
  cases hown : mine e with
  | true =>
      rw [List.filter_cons_of_pos hown] at hrun
      obtain ⟨u, hfirst, hrest⟩ := tryRun_cons_eq_ok.mp hrun
      rw [hmine s e s' hstep hown] at hfirst
      exact Except.ok.inj hfirst ▸ hrest
  | false =>
      rw [List.filter_cons_of_neg (by simp [hown])] at hrun
      rw [hother s e s' hstep hown]
      exact hrun

variable (part mine) in
/-- Two such parts make the whole run where nothing else can fail. -/
theorem tryRun_of_parts {τ' : Type} (part' : σ → τ') (mine' : ι → Bool)
    {partStep' : τ' → ι → Except ε τ'} {good : ι → Prop}
    (hmine : ∀ s e s', tryStep s e = .ok s' → mine e = true → partStep (part s) e = .ok (part s'))
    (hother : ∀ s e s', tryStep s e = .ok s' → mine e = false → part s' = part s)
    (hmine' : ∀ s e s', tryStep s e = .ok s' → mine' e = true →
      partStep' (part' s) e = .ok (part' s'))
    (hother' : ∀ s e s', tryStep s e = .ok s' → mine' e = false → part' s' = part' s)
    (hok : ∀ s e, good e → (mine e = true → ∃ t, partStep (part s) e = .ok t) →
      (mine' e = true → ∃ t, partStep' (part' s) e = .ok t) → ∃ s', tryStep s e = .ok s')
    {s : σ} {es : List ι} (hgood : ∀ e ∈ es, good e) {t : τ} {t' : τ'}
    (hpart : tryRun partStep (part s) (es.filter mine) = .ok t)
    (hpart' : tryRun partStep' (part' s) (es.filter mine') = .ok t') :
    ∃ s', tryRun tryStep s es = .ok s' ∧ part s' = t ∧ part' s' = t' := by
  have hrun : ∃ s', tryRun tryStep s es = .ok s' := by
    induction es generalizing s with
    | nil => exact ⟨s, tryRun_nil s⟩
    | cons e es ih =>
        obtain ⟨next, hnext⟩ :=
          hok s e (hgood e List.mem_cons_self) (tryRun_part_head hpart) (tryRun_part_head hpart')
        obtain ⟨last, hlast⟩ := ih (fun e he => hgood e (List.mem_cons_of_mem _ he))
          (tryRun_part_tail hmine hother hnext hpart)
          (tryRun_part_tail hmine' hother' hnext hpart')
        exact ⟨last, tryRun_cons_eq_ok.mpr ⟨next, hnext, hlast⟩⟩
  obtain ⟨last, hlast⟩ := hrun
  refine ⟨last, hlast, ?_, ?_⟩
  · exact Except.ok.inj ((tryRun_part part mine hmine hother hlast).symm.trans hpart)
  · exact Except.ok.inj ((tryRun_part part' mine' hmine' hother' hlast).symm.trans hpart')

end Runs
