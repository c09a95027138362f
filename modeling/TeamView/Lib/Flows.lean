import Mathlib.Tactic

set_option autoImplicit false

/-! # Computations that can fail

A flow reads and writes a state and ends with a value or with an error; an error keeps the state
that was reached. What a flow does in one state is `exec`, with one equation for each way to build
a flow. A triple says what holds after a flow, with one condition for its values and one for its
errors, and follows from the triples of the parts; a flow keeps a property when the property holds
after it either way.
-/

namespace Flows

/-- A computation over a state `σ` that ends with an `α` or with an error. -/
abbrev Flow (σ ε α : Type) : Type := ExceptT ε (StateM σ) α

variable {σ τ ε α β : Type}

/-- The outcome of a flow and the state that it leaves. -/
def exec (x : Flow σ ε α) (s : σ) : Except ε α × σ := x.run.run s

/-- Run a flow and go on with its outcome, whatever it is. -/
def attempt (x : Flow σ ε α) : Flow σ ε (Except ε α) := ExceptT.lift x.run

/-- Run a flow over a part of the state. -/
def within (part : σ → τ) (update : σ → τ → σ) (x : Flow τ ε α) : Flow σ ε α := do
  let s ← get
  let (outcome, t) := exec x (part s)
  set (update s t)
  liftExcept outcome

/-! ## Execution -/

@[simp] theorem exec_pure (a : α) (s : σ) : exec (pure a : Flow σ ε α) s = (.ok a, s) := rfl

@[simp] theorem exec_throw (e : ε) (s : σ) :
    exec (throw e : Flow σ ε α) s = (.error e, s) := rfl

@[simp] theorem exec_get (s : σ) : exec (get : Flow σ ε σ) s = (.ok s, s) := rfl

@[simp] theorem exec_set (s' s : σ) :
    exec (set s' : Flow σ ε PUnit) s = (.ok ⟨⟩, s') := rfl

@[simp] theorem exec_modify (f : σ → σ) (s : σ) :
    exec (modify f : Flow σ ε PUnit) s = (.ok ⟨⟩, f s) := rfl

@[simp] theorem exec_liftExcept (x : Except ε α) (s : σ) :
    exec (liftExcept x : Flow σ ε α) s = (x, s) := by
  cases x <;> rfl

@[simp] theorem exec_map_liftExcept (f : α → β) (x : Except ε α) (s : σ) :
    exec (f <$> (liftExcept x : Flow σ ε α)) s = (x.map f, s) := by
  cases x <;> rfl

@[simp] theorem exec_attempt (x : Flow σ ε α) (s : σ) :
    exec (attempt x) s = (.ok (exec x s).1, (exec x s).2) := rfl

theorem exec_bind (x : Flow σ ε α) (f : α → Flow σ ε β) (s : σ) :
    exec (x >>= f) s =
      match exec x s with
      | (.ok a, s') => exec (f a) s'
      | (.error e, s') => (.error e, s') := by
  show (ExceptT.bindCont f (exec x s).1).run (exec x s).2 = _
  rcases exec x s with ⟨outcome, s'⟩
  cases outcome <;> rfl

theorem exec_bind_ok {x : Flow σ ε α} {s s' : σ} {a : α} (h : exec x s = (.ok a, s'))
    (f : α → Flow σ ε β) : exec (x >>= f) s = exec (f a) s' := by
  rw [exec_bind, h]

theorem exec_bind_error {x : Flow σ ε α} {s s' : σ} {e : ε} (h : exec x s = (.error e, s'))
    (f : α → Flow σ ε β) : exec (x >>= f) s = (.error e, s') := by
  rw [exec_bind, h]

@[simp] theorem exec_within (part : σ → τ) (update : σ → τ → σ) (x : Flow τ ε α) (s : σ) :
    exec (within part update x) s = ((exec x (part s)).1, update s (exec x (part s)).2) := by
  unfold within
  rw [exec_bind_ok (exec_get s), exec_bind_ok (exec_set _ _), exec_liftExcept]

/-- A sequence succeeds when both parts do. -/
theorem exec_bind_eq_ok_iff {x : Flow σ ε α} {f : α → Flow σ ε β} {s s' : σ} {b : β} :
    exec (x >>= f) s = (.ok b, s') ↔
      ∃ a s₁, exec x s = (.ok a, s₁) ∧ exec (f a) s₁ = (.ok b, s') := by
  rw [exec_bind]
  rcases exec x s with ⟨outcome, s₁⟩
  cases outcome with
  | ok a =>
      refine ⟨fun h => ⟨a, s₁, rfl, h⟩, ?_⟩
      rintro ⟨a', s₁', hx, h⟩
      cases hx
      exact h
  | error e => exact iff_of_false nofun nofun

/-- A second flow that only looks leaves the state of the first one. -/
theorem exec_bind_state {x : Flow σ ε α} {f : α → Flow σ ε β}
    (hf : ∀ a s, (exec (f a) s).2 = s) (s : σ) : (exec (x >>= f) s).2 = (exec x s).2 := by
  rw [exec_bind]
  rcases exec x s with ⟨outcome, s₁⟩
  cases outcome with
  | ok a => exact hf a s₁
  | error e => rfl

/-! ## Triples -/

/-- From a state with `pre` the flow ends with a value and `post`, or with an error and `fault`. -/
def Triple (pre : σ → Prop) (x : Flow σ ε α) (post : α → σ → Prop) (fault : ε → σ → Prop) :
    Prop :=
  ∀ s, pre s → match exec x s with
    | (.ok a, s') => post a s'
    | (.error e, s') => fault e s'

/-- The flow leads from states with the property to states with the property. -/
def Keeps (P : σ → Prop) (x : Flow σ ε α) : Prop := ∀ s, P s → P (exec x s).2

variable {P pre : σ → Prop} {fault : ε → σ → Prop}

theorem Triple.consequence {x : Flow σ ε α} {post post' : α → σ → Prop} {pre' : σ → Prop}
    {fault' : ε → σ → Prop} (h : Triple pre x post fault) (hpre : ∀ s, pre' s → pre s)
    (hpost : ∀ a s, post a s → post' a s) (hfault : ∀ e s, fault e s → fault' e s) :
    Triple pre' x post' fault' := by
  intro s hs
  have hx := h s (hpre s hs)
  rcases hexec : exec x s with ⟨outcome, s'⟩
  rw [hexec] at hx
  cases outcome with
  | ok a => exact hpost a s' hx
  | error e => exact hfault e s' hx

theorem Triple.pure (a : α) :
    Triple pre (Pure.pure a : Flow σ ε α) (fun b s => b = a ∧ pre s) fault :=
  fun _ hs => ⟨rfl, hs⟩

/-- The second flow starts where the first one has ended. -/
theorem Triple.bind {x : Flow σ ε α} {f : α → Flow σ ε β} {mid : α → σ → Prop}
    {post : β → σ → Prop} (hx : Triple pre x mid fault)
    (hf : ∀ a, Triple (mid a) (f a) post fault) : Triple pre (x >>= f) post fault := by
  intro s hs
  have hfirst := hx s hs
  rw [exec_bind]
  rcases hexec : exec x s with ⟨outcome, s'⟩
  rw [hexec] at hfirst
  cases outcome with
  | ok a => exact hf a s' hfirst
  | error e => exact hfirst

/-- What holds after a flow that has ended with a value. -/
theorem Triple.of_exec {x : Flow σ ε α} {post : α → σ → Prop} (h : Triple pre x post fault)
    {s s' : σ} {a : α} (hs : pre s) (hrun : exec x s = (.ok a, s')) : post a s' := by
  have hend := h s hs
  rw [hrun] at hend
  exact hend

theorem Triple.from_each {x : Flow σ ε α} {post : α → σ → Prop}
    (hx : ∀ s, pre s → Triple (fun s' => s = s') x post fault) : Triple pre x post fault :=
  fun s hs => hx s hs s rfl

/-- Reading the state and going on with it. -/
theorem Triple.get_bind {f : σ → Flow σ ε β} {post : β → σ → Prop}
    (hf : ∀ s, pre s → Triple (fun s' => s = s') (f s) post fault) :
    Triple pre (MonadState.get >>= f) post fault := fun s hs => by
  rw [exec_bind_ok (exec_get s)]
  exact hf s hs s rfl

theorem Triple.set (s' : σ) {post : PUnit → σ → Prop} (h : post ⟨⟩ s') :
    Triple pre (MonadStateOf.set s' : Flow σ ε PUnit) post fault := fun _ _ => h

theorem Triple.modify {f : σ → σ} {post : PUnit → σ → Prop} (hf : ∀ s, pre s → post ⟨⟩ (f s)) :
    Triple pre (modify f : Flow σ ε PUnit) post fault := fun s hs => hf s hs

/-- What a flow over a part of the state does, with the rest of the state around it. -/
theorem Triple.within {part : σ → τ} {update : σ → τ → σ} {x : Flow τ ε α}
    {post : α → σ → Prop}
    (hx : ∀ s, pre s → Triple (fun t => part s = t) x (fun a t => post a (update s t))
      (fun e t => fault e (update s t))) : Triple pre (within part update x) post fault := by
  intro s hs
  have hpart := hx s hs (part s) rfl
  rw [exec_within]
  generalize exec x (part s) = ended at hpart ⊢
  rcases ended with ⟨error | a, t⟩ <;> exact hpart

/-- A lifted error must be one that the flow may end with. -/
theorem Triple.liftExcept (x : Except ε α) (herror : ∀ e s, pre s → fault e s) :
    Triple pre (liftExcept x : Flow σ ε α) (fun a s => pre s ∧ x = .ok a) fault := by
  intro s hs
  rw [exec_liftExcept]
  cases x with
  | ok a => exact ⟨hs, rfl⟩
  | error e => exact herror e s hs

/-- A lifted value is the one that was computed. -/
theorem triple_liftExcept (x : Except ε α) :
    Triple P (liftExcept x : Flow σ ε α) (fun a s => P s ∧ x = .ok a) (fun _ => P) :=
  Triple.liftExcept x fun _ _ hs => hs

theorem keeps_iff {x : Flow σ ε α} :
    Keeps P x ↔ Triple P x (fun _ => P) (fun _ => P) := by
  refine forall_congr' fun s => imp_congr_right fun _ => ?_
  rcases exec x s with ⟨outcome, s'⟩
  cases outcome <;> rfl

/-! ## Flows over a part of the state -/

/-- From this state the flow `y` does to a part of the state what `x` does. -/
def Mirrors (part : σ → τ) (x : Flow τ ε α) (y : Flow σ ε α) (s : σ) : Prop :=
  exec x (part s) = ((exec y s).1, part (exec y s).2)

variable {part : σ → τ}

theorem Mirrors.pure (a : α) (s : σ) :
    Mirrors part (Pure.pure a : Flow τ ε α) (Pure.pure a : Flow σ ε α) s := rfl

theorem Mirrors.within {update : σ → τ → σ} (hupdate : ∀ s t, part (update s t) = t)
    (x : Flow τ ε α) (s : σ) : Mirrors part x (within part update x) s := by
  unfold Mirrors
  rw [exec_within, hupdate]

theorem Mirrors.bind {x : Flow τ ε α} {y : Flow σ ε α} {f : α → Flow τ ε β} {g : α → Flow σ ε β}
    {s : σ} (hfirst : Mirrors part x y s)
    (hsecond : ∀ a s', exec y s = (.ok a, s') → Mirrors part (f a) (g a) s') :
    Mirrors part (x >>= f) (y >>= g) s := by
  unfold Mirrors at hfirst ⊢
  rw [exec_bind, exec_bind, hfirst]
  rcases hy : exec y s with ⟨outcome, s'⟩
  cases outcome with
  | ok a => exact hsecond a s' hy
  | error e => rfl

/-! ## Flows that keep a property -/

theorem Keeps.pure (a : α) : Keeps P (Pure.pure a : Flow σ ε α) := fun _ hs => hs

theorem Keeps.throw (e : ε) : Keeps P (MonadExcept.throw e : Flow σ ε α) := fun _ hs => hs

/-- Nothing after an error is done. -/
theorem Keeps.throw_bind (e : ε) (f : α → Flow σ ε β) :
    Keeps P ((MonadExcept.throw e : Flow σ ε α) >>= f) := fun _ hs => hs

theorem Keeps.get : Keeps P (MonadState.get : Flow σ ε σ) := fun _ hs => hs

theorem keeps_liftExcept (x : Except ε α) : Keeps P (liftExcept x : Flow σ ε α) := by
  intro s hs
  rw [exec_liftExcept]
  exact hs

theorem Keeps.attempt {x : Flow σ ε α} (h : Keeps P x) : Keeps P (attempt x) := fun s hs => h s hs

theorem Keeps.bind {x : Flow σ ε α} {f : α → Flow σ ε β} (hx : Keeps P x)
    (hf : ∀ a, Keeps P (f a)) : Keeps P (x >>= f) := by
  rw [keeps_iff] at hx ⊢
  exact hx.bind fun a => keeps_iff.mp (hf a)

theorem Keeps.modify {f : σ → σ} (hf : ∀ s, P s → P (f s)) :
    Keeps P (modify f : Flow σ ε PUnit) :=
  fun s hs => hf s hs

/-- The second flow keeps the property after every value of the first one. -/
theorem Triple.keeps_bind {x : Flow σ ε α} {f : α → Flow σ ε β} {mid : α → σ → Prop}
    (hx : Triple P x mid fun _ => P) (hf : ∀ a s, mid a s → P (exec (f a) s).2) :
    Keeps P (x >>= f) := by
  rw [keeps_iff]
  refine hx.bind fun a s hs => ?_
  have hsecond := hf a s hs
  rcases hexec : exec (f a) s with ⟨outcome, s'⟩
  rw [hexec] at hsecond
  cases outcome <;> exact hsecond

/-- Reading the state and going on. -/
theorem Keeps.get_bind {f : σ → Flow σ ε β} (hf : ∀ s, P s → P (exec (f s) s).2) :
    Keeps P (MonadState.get >>= f) := fun s hs => by
  rw [exec_bind_ok (exec_get s)]
  exact hf s hs

theorem Keeps.discard {x : Flow σ ε α} (h : Keeps P x) : Keeps P (Functor.discard x) := by
  rw [show Functor.discard x = x >>= fun _ => Pure.pure PUnit.unit from rfl]
  exact h.bind fun _ => Keeps.pure _

theorem Keeps.mapM {f : α → Flow σ ε β} (hf : ∀ a, Keeps P (f a)) (as : List α) :
    Keeps P (as.mapM f) := by
  induction as with
  | nil =>
      rw [List.mapM_nil]
      exact Keeps.pure []
  | cons a as ih =>
      rw [List.mapM_cons]
      exact (hf a).bind fun b => ih.bind fun bs => Keeps.pure (b :: bs)

end Flows
