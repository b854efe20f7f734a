import Plugboard.Env
/-!
# Running actions

What one run of each building block of `Act` gives: the answer, the component's state and the
environment after it. A run of a sequence is the run of its first action followed, when that
answered, by the run of the rest from where it left off; a failure stops the sequence with the
state and environment it reached.

These lemmas are what every proof about an operation unfolds to, so that no proof opens the
monad itself. `FailsClean`, `NeverFails` and `Keeps` say what an action does from every state,
with rules that follow how actions are put together.
-/

namespace Plugboard

/-- Two answers agree: the same value, or failures of the same kind. -/
def Outcome.Same {α : Type} : Outcome α → Outcome α → Prop
  | .ok a, .ok b => a = b
  | .error e, .error e' => e.kind = e'.kind
  | _, _ => False

@[simp] theorem Outcome.same_ok {α : Type} (a b : α) :
    Outcome.Same (.ok a : Outcome α) (.ok b) ↔ a = b := Iff.rfl

@[simp] theorem Outcome.same_error {α : Type} (e e' : Error) :
    Outcome.Same (.error e : Outcome α) (.error e') ↔ e.kind = e'.kind := Iff.rfl

theorem Outcome.same_refl {α : Type} : ∀ o : Outcome α, Outcome.Same o o
  | .ok _ => rfl
  | .error _ => rfl

/-- Answers that agree still agree once their values are mapped. -/
theorem Outcome.Same.map {α β : Type} {o o' : Outcome α} (h : Outcome.Same o o') (k : α → β) :
    Outcome.Same (o.map k) (o'.map k) := by
  rcases o with e | a <;> rcases o' with e' | a'
  · exact h
  · exact h.elim
  · exact h.elim
  · exact congrArg k h

theorem Outcome.Same.trans {α : Type} {o o' o'' : Outcome α} (h : Outcome.Same o o')
    (h' : Outcome.Same o' o'') : Outcome.Same o o'' := by
  rcases o with e | a <;> rcases o' with e' | a'
  · rcases o'' with e'' | a''
    · exact Eq.trans h h'
    · exact h'.elim
  · exact h.elim
  · exact h.elim
  · rcases o'' with e'' | a''
    · exact h'.elim
    · exact Eq.trans h h'

/-- Under a one-to-one map, answers agree exactly when their mapped forms do. -/
theorem Outcome.Same.of_map {α β : Type} {o o' : Outcome α} {k : α → β}
    (hk : Function.Injective k) (h : Outcome.Same (o.map k) (o'.map k)) : Outcome.Same o o' := by
  rcases o with e | a <;> rcases o' with e' | a'
  · exact h
  · exact h.elim
  · exact h.elim
  · exact hk h

namespace Act

variable {σ τ α β : Type}

attribute [simp] exec_pure exec_fail

theorem exec_bind (a : Act σ α) (f : α → Act σ β) (s : σ) (env : Env) :
    (a >>= f).exec s env =
      match a.exec s env with
      | (.ok x, s', env') => (f x).exec s' env'
      | (.error e, s', env') => (.error e, s', env') := by
  show StateT.run (ExceptT.run (ExceptT.bind a f)) (s, env) = _
  simp only [ExceptT.bind, ExceptT.run, ExceptT.mk, StateT.run, bind, StateT.bind,
    ExceptT.bindCont]
  unfold exec ExceptT.run StateT.run
  rcases a (s, env) with ⟨_ | x, s', env'⟩ <;> rfl

/-- A sequence whose first action answers runs on from where that action left off. -/
theorem exec_bind_of_ok {a : Act σ α} {f : α → Act σ β} {s s' : σ} {env env' : Env} {x : α}
    (h : a.exec s env = (.ok x, s', env')) : (a >>= f).exec s env = (f x).exec s' env' := by
  rw [exec_bind, h]

/-- A sequence whose first action fails fails there. -/
theorem exec_bind_of_error {a : Act σ α} {f : α → Act σ β} {s s' : σ} {env env' : Env}
    {e : Error} (h : a.exec s env = (.error e, s', env')) :
    (a >>= f).exec s env = (.error e, s', env') := by
  rw [exec_bind, h]

theorem exec_map (k : α → β) (a : Act σ α) (s : σ) (env : Env) :
    (k <$> a).exec s env = ((a.exec s env).1.map k, (a.exec s env).2) := by
  rw [map_eq_pure_bind, exec_bind]
  rcases a.exec s env with ⟨_ | x, s', env'⟩ <;> rfl

@[simp] theorem exec_self (s : σ) (env : Env) : (Act.self : Act σ σ).exec s env = (.ok s, s, env) :=
  rfl

@[simp] theorem exec_self_bind (f : σ → Act σ β) (s : σ) (env : Env) :
    (Act.self >>= f).exec s env = (f s).exec s env :=
  exec_bind_of_ok (exec_self s env)

@[simp] theorem exec_get (s : σ) (env : Env) :
    (get : Act σ (σ × Env)).exec s env = (.ok (s, env), s, env) := rfl

@[simp] theorem exec_put (s' : σ) (s : σ) (env : Env) :
    (Act.put s').exec s env = (.ok (), s', env) := rfl

@[simp] theorem exec_change (f : σ → σ) (s : σ) (env : Env) :
    (Act.change f).exec s env = (.ok (), f s, env) := rfl

@[simp] theorem exec_modifyGet (g : σ × Env → σ × Env) (s : σ) (env : Env) :
    (modify g : Act σ Unit).exec s env = (.ok (), (g (s, env)).1, (g (s, env)).2) := rfl

@[simp] theorem exec_now (s : σ) (env : Env) :
    (Act.now : Act σ Instant).exec s env =
      (.ok env.clock.now.1, s, { env with clock := env.clock.now.2 }) := rfl

@[simp] theorem exec_disk (s : σ) (env : Env) :
    (Act.disk : Act σ Disk).exec s env = (.ok env.disk, s, env) := rfl

@[simp] theorem exec_disk_bind (f : Disk → Act σ β) (s : σ) (env : Env) :
    (Act.disk >>= f).exec s env = (f env.disk).exec s env :=
  exec_bind_of_ok (exec_disk s env)

theorem exec_onDisk (op : Disk → Except OsError Disk) (failure : OsError → Error) (s : σ)
    (env : Env) :
    (Act.onDisk op failure).exec s env =
      match op env.disk with
      | .ok d => (.ok (), s, { env with disk := d })
      | .error e => (.error (failure e), s, env) := by
  unfold onDisk
  rw [exec_bind, exec_get]
  dsimp only
  cases op env.disk <;> rfl

theorem exec_fromDisk (op : Disk → Except OsError α) (failure : OsError → Error) (s : σ)
    (env : Env) :
    (Act.fromDisk op failure).exec s env =
      match op env.disk with
      | .ok x => (.ok x, s, env)
      | .error e => (.error (failure e), s, env) := by
  unfold fromDisk
  rw [exec_bind, exec_disk]
  dsimp only
  cases op env.disk <;> rfl

@[simp] theorem exec_ofOutcome (o : Outcome α) (s : σ) (env : Env) :
    (Act.ofOutcome o).exec s env = (o, s, env) := by
  cases o <;> rfl

@[simp] theorem exec_focus (view : τ → σ) (update : τ → σ → τ) (a : Act σ α) (t : τ)
    (env : Env) :
    (Act.focus view update a).exec t env =
      ((a.exec (view t) env).1, update t (a.exec (view t) env).2.1, (a.exec (view t) env).2.2) :=
  rfl

@[simp] theorem exec_attempt (a : Act σ α) (s : σ) (env : Env) :
    (Act.attempt a).exec s env =
      (.ok (a.exec s env).1, (a.exec s env).2.1, (a.exec s env).2.2) :=
  rfl

/-- A conditional failure fails exactly when its condition holds, and changes nothing. -/
@[simp] theorem exec_failIf (c : Bool) (e : Error) (s : σ) (env : Env) :
    ((if c = true then Act.fail e else pure ()) : Act σ Unit).exec s env =
      if c = true then (.error e, s, env) else (.ok (), s, env) := by
  cases c <;> rfl

/-- An action that, whenever it fails, leaves the state as it found it and the disk untouched;
only the clock may have moved on. -/
def FailsClean (a : Act σ α) (s : σ) (env : Env) : Prop :=
  ∀ e s' env', a.exec s env = (.error e, s', env') → s' = s ∧ env'.disk = env.disk

/-- An action that answers from every state. -/
def NeverFails (a : Act σ α) : Prop :=
  ∀ s env e s' env', a.exec s env ≠ (.error e, s', env')

section FailsClean

variable {a : Act σ α} {s s' : σ} {env env' : Env}

theorem FailsClean.of_ok {x : α} (h : a.exec s env = (.ok x, s', env')) : FailsClean a s env := by
  intro e s'' env'' h'
  rw [h] at h'
  cases h'

/-- An action that leaves the state and the environment as they were fails clean. -/
theorem FailsClean.of_kept (h : (a.exec s env).2 = (s, env)) : FailsClean a s env := by
  intro e s' env' h'
  rw [h'] at h
  cases h
  exact ⟨rfl, rfl⟩

theorem FailsClean.map (h : FailsClean a s env) (k : α → β) : FailsClean (k <$> a) s env := by
  intro e s' env' h'
  rw [exec_map] at h'
  rcases hr : a.exec s env with ⟨_ | x, s1, env1⟩ <;> rw [hr] at h'
  · cases h'
    exact h _ _ _ hr
  · cases h'

theorem FailsClean.of_map {k : α → β} (h : FailsClean (k <$> a) s env) : FailsClean a s env := by
  intro e s' env' h'
  apply h e s' env'
  rw [exec_map, h']
  rfl

/-- An action that runs as one that fails clean fails clean. -/
theorem FailsClean.of_exec {a' : Act σ α} (h : a.exec s env = a'.exec s env)
    (ha' : FailsClean a' s env) : FailsClean a s env := by
  intro e s' env' h'
  exact ha' e s' env' (h.symm.trans h')

/-- An action run on a part of a larger state, and put back by `emb`, fails clean where the part's
action does. -/
theorem FailsClean.embed {τ : Type} {b : Act τ α} (emb : σ → τ)
    (h : b.exec (emb s) env = ((a.exec s env).1, emb (a.exec s env).2.1, (a.exec s env).2.2))
    (ha : FailsClean a s env) : FailsClean b (emb s) env := by
  intro e t env' h'
  rw [h] at h'
  rcases hr : a.exec s env with ⟨o, s1, env1⟩
  rw [hr] at h'
  cases h'
  obtain ⟨rfl, hd⟩ := ha e s1 _ hr
  exact ⟨rfl, hd⟩

end FailsClean

section NeverFails

variable {a : Act σ α}

theorem NeverFails.bind {f : α → Act σ β} (ha : NeverFails a) (hf : ∀ x, NeverFails (f x)) :
    NeverFails (a >>= f) := by
  intro s env e s' env' h
  rw [exec_bind] at h
  rcases hr : a.exec s env with ⟨_ | x, s1, env1⟩ <;> rw [hr] at h <;> dsimp only at h
  · exact ha s env _ _ _ hr
  · exact hf x s1 env1 e s' env' h

/-- An action that never fails answers. -/
theorem NeverFails.answers {a : Act σ Unit} (h : NeverFails a) (s : σ) (env : Env) :
    ∃ s' env', a.exec s env = (.ok (), s', env') := by
  rcases hr : a.exec s env with ⟨_ | x, s', env'⟩
  · exact absurd hr (h s env _ _ _)
  · exact ⟨s', env', rfl⟩

theorem neverFails_pure (x : α) : NeverFails (pure x : Act σ α) := by
  intro s env e s' env' h
  cases h

theorem neverFails_change (f : σ → σ) : NeverFails (Act.change f) := by
  intro s env e s' env' h
  cases h

end NeverFails

/-- An action that keeps a property of the state: from a state that has it, it leaves one that
has it, whether it answers or fails. -/
def Keeps (P : σ → Prop) (a : Act σ α) : Prop :=
  ∀ s env, P s → P (a.exec s env).2.1

section Keeps

variable {P : σ → Prop} {a : Act σ α}

theorem keeps_pure (x : α) : Keeps P (pure x : Act σ α) := fun _ _ h => h

theorem keeps_fail (e : Error) : Keeps P (fail e : Act σ α) := fun _ _ h => h

theorem keeps_self : Keeps P (self : Act σ σ) := fun _ _ h => h

theorem keeps_change {f : σ → σ} (hf : ∀ s, P s → P (f s)) : Keeps P (change f) :=
  fun s _ h => hf s h

theorem Keeps.bind {f : α → Act σ β} (ha : Keeps P a) (hf : ∀ x, Keeps P (f x)) :
    Keeps P (a >>= f) := by
  intro s env h
  have h1 := ha s env h
  rw [exec_bind]
  rcases hr : a.exec s env with ⟨_ | x, s1, env1⟩ <;> rw [hr] at h1
  · exact h1
  · exact hf x s1 env1 h1

theorem Keeps.map (ha : Keeps P a) (k : α → β) : Keeps P (k <$> a) := by
  intro s env h
  rw [exec_map]
  exact ha s env h

theorem Keeps.attempt (ha : Keeps P a) : Keeps P (attempt a) := fun s env h => ha s env h

/-- A property that an action keeps wherever a kept one holds is kept together with it. -/
theorem Keeps.and {Q : σ → Prop} (ha : Keeps P a) (hq : ∀ s env, P s → Q s → Q (a.exec s env).2.1) :
    Keeps (fun s => P s ∧ Q s) a := fun s env h => ⟨ha s env h.1, hq s env h.1 h.2⟩

/-- A loop whose every round keeps a property keeps it. -/
theorem Keeps.forIn {ι : Type} {xs : List ι} {b : β} {f : ι → β → Act σ (ForInStep β)}
    (hf : ∀ x b, Keeps P (f x b)) : Keeps P (forIn xs b f) := by
  induction xs generalizing b with
  | nil => exact keeps_pure b
  | cons x xs ih =>
    rw [List.forIn_cons]
    refine (hf x b).bind fun r => ?_
    cases r with
    | done b' => exact keeps_pure b'
    | yield b' => exact ih

/-- A loop each of whose rounds goes on with the same value and moves the state by `g`, from
states with a property that `g` keeps, moves the state by each element in turn. -/
theorem exec_forIn_yield {ι : Type} {g : σ → ι → σ} {b : β} {f : ι → β → Act σ (ForInStep β)}
    (hg : ∀ x s, P s → P (g s x))
    (hf : ∀ x s env, P s → ∃ env', (f x b).exec s env = (.ok (.yield b), g s x, env')) :
    ∀ (xs : List ι) (s : σ) (env : Env), P s →
      ∃ env', (forIn xs b f).exec s env = (.ok b, xs.foldl g s, env')
  | [], s, env, _ => ⟨env, rfl⟩
  | x :: xs, s, env, hs => by
    obtain ⟨env1, h1⟩ := hf x s env hs
    rw [List.forIn_cons, exec_bind, h1]
    exact exec_forIn_yield hg hf xs (g s x) env1 (hg x s hs)

/-- A loop whose every round goes on with the same value, from every state with a property, to a
state with it, finishes with that value. -/
theorem exec_forIn_ok {ι : Type} {b : β} {f : ι → β → Act σ (ForInStep β)} :
    ∀ (xs : List ι), (∀ x ∈ xs, ∀ s env, P s →
        ∃ s' env', (f x b).exec s env = (.ok (.yield b), s', env') ∧ P s') →
      ∀ (s : σ) (env : Env), P s → ∃ s' env', (forIn xs b f).exec s env = (.ok b, s', env')
  | [], _, s, env, _ => ⟨s, env, rfl⟩
  | x :: xs, hf, s, env, hs => by
    obtain ⟨s1, env1, h1, hs1⟩ := hf x (List.mem_cons_self ..) s env hs
    rw [List.forIn_cons, exec_bind, h1]
    exact exec_forIn_ok xs (fun y hy => hf y (List.mem_cons_of_mem _ hy)) s1 env1 hs1

/-- An action that runs as one that keeps a property keeps it. -/
theorem Keeps.of_exec {a' : Act σ α} (h : ∀ s env, a.exec s env = a'.exec s env)
    (ha' : Keeps P a') : Keeps P a := by
  intro s env hs
  rw [h]
  exact ha' s env hs

end Keeps

end Act

end Plugboard
