import LedMachine.Machine.Step

/-!
# Outcomes of an operation

An operation on a state, run from a given state, either returns a value and a new state or fails
with an error, keeping the state it had reached when it failed. `Yields x s ok err` says that
every outcome of `x` from `s` is as `ok` and `err` describe.

The rules below take an operation apart one bind at a time: each rule says what the first step
of `x >>= f` does and leaves the rest to `f`. Read in order, they run a machine step or a loaded
line symbolically, and the conditions the code tests become hypotheses of the goals that remain.
-/

namespace LedMachine

/-- Every outcome of `x` run from `s`: returning `a` leaves a state satisfying `ok a`, failing with
`e` leaves one satisfying `err e`. -/
def Yields {ε σ α : Type} (x : EStateM ε σ α) (s : σ) (ok : α → σ → Prop)
    (err : ε → σ → Prop) : Prop :=
  match x.run s with
  | .ok a t => ok a t
  | .error e t => err e t

/-- The outcomes of a closed run can be computed: run it and test the outcome. -/
instance {ε σ α : Type} {x : EStateM ε σ α} {s : σ} {ok : α → σ → Prop} {err : ε → σ → Prop}
    [∀ a t, Decidable (ok a t)] [∀ e t, Decidable (err e t)] : Decidable (Yields x s ok err) :=
  match run : x.run s with
  | .ok a t => decidable_of_iff (ok a t) (by unfold Yields; rw [run])
  | .error e t => decidable_of_iff (err e t) (by unfold Yields; rw [run])

section Rules

variable {ε σ α β : Type} {s : σ} {ok : β → σ → Prop} {err : ε → σ → Prop}

theorem yields_bind (x : EStateM ε σ α) (f : α → EStateM ε σ β) :
    Yields (x >>= f) s ok err ↔ Yields x s (fun a t => Yields (f a) t ok err) err := by
  unfold Yields
  simp only [EStateM.run, bind, EStateM.bind]
  cases x s <;> exact Iff.rfl

@[simp]
theorem yields_pure (b : β) : Yields (pure b : EStateM ε σ β) s ok err ↔ ok b s :=
  Iff.rfl

@[simp]
theorem yields_throw (e : ε) : Yields (throw e : EStateM ε σ β) s ok err ↔ err e s :=
  Iff.rfl

@[simp]
theorem yields_get_bind (f : σ → EStateM ε σ β) :
    Yields (get >>= f) s ok err ↔ Yields (f s) s ok err :=
  Iff.rfl

@[simp]
theorem yields_set_bind (t : σ) (f : PUnit → EStateM ε σ β) :
    Yields (set t >>= f) s ok err ↔ Yields (f ⟨⟩) t ok err :=
  Iff.rfl

@[simp]
theorem yields_modify (g : σ → σ) {ok : PUnit → σ → Prop} :
    Yields (modify g : EStateM ε σ PUnit) s ok err ↔ ok ⟨⟩ (g s) :=
  Iff.rfl

@[simp]
theorem yields_modify_bind (g : σ → σ) (f : PUnit → EStateM ε σ β) :
    Yields (modify g >>= f) s ok err ↔ Yields (f ⟨⟩) (g s) ok err :=
  Iff.rfl

@[simp]
theorem yields_throw_bind (e : ε) (f : α → EStateM ε σ β) :
    Yields (throw e >>= f) s ok err ↔ err e s :=
  Iff.rfl

theorem yields_ite (c : Prop) [Decidable c] (x y : EStateM ε σ β) :
    Yields (if c then x else y) s ok err ↔ (c → Yields x s ok err) ∧ (¬c → Yields y s ok err) := by
  by_cases hc : c
  · rw [if_pos hc]
    exact ⟨fun h => ⟨fun _ => h, fun no => absurd hc no⟩, fun h => h.1 hc⟩
  · rw [if_neg hc]
    exact ⟨fun h => ⟨fun yes => absurd yes hc, fun _ => h⟩, fun h => h.2 hc⟩

theorem Yields.mono {x : EStateM ε σ β} {ok' : β → σ → Prop} {err' : ε → σ → Prop}
    (h : Yields x s ok err) (hok : ∀ b t, ok b t → ok' b t) (herr : ∀ e t, err e t → err' e t) :
    Yields x s ok' err' := by
  unfold Yields at *
  split at h
  · exact hok _ _ h
  · exact herr _ _ h

/-- Two descriptions of the outcomes of one run hold together. -/
theorem Yields.and {x : EStateM ε σ β} {ok' : β → σ → Prop} {err' : ε → σ → Prop}
    (h : Yields x s ok err) (h' : Yields x s ok' err') :
    Yields x s (fun b t => ok b t ∧ ok' b t) (fun e t => err e t ∧ err' e t) := by
  unfold Yields at *
  split at h <;> rename_i run <;> rw [run] at h' <;> exact ⟨h, h'⟩

/-- Outcomes described alike on returns are described alike. -/
theorem yields_congr {x : EStateM ε σ β} {ok' : β → σ → Prop} (same : ∀ b t, ok b t ↔ ok' b t) :
    Yields x s ok err ↔ Yields x s ok' err := by
  unfold Yields
  split
  · exact same _ _
  · exact Iff.rfl

/-- A return read off the outcomes. -/
theorem Yields.of_ok {x : EStateM ε σ β} {b : β} {t : σ} (h : Yields x s ok err)
    (run : x.run s = .ok b t) : ok b t := by
  unfold Yields at h
  rwa [run] at h

/-- A failure read off the outcomes. -/
theorem Yields.of_error {x : EStateM ε σ β} {e : ε} {t : σ} (h : Yields x s ok err)
    (run : x.run s = .error e t) : err e t := by
  unfold Yields at h
  rwa [run] at h

/-- An operation with a single possible outcome, a return, has that outcome. -/
theorem Yields.run_eq {x : EStateM ε σ β} {b : β} {t : σ}
    (h : Yields x s (fun b' t' => b' = b ∧ t' = t) fun _ _ => False) : x.run s = .ok b t := by
  unfold Yields at h
  split at h
  · rename_i run
    rw [run, h.1, h.2]
  · exact h.elim

/-- An operation whose outcome is known yields what holds of that outcome. -/
theorem Yields.of_run_ok {x : EStateM ε σ β} {b : β} {t : σ} (run : x.run s = .ok b t)
    (h : ok b t) : Yields x s ok err := by
  unfold Yields
  rw [run]
  exact h

/-- An operation whose failure is known yields what holds of that failure. -/
theorem Yields.of_run_error {x : EStateM ε σ β} {e : ε} {t : σ} (run : x.run s = .error e t)
    (h : err e t) : Yields x s ok err := by
  unfold Yields
  rw [run]
  exact h

end Rules

namespace Machine

section Rules

variable {α : Type} {m : Machine} {ok : α → Machine → Prop} {err : Fault → Machine → Prop}

theorem yields_liftFault_bind {β : Type} (r : Except Fault β) (f : β → MachineM α) :
    Yields (liftFault r >>= f) m ok err ↔
      (∀ e, r = .error e → err e m) ∧ (∀ b, r = .ok b → Yields (f b) m ok err) := by
  -- each side of the case is the other by unfolding, so no rewriting is needed
  cases r with
  | error e =>
    exact ⟨fun h => ⟨fun e' same => (by cases same; exact h), fun _ same => (by cases same)⟩,
      fun h => h.1 e rfl⟩
  | ok b =>
    exact ⟨fun h => ⟨fun _ same => (by cases same), fun b' same => (by cases same; exact h)⟩,
      fun h => h.2 b rfl⟩

theorem yields_cell_bind (i : Int) (f : Nat → MachineM α) :
    Yields (cell i >>= f) m ok err ↔
      (∀ e, m.ram.get i = .error e → err e m) ∧
        (∀ b, m.ram.get i = .ok b → Yields (f b) m ok err) := by
  simp only [cell, bind_assoc]
  exact yields_liftFault_bind _ f

/-- Reading a cell whose byte is known. -/
theorem yields_cell_bind_of {i : Int} {b : Nat} (h : m.ram.get i = .ok b) (f : Nat → MachineM α) :
    Yields (cell i >>= f) m ok err ↔ Yields (f b) m ok err := by
  simp [yields_cell_bind, h]

theorem yields_store_bind (i v : Int) (f : Unit → MachineM α) :
    Yields (store i v >>= f) m ok err ↔
      (∀ e, m.ram.set i v = .error e → err e m) ∧
        (∀ ram, m.ram.set i v = .ok ram → Yields (f ()) { m with ram } ok err) := by
  simp only [store, bind_assoc, yields_get_bind]
  exact yields_liftFault_bind _ _

theorem yields_scratchCell_bind (i : Int) (f : Value → MachineM α) :
    Yields (scratchCell i >>= f) m ok err ↔
      (∀ e, m.scratch.getItem i = .error e → err e m) ∧
        (∀ v, m.scratch.getItem i = .ok v → Yields (f v) m ok err) := by
  simp only [scratchCell, bind_assoc]
  exact yields_liftFault_bind _ f

theorem yields_storeScratch_bind (i : Int) (v : Value) (f : Unit → MachineM α) :
    Yields (storeScratch i v >>= f) m ok err ↔
      (∀ e, m.scratch.setItem i v = .error e → err e m) ∧
        (∀ scratch, m.scratch.setItem i v = .ok scratch →
          Yields (f ()) { m with scratch } ok err) := by
  simp only [storeScratch, bind_assoc, yields_get_bind]
  exact yields_liftFault_bind _ _

theorem yields_storeValue_bind (i : Int) (v : Value) (f : Unit → MachineM α) :
    Yields (storeValue i v >>= f) m ok err ↔
      (∀ e, v.byteOf = .error e → err e m) ∧
        (∀ b, v.byteOf = .ok b → Yields (store i b >>= f) m ok err) := by
  simp only [storeValue, bind_assoc]
  exact yields_liftFault_bind _ _

theorem yields_halt_bind (a : Alarm) (f : Unit → MachineM α) :
    Yields (halt a >>= f) m ok err ↔
      Yields (f ()) { m with running := false, alarm := some a } ok err :=
  Iff.rfl

theorem yields_advance_bind (n : Nat) (f : Unit → MachineM α) :
    Yields (advance n >>= f) m ok err ↔ Yields (f ()) { m with pc := m.pc + n } ok err :=
  Iff.rfl

theorem yields_jumpTo_bind (a : Int) (f : Unit → MachineM α) :
    Yields (jumpTo a >>= f) m ok err ↔ Yields (f ()) { m with pc := a } ok err :=
  Iff.rfl

theorem yields_paint_bind (x y : Int) (lit : Bool) (f : Unit → MachineM α) :
    Yields (paint x y lit >>= f) m ok err ↔
      Yields (f ()) { m with grid := m.grid.paint x y lit } ok err :=
  Iff.rfl

end Rules

end Machine

end LedMachine
