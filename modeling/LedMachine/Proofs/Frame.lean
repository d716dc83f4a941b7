import LedMachine.Proofs.Outcome

/-!
# What an operation keeps

An instruction reads its operands, writes to the memory, the scratchpad or the grid, and last
moves the counter or halts the machine. What such an operation keeps of the machine is a relation
between the machine before and after it: `Keeps r x` says that every outcome of `x`, a return or
a failure, is related by `r` to the machine it started from.

A `WriteFrame` is a relation that holds from a machine to itself, composes, and survives writes to
the memory and the grid. Every read keeps one, and so does every write but that of the scratchpad;
binds and conditionals of operations that keep it keep it too. A `Frame` survives writes to the
scratchpad as well. A relation that allows only one move of the counter is no frame; an operation
of reads and writes with one move at its end keeps it all the same, by `Keeps.seq`. What a step
may change (`Track`) is another kind of write frame.
-/

namespace LedMachine

namespace Machine

/-- Every outcome of `x`, from any machine, is related by `r` to the machine it started from. -/
def Keeps {α : Type} (r : Machine → Machine → Prop) (x : MachineM α) : Prop :=
  ∀ m, Yields x m (fun _ => r m) (fun _ => r m)

/-- A relation between machines that holds from a machine to itself, composes, and survives writes
to the memory and the grid. -/
structure WriteFrame where
  /-- The relation, from the machine before to the machine after. -/
  rel : Machine → Machine → Prop
  refl : ∀ m, rel m m
  trans : ∀ {m t u}, rel m t → rel t u → rel m u
  ram : ∀ m (ram : Memory), rel m { m with ram }
  grid : ∀ m (grid : Grid), rel m { m with grid }

/-- A write frame that survives writes to the scratchpad too. -/
structure Frame extends WriteFrame where
  scratch : ∀ m (scratch : Value), rel m { m with scratch }

section Keeps

variable {α β : Type}

/-- An operation and then the rest keep what the first keeps followed by what the rest keeps; a
failure of the first keeps what the first keeps. -/
theorem Keeps.seq {r s q : Machine → Machine → Prop} {x : MachineM α} {f : α → MachineM β}
    (first : Keeps r x) (rest : ∀ a, Keeps s (f a)) (comp : ∀ {m t u}, r m t → s t u → q m u)
    (stop : ∀ {m t}, r m t → q m t) : Keeps q (x >>= f) := by
  intro m
  rw [yields_bind]
  exact (first m).mono (fun a t before => (rest a t).mono (fun _ _ after => comp before after)
    (fun _ _ after => comp before after)) (fun _ _ before => stop before)

/-- Each branch may use its condition. -/
theorem Keeps.ite {r : Machine → Machine → Prop} {c : Prop} [Decidable c] {x y : MachineM α}
    (yes : c → Keeps r x) (no : ¬c → Keeps r y) : Keeps r (if c then x else y) := by
  by_cases hc : c
  · simpa only [if_pos hc] using yes hc
  · simpa only [if_neg hc] using no hc

theorem Keeps.mono {r s : Machine → Machine → Prop} {x : MachineM α} (h : Keeps r x)
    (weaker : ∀ {m t}, r m t → s m t) : Keeps s x :=
  fun m => (h m).mono (fun _ _ => weaker) (fun _ _ => weaker)

/-- A change of the machine that the relation relates to the machine before. -/
theorem keeps_modify {r : Machine → Machine → Prop} {g : Machine → Machine}
    (keeps : ∀ t, r t (g t)) : Keeps r (modify g : MachineM PUnit) :=
  fun m => keeps m

/-! ## Reads and writes of the memory and the grid

Stated once for every write frame: a `Frame` and a `Track` are write frames, and `F.rel` of
either is the relation of its write frame, so these apply to both. -/

variable {W : WriteFrame}

theorem Keeps.bind {x : MachineM α} {f : α → MachineM β} (first : Keeps W.rel x)
    (rest : ∀ a, Keeps W.rel (f a)) : Keeps W.rel (x >>= f) :=
  first.seq rest W.trans id

theorem keeps_pure (a : α) : Keeps W.rel (pure a : MachineM α) :=
  fun m => W.refl m

theorem keeps_liftFault (r : Except Fault α) : Keeps W.rel (liftFault r) := by
  intro m
  cases r with
  | error e => exact W.refl m
  | ok a => exact W.refl m

theorem keeps_cell (i : Int) : Keeps W.rel (cell i) := by
  intro m
  simpa only [cell, bind_assoc, yields_get_bind] using keeps_liftFault (m.ram.get i) m

theorem keeps_store (i v : Int) : Keeps W.rel (store i v) := by
  intro m
  simp only [store, yields_get_bind]
  rw [yields_liftFault_bind]
  exact ⟨fun _ _ => W.refl m, fun ram _ => W.ram m ram⟩

theorem keeps_scratchCell (i : Int) : Keeps W.rel (scratchCell i) := by
  intro m
  simpa only [scratchCell, bind_assoc, yields_get_bind] using
    keeps_liftFault (m.scratch.getItem i) m

theorem keeps_storeValue (i : Int) (v : Value) : Keeps W.rel (storeValue i v) :=
  (keeps_liftFault v.byteOf).bind fun b => keeps_store i b

theorem keeps_paint (x y : Int) (lit : Bool) : Keeps W.rel (paint x y lit) :=
  keeps_modify fun t => W.grid t _

/-! ## Writes of the scratchpad -/

theorem keeps_storeScratch {F : Frame} (i : Int) (v : Value) : Keeps F.rel (storeScratch i v) := by
  intro m
  simp only [storeScratch, yields_get_bind]
  rw [yields_liftFault_bind]
  exact ⟨fun _ _ => F.refl m, fun scratch _ => F.scratch m scratch⟩

end Keeps

end Machine

end LedMachine
