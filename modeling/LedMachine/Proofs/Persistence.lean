import LedMachine.Proofs.Effects
import LedMachine.Proofs.Reloading

/-!
# The scratchpad file

A session keeps the scratchpad in the file `scratchpad.dat` of its working directory: a step
that wrote the scratchpad saves it there, and a new machine reads it back. `Session.Mirrored`
says that the file holds exactly the scratchpad, or is absent while the scratchpad is the fresh
one of eight zero bytes.

A machine created over a file that is absent or holds a saved scratchpad leaves the session
mirrored, and every request but those that write a scratchpad cell directly, block the file or
remove it keeps the session mirrored (`scratch_file_mirrors_scratchpad`). So no save ever fails,
no write of the scratchpad by an instruction is lost, and a machine created at any point starts
with the scratchpad there was.

That a step saves every write it makes is `Machine.step_keeps_scratch`: an instance of
`step_tracks`, since only the instructions that write the scratchpad ask for a save.
-/

namespace LedMachine

namespace FileStore

/-- The scratchpad file lies in the working directory, under its own name. -/
theorem resolve_scratchFile (fs : FileStore) :
    fs.resolve scratchFile = .ok ⟨[], some scratchFile⟩ := by
  have clean : scratchFile.contains (Char.ofNat 0) = false := by simp +decide [scratchFile]
  have short : ¬pathLimit ≤ scratchFile.utf8ByteSize := by decide +kernel
  have named : names scratchFile = [scratchFile] := by
    simp +decide [names, scratchFile, String.splitOn, String.splitOnAux]
  unfold resolve
  rw [clean, named, if_neg (by decide), if_neg short, if_neg (by decide +kernel),
    if_neg (by decide +kernel)]
  unfold walk
  rw [if_neg (by decide +kernel), if_neg (by decide +kernel)]

theorem lookupLast_scratchFile (fs : FileStore) :
    fs.lookupLast scratchFile ⟨[], some scratchFile⟩ scratchFile =
      .ok (fs.find? [scratchFile]) := by
  unfold lookupLast
  rw [if_neg (by decide +kernel)]
  rfl

theorem wantsDirectory_scratchFile : wantsDirectory scratchFile = false := by
  decide +kernel

/-- A place written holds what was written there. -/
theorem find?_put_self {fs : FileStore} {p : Place} (node : Node) (inside : outside p = false) :
    (fs.put p node).find? p = some node := by
  unfold find? put
  rw [if_neg (by rw [inside]; decide), List.lookup_append]
  -- the entries kept all lie outside the place written, which the new entry names
  have gone : (fs.entries.filter fun x => !p.isPrefixOf x.1).lookup p = none := by
    rw [List.lookup_eq_none_iff]
    intro q kept
    have outsideP : p.isPrefixOf q.1 = false := by simpa using (List.mem_filter.mp kept).2
    have differs : p ≠ q.1 := fun same => by
      rw [← same] at outsideP
      have own : p.isPrefixOf p = true := List.isPrefixOf_iff_prefix.mpr (List.prefix_refl p)
      rw [own] at outsideP
      cases outsideP
    simpa using differs
  rw [gone]
  simp

/-- Saving the scratchpad writes the file, unless a directory stands in its place. -/
theorem saveScratch_eq {fs : FileStore} (clear : fs.find? [scratchFile] ≠ some .directory)
    (v : Value) : fs.saveScratch v = .ok (fs.put [scratchFile] (.file (.snapshot v))) := by
  unfold saveScratch write
  rw [resolve_scratchFile]
  simp only [bind, Except.bind, wantsDirectory_scratchFile, lookupLast_scratchFile,
    Bool.false_eq_true, if_false]
  cases found : fs.find? [scratchFile] with
  | none => rfl
  | some node =>
    cases node with
    | directory => exact absurd found clear
    | file c => rfl

/-- A saved scratchpad is read back as it was saved. -/
theorem restoreScratch_saved {fs : FileStore} {v : Value}
    (saved : fs.find? [scratchFile] = some (.file (.snapshot v))) :
    fs.restoreScratch = some (.ok v) := by
  unfold restoreScratch exists? stat? read
  rw [resolve_scratchFile]
  simp only [bind, Except.bind, lookupLast_scratchFile, saved, wantsDirectory_scratchFile]
  rfl

/-- Without a file nothing is read back. -/
theorem restoreScratch_absent {fs : FileStore} (absent : fs.find? [scratchFile] = none) :
    fs.restoreScratch = none := by
  unfold restoreScratch exists? stat?
  rw [resolve_scratchFile]
  simp only [lookupLast_scratchFile, absent]
  rfl

end FileStore

namespace Machine

/-- Keeping the scratchpad: every part of an instruction but its write does. -/
def scratchKept : Track where
  rel m t := t.scratch = m.scratch
  refl _ := rfl
  trans first second := second.trans first
  ram _ _ := rfl
  grid _ _ := rfl
  pc _ _ := rfl
  halt _ _ := rfl
  wait _ _ _ := rfl

/-- A step changes the scratchpad only when it asks for a save, and never when it fails. -/
theorem step_keeps_scratch (m : Machine) :
    Yields step m (fun saved t => saved = false → t.scratch = m.scratch)
      (fun _ t => t.scratch = m.scratch) :=
  (@step_tracks scratchKept (fun _ _ => rfl) m).mono (fun _ _ kept => kept.2)
    (fun _ _ kept => kept)

/-- A new machine has the fresh scratchpad. -/
theorem create_scratch {n : Int} {grid : Grid} {m : Machine} (created : create n grid = .ok m) :
    m.scratch = freshScratch := by
  unfold create at created
  cases allocated : Memory.alloc n with
  | error f =>
    rw [allocated] at created
    cases created
  | ok ram =>
    rw [allocated] at created
    cases created
    rfl

end Machine

namespace Request

/-- Whether a request leaves the scratchpad to the instructions and its file to the session:
every request but writing a scratchpad cell directly, blocking the file and removing it. -/
def respectsScratch : Request → Bool
  | .pokeScratch _ _ | .blockScratchFile | .deleteScratchFile => false
  | _ => true

end Request

namespace Session

/-- The scratchpad file holds exactly the scratchpad, or it is absent and the scratchpad is the
fresh one. -/
def Mirrored (s : Session) : Prop :=
  s.files.find? [scratchFile] = some (.file (.snapshot s.machine.scratch)) ∨
    s.files.find? [scratchFile] = none ∧ s.machine.scratch = freshScratch

/-- The invariant reads the files and the scratchpad only. -/
theorem Mirrored.of_same {s t : Session} (mirrored : s.Mirrored) (files : t.files = s.files)
    (scratch : t.machine.scratch = s.machine.scratch) : t.Mirrored := by
  unfold Mirrored
  rw [files, scratch]
  exact mirrored

/-- No directory stands where the file goes, so that saving it succeeds. -/
theorem Mirrored.clear {s : Session} (mirrored : s.Mirrored) :
    s.files.find? [scratchFile] ≠ some .directory := by
  rcases mirrored with saved | ⟨absent, -⟩
  · rw [saved]
    exact fun same => by cases same
  · rw [absent]
    exact fun same => by cases same

theorem start_mirrored {n : Int} {s : Session} (started : start n = .ok s) : s.Mirrored := by
  unfold start at started
  cases created : Machine.create n Grid.dark with
  | error f =>
    rw [created] at started
    cases started
  | ok m =>
    rw [created] at started
    cases started
    exact .inr ⟨rfl, Machine.create_scratch created⟩

/-! ## What each request does to the file -/

section Requests

variable {s : Session}

/-- A save leaves the file holding the scratchpad, wherever no directory stands in its place. -/
theorem yields_saveScratch_mirrored (clear : s.files.find? [scratchFile] ≠ some .directory) :
    Yields saveScratch s (fun _ => Mirrored) (fun _ => Mirrored) := by
  unfold saveScratch
  rw [yields_get_bind, FileStore.saveScratch_eq clear]
  exact .inl (FileStore.find?_put_self _ (by decide +kernel))

theorem yields_restoreScratch_mirrored (mirrored : s.Mirrored) :
    Yields restoreScratch s (fun _ => Mirrored) (fun _ => Mirrored) := by
  unfold restoreScratch
  rw [yields_get_bind]
  rcases mirrored with saved | ⟨absent, fresh⟩
  · -- the file gives back the scratchpad it holds, which is the scratchpad already
    rw [FileStore.restoreScratch_saved saved]
    exact Mirrored.of_same (.inl saved) rfl rfl
  · rw [FileStore.restoreScratch_absent absent]
    exact .inr ⟨absent, fresh⟩

/-- A step saves what it writes to the scratchpad. -/
theorem yields_step_mirrored (mirrored : s.Mirrored) :
    Yields step s (fun _ => Mirrored) (fun _ => Mirrored) := by
  unfold step
  rw [yields_onMachine_bind]
  refine (Machine.step_keeps_scratch s.machine).mono (fun saved t kept => ?_)
    (fun _ t kept => mirrored.of_same rfl kept)
  cases saved with
  | false => exact mirrored.of_same rfl (kept rfl)
  | true => exact yields_saveScratch_mirrored mirrored.clear

/-- A new machine reads the scratchpad back from its file, or starts with the fresh one where
there is none; a size that cannot be allocated keeps the machine. The files stay as they were. -/
theorem yields_create (n : Int) :
    Yields (create n) s
      (fun _ t => t.files = s.files ∧
        (s.files.restoreScratch = none → t.machine.scratch = freshScratch) ∧
        ∀ v, s.files.restoreScratch = some (.ok v) → t.machine.scratch = v)
      (fun _ t => t.files = s.files ∧ t.machine = s.machine ∧
        ∃ f, Machine.create n Grid.dark = .error f) := by
  unfold create
  cases created : Machine.create n Grid.dark with
  | error f =>
    dsimp only
    rw [yields_modify_bind, yields_throw]
    exact ⟨rfl, rfl, f, rfl⟩
  | ok m =>
    dsimp only
    rw [yields_modify_bind]
    unfold restoreScratch
    rw [yields_get_bind]
    dsimp only
    -- what the file gives back, if anything, replaces the new machine's fresh scratchpad
    cases restored : s.files.restoreScratch with
    | none => exact ⟨rfl, fun _ => Machine.create_scratch created, fun _ no => by cases no⟩
    | some read =>
      cases read with
      | ok v => exact ⟨rfl, fun no => (by cases no), fun _ same => by cases same; rfl⟩
      | error e => exact ⟨rfl, fun no => (by cases no), fun _ no => by cases no⟩

/-- A machine created where the file mirrors the scratchpad starts with that scratchpad. -/
theorem yields_create_mirrored (n : Int) (mirrored : s.Mirrored) :
    Yields (create n) s (fun _ t => t.Mirrored ∧ t.machine.scratch = s.machine.scratch)
      (fun _ t => t.Mirrored ∧ t.machine.scratch = s.machine.scratch) := by
  refine (yields_create n).mono (fun _ t created => ?_) (fun _ t kept => ?_)
  · obtain ⟨files, absent, saved⟩ := created
    have same : t.machine.scratch = s.machine.scratch := by
      rcases mirrored with held | ⟨gone, fresh⟩
      · exact saved _ (FileStore.restoreScratch_saved held)
      · rw [absent (FileStore.restoreScratch_absent gone), fresh]
    exact ⟨mirrored.of_same files same, same⟩
  · obtain ⟨files, machine, -⟩ := kept
    have same : t.machine.scratch = s.machine.scratch := by rw [machine]
    exact ⟨mirrored.of_same files same, same⟩

/-- Every request that leaves the scratchpad to the instructions and its file to the session
keeps the file mirroring the scratchpad, whether it faults or not. -/
theorem perform_mirrored {r : Request} (mirrored : s.Mirrored)
    (admitted : r.respectsScratch = true) : (s.perform r).1.Mirrored := by
  apply perform_holds (fun _ kept => kept)
  cases r with
  | create n =>
    rw [handle, yields_bind]
    exact Yields.mono (yields_create_mirrored n mirrored) (fun _ _ created => created.1)
      (fun _ _ created => created.1)
  | load L =>
    rw [handle, yields_onMachine_bind]
    exact (Machine.yields_load L s.machine).mono (fun _ _ kept => mirrored.of_same rfl kept.1)
      (fun _ _ kept => mirrored.of_same rfl kept.1)
  | step =>
    rw [handle, yields_bind]
    exact Yields.mono (yields_step_mirrored mirrored) (fun _ _ stepped => stepped)
      (fun _ _ stepped => stepped)
  | run limit =>
    rw [handle, yields_bind]
    unfold run
    rw [yields_modify_bind]
    -- steps while the machine runs save what they write to the scratchpad, however many they are
    exact Yields.mono (yields_steps_of_step (fun _ => yields_step_mirrored) _ 0 _ mirrored)
      (fun _ _ ran => ran) (fun _ _ ran => ran)
  | reset =>
    rw [handle, yields_onMachine_bind]
    refine (Machine.yields_reset s.machine).mono (fun _ _ cleared => ?_)
      (fun _ _ stopped => ?_)
    · rw [cleared.1]
      exact mirrored
    · rw [stopped]
      exact mirrored
  | poke addr value =>
    rw [handle, yields_onMachine_bind]
    exact (Machine.keeps_store (W := Machine.scratchKept.toWriteFrame) addr value s.machine).mono
      (fun _ _ kept => mirrored.of_same rfl kept) (fun _ _ kept => mirrored.of_same rfl kept)
  | setRegister register v =>
    rw [handle, yields_modify_bind, yields_pure]
    cases register <;> exact mirrored
  | setRunning b =>
    rw [handle, yields_modify_bind, yields_pure]
    exact mirrored
  | saveScratch =>
    rw [handle, yields_bind]
    exact Yields.mono (yields_saveScratch_mirrored mirrored.clear) (fun _ _ saved => saved)
      (fun _ _ saved => saved)
  | restoreScratch =>
    rw [handle, yields_bind]
    exact Yields.mono (yields_restoreScratch_mirrored mirrored) (fun _ _ read => read)
      (fun _ _ read => read)
  | pokeScratch | blockScratchFile | deleteScratchFile => cases admitted

end Requests

/-- Along every run of requests that leave the scratchpad to the instructions and its file to the
session, from a session whose file mirrors the scratchpad, the file keeps mirroring it. -/
theorem mirrored_of_runs {s : Session} (reached : s.Runs Mirrored Request.respectsScratch) :
    s.Mirrored := by
  induction reached with
  | start mirrored => exact mirrored
  | next _ admitted mirrored => exact perform_mirrored mirrored admitted

/-- The scratchpad file mirrors the scratchpad. A machine created, at a size that can be
allocated, over a file that is absent or holds a saved scratchpad leaves the file mirroring the
scratchpad. From then on, through every request but writing a scratchpad cell directly, blocking
the file and removing it, the file holds exactly the scratchpad, or is absent while the
scratchpad is fresh: every save succeeds, no write of the scratchpad is lost, and a machine
created at any point starts with the scratchpad there was. -/
theorem scratch_file_mirrors_scratchpad :
    (∀ (s : Session) (n : Int), 0 ≤ n → n ≤ Memory.allocationLimit →
      (s.files.find? [scratchFile] = none ∨
        ∃ v, s.files.find? [scratchFile] = some (.file (.snapshot v))) →
      (s.perform (.create n)).1.Mirrored) ∧
    (∀ s : Session, s.Runs Mirrored Request.respectsScratch →
      s.Mirrored ∧ (∀ v, ∃ files, s.files.saveScratch v = .ok files) ∧
        ∀ n, (s.perform (.create n)).1.machine.scratch = s.machine.scratch) := by
  refine ⟨fun s n low high restorable => ?_, fun s reached => ?_⟩
  · apply perform_holds (fun _ kept => kept)
    rw [handle, yields_bind]
    refine (yields_create n).mono (fun _ t created => ?_) (fun _ t failed => ?_)
    · -- the new machine starts with what the file holds, or fresh where there is none
      obtain ⟨files, absent, saved⟩ := created
      rcases restorable with gone | ⟨v, held⟩
      · exact .inr ⟨files ▸ gone, absent (FileStore.restoreScratch_absent gone)⟩
      · have read := saved v (FileStore.restoreScratch_saved held)
        exact .inl (by rw [files, read]; exact held)
    · -- a size that can be allocated makes a machine
      obtain ⟨-, -, f, failed⟩ := failed
      unfold Machine.create at failed
      rw [Memory.alloc_of_within low high] at failed
      cases failed
  · have mirrored := mirrored_of_runs reached
    refine ⟨mirrored, fun v => ⟨_, FileStore.saveScratch_eq mirrored.clear v⟩, fun n => ?_⟩
    apply @perform_holds s (fun t => t.machine.scratch = s.machine.scratch) (.create n)
      (fun _ kept => kept)
    rw [handle, yields_bind]
    exact Yields.mono (yields_create_mirrored n mirrored) (fun _ _ created => created.2)
      (fun _ _ created => created.2)

/-- A working directory whose scratchpad file holds the bytes 1 to 8. -/
def savedOneToEight : FileStore :=
  ⟨[([scratchFile], .file (.snapshot (Value.ofBytes [1, 2, 3, 4, 5, 6, 7, 8])))]⟩

/-- A machine of four cells over that directory, before it has read the file. -/
def overSavedFile : Session :=
  { machine := { size := 4, ram := Memory.zeros 4, scratch := freshScratch },
    files := savedOneToEight }

theorem scratch_file_mirrors_scratchpad_sample :
    ((0 : Int) ≤ 8 ∧ (8 : Int) ≤ Memory.allocationLimit ∧
      (∃ v, overSavedFile.files.find? [scratchFile] = some (.file (.snapshot v))) ∧
      (overSavedFile.perform (.create 8)).1.Mirrored) ∧
    ∃ s : Session, s.Runs Mirrored Request.respectsScratch ∧
      s.Mirrored ∧ (∀ v, ∃ files, s.files.saveScratch v = .ok files) ∧
        ∀ n, (s.perform (.create n)).1.machine.scratch = s.machine.scratch := by
  have low : (0 : Int) ≤ 8 := by decide
  have high : (8 : Int) ≤ Memory.allocationLimit := by decide
  have held : ∃ v, overSavedFile.files.find? [scratchFile] = some (.file (.snapshot v)) :=
    ⟨_, rfl⟩
  -- a new machine of four cells in an empty directory, which then saves its scratchpad
  have reached := @Runs.next Mirrored Request.respectsScratch _ .saveScratch
    (Runs.start (@start_mirrored 4 _ rfl)) rfl
  exact ⟨⟨low, high, held,
    scratch_file_mirrors_scratchpad.1 overSavedFile 8 low high (.inr held)⟩,
    _, reached, scratch_file_mirrors_scratchpad.2 _ reached⟩

end Session

end LedMachine
