import LedMachine.Window.Action

/-!
# Scenarios

Fixed scenarios that exercise the library end to end: loading and running a demonstration
program that uses every instruction, loading programs that each fail in one way, keeping the
scratchpad across machines, driving the window's timer, byte counter and odd jobs, and painting
the grid. Each gives a report: a tree of numbers, texts and lists, and what was printed.
-/

namespace LedMachine

/-- A value in a scenario's report. -/
inductive Report where
  | null
  | int (n : Int)
  | text (s : String)
  | list (items : List Report)
  deriving Repr

/-- A fixed scenario, with its size. -/
inductive Scenario where
  /-- Load the demonstration program into fresh machines, this many times. -/
  | loadDemo (copies : Nat)
  /-- Load each faulty program, this many rounds. -/
  | loadFaulty (rounds : Nat)
  /-- Load the demonstration program and step it this many times. -/
  | runDemo (steps : Nat)
  /-- Run each faulty instruction, this many rounds. -/
  | runFaulty (rounds : Nat)
  /-- Keep the scratchpad across this many machines in turn. -/
  | persist (machines : Nat)
  /-- Start the demonstration program in the window and let the timer tick this many times. -/
  | tickDemo (ticks : Nat)
  /-- Count the bytes of programs in the window, the first of this many lines. -/
  | countBytes (lines : Nat)
  /-- Odd jobs on the window, this many rounds. -/
  | windowChores (rounds : Nat)
  /-- Paint the grid, this many frames. -/
  | paintGrid (frames : Nat)
  deriving Repr

namespace Scenario

/-- A program that uses every instruction once, with data at addresses 200 to 210. -/
def demoLines : List String :=
  ["STORE 200 7", "STORE 201 3", "ADD 200 201 202", "SUB 200 201 203", "AND 200 201 204",
   "OR 200 201 205", "XOR 200 201 206", "NOT 200 207", "SHL 200 208", "SHR 200 209",
   "SET 0 0, 1 1, 2 2, 3 3", "CLEAR 0 0, 1 1", "SETALL", "SETNONE", "LOAD 200", "WAIT 1",
   "SCRATCH_STORE 0 5", "SCRATCH_STORE 1 1", "SCRATCH_ADD 0 1 2", "SCRATCH_COPY 200 3",
   "SCRATCH_LOAD 2 210", "SCRATCH_JUMPIF 75 2", "JUMPIF 77 209", "JUMP 0", "LOOP"]

/-- The memory size the demonstration program needs. -/
def demoSize : Nat := 256

/-- A fresh session with a machine of `size` cells. -/
def freshSession (size : Nat) : Session :=
  { machine := { size := size, ram := Memory.zeros size, scratch := freshScratch } }

/-- Carries out requests in turn, keeping the session and the text printed. -/
def performAll (s : Session) (rs : List Request) : Session × String :=
  rs.foldl (fun (s, out) r => let (s', reply) := s.perform r; (s', out ++ reply.printed)) (s, "")

/-- The memory after loading the demonstration program into a fresh machine. -/
def demoMemory : String :=
  ((freshSession demoSize).perform (.load demoLines)).1.machine.ram.hex

/-- Programs that fail to load, each with the memory size it is loaded at: every check of the
assembler once, then every instruction repeated past a memory of four cells. -/
def faultyPrograms : List (Nat × List String) :=
  [(64, ["EP 100"]), (64, ["SET 0"]), (64, ["SET 0 0 0"]), (64, ["SET"]), (64, ["CLEAR A B"]),
   (64, ["CLEAR"]), (64, ["STORE 100 1"]), (64, ["LOAD 100"]), (64, ["JUMP 100"]),
   (64, ["ADD 100 0 0"]), (64, ["JUMPIF 100 0"]), (64, ["SCRATCH_STORE 9 0"]),
   (64, ["SCRATCH_LOAD 9 0"]), (64, ["SCRATCH_LOAD 0 100"]), (64, ["SCRATCH_ADD 9 0 0"]),
   (64, ["SCRATCH_COPY 100 0"]), (64, ["SCRATCH_COPY 0 9"]), (64, ["SCRATCH_JUMPIF 100 0"]),
   (64, ["SCRATCH_JUMPIF 0 9"]), (64, ["AND 100 0 0"]), (64, ["OR 100 0 0"]),
   (64, ["XOR 100 0 0"]), (64, ["NOT 100 0"]), (64, ["SUB 100 0 0"]), (64, ["SHL 100 0"]),
   (64, ["SHR 100 0"]), (64, ["FROB"]), (64, ["STORE"])] ++
  Opcode.all.map fun op =>
    let line := match op with
      | .set | .clear => op.mnemonic ++ " 0 0, 1 1"
      | op => " ".intercalate (op.mnemonic :: List.replicate op.arity "0")
    (4, List.replicate 6 line)

/-- The alarm a program leaves after loading. -/
def loadAlarm (size : Nat) (lines : List String) : Report :=
  match ((freshSession size).perform (.load lines)).1.machine.alarm with
  | some a => .text a.message
  | none => .null

/-- The memory size single instructions are tried at. -/
def trialSize : Nat := 32

/-- Single instructions to try, as memory bytes and the program counter they start at: each instruction with no room for its operands, pairs cut short or off the grid, each
address check failing on address 50, a counter past the memory, a zero byte, an unknown
opcode, and instructions that run cleanly. -/
def faultyInstructions : List (List Nat × Int) :=
  let last : Int := trialSize - 1
  let operandOps : List Nat :=
    [0x03, 0x05, 0x06, 0x07, 0x09, 0x08, 0x12, 0x13, 0x14, 0x15, 0x16, 0x17, 0x18, 0x19, 0x20,
     0x21, 0x22, 0x23]
  [([1], last), ([2], last)] ++ operandOps.map (fun op => ([op], last)) ++
  [([1, 1], last - 1), ([1, 1, 9, 9], 0), ([2, 1], last - 1), ([2, 1, 9, 9], 0),
   ([0x05, 50, 1], 0), ([0x06, 50], 0), ([0x07, 50], 0), ([0x09, 50, 0, 0], 0),
   ([0x08, 50, 0], 0), ([0x12, 50, 0], 0), ([0x13, 50, 0], 0), ([0x14, 50, 0, 0], 0),
   ([0x15, 50, 0], 0), ([0x16, 50, 0], 0), ([0x17, 50, 0, 0], 0), ([0x18, 50, 0, 0], 0),
   ([0x19, 50, 0, 0], 0), ([0x20, 50, 0], 0), ([0x21, 50, 0, 0], 0), ([0x22, 50, 0], 0),
   ([0x23, 50, 0], 0),
   ([], trialSize), ([0], 0), ([254], 0),
   ([0x03, 1], 0), ([0x04], 0), ([0x10], 0), ([0x11], 0), ([1, 1, 0, 0], 0), ([2, 1, 0, 0], 0)]

/-- The alarm one step leaves on a fresh machine of the trial size holding `bytes` from the
program counter `pc` on. -/
def stepAlarm (bytes : List Nat) (pc : Int) : Report :=
  let pokes := (List.range bytes.length).zip bytes |>.map fun (i, b) => Request.poke (pc + i) b
  let (s, _) := performAll (freshSession trialSize) (pokes ++ [.setRegister .counter pc, .step])
  match s.machine.alarm with
  | some a => .text a.message
  | none => .null

/-- The failure of reporting on the last machine when no machine was made. -/
def noMachine : Fault :=
  .raised .unboundLocalError "cannot access local variable 'emu' where it is not associated with a value"

/-- Keeps the scratchpad across machines. The first machine reads back a file that holds text
and then finds a directory in the file's place when it saves; each machine in turn reports its
memory and saves a scratchpad of its own, bytes counting up from its number plus one; the
report ends with the last machine's scratchpad. Without machines there is none to report on. -/
def persistence (machines : Nat) : Except Fault (Report × String) :=
  if machines == 0 then .error noMachine
  else
    let size := 128
    let s : Session :=
      { freshSession size with files := FileStore.empty.put [scratchFile] (.file (.text "not a scratchpad")) }
    let (s, rows, out) := (List.range machines).foldl (fun (s, rows, out) i =>
      let (s, out') := performAll s [.create size]
      let (s, out') := if i == 0 then
          let (s, blocked) := performAll s
            [.deleteScratchFile, .blockScratchFile, .saveScratch, .deleteScratchFile]
          (s, out' ++ blocked)
        else (s, out')
      let row := Report.list [.text s.machine.ram.hex, .int i]
      let s := { s with machine.scratch := Value.ofBytes ((List.range scratchSize).map (· + i + 1)) }
      let (s, out'') := performAll s [.saveScratch]
      (s, rows ++ [row], out ++ out' ++ out'')) (s, [], "")
    .ok (.list (rows ++ [.text (s.machine.scratch.hex.getD "")]), out)

/-- A window with the demonstration program in its editor and a memory large enough for it. -/
def demoWindow : Window :=
  Window.initial.actAll [.changeSize (toString demoSize), .setText ("\n".intercalate demoLines)]

/-- The lines a long program is made of, over and over: a header, instructions of every size,
blank and comment lines. -/
def longProgramLines : List String :=
  ["# Byte counter test program", "EP 0", "", "SET 0 0, 1 1", "WAIT 5", "STORE 10 20",
   "ADD 10 11 12", "SCRATCH_ADD 0 1 2", "# section", "CLEAR 0 0, 1 1", "STORE 11 5",
   "NOT 10 13", "SHL 10 14", "SHR 10 15", "LOAD 12", "SETALL", "SETNONE", "SCRATCH_STORE 0 1",
   "SCRATCH_COPY 10 1", "SCRATCH_LOAD 1 16", "AND 10 11 17", "# end of block", "OR 10 11 18",
   "XOR 10 11 19", "SUB 10 11 20", "ADD 12 13 14"]

/-- A long program of `n` lines. -/
def longProgram (n : Nat) : String :=
  "\n".intercalate ((List.range n).map fun i =>
    longProgramLines.getD (i % longProgramLines.length) "")

/-- The byte counter's text for a program in a fresh window. -/
def counterFor (w : Window) (text : String) : Window × String :=
  let w := w.actAll [.setText text, .showByteCount]
  (w, w.counterText)

/-- The byte counter for a long program, a malformed one, one that nearly fills the memory, and
the last with a memory size that is no number. -/
def byteCounts (lines : Nat) : Report :=
  let w := Window.initial
  let (w, overfull) := counterFor w (longProgram lines)
  let (w, malformed) := counterFor w "SET 0 0\nFROB"
  let (w, nearlyFull) := counterFor w ("\n".intercalate (demoLines.take 14 ++ ["LOOP"]))
  let w := w.actAll [.setSize (.text "sixty-four"), .showByteCount]
  .list [.text overfull, .text malformed, .text nearlyFull, .text w.counterText]

/-- The colour a button's colour is lightened or darkened to, as the colour model of the test
window reports every shade: mid grey. -/
def shade (_color : String) : String := "#808080"

/-- One round of odd jobs: showing the help (which gives nothing back), the lightened and
darkened button colours, and the counter label after one step by hand. -/
def chores : List Report :=
  let w := demoWindow.actAll [.showHelp, .stepByHand 1]
  [.null, .text (shade "#007ACC"), .text (shade "#007ACC"), .text w.pcText]

/-- Runs a scenario: its report and the text it printed. -/
def run : Scenario → Except Fault (Report × String)
  | .loadDemo copies => .ok (.list (List.replicate copies (.text demoMemory)), "")
  | .loadFaulty rounds =>
    .ok (.list ((List.range rounds).flatMap fun _ =>
      faultyPrograms.map fun (size, lines) => loadAlarm size lines), "")
  | .runDemo steps =>
    let (s, out) := performAll (freshSession demoSize) (.load demoLines :: List.replicate steps .step)
    .ok (.list [.text s.machine.ram.hex, .text (s.machine.scratch.hex.getD ""), .int s.machine.pc,
      .int steps], out)
  | .runFaulty rounds =>
    .ok (.list ((List.range rounds).flatMap fun _ =>
      faultyInstructions.map fun (bytes, pc) => stepAlarm bytes pc), "")
  | .persist machines => persistence machines
  | .tickDemo ticks =>
    let (_, reply) := (demoWindow.actAll [.start]).perform (.tick ticks)
    .ok (.list ((reply.counters.getD []).map .int), reply.printed)
  | .countBytes lines => .ok (byteCounts lines, "")
  | .windowChores rounds => .ok (.list ((List.range rounds).flatMap fun _ => chores), "")
  | .paintGrid frames =>
    .ok (.list ((List.range frames).map fun i => .int ((gridSide + i : Nat) : Int)), "")

/-- Each scenario's name, the keyword and default of its count, and how the count makes it. -/
def named : List (String × String × Int × (Nat → Scenario)) :=
  [("bench_parse_full", "n_copies", 100, loadDemo),
   ("bench_parse_errors", "n_rounds", 60, loadFaulty),
   ("bench_execute_program", "n_steps", 4000, runDemo),
   ("bench_execute_errors", "n_rounds", 200, runFaulty),
   ("bench_emulator_persistence", "n_emus", 60, persist),
   ("bench_mainwindow_run_cycle", "n_cycles", 200, tickDemo),
   ("bench_mainwindow_byte_counter", "n_lines", 1500, countBytes),
   ("bench_mainwindow_misc", "n_rounds", 40, windowChores),
   ("bench_display_widget", "n_frames", 300, paintGrid)]

/-- A count given as a value: it must be an integer, and a negative one counts as none. -/
def countOf (v : Value) : Except Fault Nat :=
  match v.asInteger with
  | some n => .ok n.toNat
  | none => .error (Value.typeError ("'" ++ v.typeName ++ "' object cannot be interpreted as an integer"))

/-- The scenario a name and keyword arguments call for; none for an unknown name. A keyword
other than the scenario's own fails. -/
def call? (name : String) (args : List (String × Value)) : Option (Except Fault Scenario) :=
  (named.find? (·.1 == name)).map fun (_, keyword, default, make) => do
    match args.find? (·.1 != keyword) with
    | some (k, _) =>
      throw (Value.typeError (name ++ "() got an unexpected keyword argument " ++ Text.quoted k))
    | none =>
      match args.find? (·.1 == keyword) with
      | some (_, v) => pure (make (← countOf v))
      | none => pure (make default.toNat)

end Scenario

end LedMachine
