import LedMachine.Storage.FileStore
import LedMachine.Snapshot.Load

/-!
# Keeping the scratchpad in a file

The scratchpad is saved to the file `scratchpad.dat` of the working directory after every
instruction that changes it, and a new machine reads it back from there if the file exists. A
saved file holds the value itself. A file written as text is read as a saved value from its UTF-8
bytes, so that a hand-written file may hold any value, or fail with the reader's message.
-/

namespace LedMachine

/-- The file that keeps the scratchpad. -/
def scratchFile : String := "scratchpad.dat"

namespace FileStore

/-- Saves the scratchpad to its file. -/
def saveScratch (fs : FileStore) (v : Value) : Except OsError FileStore :=
  fs.write scratchFile (.snapshot v)

/-- The scratchpad read back from its file: none when the file is absent, else the value or the
message of why it could not be read. -/
def restoreScratch (fs : FileStore) : Option (Except String Value) :=
  if !fs.exists? scratchFile then none
  else
    some <| match fs.read scratchFile with
      | .error e => .error e.message
      | .ok (.snapshot v) => .ok v
      | .ok (.text s) =>
        match Snapshot.load (Utf8.encode s) with
        | .ok v => .ok v
        | .error f => .error f.message

end FileStore

/-- The line printed when saving the scratchpad fails. -/
def saveFailureLine (e : OsError) : String := "Error saving scratchpad: " ++ e.message ++ "\n"

/-- The line printed when reading the scratchpad back fails. -/
def restoreFailureLine (message : String) : String :=
  "Error loading scratchpad: " ++ message ++ "\n"

end LedMachine
