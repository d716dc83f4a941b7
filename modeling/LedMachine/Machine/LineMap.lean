/-!
# Line maps

A line map tells, for a load address, the source line whose instruction was loaded there. It is
kept sorted by address with one entry per address, and a later entry for an address replaces an
earlier one.
-/

namespace LedMachine

/-- Source line numbers by load address. -/
structure LineMap where
  /-- The entries, ascending by address, one per address. -/
  entries : List (Int × Nat)
  deriving DecidableEq, Repr

namespace LineMap

/-- The map with no entries. -/
def empty : LineMap := ⟨[]⟩

/-- Puts an entry into a list sorted by address, replacing the entry of the same address. -/
def insertEntry (addr : Int) (line : Nat) : List (Int × Nat) → List (Int × Nat)
  | [] => [(addr, line)]
  | (a, l) :: rest =>
    if addr < a then (addr, line) :: (a, l) :: rest
    else if addr = a then (addr, line) :: rest
    else (a, l) :: insertEntry addr line rest

/-- The map with `addr` sent to `line`. -/
def insert (m : LineMap) (addr : Int) (line : Nat) : LineMap := ⟨insertEntry addr line m.entries⟩

/-- The line loaded at an address, if any. -/
def find? (m : LineMap) (addr : Int) : Option Nat := m.entries.lookup addr

theorem lookup_insertEntry (addr : Int) (line : Nat) (es : List (Int × Nat)) :
    (insertEntry addr line es).lookup addr = some line := by
  induction es with
  | nil => simp [insertEntry]
  | cons e rest ih =>
    obtain ⟨a, l⟩ := e
    simp only [insertEntry]
    split
    · simp
    · split
      · simp
      · rename_i same
        have differ : (addr == a) = false := by simpa using same
        simp [List.lookup_cons, differ, ih]

@[simp]
theorem find?_insert (m : LineMap) (addr : Int) (line : Nat) : (m.insert addr line).find? addr = some line :=
  lookup_insertEntry addr line m.entries

end LineMap

end LedMachine
