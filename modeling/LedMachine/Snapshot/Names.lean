import LedMachine.Object.Call

/-!
# Names in saved files

A saved file may name a value by a module and a name in it, as `builtins` and `bytearray`. Two
modules can be named: the built-in one, which holds the built-in types and the constants `None`,
`True` and `False`, and the codec module, which holds the text-encoding function.

Files of the versions before 3 use older names, which are mapped first: the module `__builtin__`
to `builtins`, and the types `unicode` and `basestring` to `str`, `long` to `int`. From version 4 on, a name may walk into attributes with dots; no value here has any, so a
dotted name is found only if it names a module member outright.

Importing a module imports each of its dotted prefixes first, the shortest first; the first that
is unknown fails, and a known module with a dotted name after it is no package.
-/

namespace LedMachine

namespace Snapshot

/-- A module a saved file can name. -/
inductive Module where
  /-- The built-in types and constants. -/
  | builtins
  /-- The codec functions. -/
  | codecs
  deriving DecidableEq, Repr

namespace Module

/-- The name a module is imported by. -/
def name : Module → String
  | .builtins => "builtins"
  | .codecs => "_codecs"

/-- The module of a name. -/
def ofName? (s : String) : Option Module :=
  [Module.builtins, .codecs].find? (·.name == s)

/-- The printed form of a module. -/
def repr (m : Module) : String := "<module '" ++ m.name ++ "' (built-in)>"

/-- The value a module holds under a name. -/
def member? (m : Module) (s : String) : Option Value :=
  match m with
  | .builtins =>
    if s == "None" then some .none
    else if s == "True" then some (.bool true)
    else if s == "False" then some (.bool false)
    else (Builtin.typeOfName? s).map .builtin
  | .codecs => if s == "encode" then some (.builtin .encode) else none

end Module

/-- A module and name as files before version 3 wrote them, in their current spelling. -/
def currentName (module name : String) : String × String :=
  if module == "__builtin__" then
    if name == "unicode" || name == "basestring" then ("builtins", "str")
    else if name == "long" then ("builtins", "int")
    else ("builtins", name)
  else (module, name)

/-- The dotted prefixes of a module name that are imported in turn: each part before a dot that is
not empty, then the whole name. -/
def importChain (name : String) : List String :=
  let parts := name.splitOn "."
  let prefixes := (List.range parts.length).map fun k => ".".intercalate (parts.take (k + 1))
  prefixes.filter (!·.isEmpty)

/-- The failure of a missing module. -/
def noModule (name : String) : Fault :=
  .raised .moduleNotFoundError ("No module named " ++ Text.quoted name)

/-- Imports a module by name. -/
def importModule (name : String) : Except Fault Module :=
  if name.isEmpty then .error (.raised .valueError "Empty module name")
  else match importChain name with
    | [] => .error (noModule name)
    | first :: later =>
      match Module.ofName? first, later with
      | none, _ => .error (noModule first)
      | some m, [] => .ok m
      | some _, next :: _ =>
        .error (.raised .moduleNotFoundError ("No module named " ++ Text.quoted next ++ "; " ++
          Text.quoted first ++ " is not a package"))

/-- Finds the value a module and name stand for, in a file of the given version. -/
def findValue (version : Nat) (module name : String) : Except Fault Value := do
  let (module, name) := if version < 3 then currentName module name else (module, name)
  let m ← importModule module
  let missing : Fault := .raised .attributeError
    ("Can't get attribute " ++ Text.quoted name ++ " on " ++ m.repr)
  if 4 ≤ version && (name.splitOn ".").contains "<locals>" then
    throw (.raised .attributeError
      ("Can't get local attribute " ++ Text.quoted name ++ " on " ++ m.repr))
  match m.member? name with
  | some v => pure v
  | none => throw missing

end Snapshot

end LedMachine
