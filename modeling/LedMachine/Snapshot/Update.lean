import LedMachine.Snapshot.Names

/-!
# Filling in values

The instructions of a saved file fill in the values they built: store members under keys, append
members, add members to a set, and restore a value's state. Each works as the language's own
operation on the value does, and fails with its message:

* storing under a key works on dictionaries, where the key must be usable as one, and on lists
  and byte arrays, where the key must be an integer position;
* appending extends a list, or a byte array with bytes; other values have no way to append;
* adding members works on a set, whose members must be usable as keys;
* restoring a state of nothing, or of an empty dictionary on a type, changes nothing; any other
  state fails, since none of these values keeps attributes.
-/

namespace LedMachine

namespace Snapshot

/-- A failure of the saved file's own form. -/
def failure (message : String) : Fault := .raised .unpicklingError message

/-- The failure of a value that has no attribute of the given name. -/
def noAttribute (v : Value) (attr : String) : Fault :=
  .raised .attributeError <| match v with
    | .builtin b =>
      if b.isType then "type object '" ++ b.name ++ "' has no attribute '" ++ attr ++ "'"
      else "'builtin_function_or_method' object has no attribute '" ++ attr ++ "'"
    | _ => "'" ++ v.typeName ++ "' object has no attribute '" ++ attr ++ "'"

/-- A value with a member stored under a key. -/
def assign (target key x : Value) : Except Fault Value :=
  match target with
  | .dict es =>
    match key.unhashable with
    | some t => .error (Value.typeError ("unhashable type: '" ++ t ++ "'"))
    | none => .ok (.dict (Value.insertEntry key x es))
  | .list _ | .bytearray _ =>
    match key.asInteger with
    | some i => target.setItem i x
    | none => .error (Value.typeError (target.typeName ++
        " indices must be integers or slices, not " ++ key.typeName))
  | _ => .error (Value.typeError ("'" ++ target.typeName ++ "' object does not support item assignment"))

/-- A value with members appended. -/
def appendAll (target : Value) (xs : List Value) : Except Fault Value :=
  match target with
  | .list ys => .ok (.list (ys ++ xs))
  | .bytearray m => do
    let bs ← xs.mapM Value.byteOf
    pure (.bytearray ⟨m.cells ++ (bs.map UInt8.ofNat).toArray⟩)
  | .builtin .list => .error (Value.typeError "list.extend() takes exactly one argument (0 given)")
  | .builtin .bytearray => .error (Value.typeError
      "descriptor 'extend' for 'bytearray' objects doesn't apply to a 'list' object")
  | v => .error (noAttribute v "append")

/-- A value with members added to it as to a set. -/
def addAll (target : Value) (xs : List Value) : Except Fault Value :=
  match target with
  | .set ys => do
    let xs ← Builtin.keys xs
    pure (.set (xs.foldl Value.addMember ys))
  | .builtin .set =>
    match xs with
    | [] => .ok target
    | .set _ :: _ => .error (Value.typeError "set.add() takes exactly one argument (0 given)")
    | x :: _ => .error (Value.typeError
        ("descriptor 'add' for 'set' objects doesn't apply to a '" ++ x.typeName ++ "' object"))
  | v => .error (noAttribute v "add")

/-- Restores a value's state: a state, or a state and a table of attributes. -/
def restoreState (inst state : Value) : Except Fault Unit := do
  let (state, slots) := match state with
    | .tuple [s, t] => (s, some t)
    | s => (s, none)
  match state with
  | .none => pure ()
  | .dict es =>
    match inst with
    | .builtin b =>
      if !b.isType then throw (noAttribute inst "__dict__")
      else if !es.isEmpty then
        throw (Value.typeError "'mappingproxy' object does not support item assignment")
    | _ => throw (noAttribute inst "__dict__")
  | _ => throw (failure "state is not a dictionary")
  match slots with
  | none => pure ()
  | some (.dict []) => pure ()
  | some (.dict ((.str name, _) :: _)) =>
    match inst with
    | .builtin b =>
      if b.isType then
        throw (Value.typeError ("cannot set " ++ Text.quoted name ++ " attribute of immutable type '" ++
          b.name ++ "'"))
      else throw (noAttribute inst name)
    | _ => throw (noAttribute inst name)
  | some (.dict ((k, _) :: _)) =>
    throw (Value.typeError ("attribute name must be string, not '" ++ k.typeName ++ "'"))
  | some _ => throw (failure "slot state is not a dictionary")

end Snapshot

end LedMachine
