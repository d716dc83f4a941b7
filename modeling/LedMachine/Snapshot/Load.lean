import LedMachine.Snapshot.Reader

/-!
# Reading a saved value

A saved file is a program of one-byte instructions, each followed by its operands, that builds
a value on a stack; the instruction `.` ends it and gives the value on top. The instructions:

* constants: `N` nothing, `0x88`/`0x89` true and false, `)` `]` `}` `0x8F` empty tuple, list,
  dictionary and set;
* numbers as text lines: `I` (a word-sized integer, or a truth value for `00` and `01`), `L` (any
  integer, an optional trailing `L`), `F` (a floating-point number);
* numbers as bytes: `K` `M` `J` integers of 1, 2 and 4 bytes, `0x8A` `0x8B` integers of counted
  length, `G` a floating-point number in 8 bytes;
* texts and bytes: `S` a quoted line of byte escapes, `V` a line of raw escapes, `T` `U`
  counted seven-bit texts, `X` `0x8C` `0x8D` counted UTF-8 texts, `B` `C` `0x8E` counted byte
  strings, `0x96` a counted byte array;
* structure: `(` sets a mark; `t` `l` `d` `0x91` build a tuple, list, dictionary or frozen set of
  what lies above the latest mark; `0x85`–`0x87` build tuples of the top one to three values;
  `a` `e` append, `s` `u` store under keys, `0x90` adds to a set;
* stack and memory: `0` drops the top (or an empty mark), `1` drops back to the latest mark,
  `2` repeats the top; `p` `q` `r` `0x94` keep the top under a number, `g` `h` `j` recall one;
* names and calls: `c` names a module member by two lines, `0x93` by two texts; `R` calls a
  value on a tuple, `0x81` `0x92` make a bare value of a type, `i` `o` call a type on what lies
  above the mark; `b` restores a state;
* `0x80` declares the version, `0x95` announces a frame; extension codes, persistent ids and
  out-of-band buffers have no source here and fail.

Every failure carries the exact message the instruction gives; a file that ends where an
instruction should begin has run out of input.
-/

namespace LedMachine

namespace Snapshot

/-- The value of bytes, least significant first. -/
def littleEndian (bs : List UInt8) : Nat := bs.foldr (fun b acc => acc * 256 + b.toNat) 0

/-- The value of bytes, most significant first. -/
def bigEndian (bs : List UInt8) : Nat := bs.foldl (fun acc b => acc * 256 + b.toNat) 0

/-- A 32-bit pattern read as a signed integer. -/
def signed32 (n : Nat) : Int := if n < Nat.pow 2 31 then n else (n : Int) - Nat.pow 2 32

/-- Bytes, least significant first, read as a signed two's-complement integer. -/
def twosComplement (bs : List UInt8) : Int :=
  let n := littleEndian bs
  match bs.getLast? with
  | some b => if 0x80 ≤ b then (n : Int) - Nat.pow 256 bs.length else n
  | none => 0

/-- The failure of an instruction byte that names no instruction. -/
def invalidKey (op : UInt8) : Fault :=
  let c := op.toNat
  if 0x20 ≤ c && c ≤ 0x7E && c != 0x27 && c != 0x5C then
    failure ("invalid load key, '" ++ String.singleton (Char.ofNat c) ++ "'.")
  else failure ("invalid load key, '\\x" ++ Utf8.hexByte c ++ "'.")

/-- The failure of a size beyond a machine word. -/
def tooLarge (what : String) : Fault :=
  .raised .overflowError (what ++ " exceeds system's maximum size of " ++ toString sizeLimit ++ " bytes")

/-- Lifts a decoding result into a reading step. -/
def decoded (r : Except Utf8.DecodeError String) : ReadM String :=
  match r with
  | .ok s => pure s
  | .error e => throw (.raised .unicodeDecodeError e.message)

/-- `I`: a line read as a machine word, else as any integer; `00` and `01` are truth values. -/
def loadInt : ReadM Unit := do
  let l ← fullLine
  let c := l ++ [0]
  let (x, stop, overflow) := Numbers.machineWord c
  let after := c.getD stop 0
  if overflow || (after != 0x0A && after != 0) then
    match Numbers.integer l 0 with
    | .ok n => push (.int n)
    | .error _ => throw (.raised .valueError "could not convert string to int")
  else if l.length == 3 && (x == 0 || x == 1) then push (.bool (x == 1))
  else push (.int x)

/-- `L`: a line read as an integer, a trailing `L` dropped. -/
def loadLong : ReadM Unit := do
  let l ← fullLine
  let l := if l.getD (l.length - 2) 0 == 0x4C then l.set (l.length - 2) 0 else l
  push (.int (← Numbers.integer l 0))

/-- `F`: a line read as a floating-point number. -/
def loadFloat : ReadM Unit := do
  let l ← fullLine
  let s := Numbers.untilZero l
  match Numbers.floating s with
  | none =>
    throw (.raised .valueError ("could not convert string to float: '" ++ Numbers.shownStart l ++ "'"))
  | some (bits, stop, overflow) =>
    if overflow then
      throw (.raised .overflowError
        ("value too large to convert to float: '" ++ Numbers.shownStart l ++ "'"))
    let after := (s ++ [0]).getD stop 0
    if after != 0x0A && after != 0 then throw (.raised .valueError "could not convert string to float")
    push (.float bits)

/-- `S`: a quoted line of byte escapes, read as seven-bit text. -/
def loadString : ReadM Unit := do
  let l ← line
  let body := l.take (l.length - 1)
  let unquoted : Fault := failure "the STRING opcode argument must be quoted"
  match body.head?, body.getLast? with
  | some q, some q' =>
    if 2 ≤ body.length && q == q' && (q == 0x27 || q == 0x22) then
      let bs ← unescapeBytes ((body.drop 1).take (body.length - 2))
      push (.str (← decoded (Utf8.decodeAscii bs)))
    else throw unquoted
  | _, _ => throw unquoted

/-- `V`: a line of raw escapes. -/
def loadUnicode : ReadM Unit := do
  let l ← line
  push (.str (← unescapeRaw (l.take (l.length - 1))))

/-- `T` `U`: seven-bit text of a length in `n` bytes. -/
def loadCountedString (n : Nat) : ReadM Unit := do
  let size := littleEndian (← take n)
  let bs ← take size
  push (.str (← decoded (Utf8.decodeAscii bs)))

/-- `X` `0x8C` `0x8D`: UTF-8 text of a length in `n` bytes. -/
def loadCountedText (n : Nat) : ReadM Unit := do
  let size := littleEndian (← take n)
  if sizeLimit < size then throw (tooLarge "BINUNICODE")
  let bs ← take size
  push (.str (← decoded (Utf8.decodeHalves bs)))

/-- `B` `C` `0x8E`: a byte string of a length in `n` bytes. -/
def loadCountedBytes (n : Nat) : ReadM Unit := do
  let size := littleEndian (← take n)
  if sizeLimit < size then throw (tooLarge "BINBYTES")
  let bs ← takeInto size true
  push (Value.bytesOf (bs.map UInt8.toNat))

/-- `0x96`: a byte array of a length in 8 bytes. -/
def loadByteArray : ReadM Unit := do
  let size := littleEndian (← take 8)
  if sizeLimit < size then throw (tooLarge "BYTEARRAY8")
  let bs ← takeInto size false
  push (Value.ofBytes (bs.map UInt8.toNat))

/-- `0x8A` `0x8B`: a signed integer of a length in `n` bytes. -/
def loadCountedLong (n : Nat) : ReadM Unit := do
  let raw ← take n
  let size : Int := if n == 4 then signed32 (littleEndian raw) else littleEndian raw
  if size < 0 then throw (failure "LONG pickle has negative byte count")
  if size == 0 then push (.int 0)
  else push (.int (twosComplement (← take size.toNat)))

/-- `0x95`: a frame of a length in 8 bytes, which must all be there. -/
def loadFrame : ReadM Unit := do
  let size := littleEndian (← take 8)
  if sizeLimit < size then
    throw (.raised .overflowError
      ("FRAME length exceeds system's maximum of " ++ toString sizeLimit ++ " bytes"))
  let r ← get
  let _ ← take size
  set r

/-- `0x80`: the version, at most 5. -/
def loadVersion : ReadM Unit := do
  let v := littleEndian (← take 1)
  if v ≤ 5 then modify fun r => { r with version := v }
  else throw (.raised .valueError ("unsupported pickle protocol: " ++ toString v))

/-- `0x82`–`0x84`: an extension code of `n` bytes; none is registered. -/
def loadExtension (n : Nat) : ReadM Unit := do
  let raw := littleEndian (← take n)
  let code : Int := if n == 4 then signed32 raw else raw
  if code ≤ 0 then throw (failure "EXT specifies code <= 0")
  throw (.raised .valueError ("unregistered extension code " ++ toString code))

/-- `(`: a mark at the current height. -/
def setMark : ReadM Unit := modify fun r => { r with marks := r.height :: r.marks }

/-- `0`: drops the top value, or the latest mark when nothing lies above it. -/
def dropTop : ReadM Unit := do
  let r ← get
  match r.marks with
  | m :: ms => if m == r.height then set { r with marks := ms } else discard pop
  | [] => discard pop

/-- `1`: drops everything above the latest mark, and the mark. -/
def dropMark : ReadM Unit := do
  let i ← marker
  cutTo i

/-- `2`: repeats the top value. -/
def repeatTop : ReadM Unit := do push (← top)

/-- Builds a tuple of the top `n` values. -/
def countedTuple (n : Nat) : ReadM Unit := do
  let r ← get
  if r.height < n then underflow
  push (.tuple (← popFrom (r.height - n)))

/-- `t`: a tuple of the values above the latest mark. -/
def loadTuple : ReadM Unit := do
  let i ← marker
  push (.tuple (← popFrom i))

/-- `l`: a list of the values above the latest mark. -/
def loadList : ReadM Unit := do
  let i ← marker
  push (.list (← popFrom i))

/-- The entries of alternating keys and values, stored in order. -/
def storeEntries (target : Value) : List Value → Except Fault Value
  | k :: x :: rest => do storeEntries (← assign target k x) rest
  | _ => .ok target

/-- `d`: a dictionary of the key and value pairs above the latest mark. -/
def loadDict : ReadM Unit := do
  let i ← marker
  let r ← get
  if (r.height - i) % 2 != 0 then throw (failure "odd number of items for DICT")
  let xs ← popFrom i
  push (← storeEntries (.dict []) xs)

/-- `0x91`: a frozen set of the values above the latest mark. -/
def loadFrozenSet : ReadM Unit := do
  let i ← marker
  let xs ← Builtin.keys (← popFrom i)
  push (.frozenset (xs.foldl Value.addMember []))

/-- Appends the values above height `x` to the value just below it. -/
def appendFrom (x : Nat) : ReadM Unit := do
  let r ← get
  if r.height < x || x ≤ r.fence then underflow
  if r.height == x then return
  let target ← valueAt (x - 1)
  let xs ← popFrom x
  setAt (x - 1) (← appendAll target xs)

/-- `a`: appends the top value to the one below it. -/
def loadAppend : ReadM Unit := do
  let r ← get
  if r.height ≤ r.fence + 1 then underflow
  appendFrom (r.height - 1)

/-- `e`: appends the values above the latest mark. -/
def loadAppends : ReadM Unit := do appendFrom (← marker)

/-- Stores the key and value pairs above height `x` in the value just below it. -/
def storeFrom (x : Int) : ReadM Unit := do
  let r ← get
  if r.height < x || x ≤ r.fence then underflow
  let x := x.toNat
  if r.height == x then return
  if (r.height - x) % 2 != 0 then throw (failure "odd number of items for SETITEMS")
  let target ← valueAt (x - 1)
  let xs ← popFrom x
  setAt (x - 1) (← storeEntries target xs)

/-- `s`: stores the top key and value pair in the value below them. -/
def loadSetItem : ReadM Unit := do
  let r ← get
  storeFrom ((r.height : Int) - 2)

/-- `u`: stores the key and value pairs above the latest mark. -/
def loadSetItems : ReadM Unit := do storeFrom (← marker)

/-- `0x90`: adds the values above the latest mark to the set below it. -/
def loadAddItems : ReadM Unit := do
  let x ← marker
  let r ← get
  if r.height < x || x ≤ r.fence then underflow
  if r.height == x then return
  let target ← valueAt (x - 1)
  let xs ← popFrom x
  setAt (x - 1) (← addAll target xs)

/-- `g`: recalls the value kept under a decimal line. -/
def loadGet : ReadM Unit := do
  let l ← fullLine
  let i ← Numbers.integer l 10
  if !Numbers.fitsWord i then throw (.raised .overflowError "Python int too large to convert to C ssize_t")
  push (← memoGet i)

/-- `h` `j`: recalls the value kept under a number of `n` bytes. -/
def loadBinGet (n : Nat) : ReadM Unit := do
  let i := littleEndian (← take n)
  push (← memoGet i)

/-- `p`: keeps the top value under a decimal line. -/
def loadPut : ReadM Unit := do
  let l ← fullLine
  let v ← top
  let i ← Numbers.integer l 10
  if !Numbers.fitsWord i then throw (.raised .overflowError "Python int too large to convert to C ssize_t")
  if i < 0 then throw (.raised .valueError "negative PUT argument")
  memoPut i.toNat v

/-- `q` `r`: keeps the top value under a number of `n` bytes. -/
def loadBinPut (n : Nat) : ReadM Unit := do
  let i := littleEndian (← take n)
  memoPut i (← top)

/-- `0x94`: keeps the top value under the next number. -/
def memoize : ReadM Unit := do
  let v ← top
  let r ← get
  memoPut r.memo.length v

/-- `c`: the module member named by two lines. -/
def loadGlobal : ReadM Unit := do
  let module ← decoded (Utf8.decode ((← fullLine).dropLast))
  let name ← decoded (Utf8.decode ((← fullLine).dropLast))
  let r ← get
  push (← findValue r.version module name)

/-- `0x93`: the module member named by the two texts on top. -/
def loadStackGlobal : ReadM Unit := do
  let name ← pop
  let module ← pop
  match module, name with
  | .str module, .str name =>
    let r ← get
    push (← findValue r.version module name)
  | _, _ => throw (failure "STACK_GLOBAL requires str")

/-- `R`: calls the value below the top on the tuple on top. -/
def loadReduce : ReadM Unit := do
  let args ← pop
  let f ← pop
  match args with
  | .tuple xs => push (← f.call xs)
  | _ => throw (Value.typeError "argument list must be a tuple")

/-- The failure of a bare-value instruction, naming it. -/
def newFailure (withKeywords : Bool) (message : String) : Fault :=
  failure ((if withKeywords then "NEWOBJ_EX" else "NEWOBJ") ++ message)

/-- `0x81` `0x92`: a bare value of a type, from a tuple of arguments (and a table of keyword
arguments). -/
def loadNew (withKeywords : Bool) : ReadM Unit := do
  let keywords ← if withKeywords then some <$> pop else pure none
  let args ← pop
  let cls ← pop
  match cls with
  | .builtin b =>
    if !b.isType then
      throw (newFailure withKeywords " class argument must be a type, not builtin_function_or_method")
    match args with
    | .tuple xs =>
      match keywords with
      | some (.dict _) | none => push (← b.create xs)
      | some k => throw (newFailure withKeywords (" kwargs argument must be a dict, not " ++ k.typeName))
    | a => throw (newFailure withKeywords (" args argument must be a tuple, not " ++ a.typeName))
  | c => throw (newFailure withKeywords (" class argument must be a type, not " ++ c.typeName))

/-- Makes a value of a class from arguments: a type given none makes a bare value. -/
def instantiate (cls : Value) (args : List Value) : Except Fault Value :=
  match cls, args with
  | .builtin b, [] => if b.isType then b.create [] else cls.call []
  | _, _ => cls.call args

/-- `o`: calls the value just above the latest mark on the values above it. -/
def loadObj : ReadM Unit := do
  let i ← marker
  let r ← get
  if r.height < i + 1 then underflow
  let args ← popFrom (i + 1)
  let cls ← pop
  push (← instantiate cls args)

/-- `i`: calls the module member named by two lines on the values above the latest mark. -/
def loadInst : ReadM Unit := do
  let i ← marker
  let module ← decoded (Utf8.decodeAscii ((← fullLine).dropLast))
  let name ← decoded (Utf8.decodeAscii ((← fullLine).dropLast))
  let r ← get
  let cls ← findValue r.version module name
  let args ← popFrom i
  push (← instantiate cls args)

/-- `b`: restores the state on top into the value below it. -/
def loadBuild : ReadM Unit := do
  let r ← get
  if r.height < r.fence + 2 then underflow
  let state ← pop
  restoreState (← top) state

/-- `0x98`: the top value as read-only memory; only bytes can be. -/
def loadReadOnly : ReadM Unit := do
  match ← top with
  | .bytes _ => pure ()
  | .bytearray m => do
    let _ ← pop
    push (.bytes m)
  | v => throw (Value.typeError ("memoryview: a bytes-like object is required, not '" ++ v.typeName ++ "'"))

/-- Runs one instruction other than the end. -/
def step (op : UInt8) : ReadM Unit :=
  match op.toNat with
  | 0x28 => setMark
  | 0x2E => pure ()
  | 0x30 => dropTop
  | 0x31 => dropMark
  | 0x32 => repeatTop
  | 0x46 => loadFloat
  | 0x49 => loadInt
  | 0x4A => do push (.int (signed32 (littleEndian (← take 4))))
  | 0x4B => do push (.int (littleEndian (← take 1)))
  | 0x4C => loadLong
  | 0x4D => do push (.int (littleEndian (← take 2)))
  | 0x4E => push .none
  | 0x50 | 0x51 => throw (failure
      "A load persistent id instruction was encountered,\nbut no persistent_load function was specified.")
  | 0x52 => loadReduce
  | 0x53 => loadString
  | 0x54 => loadCountedString 4
  | 0x55 => loadCountedString 1
  | 0x56 => loadUnicode
  | 0x58 => loadCountedText 4
  | 0x61 => loadAppend
  | 0x62 => loadBuild
  | 0x63 => loadGlobal
  | 0x64 => loadDict
  | 0x7D => push (.dict [])
  | 0x65 => loadAppends
  | 0x67 => loadGet
  | 0x68 => loadBinGet 1
  | 0x69 => loadInst
  | 0x6A => loadBinGet 4
  | 0x6C => loadList
  | 0x5D => push (.list [])
  | 0x6F => loadObj
  | 0x70 => loadPut
  | 0x71 => loadBinPut 1
  | 0x72 => loadBinPut 4
  | 0x73 => loadSetItem
  | 0x74 => loadTuple
  | 0x29 => push (.tuple [])
  | 0x75 => loadSetItems
  | 0x47 => do push (.float (UInt64.ofNat (bigEndian (← take 8))))
  | 0x80 => loadVersion
  | 0x81 => loadNew false
  | 0x82 => loadExtension 1
  | 0x83 => loadExtension 2
  | 0x84 => loadExtension 4
  | 0x85 => countedTuple 1
  | 0x86 => countedTuple 2
  | 0x87 => countedTuple 3
  | 0x88 => push (.bool true)
  | 0x89 => push (.bool false)
  | 0x8A => loadCountedLong 1
  | 0x8B => loadCountedLong 4
  | 0x42 => loadCountedBytes 4
  | 0x43 => loadCountedBytes 1
  | 0x8C => loadCountedText 1
  | 0x8D => loadCountedText 8
  | 0x8E => loadCountedBytes 8
  | 0x8F => push (.set [])
  | 0x90 => loadAddItems
  | 0x91 => loadFrozenSet
  | 0x92 => loadNew true
  | 0x93 => loadStackGlobal
  | 0x94 => memoize
  | 0x95 => loadFrame
  | 0x96 => loadByteArray
  | 0x97 => throw (failure
      "pickle stream refers to out-of-band data but no *buffers* argument was given")
  | 0x98 => loadReadOnly
  | _ => throw (invalidKey op)

/-- Runs instructions until the end, at most `fuel` of them, giving the value on top. -/
def run : Nat → ReadM Value
  | 0 => throw (.raised .eofError "Ran out of input")
  | fuel + 1 => do
    let r ← get
    match r.rest with
    | [] => throw (.raised .eofError "Ran out of input")
    | op :: _ =>
      advance 1
      if op == 0x2E then pop
      else
        step op
        run fuel

/-- The value a saved file holds. Every instruction reads at least its own byte, so one step per
byte is enough. -/
def load (bs : List UInt8) : Except Fault Value := (run (bs.length + 1)).run' (Reader.start bs)

end Snapshot

end LedMachine
