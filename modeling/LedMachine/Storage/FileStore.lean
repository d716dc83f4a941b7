import LedMachine.Object.Value

/-!
# The working directory

A working directory of files and directories, named by paths relative to it. A path is cut at
`/` into names, empty names dropped; `.` stays where it is and `..` goes up, also out of the
working directory into the directories above it, which exist but hold nothing known. A path that
starts with `/` starts at the root, of which nothing is known either.

Opening a path walks its names in order, as the system does: each name before the last must be a
directory (else the walk fails as missing, or as no directory), and a name longer than 255 bytes
fails when the walk looks it up. A path of 4096 bytes or more, and a path with a null character,
fail before any walk.

Reading wants a file: a directory fails, and so does a file named with a trailing slash. Writing
creates or replaces a file, but never where a directory stands, nor under a name with a trailing
slash or one that is `.` or `..`. Making a directory fails where anything stands. A file holds
text, or a saved scratchpad, which is binary and no text.
-/

namespace LedMachine

/-- What a file holds. -/
inductive Content where
  /-- Text. -/
  | text (s : String)
  /-- A saved scratchpad value, in binary form. -/
  | snapshot (v : Value)
  deriving Repr

/-- What a path names. -/
inductive Node where
  | file (c : Content)
  | directory
  deriving Repr

/-- Why an operation on a path failed. -/
inductive OsError where
  /-- A name on the way, or the file itself, is missing. -/
  | notFound (path : String)
  /-- A directory stands where a file is wanted. -/
  | isDirectory (path : String)
  /-- A file stands where a directory is wanted. -/
  | notDirectory (path : String)
  /-- Something stands where a directory is to be made. -/
  | alreadyExists (path : String)
  /-- A name on the way, or the whole path, is too long. -/
  | nameTooLong (path : String)
  /-- The path holds a null character. -/
  | nullCharacter
  deriving DecidableEq, Repr

namespace OsError

/-- The message of a failed operation, with its error number. -/
def message : OsError → String
  | .notFound p => "[Errno 2] No such file or directory: " ++ Text.quoted p
  | .isDirectory p => "[Errno 21] Is a directory: " ++ Text.quoted p
  | .notDirectory p => "[Errno 20] Not a directory: " ++ Text.quoted p
  | .alreadyExists p => "[Errno 17] File exists: " ++ Text.quoted p
  | .nameTooLong p => "[Errno 36] File name too long: " ++ Text.quoted p
  | .nullCharacter => "embedded null byte"

/-- The class of a failed operation. -/
def errorClass : OsError → ErrorClass
  | .notFound _ => .fileNotFoundError
  | .isDirectory _ => .isADirectoryError
  | .notDirectory _ => .notADirectoryError
  | .alreadyExists _ => .fileExistsError
  | .nameTooLong _ => .osError
  | .nullCharacter => .valueError

/-- A failed operation as a fault. -/
def fault (e : OsError) : Fault := .raised e.errorClass e.message

end OsError

/-- A place in the directory tree, by the names that lead to it from the working directory: a
leading `..` for each level above it, or `/` for the root. -/
abbrev Place := List String

/-- The files and directories known, by their places. -/
structure FileStore where
  /-- Each place with what it names, one entry per place. -/
  entries : List (Place × Node)
  deriving Repr

namespace FileStore

/-- The empty working directory. -/
def empty : FileStore := ⟨[]⟩

/-- The longest name a directory holds, in bytes. -/
def nameLimit : Nat := 255

/-- The length from which a path is too long, in bytes. -/
def pathLimit : Nat := 4096

/-- The place one level up. -/
def up (p : Place) : Place :=
  match p.getLast? with
  | some ".." | none => p ++ [".."]
  | some "/" => p
  | some _ => p.dropLast

/-- Whether a place lies outside what is known: above the working directory or at the root,
which always exist as directories. -/
def outside (p : Place) : Bool := p.all fun n => n == ".." || n == "/"

/-- What a place names. -/
def find? (fs : FileStore) (p : Place) : Option Node :=
  if outside p then some .directory else fs.entries.lookup p

/-- The names of a path, empty ones dropped. -/
def names (path : String) : List String := (path.splitOn "/").filter (!·.isEmpty)

/-- Whether a path ends in a slash after a name, so that it can only name a directory. -/
def wantsDirectory (path : String) : Bool := path.endsWith "/"

/-- Where a path's walk ends: the place of the directory holding the last name and that name,
or the place itself when the path ends in `.`, `..` or no name. -/
structure Target where
  /-- The directory reached. -/
  place : Place
  /-- The last name, looked up in that directory, if any. -/
  last : Option String

/-- Walks the names of a path from a place; every name but the last must lead to a directory. -/
def walk (fs : FileStore) (path : String) : Place → List String → Except OsError Target
  | p, [] => .ok ⟨p, none⟩
  | p, [n] =>
    if n == "." then .ok ⟨p, none⟩ else if n == ".." then .ok ⟨up p, none⟩ else .ok ⟨p, some n⟩
  | p, n :: rest =>
    if n == "." then walk fs path p rest
    else if n == ".." then walk fs path (up p) rest
    else if nameLimit < n.utf8ByteSize then .error (.nameTooLong path)
    else match fs.find? (p ++ [n]) with
      | some .directory => walk fs path (p ++ [n]) rest
      | some (.file _) => .error (.notDirectory path)
      | none => .error (.notFound path)

/-- Resolves a path to the end of its walk, after the checks on the whole path. -/
def resolve (fs : FileStore) (path : String) : Except OsError Target :=
  if path.contains (Char.ofNat 0) then .error .nullCharacter
  else if pathLimit ≤ path.utf8ByteSize then .error (.nameTooLong path)
  else if path.isEmpty then .error (.notFound path)
  else walk fs path (if path.startsWith "/" then ["/"] else []) (names path)

/-- What a last name names in the directory reached, after checking its length. -/
def lookupLast (fs : FileStore) (path : String) (t : Target) (n : String) : Except OsError (Option Node) :=
  if nameLimit < n.utf8ByteSize then .error (.nameTooLong path)
  else .ok (fs.find? (t.place ++ [n]))

/-- What a path names, for reading: a file's content, or why it cannot be read. -/
def read (fs : FileStore) (path : String) : Except OsError Content := do
  let t ← fs.resolve path
  match t.last with
  | none => throw (.isDirectory path)
  | some n =>
    match ← fs.lookupLast path t n with
    | none => throw (.notFound path)
    | some .directory => throw (.isDirectory path)
    | some (.file c) => if wantsDirectory path then throw (.notDirectory path) else pure c

/-- The store with a place naming `node` and the entries below it gone. -/
def put (fs : FileStore) (p : Place) (node : Node) : FileStore :=
  ⟨(fs.entries.filter fun (q, _) => !p.isPrefixOf q) ++ [(p, node)]⟩

/-- Writes a file, which the directories on its way must already hold. -/
def write (fs : FileStore) (path : String) (c : Content) : Except OsError FileStore := do
  let t ← fs.resolve path
  match t.last with
  | none => throw (.isDirectory path)
  | some n =>
    if wantsDirectory path then throw (.isDirectory path)
    match ← fs.lookupLast path t n with
    | some .directory => throw (.isDirectory path)
    | _ => pure (fs.put (t.place ++ [n]) (.file c))

/-- What a path names, if it names anything that can be reached. -/
def stat? (fs : FileStore) (path : String) : Option Node :=
  match fs.resolve path with
  | .error _ => none
  | .ok t =>
    match t.last with
    | none => some .directory
    | some n =>
      match fs.lookupLast path t n with
      | .ok (some (.file c)) => if wantsDirectory path then none else some (.file c)
      | .ok node => node
      | .error _ => none

/-- Whether a path names anything. -/
def exists? (fs : FileStore) (path : String) : Bool := (fs.stat? path).isSome

/-- Whether a path names a directory. -/
def isDirectory? (fs : FileStore) (path : String) : Bool :=
  match fs.stat? path with
  | some .directory => true
  | _ => false

/-- Makes a directory, where nothing stands yet. -/
def makeDirectory (fs : FileStore) (path : String) : Except OsError FileStore := do
  let t ← fs.resolve path
  match t.last with
  | none => throw (.alreadyExists path)
  | some n =>
    match ← fs.lookupLast path t n with
    | some _ => throw (.alreadyExists path)
    | none => pure (fs.put (t.place ++ [n]) .directory)

/-- A path cut before its last slash: the part before, without trailing slashes unless it is
only slashes, and the part after. -/
def splitPath (path : String) : String × String :=
  let cs := path.toList
  let i := cs.length - (cs.reverse.takeWhile (· != '/')).length
  let head := cs.take i
  let tail := cs.drop i
  let head := if head.all (· == '/') then head else (head.reverse.dropWhile (· == '/')).reverse
  (String.ofList head, String.ofList tail)

/-- Makes a directory with the directories on its way, at most `fuel` levels deep; a directory
already there is no failure. The directories made stay when a later one fails. -/
def makeDirectories (fs : FileStore) : Nat → String → FileStore × Option OsError
  | 0, _ => (fs, none)
  | fuel + 1, path =>
    let (head, tail) := splitPath path
    let (head, tail) := if tail.isEmpty then splitPath head else (head, tail)
    let (fs, early) : FileStore × Option (Option OsError) :=
      if !head.isEmpty && !tail.isEmpty && !fs.exists? head then
        match makeDirectories fs fuel head with
        | (fs', some (.alreadyExists _)) | (fs', none) =>
          (fs', if tail == "." then some none else none)
        | (fs', some e) => (fs', some (some e))
      else (fs, none)
    match early with
    | some r => (fs, r)
    | none =>
      match fs.makeDirectory path with
      | .ok fs' => (fs', none)
      | .error .nullCharacter => (fs, some .nullCharacter)
      | .error e => if fs.isDirectory? path then (fs, none) else (fs, some e)

/-- Writes a text file, making the directories on its way first; what was made stays when the
writing fails. -/
def writeMaking (fs : FileStore) (path : String) (s : String) : FileStore × Option OsError :=
  let (dir, _) := splitPath path
  let (fs, made) := if dir.isEmpty then (fs, none) else fs.makeDirectories (dir.length + 1) dir
  match made with
  | some e => (fs, some e)
  | none =>
    match fs.write path (.text s) with
    | .ok fs' => (fs', none)
    | .error e => (fs, some e)

/-- Removes what a path names, with everything below it. -/
def remove (fs : FileStore) (path : String) : FileStore :=
  match fs.resolve path with
  | .ok ⟨p, some n⟩ => ⟨fs.entries.filter fun (q, _) => !(p ++ [n]).isPrefixOf q⟩
  | _ => fs

/-- The text files inside the working directory, by path, leaving out the paths for which `skip`
holds. -/
def textFiles (fs : FileStore) (skip : List String → Bool) : List (String × String) :=
  fs.entries.filterMap fun (p, node) =>
    match node with
    | .file (.text s) =>
      if skip p || p.any (fun n => n == ".." || n == "/") then none
      else some ("/".intercalate p, s)
    | _ => none

end FileStore

end LedMachine
