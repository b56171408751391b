/-! # The files a command sees

The tool reads key files and inputs and writes key files relative to a working directory.
A `Workspace` holds the regular files and the directories that matter, each by its path
relative to the working directory (the working directory itself is the empty path).

A path is read component by component: empty and `.` components are skipped, `..` steps
back over the component before it, and a trailing `/` asks for a directory. Reading a
directory, reading through a regular file, and writing where no directory holds the name
fail as the operating system reports it.
-/

namespace SealedMail.Cli

/-- Why a file operation failed. -/
inductive FileError where
  | notFound
  | isDirectory
  | notDirectory
  /-- Text was expected and the bytes are not UTF-8. -/
  | notText
deriving DecidableEq, Repr

/-- The wording of a file error, with the system's error number. -/
def FileError.message : FileError → String
  | .notFound => "No such file or directory (os error 2)"
  | .isDirectory => "Is a directory (os error 21)"
  | .notDirectory => "Not a directory (os error 20)"
  | .notText => "stream did not contain valid UTF-8"

/-- A path reduced to its components. -/
structure PathKey where
  /-- The components, `..` kept only where nothing precedes it. -/
  parts : List String
  absolute : Bool
  /-- Whether the path ends in a way that names a directory. -/
  dirOnly : Bool
deriving DecidableEq

namespace PathKey

/-- The components of a path. -/
def ofPath (path : String) : PathKey :=
  let comps := path.splitOn "/"
  let parts := comps.foldl (fun (acc : List String) c =>
    if c.isEmpty || c == "." then acc
    else if c == ".." then
      match acc.getLast? with
      | some last => if last == ".." then acc ++ [c] else acc.dropLast
      | none => acc ++ [c]
    else acc ++ [c]) []
  let lastComp := comps.getLast?.getD ""
  { parts, absolute := path.startsWith "/", dirOnly := comps.length > 1 && (lastComp.isEmpty || lastComp == ".") ||
      path == "." || lastComp == ".." }

/-- The text of a key. -/
def text (k : PathKey) : String := (if k.absolute then "/" else "") ++ "/".intercalate k.parts

/-- The key of the directory holding the named entry. -/
def parent (k : PathKey) : PathKey := { k with parts := k.parts.dropLast, dirOnly := true }

/-- The keys of the directories a path passes through, outermost first. -/
def ancestors (k : PathKey) : List PathKey :=
  (List.range k.parts.length).map (fun n => { k with parts := k.parts.take n, dirOnly := true })

end PathKey

/-- The regular files and directories a command can reach. -/
structure Workspace where
  files : List (String × ByteArray) := []
  /-- Directories besides the working directory. -/
  dirs : List String := []

namespace Workspace

/-- The contents of a file by key text. -/
def file? (w : Workspace) (key : String) : Option ByteArray := w.files.lookup key

/-- Whether a key names a directory: the working directory, the root, a listed directory or
a place above the working directory. -/
def isDir (w : Workspace) (k : PathKey) : Bool :=
  k.parts.isEmpty || k.parts.all (· == "..") || w.dirs.contains k.text

/-- Whether the way to a key passes through a regular file. -/
def blockedByFile (w : Workspace) (k : PathKey) : Bool :=
  k.ancestors.any (fun a => !a.parts.isEmpty && (w.file? a.text).isSome)

/-- Read a file. -/
def read (w : Workspace) (path : String) : Except FileError ByteArray :=
  let k := PathKey.ofPath path
  if path.isEmpty then .error .notFound
  else if w.isDir k then .error .isDirectory
  else if w.blockedByFile k then .error .notDirectory
  else match w.file? k.text with
    | some b => if k.dirOnly then .error .notDirectory else .ok b
    | none => .error .notFound

/-- Replace or add a file. -/
def put (w : Workspace) (key : String) (data : ByteArray) : Workspace :=
  if w.files.any (·.1 == key) then { w with files := w.files.map (fun e => if e.1 == key then (key, data) else e) }
  else { w with files := w.files ++ [(key, data)] }

/-- Write a file, creating it in an existing directory. -/
def write (w : Workspace) (path : String) (data : ByteArray) : Except FileError Workspace :=
  let k := PathKey.ofPath path
  if path.isEmpty then .error .notFound
  else if w.isDir k then .error .isDirectory
  else if w.blockedByFile k then .error .notDirectory
  else match w.file? k.text with
    | some _ => if k.dirOnly then .error .notDirectory else .ok (w.put k.text data)
    | none =>
      if !w.isDir k.parent then .error .notFound
      else if k.dirOnly then .error .isDirectory
      else .ok (w.put k.text data)

end Workspace

/-- The path with the extension of its last component replaced by `ext`: the name up to
its last dot (a leading dot does not start an extension) followed by `.ext`. A path whose
last component is not a name is left as it is. -/
def withExtension (path ext : String) : String :=
  let cs := path.toList
  -- the components with the position each starts at
  let (comps, cur, start, _) := cs.foldl (fun (acc : List (Nat × String) × String × Nat × Nat) c =>
    let (done, cur, start, i) := acc
    if c == '/' then (done ++ [(start, cur)], "", i + 1, i + 1) else (done, cur.push c, start, i + 1))
    ([], "", 0, 0)
  let comps := comps ++ [(start, cur)]
  let names := comps.filter (fun (_, c) => !c.isEmpty && c != ".")
  match names.getLast? with
  | none => path
  | some (at_, name) =>
    if name == ".." then path
    else
      let chars := name.toList
      let stemLen := match chars.reverse.findIdx? (· == '.') with
        | some j => if chars.length - 1 - j == 0 then chars.length else chars.length - 1 - j
        | none => chars.length
      String.ofList (cs.take (at_ + stemLen)) ++ (if ext.isEmpty then "" else "." ++ ext)

end SealedMail.Cli
