import RepoIdentity.Text.Encoding

/-!
# Files

What the library asks of a file system is what stands at a path: a file with bytes in
it, a directory, or nothing, for a cause that the system gives. A path is a text with
slashes between names. One that begins with a slash leads from the root of all files,
any other from the directory that the program works in.

* `FileSystem.look` gives what stands at a path; whether anything does
  (`FileSystem.holds`) and what can be read there (`FileSystem.read`) follow from it;
* `FileTree` is a file, or a directory with names in it; `FileTree.follow` goes along
  the names of a path;
* `Disk` is a tree with a working directory, `Disk.fileSystem` the view that a program
  has of it.
-/

namespace RepoIdentity

-- ---------------------------------------------------------------------------
-- Faults
-- ---------------------------------------------------------------------------

inductive FileFault where
  /-- The system refuses, for a reason that it words and numbers. -/
  | refused (reason : Text) (code : Nat)
  /-- The path holds a null character. -/
  | badName
  /-- The bytes are no text. -/
  | notText
deriving DecidableEq, Repr

namespace FileFault

/-- Nothing stands at the path. -/
def notFound : FileFault := .refused "No such file or directory".toList 2

/-- The user may not read what stands at the path. -/
def notPermitted : FileFault := .refused "Permission denied".toList 13

/-- The path goes on behind a file. -/
def notDirectory : FileFault := .refused "Not a directory".toList 20

/-- What stands at the path has no bytes to read. -/
def isDirectory : FileFault := .refused "Is a directory".toList 21

/-- A name, or the whole path, is longer than the system allows. -/
def nameTooLong : FileFault := .refused "File name too long".toList 36

/-- The fault of a number, with other words if the number is none of the above. -/
def ofCode (code : Nat) (otherwise : Text) : FileFault :=
  match code with
  | 2 => notFound
  | 13 => notPermitted
  | 20 => notDirectory
  | 21 => isDirectory
  | 36 => nameTooLong
  | code => .refused otherwise code

def message : FileFault → Text
  | .refused reason code =>
    reason ++ " (os error ".toList ++ Numeral.decimal code ++ ")".toList
  | .badName => "file name contained an unexpected NUL byte".toList
  | .notText => "stream did not contain valid UTF-8".toList

end FileFault

-- ---------------------------------------------------------------------------
-- File systems
-- ---------------------------------------------------------------------------

/-- What can stand at a path. -/
inductive Standing where
  | file (content : Bytes)
  | directory
  /-- A file that the system does not let the program read, for a cause. -/
  | closed (cause : FileFault)
deriving DecidableEq, Repr

/-- The bytes of a file that can be read. -/
def Standing.content : Standing → Except FileFault Bytes
  | .file bytes => .ok bytes
  | .directory => .error .isDirectory
  | .closed cause => .error cause

/-- What a program sees of the files of a system. -/
structure FileSystem where
  /-- What stands at a path, or why nothing does. -/
  look : Text → Except FileFault Standing

namespace FileSystem

/-- Whether anything stands at a path. -/
def holds (fs : FileSystem) (path : Text) : Bool := (fs.look path).isOk

/-- The bytes in the file at a path. -/
def read (fs : FileSystem) (path : Text) : Except FileFault Bytes :=
  (fs.look path).bind Standing.content

end FileSystem

/-- A path continued by another that is relative to it; nothing is put between
them if the first is empty or ends in a slash. -/
def joinPath (base relative : Text) : Text :=
  if base = [] ∨ base.getLast? = some '/' then base ++ relative else base ++ '/' :: relative

-- ---------------------------------------------------------------------------
-- Trees
-- ---------------------------------------------------------------------------

/-- A file, or a directory with names in it. -/
inductive FileTree where
  | file (content : Bytes)
  | directory (entries : List (Text × FileTree))

namespace FileTree

def standing : FileTree → Standing
  | .file bytes => .file bytes
  | .directory _ => .directory

/-- The greatest number of bytes in a name. -/
def maxName : Nat := 255

/-- The greatest number of bytes in a path. -/
def maxPath : Nat := 4095

/-- What stands at the end of the names, from `here` on, below the directories
`above`, the nearest first. An empty name and a single dot stay where they are; two
dots go up, and stay at the root. -/
def follow (here : FileTree) (above : List FileTree) : List Text → Except FileFault FileTree
  | [] => .ok here
  | name :: names =>
    match here with
    | .file _ => .error .notDirectory
    | .directory entries =>
      if name = [] ∨ name = ['.'] then follow here above names
      else if name = ['.', '.'] then
        match above with
        | [] => follow here [] names
        | parent :: above => follow parent above names
      else if maxName < (Utf8.encode name).length then .error .nameTooLong
      else
        match entries.lookup name with
        | none => .error .notFound
        | some found => follow found (here :: above) names

/-- The names in a directory; a file has none. -/
def names : FileTree → List (Text × FileTree)
  | .file _ => []
  | .directory entries => entries

/-- A tree with something put at the end of the names; directories on the way come
to be, and a directory that is there already stays as it is. -/
def put (placed : FileTree) : List Text → Option FileTree → FileTree
  | [], there =>
    match placed, there with
    | .directory [], some (.directory entries) => .directory entries
    | placed, _ => placed
  | name :: path, there =>
    let entries := (there.map names).getD []
    .directory ((name, put placed path (entries.lookup name))
      :: entries.filter fun (n, _) => n ≠ name)

end FileTree

-- ---------------------------------------------------------------------------
-- Disks
-- ---------------------------------------------------------------------------

/-- A tree of files, and a program that works in one of its directories. -/
structure Disk where
  root : FileTree
  /-- The names that lead from the root to the working directory. -/
  workingDirectory : List Text

namespace Disk

/-- The names from the root on that a path stands for in a working directory. -/
def namesFrom (workingDirectory : List Text) (path : Text) : List Text :=
  if path.head? = some '/' then Text.splitOn '/' path
  else workingDirectory ++ Text.splitOn '/' path

/-- What stands at a path. -/
def at? (disk : Disk) (path : Text) : Except FileFault FileTree :=
  if '\x00' ∈ path then .error .badName
  else if path = [] then .error .notFound
  else if FileTree.maxPath < (Utf8.encode path).length then .error .nameTooLong
  else disk.root.follow [] (namesFrom disk.workingDirectory path)

/-- The files as a program in the working directory sees them. -/
def fileSystem (disk : Disk) : FileSystem := ⟨fun path => (disk.at? path).map FileTree.standing⟩

/-- The disk with the files at the paths, as they are seen from the working directory;
a directory is told by the lack of bytes. -/
def ofFiles (workingDirectory : List Text) (files : List (Text × Option Bytes)) : Disk :=
  let bare := FileTree.put (.directory []) workingDirectory (some (.directory []))
  let root := files.foldl (fun tree (path, content) =>
    FileTree.put (match content with
      | some bytes => .file bytes
      | none => .directory []) ((namesFrom workingDirectory path).filter (· ≠ [])) (some tree)) bare
  ⟨root, workingDirectory⟩

end Disk

end RepoIdentity
