/-
# `EntitySchema.Files.Tree` — files and directories

A tree of files is followed piece by piece.  A piece that leads up goes back to the directory that
the current one was reached from.  Everything that can go wrong on the way is a `FileFault`.

What is at a path can be asked without reading it.  Then not every fault counts as one: that there is
nothing at the end of the path, or a file in the middle of it, is an answer.
-/
import EntitySchema.Files.Path
import EntitySchema.Text.Printable
import EntitySchema.Text.Utf8

namespace EntitySchema

/-- A file with its bytes, or a directory with its entries; or either of these, but locked, so that
the file may not be read and the directory not be entered. -/
inductive FileTree where
  | file (bytes : List UInt8)
  | directory (entries : List (String × FileTree))
  | locked (isDirectory : Bool)

/-- Why a file cannot be read. -/
inductive FileFault where
  | notFound
  | noPermission
  | notADirectory
  | isADirectory
  | nameTooLong
  /-- Another fault of a system, by the number that the system has for it. -/
  | other (number : Nat) (wording : String)
  deriving DecidableEq

namespace FileFault

/-- The number that a system has for a fault. -/
def number : FileFault → Nat
  | .notFound => 2
  | .noPermission => 13
  | .notADirectory => 20
  | .isADirectory => 21
  | .nameTooLong => 36
  | .other number _ => number

/-- What a system calls a fault. -/
def wording : FileFault → String
  | .notFound => "No such file or directory"
  | .noPermission => "Permission denied"
  | .notADirectory => "Not a directory"
  | .isADirectory => "Is a directory"
  | .nameTooLong => "File name too long"
  | .other _ wording => wording

/-- The wording of a fault of a file. -/
def message (fault : FileFault) (path : Path) : String :=
  "[Errno " ++ toString fault.number ++ "] " ++ fault.wording ++ ": " ++ Text.quoted path.toString

/-- The numbers of the faults by which a system says that there is nothing: no file, a file that is
not open, a file for a directory, and links that lead round in a circle. -/
def absences : List Nat := [2, 9, 20, 40]

end FileFault

/-- What is at a path. -/
inductive FileStatus where
  | absent
  | file
  | directory
  /-- The system does not say. -/
  | hidden (fault : FileFault)
  deriving DecidableEq

/-- What is known of a path if a fault is the answer. -/
def FileStatus.ofFault (fault : FileFault) : FileStatus :=
  if fault.number ∈ FileFault.absences then .absent else .hidden fault

namespace FileTree

/-- The number of bytes that write a name. -/
def sizeOfName (name : String) : Nat := (Text.Utf8.encode name.toList).length

/-- The most bytes of a name. -/
def longestName : Nat := 255

/-- The most bytes of a path. -/
def longestPath : Nat := 4095

/-- The number of bytes that write the pieces of a path, each with a slash before it. -/
def sizeOfPieces : List String → Nat
  | [] => 0
  | piece :: rest => sizeOfName piece + 1 + sizeOfPieces rest

/-- The entries of a directory that may be entered. -/
def entries? : FileTree → Except FileFault (List (String × FileTree))
  | .directory entries => .ok entries
  | .locked true => .error .noPermission
  | .file _ | .locked false => .error .notADirectory

/-- The tree that has a name among entries. -/
def find (entries : List (String × FileTree)) (name : String) : Except FileFault FileTree :=
  if longestName < sizeOfName name then .error .nameTooLong
  else match entries.lookup name with
    | none => .error .notFound
    | some tree => .ok tree

/-- The tree at the end of some pieces, from a directory on, given the directories it was reached
through. -/
def follow (above : List FileTree) (tree : FileTree) : List String → Except FileFault FileTree
  | [] => .ok tree
  | piece :: rest =>
      match tree.entries? with
      | .error fault => .error fault
      | .ok entries =>
          if piece = ".." then
            match above with
            | [] => follow [] tree rest
            | up :: more => follow more up rest
          else match find entries piece with
            | .error fault => .error fault
            | .ok next => follow (tree :: above) next rest

/-- The tree at a path. -/
def at? (tree : FileTree) (path : Path) : Except FileFault FileTree :=
  if longestPath < sizeOfPieces path.pieces then .error .nameTooLong
  else follow [] tree path.pieces

/-- The bytes of the file at a path. -/
def read (tree : FileTree) (path : Path) : Except FileFault (List UInt8) :=
  match tree.at? path with
  | .error fault => .error fault
  | .ok (.directory _) => .error .isADirectory
  | .ok (.locked _) => .error .noPermission
  | .ok (.file bytes) => .ok bytes

/-- What is at a path. -/
def status (tree : FileTree) (path : Path) : FileStatus :=
  match tree.at? path with
  | .error fault => .ofFault fault
  | .ok (.directory _) | .ok (.locked true) => .directory
  | .ok (.file _) | .ok (.locked false) => .file

mutual

/-- The tree with a file or a directory added at the end of some pieces, and the directories on the
way.  What is no directory, or a locked one, stays as it is on the way. -/
def insert (added : FileTree) : List String → FileTree → FileTree
  | [], .directory entries =>
      match added with
      | .file _ | .locked _ => added
      | .directory _ => .directory entries
  | [], .file _ | [], .locked _ => added
  | _ :: _, .file bytes => .file bytes
  | _ :: _, .locked isDirectory => .locked isDirectory
  | piece :: rest, .directory entries => .directory (insertEntry added piece rest entries)

/-- The entries with a file or a directory added below one of them. -/
def insertEntry (added : FileTree) (piece : String) (rest : List String) :
    List (String × FileTree) → List (String × FileTree)
  | [] => [(piece, fresh added rest)]
  | (name, tree) :: more =>
      if name = piece then (name, insert added rest tree) :: more
      else (name, tree) :: insertEntry added piece rest more

/-- A file or a directory at the end of some pieces, with nothing else on the way. -/
def fresh (added : FileTree) : List String → FileTree
  | [] => added
  | piece :: rest => .directory [(piece, fresh added rest)]

end

end FileTree

/-! ## Access to files

What needs files asks for them by these two operations, in any monad; a tree of files gives them
in the identity monad. -/

/-- Access to files. -/
structure Files (m : Type → Type) where
  status : Path → m FileStatus
  read : Path → m (Except FileFault (List UInt8))

/-- The files of a tree. -/
def FileTree.files (tree : FileTree) : Files Id := ⟨tree.status, tree.read⟩

end EntitySchema
