/-!
What a run asks of the machine it runs on: the text of a file by its path, and a clock. A run
written against `Host m` behaves the same over the files of a disk and over files held in
memory, which is how it is reasoned about and tested.
-/

namespace Thesaurus

/-- The services a run uses, in a monad `m`. -/
structure Host (m : Type → Type) where
  read : String → m (Except String String)
  clock : m Nat

namespace Host

/-- The system's reason for a path that names nothing. -/
def missing : String := "No such file or directory (os error 2)"

/-- The system's reason for a path that names a directory. -/
def directory : String := "Is a directory (os error 21)"

/-- The system's reason for a path that goes through a file as if it were a directory. -/
def notDirectory : String := "Not a directory (os error 20)"

/-- The parts of a stored file's relative path, `.` and empty parts dropped and `..` undoing
the part before it. -/
def pathParts (path : String) : List String :=
  (path.splitOn "/").foldl (fun ps part =>
    if part == "" || part == "." then ps
    else if part == ".." then ps.dropLast
    else ps ++ [part]) []

/-- Whether a list of path parts is the start of a longer one. -/
def strictlyBegins (xs ys : List String) : Bool :=
  xs.length < ys.length && ys.take xs.length == xs

/-- Where the walk along a path stands. -/
inductive Spot where
  | below (parts : List String)
  | above
  | file (parts : List String) (text : String)
  | nothing

/-- What the parts name among the stored files: a file, a directory (the start, or a parent of
a file), or nothing. -/
def spotOf (stored : List (List String × String)) (ps : List String) : Spot :=
  match stored.find? (·.1 == ps) with
  | some (_, text) => .file ps text
  | none => if ps.isEmpty || stored.any (fun (qs, _) => strictlyBegins ps qs) then .below ps else .nothing

/-- Takes one more part of a path, as the system does: the spot reached must be a directory,
and the part names `.` the same directory, `..` its parent, or an entry in it. An empty part,
between two slashes or after a last one, only asks for a directory. -/
def stepPart (stored : List (List String × String)) (spot : Spot) (part : String) : Except String Spot :=
  match spot with
  | .nothing => .error missing
  | .file .. => .error notDirectory
  | .above => if part == "" || part == "." || part == ".." then .ok .above else .ok .nothing
  | .below ps =>
    if part == "" || part == "." then .ok spot
    else if part == ".." then .ok (if ps.isEmpty then .above else .below ps.dropLast)
    else .ok (spotOf stored (ps ++ [part]))

/-- Reads a path among files held in memory by their relative paths, walking it part by part
from the start, or from the root for an absolute path. The directories are the start, the
parents of the files and those above the start; a directory cannot be read as a file. -/
def lookup (files : List (String × String)) (path : String) : Except String String :=
  let stored := files.map fun (name, text) => (pathParts name, text)
  if path.isEmpty then .error missing
  else
    let (first, parts) := if path.startsWith "/" then (Spot.above, (path.drop 1).toString.splitOn "/")
      else (Spot.below [], path.splitOn "/")
    match parts.foldlM (stepPart stored) first with
    | .error e => .error e
    | .ok (.file _ text) => .ok text
    | .ok .nothing => .error missing
    | .ok _ => .error directory

/-- Files held in memory by their relative paths, with a clock that stands at zero. -/
def ofFiles (files : List (String × String)) : Host Id where
  read path := pure (lookup files path)
  clock := pure 0

end Host

end Thesaurus
