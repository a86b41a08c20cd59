import Retention.Settings.File
import Retention.Store.Basic

/-!
# Files

The files that a run finds, by their paths. A path is followed step by step (`Files.follow`): every
step but the last leads through a directory that is there, and one that goes back leaves it again.
Databases are found by the words of their path instead (`Files.collapse`): a step back takes away
the step before it, whether that leads anywhere or not.
-/

namespace Retention.Connection

open Settings (FileContent)

inductive File
  | directory
  | bytes (content : ByteArray)
  | database (store : Store)

/-- Files by their paths, which have no steps that stay where they are or go back. -/
abbrev Files := List (String × File)

/-- A place in the tree of files: the steps to it, the last one first, from the root or from where
the run takes place. -/
structure Place where
  rooted : Bool
  steps : List String
deriving DecidableEq, Repr

namespace Place

def origin (path : String) : Place := ⟨path.startsWith "/", []⟩

/-- One step back. From the root there is none; from where the run takes place it leads out. -/
def back (p : Place) : Place :=
  match p.steps with
  | [] => if p.rooted then p else { p with steps := [".."] }
  | ".." :: steps => { p with steps := ".." :: ".." :: steps }
  | _ :: steps => { p with steps }

def down (p : Place) (step : String) : Place := { p with steps := step :: p.steps }

def path (p : Place) : String :=
  let below := "/".intercalate p.steps.reverse
  if p.rooted then "/" ++ below else if p.steps.isEmpty then "." else below

/-- Whether it lies on the way out of where the run takes place, or is that or the root. -/
def isOutward (p : Place) : Bool := p.steps.all (· == "..")

end Place

/-- The longest name of a file, in bytes. -/
def maxName : Nat := 255

/-- The longest path, in bytes. -/
def maxPath : Nat := 4095

namespace Files

/-- The path without steps that stay where they are or go back. -/
def normal (path : String) : String :=
  let step (p : Place) (s : String) : Place :=
    if s = "" ∨ s = "." then p else if s = ".." then p.back else p.down s
  ((path.splitOn "/").foldl step (.origin path)).path

def find? (files : Files) (path : String) : Option File := files.lookup (normal path)

/-- The files with another one in the place of that path. -/
def put (files : Files) (path : String) (file : File) : Files :=
  (normal path, file) :: files.filter (·.1 != normal path)

def at? (files : Files) (p : Place) : Option File :=
  if p.isOutward then some .directory else files.lookup p.path

/-- Follows steps from a place. -/
def followFrom (files : Files) (p : Place) : List String → Except FileContent Place
  | [] => .ok p
  | s :: rest =>
    match files.at? p with
    | some .directory =>
      if s = "" ∨ s = "." then followFrom files p rest
      else if s = ".." then followFrom files p.back rest
      else if maxName < s.utf8ByteSize then .error .nameTooLong
      else followFrom files (p.down s) rest
    | some _ => .error .notDirectory
    | none => .error .missing

/-- The place to which a path leads, or why it leads nowhere; whether a file is there is another
matter. -/
def follow (files : Files) (path : String) : Except FileContent Place :=
  if path = "" then .error .missing
  else if maxPath < path.utf8ByteSize then .error .nameTooLong
  else followFrom files (.origin path) (path.splitOn "/")

/-- What a reader of text finds at the path. A database is no text. -/
def content (files : Files) (path : String) : FileContent :=
  match files.follow path with
  | .error content => content
  | .ok p =>
    match files.at? p with
    | none => .missing
    | some .directory => .directory
    | some (.bytes content) => .bytes content
    | some (.database _) => .bytes ⟨#[0xff]⟩

/-- Whether the path leads to a file or a directory. -/
def isThere (files : Files) (path : String) : Bool :=
  match files.follow path with
  | .ok p => (files.at? p).isSome
  | .error _ => false

/-- Takes steps by their words. None of them may lead down from a file, or have too long a name in a
directory that is there. -/
def collapseFrom (files : Files) (p : Place) : List String → Option Place
  | [] => some p
  | s :: rest =>
    if s = "" ∨ s = "." then collapseFrom files p rest
    else if s = ".." then collapseFrom files p.back rest
    else
      match files.at? p with
      | none => collapseFrom files (p.down s) rest
      | some .directory =>
        if maxName < s.utf8ByteSize then none else collapseFrom files (p.down s) rest
      | some _ => none

/-- The place that the words of a path tell. -/
def collapse (files : Files) (path : String) : Option Place :=
  collapseFrom files (.origin path) (path.splitOn "/")

/-- Whether a new file could be put there. -/
def hasRoom (files : Files) (p : Place) : Bool :=
  match files.at? p.back with
  | some .directory => true
  | _ => false

/-- The paths that are passed on the way along a path, that included. -/
def along (path : String) : List String :=
  let steps := path.splitOn "/"
  (List.range steps.length).map fun i => "/".intercalate (steps.take (i + 1))

end Files

end Retention.Connection
