import SnippetRubric.Files.Path

/-!
# Files

A `FileTree` is the content of a working directory: files and directories by their location.
`FileTree.read` follows a path through it as an operating system does and answers with the text of
a file, or with the reason why there is none.
-/

namespace SnippetRubric

/-- Why a file cannot be read as text. -/
inductive ReadError where
  | notFound
  | notADirectory
  | isADirectory
  | nameTooLong
  | nulInName
  | notUtf8
  /-- Any other answer of the operating system. -/
  | other (details : String) (code : Nat)
deriving DecidableEq, Repr

namespace ReadError

/-- The wording of each reason. -/
def message : ReadError → String
  | notFound => "No such file or directory (os error 2)"
  | notADirectory => "Not a directory (os error 20)"
  | isADirectory => "Is a directory (os error 21)"
  | nameTooLong => "File name too long (os error 36)"
  | nulInName => "file name contained an unexpected NUL byte"
  | notUtf8 => "stream did not contain valid UTF-8"
  | other details code => s!"{details} (os error {code})"

end ReadError

/-- How the contents of files are looked up: every path has a text or a reason. -/
abbrev Reader := String → Except ReadError String

/-- What stands at a location. -/
inductive FileEntry where
  | file (bytes : ByteArray)
  | directory

/-- A place that a path leads to: names to follow from the working directory or from a directory
some levels above it, or anywhere else, where nothing is known but that there are directories. -/
inductive Place where
  | near (levels : Nat) (names : List String)
  | beyond
deriving DecidableEq, Repr

namespace Place

/-- The working directory. -/
def start : Place := near 0 []

/-- The parent directory of a place. -/
def up : Place → Place
  | near levels [] => near (levels + 1) []
  | near levels names => near levels names.dropLast
  | beyond => beyond

/-- The place of a name in a directory. -/
def child : Place → String → Place
  | near levels names, name => near levels (names ++ [name])
  | beyond, _ => beyond

/-- The place where a component leads. -/
def step (place : Place) : Path.Component → Place
  | .root => beyond
  | .current => place
  | .parent => place.up
  | .normal name => place.child name

/-- The places where components lead, one after the other. -/
def trail : Place → List Path.Component → List Place
  | _, [] => []
  | place, component :: rest => place.step component :: (place.step component).trail rest

end Place

/-- The entries in and around a working directory, each with its place. -/
structure FileTree where
  entries : List (Place × FileEntry)

namespace FileTree

/-- A tree without entries. -/
def empty : FileTree := ⟨[]⟩

/-- What stands at a place.  The working directory and those above it are always there. -/
def at? (tree : FileTree) : Place → Option FileEntry
  | .beyond => some .directory
  | .near _ [] => some .directory
  | place => tree.entries.lookup place

/-- The tree with an entry at a place, instead of what stood there. -/
def put (tree : FileTree) (place : Place) (entry : FileEntry) : FileTree :=
  ⟨(place, entry) :: tree.entries.filter fun other => other.1 ≠ place⟩

/-- The tree with a directory at a place where nothing stood. -/
def makeDirectory (tree : FileTree) (place : Place) : FileTree :=
  if (tree.at? place).isSome then tree else tree.put place .directory

/-- The tree with an entry at a path and with all directories that the path goes through. -/
def insert (tree : FileTree) (path : String) (entry : FileEntry) : FileTree :=
  let trail := Place.start.trail (Path.components path)
  let made := trail.dropLast.foldl makeDirectory tree
  match trail.getLast?, entry with
  | none, _ => made
  | some place, .directory => made.makeDirectory place
  | some place, .file bytes => made.put place (.file bytes)

/-- The longest name of a file, in bytes. -/
def maxNameBytes : Nat := 255

/-- The longest path, in bytes. -/
def maxPathBytes : Nat := 4095

/-- The place of a name in a directory. -/
def enter (tree : FileTree) (place : Place) (name : String) : Except ReadError Place :=
  if maxNameBytes < name.utf8ByteSize then
    .error .nameTooLong
  else if place = .beyond then
    .error .notFound
  else
    match tree.at? (place.child name) with
    | some _ => .ok (place.child name)
    | none => .error .notFound

/-- Follows segments from a place.  Only a directory can be followed further, be it by an empty
segment. -/
def follow (tree : FileTree) : Place → List (List Char) → Except ReadError Place
  | place, [] => .ok place
  | place, segment :: rest =>
      match tree.at? place with
      | some .directory =>
          match segment with
          | [] | ['.'] => tree.follow place rest
          | ['.', '.'] => tree.follow place.up rest
          | name =>
              match tree.enter place (String.ofList name) with
              | .ok next => tree.follow next rest
              | .error e => .error e
      | _ => .error .notADirectory

/-- The place of a path. -/
def locate (tree : FileTree) (path : String) : Except ReadError Place :=
  if path.toList.any (· == Char.ofNat 0) then .error .nulInName
  else if path.isEmpty then .error .notFound
  else if maxPathBytes < path.utf8ByteSize then .error .nameTooLong
  else if Path.isAbsolute path then tree.follow .beyond (Path.segments path)
  else tree.follow .start (Path.segments path)

/-- The text of the file at a path. -/
def read (tree : FileTree) : Reader := fun path =>
  match tree.locate path with
  | .error e => .error e
  | .ok place =>
      match tree.at? place with
      | some (.file bytes) =>
          match String.fromUTF8? bytes with
          | some text => .ok text
          | none => .error .notUtf8
      | some .directory => .error .isADirectory
      | none => .error .notFound

end FileTree
end SnippetRubric
