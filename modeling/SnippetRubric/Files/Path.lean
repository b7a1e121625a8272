/-!
# Paths

A path is a text whose segments are divided by slashes.  Its *components* are what the segments
mean: the root, the current directory, a parent directory or a name.  Repeated and trailing slashes
mean nothing, and neither does a dot, except at the very beginning.
-/

namespace SnippetRubric
namespace Path

/-- What one segment of a path means. -/
inductive Component where
  | root
  | current
  | parent
  | normal (name : String)
deriving DecidableEq, Repr

/-- The characters between slashes; never an empty list. -/
def segmentsOf : List Char → List (List Char)
  | [] => [[]]
  | c :: cs =>
      if c = '/' then
        [] :: segmentsOf cs
      else
        match segmentsOf cs with
        | [] => [[c]]
        | segment :: rest => (c :: segment) :: rest

/-- The segments of a path. -/
def segments (path : String) : List (List Char) :=
  segmentsOf path.toList

/-- The meaning of a segment inside a path. -/
def inner? : List Char → Option Component
  | [] => none
  | ['.'] => none
  | ['.', '.'] => some .parent
  | name => some (.normal (String.ofList name))

/-- The meaning of the first segment: empty before a slash it is the root, and a dot counts. -/
def leading : List Char → Bool → List Component
  | [], more => if more then [.root] else []
  | ['.'], _ => [.current]
  | segment, _ => (inner? segment).toList

/-- The components of a path. -/
def components (path : String) : List Component :=
  match segments path with
  | [] => []
  | first :: rest => leading first (!rest.isEmpty) ++ rest.filterMap inner?

/-- Whether a path starts at the root. -/
def isAbsolute (path : String) : Bool :=
  path.toList.head? == some '/'

/-- Whether a path only goes down from where it starts. -/
def staysInside (path : String) : Bool :=
  (components path).all fun component =>
    match component with
    | .normal _ | .current => true
    | .root | .parent => false

/-- The path of `file` as seen from `base`: an absolute file stays, and otherwise one slash stands
between the two, none after an empty base or one that ends in a slash. -/
def join (base file : String) : String :=
  if isAbsolute file then file
  else if base.isEmpty || base.toList.getLast? == some '/' then base ++ file
  else base ++ "/" ++ file

/-- Segments without the meaningless ones at their end; the first segment always stays. -/
def trimmed : List (List Char) → List (List Char)
  | [] => []
  | first :: rest =>
      first :: (rest.reverse.dropWhile fun segment => (inner? segment).isNone).reverse

/-- The path without its last component; none when there is no component to drop. -/
def parent? (path : String) : Option String :=
  match (components path).getLast? with
  | none | some .root => none
  | some _ =>
      match trimmed (trimmed (segments path)).dropLast with
      | [[]] => some "/"
      | kept => some (String.ofList (['/'].intercalate kept))

/-- The directory that holds a path; the current one when the path names none. -/
def directory (path : String) : String :=
  match parent? path with
  | some dir => if dir.isEmpty then "." else dir
  | none => "."

end Path
end SnippetRubric
