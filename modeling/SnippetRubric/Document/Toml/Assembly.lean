import SnippetRubric.Document.Value

/-!
# Assembling tables

The lines of a document give values and tables in any order.  While they are put together, a table
remembers how it came about: by its own header, on the way to another header, or on the way of a
dotted key.  That decides what may still be added to it:

* a key is given only once, and so is a table's header;
* a table that only lies on the way of headers may still get its own, and then moves to the end of
  the table that holds it;
* dotted keys add only to tables that dotted keys have made;
* a table inside braces, like any other value, is complete.
-/

namespace SnippetRubric
namespace Document
namespace Toml

/-- How a table came about. -/
inductive Origin where
  | header
  | onTheWay
  | dotted
deriving DecidableEq

/-- What a key stands for while a document is assembled. -/
inductive Item where
  | value (v : Value)
  | table (origin : Origin) (entries : List (String × Item))
  /-- Tables that share a header, the last one first. -/
  | tables (last : List (String × Item)) (earlier : List (List (String × Item)))

/-- The entries of a table under assembly, in order. -/
abbrev Entries := List (String × Item)

mutual

/-- The finished value. -/
def Item.finish : Item → Value
  | .value v => v
  | .table _ entries => .table (finishEntries entries)
  | .tables last earlier =>
      .list ((Value.table (finishEntries last) :: finishTables earlier).reverse)

/-- The finished values of entries. -/
def finishEntries : List (String × Item) → List (String × Value)
  | [] => []
  | (key, item) :: rest => (key, item.finish) :: finishEntries rest

/-- The finished values of tables. -/
def finishTables : List (List (String × Item)) → List Value
  | [] => []
  | entries :: rest => .table (finishEntries entries) :: finishTables rest

end

/-- The entries with the item of a key replaced. -/
def replace (key : String) (item : Item) (entries : Entries) : Entries :=
  entries.map fun entry => if entry.1 == key then (key, item) else entry

/-- The entries without a key. -/
def erase (key : String) (entries : Entries) : Entries :=
  entries.filter fun entry => entry.1 != key

/-- Changes the table that a path leads to.  Missing tables on the way are made with the origin
`way`; with the origin `dotted`, tables with a header of their own may not be entered. -/
def descend (way : Origin) (change : Origin → Entries → Option Entries) :
    List String → Origin → Entries → Option Entries
  | [], origin, entries => change origin entries
  | key :: path, _, entries =>
      match entries.lookup key with
      | none =>
          (descend way change path way []).map fun below => entries ++ [(key, .table way below)]
      | some (.value _) => none
      | some (.table origin below) =>
          if way = .dotted && origin = .header then none
          else
            (descend way change path origin below).map fun below =>
              replace key (.table origin below) entries
      | some (.tables last earlier) =>
          (descend way change path .header last).map fun last =>
            replace key (.tables last earlier) entries

/-- Gives a key, behind a dotted path, its value. -/
def assign (path : List String) (key : String) (v : Value) (origin : Origin) (entries : Entries) :
    Option Entries :=
  descend .dotted
    (fun reached entries =>
      if decide (reached = .dotted) = path.isEmpty then none
      else if (entries.lookup key).isSome then none
      else some (entries ++ [(key, .value v)]))
    path origin entries

/-- Opens the table of a header. -/
def openTable (path : List String) (key : String) (entries : Entries) : Option Entries :=
  descend .onTheWay
    (fun _ entries =>
      match entries.lookup key with
      | none => some (entries ++ [(key, .table .header [])])
      | some (.table .onTheWay below) =>
          some (erase key entries ++ [(key, .table .header below)])
      | some _ => none)
    path .header entries

/-- Opens the next of the tables that share a header. -/
def openNext (path : List String) (key : String) (entries : Entries) : Option Entries :=
  descend .onTheWay
    (fun _ entries =>
      match entries.lookup key with
      | none => some (entries ++ [(key, .tables [] [])])
      | some (.tables last earlier) => some (replace key (.tables [] (last :: earlier)) entries)
      | some _ => none)
    path .header entries

end Toml
end Document
end SnippetRubric
