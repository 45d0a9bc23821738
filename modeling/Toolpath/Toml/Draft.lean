import Toolpath.Toml.Value

/-!
# Tables under construction

Statements fill a table from many places: a header opens a table, a dotted key goes through
tables that it makes on the way, and a header of an array adds one more table to it. Each
table remembers how it came about, since that decides who may still add to it:

* a table with a header of its own is complete once its section ends, although sections of
  tables inside it may follow;
* a table made on the way to a header may get its own header later, once, and then moves
  behind the keys that were written meanwhile;
* a table made by a dotted key takes further dotted keys, but no header.

A value is final, and no key is given twice.
-/

namespace Toolpath.Toml

/-- How a table under construction came about. -/
inductive Origin where
  /-- By a header of its own. -/
  | header
  /-- On the way to the table of another header. -/
  | onTheWay
  /-- By a dotted key. -/
  | dotted
  deriving DecidableEq, Repr

/-- A value or table under construction. -/
inductive Draft where
  /-- A value, complete as it was written. -/
  | value (value : Value)
  /-- A table with its entries in order. -/
  | table (origin : Origin) (entries : List (String × Draft))
  /-- Tables with a common header, the first one first. -/
  | tables (elements : List (List (String × Draft)))

namespace Draft

/-- Entries under construction, in order. -/
abbrev Entries := List (String × Draft)

/-- Put another draft in the place of a key. -/
def replace (key : String) (draft : Draft) (entries : Entries) : Entries :=
  entries.map fun entry => if entry.1 == key then (key, draft) else entry

/-- Take a key out. -/
def erase (key : String) (entries : Entries) : Entries :=
  entries.filter fun entry => entry.1 != key

/-- Change the entries at the end of a path. A missing table on the path is made; a table of
an array is entered at its last element; a value cannot be entered, nor can a table whose
origin does not allow it. -/
def within (made : Origin) (allows : Origin → Bool)
    (change : Origin → Entries → Option Entries) :
    List String → Origin → Entries → Option Entries
  | [], origin, entries => change origin entries
  | key :: path, _, entries =>
    match entries.lookup key with
    | none => do
      let inner ← within made allows change path made []
      return entries ++ [(key, .table made inner)]
    | some (.value _) => none
    | some (.table origin inner) =>
      if allows origin then do
        let inner ← within made allows change path origin inner
        return replace key (.table origin inner) entries
      else none
    | some (.tables elements) =>
      match elements.getLast? with
      | none => none
      | some inner => do
        let inner ← within made allows change path .header inner
        return replace key (.tables (elements.dropLast ++ [inner])) entries

/-- Put a value at the end of a dotted key. Tables with a header of their own are closed to
dotted keys, and a table that ends a dotted path has to be the work of dotted keys. -/
def assign (path : List String) (key : String) (value : Value) (entries : Entries) :
    Option Entries :=
  within .dotted (· != .header)
    (fun origin entries =>
      if (origin == .dotted) == path.isEmpty then none
      else if (entries.lookup key).isSome then none
      else some (entries ++ [(key, .value value)]))
    path .header entries

/-- One key with its value: the path of its tables, the last key, and the value. -/
structure Assignment where
  /-- Keys of the tables that lead to the value. -/
  path : List String
  /-- Key of the value. -/
  key : String
  /-- The value. -/
  value : Value

/-- Put values in, one after the other. -/
def assignAll (assignments : List Assignment) (entries : Entries) : Option Entries :=
  assignments.foldlM (fun entries a => assign a.path a.key a.value entries) entries

/-- Change the entries of the table that holds the table of a header. -/
def inParent (path : List String) (change : Entries → Option Entries) (entries : Entries) :
    Option Entries :=
  within .onTheWay (fun _ => true) (fun _ => change) path .header entries

/-- Add the section of a table. A table made on the way here keeps its entries and moves
behind the others. -/
def addTable (path : List String) (key : String) (assignments : List Assignment)
    (entries : Entries) : Option Entries :=
  inParent path (fun entries =>
    match entries.lookup key with
    | none => do return entries ++ [(key, .table .header (← assignAll assignments []))]
    | some (.table .onTheWay inner) => do
      return erase key entries ++ [(key, .table .header (← assignAll assignments inner))]
    | some _ => none) entries

/-- Add the section of one more table of an array. -/
def addElement (path : List String) (key : String) (assignments : List Assignment)
    (entries : Entries) : Option Entries :=
  inParent path (fun entries =>
    match entries.lookup key with
    | none => do return entries ++ [(key, .tables [← assignAll assignments []])]
    | some (.tables elements) => do
      return replace key (.tables (elements ++ [← assignAll assignments []])) entries
    | some _ => none) entries

mutual

/-- The finished value of a draft. -/
def finish : Draft → Value
  | .value final => final
  | .table _ entries => .table (finishEntries entries)
  | .tables elements => .array (finishElements elements) true

/-- The finished entries of a table. -/
def finishEntries : List (String × Draft) → List (String × Value)
  | [] => []
  | (key, draft) :: rest => (key, finish draft) :: finishEntries rest

/-- The finished tables of an array. -/
def finishElements : List (List (String × Draft)) → List Value
  | [] => []
  | entries :: rest => .table (finishEntries entries) :: finishElements rest

end

end Draft

end Toolpath.Toml
