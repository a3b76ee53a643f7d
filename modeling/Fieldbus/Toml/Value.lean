/-! TOML values, and the rules by which lines put values into a document.  A table may be written in
several ways, and what may be added to it later depends on how it came about. -/

namespace Fieldbus.Toml

/-- How a table came about. -/
inductive Form where
  /-- Written between braces, or as part of such a table: complete. -/
  | inline
  /-- Under a header of its own. -/
  | header
  /-- As a part of the header of another table. -/
  | implicit
  /-- As a part of a dotted key. -/
  | dotted
deriving DecidableEq, Inhabited

/-- A value.  Numbers with fractions, dates and times are told apart from the others only. -/
inductive Value where
  | string (s : String)
  | integer (n : Int)
  | float
  | boolean (b : Bool)
  | dateTime
  | array (items : List Value)
  | table (form : Form) (entries : List (String × Value))
  /-- Tables under headers in double brackets, at least one. -/
  | tables (items : List (List (String × Value)))
deriving Inhabited

abbrev Entries := List (String × Value)

namespace Entries

def find? (entries : Entries) (key : String) : Option Value := entries.lookup key

def put (key : String) (value : Value) : Entries → Entries
  | [] => [(key, value)]
  | (k, old) :: rest => if k = key then (k, value) :: rest else (k, old) :: put key value rest

/-- Changes the table at a path.  Missing tables are made, in the form `made`; of arrays of tables
the last one is meant; a dotted key does not reach into a table with a header. -/
def changeAt (made : Form) (change : Form → Entries → Option Entries) :
    List String → Form → Entries → Option Entries
  | [], form, entries => change form entries
  | key :: path, _, entries =>
    match entries.find? key with
    | none => (changeAt made change path made []).map fun es => put key (.table made es) entries
    | some (.table form es) =>
      if form = .inline then none
      else if made = .dotted && form = .header then none
      else (changeAt made change path form es).map fun es => put key (.table form es) entries
    | some (.tables items) =>
      (changeAt made change path .header (items.getLastD [])).map fun es =>
        put key (.tables (items.dropLast ++ [es])) entries
    | some _ => none

/-- Adds a value under the last part of a key, in the table of the parts before it.  That table must
have come about by dotted keys, unless there are no parts before. -/
def add (path : List String) (key : String) (value : Value) (entries : Entries) :
    Option Entries :=
  changeAt .dotted (fun form es =>
    if form ≠ .dotted && !path.isEmpty then none
    else if (es.find? key).isSome then none
    else some (put key value es)) path .header entries

/-- Opens the table under a header.  It may have come about as a part of other headers. -/
def openTable (path : List String) (key : String) (root : Entries) : Option Entries :=
  changeAt .implicit (fun _ es =>
    match es.find? key with
    | none => some (put key (.table .header []) es)
    | some (.table .implicit inner) => some (put key (.table .header inner) es)
    | some _ => none) path .header root

/-- Opens one more table under a header in double brackets. -/
def openNext (path : List String) (key : String) (root : Entries) : Option Entries :=
  changeAt .implicit (fun _ es =>
    match es.find? key with
    | none => some (put key (.tables [[]]) es)
    | some (.tables items) => some (put key (.tables (items ++ [[]])) es)
    | some _ => none) path .header root

end Entries
end Fieldbus.Toml
