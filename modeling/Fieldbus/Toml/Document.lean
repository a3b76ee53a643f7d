import Fieldbus.Toml.Number
import Fieldbus.Toml.Value

/-! TOML documents.  `parse` reads a whole document into the entries of its outermost table. -/

namespace Fieldbus.Toml

/-- Arrays, inline tables and keys have fewer levels than this. -/
def maxDepth : Nat := 80

/-- A key of fewer than `maxDepth` parts, as the parts before the last and the last. -/
def splitKey (cs : List Char) : Option ((List String × String) × List Char) :=
  match key (cs.length + 1) cs with
  | some (parts, rest) =>
    match parts.getLast? with
    | some last => if parts.length < maxDepth then some ((parts.dropLast, last), rest) else none
    | none => none
  | none => none

/-- The items of an array after its opening bracket; the last comma may be followed by none. -/
def items (item : Reader Value) : Nat → Reader (List Value)
  | 0, _ => none
  | n + 1, cs =>
    match skipGaps cs.length cs with
    | ']' :: rest => some ([], rest)
    | cs =>
      match item cs with
      | none => none
      | some (v, rest) =>
        match skipGaps rest.length rest with
        | ',' :: rest => (items item n rest).map fun (vs, rest) => (v :: vs, rest)
        | ']' :: rest => some ([v], rest)
        | _ => none

def pairs (item : Reader Value) : Nat → Entries → Reader Entries
  | 0, _, _ => none
  | n + 1, entries, cs =>
    match splitKey cs with
    | some ((path, last), rest) =>
      match skipSpaces rest with
      | '=' :: rest =>
        match item (skipSpaces rest) with
        | none => none
        | some (v, rest) =>
          match entries.add path last v with
          | none => none
          | some entries =>
            match skipSpaces rest with
            | ',' :: rest => pairs item n entries rest
            | '}' :: rest => some (entries, rest)
            | _ => none
      | _ => none
    | none => none

/-- An inline table after its opening brace. -/
def inlineTable (item : Reader Value) (cs : List Char) : Option (Value × List Char) :=
  match skipSpaces cs with
  | '}' :: rest => some (.table .inline [], rest)
  | rest => (pairs item (rest.length + 1) [] rest).map fun (es, rest) => (.table .inline es, rest)

/-- A value with fewer than `depth` levels of arrays and inline tables. -/
def value : Nat → Reader Value
  | 0, _ => none
  | depth + 1, cs =>
    match cs with
    | '[' :: rest =>
      if depth = 0 then none
      else (items (value depth) (rest.length + 1) rest).map fun (vs, rest) => (.array vs, rest)
    | '{' :: rest => if depth = 0 then none else inlineTable (value depth) rest
    | c :: rest =>
      if c = '"' || c = singleQuote then
        (string (c :: rest)).map fun (s, rest) => (.string s, rest)
      else word (c :: rest)
    | [] => none

/-- A document being read: its entries, and where the next keys belong. -/
structure Document where
  root : Entries := []
  path : List String := []

namespace Document

/-- A key and its value belong to the table of the last header. -/
def add (d : Document) (path : List String) (last : String) (v : Value) : Option Document :=
  (Entries.changeAt .implicit (fun _ es => es.add path last v) d.path .header d.root).map
    fun root => { d with root }

/-- One line: a header, a key with its value, or nothing; and a comment. -/
def line (d : Document) (cs : List Char) : Option (Document × List Char) :=
  match skipSpaces cs with
  | [] => some (d, [])
  | '[' :: '[' :: rest => do
    let ((path, last), rest) ← splitKey rest
    let ']' :: ']' :: rest := skipSpaces rest | none
    let root ← d.root.openNext path last
    let rest ← afterLine? rest
    some ({ root, path := path ++ [last] }, rest)
  | '[' :: rest => do
    let ((path, last), rest) ← splitKey rest
    let ']' :: rest := skipSpaces rest | none
    let root ← d.root.openTable path last
    let rest ← afterLine? rest
    some ({ root, path := path ++ [last] }, rest)
  | c :: rest =>
    if c = '#' || c = '\n' || c = '\r' then
      (afterLine? (c :: rest)).map fun rest => (d, rest)
    else do
      let ((path, last), rest) ← splitKey (c :: rest)
      let '=' :: rest := skipSpaces rest | none
      let (v, rest) ← value maxDepth (skipSpaces rest)
      let d ← d.add path last v
      let rest ← afterLine? rest
      some (d, rest)

def lines : Nat → Document → List Char → Option Document
  | 0, _, _ => none
  | n + 1, d, cs =>
    match d.line cs with
    | none => none
    | some (d, []) => some d
    | some (d, rest) => lines n d rest

end Document

/-- Reads a document; a mark of the byte order at its beginning does not count. -/
def parse (text : String) : Option Entries :=
  let cs := match text.toList with
    | '\uFEFF' :: rest => rest
    | cs => cs
  (Document.lines (cs.length + 1) {} cs).map Document.root

end Fieldbus.Toml
