/-! The files of one directory.  There are no directories below it, so a path names a file of the
directory, the directory itself, or nothing.  A file elsewhere may be known by its whole path. -/

namespace Fieldbus

inductive FileError where
  | notFound
  | isDirectory
  | notADirectory
deriving DecidableEq, Inhabited

namespace FileError

def message : FileError → String
  | notFound => "No such file or directory (os error 2)"
  | isDirectory => "Is a directory (os error 21)"
  | notADirectory => "Not a directory (os error 20)"

end FileError

/-- Files by name, each with its bytes. -/
structure Files where
  entries : List (String × List UInt8) := []
deriving DecidableEq, Inhabited

namespace Files

def get? (files : Files) (name : String) : Option (List UInt8) := files.entries.lookup name

def putEntry (name : String) (bytes : List UInt8) :
    List (String × List UInt8) → List (String × List UInt8)
  | [] => [(name, bytes)]
  | (n, old) :: rest =>
    if n = name then (n, bytes) :: rest else (n, old) :: putEntry name bytes rest

def put (files : Files) (name : String) (bytes : List UInt8) : Files :=
  ⟨putEntry name bytes files.entries⟩

/-- The parts of a path between slashes; single dots stay where they are. -/
def parts (path : String) : List String :=
  (path.splitOn "/").filter fun part => part ≠ "" ∧ part ≠ "."

/-- The name of the file that a path leads to.  It is the last part of the path, so nothing follows
it, not even a slash. -/
def resolve (files : Files) (path : String) : Except FileError String :=
  if (files.get? path).isSome then .ok path
  else if path = "" then .error .notFound
  else
    match parts path with
    | [] => .error .isDirectory
    | name :: rest =>
      if path.startsWith "/" then .error .notFound
      else if name = ".." ∧ rest = [] then .error .isDirectory
      else if rest = [] ∧ path.endsWith name then .ok name
      else .error (if (files.get? name).isSome then .notADirectory else .notFound)

def read (files : Files) (path : String) : Except FileError (List UInt8) := do
  match files.get? (← files.resolve path) with
  | some bytes => .ok bytes
  | none => .error .notFound

/-- Opens the file at a path for appending, making it if it is missing.  A slash at the end asks for
a directory. -/
def openAppend (files : Files) (path : String) : Except FileError Files := do
  if (parts path).length = 1 ∧ path.endsWith "/" ∧ !path.startsWith "/" then throw .isDirectory
  let name ← files.resolve path
  return files.put name ((files.get? name).getD [])

def append (files : Files) (path : String) (bytes : List UInt8) : Files :=
  match files.resolve path with
  | .ok name => files.put name ((files.get? name).getD [] ++ bytes)
  | .error _ => files

end Files
end Fieldbus
