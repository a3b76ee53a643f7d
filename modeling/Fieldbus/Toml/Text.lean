import Fieldbus.Text.Numeral

/-! The texts of TOML: blanks, comments, strings and keys.  Readers take what they read from the
front of a list of characters and yield the rest, or fail. -/

namespace Fieldbus.Toml

abbrev Reader (α : Type) := List Char → Option (α × List Char)

def isSpace (c : Char) : Bool := c = ' ' || c = '\t'

def skipSpaces (cs : List Char) : List Char := cs.dropWhile isSpace

/-- Whether a character may stand for itself in comments and strings. -/
def isPlain (c : Char) : Bool := c = '\t' || (' ' ≤ c && c ≠ '\x7f')

def afterNewline? : List Char → Option (List Char)
  | '\n' :: rest => some rest
  | '\r' :: '\n' :: rest => some rest
  | _ => none

def skipComment : List Char → List Char
  | '#' :: rest => rest.dropWhile isPlain
  | cs => cs

/-- The rest after the end of a line, with blanks and a comment before it. -/
def afterLine? (cs : List Char) : Option (List Char) :=
  match skipComment (skipSpaces cs) with
  | [] => some []
  | rest => afterNewline? rest

/-- The rest after blanks, line ends and comments, as between the items of an array. -/
def skipGaps : Nat → List Char → List Char
  | 0, cs => cs
  | n + 1, cs =>
    let rest := skipComment (skipSpaces cs)
    match afterNewline? rest with
    | some rest => skipGaps n rest
    | none => rest

/-- The rest after blanks and line ends. -/
def skipLineEnds : Nat → List Char → List Char
  | 0, cs => cs
  | n + 1, cs =>
    let rest := skipSpaces cs
    match afterNewline? rest with
    | some rest => skipLineEnds n rest
    | none => rest

/-- The character with a number of exactly `n` hexadecimal digits. -/
def numbered (n : Nat) : Reader Char := fun cs =>
  let digits := cs.take n
  if digits.length < n then none
  else
    match Numeral.digits? 16 0 digits with
    | some v => if v.isValidChar then some (Char.ofNat v, cs.drop n) else none
    | none => none

/-- The character that an escape stands for, after its backslash. -/
def escaped : Reader Char
  | 'b' :: rest => some ('\x08', rest)
  | 't' :: rest => some ('\t', rest)
  | 'n' :: rest => some ('\n', rest)
  | 'f' :: rest => some ('\x0c', rest)
  | 'r' :: rest => some ('\r', rest)
  | '"' :: rest => some ('"', rest)
  | '\\' :: rest => some ('\\', rest)
  | 'u' :: rest => numbered 4 rest
  | 'U' :: rest => numbered 8 rest
  | _ => none

def singleQuote : Char := '\x27'

/-- A string on one line, after its opening double quote. -/
def basicString : Nat → List Char → Reader (List Char)
  | 0, _, _ => none
  | n + 1, acc, cs =>
    match cs with
    | '"' :: rest => some (acc.reverse, rest)
    | '\\' :: rest =>
      match escaped rest with
      | some (c, rest) => basicString n (c :: acc) rest
      | none => none
    | c :: rest => if isPlain c then basicString n (c :: acc) rest else none
    | [] => none

/-- A string without escapes on one line, after its opening single quote. -/
def literalString (cs : List Char) : Option (List Char × List Char) :=
  match cs.span fun c => isPlain c && c ≠ singleQuote with
  | (s, q :: rest) => if q = singleQuote then some (s, rest) else none
  | (_, []) => none

/-- The quotes at the end of a string of several lines: three close it, and one or two before them
belong to it. -/
def closing (quote : Char) (cs : List Char) : Option (List Char × List Char) :=
  let quotes := cs.takeWhile (· = quote)
  let rest := cs.dropWhile (· = quote)
  let n := quotes.length
  if n < 3 then none
  else
    let kept := min (n - 3) 2
    some (List.replicate kept quote, List.replicate (n - 3 - kept) quote ++ rest)

/-- A string of several lines, after its opening quotes.  Line ends count as line feeds; with
escapes, a backslash before a line end removes the blanks up to the next text. -/
def longString (quote : Char) (escapes : Bool) : Nat → List Char → Reader (List Char)
  | 0, _, _ => none
  | n + 1, acc, cs =>
    match closing quote cs with
    | some (kept, rest) => some (acc.reverse ++ kept, rest)
    | none =>
      match afterNewline? cs with
      | some rest => longString quote escapes n ('\n' :: acc) rest
      | none =>
        match cs with
        | [] => none
        | c :: rest =>
          if escapes && c = '\\' then
            match afterNewline? (skipSpaces rest) with
            | some rest => longString quote escapes n acc (skipLineEnds rest.length rest)
            | none =>
              match escaped rest with
              | some (c, rest) => longString quote escapes n (c :: acc) rest
              | none => none
          else if isPlain c then longString quote escapes n (c :: acc) rest
          else none

/-- Any string, from its opening quote on.  A line end right after three quotes does not count. -/
def string (cs : List Char) : Option (String × List Char) :=
  let long (quote : Char) (escapes : Bool) (rest : List Char) :=
    longString quote escapes (rest.length + 1) [] ((afterNewline? rest).getD rest)
  let result :=
    match cs with
    | '"' :: '"' :: '"' :: rest => long '"' true rest
    | '"' :: rest => basicString (rest.length + 1) [] rest
    | a :: b :: c :: rest =>
      if a = singleQuote && b = singleQuote && c = singleQuote then long singleQuote false rest
      else if a = singleQuote then literalString (b :: c :: rest)
      else none
    | a :: rest => if a = singleQuote then literalString rest else none
    | [] => none
  result.map fun (s, rest) => (String.ofList s, rest)

/-- Letters, figures, underscores and dashes make keys without quotes. -/
def isBare (c : Char) : Bool := c.isAlphanum || c = '_' || c = '-'

def simpleKey (cs : List Char) : Option (String × List Char) :=
  match cs with
  | '"' :: rest =>
    (basicString (rest.length + 1) [] rest).map fun (s, rest) => (String.ofList s, rest)
  | c :: rest =>
    if c = singleQuote then (literalString rest).map fun (s, rest) => (String.ofList s, rest)
    else
      match (c :: rest).span isBare with
      | ([], _) => none
      | (s, rest) => some (String.ofList s, rest)
  | [] => none

/-- A key: parts with dots between them. -/
def key : Nat → Reader (List String)
  | 0, _ => none
  | n + 1, cs =>
    match simpleKey (skipSpaces cs) with
    | none => none
    | some (part, rest) =>
      match skipSpaces rest with
      | '.' :: rest => (key n rest).map fun (parts, rest) => (part :: parts, rest)
      | rest => some ([part], rest)

end Fieldbus.Toml
