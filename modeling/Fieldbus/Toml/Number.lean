import Fieldbus.Toml.Text
import Fieldbus.Toml.Value

/-! The numbers, dates and times of TOML.  They are cut off as a word first and then recognised as a
whole. -/

namespace Fieldbus.Toml

/-- Figures of a base, with single underscores between them, as their value. -/
def figures? (base : Nat) (cs : List Char) : Option Nat :=
  let rec go (acc : Nat) : List Char → Option Nat
    | [] => some acc
    | '_' :: c :: rest =>
      match Numeral.digit? base c with
      | some d => go (acc * base + d) rest
      | none => none
    | c :: rest =>
      match Numeral.digit? base c with
      | some d => go (acc * base + d) rest
      | none => none
  match cs with
  | [] => none
  | '_' :: _ => none
  | cs => go 0 cs

/-- A decimal number without sign and without superfluous zeros. -/
def natural? : List Char → Option Nat
  | ['0'] => some 0
  | '0' :: _ => none
  | cs => figures? 10 cs

def signed : List Char → Bool × List Char
  | '-' :: rest => (true, rest)
  | '+' :: rest => (false, rest)
  | cs => (false, cs)

def integer? (cs : List Char) : Option Int :=
  let value : Option Int :=
    match cs with
    | '0' :: 'x' :: rest => (figures? 16 rest).map Int.ofNat
    | '0' :: 'o' :: rest => (figures? 8 rest).map Int.ofNat
    | '0' :: 'b' :: rest => (figures? 2 rest).map Int.ofNat
    | cs =>
      let (negative, body) := signed cs
      (natural? body).map fun n => if negative then -Int.ofNat n else Int.ofNat n
  value.filter fun n => -0x8000000000000000 ≤ n ∧ n < 0x8000000000000000

/-- Whether `m * 10 ^ e` rounds to infinity as a number of double precision. -/
def overflows (m : Nat) (e : Int) : Bool :=
  let size := (Numeral.decimal m).length + e
  if m = 0 || size < 300 then false
  else if 320 < size then true
  else
    let bound := Nat.pow 2 1024 - Nat.pow 2 970
    if 0 ≤ e then bound ≤ m * Nat.pow 10 e.toNat else bound * Nat.pow 10 (-e).toNat ≤ m

/-- Whether a word is a number with a fraction or an exponent, and not too large. -/
def isFloat (cs : List Char) : Bool :=
  let (negative, body) := signed cs
  if body = ['i', 'n', 'f'] || body = ['n', 'a', 'n'] then true
  else
    let mantissa := body.takeWhile fun c => c ≠ 'e' && c ≠ 'E'
    let exponent := body.drop mantissa.length
    let whole := mantissa.takeWhile (· ≠ '.')
    let fraction := mantissa.drop whole.length
    let fractionValue? :=
      match fraction with
      | [] => if exponent.isEmpty then none else some (0, 0)
      | _ :: digits => (figures? 10 digits).map fun v =>
        (v, (digits.filter (· ≠ '_')).length)
    let exponentValue? : Option Int :=
      match exponent with
      | [] => some 0
      | _ :: rest =>
        let (negative, digits) := signed rest
        (figures? 10 digits).map fun n => if negative then -Int.ofNat n else Int.ofNat n
    match natural? whole, fractionValue?, exponentValue? with
    | some w, some (f, places), some e =>
      negative || !overflows (w * Nat.pow 10 places + f) (e - places)
    | _, _, _ => false

/-- The value of exactly `n` figures at the front, and the rest. -/
def fixed? (n : Nat) (cs : List Char) : Option (Nat × List Char) :=
  let digits := cs.take n
  if digits.length < n then none
  else (Numeral.digits? 10 0 digits).map fun v => (v, cs.drop n)

def daysOf (year month : Nat) : Nat :=
  if month = 2 then if year % 4 = 0 && (year % 100 ≠ 0 || year % 400 = 0) then 29 else 28
  else if month = 4 || month = 6 || month = 9 || month = 11 then 30 else 31

def afterDate? (cs : List Char) : Option (List Char) := do
  let (year, rest) ← fixed? 4 cs
  let '-' :: rest := rest | none
  let (month, rest) ← fixed? 2 rest
  let '-' :: rest := rest | none
  let (day, rest) ← fixed? 2 rest
  if 1 ≤ month ∧ month ≤ 12 ∧ 1 ≤ day ∧ day ≤ daysOf year month then some rest else none

def afterTime? (cs : List Char) : Option (List Char) := do
  let (hour, rest) ← fixed? 2 cs
  let ':' :: rest := rest | none
  let (minute, rest) ← fixed? 2 rest
  let ':' :: rest := rest | none
  let (second, rest) ← fixed? 2 rest
  if 23 < hour ∨ 59 < minute ∨ 60 < second then none
  match rest with
  | '.' :: c :: rest => if c.isDigit then some (rest.dropWhile Char.isDigit) else none
  | '.' :: [] => none
  | rest => some rest

/-- Whether the rest of a word is an offset from universal time, or nothing. -/
def isOffset : List Char → Bool
  | [] => true
  | ['Z'] => true
  | ['z'] => true
  | sign :: rest =>
    (sign = '+' || sign = '-') &&
    match fixed? 2 rest with
    | some (hours, ':' :: rest) =>
      match fixed? 2 rest with
      | some (minutes, []) => hours ≤ 23 && minutes ≤ 59
      | _ => false
    | _ => false

/-- Whether a word is a time of day, and possibly an offset. -/
def isTime (offset : Bool) (cs : List Char) : Bool :=
  match afterTime? cs with
  | some rest => if offset then isOffset rest else rest.isEmpty
  | none => false

/-- Whether a character can be part of a number, a date or a time. -/
def isWordChar (c : Char) : Bool :=
  c.isAlphanum || c = '+' || c = '-' || c = '_' || c = '.' || c = ':'

/-- A date, a time, or both with a letter or a space between them. -/
def dateTime? (word rest : List Char) : Option (List Char) :=
  match afterDate? word with
  | some [] =>
    match rest with
    | ' ' :: next =>
      match next.span isWordChar with
      | (time, after) => if isTime true time then some after else some rest
    | _ => some rest
  | some (sep :: time) => if (sep = 'T' || sep = 't') && isTime true time then some rest else none
  | none => if isTime false word then some rest else none

def word (cs : List Char) : Option (Value × List Char) :=
  match cs.span isWordChar with
  | (w, rest) =>
    if w = ['t', 'r', 'u', 'e'] then some (.boolean true, rest)
    else if w = ['f', 'a', 'l', 's', 'e'] then some (.boolean false, rest)
    else
      match integer? w with
      | some n => some (.integer n, rest)
      | none =>
        if isFloat w then some (.float, rest)
        else (dateTime? w rest).map fun rest => (.dateTime, rest)

end Fieldbus.Toml
