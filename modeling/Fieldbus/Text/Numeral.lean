/-! Unsigned numerals.  `read?` accepts an optional plus sign and one or more digits of a base, and
only values below a limit.  Numerals are written without sign and without leading zeros, or padded
to a width. -/

namespace Fieldbus.Numeral

/-- The value of a digit of `base`; the letters of either case follow the ten figures. -/
def digit? (base : Nat) (c : Char) : Option Nat :=
  let value :=
    if '0' ≤ c ∧ c ≤ '9' then c.toNat - '0'.toNat
    else if 'a' ≤ c ∧ c ≤ 'z' then c.toNat - 'a'.toNat + 10
    else if 'A' ≤ c ∧ c ≤ 'Z' then c.toNat - 'A'.toNat + 10
    else base
  if value < base then some value else none

/-- The value of a run of digits that follows digits worth `acc`. -/
def digits? (base acc : Nat) : List Char → Option Nat
  | [] => some acc
  | c :: cs =>
    match digit? base c with
    | some d => digits? base (acc * base + d) cs
    | none => none

/-- The digits of a numeral, without its plus sign. -/
def unsigned : List Char → List Char
  | '+' :: rest => rest
  | cs => cs

/-- Reads a whole text as a numeral of `base` with a value below `limit`. -/
def read? (base limit : Nat) (cs : List Char) : Option Nat :=
  match unsigned cs with
  | [] => none
  | c :: rest => (digits? base 0 (c :: rest)).filter (· < limit)

def decimal32? (cs : List Char) : Option Nat := read? 10 UInt32.size cs

def decimal64? (cs : List Char) : Option Nat := read? 10 UInt64.size cs

def hex32? (cs : List Char) : Option Nat := read? 16 UInt32.size cs

def hex8? (cs : List Char) : Option Nat := read? 16 UInt8.size cs

def decimal (n : Nat) : List Char := Nat.toDigits 10 n

def hex (n : Nat) : List Char := Nat.toDigits 16 n

/-- The hexadecimal numeral of a byte, always of two digits. -/
def hexByte (b : UInt8) : List Char := (hex b.toNat).leftpad 2 '0'

/-- The hexadecimal numeral of `n` with the mark `0x`, padded with zeros to `width` digits. -/
def marked (width n : Nat) : String :=
  "0x" ++ String.ofList ((hex n).leftpad width '0')

/-- The decimal numeral of `n`, padded on the left to `width` characters. -/
def aligned (width : Nat) (fill : Char) (n : Nat) : String :=
  String.ofList ((decimal n).leftpad width fill)

end Fieldbus.Numeral
