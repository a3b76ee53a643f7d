/-! UTF-8.  `scan` reads bytes one at a time and yields the characters they encode, with a gap for
each stretch of bytes that can start no character.  `decode?` reads text without gaps; `restore`
puts the replacement character into each gap. -/

namespace Fieldbus.Utf8

/-- A character of which `left` bytes are missing; the next of them lies in `low` to `high`. -/
structure Partial where
  left : Nat
  value : Nat
  low : UInt8 := 0x80
  high : UInt8 := 0xbf

/-- What a byte starts that continues no character. -/
inductive Lead where
  | char (c : Char)
  | opening (p : Partial)
  | stray

/-- The role of a first byte: no overlong form, no surrogate and nothing past the last character
can be started. -/
def lead (b : UInt8) : Lead :=
  if b < 0x80 then .char (Char.ofNat b.toNat)
  else if b < 0xc2 then .stray
  else if b < 0xe0 then .opening { left := 1, value := b.toNat % 0x20 }
  else if b = 0xe0 then .opening { left := 2, value := 0, low := 0xa0 }
  else if b = 0xed then .opening { left := 2, value := 0x0d, high := 0x9f }
  else if b < 0xf0 then .opening { left := 2, value := b.toNat % 0x10 }
  else if b = 0xf0 then .opening { left := 3, value := 0, low := 0x90 }
  else if b < 0xf4 then .opening { left := 3, value := b.toNat % 0x08 }
  else if b = 0xf4 then .opening { left := 3, value := 4, high := 0x8f }
  else .stray

/-- The characters of `bytes` after the beginning of one, if `pending` holds one. -/
def scan (pending : Option Partial) : List UInt8 → List (Option Char)
  | [] => if pending.isSome then [none] else []
  | b :: rest =>
    match pending with
    | some p =>
      if p.low ≤ b ∧ b ≤ p.high then
        let value := p.value * 0x40 + b.toNat % 0x40
        if p.left ≤ 1 then some (Char.ofNat value) :: scan none rest
        else scan (some { left := p.left - 1, value }) rest
      else
        none :: (match lead b with
          | .char c => some c :: scan none rest
          | .opening q => scan (some q) rest
          | .stray => none :: scan none rest)
    | none =>
      match lead b with
      | .char c => some c :: scan none rest
      | .opening q => scan (some q) rest
      | .stray => none :: scan none rest

/-- The list without its gaps, if it has none. -/
def allSome {α : Type} : List (Option α) → Option (List α)
  | [] => some []
  | none :: _ => none
  | some a :: rest => (allSome rest).map (a :: ·)

def decode? (bytes : List UInt8) : Option (List Char) := allSome (scan none bytes)

/-- Decodes any bytes, with U+FFFD in each gap. -/
def restore (bytes : List UInt8) : String :=
  String.ofList ((scan none bytes).map (·.getD '\uFFFD'))

def encode (s : String) : List UInt8 := s.toUTF8.toList

end Fieldbus.Utf8
