import Fieldbus.Text.Numeral

/-! Names of buses.  A bus is called by any text; names of the form `can<number>` also have a
number, which is what filters and recorded traffic identify a bus by. -/

namespace Fieldbus

structure BusName where
  text : String
deriving DecidableEq, Inhabited

namespace BusName

def numbered (n : Nat) : BusName := ⟨String.ofList ('c' :: 'a' :: 'n' :: Numeral.decimal n)⟩

/-- The number after `can`, if the rest of the name is a decimal numeral of 32 bits. -/
def number (name : BusName) : Option Nat :=
  match name.text.toList with
  | 'c' :: 'a' :: 'n' :: digits => Numeral.decimal32? digits
  | _ => none

end BusName
end Fieldbus
