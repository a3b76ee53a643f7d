import Fieldbus.Text.Numeral
import Fieldbus.Text.Unprintable

/-! Quoted text, as names and other foreign strings are shown in messages: between double quotes,
with a backslash before quotes and backslashes, short names for the common controls, and the
hexadecimal number of every other unprintable character. -/

namespace Fieldbus.Text

/-- One character inside quotes. -/
def escape (c : Char) : List Char :=
  if c = '"' then ['\\', '"']
  else if c = '\\' then ['\\', '\\']
  else if c = '\n' then ['\\', 'n']
  else if c = '\r' then ['\\', 'r']
  else if c = '\t' then ['\\', 't']
  else if c.toNat = 0 then ['\\', '0']
  else if isUnprintable c then ['\\', 'u', '\x7b'] ++ Numeral.hex c.toNat ++ ['\x7d']
  else [c]

def quoted (s : String) : String :=
  String.ofList ('"' :: s.toList.flatMap escape ++ ['"'])

end Fieldbus.Text
