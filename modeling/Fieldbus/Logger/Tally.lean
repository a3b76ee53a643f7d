/-! What a logger has done with the messages it was handed while open. -/

namespace Fieldbus.Logger

/-- Counts of messages since the logger was made. -/
structure Tally where
  recorded : UInt32 := 0
  filtered : UInt32 := 0
  /-- Messages that were admitted but could not be written. -/
  dropped : UInt32 := 0
deriving DecidableEq, Inhabited

def Tally.text (t : Tally) : String :=
  s!"{t.recorded} messages logged, {t.filtered} filtered, {t.dropped} dropped"

end Fieldbus.Logger
