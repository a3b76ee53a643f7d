import Fieldbus.Message
import Fieldbus.Text.Quoted

/-! What the two GVRET recordings have in common.  They hold traffic only, as frames with a time
and a bus digit, which counts buses from zero; a frame read back is one that was received. -/

namespace Fieldbus.Gvret

/-- The digit of a bus: one less than its number, and zero for a bus without number. -/
def busDigit (origin : Option BusName) : Nat :=
  ((origin.bind BusName.number).map (· - 1)).getD 0

/-- The bus of a digit, if its number still has 32 bits. -/
def busOfDigit? (digit : Nat) : Option BusName :=
  if digit + 1 < UInt32.size then some (BusName.numbered (digit + 1)) else none

inductive Refusal where
  | malformed
  | frameType (field : String)
  | lineLength (length : Nat)
  | overlong
  | recordLength (length : Nat)
  | frame (error : FrameError)
deriving DecidableEq

namespace Refusal

/-- The remark on a refusal; nothing is said about lines that are no records at all. -/
def message? : Refusal → Option String
  | malformed => none
  | frameType field =>
    let field := Text.quoted field
    some s!"Discarding GVRET line with frame type {field}"
  | lineLength length => some s!"Discarding GVRET line with length {length}"
  | overlong => some "Discarding overlong GVRET line"
  | recordLength length => some s!"Discarding GVRET record with length {length}"
  | frame error =>
    let error := error.message
    some s!"Discarding GVRET record: {error}"

end Refusal

def received (bus : BusName) (micros : UInt64) (format : FrameFormat) (id : UInt32)
    (data : List UInt8) : Except Refusal Message :=
  match Frame.make (some bus) id format data with
  | .ok frame => .ok ⟨some bus, .ofMicros micros, .frame .received frame⟩
  | .error e => .error (.frame e)

/-- What one byte does to a decoder in state `σ`. -/
structure Fed (σ : Type) where
  state : σ
  /-- Whether the byte was the last of a line or record. -/
  ended : Bool := false
  message : Option Message := none
  refusal : Option Refusal := none

/-- The byte ended a line or record that was read with this result. -/
def Fed.ending {σ : Type} (state : σ) : Except Refusal Message → Fed σ
  | .ok m => { state, ended := true, message := some m }
  | .error r => { state, ended := true, refusal := some r }

end Fieldbus.Gvret
