import Fieldbus.Capture.Decoder
import Fieldbus.Hub.Basic

/-! Replay of recorded traffic: the frames of a recording come in again as if they had just been
received.  Frames of buses that the hub does not have are skipped. -/

namespace Fieldbus

inductive ReplayError where
  | unknownFormat (error : Capture.UnknownFormat)
  | cannotOpen (path : String)
  | cannotRead (reason : FileError)
deriving DecidableEq

def ReplayError.message : ReplayError → String
  | unknownFormat error => error.message
  | cannotOpen path => s!"Could not open capture {path}"
  | cannotRead reason => s!"IO Error: {reason.message}"

structure Replayed where
  injected : Nat := 0
  skipped : Nat := 0
deriving DecidableEq, Inhabited

namespace Hub

variable {δ : Type}

def replayFound (h : Hub δ) (r : Replayed) : List Capture.Found → Replayed × Hub δ
  | [] => (r, h)
  | .refused refusal :: rest =>
    (h.sayAll (Notice.ofRefusals [refusal])).replayFound r rest
  | .message m _ :: rest =>
    match m.entry.frame? with
    | none => h.replayFound r rest
    | some f =>
      if (h.busOf? f).isSome then
        (h.incoming f).replayFound { r with injected := r.injected + 1 } rest
      else h.replayFound { r with skipped := r.skipped + 1 } rest

/-- Replays a recording; the number of frames that came in. -/
def replay (h : Hub δ) (format : Capture.Format) (bytes : List UInt8) : Nat × Hub δ :=
  let (r, h) := h.replayFound {} ((Capture.Decoder.new format).readLast bytes).found
  (r.injected, if r.skipped = 0 then h else h.say (.replaySkipped r.skipped))

def replayFile (h : Hub δ) (path : String) (format : Capture.Format) :
    Except ReplayError Nat × Hub δ :=
  match h.outlet.files.read path with
  | .error .isDirectory => (.error (.cannotRead .isDirectory), h)
  | .error _ => (.error (.cannotOpen path), h)
  | .ok bytes =>
    let (injected, h) := h.replay format bytes
    (.ok injected, h.say (.replayed injected path))

end Hub
end Fieldbus
