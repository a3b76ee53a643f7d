import Fieldbus.Capture.Format

/-! Decoders of recorded traffic.  A decoder turns bytes back into messages.  It is offered bytes and
takes them up to the end of one line or record; what it holds of an unfinished one it keeps for the
next offer, so a recording may arrive in pieces of any size. -/

namespace Fieldbus.Capture

open Gvret (Fed Refusal)

inductive Decoder where
  | lines (d : Gvret.LineDecoder)
  | records (d : Gvret.RecordDecoder)
deriving DecidableEq, Inhabited

/-- The outcome of one offer of bytes: how many were taken, up to the end of a line or record, and
the message it held. -/
structure Offered where
  decoder : Decoder
  message : Option Message := none
  consumed : Nat := 0
  refusals : List Refusal := []

/-- The outcome of looking for one message among buffered bytes, with the bytes behind it. -/
structure Taken where
  decoder : Decoder
  message : Option Message := none
  left : List UInt8 := []
  refusals : List Refusal := []

inductive Found where
  /-- A message, with the number of buffered bytes after it. -/
  | message (m : Message) (left : Nat)
  | refused (r : Refusal)
deriving DecidableEq

structure Decoded where
  decoder : Decoder
  found : List Found := []
  left : List UInt8 := []

namespace Decoded

def messages (d : Decoded) : List Message :=
  d.found.filterMap fun | .message m _ => some m | .refused _ => none

def refusals (d : Decoded) : List Refusal :=
  d.found.filterMap fun | .message .. => none | .refused r => some r

end Decoded

namespace Decoder

def new : Format → Decoder
  | .lines => lines {}
  | .records => records {}

def unfinished : Decoder → List UInt8
  | lines d => d.line
  | records d => d.record

def lift {σ : Type} (wrap : σ → Decoder) (f : Fed σ) : Fed Decoder :=
  { state := wrap f.state, ended := f.ended, message := f.message, refusal := f.refusal }

def step : Decoder → UInt8 → Fed Decoder
  | lines d, b => lift lines (d.step b)
  | records d, b => lift records (d.step b)

def finish : Decoder → Fed Decoder
  | lines d => lift lines d.finish
  | records d => lift records d.finish

/-- Reads bytes up to the end of the first line or record. -/
def offer (d : Decoder) : List UInt8 → Offered
  | [] => { decoder := d }
  | b :: rest =>
    let f := d.step b
    if f.ended then
      { decoder := f.state, message := f.message, consumed := 1, refusals := f.refusal.toList }
    else
      let o := offer f.state rest
      { o with consumed := o.consumed + 1, refusals := f.refusal.toList ++ o.refusals }

/-- Offers bytes at most `n` times, until none are left; an offer of none is made once. -/
def offers (d : Decoder) (bytes : List UInt8) : Nat → List Offered
  | 0 => []
  | n + 1 =>
    let o := d.offer bytes
    let rest := bytes.drop o.consumed
    o :: if rest.isEmpty then [] else o.decoder.offers rest n

/-- Offers bytes until none are left.  Every offer but one of nothing takes a byte or more. -/
def offerAll (d : Decoder) (bytes : List UInt8) : List Offered := d.offers bytes (bytes.length + 1)

theorem consumed_offer_pos (d : Decoder) {bytes : List UInt8} (h : bytes ≠ []) :
    0 < (d.offer bytes).consumed := by
  cases bytes with
  | nil => exact absurd rfl h
  | cons b rest =>
    rw [offer]
    dsimp only
    split <;> simp

/-- Looks for the next message: offers the buffered bytes until a message is complete or none are
left. -/
def next (d : Decoder) (buffer : List UInt8) : Taken :=
  if _ : buffer = [] then { decoder := d }
  else
    let o := d.offer buffer
    let left := buffer.drop o.consumed
    if _ : o.message.isSome ∨ o.consumed = 0 then
      { decoder := o.decoder, message := o.message, left, refusals := o.refusals }
    else
      let t := o.decoder.next left
      { t with refusals := o.refusals ++ t.refusals }
termination_by buffer.length
decreasing_by
  rw [List.length_drop]
  exact Nat.sub_lt (List.length_pos_iff.mpr ‹_›) (d.consumed_offer_pos ‹_›)

theorem next_nil (d : Decoder) : d.next [] = { decoder := d } := by
  rw [next, dif_pos rfl]

/-- A message is found behind one byte or more. -/
theorem length_left_next {d : Decoder} {buffer : List UInt8} (h : (d.next buffer).message.isSome) :
    (d.next buffer).left.length < buffer.length := by
  fun_induction next d buffer with
  | case1 d => simp at h
  | case2 d buffer hb o left hn =>
    have : 0 < o.consumed := d.consumed_offer_pos hb
    have := List.length_pos_iff.mpr hb
    show (buffer.drop o.consumed).length < buffer.length
    rw [List.length_drop]
    omega
  | case3 d buffer hb o left hn t ih =>
    calc t.left.length
      _ < (buffer.drop o.consumed).length := ih h
      _ ≤ buffer.length := by rw [List.length_drop]; omega

theorem left_next {d : Decoder} {buffer : List UInt8} (h : (d.next buffer).message = none) :
    (d.next buffer).left = [] := by
  fun_induction next d buffer with
  | case1 d => rfl
  | case2 d buffer hb o left hn =>
    rcases hn with hn | hn
    · exact absurd hn (by simp [show o.message = none from h])
    · exact absurd hn (Nat.ne_of_gt (d.consumed_offer_pos hb))
  | case3 d buffer hb o left hn t ih => exact ih h

/-- Reads buffered bytes: looks for messages until there is none. -/
def read (d : Decoder) (buffer : List UInt8) : Decoded :=
  let t := d.next buffer
  let refused := t.refusals.map .refused
  match _ : t.message with
  | none => { decoder := t.decoder, found := refused, left := t.left }
  | some m =>
    let r := t.decoder.read t.left
    { r with found := refused ++ .message m t.left.length :: r.found }
termination_by buffer.length
decreasing_by exact length_left_next (Option.isSome_of_eq_some ‹_›)

/-- Looks for the next message when no more bytes come: after the buffered ones, the end of the
stream may complete one. -/
def nextLast (d : Decoder) (buffer : List UInt8) : Taken :=
  let t := d.next buffer
  if t.message.isSome then t
  else
    let f := t.decoder.finish
    { t with
      decoder := f.state, message := f.message, refusals := t.refusals ++ f.refusal.toList }

/-- A message at the end of the stream is what the decoder held of an unfinished line. -/
theorem unfinished_finish {d : Decoder} (h : d.finish.message.isSome) :
    d.finish.state.unfinished = [] ∧ d.unfinished ≠ [] := by
  cases d with
  | lines d =>
    simp only [finish, lift, Gvret.LineDecoder.finish] at h ⊢
    split at h
    · simp at h
    · next hd =>
      rw [if_neg hd]
      simp only [Bool.or_eq_true, not_or, List.isEmpty_iff] at hd
      exact ⟨by cases Gvret.Line.parse d.line <;> rfl, hd.2⟩
  | records d => simp [finish, lift, Gvret.RecordDecoder.finish] at h

theorem nextLast_decreases {d : Decoder} {buffer : List UInt8}
    (h : (d.nextLast buffer).message.isSome) :
    Prod.Lex (· < ·) (· < ·)
      ((d.nextLast buffer).left.length, (d.nextLast buffer).decoder.unfinished.length)
      (buffer.length, d.unfinished.length) := by
  rw [nextLast] at h ⊢
  dsimp only at h ⊢
  split at h
  · next hm =>
    rw [if_pos hm]
    exact .left _ _ (length_left_next hm)
  · next hm =>
    rw [if_neg hm, left_next (by simpa using hm)]
    obtain ⟨hnew, hold⟩ := unfinished_finish h
    cases buffer with
    | nil =>
      rw [next_nil] at hnew hold ⊢
      exact .right _ (by rw [hnew]; exact List.length_pos_iff.mpr hold)
    | cons b rest => exact .left _ _ (Nat.succ_pos _)

/-- Reads the last bytes of a stream: looks for messages until there is none at its end either. -/
def readLast (d : Decoder) (buffer : List UInt8) : Decoded :=
  let t := d.nextLast buffer
  let refused := t.refusals.map .refused
  match _ : t.message with
  | none => { decoder := t.decoder, found := refused, left := t.left }
  | some m =>
    let r := t.decoder.readLast t.left
    { r with found := refused ++ .message m t.left.length :: r.found }
termination_by (buffer.length, d.unfinished.length)
decreasing_by exact nextLast_decreases (Option.isSome_of_eq_some ‹_›)

/-- Reads bytes that arrive in pieces, each put behind what stayed in the buffer. -/
def readPieces (d : Decoder) (buffer : List UInt8) : List (List UInt8) → Decoded
  | [] => { decoder := d, left := buffer }
  | piece :: rest =>
    let r := d.read (buffer ++ piece)
    let s := r.decoder.readPieces r.left rest
    { s with found := r.found ++ s.found }

/-- Reads a whole stream that arrives in pieces, and its end. -/
def readStream (d : Decoder) (pieces : List (List UInt8)) : Decoded :=
  let r := d.readPieces [] pieces
  let s := r.decoder.readLast r.left
  { s with found := r.found ++ s.found }

end Decoder
end Fieldbus.Capture
