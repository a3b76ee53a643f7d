import Fieldbus.Proofs.Capture.Bytewise

/-! Calls of a decoder, in any order: bytes are offered to it, and it is told that there are no
more.  An offer takes bytes up to one that ends a line or record, and what it comes to is what that
byte does to the decoder behind the bytes before it (`offer_split`).  So whatever single bytes and
the end of a stream preserve holds after all calls (`after_induct`). -/

namespace Fieldbus.Capture.Decoder

inductive Call where
  | offer (bytes : List UInt8)
  | finish
deriving DecidableEq

def call (d : Decoder) : Call → Offered
  | .offer bytes => d.offer bytes
  | .finish =>
    let f := d.finish
    { decoder := f.state, message := f.message, refusals := f.refusal.toList }

def after (d : Decoder) (calls : List Call) : Decoder :=
  calls.foldl (fun d c => (d.call c).decoder) d

/-- The messages that calls yield. -/
def yielded (d : Decoder) : List Call → List Message
  | [] => []
  | c :: rest => (d.call c).message.toList ++ (d.call c).decoder.yielded rest

def format : Decoder → Format
  | lines _ => .lines
  | records _ => .records

@[simp] theorem format_new (format : Format) : (new format).format = format := by
  cases format <;> rfl

@[simp] theorem format_step (d : Decoder) (b : UInt8) : (d.step b).state.format = d.format := by
  cases d <;> rfl

@[simp] theorem format_finish (d : Decoder) : d.finish.state.format = d.format := by
  cases d <;> rfl

theorem offer_cons_of_ended {d : Decoder} {b : UInt8} (h : (d.step b).ended = true)
    (rest : List UInt8) :
    d.offer (b :: rest) =
      { decoder := (d.step b).state, message := (d.step b).message, consumed := 1,
        refusals := (d.step b).refusal.toList } := by
  rw [offer, if_pos h]

theorem offer_cons_of_not_ended {d : Decoder} {b : UInt8} (h : (d.step b).ended = false)
    (rest : List UInt8) :
    d.offer (b :: rest) =
      let o := (d.step b).state.offer rest
      { o with
        consumed := o.consumed + 1, refusals := (d.step b).refusal.toList ++ o.refusals } := by
  rw [offer, if_neg (by simp [h])]

/-- An offer reads bytes up to one that ends a line or record, or all of them. -/
theorem offer_split (d : Decoder) {bytes : List UInt8} (h : bytes ≠ []) :
    ∃ before b rest, bytes = before ++ b :: rest ∧
      (d.offer bytes).consumed = before.length + 1 ∧
      (d.offer bytes).decoder = ((d.scan before).decoder.step b).state ∧
      (d.offer bytes).message = ((d.scan before).decoder.step b).message ∧
      (rest ≠ [] → ((d.scan before).decoder.step b).ended = true) := by
  induction bytes generalizing d with
  | nil => exact absurd rfl h
  | cons b bytes ih =>
    cases hended : (d.step b).ended with
    | true =>
      rw [offer_cons_of_ended hended]
      exact ⟨[], b, bytes, rfl, rfl, rfl, rfl, fun _ => hended⟩
    | false =>
      rw [offer_cons_of_not_ended hended]
      by_cases hbytes : bytes = []
      · subst hbytes
        exact ⟨[], b, [], rfl, rfl, rfl, (proper_step d b hended).symm, absurd rfl⟩
      · obtain ⟨before, c, rest, hsplit, hconsumed, hrest⟩ := ih (d.step b).state hbytes
        refine ⟨b :: before, c, rest, congrArg (b :: ·) hsplit, congrArg (· + 1) hconsumed, ?_⟩
        exact hrest

section Invariant

variable {P : Decoder → Prop} (hstep : ∀ d b, P d → P (d.step b).state)

include hstep

theorem scan_induct {d : Decoder} (hd : P d) (bytes : List UInt8) : P (d.scan bytes).decoder := by
  induction bytes generalizing d with
  | nil => exact hd
  | cons b bytes ih => exact ih (hstep d b hd)

theorem offer_induct {d : Decoder} (hd : P d) (bytes : List UInt8) : P (d.offer bytes).decoder := by
  by_cases hbytes : bytes = []
  · subst hbytes
    exact hd
  · obtain ⟨before, b, rest, -, -, hdecoder, -⟩ := d.offer_split hbytes
    rw [hdecoder]
    exact hstep _ b (scan_induct hstep hd before)

variable (hfinish : ∀ d, P d → P d.finish.state)

include hfinish

theorem call_induct {d : Decoder} (hd : P d) (c : Call) : P (d.call c).decoder := by
  cases c with
  | offer bytes => exact offer_induct hstep hd bytes
  | finish => exact hfinish d hd

/-- What single bytes and the end of a stream preserve, calls preserve. -/
theorem after_induct {d : Decoder} (hd : P d) (calls : List Call) : P (d.after calls) := by
  induction calls generalizing d with
  | nil => exact hd
  | cons c calls ih => exact ih (call_induct hstep hfinish hd c)

end Invariant

end Fieldbus.Capture.Decoder
