import Fieldbus.Capture.Decoder

/-! Reading one byte after another.  A decoder is offered bytes again and again and stops behind
each message, but what it finds is what its steps come upon byte by byte (`read_eq_scan`,
`readLast_eq`).  What is read of a stream therefore does not depend on the pieces in which it
arrives (`contents_readPieces`, `contents_readStream`). -/

namespace Fieldbus.Capture

open Gvret (Fed Refusal)

/-- Refusals, and the message behind which `left` bytes follow. -/
def reports (refusals : List Refusal) (message : Option Message) (left : Nat) : List Found :=
  refusals.map .refused ++ message.toList.map (.message · left)

/-- What was found, however many bytes followed. -/
def Found.content : Found → Except Refusal Message
  | .message m _ => .ok m
  | .refused r => .error r

def Decoded.contents (r : Decoded) : List (Except Refusal Message) := r.found.map Found.content

theorem Decoded.messages_eq (r : Decoded) : r.messages = r.contents.filterMap Except.toOption := by
  rw [messages, contents, List.filterMap_map]
  congr 1
  funext found
  cases found <;> rfl

/-- The same outcome after other things were found. -/
def Decoded.behind (r : Decoded) (found : List Found) : Decoded :=
  { r with found := found ++ r.found }

theorem Decoded.behind_behind (r : Decoded) (a b : List Found) :
    (r.behind a).behind b = r.behind (b ++ a) := by
  simp [behind]

namespace Decoder

/-- Reads bytes one after the other. -/
def scan (d : Decoder) : List UInt8 → Decoded
  | [] => { decoder := d }
  | b :: rest =>
    let f := d.step b
    (scan f.state rest).behind (reports f.refusal.toList f.message rest.length)

/-! ### Steps -/

/-- A message comes only with the end of a line or record. -/
def Proper {σ : Type} (f : Fed σ) : Prop := f.ended = false → f.message = none

theorem proper_ending {σ : Type} (s : σ) (e : Except Refusal Message) :
    Proper (Fed.ending s e) := by
  cases e <;> simp [Proper, Fed.ending]

theorem proper_step (d : Decoder) (b : UInt8) : Proper (d.step b) := by
  cases d with
  | lines d =>
    show Proper (d.step b)
    rw [Gvret.LineDecoder.step]
    repeat' split
    all_goals first | exact proper_ending _ _ | exact fun _ => rfl
  | records d =>
    show Proper (d.step b)
    rw [Gvret.RecordDecoder.step]
    repeat' split
    all_goals first | exact proper_ending _ _ | exact fun _ => rfl

/-- After the end of the stream nothing is left that its end could complete. -/
theorem finish_finish (d : Decoder) : d.finish.state.finish = { state := d.finish.state } := by
  cases d with
  | lines d =>
    have hnew : d.finish.state = {} := by
      rw [Gvret.LineDecoder.finish]
      split
      · rfl
      · cases Gvret.Line.parse d.line <;> rfl
    show lift lines d.finish.state.finish = { state := lines d.finish.state }
    rw [hnew]
    rfl
  | records d => rfl

/-! ### Offers and bytes -/

/-- The bytes that an offer takes are read one after the other. -/
theorem scan_offer {d : Decoder} {bytes : List UInt8} {o : Offered} (ho : d.offer bytes = o) :
    d.scan bytes =
      (o.decoder.scan (bytes.drop o.consumed)).behind
        (reports o.refusals o.message (bytes.drop o.consumed).length) := by
  induction bytes generalizing d o with
  | nil =>
    subst ho
    rfl
  | cons b rest ih =>
    rw [offer] at ho
    dsimp only at ho
    rw [scan]
    split at ho
    · subst ho
      rfl
    · next h =>
      subst ho
      have hm : (d.step b).message = none := proper_step d b (by simpa using h)
      rw [ih rfl, Decoded.behind_behind, hm]
      simp [reports]

/-- The bytes before the next message are read one after the other. -/
theorem scan_next {d : Decoder} {buffer : List UInt8} {t : Taken} (ht : d.next buffer = t) :
    d.scan buffer =
      (t.decoder.scan t.left).behind (reports t.refusals t.message t.left.length) := by
  subst ht
  fun_induction next d buffer with
  | case1 d => rfl
  | case2 d buffer hb o left hn => exact scan_offer rfl
  | case3 d buffer hb o left hn t ih =>
    have hm : o.message = none := by simpa using (not_or.mp hn).1
    have hs : d.scan buffer = _ := scan_offer (o := o) rfl
    rw [show buffer.drop o.consumed = left from rfl, ih, Decoded.behind_behind, hm] at hs
    rw [hs]
    simp [reports, t]

/-- Reading a buffer reads its bytes one after the other and leaves none. -/
theorem read_eq_scan (d : Decoder) (buffer : List UInt8) : d.read buffer = d.scan buffer := by
  fun_induction read d buffer with
  | case1 d buffer t refused h =>
    have hleft : t.left = [] := left_next h
    rw [scan_next (t := t) rfl, h, hleft]
    simp [scan, reports, refused, Decoded.behind]
  | case2 d buffer t refused m h r ih =>
    rw [scan_next (t := t) rfl, h, ← ih]
    simp [r, refused, reports, Decoded.behind]

theorem scan_of_next_none {d : Decoder} {buffer : List UInt8} {t : Taken}
    (ht : d.next buffer = t) (h : t.message = none) :
    d.scan buffer = { decoder := t.decoder, found := t.refusals.map .refused } := by
  have hleft : t.left = [] := ht ▸ left_next (ht ▸ h)
  rw [scan_next ht, h, hleft]
  simp [scan, reports, Decoded.behind]

theorem nextLast_of_some {d : Decoder} {buffer : List UInt8} {t : Taken}
    (ht : d.next buffer = t) (h : t.message.isSome) : d.nextLast buffer = t := by
  simp [nextLast, ht, h]

theorem nextLast_of_none {d : Decoder} {buffer : List UInt8} {t : Taken}
    (ht : d.next buffer = t) (h : t.message = none) :
    d.nextLast buffer =
      { decoder := t.decoder.finish.state
        message := t.decoder.finish.message
        refusals := t.refusals ++ t.decoder.finish.refusal.toList } := by
  have hleft : t.left = [] := ht ▸ left_next (ht ▸ h)
  simp [nextLast, ht, h, hleft]

/-- Reading the last bytes of a stream reads them one after the other, and then its end. -/
theorem readLast_eq (d : Decoder) (buffer : List UInt8) :
    d.readLast buffer =
      let r := d.scan buffer
      let f := r.decoder.finish
      { decoder := f.state, found := r.found ++ reports f.refusal.toList f.message 0 } := by
  fun_induction readLast d buffer with
  | case1 d buffer t refused h =>
    -- Neither the bytes nor the end completed a message.
    rcases hn : (d.next buffer).message with _ | m
    · have ht : t = _ := nextLast_of_none rfl hn
      rw [scan_of_next_none rfl hn]
      simp only [refused]
      rw [ht] at h ⊢
      simp [reports, show (d.next buffer).decoder.finish.message = none from h]
    · have ht : t = _ := nextLast_of_some rfl (Option.isSome_of_eq_some hn)
      rw [ht, hn] at h
      contradiction
  | case2 d buffer t refused m h r ih =>
    rcases hn : (d.next buffer).message with _ | m'
    · -- The end completed the message, so the next round finds nothing.
      have ht : t = _ := nextLast_of_none rfl hn
      rw [scan_of_next_none rfl hn]
      simp only [refused, r]
      rw [ht] at h ih ⊢
      simp only [ih, scan, finish_finish]
      simp [reports, show (d.next buffer).decoder.finish.message = some m from h]
    · have ht : t = _ := nextLast_of_some rfl (Option.isSome_of_eq_some hn)
      rw [scan_next (t := t) ht.symm, h]
      simp [r, ih, refused, reports, Decoded.behind]

/-! ### Contents -/

/-- Refusals and a message, without the number of bytes that follow. -/
def contentsOf (refusals : List Refusal) (message : Option Message) :
    List (Except Refusal Message) :=
  refusals.map .error ++ message.toList.map .ok

theorem contentsOf_ending {σ : Type} (s : σ) (e : Except Refusal Message) :
    contentsOf (Fed.ending s e).refusal.toList (Fed.ending s e).message = [e] := by
  cases e <;> rfl

theorem map_content_reports (refusals : List Refusal) (message : Option Message) (left : Nat) :
    (reports refusals message left).map Found.content = contentsOf refusals message := by
  rw [reports, contentsOf, List.map_append, List.map_map, List.map_map]
  rfl

theorem contents_behind (r : Decoded) (refusals : List Refusal) (message : Option Message)
    (left : Nat) :
    (r.behind (reports refusals message left)).contents =
      contentsOf refusals message ++ r.contents := by
  rw [Decoded.contents, Decoded.behind, List.map_append, map_content_reports]
  rfl

theorem messages_behind (r : Decoded) (refusals : List Refusal) (message : Option Message)
    (left : Nat) :
    (r.behind (reports refusals message left)).messages = message.toList ++ r.messages := by
  rw [Decoded.messages_eq, contents_behind, Decoded.messages_eq]
  cases message <;> simp [contentsOf, List.filterMap_map, Function.comp_def, Except.toOption]

@[simp] theorem messages_scan_cons (d : Decoder) (b : UInt8) (rest : List UInt8) :
    (d.scan (b :: rest)).messages
      = (d.step b).message.toList ++ ((d.step b).state.scan rest).messages :=
  messages_behind ..

theorem contents_scan_cons (d : Decoder) (b : UInt8) (rest : List UInt8) :
    (d.scan (b :: rest)).contents
      = contentsOf (d.step b).refusal.toList (d.step b).message
        ++ ((d.step b).state.scan rest).contents :=
  contents_behind ..

@[simp] theorem decoder_scan_cons (d : Decoder) (b : UInt8) (rest : List UInt8) :
    (d.scan (b :: rest)).decoder = ((d.step b).state.scan rest).decoder := rfl

theorem decoder_scan_append (d : Decoder) (a b : List UInt8) :
    (d.scan (a ++ b)).decoder = ((d.scan a).decoder.scan b).decoder := by
  induction a generalizing d with
  | nil => rfl
  | cons x a ih => exact ih _

theorem contents_scan_append (d : Decoder) (a b : List UInt8) :
    (d.scan (a ++ b)).contents = (d.scan a).contents ++ ((d.scan a).decoder.scan b).contents := by
  induction a generalizing d with
  | nil => rfl
  | cons x a ih =>
    rw [List.cons_append, contents_scan_cons, contents_scan_cons, ih, List.append_assoc]
    rfl

/-! ### Pieces -/

@[simp] theorem left_scan (d : Decoder) (bytes : List UInt8) : (d.scan bytes).left = [] := by
  induction bytes generalizing d with
  | nil => rfl
  | cons b rest ih => exact ih _

/-- Where a stream is cut makes no difference to what was read of it, and nothing stays in the
buffer. -/
theorem contents_readPieces (d : Decoder) (pieces : List (List UInt8)) :
    (d.readPieces [] pieces).contents = (d.scan pieces.flatten).contents ∧
    (d.readPieces [] pieces).decoder = (d.scan pieces.flatten).decoder ∧
    (d.readPieces [] pieces).left = [] := by
  induction pieces generalizing d with
  | nil => exact ⟨rfl, rfl, rfl⟩
  | cons piece rest ih =>
    obtain ⟨hcontents, hdecoder, hleft⟩ := ih (d.scan piece).decoder
    rw [readPieces, List.nil_append, read_eq_scan, left_scan, List.flatten_cons,
      contents_scan_append, decoder_scan_append]
    refine ⟨?_, hdecoder, hleft⟩
    rw [← hcontents]
    exact List.map_append

/-- The same of a whole stream, whose end may complete one more line. -/
theorem contents_readStream (d : Decoder) (pieces : List (List UInt8)) :
    (d.readStream pieces).contents = (d.readLast pieces.flatten).contents ∧
    (d.readStream pieces).decoder = (d.readLast pieces.flatten).decoder ∧
    (d.readStream pieces).left = [] := by
  obtain ⟨hcontents, hdecoder, hleft⟩ := d.contents_readPieces pieces
  rw [readStream, hdecoder, hleft, readLast_eq, readLast_eq]
  refine ⟨?_, rfl, rfl⟩
  have happend : ∀ a b : List Found, (a ++ b).map Found.content
      = a.map Found.content ++ b.map Found.content := fun _ _ => List.map_append
  simp only [Decoded.contents, happend] at hcontents ⊢
  rw [hcontents]
  rfl

theorem readPieces_flatten (d : Decoder) (pieces : List (List UInt8)) :
    (d.readPieces [] pieces).messages = (d.scan pieces.flatten).messages ∧
    (d.readPieces [] pieces).decoder = (d.scan pieces.flatten).decoder ∧
    (d.readPieces [] pieces).left = [] := by
  obtain ⟨hcontents, hdecoder, hleft⟩ := d.contents_readPieces pieces
  rw [Decoded.messages_eq, hcontents, Decoded.messages_eq]
  exact ⟨rfl, hdecoder, hleft⟩

theorem readStream_flatten (d : Decoder) (pieces : List (List UInt8)) :
    (d.readStream pieces).messages
      = (d.scan pieces.flatten).messages ++ (d.scan pieces.flatten).decoder.finish.message.toList ∧
    (d.readStream pieces).decoder = (d.scan pieces.flatten).decoder.finish.state ∧
    (d.readStream pieces).left = [] := by
  obtain ⟨hcontents, hdecoder, hleft⟩ := d.contents_readStream pieces
  rw [Decoded.messages_eq, hcontents, ← Decoded.messages_eq, hdecoder, readLast_eq]
  refine ⟨?_, rfl, hleft⟩
  cases h : (d.scan pieces.flatten).decoder.finish.message <;>
    simp [Decoded.messages, reports, h]

end Decoder
end Fieldbus.Capture
