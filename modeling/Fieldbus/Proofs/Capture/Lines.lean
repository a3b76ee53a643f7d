import Fieldbus.Proofs.Capture.Bytewise
import Fieldbus.Proofs.Gvret.Basic

/-! A stream of lines is read like its whole text (`messages_readStream_lines`): cut at every line
end, without empty and overlong lines, and each line by itself.  The decoder at any moment is that
of the line it is in (`LineDecoder.within`), whatever came before. -/

namespace Fieldbus

namespace Gvret

/-- The decoder that has read `line` since the last line end. -/
def LineDecoder.within (line : List UInt8) : LineDecoder :=
  if line.length ≤ Line.maxLength then { line } else { discarding := true }

namespace Line

/-- The messages of lines; empty, overlong and malformed ones have none. -/
def messages (lines : List (List UInt8)) : List Message :=
  (lines.filter fun line => line ≠ [] ∧ line.length ≤ maxLength).filterMap
    fun line => (parse line).toOption

theorem messages_append (a b : List (List UInt8)) :
    messages (a ++ b) = messages a ++ messages b := by
  simp [messages]

theorem messages_cons (line : List UInt8) (lines : List (List UInt8)) :
    messages (line :: lines) = messages [line] ++ messages lines :=
  messages_append [line] lines

theorem messages_singleton (line : List UInt8) :
    messages [line] =
      if line ≠ [] ∧ line.length ≤ maxLength then (parse line).toOption.toList else [] := by
  by_cases h : line ≠ [] ∧ line.length ≤ maxLength
  · cases hp : (parse line).toOption <;> simp [messages, h, hp]
  · simp [messages, h]

/-- The lines of a recording: the stretches between its line ends, the last of which may be
unfinished. -/
def lines (bytes : List UInt8) : List (List UInt8) := bytes.splitOnP LineDecoder.isEnd

theorem lines_of_no_end {line : List UInt8} (h : ∀ b ∈ line, LineDecoder.isEnd b = false) :
    lines line = [line] :=
  List.splitOnP_eq_singleton h

theorem lines_append_cons (a b : List UInt8) {e : UInt8} (he : LineDecoder.isEnd e = true) :
    lines (a ++ e :: b) = lines a ++ lines b :=
  List.splitOnP_append_cons a b he

/-- A line without message can be left out, wherever it stands. -/
theorem messages_lines_without {before line after : List UInt8}
    (hbefore : ∀ b ∈ before.getLast?, LineDecoder.isEnd b = true)
    (hafter : ∀ b ∈ after.head?, LineDecoder.isEnd b = true)
    (hline : ∀ b ∈ line, LineDecoder.isEnd b = false) (hnone : messages [line] = []) :
    messages (lines (before ++ line ++ after)) = messages (lines (before ++ after)) := by
  -- First without what stands before the line.
  have hrest : messages (lines (line ++ after)) = messages (lines after) := by
    cases after with
    | nil => rw [List.append_nil, lines_of_no_end hline, hnone]; rfl
    | cons e after =>
      have he : LineDecoder.isEnd e = true := hafter e rfl
      rw [lines_append_cons line after he, ← List.nil_append (e :: after),
        lines_append_cons [] after he, messages_append, messages_append, lines_of_no_end hline,
        hnone]
      rfl
  rcases List.eq_nil_or_concat before with rfl | ⟨before, e, rfl⟩
  · simpa using hrest
  · have he : LineDecoder.isEnd e = true := hbefore e (by simp)
    have hcut : ∀ rest, messages (lines (before.concat e ++ rest))
        = messages (lines before) ++ messages (lines rest) := by
      intro rest
      rw [List.concat_eq_append, List.append_assoc, List.singleton_append,
        lines_append_cons before rest he, messages_append]
    rw [List.append_assoc, hcut, hcut, hrest]

end Line

namespace LineDecoder

open Line (maxLength messages messages_singleton)

variable {line : List UInt8} {b : UInt8}

theorem within_of_le (h : line.length ≤ maxLength) : within line = { line } := if_pos h

theorem within_of_lt (h : maxLength < line.length) : within line = { discarding := true } :=
  if_neg (Nat.not_le.mpr h)

/-- The end of the stream ends the line like a line end. -/
theorem finish_within (line : List UInt8) :
    (within line).finish.message.toList = messages [line] ∧ (within line).finish.state = {} := by
  rw [messages_singleton]
  rcases Nat.lt_or_ge maxLength line.length with h | h
  · rw [within_of_lt h, if_neg (by simp [h])]
    exact ⟨rfl, rfl⟩
  · rw [within_of_le h, finish]
    by_cases hne : line = []
    · simp [hne]
    · rw [if_neg (by simp [hne]), if_pos ⟨hne, h⟩]
      exact message_ending _ _

theorem step_within_of_end (line : List UInt8) (hb : isEnd b = true) :
    ((within line).step b).message.toList = messages [line] ∧
    ((within line).step b).state = within [] := by
  rw [messages_singleton]
  rcases Nat.lt_or_ge maxLength line.length with h | h
  · rw [within_of_lt h, step, if_pos hb, if_pos rfl, if_neg (by simp [h])]
    exact ⟨rfl, rfl⟩
  · rw [within_of_le h, step, if_pos hb]
    by_cases hne : line = []
    · simp [hne, within]
    · rw [if_neg (by simp), if_neg (by simp [hne]), if_pos ⟨hne, h⟩]
      exact message_ending _ _

/-- At the first byte past the longest line its bytes are given up. -/
theorem step_within (line : List UInt8) (hb : isEnd b = false) :
    ((within line).step b).message = none ∧
    ((within line).step b).state = within (line ++ [b]) := by
  have hlen : (line ++ [b]).length = line.length + 1 := by simp
  rcases Nat.lt_or_ge maxLength line.length with h | h
  · rw [within_of_lt h, within_of_lt (by omega), step, if_neg (by simp [hb])]
    exact ⟨rfl, rfl⟩
  · rw [within_of_le h, step, if_neg (by simp [hb]), if_neg (by simp)]
    rcases Nat.lt_or_ge line.length maxLength with hlt | hge
    · rw [if_neg (Nat.not_le.mpr hlt), within_of_le (by omega)]
      exact ⟨rfl, rfl⟩
    · rw [if_pos hge, within_of_lt (by omega)]
      exact ⟨rfl, rfl⟩

end LineDecoder
end Gvret

namespace Capture

open Gvret Gvret.Line Gvret.LineDecoder

/-- From within a line, the lines that end are read, and the last one is gone on with. -/
theorem scan_within {line : List UInt8} (hline : ∀ b ∈ line, isEnd b = false)
    (bytes : List UInt8) :
    ∃ ended last, lines (line ++ bytes) = ended ++ [last] ∧
      ((Decoder.lines (within line)).scan bytes).messages = messages ended ∧
      ((Decoder.lines (within line)).scan bytes).decoder = .lines (within last) := by
  induction bytes generalizing line with
  | nil => exact ⟨[], line, by rw [List.append_nil, lines_of_no_end hline]; rfl, rfl, rfl⟩
  | cons b bytes ih =>
    rw [Decoder.messages_scan_cons, Decoder.decoder_scan_cons]
    cases hb : isEnd b with
    | true =>
      obtain ⟨hmessage, hstate⟩ := step_within_of_end line hb
      obtain ⟨ended, last, hlines, hmessages, hdecoder⟩ := ih (List.forall_mem_nil _)
      refine ⟨line :: ended, last, ?_, ?_, ?_⟩
      · rw [lines_append_cons line bytes hb, lines_of_no_end hline, ← List.nil_append bytes, hlines]
        rfl
      · rw [messages_cons, ← hmessage, ← hmessages, ← hstate]
        rfl
      · rw [← hdecoder, ← hstate]
        rfl
    | false =>
      obtain ⟨hmessage, hstate⟩ := step_within line hb
      have hlonger : ∀ c ∈ line ++ [b], isEnd c = false := by
        intro c hc
        rcases List.mem_append.mp hc with hc | hc
        · exact hline c hc
        · rw [List.mem_singleton.mp hc, hb]
      obtain ⟨ended, last, hlines, hmessages, hdecoder⟩ := ih hlonger
      refine ⟨ended, last, ?_, ?_, ?_⟩
      · simpa using hlines
      · rw [← hmessages, ← hstate]
        show ((within line).step b).message.toList ++ _ = _
        rw [hmessage]
        rfl
      · rw [← hdecoder, ← hstate]
        rfl

/-- A line that is not overlong is kept until it ends. -/
theorem scan_unended {line more : List UInt8} (hmore : ∀ b ∈ more, isEnd b = false)
    (hlength : (line ++ more).length ≤ maxLength) :
    (Decoder.lines { line }).scan more = { decoder := .lines { line := line ++ more } } := by
  induction more generalizing line with
  | nil => rw [List.append_nil, Decoder.scan]
  | cons b more ih =>
    obtain ⟨hb, hmore⟩ := List.forall_mem_cons.mp hmore
    have hroom : ¬ maxLength ≤ line.length := by
      rw [List.length_append, List.length_cons] at hlength
      omega
    have hstep : (Decoder.lines { line }).step b = { state := .lines { line := line ++ [b] } } := by
      show Decoder.lift Decoder.lines (LineDecoder.step { line } b) = _
      rw [LineDecoder.step, if_neg (by simp [hb]), if_neg (by simp), if_neg hroom]
      rfl
    rw [List.append_cons] at hlength ⊢
    rw [Decoder.scan, hstep, ih hmore hlength]
    rfl

/-- A line that is not overlong is read as soon as it ends. -/
theorem scan_ended {line : List UInt8} (hline : ∀ b ∈ line, isEnd b = false) (hne : line ≠ [])
    (hlength : line.length ≤ maxLength) {e : UInt8} (he : isEnd e = true) :
    ((Decoder.new .lines).scan (line ++ [e])).contents = [parse line] ∧
    ((Decoder.new .lines).scan (line ++ [e])).decoder = .new .lines := by
  have hscan : (Decoder.new .lines).scan line = { decoder := .lines { line } } :=
    scan_unended hline hlength
  have hstep : (Decoder.lines { line }).step e
      = Decoder.lift Decoder.lines (.ending {} (parse line)) := by
    show Decoder.lift Decoder.lines (LineDecoder.step { line } e) = _
    rw [LineDecoder.step, if_pos he, if_neg (by simp), if_neg (by simpa using hne)]
  rw [Decoder.contents_scan_append, Decoder.decoder_scan_append, hscan,
    Decoder.contents_scan_cons, Decoder.decoder_scan_cons, hstep]
  refine ⟨?_, ?_⟩
  · show [] ++ (Decoder.contentsOf _ _ ++ []) = _
    rw [List.append_nil, List.nil_append]
    exact Decoder.contentsOf_ending ({} : LineDecoder) _
  · show Decoder.lines (Fed.ending ({} : LineDecoder) (parse line)).state = _
    rw [(message_ending ({} : LineDecoder) (parse line)).2]
    rfl

/-- In whatever pieces a stream of lines arrives, its messages are those of its lines: of the lines
that have ended, before the end of the stream, and then also of the last.  A line that is malformed
or overlong changes nothing about the others. -/
theorem messages_readStream_lines :
    (∀ pieces : List (List UInt8),
      ((Decoder.new .lines).readPieces [] pieces).messages
        = messages (lines pieces.flatten).dropLast ∧
      ((Decoder.new .lines).readStream pieces).messages = messages (lines pieces.flatten)) ∧
    ∀ (before line after : List UInt8) (pieces pieces' : List (List UInt8)),
      (∀ b ∈ before.getLast?, isEnd b = true) → (∀ b ∈ after.head?, isEnd b = true) →
      (∀ b ∈ line, isEnd b = false) → ((parse line).toOption = none ∨ maxLength < line.length) →
      pieces.flatten = before ++ line ++ after → pieces'.flatten = before ++ after →
      ((Decoder.new .lines).readStream pieces).messages
        = ((Decoder.new .lines).readStream pieces').messages := by
  have hread : ∀ pieces : List (List UInt8),
      ((Decoder.new .lines).readPieces [] pieces).messages
        = messages (lines pieces.flatten).dropLast ∧
      ((Decoder.new .lines).readStream pieces).messages = messages (lines pieces.flatten) := by
    intro pieces
    obtain ⟨ended, last, hlines, hmessages, hdecoder⟩ :=
      scan_within (List.forall_mem_nil _) pieces.flatten
    rw [List.nil_append] at hlines
    obtain ⟨hfinish, -⟩ := finish_within last
    rw [((Decoder.new .lines).readPieces_flatten pieces).1,
      ((Decoder.new .lines).readStream_flatten pieces).1, hlines, List.dropLast_concat,
      messages_append, ← hfinish]
    refine ⟨hmessages, ?_⟩
    show ((Decoder.lines (within [])).scan _).messages ++ _ = _
    rw [hmessages]
    show _ ++ ((Decoder.lines (within [])).scan _).decoder.finish.message.toList = _
    rw [hdecoder]
    rfl
  refine ⟨hread, ?_⟩
  intro before line after pieces pieces' hbefore hafter hline hnone hpieces hpieces'
  rw [(hread pieces).2, (hread pieces').2, hpieces, hpieces']
  refine messages_lines_without hbefore hafter hline ?_
  rw [messages_singleton]
  split
  · next h =>
    rcases hnone with hnone | hnone
    · rw [hnone]; rfl
    · omega
  · rfl

/-- A line with fewer data than it announces, cut there and between the two bytes of its end. -/
theorem messages_readStream_short_line :
    let before := bytes "1 - 7ff S 0 0\n".toList
    let line := bytes "2 - 7ff S 0 2 00".toList
    let after := bytes "\r\n3 - 7ff S 0 0".toList
    ((Decoder.new .lines).readStream
        [before ++ line.take 13, line.drop 13 ++ after.take 1, after.drop 1]).messages
      = ((Decoder.new .lines).readStream [before ++ after]).messages := by
  intro before line after
  have hline : ∀ b ∈ line, isEnd b = false := by
    simpa using List.any_eq_false.mp (show line.any isEnd = false by decide)
  exact messages_readStream_lines.2 before line after _ _
    ((Option.all_eq_true _ _).mp (show before.getLast?.all isEnd by decide))
    ((Option.all_eq_true _ _).mp (show after.head?.all isEnd by decide))
    hline (.inl (by decide)) (by decide) (by decide)

end Capture
end Fieldbus
