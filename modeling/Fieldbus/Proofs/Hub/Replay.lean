import Fieldbus.Hub.Replay
import Fieldbus.Proofs.Capture.RoundTrip
import Fieldbus.Proofs.Hub.Basic
import Fieldbus.Proofs.Logger.Recording

/-! What was recorded comes in again.  The traffic that a logger wrote to a file, of buses whose
numbers the format has room for, is replayed frame by frame as it was recorded, as far as the hub has
the buses (`Hub.replay_logged`). -/

namespace Fieldbus

namespace Hub

variable {δ : Type}

/-- What came in and what was skipped depend on the contents of a recording alone. -/
theorem replayFound_congr {h : Hub δ} {r : Replayed} {found found' : List Capture.Found}
    (hcontents : found'.map Capture.Found.content = found.map Capture.Found.content) :
    h.replayFound r found' = h.replayFound r found := by
  induction found generalizing found' h r with
  | nil => rw [List.map_eq_nil_iff.mp hcontents]
  | cons x found ih =>
    obtain ⟨x', rest, rfl, hx, hrest⟩ := List.map_eq_cons_iff.mp hcontents
    cases x with
    | refused refusal =>
      obtain rfl : x' = .refused refusal := by
        cases x' with
        | refused refusal' => rw [Except.error.inj hx]
        | message m left => cases hx
      exact ih hrest
    | message m left =>
      obtain ⟨left', rfl⟩ : ∃ left', x' = .message m left' := by
        cases x' with
        | refused refusal => cases hx
        | message m' left' => exact ⟨left', by rw [Except.ok.inj hx]⟩
      rw [replayFound, replayFound]
      cases m.entry.frame? with
      | none => exact ih hrest
      | some f =>
        dsimp only
        split
        · exact ih hrest
        · exact ih hrest

/-- Replays a recording that arrives in pieces. -/
def replayPieces (h : Hub δ) (format : Capture.Format) (pieces : List (List UInt8)) :
    Nat × Hub δ :=
  let (r, h) := h.replayFound {} ((Capture.Decoder.new format).readStream pieces).found
  (r.injected, if r.skipped = 0 then h else h.say (.replaySkipped r.skipped))

/-- The pieces make no difference. -/
theorem replayPieces_eq (h : Hub δ) (format : Capture.Format) (pieces : List (List UInt8)) :
    h.replayPieces format pieces = h.replay format pieces.flatten := by
  rw [replayPieces, replay,
    replayFound_congr ((Capture.Decoder.new format).contents_readStream pieces).1]

/-- The frames of buses that the hub has. -/
def known (h : Hub δ) (frames : List Frame) : List Frame :=
  frames.filter fun f => (h.busOf? f).isSome

/-- How many frames are of buses that the hub does not have. -/
def unknown (h : Hub δ) (frames : List Frame) : Nat :=
  frames.countP fun f => (h.busOf? f).isNone

/-- Messages without refusals: the frames of known buses come in, and the others are counted. -/
theorem replayFound_messages {h : Hub δ} {r : Replayed} {found : List Capture.Found}
    {messages : List Message}
    (hcontents : found.map Capture.Found.content = messages.map .ok) :
    let frames := messages.filterMap fun m => m.entry.frame?
    h.replayFound r found
      = (⟨r.injected + (h.known frames).length, r.skipped + h.unknown frames⟩,
          (h.known frames).foldl incoming h) := by
  induction messages generalizing found h r with
  | nil =>
    rw [List.map_eq_nil_iff.mp hcontents]
    rfl
  | cons m messages ih =>
    obtain ⟨x, rest, rfl, hx, hrest⟩ := List.map_eq_cons_iff.mp hcontents
    obtain ⟨left, rfl⟩ : ∃ left, x = .message m left := by
      cases x with
      | refused refusal => cases hx
      | message m' left => exact ⟨left, by rw [Except.ok.inj hx]⟩
    rw [replayFound, List.filterMap_cons]
    cases m.entry.frame? with
    | none => exact ih hrest
    | some f =>
      dsimp only
      cases hf : (h.busOf? f).isSome with
      | true =>
        -- The frame changes no name, so the others are of the same buses as before.
        have hbusOf : (h.incoming f).busOf? = h.busOf? :=
          funext (busOf?_congr (h.names_incoming f))
        rw [if_pos rfl, ih hrest]
        simp [known, unknown, hbusOf, hf, ← Option.not_isSome, Nat.add_assoc, Nat.add_comm 1]
      | false =>
        rw [if_neg Bool.false_ne_true, ih hrest]
        simp [known, unknown, hf, ← Option.not_isSome, Nat.add_assoc, Nat.add_comm 1]

end Hub

namespace Logger

/-- Traffic of buses that the format tells apart. -/
def Traceable (format : Capture.Format) (m : Message) : Prop :=
  ∀ f, m.entry.traffic? = some f → ∃ n, 1 ≤ n ∧ n < format.busLimit ∧
    m.origin = some (.numbered n) ∧ f.origin = some (.numbered n)

/-- Of traceable traffic the frames remain as they were. -/
theorem frames_normal {format : Capture.Format} {messages : List Message}
    (h : ∀ m ∈ messages, Traceable format m) :
    (messages.filterMap format.normal?).filterMap (fun m => m.entry.frame?)
      = messages.filterMap fun m => m.entry.traffic? := by
  induction messages with
  | nil => rfl
  | cons m messages ih =>
    have ih := ih fun m' hm' => h m' (List.mem_cons_of_mem m hm')
    rw [List.filterMap_cons, List.filterMap_cons, Capture.Format.normal?_eq]
    cases hf : m.entry.traffic? with
    | none => exact ih
    | some f =>
      obtain ⟨n, hpos, hlt, hm, hforigin⟩ := h m List.mem_cons_self f hf
      have hself : f.withOrigin (format.busOf m.origin) = f := by
        rw [hm, Capture.Format.busOf_numbered hpos hlt, Frame.withOrigin_self hforigin]
      simp only [Option.map_some, List.filterMap_cons, ih]
      exact congrArg (· :: _) hself

end Logger

namespace Hub

variable {δ : Type}

/-- The frames as the format keeps them come in again. -/
theorem replay_encodeAll (h : Hub δ) (format : Capture.Format) (messages : List Message) :
    let frames := (messages.filterMap format.normal?).filterMap fun m => m.entry.frame?
    let replayed := (h.known frames).foldl incoming h
    h.replay format (format.encodeAll messages)
      = ((h.known frames).length,
          if h.unknown frames = 0 then replayed
          else replayed.say (.replaySkipped (h.unknown frames))) := by
  intro frames replayed
  rw [replay, replayFound_messages (Capture.contents_readLast_encodeAll format messages)]
  simp only [Nat.zero_add, frames, replayed]

/-- What a logger without filters writes, from an empty file on, comes in again: in whatever pieces
the file is read, the frames of those recorded as received or sent whose buses the hub has come in,
as they were and in the order of their messages; their number is the result.  Nothing else happens to
the hub, but that it remarks on frames of other buses. -/
theorem replay_logged (h : Hub δ) {l : Logger} {format : Capture.Format} {path : String}
    {outlet : Logger.Outlet} {messages : List Message} (hkind : l.kind = .file format)
    (hfilter : l.filter.filters = [])
    (hopen : (l.open (some path) outlet).result = .ok ())
    (hempty : ∀ bytes, outlet.files.read path = .ok bytes → bytes = [])
    (hmessages : ∀ m ∈ messages, Logger.Traceable format m) :
    let opened := l.open (some path) outlet
    let written := opened.logger.logAll opened.outlet messages
    let frames := messages.filterMap fun m => m.entry.traffic?
    let replayed := (h.known frames).foldl incoming h
    ∃ bytes, written.2.files.read path = .ok bytes ∧
      ∀ pieces : List (List UInt8), pieces.flatten = bytes →
        h.replayPieces format pieces
          = ((h.known frames).length,
              if h.unknown frames = 0 then replayed
              else replayed.say (.replaySkipped (h.unknown frames))) := by
  intro opened written frames replayed
  have hwrites := Logger.writes_open hkind hfilter hopen
  have hfile := Logger.holds_logAll hwrites messages (Logger.holds_open hkind hempty hopen)
  refine ⟨format.header ++ format.encodeAll messages,
    (Files.read_eq_ok_iff _ _ _).mpr hfile, fun pieces hpieces => ?_⟩
  -- No format has a header.
  rw [replayPieces_eq, hpieces, Capture.Format.header, List.nil_append]
  have hreplay := h.replay_encodeAll format messages
  rw [Logger.frames_normal hmessages] at hreplay
  exact hreplay

/-- The frame that was deferred meanwhile and the one of a bus that the hub does not have stay out. -/
theorem replay_logged_of_four :
    let f (n : Nat) : Frame := ⟨some (.numbered n), 0x123, .standard, [0xff], by decide, by decide⟩
    let m (n : Nat) (direction : Direction) : Message :=
      ⟨some (.numbered n), {}, .frame direction (f n)⟩
    let messages := [m 2 .sent, m 2 .deferred, m 3 .received, m 16 .received]
    let h : Hub Unit :=
      { buses := [{ name := .numbered 2, device := () }, { name := .numbered 16, device := () }] }
    let l : Logger := { kind := .file .records }
    let outlet : Logger.Outlet := { files := ⟨[("trace", [])]⟩ }
    let opened := l.open (some "trace") outlet
    opened.result = .ok () ∧
    ∃ bytes, (opened.logger.logAll opened.outlet messages).2.files.read "trace" = .ok bytes ∧
      ∀ pieces : List (List UInt8), pieces.flatten = bytes →
        h.replayPieces .records pieces
          = (2, ((h.incoming (f 2)).incoming (f 16)).say (.replaySkipped 1)) := by
  intro f m messages h l outlet opened
  have hopen : opened.result = .ok () :=
    Logger.result_open_of_get? rfl rfl (by decide +kernel)
  have hempty : ∀ bytes, outlet.files.read "trace" = .ok bytes → bytes = [] := by
    have hread : outlet.files.read "trace" = .ok [] := by decide +kernel
    exact fun bytes hbytes => (Except.ok.inj (hread.symm.trans hbytes)).symm
  have hmessages : ∀ m ∈ messages, Logger.Traceable .records m := by
    intro m hm g hg
    simp only [messages, List.mem_cons, List.not_mem_nil, or_false] at hm
    rcases hm with rfl | rfl | rfl | rfl
    · exact ⟨2, by decide, by decide, rfl, by rw [← Option.some.inj hg]⟩
    · cases hg
    · exact ⟨3, by decide, by decide, rfl, by rw [← Option.some.inj hg]⟩
    · exact ⟨16, by decide, by decide, rfl, by rw [← Option.some.inj hg]⟩
  have hframes : messages.filterMap (fun m => m.entry.traffic?) = [f 2, f 3, f 16] := rfl
  have hknown : h.known [f 2, f 3, f 16] = [f 2, f 16] := by decide +kernel
  have hunknown : h.unknown [f 2, f 3, f 16] = 1 := by decide +kernel
  obtain ⟨bytes, hbytes, hreplay⟩ := h.replay_logged rfl rfl hopen hempty hmessages
  rw [hframes, hknown, hunknown] at hreplay
  exact ⟨hopen, bytes, hbytes, hreplay⟩

/-- A number beyond 32 bits is recorded as that of the first bus. -/
theorem replay_logged_of_long_number :
    let n := 4294967296
    let f : Frame := ⟨some (.numbered n), 0x123, .standard, [0xff], by decide, by decide⟩
    let messages : List Message := [⟨some (.numbered n), {}, .frame .received f⟩]
    let h : Hub Unit := { buses := [{ name := .numbered n, device := () }] }
    let l : Logger := { kind := .file .lines }
    let outlet : Logger.Outlet := { files := ⟨[("trace", [])]⟩ }
    let opened := l.open (some "trace") outlet
    opened.result = .ok () ∧ (h.busOf? f).isSome ∧
    ∃ bytes, (opened.logger.logAll opened.outlet messages).2.files.read "trace" = .ok bytes ∧
      (h.replayPieces .lines [bytes]).1 = 0 ∧
      (h.replayPieces .lines [bytes]).2.buses.map (·.statistics.counters.received) = [0] := by
  intro n f messages h l outlet opened
  have hopen : opened.result = .ok () :=
    Logger.result_open_of_get? rfl rfl (by decide +kernel)
  have hempty : ∀ bytes, outlet.files.read "trace" = .ok bytes → bytes = [] := by
    have hread : outlet.files.read "trace" = .ok [] := by decide +kernel
    exact fun bytes hbytes => (Except.ok.inj (hread.symm.trans hbytes)).symm
  have hwrites : opened.logger.Writes .lines "trace" := Logger.writes_open rfl rfl hopen
  have hfile := Logger.holds_logAll hwrites messages (Logger.holds_open rfl hempty hopen)
  have hframes : (messages.filterMap Capture.Format.lines.normal?).filterMap
      (fun m => m.entry.frame?) = [f.withOrigin (.numbered 1)] := by decide +kernel
  have hknown : h.known [f.withOrigin (.numbered 1)] = [] := by decide +kernel
  have hreplay := h.replay_encodeAll .lines messages
  rw [hframes] at hreplay
  dsimp only at hreplay
  rw [hknown] at hreplay
  refine ⟨hopen, by decide +kernel, _, (Files.read_eq_ok_iff _ _ _).mpr hfile, ?_⟩
  rw [replayPieces_eq, List.flatten_singleton, Capture.Format.header, List.nil_append, hreplay]
  exact ⟨rfl, by decide +kernel⟩

end Hub
end Fieldbus
