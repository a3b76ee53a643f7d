import Fieldbus.Proofs.Hub.Traffic
import Mathlib.Data.List.Forall2

/-! The account of a bus: what its writers were answered since its statistics began anew, what the
device answered about deferred frames, and where these frames are in the log.  A turn of the bus tells
the same to its account, to its counters and to the log (`Account.Sound.turn`). -/

namespace Fieldbus

/-- The log holds, at this place, a frame of the bus on its way in this direction. -/
def Recorded (log : List Message) (place : Nat) (name : BusName) (direction : Direction)
    (f : Frame) : Prop :=
  ∃ time, log[place]? = some ⟨some name, time, .frame direction f⟩

namespace Recorded

variable {log : List Message} {place : Nat} {name : BusName} {direction : Direction} {f : Frame}

theorem lt (h : Recorded log place name direction f) : place < log.length := by
  obtain ⟨time, hget⟩ := h
  exact (List.getElem?_eq_some_iff.mp hget).1

theorem append (h : Recorded log place name direction f) (messages : List Message) :
    Recorded (log ++ messages) place name direction f := by
  obtain ⟨time, hget⟩ := h
  exact ⟨time, by rw [List.getElem?_append_left (List.getElem?_eq_some_iff.mp hget).1, hget]⟩

theorem last (log : List Message) (time : Timestamp) (direction : Direction)
    (hf : f.origin = some name) :
    Recorded (log ++ [.ofFrame time direction f]) log.length name direction f :=
  ⟨time, by rw [List.getElem?_concat_length, Message.ofFrame, hf]⟩

end Recorded

/-! ### The places of deferred frames in the log -/

structure Line where
  /-- Where the frames that are deferred now were recorded as deferred, in their order. -/
  waiting : List Nat := []
  /-- Of frames that were deferred: where they were recorded as that, and where as sent or failed. -/
  passed : List (Nat × Nat) := []
deriving DecidableEq

namespace Line

/-- Follows the log: a frame is deferred, or the first of the deferred ones has left. -/
def note (name : BusName) (line : Line) (place : Nat) (m : Message) : Line :=
  if m.tells name .deferred then { line with waiting := line.waiting ++ [place] }
  else if m.tells name .sent || m.tells name .failed then
    match line.waiting with
    | first :: waiting => { waiting, passed := line.passed ++ [(first, place)] }
    | [] => line
  else line

def follow (name : BusName) (line : Line) (place : Nat) : List Message → Line
  | [] => line
  | m :: rest => (line.note name place m).follow name (place + 1) rest

/-- The places are those of the deferred frames, and each frame was recorded as deferred before it was
recorded as sent or failed, in an entry of its own. -/
structure Sound (line : Line) (name : BusName) (log : List Message)
    (frames : List Frame) : Prop where
  waiting : List.Forall₂ (fun place f => Recorded log place name .deferred f) line.waiting frames
  passed : ∀ x ∈ line.passed, x.1 < x.2 ∧ ∃ f direction,
    (direction = .sent ∨ direction = .failed) ∧ Recorded log x.1 name .deferred f ∧
      Recorded log x.2 name direction f
  sorted : (line.passed.map Prod.fst ++ line.waiting).Pairwise (· < ·)
  left : (line.passed.map Prod.snd).Pairwise (· < ·)

namespace Sound

variable {line : Line} {name : BusName} {log : List Message} {frames : List Frame} {f : Frame}

theorem append (h : line.Sound name log frames) (messages : List Message) :
    line.Sound name (log ++ messages) frames := by
  have hwaiting := List.Forall₂.imp (fun _ _ hplace => Recorded.append hplace messages) h.waiting
  refine ⟨hwaiting, fun x hx => ?_, h.sorted, h.left⟩
  obtain ⟨hlt, f, direction, hdirection, hdeferred, hleft⟩ := h.passed x hx
  exact ⟨hlt, f, direction, hdirection, hdeferred.append messages, hleft.append messages⟩

theorem lt_length (h : line.Sound name log frames) :
    ∀ place ∈ line.passed.map Prod.fst ++ line.waiting, place < log.length := by
  intro place hplace
  rcases List.mem_append.mp hplace with hpassed | hwaiting
  · obtain ⟨x, hx, rfl⟩ := List.mem_map.mp hpassed
    obtain ⟨-, f, direction, -, hdeferred, -⟩ := h.passed x hx
    exact hdeferred.lt
  · have hboth := List.Forall₂.imp (fun _ _ hplace => And.intro hplace.lt hplace) h.waiting
    exact ((List.forall₂_and_left _ _).mp hboth).1 place hwaiting

theorem note_deferred (h : line.Sound name log frames) (hf : f.origin = some name)
    (time : Timestamp) :
    (line.note name log.length (.ofFrame time .deferred f)).Sound name
      (log ++ [.ofFrame time .deferred f]) (frames ++ [f]) := by
  have hnote : line.note name log.length (.ofFrame time .deferred f)
      = { line with waiting := line.waiting ++ [log.length] } := by
    simp [note, Message.tells, Message.ofFrame, hf]
  have happended := h.append [.ofFrame time .deferred f]
  rw [hnote]
  refine ⟨?_, happended.passed, ?_, h.left⟩
  · exact List.rel_append happended.waiting (.cons (.last log time .deferred hf) .nil)
  · show (line.passed.map Prod.fst ++ (line.waiting ++ [log.length])).Pairwise (· < ·)
    rw [← List.append_assoc, List.pairwise_append]
    refine ⟨h.sorted, List.pairwise_singleton _ _, fun place hplace last hlast => ?_⟩
    rw [List.mem_singleton.mp hlast]
    exact h.lt_length place hplace

theorem note_left {direction : Direction} (h : line.Sound name log (f :: frames))
    (hf : f.origin = some name) (hdirection : direction = .sent ∨ direction = .failed)
    (time : Timestamp) :
    let after := line.note name log.length (.ofFrame time direction f)
    after.Sound name (log ++ [.ofFrame time direction f]) frames ∧
      after.passed.length = line.passed.length + 1 := by
  obtain ⟨waiting, passed⟩ := line
  have hwaiting := h.waiting
  rw [List.forall₂_cons_right_iff] at hwaiting
  obtain ⟨first, rest, hfirst, -, rfl⟩ := hwaiting
  have hnote : note name ⟨first :: rest, passed⟩ log.length (.ofFrame time direction f)
      = ⟨rest, passed ++ [(first, log.length)]⟩ := by
    rcases hdirection with rfl | rfl <;> simp [note, Message.tells, Message.ofFrame, hf]
  have happended := h.append [.ofFrame time direction f]
  rw [hnote]
  refine ⟨⟨?_, fun x hx => ?_, ?_, ?_⟩, List.length_append⟩
  · obtain ⟨_, _, -, hrest, heq⟩ := List.forall₂_cons_right_iff.mp happended.waiting
    obtain ⟨-, rfl⟩ := List.cons.inj heq
    exact hrest
  · rcases List.mem_append.mp hx with hx | hx
    · exact happended.passed x hx
    · rw [List.mem_singleton.mp hx]
      exact ⟨hfirst.lt, f, direction, hdirection, hfirst.append _, .last log time direction hf⟩
  · have hsorted := h.sorted
    simpa using hsorted
  · show (List.map Prod.snd (passed ++ [(first, log.length)])).Pairwise (· < ·)
    rw [List.map_append, List.pairwise_append]
    refine ⟨h.left, List.pairwise_singleton _ _, fun place hplace last hlast => ?_⟩
    obtain ⟨x, hx, rfl⟩ := List.mem_map.mp hplace
    obtain ⟨-, _, _, -, -, hleft⟩ := h.passed x hx
    rw [List.mem_singleton.mp hlast]
    exact hleft.lt

/-- The deferred frames that the device was handed leave one after the other. -/
theorem follow_left {tries : List (Frame × Except DeviceError Attempt)}
    (h : line.Sound name log (tries.map Prod.fst ++ frames))
    (hown : ∀ x ∈ Bus.story none tries, x.2.origin = some name) (time : Timestamp) :
    let messages := (Bus.story none tries).map fun x => .ofFrame time x.1 x.2
    (line.follow name log.length messages).Sound name (log ++ messages) frames ∧
      (line.follow name log.length messages).passed.length = line.passed.length + tries.length := by
  induction tries generalizing line log with
  | nil =>
    refine ⟨?_, rfl⟩
    show line.Sound name (log ++ []) frames
    rw [List.append_nil]
    exact h
  | cons x tries ih =>
    obtain ⟨f, answer⟩ := x
    have hstory : Bus.story none ((f, answer) :: tries)
        = (Attempt.direction answer, f) :: Bus.story none tries := rfl
    rw [hstory] at hown ⊢
    have hdirection : Attempt.direction answer = .sent ∨ Attempt.direction answer = .failed := by
      rcases answer with e | _ | _
      · exact .inr rfl
      · exact .inl rfl
      · exact .inr rfl
    obtain ⟨hfirst, hlength⟩ := note_left h (hown _ List.mem_cons_self) hdirection time
    obtain ⟨hrest, hlength'⟩ := ih hfirst fun x hx => hown x (List.mem_cons_of_mem _ hx)
    rw [List.length_append, List.length_singleton, List.append_assoc] at hrest
    rw [List.length_append, List.length_singleton, hlength] at hlength'
    refine ⟨hrest, hlength'.trans ?_⟩
    rw [List.length_cons]
    omega

/-- A frame may be deferred before. -/
theorem follow_deferred {tries : List (Frame × Except DeviceError Attempt)}
    (h : line.Sound name log frames) {rest : List Frame}
    (hframes : frames ++ [f] = tries.map Prod.fst ++ rest)
    (hown : ∀ x ∈ Bus.story (some (.queued, f)) tries, x.2.origin = some name)
    (time : Timestamp) :
    let messages := (Bus.story (some (.queued, f)) tries).map fun x => .ofFrame time x.1 x.2
    (line.follow name log.length messages).Sound name (log ++ messages) rest ∧
      (line.follow name log.length messages).passed.length = line.passed.length + tries.length := by
  have hstory : Bus.story (some (.queued, f)) tries = (.deferred, f) :: Bus.story none tries := rfl
  rw [hstory] at hown ⊢
  have hf : f.origin = some name := hown _ List.mem_cons_self
  have hpassed : (line.note name log.length (.ofFrame time .deferred f)).passed = line.passed := by
    rw [note, if_pos]
    simp [Message.tells, Message.ofFrame, hf]
  have hfirst := h.note_deferred hf time
  rw [hframes] at hfirst
  obtain ⟨hrest, hlength⟩ :=
    hfirst.follow_left (fun x hx => hown x (List.mem_cons_of_mem _ hx)) time
  rw [List.length_append, List.length_singleton, List.append_assoc] at hrest
  rw [List.length_append, List.length_singleton, hpassed] at hlength
  exact ⟨hrest, hlength⟩

end Sound
end Line
/-! ### The account of a bus -/

/-- What happened to a bus since its statistics began anew. -/
structure Account where
  /-- How long the log was when they did. -/
  since : Nat := 0
  sent : Nat := 0
  queued : Nat := 0
  rejected : Nat := 0
  /-- Deferred frames that the device accepted. -/
  accepted : Nat := 0
  /-- Deferred frames that the device was handed and did not accept. -/
  givenUp : Nat := 0
  line : Line := {}
deriving DecidableEq

namespace Account

def reset (a : Account) (log : List Message) : Account :=
  { since := log.length, line := { waiting := a.line.waiting } }

def discard (a : Account) : Account := { a with line.waiting := [] }

def answer (a : Account) : Option Delivery → Account
  | some .sent => { a with sent := a.sent + 1 }
  | some .queued => { a with queued := a.queued + 1 }
  | some .rejected => { a with rejected := a.rejected + 1 }
  | none => a

def drain (a : Account) (tries : List (Frame × Except DeviceError Attempt)) : Account :=
  { a with
    accepted := a.accepted + tries.countP fun x => (Traced.taken? x).isSome
    givenUp := a.givenUp + tries.countP fun x => (Traced.taken? x).isNone }

/-- A turn of the bus, by the log before and after it.  The entry of a frame that is sent at once or
rejected is none of a deferred frame. -/
def turn {δ : Type} [Device δ] (a : Account) (b : Bus δ) (t : Turn) (before after : List Message) :
    Account :=
  let a := (a.answer (b.act t).result).drain (b.drained t)
  match (b.act t).result with
  | some .sent => a
  | some .rejected => a
  | _ => { a with line := a.line.follow b.name before.length (after.drop before.length) }

structure Sound {δ : Type} (a : Account) (log : List Message) (b : Bus δ) : Prop where
  since_le : a.since ≤ log.length
  counts : ∀ direction, b.statistics.counters.traffic direction
    = UInt32.ofNat (entries (log.drop a.since) b.name direction)
  sent : entries (log.drop a.since) b.name .sent = a.sent + a.accepted
  queued : entries (log.drop a.since) b.name .deferred = a.queued
  failed : entries (log.drop a.since) b.name .failed = a.rejected + a.givenUp
  passed : a.line.passed.length = a.accepted + a.givenUp
  line : a.line.Sound b.name log b.deferred.frames

theorem direction_eq (x : Frame × Except DeviceError Attempt) :
    Attempt.direction x.2 = if (Traced.taken? x).isSome then .sent else .failed := by
  obtain ⟨f, e | _ | _⟩ := x <;> rfl

/-- What becomes of the deferred frames that the device was handed. -/
theorem countP_tries (tries : List (Frame × Except DeviceError Attempt)) :
    (Bus.story none tries).countP (·.1 = .sent)
      = tries.countP (fun x => (Traced.taken? x).isSome) ∧
    (Bus.story none tries).countP (·.1 = .deferred) = 0 ∧
    (Bus.story none tries).countP (·.1 = .failed)
      = tries.countP (fun x => (Traced.taken? x).isNone) ∧
    tries.countP (fun x => (Traced.taken? x).isSome)
      + tries.countP (fun x => (Traced.taken? x).isNone) = tries.length := by
  induction tries with
  | nil => exact ⟨rfl, rfl, rfl, rfl⟩
  | cons x tries ih =>
    have hstory : Bus.story none (x :: tries)
        = (Attempt.direction x.2, x.1) :: Bus.story none tries := rfl
    rw [hstory, direction_eq]
    simp only [List.countP_cons, List.length_cons]
    cases Traced.taken? x <;> simp only [Option.isSome_none, Option.isSome_some,
      Option.isNone_none, Option.isNone_some, Bool.false_eq_true, reduceIte, reduceCtorEq,
      decide_true, decide_false] <;> omega

/-- The answers add up to the story of a turn. -/
theorem answer_drain (a : Account) (written : Option (Delivery × Frame))
    (tries : List (Frame × Except DeviceError Attempt)) :
    let after := (a.answer (written.map Prod.fst)).drain tries
    let told := Bus.story written tries
    after.sent + after.accepted = a.sent + a.accepted + told.countP (·.1 = .sent) ∧
    after.queued = a.queued + told.countP (·.1 = .deferred) ∧
    after.rejected + after.givenUp = a.rejected + a.givenUp + told.countP (·.1 = .failed) ∧
    after.accepted + after.givenUp = a.accepted + a.givenUp + tries.length := by
  obtain ⟨hsent, hdeferred, hfailed, hlength⟩ := countP_tries tries
  cases written with
  | none =>
    dsimp only [Option.map_none, answer, drain]
    omega
  | some x =>
    have hstory : Bus.story (some x) tries = (x.1.direction, x.2) :: Bus.story none tries := by
      simp [Bus.story]
    obtain ⟨delivery, f⟩ := x
    simp only [hstory, List.countP_cons, Option.map_some]
    cases delivery <;> simp only [answer, drain, Delivery.direction, Bool.false_eq_true, reduceIte,
      reduceCtorEq, decide_true, decide_false] <;> omega

theorem since_drain (a : Account) (delivery : Option Delivery)
    (tries : List (Frame × Except DeviceError Attempt)) :
    ((a.answer delivery).drain tries).since = a.since ∧
    ((a.answer delivery).drain tries).line = a.line := by
  rcases delivery with _ | _ | _ | _ <;> exact ⟨rfl, rfl⟩

/-- The entries of a story are about frames of the bus. -/
theorem entries_story {name : BusName} {story : List (Direction × Frame)}
    (horigin : ∀ x ∈ story, x.2.origin = some name) (time : Timestamp) (direction : Direction) :
    entries (story.map fun x => .ofFrame time x.1 x.2) name direction
      = story.countP (·.1 = direction) := by
  rw [entries, List.countP_map]
  refine List.countP_congr fun x hx => ?_
  simp [Message.tells, Message.ofFrame, horigin x hx]

/-- The answers of a turn, its entries and what it counts are the same. -/
theorem Sound.behindStory {δ : Type} {a : Account} {log : List Message} {b : Bus δ}
    {o : Outcome δ (Option Delivery)} {written : Option (Delivery × Frame)}
    {tries : List (Frame × Except DeviceError Attempt)} (h : a.Sound log b)
    (htold : b.Told o written tries) (time : Timestamp) {line : Line}
    (hlength : line.passed.length = a.line.passed.length + tries.length) :
    let after := log ++ (Bus.story written tries).map fun x => .ofFrame time x.1 x.2
    line.Sound b.name after o.bus.deferred.frames →
      Sound { (a.answer (written.map Prod.fst)).drain tries with line } after o.bus := by
  intro after hline
  have hentries : ∀ direction, entries (after.drop a.since) b.name direction
      = entries (log.drop a.since) b.name direction
        + (Bus.story written tries).countP (·.1 = direction) := by
    intro direction
    rw [List.drop_append_of_le_length h.since_le, entries_append, entries_story htold.origin]
  obtain ⟨hsent, hqueued, hfailed, hpassed⟩ := a.answer_drain written tries
  obtain ⟨hsince, -⟩ := a.since_drain (written.map Prod.fst) tries
  refine ⟨?_, fun direction => ?_, ?_, ?_, ?_, ?_, htold.name ▸ hline⟩
  all_goals dsimp only
  · rw [hsince, List.length_append]
    exact Nat.le_add_right_of_le h.since_le
  · rw [htold.counts, h.counts, hsince, htold.name, hentries, UInt32.ofNat_add]
  · rw [hsince, htold.name, hentries, h.sent, hsent]
  · rw [hsince, htold.name, hentries, h.queued, hqueued]
  · rw [hsince, htold.name, hentries, h.failed, hfailed]
  · rw [hlength, h.passed, hpassed]

/-- A turn tells the same to the account, to the log and to the counters. -/
theorem Sound.turn {δ : Type} [Device δ] {a : Account} {log : List Message} {b : Bus δ} {t : Turn}
    {written : Option (Delivery × Frame)} (h : a.Sound log b)
    (htold : b.Told (b.act t) written (b.drained t)) (time : Timestamp) :
    let after := log ++ (Bus.story written (b.drained t)).map fun x => .ofFrame time x.1 x.2
    (a.turn b t log after).Sound after (b.act t).bus := by
  intro after
  obtain ⟨-, hline⟩ := a.since_drain (written.map Prod.fst) (b.drained t)
  have hdrop : after.drop log.length
      = (Bus.story written (b.drained t)).map fun x => .ofFrame time x.1 x.2 := List.drop_left
  have hframes := htold.deferred
  have hdirect := htold.direct
  rw [Account.turn, htold.result, hdrop, hline]
  rw [htold.result] at hdirect
  -- A frame that is sent at once or rejected is the only one of its turn.
  have halone : written.map Prod.fst = some .sent ∨ written.map Prod.fst = some .rejected →
      Bus.deferring written = [] →
      ((a.answer (written.map Prod.fst)).drain (b.drained t)).Sound after (b.act t).bus := by
    intro hwritten hnone
    have htries : b.drained t = [] := by
      by_contra htries
      obtain ⟨hsent, hrejected⟩ := hdirect htries
      exact hwritten.elim hsent hrejected
    rw [hnone, htries, List.append_nil, List.map_nil, List.nil_append] at hframes
    have hsound := h.behindStory htold time (by rw [htries]; rfl) (hframes ▸ h.line.append _)
    rwa [← hline] at hsound
  rcases written with _ | ⟨_ | _ | _, f⟩
  · have hline := h.line
    rw [show b.deferred.frames = _ from (List.append_nil _).symm.trans hframes] at hline
    obtain ⟨hsound, hlength⟩ := hline.follow_left htold.origin time
    exact h.behindStory htold time hlength hsound
  · exact halone (.inl rfl) rfl
  · obtain ⟨hsound, hlength⟩ := h.line.follow_deferred hframes htold.origin time
    exact h.behindStory htold time hlength hsound
  · exact halone (.inr rfl) rfl

/-- A turn that has nothing to say changes no account. -/
theorem turn_eq_self {δ : Type} [Device δ] {b : Bus δ} {t : Turn} (howned : b.deferred.Of b.name)
    (heffects : (b.act t).effects = []) (a : Account) (log : List Message) :
    a.turn b t log log = a := by
  obtain ⟨written, htold⟩ := b.told_act howned t
  have hstory : Bus.story written (b.drained t) = [] := by
    have hmessages := htold.messages {}
    rw [heffects] at hmessages
    exact List.map_eq_nil_iff.mp hmessages.symm
  obtain ⟨hwritten, htries⟩ := List.append_eq_nil_iff.mp hstory
  have hresult : (b.act t).result = none := by
    rw [htold.result]
    cases written with
    | none => rfl
    | some x => cases hwritten
  rw [Account.turn, hresult, List.map_eq_nil_iff.mp htries, List.drop_length]
  rfl

variable {δ : Type} {a : Account} {log messages : List Message} {b b' : Bus δ}

/-- Frames of the bus may come in. -/
theorem Sound.quiet (h : a.Sound log b) (hname : b'.name = b.name)
    (hframes : b'.deferred.frames = b.deferred.frames)
    (hcounts : ∀ direction, b'.statistics.counters.traffic direction
      = b.statistics.counters.traffic direction + UInt32.ofNat (entries messages b.name direction))
    (hquiet : ∀ direction, direction ≠ .received → entries messages b.name direction = 0) :
    a.Sound (log ++ messages) b' := by
  have hentries : ∀ direction, entries ((log ++ messages).drop a.since) b'.name direction
      = entries (log.drop a.since) b.name direction + entries messages b.name direction := by
    intro direction
    rw [List.drop_append_of_le_length h.since_le, entries_append, hname]
  refine ⟨?_, fun direction => ?_, ?_, ?_, ?_, h.passed, ?_⟩
  · rw [List.length_append]
    exact Nat.le_add_right_of_le h.since_le
  · rw [hcounts, h.counts, hentries, UInt32.ofNat_add]
  · rw [hentries, hquiet .sent nofun, h.sent, Nat.add_zero]
  · rw [hentries, hquiet .deferred nofun, h.queued, Nat.add_zero]
  · rw [hentries, hquiet .failed nofun, h.failed, Nat.add_zero]
  · rw [hname, hframes]
    exact h.line.append messages

/-- The statistics begin anew. -/
theorem Sound.reset (h : a.Sound log b) (hname : b'.name = b.name)
    (hframes : b'.deferred.frames = b.deferred.frames)
    (hcounts : ∀ direction, b'.statistics.counters.traffic direction = 0)
    (huntold : ∀ direction, entries messages b.name direction = 0) :
    (a.reset log).Sound (log ++ messages) b' := by
  have hentries : ∀ direction,
      entries ((log ++ messages).drop (a.reset log).since) b'.name direction = 0 := by
    intro direction
    rw [show (a.reset log).since = log.length from rfl, List.drop_left, hname]
    exact huntold direction
  refine ⟨?_, fun direction => ?_, hentries _, hentries _, hentries _, rfl, ?_⟩
  · rw [List.length_append]
    exact Nat.le_add_right _ _
  · rw [hcounts, hentries]
    rfl
  · rw [hname, hframes]
    have hline := h.line.append messages
    exact ⟨hline.waiting, fun x hx => absurd hx List.not_mem_nil,
      (List.pairwise_append.mp hline.sorted).2.1, .nil⟩

/-- The deferred frames are discarded. -/
theorem Sound.discard (h : a.Sound log b) (hname : b'.name = b.name)
    (hframes : b'.deferred.frames = [])
    (hcounts : b'.statistics.counters.traffic = b.statistics.counters.traffic)
    (huntold : ∀ direction, entries messages b.name direction = 0) :
    a.discard.Sound (log ++ messages) b' := by
  have hquiet : a.Sound (log ++ messages) { b' with deferred := b.deferred } :=
    h.quiet hname rfl
      (fun direction => by rw [huntold, show _ = _ from hcounts]; exact (UInt32.add_zero _).symm)
      fun direction _ => huntold direction
  refine ⟨hquiet.since_le, hquiet.counts, hquiet.sent, hquiet.queued,
    hquiet.failed, hquiet.passed, ?_⟩
  rw [hframes]
  refine ⟨.nil, hquiet.line.passed, ?_, hquiet.line.left⟩
  show (a.line.passed.map Prod.fst ++ []).Pairwise (· < ·)
  rw [List.append_nil]
  exact (List.pairwise_append.mp hquiet.line.sorted).1

/-- The account of a bus that has counted nothing and has deferred nothing. -/
theorem Sound.fresh (hcounts : b.statistics.counters = {}) (hframes : b.deferred.frames = []) :
    Sound { since := log.length } log b := by
  have hzero : ∀ direction, entries (log.drop log.length) b.name direction = 0 := by
    intro direction
    rw [List.drop_length]
    rfl
  refine ⟨Nat.le_refl _, fun direction => ?_, hzero _, hzero _, hzero _, rfl, ?_⟩
  · rw [hzero, hcounts]
    cases direction <;> rfl
  · rw [hframes]
    exact ⟨.nil, fun x hx => absurd hx List.not_mem_nil, .nil, .nil⟩

end Account
end Fieldbus
