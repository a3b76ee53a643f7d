import Fieldbus.Proofs.Bus.Order
import Fieldbus.Proofs.Bus.Power
import Fieldbus.Proofs.Device.Counting

/-! What the turns of a bus record and count.  The story of a turn is what becomes of the frame that is
written and of the deferred frames that the device is handed.  A turn records its story, entry by
entry, and counts each entry (`Bus.told_act`). -/

namespace Fieldbus

/-- How an entry names what became of a frame that was written. -/
def Delivery.direction : Delivery → Direction
  | .sent => .sent
  | .queued => .deferred
  | .rejected => .failed

/-- How an entry names what the device answered about a deferred frame. -/
def Attempt.direction : Except DeviceError Attempt → Direction
  | .ok .accepted => .sent
  | _ => .failed

theorem Attempt.direction_of_ne {answer : Except DeviceError Attempt} (h : answer ≠ .ok .accepted) :
    direction answer = .failed := by
  rcases answer with e | _ | _
  · rfl
  · exact absurd rfl h
  · rfl

def Message.ofFrame (time : Timestamp) (direction : Direction) (f : Frame) : Message :=
  ⟨f.origin, time, .frame direction f⟩

namespace Effect

/-- What the active logger is handed. -/
def message? (time : Timestamp) : Effect → Option Message
  | .entry origin e => some ⟨origin, time, e⟩
  | .notice _ => none

/-- The effect is no report of a logger. -/
def Plain : Effect → Prop
  | .notice n => n.message? = none
  | .entry .. => True

end Effect

namespace Deferred

/-- All frames that are deferred, or whose writers wait, are of one bus. -/
structure Of (d : Deferred) (name : BusName) : Prop where
  frames : ∀ f ∈ d.frames, f.origin = some name
  writers : ∀ w ∈ d.writers, w.frame.origin = some name

namespace Of

variable {d d' : Deferred} {name : BusName} {f : Frame}

theorem push (h : d.Of name) (hf : f.origin = some name) : (d.push f).Of name := by
  refine ⟨fun g hg => ?_, h.writers⟩
  rcases List.mem_append.mp hg with hg | hg
  · exact h.frames g hg
  · rw [List.mem_singleton.mp hg]
    exact hf

theorem await (h : d.Of name) {w : Writer} (hw : w.frame.origin = some name) :
    (d.await w).Of name := by
  refine ⟨h.frames, fun v hv => ?_⟩
  rw [Deferred.writers, Deferred.await, ← List.append_assoc] at hv
  rcases List.mem_append.mp hv with hv | hv
  · exact h.writers v hv
  · rw [List.mem_singleton.mp hv]
    exact hw

theorem pop (h : d.Of name) : d.pop.Of name := by
  refine ⟨fun f hf => h.frames f ?_, fun w hw => h.writers w ?_⟩
  · rw [frames_pop] at hf
    exact List.mem_of_mem_tail hf
  · rwa [writers_pop] at hw

theorem clear (h : d.Of name) : d.clear.Of name := by
  refine ⟨fun f hf => ?_, fun w hw => h.writers w ?_⟩
  · rw [frames_clear] at hf
    exact absurd hf List.not_mem_nil
  · rwa [writers_clear] at hw

theorem redeem? (h : d.Of name) {ticket : Nat} (hd : d.redeem? ticket = some (f, d')) :
    f.origin = some name ∧ d'.Of name := by
  obtain ⟨hmem, hsubset⟩ := writer_of_redeem? hd
  obtain ⟨hframes, -⟩ := redeem?_eq_some hd
  exact ⟨h.writers _ hmem, hframes ▸ h.frames, fun w hw => h.writers w (hsubset w hw)⟩

theorem abandon? (h : d.Of name) {ticket : Nat} (hd : d.abandon? ticket = some (f, d')) :
    f.origin = some name ∧ d'.Of name := by
  obtain ⟨hframes, -⟩ := abandon?_eq_some hd
  have hsubset := writers_of_abandon? hd
  obtain ⟨w, hw, heq⟩ := Option.map_eq_some_iff.mp hd
  refine ⟨?_, hframes ▸ h.frames, fun w hw => h.writers w (hsubset w hw)⟩
  obtain rfl : w.frame = f := congrArg Prod.fst heq
  exact h.writers w (List.mem_append_right _ (List.mem_of_find?_eq_some hw))

end Of
end Deferred

namespace Bus

variable {δ : Type}

/-- What a turn answers to a writer who is done, and what it changes. -/
def act [Device δ] (b : Bus δ) : Turn → Outcome δ (Option Delivery)
  | .write f patient ticket => answered (b.write f patient ticket)
  | .resume ticket => answered (b.resume ticket)
  | .expire ticket => answered (b.expire ticket)
  | .transmitDeferred =>
    { result := none, bus := b.transmitDeferred.1, effects := b.transmitDeferred.2 }
where
  answered (o : Outcome δ (Except DeviceError Writing)) : Outcome δ (Option Delivery) :=
    { result :=
        match o.result with
        | .ok (.done delivery) => some delivery
        | _ => none
      bus := o.bus
      effects := o.effects }

/-- How often a turn tries the hardware with the frame that is written, before any deferred one. -/
def ownAttempts (b : Bus δ) : Turn → Nat
  | .write .. => if b.isRunning ∧ b.deferred.used = 0 then 1 else 0
  | _ => 0

/-- The deferred frames that a turn hands to the device, with its answers. -/
def drained [Device δ] (b : Bus δ) (t : Turn) : List (Frame × Except DeviceError Attempt) :=
  (b.trace.act t).bus.device.handed.drop (b.ownAttempts t)

/-- What becomes of the frame that is written, and of the deferred ones. -/
def story (written : Option (Delivery × Frame))
    (tries : List (Frame × Except DeviceError Attempt)) : List (Direction × Frame) :=
  (written.map fun (delivery, f) => (delivery.direction, f)).toList
    ++ tries.map fun (f, answer) => (Attempt.direction answer, f)

/-- The frame that is deferred by a turn. -/
def deferring : Option (Delivery × Frame) → List Frame
  | some (.queued, f) => [f]
  | _ => []

/-- An operation records and counts what becomes of the frames of the bus, and nothing else. -/
structure Told (b : Bus δ) (o : Outcome δ (Option Delivery)) (written : Option (Delivery × Frame))
    (tries : List (Frame × Except DeviceError Attempt)) : Prop where
  result : o.result = written.map Prod.fst
  name : o.bus.name = b.name
  owned : o.bus.deferred.Of b.name
  origin : ∀ x ∈ story written tries, x.2.origin = some b.name
  deferred : b.deferred.frames ++ deferring written = tries.map Prod.fst ++ o.bus.deferred.frames
  direct : tries ≠ [] → o.result ≠ some .sent ∧ o.result ≠ some .rejected
  messages : ∀ time, o.effects.filterMap (Effect.message? time)
    = (story written tries).map fun (direction, f) => .ofFrame time direction f
  plain : ∀ e ∈ o.effects, e.Plain
  counts : ∀ direction, o.bus.statistics.counters.traffic direction
    = b.statistics.counters.traffic direction
      + UInt32.ofNat ((story written tries).countP (·.1 = direction))

namespace Told

variable {b b' b'' : Bus δ} {f : Frame} {said : List Effect} {written : Option (Delivery × Frame)}
  {tries : List (Frame × Except DeviceError Attempt)}

/-- Nothing becomes of any frame. -/
theorem idle (hname : b'.name = b.name) (hframes : b'.deferred.frames = b.deferred.frames)
    (howned : b'.deferred.Of b.name)
    (hcounts : b'.statistics.counters.traffic = b.statistics.counters.traffic) :
    Told b ⟨none, b', []⟩ none [] where
  result := rfl
  name := hname
  owned := howned
  origin := fun _ hx => absurd hx List.not_mem_nil
  deferred := by simp [deferring, hframes]
  direct := fun h => absurd rfl h
  messages := fun _ => rfl
  plain := fun _ he => absurd he List.not_mem_nil
  counts := fun direction => by
    rw [hcounts]
    exact (UInt32.add_zero _).symm

/-- The writer of a frame is done, and no deferred frame was tried. -/
theorem deliver {delivery : Delivery} (hname : b'.name = b.name) (howned : b'.deferred.Of b.name)
    (hf : f.origin = some b.name)
    (hframes : b.deferred.frames ++ deferring (some (delivery, f)) = b'.deferred.frames)
    (hcounts : ∀ direction, b'.statistics.counters.traffic direction
      = b.statistics.counters.traffic direction
        + if delivery.direction = direction then 1 else 0) :
    Told b ⟨some delivery, b', [.frame delivery.direction f]⟩ (some (delivery, f)) [] where
  result := rfl
  name := hname
  owned := howned
  origin := by
    rintro x hx
    rw [List.mem_singleton.mp hx]
    exact hf
  deferred := hframes
  direct := fun h => absurd rfl h
  messages := fun _ => rfl
  plain := by
    rintro e he
    rw [List.mem_singleton.mp he]
    exact trivial
  counts := fun direction => by
    rw [hcounts, story, List.map_nil, List.append_nil]
    by_cases h : delivery.direction = direction <;> simp [h]

theorem notice (h : Told b ⟨none, b', said⟩ none tries) {n : Notice} (hn : n.message? = none) :
    Told b ⟨none, b', said ++ [.notice n]⟩ none tries where
  result := rfl
  name := h.name
  owned := h.owned
  origin := h.origin
  deferred := h.deferred
  direct := h.direct
  messages := fun time => by
    rw [← h.messages time, List.filterMap_append]
    exact List.append_nil _
  plain := fun e he => by
    rcases List.mem_append.mp he with he | he
    · exact h.plain e he
    · rw [List.mem_singleton.mp he]
      exact hn
  counts := h.counts

theorem withDevice (h : Told b ⟨none, b', said⟩ none tries) (device : δ) :
    Told b ⟨none, { b' with device }, said⟩ none tries :=
  ⟨rfl, h.name, h.owned, h.origin, h.deferred, h.direct, h.messages, h.plain, h.counts⟩

/-- One more of the deferred frames is tried. -/
theorem attempt (h : Told b ⟨none, b', said⟩ none tries) {rest : List Frame}
    (hframes : b'.deferred.frames = f :: rest) {answer : Except DeviceError Attempt}
    (hname : b''.name = b'.name) (hdeferred : b''.deferred = b'.deferred.pop)
    (hcounts : ∀ direction, b''.statistics.counters.traffic direction
      = b'.statistics.counters.traffic direction
        + if Attempt.direction answer = direction then 1 else 0) :
    Told b ⟨none, b'', said ++ [.frame (Attempt.direction answer) f]⟩ none
      (tries ++ [(f, answer)]) := by
  have hstory : story none (tries ++ [(f, answer)])
      = story none tries ++ [(Attempt.direction answer, f)] := by
    simp [story]
  have hf : f.origin = some b.name := h.owned.frames f (hframes ▸ List.mem_cons_self)
  refine ⟨rfl, hname.trans h.name, hdeferred ▸ h.owned.pop, ?_, ?_,
    fun _ => ⟨nofun, nofun⟩, ?_, ?_, ?_⟩
  · rw [hstory]
    intro x hx
    rcases List.mem_append.mp hx with hx | hx
    · exact h.origin x hx
    · rw [List.mem_singleton.mp hx]
      exact hf
  · have hbefore := h.deferred
    dsimp only at hbefore ⊢
    rw [hbefore, hdeferred, Deferred.frames_pop, hframes]
    simp
  · intro time
    dsimp only
    rw [hstory, List.filterMap_append, List.map_append, h.messages time]
    rfl
  · intro e he
    rcases List.mem_append.mp he with he | he
    · exact h.plain e he
    · rw [List.mem_singleton.mp he]
      exact trivial
  · intro direction
    dsimp only
    rw [hcounts, h.counts, hstory, List.countP_append, UInt32.ofNat_add, UInt32.add_assoc]
    by_cases hdirection : Attempt.direction answer = direction <;> simp [hdirection]

/-- A frame is deferred, and then the deferred ones are tried. -/
theorem defer (h : Told b' ⟨none, b'', said⟩ none tries) (hname : b'.name = b.name)
    (hf : f.origin = some b.name) (hframes : b'.deferred.frames = b.deferred.frames ++ [f])
    (hcounts : ∀ direction, b'.statistics.counters.traffic direction
      = b.statistics.counters.traffic direction + if .deferred = direction then 1 else 0) :
    Told b ⟨some .queued, b'', .frame .deferred f :: said⟩ (some (.queued, f)) tries := by
  have hstory : story (some (.queued, f)) tries = (.deferred, f) :: story none tries := by
    simp [story, Delivery.direction]
  refine ⟨rfl, h.name.trans hname, hname ▸ h.owned, ?_, ?_, fun _ => ⟨nofun, nofun⟩, ?_, ?_, ?_⟩
  · rw [hstory]
    intro x hx
    rcases List.mem_cons.mp hx with rfl | hx
    · exact hf
    · exact hname ▸ h.origin x hx
  · have hafter := h.deferred
    rw [hframes, show deferring none = [] from rfl, List.append_nil] at hafter
    exact hafter
  · intro time
    rw [hstory, List.map_cons, ← h.messages time]
    rfl
  · intro e he
    rcases List.mem_cons.mp he with rfl | he
    · exact trivial
    · exact h.plain e he
  · intro direction
    dsimp only
    rw [h.counts, hcounts, hstory, List.countP_cons, UInt32.add_assoc, Nat.add_comm,
      UInt32.ofNat_add]
    by_cases hdirection : Direction.deferred = direction <;> simp [hdirection]

/-- The turn of a bus that differs in nothing that is told. -/
theorem ofBefore {o : Outcome δ (Option Delivery)} (h : Told b' o written tries)
    (hname : b'.name = b.name) (hframes : b'.deferred.frames = b.deferred.frames)
    (hcounts : b'.statistics.counters.traffic = b.statistics.counters.traffic) :
    Told b o written tries :=
  ⟨h.result, h.name.trans hname, hname ▸ h.owned, hname ▸ h.origin, hframes ▸ h.deferred, h.direct,
    h.messages, h.plain, hcounts ▸ h.counts⟩

end Told

section Turns

variable [Device δ]

theorem told_transmitDeferred (b : Bus (Traced δ)) (howned : b.deferred.Of b.name) :
    ∃ tries, b.transmitDeferred.1.device.handed = b.device.handed ++ tries ∧
      Told b ⟨none, b.transmitDeferred.1, b.transmitDeferred.2⟩ none tries := by
  rw [transmitDeferred]
  split
  case isFalse => exact ⟨[], (List.append_nil _).symm, .idle rfl rfl howned rfl⟩
  let P (frames : List Frame) (b' : Bus (Traced δ)) (said : List Effect) : Prop :=
    b'.deferred.frames = frames ∧ ∃ tries, b'.device.handed = b.device.handed ++ tries ∧
      Told b ⟨none, b', said⟩ none tries
  have hP : P b.deferred.frames b [] :=
    ⟨rfl, [], (List.append_nil _).symm, .idle rfl rfl howned rfl⟩
  -- A frame that the device was handed is recorded and counted by its answer.
  have hround : ∀ {f frames b' said answer device after} (statistics : Statistics),
      P (f :: frames) b' said → Device.ready b'.device = (.ok true, device) →
      Device.transmit f device = (answer, after) →
      (∀ direction, statistics.counters.traffic direction
        = b'.statistics.counters.traffic direction
          + if Attempt.direction answer = direction then 1 else 0) →
      P frames { b'.behindFirst after with statistics }
        (said ++ [.frame (Attempt.direction answer) f]) := by
    rintro f frames b' said answer device after statistics ⟨hframes, tries, hhanded, htold⟩
      hready htransmit hcounts
    have hafter : after.handed = b'.device.handed ++ [(f, answer)] := by
      obtain rfl := congrArg Prod.snd hready
      obtain ⟨rfl, rfl⟩ := Prod.mk.inj htransmit
      rfl
    refine ⟨?_, tries ++ [(f, answer)], ?_, htold.attempt hframes rfl rfl hcounts⟩
    · show b'.deferred.pop.frames = frames
      rw [Deferred.frames_pop, hframes, List.tail_cons]
    · show after.handed = _
      rw [hafter, hhanded, List.append_assoc]
  refine Exists.elim (moveDeferred_induct ?rest ?notice ?sent ?failed hP) fun _ h => h.2
  case rest =>
    rintro frames b' said answer device ⟨hframes, tries, hhanded, htold⟩ hready -
    obtain rfl := congrArg Prod.snd hready
    exact ⟨hframes, tries, hhanded, htold.withDevice _⟩
  case notice =>
    rintro frames b' said n hn ⟨hframes, tries, hhanded, htold⟩
    exact ⟨hframes, tries, hhanded, htold.notice hn⟩
  case sent =>
    intro f frames b' said device after h hready htransmit
    exact hround b'.statistics.countSent h hready htransmit b'.statistics.traffic_countSent
  case failed =>
    intro f frames b' said answer device after h hready htransmit hanswer
    have hcounts := b'.statistics.traffic_countTransmitOverflow
    rw [← Attempt.direction_of_ne hanswer] at hcounts ⊢
    exact hround b'.statistics.countTransmitOverflow h hready htransmit hcounts

theorem told_defer (b : Bus (Traced δ)) (howned : b.deferred.Of b.name) {f : Frame}
    (hf : f.origin = some b.name) :
    ∃ tries, (b.defer f).bus.device.handed = b.device.handed ++ tries ∧
      Told b (act.answered (b.defer f)) (some (.queued, f)) tries := by
  obtain ⟨tries, hhanded, htold⟩ := told_transmitDeferred
    { b with statistics := b.statistics.countDelayed, deferred := b.deferred.push f }
    (howned.push hf)
  exact ⟨tries, hhanded, htold.defer rfl hf rfl b.statistics.traffic_countDelayed⟩

omit [Device δ] in
theorem told_reject (b : Bus δ) (howned : b.deferred.Of b.name) {f : Frame}
    (hf : f.origin = some b.name) :
    Told b (act.answered (b.reject f)) (some (.rejected, f)) [] :=
  .deliver rfl howned hf (List.append_nil _) b.statistics.traffic_countTransmitOverflow

theorem told_deferOrWait (b : Bus (Traced δ)) (howned : b.deferred.Of b.name) {f : Frame}
    (hf : f.origin = some b.name) (patient : Bool) (ticket : Nat) :
    ∃ written tries,
      (b.deferOrWait f patient ticket).bus.device.handed = b.device.handed ++ tries ∧
      Told b (act.answered (b.deferOrWait f patient ticket)) written tries := by
  rw [deferOrWait]
  split
  · obtain ⟨tries, h⟩ := told_defer b howned hf
    exact ⟨_, tries, h⟩
  split
  · exact ⟨_, [], (List.append_nil _).symm, .idle rfl rfl (howned.await hf) rfl⟩
  · exact ⟨_, [], (List.append_nil _).symm, told_reject b howned hf⟩

theorem told_write (b : Bus (Traced δ)) (howned : b.deferred.Of b.name) (f : Frame)
    (patient : Bool) (ticket : Nat) :
    ∃ own written tries, own.length = b.ownAttempts (.write f patient ticket) ∧
      (b.write f patient ticket).bus.device.handed = b.device.handed ++ (own ++ tries) ∧
      Told b (act.answered (b.write f patient ticket)) written tries := by
  have hf : (f.withOrigin b.name).origin = some b.name := rfl
  rw [write, ownAttempts]
  dsimp only
  cases hrunning : b.isRunning with
  | false =>
    exact ⟨[], none, [], rfl, (List.append_nil _).symm, .idle rfl rfl howned rfl⟩
  | true =>
    by_cases hnone : b.deferred.used = 0
    case neg =>
      obtain ⟨written, tries, hhanded, htold⟩ := told_deferOrWait b howned hf patient ticket
      simp only [hnone]
      exact ⟨[], written, tries, rfl, hhanded, htold⟩
    rcases ht : Device.transmit (f.withOrigin b.name) b.device with ⟨answer, after⟩
    have hafter : after.handed = b.device.handed ++ [(f.withOrigin b.name, answer)] := by
      obtain ⟨rfl, rfl⟩ := Prod.mk.inj ht
      rfl
    refine ⟨[(f.withOrigin b.name, answer)], ?_⟩
    simp only [hnone]
    rcases answer with e | _ | _
    · exact ⟨none, [], rfl, hafter, .idle rfl rfl howned rfl⟩
    · exact ⟨_, [], rfl, hafter,
        .deliver rfl howned hf (List.append_nil _) b.statistics.traffic_countSent⟩
    · obtain ⟨written, tries, hhanded, htold⟩ :=
        told_deferOrWait { b with device := after } howned hf patient ticket
      refine ⟨written, tries, rfl, ?_, htold.ofBefore rfl rfl rfl⟩
      rw [← List.append_assoc, ← hafter]
      exact hhanded

theorem told_act_trace (b : Bus (Traced δ)) (howned : b.deferred.Of b.name) (t : Turn) :
    ∃ own written tries, own.length = b.ownAttempts t ∧
      (b.act t).bus.device.handed = b.device.handed ++ (own ++ tries) ∧
      Told b (b.act t) written tries := by
  cases t with
  | write f patient ticket => exact told_write b howned f patient ticket
  | resume ticket =>
    refine ⟨[], ?_⟩
    rw [act, resume]
    split
    · next f deferred hredeem =>
      obtain ⟨hf, hdeferred⟩ := howned.redeem? hredeem
      obtain ⟨tries, hhanded, htold⟩ := told_defer { b with deferred } hdeferred hf
      have hframes := (Deferred.redeem?_eq_some hredeem).1
      exact ⟨_, tries, rfl, hhanded, htold.ofBefore rfl hframes rfl⟩
    · exact ⟨none, [], rfl, (List.append_nil _).symm, .idle rfl rfl howned rfl⟩
  | expire ticket =>
    refine ⟨[], ?_⟩
    rw [act, expire]
    split
    · next f deferred habandon =>
      obtain ⟨hf, hdeferred⟩ := howned.abandon? habandon
      have htold := told_reject { b with deferred } hdeferred hf
      have hframes := (Deferred.abandon?_eq_some habandon).1
      exact ⟨_, [], rfl, (List.append_nil _).symm, htold.ofBefore rfl hframes rfl⟩
    · exact ⟨none, [], rfl, (List.append_nil _).symm, .idle rfl rfl howned rfl⟩
  | transmitDeferred =>
    obtain ⟨tries, hhanded, htold⟩ := told_transmitDeferred b howned
    exact ⟨[], none, tries, rfl, hhanded, htold⟩

theorem untrace_act (b : Bus (Traced δ)) (t : Turn) : (b.act t).untrace = b.untrace.act t := by
  cases t with
  | write f patient ticket => exact congrArg act.answered (b.untrace_write f patient ticket)
  | resume ticket => exact congrArg act.answered (b.untrace_resume ticket)
  | expire ticket => exact congrArg act.answered (b.untrace_expire ticket)
  | transmitDeferred =>
    obtain ⟨hbus, heffects⟩ := b.untrace_transmitDeferred
    show (⟨none, b.transmitDeferred.1.untrace, b.transmitDeferred.2⟩ : Outcome δ _) = _
    rw [hbus, heffects]
    rfl

/-- A turn records what becomes of the frame that is written and of the deferred frames that the device
is handed, and counts just that. -/
theorem told_act (b : Bus δ) (howned : b.deferred.Of b.name) (t : Turn) :
    ∃ written, Told b (b.act t) written (b.drained t) := by
  obtain ⟨own, written, tries, hown, hhanded, htold⟩ := told_act_trace b.trace howned t
  have hdrained : b.drained t = tries := by
    have hlength : b.ownAttempts t = own.length := hown.symm
    rw [drained, hhanded, hlength]
    exact List.drop_left
  have huntrace : b.act t = (b.trace.act t).untrace := (untrace_act b.trace t).symm
  refine ⟨written, ?_⟩
  rw [hdrained, huntrace]
  exact ⟨htold.result, htold.name, htold.owned, htold.origin, htold.deferred, htold.direct,
    htold.messages, htold.plain, htold.counts⟩

theorem isOk_deferOrWait (b : Bus δ) (f : Frame) (patient : Bool) (ticket : Nat) :
    (b.deferOrWait f patient ticket).result.isOk = true := by
  rw [deferOrWait]
  split_ifs <;> rfl

/-- Only the hardware and a bus that does not run answer a write with an error, and then nothing has
happened to the bus. -/
theorem write_error {b : Bus δ} {f : Frame} {patient : Bool} {ticket : Nat} {e : DeviceError}
    (h : (b.write f patient ticket).result = .error e) :
    ∃ device, (b.write f patient ticket).bus = { b with device } ∧
      (b.write f patient ticket).effects = [] := by
  have hwaits : ∀ (b : Bus δ) (f : Frame), (b.deferOrWait f patient ticket).result ≠ .error e := by
    intro b f hwait
    have hok := b.isOk_deferOrWait f patient ticket
    rw [hwait] at hok
    cases hok
  rw [write] at h ⊢
  dsimp only at h ⊢
  split_ifs at h ⊢
  · exact ⟨b.device, rfl, rfl⟩
  · rcases ht : Device.transmit (f.withOrigin b.name) b.device with ⟨_ | _ | _, after⟩
    · exact ⟨after, rfl, rfl⟩
    · rw [ht] at h
      cases h
    · rw [ht] at h
      exact absurd h (hwaits _ _)
  · exact absurd h (hwaits _ _)

end Turns

end Bus
end Fieldbus
