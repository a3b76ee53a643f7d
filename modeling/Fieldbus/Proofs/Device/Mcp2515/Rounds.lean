import Fieldbus.Proofs.Device.Mcp2515.Polling

/-! Polling on a link without failures.  Reading registers, fetching a frame and counting lead from one
state of the chip and the statistics to another (`Polling.Round.Yields`), and what finishes a round does
not disturb reception (`Polling.Spares`).  So a poll fetches the frame of the first buffer that holds
one, and leaves the other one latched (`Link.Latched.poll`). -/

namespace Fieldbus.Mcp2515

namespace Polling

/-- No transaction with this chip is going to fail, and these are the statistics. -/
structure At (c : Chip) (s : Statistics) (p : Polling) : Prop where
  link : p.link.Clear c
  statistics : p.statistics = s

/-- On a link without failures, steps of a round have a result, and lead from one state of the chip and
the statistics to another. -/
abbrev Round.Yields {α : Type} (steps : Round α) (c : Chip) (s : Statistics) (a : α) (c' : Chip)
    (s' : Statistics) : Prop :=
  Reaches (At c s) steps (.ok a) (At c' s')

section

variable {α : Type} {steps : Steps HardwareError α} {a : α} {c c' : Chip} (s : Statistics)

theorem yields_onLink (h : steps.Runs c (.ok a) c') : (onLink steps).Yields c s a c' s :=
  fun p hp => leads_onLink ((h p.link hp.link).imp fun _ _ ⟨hresult, hlink⟩ =>
    ⟨hresult, hlink, hp.statistics⟩)

theorem yields_count (f : Statistics → Statistics) (c : Chip) :
    (count f).Yields c s () c (f s) :=
  fun _ hp => ⟨rfl, hp.link, congrArg f hp.statistics⟩

theorem yields_say (n : Notice) (c : Chip) : (say n).Yields c s () c s :=
  fun _ hp => ⟨rfl, hp.link, hp.statistics⟩

end

/-! ### Fetching -/

/-- What a round makes of a record that it has fetched. -/
def ofRecord (origin : BusName) (record : List UInt8) : Received :=
  match ofImage? (some origin) record with
  | some f => .frame f
  | none => .malformed

theorem ofRecord_ne_nothing (origin : BusName) (record : List UInt8) :
    ofRecord origin record ≠ .nothing := by
  rw [ofRecord]
  cases ofImage? (some origin) record <;> rintro ⟨⟩

theorem yields_fetchFrame (origin : BusName) (c : Chip) (s : Statistics) {flags n : UInt8}
    (hn : n ∈ [(0 : UInt8), 1]) (h : readCommand? flags = some (Command.readReceive ||| n <<< 2)) :
    (fetchFrame origin flags).Yields c s
      (ofRecord origin (c.readFrom (Address.receiveBuffer n) Chip.imageLength))
      (c.unlatch n) s := by
  rw [fetchFrame, h]
  refine .bind (yields_onLink s (Steps.Runs.fetchBuffer c hn)) ?_
  rw [ofRecord]
  cases ofImage? (some origin) (c.readFrom (Address.receiveBuffer n) Chip.imageLength) <;>
    exact .pure _

/-- What a round makes of the first frame that is latched. -/
def received (origin : BusName) : Option Frame → Received
  | none => .nothing
  | some f => .frame (f.withOrigin origin)

theorem yields_fetchFrame_of_latched (origin : BusName) {c : Chip} {x y : Option Frame}
    (h : c.Latched x y) (s : Statistics) :
    ∃ c', (fetchFrame origin (c.get Address.interruptFlags)).Yields c s
        (received origin (x.or y)) c' s ∧
      c'.Latched none (x.bind fun _ => y) := by
  have hframe : ∀ (n : UInt8) {f}, n ∈ [(0 : UInt8), 1] →
      readCommand? (c.get Address.interruptFlags) = some (Command.readReceive ||| n <<< 2) →
      c.Holds n (some f) →
      (fetchFrame origin (c.get Address.interruptFlags)).Yields c s
        (.frame (f.withOrigin origin)) (c.unlatch n) s := by
    intro n f hn hcommand hholds
    have hyields := yields_fetchFrame origin c s hn hcommand
    rw [ofRecord, hholds.2, ofImage?_image] at hyields
    exact hyields
  obtain ⟨henabled, hx, hy⟩ := h
  cases x with
  | some f =>
    obtain ⟨henabled', hfree, hother⟩ := Chip.holds_unlatch (n := 0) (by decide) hy
    have hcommand : readCommand? (c.get Address.interruptFlags) = some Command.readReceive :=
      if_pos hx.1
    exact ⟨_, hframe 0 (by decide) hcommand hx, henabled'.trans henabled, hfree, hother⟩
  | none =>
    have hfirst : ¬ c.get Address.interruptFlags &&& Flag.received0 ≠ 0 := not_not_intro hx
    cases y with
    | some f =>
      obtain ⟨henabled', hfree, hother⟩ := Chip.holds_unlatch (n := 1) (by decide) hx
      have hcommand : readCommand? (c.get Address.interruptFlags)
          = some (Command.readReceive ||| 0x04) := (if_neg hfirst).trans (if_pos hy.1)
      exact ⟨_, hframe 1 (by decide) hcommand hy, henabled'.trans henabled, hother, hfree⟩
    | none =>
      have hsecond : ¬ c.get Address.interruptFlags &&& Flag.received1 ≠ 0 := not_not_intro hy
      refine ⟨c, ?_, henabled, hx, hy⟩
      rw [fetchFrame, readCommand?, if_neg hfirst, if_neg hsecond]
      exact .pure _

/-! ### Finishing -/

/-- Since the chip was in a state, its reception has not been disturbed, and no frame was counted. -/
structure Spares (c : Chip) (received : UInt32) (p : Polling) : Prop where
  failures : p.link.failures = []
  chip : c.Undisturbed p.link.chip
  received : p.statistics.counters.received = received

theorem notes_spares (c : Chip) (received : UInt32) :
    Notes (Spares c received) fun _ => False := by
  have honLink : ∀ {α : Type} {steps : Steps HardwareError α},
      (∀ c, ∃ a c', steps.Runs c (.ok a) c' ∧ c.Undisturbed c') →
      Keeps (Spares c received) (fun _ => False) (onLink steps) := by
    intro α steps h p hp
    obtain ⟨a, c', hruns, hc'⟩ := h p.link.chip
    refine leads_onLink ((hruns p.link ⟨rfl, hp.failures⟩).imp ?_)
    rintro _ link ⟨rfl, hlink⟩
    exact ⟨hlink.failures, hlink.chip ▸ hp.chip.trans hc', hp.received⟩
  exact {
    read := fun address n => honLink fun c => ⟨_, c, Steps.Runs.fetchRegisters c address n, .refl c⟩
    clearErrors := honLink fun c =>
      ⟨_, _, Steps.Runs.bitModify c _ _ _, c.undisturbed_write _ (by decide)⟩
    clearOthers := fun flags => honLink fun c =>
      ⟨_, _, Steps.Runs.bitModify c _ _ _, c.undisturbed_clearOthers flags⟩
    countOverflow := fun _ hp => ⟨hp.failures, hp.chip, hp.received⟩
    noteErrors := fun _ _ _ _ hp => ⟨hp.failures, hp.chip, hp.received⟩
    say := fun _ _ _ hp => ⟨hp.failures, hp.chip, hp.received⟩ }

/-- A round fetches the frame of the first buffer that holds one, and does not disturb the other one. -/
theorem reaches_round (origin : BusName) {c : Chip} {x y : Option Frame} (h : c.Latched x y)
    (s : Statistics) :
    ∃ c', Reaches (At c s) (round origin) (.ok (received origin (x.or y)))
        (Spares c' s.counters.received) ∧
      c'.Latched none (x.bind fun _ => y) := by
  obtain ⟨c', hfetch, hlatched⟩ := yields_fetchFrame_of_latched origin h s
  have hfinish : ∀ flags errors, Reaches (At c' s) (finish origin flags errors) (.ok ())
      (Spares c' s.counters.received) := by
    intro flags errors p hp
    have hspares : Spares c' s.counters.received p :=
      ⟨hp.link.failures, hp.link.chip ▸ .refl _, congrArg (·.counters.received) hp.statistics⟩
    exact ((notes_spares c' _).finish origin flags errors).reaches p hspares
  refine ⟨c', ?_, hlatched⟩
  rw [round_eq]
  exact .bind (yields_onLink s (Steps.Runs.fetchRegisters c _ 2))
    (.bind hfetch (.bind (hfinish _ _) (.pure _)))

end Polling

/-! ### The device -/

/-- A link without failures, to a chip whose receive buffers hold these frames. -/
structure Link.Latched (l : Link) (first second : Option Frame) : Prop where
  failures : l.failures = []
  chip : l.chip.Latched first second

namespace Link.Latched

variable {l : Link} {x y : Option Frame}

theorem after {ε α : Type} {steps : Steps ε α} {result : Except ε α} {c' : Chip}
    {x' y' : Option Frame} (h : l.Latched x y) (hruns : steps.Runs l.chip result c')
    (hc : c'.Latched x' y') : (steps.run.run l).2.Latched x' y' := by
  obtain ⟨-, hchip, hfailures⟩ := hruns l ⟨rfl, h.failures⟩
  exact ⟨hfailures, hchip ▸ hc⟩

theorem ready (h : l.Latched x y) : (Device.ready l).2.Latched x y :=
  h.after (runs_ready l.chip) h.chip

theorem transmit (h : l.Latched x y) (f : Frame) : (Device.transmit f l).2.Latched x y := by
  exact h.after (runs_transmit f l.chip) (h.chip.undisturbed (Chip.undisturbed_take f l.chip))

theorem poll (h : l.Latched x y) (origin : BusName) (s : Statistics) :
    let p := Device.poll origin s l
    p.frame = (x.or y).map (·.withOrigin origin) ∧
    p.device.Latched none (x.bind fun _ => y) ∧
    p.statistics.counters.received = s.counters.received := by
  obtain ⟨c', hreaches, hlatched⟩ := Polling.reaches_round origin h.chip s
  have hround := hreaches { link := l, statistics := s } ⟨⟨rfl, h.failures⟩, rfl⟩
  rcases hrun : (Polling.round origin).run.run { link := l, statistics := s } with ⟨result, p⟩
  rw [Leads, hrun] at hround
  obtain ⟨rfl, hspares⟩ := hround
  have hrounds : Polling.rounds origin 3 { link := l, statistics := s }
      = (some ((x.or y).map (·.withOrigin origin)), p) := by
    rw [Polling.rounds, hrun]
    cases x.or y <;> rfl
  show (Mcp2515.poll origin s l).frame = _ ∧ (Mcp2515.poll origin s l).device.Latched _ _ ∧
    (Mcp2515.poll origin s l).statistics.counters.received = _
  rw [Mcp2515.poll, hrounds]
  exact ⟨rfl, ⟨hspares.failures, hlatched.undisturbed hspares.chip⟩, hspares.received⟩

end Link.Latched

theorem latched_start {l : Link} (hfailures : l.failures = []) {setup : Setup}
    (h : (Device.start setup l).1 = .ok ()) : (Device.start setup l).2.Latched none none := by
  obtain ⟨hlink, hfresh⟩ := fresh_start hfailures h
  exact ⟨hlink, hfresh.latched⟩

end Fieldbus.Mcp2515
