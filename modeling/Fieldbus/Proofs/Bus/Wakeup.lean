import Fieldbus.Proofs.Bus.Power
import Fieldbus.Proofs.Device.Hardware

/-! What calls for another try of the deferred frames of a bus with an on-chip controller.  The drain
ends when no frame is left or the transmit buffer is occupied (`Bus.Follows.transmitDeferred`), and an
occupied buffer becomes free only by a completion, which latches an interrupt (`Controller.signals`).
So every turn of the bus leaves behind either no deferred frame or a controller that signals
(`Bus.Awake.turn`). -/

namespace Fieldbus

namespace Controller

/-- What happens to the controller from outside: traffic on the bus, and errors there. -/
inductive Event where
  | receive (f : Frame)
  | receiveRaw (info : UInt8) (id : UInt32) (data : List UInt8)
  | raise (interrupts : UInt8) (errors : ErrorRegisters)
  | hold (value : Bool)
  | complete

def event (c : Controller) : Event → Controller
  | .receive f => c.receive f
  | .receiveRaw info id data => c.arrive (.ofBytes info id data)
  | .raise interrupts errors => c.raise interrupts errors
  | .hold value => { c with holding := value }
  | .complete => c.complete

/-- The transmit interrupt is latched, or it will be, as the buffer is occupied. -/
def Signals (c : Controller) : Prop := c.pending.isSome = true ∨ c.interrupts &&& Irq.transmit ≠ 0

instance (c : Controller) : Decidable c.Signals := inferInstanceAs (Decidable (_ ∨ _))

variable {c : Controller}

/-- Interrupts that become latched leave the others latched. -/
theorem Signals.latch (h : c.Signals) (bits : UInt8) {c' : Controller}
    (hpending : c'.pending = c.pending) (hinterrupts : c'.interrupts = c.interrupts ||| bits) :
    c'.Signals := by
  rcases h with h | h
  · exact .inl (hpending ▸ h)
  · refine .inr ?_
    rw [hinterrupts, UInt8.or_comm]
    exact Flags.or_and_ne_zero _ h

theorem Signals.arrive (h : c.Signals) (m : Mailbox) : (c.arrive m).Signals := by
  rw [Controller.arrive]
  split
  · exact h
  split
  · exact h.latch Irq.dataOverrun rfl rfl
  · exact h.latch Irq.receive rfl rfl

theorem Signals.complete (h : c.Signals) : c.complete.Signals := by
  rw [Controller.complete]
  split
  · exact .inr (Flags.or_and_ne_zero _ (by decide))
  · exact h

theorem Signals.event (h : c.Signals) (e : Event) : (c.event e).Signals := by
  cases e with
  | receive f => exact h.arrive _
  | receiveRaw info id data => exact h.arrive _
  | raise interrupts errors => exact h.latch (interrupts &&& Irq.errors) rfl rfl
  | hold value => exact h
  | complete => exact h.complete

end Controller

namespace OnChip

theorem freeReadings_start (setup : Setup) (d : OnChip) :
    (Device.start setup d).2.freeReadings = d.freeReadings := by
  show (start setup d).2.freeReadings = _
  rw [start]
  split
  · rfl
  split
  · rfl
  · dsimp only
    split <;> rfl

/-- What neither reading a mailbox nor noting errors touches, the handler leaves alone. -/
theorem controller_interrupt {α : Type} (part : Controller → α)
    (hrelease : ∀ c : Controller, part c.release = part c)
    (hclear : ∀ c : Controller, part c.clearOverrun = part c)
    (htake : ∀ c : Controller, part c.takeInterrupts.2 = part c)
    (name : BusName) (s : Statistics) (d : OnChip) :
    part (Device.interrupt name s d).device.controller = part d.controller := by
  have hread : ∀ (p : Prop) [Decidable p] (c : Controller) (requests : List Request),
      part (if p then (c.release, requests) else (c, [])).1 = part c := by
    intro p _ c requests
    split
    · exact hrelease c
    · rfl
  have hnote : ∀ (p q : Prop) [Decidable p] [Decidable q] (c : Controller) (s s' s'' : Statistics),
      part (if p then if q then (s, c.clearOverrun) else (s', c) else (s'', c)).2 = part c := by
    intro p q _ _ c s s' s''
    split
    · split
      · exact hclear c
      · rfl
    · rfl
  exact (hnote _ _ _ _ _ _).trans ((hread _ _ _).trans (htake _))

/-- The handler asks for another try of the deferred frames first of all, if the transmit interrupt is
latched; it does not touch the transmit buffer. -/
theorem interrupt_cases (name : BusName) (s : Statistics) (d : OnChip) :
    let r := Device.interrupt name s d
    r.device.freeReadings = d.freeReadings ∧
    r.device.controller.pending = d.controller.pending ∧ r.requests.length ≤ 3 ∧
    (d.controller.interrupts &&& Irq.transmit ≠ 0 → .transmit ∈ r.requests) := by
  have hread : ∀ (c : Controller) (p : Prop) [Decidable p] (captured : Option Frame),
      (if p then (c.release, captured.toList.map Request.frame) else (c, [])).2.length ≤ 1 := by
    intro c p _ captured
    split
    · cases captured <;> simp
    · simp
  have hasked : ∀ (p : Prop) [Decidable p] (r : Request), (if p then [r] else []).length ≤ 1 := by
    intro p _ r
    split <;> simp
  let latched := d.controller.interrupts
  have hpending := controller_interrupt Controller.pending (fun _ => rfl) (fun _ => rfl)
    (fun _ => rfl) name s d
  refine ⟨rfl, hpending, ?_, fun htransmit => ?_⟩
  · have htransmit := hasked (latched &&& Irq.transmit ≠ 0) .transmit
    have hcaptured := hread d.controller.takeInterrupts.2 (latched &&& Irq.receive ≠ 0)
      (d.controller.takeInterrupts.2.front.capture? name)
    have herrors := hasked (latched &&& Irq.errors ≠ 0) .reportErrors
    show (_ ++ _ ++ _ : List Request).length ≤ 3
    rw [List.length_append, List.length_append]
    exact Nat.add_le_add (Nat.add_le_add htransmit hcaptured) herrors
  · refine List.mem_append_left _ (List.mem_append_left _ ?_)
    rw [if_pos htransmit]
    exact List.mem_singleton.mpr rfl

end OnChip

namespace Hardware

/-- An on-chip controller whose readings are its own. -/
def Prompt (h : Hardware) : Prop := ∃ d, h = .onChip d ∧ d.freeReadings = []

theorem lasts_prompt : Device.Lasts Prompt := by
  have hquery : ∀ {d : OnChip}, d.freeReadings = [] → d.queryFree.2.freeReadings = [] := by
    intro d hd
    rw [OnChip.queryFree_eq hd]
    exact hd
  refine ⟨?_, ?_⟩
  · rintro _ ⟨d, rfl, hd⟩
    exact ⟨_, rfl, hquery hd⟩
  · rintro f _ ⟨d, rfl, hd⟩
    refine ⟨_, rfl, ?_⟩
    show (OnChip.transmit f d).2.freeReadings = []
    rw [OnChip.transmit]
    dsimp only
    split <;> exact hquery hd

end Hardware

namespace Bus

/-- Does something to the controller of the bus, if it is an on-chip one. -/
def onController (b : Bus Hardware) (change : Controller → Controller) : Bus Hardware :=
  match b.device with
  | .onChip d => { b with device := .onChip { d with controller := change d.controller } }
  | _ => b

/-- The bus runs with a controller whose readings are its own. -/
structure Follows (b : Bus Hardware) (d : OnChip) : Prop where
  running : b.isRunning = true
  device : b.device = .onChip d
  readings : d.freeReadings = []

/-- The deferred frames of the bus, if there are any, will be tried again. -/
structure Awake (b : Bus Hardware) (d : OnChip) : Prop extends b.Follows d where
  signals : b.deferred.frames = [] ∨ d.controller.Signals

variable {b b' : Bus Hardware} {d : OnChip}

theorem Follows.transmits (h : b.Follows d)
    (htransmits : ∀ {P : Hardware → Prop}, Device.Lasts P → Transmits P b b') :
    ∃ d', b'.Follows d' := by
  have hlasts := htransmits Hardware.lasts_prompt
  obtain ⟨d', hdevice, hreadings⟩ := hlasts.device ⟨d, h.device, h.readings⟩
  have hrunning : b'.isRunning = b.isRunning := congrArg (decide <| · = Power.on) hlasts.power
  exact ⟨d', hrunning.trans h.running, hdevice, hreadings⟩

theorem Follows.ready (h : b.Follows d) :
    Device.ready b.device = (.ok d.controller.pending.isNone, .onChip d) := by
  have hfree : d.queryFree = (d.controller.pending.isNone, d) := OnChip.queryFree_eq h.readings
  rw [h.device]
  show ((Except.ok d.queryFree.1, Hardware.onChip d.queryFree.2) : _ × _) = _
  rw [hfree]

theorem Follows.transmit (h : b.Follows d) (f : Frame) :
    Device.transmit f b.device
      = if d.controller.pending.isNone then
          (.ok .accepted, .onChip { d with controller := (d.controller.load (.ofFrame f)).request })
        else (.ok .busy, .onChip d) := by
  have hfree : d.queryFree = (d.controller.pending.isNone, d) := OnChip.queryFree_eq h.readings
  rw [h.device]
  show (Hardware.wrap .onChip (OnChip.transmit f d)) = _
  rw [OnChip.transmit, hfree]
  dsimp only
  split <;> rfl

/-- The drain ends when no frame is left, or with an occupied buffer. -/
theorem Follows.moveDeferred {frames : List Frame} (h : b.Follows d)
    (hframes : b.deferred.frames = frames) :
    ∃ d', (b.moveDeferred frames).1.Awake d' := by
  induction frames generalizing b d with
  | nil =>
    rw [Bus.moveDeferred, h.ready]
    exact ⟨d, ⟨h.running, rfl, h.readings⟩, .inl hframes⟩
  | cons f frames ih =>
    rw [Bus.moveDeferred, h.ready]
    cases hpending : d.controller.pending with
    | some m => exact ⟨d, ⟨h.running, rfl, h.readings⟩, .inr (.inl (by rw [hpending]; rfl))⟩
    | none =>
      have htransmit := h.transmit f
      rw [hpending, h.device] at htransmit
      dsimp only [Option.isNone]
      rw [htransmit]
      let after : OnChip := { d with controller := (d.controller.load (.ofFrame f)).request }
      let b' := ((b.behindFirst (.onChip after)).noteSent f).1
      have hfollows : b'.Follows after := ⟨h.running, rfl, h.readings⟩
      have hrest : b'.deferred.frames = frames := by
        show b.deferred.pop.frames = frames
        rw [Deferred.frames_pop, hframes, List.tail_cons]
      exact ih hfollows hrest

theorem Follows.transmitDeferred (h : b.Follows d) : ∃ d', b.transmitDeferred.1.Awake d' := by
  rw [Bus.transmitDeferred, if_pos h.running]
  exact h.moveDeferred rfl

theorem Follows.defer (h : b.Follows d) (f : Frame) : ∃ d', (b.defer f).bus.Awake d' :=
  Follows.transmitDeferred ⟨h.running, h.device, h.readings⟩

theorem Awake.deferOrWait (h : b.Awake d) (f : Frame) (patient : Bool) (ticket : Nat) :
    ∃ d', (b.deferOrWait f patient ticket).bus.Awake d' := by
  rw [Bus.deferOrWait]
  split
  · exact h.defer f
  split
  · exact ⟨d, ⟨h.running, h.device, h.readings⟩, h.signals⟩
  · exact ⟨d, ⟨h.running, h.device, h.readings⟩, h.signals⟩

theorem Awake.write (h : b.Awake d) (f : Frame) (patient : Bool) (ticket : Nat) :
    ∃ d', (b.write f patient ticket).bus.Awake d' := by
  rw [Bus.write, h.running]
  dsimp only
  rw [if_neg (by decide)]
  split
  · next hused =>
    have hframes : b.deferred.frames = [] := by
      refine List.eq_nil_of_length_eq_zero ?_
      rw [Deferred.used] at hused
      omega
    rw [h.transmit]
    cases hpending : d.controller.pending with
    | none => exact ⟨_, ⟨h.running, rfl, h.readings⟩, .inl hframes⟩
    | some m =>
      have hsame : ({ b with device := .onChip d } : Bus Hardware).Awake d :=
        ⟨⟨h.running, rfl, h.readings⟩, h.signals⟩
      exact hsame.deferOrWait _ _ _
  · exact h.deferOrWait _ _ _

theorem Awake.resume (h : b.Awake d) (ticket : Nat) : ∃ d', (b.resume ticket).bus.Awake d' := by
  rw [Bus.resume]
  split
  · next f deferred _ =>
    exact Follows.defer (b := { b with deferred }) ⟨h.running, h.device, h.readings⟩ f
  · exact ⟨d, h⟩

theorem Awake.expire (h : b.Awake d) (ticket : Nat) : ∃ d', (b.expire ticket).bus.Awake d' := by
  rw [Bus.expire]
  split
  · next f deferred habandon =>
    obtain ⟨hframes, -⟩ := Deferred.abandon?_eq_some habandon
    refine ⟨d, ⟨h.running, h.device, h.readings⟩, ?_⟩
    show deferred.frames = [] ∨ _
    rw [hframes]
    exact h.signals
  · exact ⟨d, h⟩

theorem Awake.turn (h : b.Awake d) (t : Turn) : ∃ d', (b.turn t).Awake d' := by
  cases t with
  | write f patient ticket => exact h.write f patient ticket
  | resume ticket => exact h.resume ticket
  | expire ticket => exact h.expire ticket
  | transmitDeferred => exact h.transmitDeferred

theorem Awake.event (h : b.Awake d) (e : Controller.Event) :
    ∃ d', (b.onController (·.event e)).Awake d' := by
  rw [Bus.onController, h.device]
  exact ⟨_, ⟨h.running, rfl, h.readings⟩, h.signals.imp id (·.event e)⟩

theorem Follows.handled (h : b.Follows d) :
    (∃ d', b.handled.Follows d') ∧ b.requests.length ≤ 3 := by
  obtain ⟨hreadings, -, hlength, -⟩ := OnChip.interrupt_cases b.name b.statistics d
  refine ⟨⟨_, h.running, ?_, hreadings.trans h.readings⟩, ?_⟩
  · rw [Bus.handled, h.device]
    rfl
  · rw [requests, h.device]
    exact hlength

/-- The handler takes a latched call away from the controller, and passes it on. -/
theorem Awake.handled (h : b.Awake d) : (∃ d', b.handled.Awake d') ∨ .transmit ∈ b.requests := by
  obtain ⟨hreadings, hpending, -, hrequests⟩ := OnChip.interrupt_cases b.name b.statistics d
  have hdevice : b.handled.device = .onChip (Device.interrupt b.name b.statistics d).device := by
    rw [Bus.handled, h.device]
    rfl
  have hfollows := Follows.mk (b := b.handled) h.running hdevice (hreadings.trans h.readings)
  rcases h.signals with hframes | hoccupied | hlatched
  · exact .inl ⟨_, hfollows, .inl hframes⟩
  · exact .inl ⟨_, hfollows, .inr (.inl (hpending ▸ hoccupied))⟩
  · refine .inr ?_
    rw [requests, h.device]
    exact hrequests hlatched

end Bus
end Fieldbus
