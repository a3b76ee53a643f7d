import Fieldbus.Proofs.Bus.Commands
import Fieldbus.Proofs.Hub.Wakeup

/-! Starting a bus that runs.  A start throws away what the controller has pending and what it has
latched, and with them the call for another try of the deferred frames; these are kept.  So they are
going to move if the call had reached the queue by then, and wait for another write if it had not
(`Service.retry_events`).  A bus that is off has no deferred frames, so a start strands none there. -/

namespace Fieldbus

/-! ### A device that does not fail -/

namespace OnChip

/-- The driver reads the registers of the controller, and the transceiver works. -/
structure Steady (d : OnChip) : Prop where
  freeReadings : d.freeReadings = []
  resetReading : d.resetReading = none
  transceiver : d.controller.transceiverFails = false

variable {d : OnChip}

theorem Steady.ofController (h : d.Steady) {c : Controller}
    (hc : c.transceiverFails = d.controller.transceiverFails) :
    Steady { d with controller := c } :=
  ⟨h.freeReadings, h.resetReading, hc.trans h.transceiver⟩

/-- A start empties the controller. -/
theorem Steady.start (h : d.Steady) (setup : Setup) :
    (Device.start setup d).1 = .ok () ∧ (Device.start setup d).2.Steady ∧
    (Device.start setup d).2.controller.pending = none ∧
    (Device.start setup d).2.controller.interrupts = 0 := by
  obtain ⟨controller, resetReading, freeReadings⟩ := d
  obtain ⟨rfl, rfl, htransceiver⟩ := h
  have hstart : Device.start setup (⟨controller, none, []⟩ : OnChip) = start setup _ := rfl
  simp only at htransceiver
  simp [hstart, start, Controller.setReset, Controller.configure, Controller.setTransceiver,
    Controller.takeInterrupts, readsReset, htransceiver]
  exact ⟨rfl, rfl, rfl⟩

theorem Steady.stop (h : d.Steady) :
    (Device.stop d).1 = .ok () ∧ (Device.stop d).2.Steady := by
  obtain ⟨controller, resetReading, freeReadings⟩ := d
  obtain ⟨rfl, rfl, htransceiver⟩ := h
  have hstop : Device.stop (⟨controller, none, []⟩ : OnChip) = stop _ := rfl
  simp only at htransceiver
  simp [hstop, stop, Controller.setReset, Controller.setTransceiver, readsReset, htransceiver]
  exact ⟨rfl, rfl, rfl⟩

theorem Steady.request (h : d.Steady) (m : Mailbox) :
    Steady { d with controller := (d.controller.load m).request } := by
  apply h.ofController
  unfold Controller.request
  split
  · rfl
  · unfold Controller.complete
    split <;> rfl

theorem Steady.event (h : d.Steady) (e : Controller.Event) :
    Steady { d with controller := d.controller.event e } := by
  have harrive : ∀ m, (d.controller.arrive m).transceiverFails = d.controller.transceiverFails := by
    intro m
    unfold Controller.arrive
    split
    · rfl
    · split <;> rfl
  apply h.ofController
  cases e with
  | receive f => exact harrive _
  | receiveRaw info id data => exact harrive _
  | raise interrupts errors => rfl
  | hold value => rfl
  | complete =>
    show d.controller.complete.transceiverFails = _
    unfold Controller.complete
    split <;> rfl

theorem Steady.interrupt (h : d.Steady) (name : BusName) (s : Statistics) :
    (Device.interrupt name s d).device.Steady :=
  h.ofController (controller_interrupt Controller.transceiverFails (fun _ => rfl) (fun _ => rfl)
    (fun _ => rfl) name s d)

end OnChip

namespace Hardware

def Steady (h : Hardware) : Prop := ∃ d, h = .onChip d ∧ d.Steady

theorem lasts_steady : Device.Lasts Steady := by
  have hquery : ∀ {d : OnChip}, d.Steady → d.queryFree = (d.controller.isTransmitFree, d) :=
    fun hd => OnChip.queryFree_eq hd.freeReadings
  refine ⟨?_, ?_⟩
  · rintro _ ⟨d, rfl, hd⟩
    refine ⟨d.queryFree.2, rfl, ?_⟩
    rw [hquery hd]
    exact hd
  · rintro f _ ⟨d, rfl, hd⟩
    refine ⟨(OnChip.transmit f d).2, rfl, ?_⟩
    rw [OnChip.transmit, hquery hd]
    dsimp only
    split
    · exact hd.request _
    · exact hd

end Hardware

/-! ### What persists -/

namespace Bus

/-- A property of buses that only commands end. -/
structure Persists (P : Bus Hardware → Prop) : Prop extends Hub.Lasting P where
  turn : ∀ {b} t, P b → P (b.turn t)
  event : ∀ {b} (e : Controller.Event), P b → P (b.onController (·.event e))
  handled : ∀ {b}, P b → P b.handled

/-- The bus is not on, has no deferred frames, and nobody waits to put one there. -/
structure Idle (b : Bus Hardware) : Prop where
  off : b.isRunning = false
  frames : b.deferred.frames = []
  writers : b.deferred.writers = []

/-- The on-chip controller of the bus calls for another try, if there is any frame to be tried. -/
def Alert (b : Bus Hardware) : Prop :=
  ∃ d, b.device = .onChip d ∧ (b.deferred.frames = [] ∨ d.controller.Signals)

instance : DecidablePred Alert := fun b =>
  match hd : b.device with
  | .onChip d =>
    decidable_of_iff (b.deferred.frames = [] ∨ d.controller.Signals)
      ⟨fun h => ⟨d, hd, h⟩, fun ⟨_, hd', h⟩ => Hardware.onChip.inj (hd.symm.trans hd') ▸ h⟩
  | .mcp2515 _ => isFalse fun ⟨_, hd', _⟩ => nomatch hd.symm.trans hd'
  | .scripted _ => isFalse fun ⟨_, hd', _⟩ => nomatch hd.symm.trans hd'

theorem isRunning_congr {b b' : Bus Hardware} (h : b'.power = b.power) :
    b'.isRunning = b.isRunning := congrArg (decide <| · = Power.on) h

theorem persists_steady : Persists fun b => b.device.Steady where
  statistics := fun _ h => h
  poll := by
    intro b h
    have hpoll : b.poll.bus.device = b.device := by
      obtain ⟨d, hd, -⟩ := h
      show (Device.poll b.name b.statistics b.device).device = _
      rw [hd]
      rfl
    rw [hpoll]
    exact h
  transmitDeferred := (transmits_transmitDeferred Hardware.lasts_steady _).device
  turn := fun t => (transmits_turn Hardware.lasts_steady _ t).device
  event := by
    rintro b e ⟨d, hd, hsteady⟩
    rw [onController, hd]
    exact ⟨_, rfl, hsteady.event e⟩
  handled := by
    rintro b ⟨d, hd, hsteady⟩
    refine ⟨(Device.interrupt b.name b.statistics d).device, ?_, hsteady.interrupt _ _⟩
    rw [handled, hd]
    rfl

theorem persists_running : Persists fun b => b.isRunning = true := by
  refine { statistics := fun _ h => h, poll := fun h => h, transmitDeferred := ?_, turn := ?_
           event := ?_, handled := fun h => h }
  · intro b h
    exact (isRunning_congr (transmits_transmitDeferred Hardware.lasts_steady b).power).trans h
  · intro b t h
    exact (isRunning_congr (transmits_turn Hardware.lasts_steady b t).power).trans h
  · intro b e h
    unfold onController
    split <;> exact h

theorem persists_idle : Persists Idle := by
  have hstill : ∀ {b : Bus Hardware}, b.Idle → b.transmitDeferred.1 = b := by
    intro b h
    rw [Bus.transmitDeferred, h.off]
    rfl
  refine { statistics := fun _ h => ⟨h.off, h.frames, h.writers⟩
           poll := fun h => ⟨h.off, h.frames, h.writers⟩
           transmitDeferred := fun h => (hstill h).symm ▸ h, turn := ?_
           event := ?_, handled := fun h => ⟨h.off, h.frames, h.writers⟩ }
  · intro b t h
    obtain ⟨hgranted, hwaiting⟩ := List.append_eq_nil_iff.mp h.writers
    suffices hsame : b.turn t = b by rwa [hsame]
    cases t with
    | write f patient ticket => simp [Bus.turn, Bus.write, h.off]
    | resume ticket => simp [Bus.turn, Bus.resume, Deferred.redeem?, hgranted]
    | expire ticket => simp [Bus.turn, Bus.expire, Deferred.abandon?, hwaiting]
    | transmitDeferred => exact hstill h
  · intro b e h
    unfold onController
    split
    · exact ⟨h.off, h.frames, h.writers⟩
    · exact h

/-- A start succeeds and empties the controller, but not the deferred frames. -/
theorem started {b : Bus Hardware} (h : b.device.Steady) (setup : Setup) :
    (b.start setup).result = .ok () ∧ (b.start setup).bus.deferred = b.deferred ∧
    ∃ d, (b.start setup).bus.Follows d ∧ d.Steady ∧ d.controller.pending = none ∧
      d.controller.interrupts = 0 := by
  obtain ⟨d, hd, hsteady⟩ := h
  obtain ⟨hanswer, hsteady', hpending, hinterrupts⟩ := hsteady.start setup
  obtain ⟨hresult, -, hdevice, -, hdeferred⟩ := b.start_eq setup
  have hpower := b.power_start setup
  have hok : (b.start setup).result = .ok () := by
    rw [hresult, hd]
    exact hanswer
  rw [hok] at hpower
  refine ⟨hok, hdeferred, (Device.start setup d).2, ⟨decide_eq_true hpower, ?_, ?_⟩, hsteady',
    hpending, hinterrupts⟩
  · rw [hdevice, hd]
    rfl
  · exact hsteady'.freeReadings

/-- A halt succeeds and discards the deferred frames, but those who wait for room stay. -/
theorem halted {b : Bus Hardware} (h : b.device.Steady) {power : Power} (hpower : power ≠ .on) :
    (b.halt power).bus.device.Steady ∧ (b.halt power).bus.isRunning = false ∧
    (b.halt power).bus.deferred = b.deferred.clear := by
  obtain ⟨d, hd, hsteady⟩ := h
  obtain ⟨hanswer, hsteady'⟩ := hsteady.stop
  obtain ⟨hresult, -, hdevice, -⟩ := b.halt_eq power
  have hok : (b.halt power).result = .ok () := by
    rw [hresult, hd]
    exact hanswer
  have hafter := b.deferred_halt power
  rw [hok] at hafter
  obtain ⟨hoff, hdeferred⟩ := Prod.mk.inj hafter
  refine ⟨⟨(Device.stop d).2, ?_, hsteady'⟩, ?_, hdeferred⟩
  · rw [hdevice, hd]
    rfl
  · rw [isRunning, hoff]
    exact decide_eq_false hpower

end Bus

/-- The step is that of a writer that found the hardware busy before. -/
def Happening.goesOn : Happening → Bool
  | .goOn .. => true
  | _ => false

namespace Hub

variable {r : Vigil} {h : Hub Hardware} {i : Nat} {P : Bus Hardware → Prop}

theorem Has.happening (hP : r.hub.Has i P) (hpersists : Bus.Persists P) (e : Happening)
    (hgoOn : e.goesOn = true → ∀ b f patient ticket, P b → P (b.deferOrWait f patient ticket).bus) :
    (r.happening i e).hub.Has i P := by
  have hlasting := hpersists.toLasting
  cases e with
  | turn t => exact hP.turn fun _ hb => hpersists.turn t hb
  | goOn f patient ticket => exact hP.onBus_self fun b hb => hgoOn rfl b f patient ticket hb
  | controller e => exact hP.alter_self fun _ hb => hpersists.event e hb
  | handle place =>
    show (r.hub.interrupt place).Has i P
    cases hplace : r.hub.buses[place]? with
    | none =>
      rw [interrupt, hplace]
      exact hP
    | some b =>
      rw [interrupt_eq hplace]
      refine ofBuses ?_ (buses_pushAll _ _ _)
      by_cases hi : place = i
      · subst hi
        obtain ⟨b', hb', hprop⟩ := hP
        obtain rfl := Option.some.inj (hplace.symm.trans hb')
        exact set_self hplace (hpersists.handled hprop)
      · exact hP.set_of_ne hi _
  | dispatch =>
    show r.hub.dispatchNext.Has i P
    rw [dispatchNext]
    split
    · refine dispatch ?_ hlasting _
      exact hP.ofBuses rfl
    · exact hP
  | perform w => exact hP.dispatch hlasting w
  | push w => exact hP.ofBuses (r.hub.push_eq w).1
  | incoming f => exact hP.incoming hlasting.statistics f
  | elsewhere place bus =>
    rw [Vigil.happening]
    split
    · exact hP
    · next hplace => exact hP.set_of_ne hplace bus
  | aside hub => exact hP.ofBuses rfl

theorem Has.at_place (hP : h.Has i P) {b : Bus Hardware} (hb : h.buses[i]? = some b) : P b := by
  obtain ⟨b', hb', hprop⟩ := hP
  rwa [Option.some.inj (hb.symm.trans hb')]

theorem has_onBus {α : Type} {b : Bus Hardware} (hb : h.buses[i]? = some b)
    {operation : Bus Hardware → Outcome Hardware α} {o : Outcome Hardware α}
    (heq : operation b = o) (hP : P o.bus) : (h.onBus i operation).2.Has i P := by
  refine Has.onBus_self (P := (· = b)) ⟨b, hb, rfl⟩ ?_
  rintro _ rfl
  rwa [heq]

instance (h : Hub Hardware) (i : Nat) (P : Bus Hardware → Prop) [DecidablePred P] :
    Decidable (h.Has i P) :=
  inferInstanceAs (Decidable (∃ b ∈ h.buses[i]?, P b))

/-- The deferred frames of the bus, if there are any, are going to be tried again: the transmit buffer is
occupied, or the transmit interrupt is latched, or a drain waits in the queue. -/
def WillRetry (h : Hub Hardware) (i : Nat) : Prop :=
  h.Has i Bus.Alert ∨ .transmit i ∈ h.queue.items

instance (h : Hub Hardware) (i : Nat) : Decidable (h.WillRetry i) :=
  inferInstanceAs (Decidable (_ ∨ _))

theorem queue_onBus {α : Type} (h : Hub Hardware) (i : Nat)
    (operation : Bus Hardware → Outcome Hardware α) : (h.onBus i operation).2.queue = h.queue := by
  rw [onBus_snd]
  exact (h.alter_unchanged i _).1

end Hub

/-! ### Runs -/

/-- A hub over starts and stops of the bus at one place. -/
structure Service where
  vigil : Vigil
  /-- The bus was halted while somebody waited for room among its deferred frames, or a writer went on
  although the bus was not on any more. -/
  caught : Bool := false
  /-- The bus was started with deferred frames, and no drain was in the queue. -/
  stranded : Bool := false

namespace Service

def hub (r : Service) : Hub Hardware := r.vigil.hub

inductive Event where
  | happening (e : Happening)
  | command (c : Command)

def event (r : Service) (i : Nat) : Event → Service
  | .happening e =>
    let goesOn := r.hub.buses[i]?.any fun b => e.goesOn && !b.isRunning
    { r with vigil := r.vigil.happening i e, caught := r.caught || goesOn }
  | .command c =>
    let halts := r.hub.buses[i]?.any fun b => c.target ≠ .on && !b.deferred.writers.isEmpty
    let strands := r.hub.buses[i]?.any fun b => (c.calls b.power b.setup).any Call.isStart
      && !b.deferred.frames.isEmpty && !r.hub.queue.items.contains (.transmit i)
    { vigil := r.vigil.next (r.hub.onBus i (·.obey c)).2
      caught := r.caught || halts
      stranded := r.stranded || strands }

def events (r : Service) (i : Nat) (events : List Event) : Service := events.foldl (event · i) r

/-- As long as no writer is caught, the bus is idle or it runs, and while it runs the call for another
try is not lost but by a start. -/
structure Sound (r : Service) (i : Nat) : Prop where
  steady : r.hub.Has i fun b => b.device.Steady
  kept : r.caught = false → r.hub.Has i Bus.Idle ∨
    r.hub.Has i (fun b => b.isRunning = true) ∧ (r.stranded = false → r.vigil.Sound i)

namespace Sound

variable {r : Service} {i : Nat}

theorem happening (h : r.Sound i) (e : Happening) : (r.event i (.happening e)).Sound i := by
  refine ⟨h.steady.happening Bus.persists_steady e ?_, fun hcaught => ?_⟩
  · intro _ b f patient ticket hb
    exact (Bus.transmits_deferOrWait Hardware.lasts_steady b f patient ticket).device hb
  obtain ⟨hbefore, hgoesOn⟩ := Bool.or_eq_false_iff.mp hcaught
  rcases h.kept hbefore with hidle | ⟨hrunning, hsound⟩
  · refine .inl (hidle.happening Bus.persists_idle e fun hgoOn => ?_)
    -- The writer would have been caught.
    obtain ⟨b, hb, hidle⟩ := hidle
    rw [hb, Option.any_some, hgoOn, hidle.off] at hgoesOn
    cases hgoesOn
  · refine .inr ⟨hrunning.happening Bus.persists_running e ?_, fun h => (hsound h).happening e⟩
    intro _ b f patient ticket hb
    exact (Bus.isRunning_congr
      (Bus.transmits_deferOrWait Hardware.lasts_steady b f patient ticket).power).trans hb

theorem started (h : r.Sound i) {c : Command} {setup : Setup} {b : Bus Hardware}
    (hb : r.hub.buses[i]? = some b) (hcalls : c.calls b.power b.setup = [.start setup])
    (heq : b.obey c = b.start setup) : (r.event i (.command c)).Sound i := by
  have hqueue := r.hub.queue_onBus i (·.obey c)
  have hafter : ∀ {Q : Bus Hardware → Prop}, Q (b.start setup).bus →
      (r.hub.onBus i (·.obey c)).2.Has i Q := Hub.has_onBus hb heq
  obtain ⟨-, hdeferred, d, hfollows, hsteady, -, -⟩ := Bus.started (h.steady.at_place hb) setup
  refine ⟨hafter ⟨d, hfollows.device, hsteady⟩, fun _ => .inr ⟨hafter hfollows.running, ?_⟩⟩
  intro hstranded
  refine ⟨hafter ⟨d, hfollows⟩, fun _ => ?_⟩
  have hcall : b.deferred.frames = [] ∨ .transmit i ∈ r.hub.queue.items := by
    obtain ⟨-, hstrands⟩ := Bool.or_eq_false_iff.mp hstranded
    rw [hb, Option.any_some, hcalls] at hstrands
    simpa [Call.isStart, or_iff_not_imp_left] using hstrands
  rcases hcall with hframes | hqueued
  · refine .inl (hafter ⟨d, hfollows, .inl ?_⟩)
    rw [hdeferred]
    exact hframes
  · refine .inr ?_
    show _ ∈ (r.hub.onBus i (·.obey c)).2.queue.items
    rw [hqueue]
    exact hqueued

theorem halted (h : r.Sound i) {c : Command} {b : Bus Hardware}
    (hb : r.hub.buses[i]? = some b) (hoff : c.target ≠ .on) (heq : b.obey c = b.halt c.target) :
    (r.event i (.command c)).Sound i := by
  have hafter : ∀ {Q : Bus Hardware → Prop}, Q (b.halt c.target).bus →
      (r.hub.onBus i (·.obey c)).2.Has i Q := Hub.has_onBus hb heq
  obtain ⟨hsteady, hstopped, hdeferred⟩ := Bus.halted (h.steady.at_place hb) hoff
  refine ⟨hafter hsteady, fun hcaught => .inl (hafter ⟨hstopped, ?_, ?_⟩)⟩
  · rw [hdeferred, Deferred.frames_clear]
  · obtain ⟨-, hhalts⟩ := Bool.or_eq_false_iff.mp hcaught
    rw [hb, Option.any_some] at hhalts
    rw [hdeferred, Deferred.writers_clear]
    simpa [hoff] using hhalts

theorem unchanged (h : r.Sound i) {c : Command} {b : Bus Hardware}
    (hb : r.hub.buses[i]? = some b) (heq : b.obey c = { result := .ok (), bus := b }) :
    (r.event i (.command c)).Sound i := by
  have hqueue := r.hub.queue_onBus i (·.obey c)
  have hafter : ∀ {Q : Bus Hardware → Prop}, r.hub.Has i Q →
      (r.hub.onBus i (·.obey c)).2.Has i Q := fun hQ => Hub.has_onBus hb heq (hQ.at_place hb)
  refine ⟨hafter h.steady, fun hcaught => ?_⟩
  obtain ⟨hbefore, -⟩ := Bool.or_eq_false_iff.mp hcaught
  refine (h.kept hbefore).imp hafter fun ⟨hrunning, hsound⟩ => ⟨hafter hrunning, ?_⟩
  intro hstranded
  have hvigil := hsound (Bool.or_eq_false_iff.mp hstranded).1
  refine hvigil.nextQueue (hafter hvigil.follows) hafter fun w hw => ?_
  rw [hqueue]
  exact hw

theorem command (h : r.Sound i) (c : Command) : (r.event i (.command c)).Sound i := by
  obtain ⟨b, hb, -⟩ := h.steady
  obtain ⟨setup, -, hcalls, heq⟩ | ⟨hoff, -, heq⟩ | ⟨-, heq⟩ := b.obey_cases c
  · exact h.started hb hcalls heq
  · exact h.halted hb hoff heq
  · exact h.unchanged hb heq

theorem events (h : r.Sound i) (es : List Event) : (r.events i es).Sound i := by
  induction es generalizing r with
  | nil => exact h
  | cons e es ih =>
    cases e with
    | happening e => exact ih (h.happening e)
    | command c => exact ih (h.command c)

end Sound

/-- Before a start the deferred frames are going to be tried again, if no work was dropped, no writer
caught and no start has stranded frames before. -/
theorem Sound.willRetry {r : Service} {i : Nat} (h : r.Sound i) (hdropped : r.vigil.dropped = false)
    (hcaught : r.caught = false) (hstranded : r.stranded = false) : r.hub.WillRetry i := by
  rcases h.kept hcaught with ⟨b, hb, hidle⟩ | ⟨-, hsound⟩
  · obtain ⟨d, hd, -⟩ := h.steady.at_place hb
    exact .inl ⟨b, hb, d, hd, .inl hidle.frames⟩
  · refine ((hsound hstranded).awake hdropped).imp_left ?_
    rintro ⟨b, hb, d, hawake⟩
    exact ⟨b, hb, d, hawake.device, hawake.signals⟩

/-- Whatever happened before to a bus that was off at first, and to its hub: a start of the bus succeeds.
It keeps the deferred frames and the queue, and leaves nothing of what the controller had pending and
latched; so the deferred frames are going to be tried again if and only if there are none or a drain was
in the queue already.  A bus that is not on has none.  Before the start they were going to be tried
again, and if they are not after it, any drain makes up for that. -/
theorem retry_events {h : Hub Hardware} {i : Nat} {b : Bus Hardware} (hbus : h.buses[i]? = some b)
    (hsteady : b.device.Steady) (hidle : b.Idle) (es : List Event) (setup : Setup) :
    let r := ({ vigil := { hub := h } } : Service).events i es
    let o := r.hub.onBus i (·.start setup)
    o.1 = some (.ok ()) ∧ o.2.queue = r.hub.queue ∧
    (∃ b₀ b₁ d, r.hub.buses[i]? = some b₀ ∧ o.2.buses[i]? = some b₁ ∧ b₁.device = .onChip d ∧
      b₁.isRunning = true ∧ b₁.deferred = b₀.deferred ∧ d.controller.pending = none ∧
      d.controller.interrupts = 0) ∧
    (o.2.WillRetry i ↔
      r.hub.Has i (fun b => b.deferred.frames = []) ∨ .transmit i ∈ r.hub.queue.items) ∧
    (r.caught = false → r.hub.Has i (fun b => b.isRunning = false) → o.2.WillRetry i) ∧
    (r.vigil.dropped = false → r.caught = false → r.stranded = false → r.hub.WillRetry i) ∧
    (o.2.transmitDeferred i).WillRetry i := by
  intro r o
  have hnew : Sound { vigil := { hub := h } } i :=
    ⟨⟨b, hbus, hsteady⟩, fun _ => .inl ⟨b, hbus, hidle⟩⟩
  have hr : r.Sound i := hnew.events es
  obtain ⟨b₀, hb₀, hsteady₀⟩ := hr.steady
  obtain ⟨hok, hdeferred, d, hfollows, -, hpending, hinterrupts⟩ := Bus.started hsteady₀ setup
  have hresult : o.1 = some (.ok ()) := by
    show (r.hub.onBus i (·.start setup)).1 = _
    rw [Hub.onBus_eq hb₀]
    exact congrArg some hok
  have hqueue : o.2.queue = r.hub.queue := r.hub.queue_onBus i _
  obtain ⟨b₁, hb₁, rfl⟩ : o.2.Has i (· = (b₀.start setup).bus) := Hub.has_onBus hb₀ rfl rfl
  have hquiet : ¬ d.controller.Signals := by
    rw [Controller.Signals, hpending, hinterrupts]
    decide
  have hiff : o.2.WillRetry i ↔
      r.hub.Has i (fun b => b.deferred.frames = []) ∨ .transmit i ∈ r.hub.queue.items := by
    unfold Hub.WillRetry
    rw [hqueue]
    refine or_congr_left ?_
    constructor
    · intro hhas
      obtain ⟨d', hd', hcall⟩ := hhas.at_place hb₁
      obtain rfl := Hardware.onChip.inj (hd'.symm.trans hfollows.device)
      have hframes := hcall.resolve_right hquiet
      rw [hdeferred] at hframes
      exact ⟨b₀, hb₀, hframes⟩
    · intro hhas
      have hframes : b₀.deferred.frames = [] := hhas.at_place hb₀
      rw [← hdeferred] at hframes
      exact ⟨_, hb₁, d, hfollows.device, .inl hframes⟩
  refine ⟨hresult, hqueue, ?_, hiff, ?_, hr.willRetry, ?_⟩
  · exact ⟨b₀, _, d, hb₀, hb₁, hfollows.device, hfollows.running, hdeferred, hpending, hinterrupts⟩
  · intro hcaught hoff
    rcases hr.kept hcaught with ⟨b, hb, hidle⟩ | ⟨hrunning, -⟩
    · exact hiff.mpr (.inl ⟨b, hb, hidle.frames⟩)
    · have hon : b₀.isRunning = true := hrunning.at_place hb₀
      rw [hoff.at_place hb₀] at hon
      cases hon
  · have hhas : o.2.Has i fun b => ∃ d, b.Follows d := ⟨_, hb₁, d, hfollows⟩
    obtain ⟨b', hb', d', hawake⟩ : (o.2.transmitDeferred i).Has i fun b => ∃ d, b.Awake d :=
      hhas.alter_self fun _ ⟨_, hb⟩ => hb.transmitDeferred
    exact .inl ⟨b', hb', d', hawake.device, hawake.signals⟩

/-- A frame is deferred while another one occupies the transmit buffer.  After the completion and the
handler a drain waits in the queue, and it outlives the start. -/
theorem retry_events_of_queued :
    let f (id : UInt32) (h : id ≤ 0x7ff) : Frame := ⟨none, id, .standard, [7], h, by decide⟩
    let h : Hub Hardware := { buses := [{ name := .numbered 1, device := .onChip {} }] }
    let setup : Setup := ⟨.active, .kbps500⟩
    let es : List Event :=
      [.command (.start setup), .happening (.controller (.hold true)),
        .happening (.turn (.write (f 1 (by decide)) false 0)),
        .happening (.turn (.write (f 2 (by decide)) false 0)),
        .happening (.controller .complete), .happening (.handle 0)]
    let r := ({ vigil := { hub := h } } : Service).events 0 es
    let o := r.hub.onBus 0 (·.start setup)
    r.vigil.dropped = false ∧ r.caught = false ∧ r.stranded = false ∧
      .transmit 0 ∈ r.hub.queue.items ∧ o.1 = some (.ok ()) ∧ o.2.WillRetry 0 := by
  intro f h setup es
  have hsteady : (.onChip {} : Hardware).Steady := ⟨{}, rfl, rfl, rfl, rfl⟩
  have hidle : Bus.Idle { name := .numbered 1, device := .onChip {} } := ⟨rfl, rfl, rfl⟩
  have hqueued : .transmit 0 ∈ (events { vigil := { hub := h } } 0 es).hub.queue.items := by
    decide +kernel
  obtain ⟨hok, -, -, hiff, -⟩ := retry_events (h := h) (i := 0) rfl hsteady hidle es setup
  exact ⟨by decide +kernel, by decide +kernel, by decide +kernel, hqueued, hok,
    hiff.mpr (.inr hqueued)⟩

/-- The same without the completion: the frame in the transmit buffer is lost with the interrupt that its
completion would have latched, and nothing tries the deferred frame again. -/
theorem stranded_by_start :
    let f (id : UInt32) (h : id ≤ 0x7ff) : Frame := ⟨none, id, .standard, [7], h, by decide⟩
    let h : Hub Hardware := { buses := [{ name := .numbered 1, device := .onChip {} }] }
    let setup : Setup := ⟨.active, .kbps500⟩
    let es : List Event :=
      [.command (.start setup), .happening (.controller (.hold true)),
        .happening (.turn (.write (f 1 (by decide)) false 0)),
        .happening (.turn (.write (f 2 (by decide)) false 0))]
    let r := ({ vigil := { hub := h } } : Service).events 0 es
    let o := r.hub.onBus 0 (·.start setup)
    r.vigil.dropped = false ∧ r.caught = false ∧ r.stranded = false ∧ r.hub.WillRetry 0 ∧
      o.1 = some (.ok ()) ∧ ¬ o.2.WillRetry 0 := by
  decide +kernel

end Service
end Fieldbus
