import Fieldbus.Proofs.Bus.Commands
import Fieldbus.Proofs.Bus.Telling
import Fieldbus.Proofs.Bus.Wakeup
import Fieldbus.Proofs.Device.Sending

/-! When a frame is rejected.  While frames are deferred a write does not look at the hardware, so that a
rejection tells of no room among the slots only.  The hardware was occupied when the deferred frames were
tried last; it may have become free since, by a transmission that was completed or by a start
(`Congestion.occupied_events`). -/

namespace Fieldbus

/-- In these states a device says truly whether a transmit buffer is free, and it takes a frame if and
only if one is. -/
structure Device.Candid {δ : Type} [Device δ] (P : δ → Prop) (free : δ → Bool) : Prop where
  ready : ∀ {d}, P d → (Device.ready d).1 = .ok (free d) ∧
    P (Device.ready d).2 ∧ free (Device.ready d).2 = free d
  transmit : ∀ {d} (f : Frame), P d →
    (Device.transmit f d).1 = .ok (if free d then .accepted else .busy) ∧
    P (Device.transmit f d).2 ∧ (free d = false → free (Device.transmit f d).2 = false)

namespace Deferred

/-- Slots that become free are at most granted. -/
theorem used_clear_le (d : Deferred) : d.clear.used ≤ d.used := by
  have hpops : ∀ (frames : List Frame) (d : Deferred), d.frames = frames →
      (frames.foldl (fun d _ => d.pop) d).used ≤ d.used := by
    intro frames
    induction frames with
    | nil => exact fun d _ => Nat.le_refl _
    | cons f frames ih =>
      intro d hframes
      have htail : d.pop.frames = frames := by rw [frames_pop, hframes, List.tail_cons]
      exact Nat.le_trans (ih d.pop htail) (used_pop_le (by simp [hframes]))
  exact hpops d.frames d rfl

end Deferred

namespace Bus

variable {δ : Type}

/-- No deferred frame could go out now. -/
def Spent (free : δ → Bool) (b : Bus δ) : Prop := b.deferred.frames = [] ∨ free b.device = false

/-- Whether a turn tries the hardware with the deferred frames. -/
def retries [Device δ] (b : Bus δ) : Turn → Bool
  | .transmitDeferred => b.isRunning
  | t => b.isRunning && (b.act t).result = some .queued

/-- What a turn makes of a bus with a candid device: no slot is used that does not exist, and no frame is
left behind that the hardware had room for when it was tried. -/
structure Turns (P : δ → Prop) (free : δ → Bool) (tried : Prop) (before after : Bus δ) : Prop where
  power : after.power = before.power
  device : P after.device
  used_le : after.deferred.used ≤ Deferred.capacity
  spent : before.isRunning = true → tried ∨ before.Spent free → after.Spent free

variable {P : δ → Prop} {free : δ → Bool} {tried : Prop} {b b' : Bus δ}

/-- The frames and the device are left as they were. -/
theorem Turns.idle (hb : P b.device) (hused : b.deferred.used ≤ Deferred.capacity)
    (htried : ¬ tried) (hpower : b'.power = b.power) (hdevice : b'.device = b.device)
    (hframes : b'.deferred.frames = b.deferred.frames)
    (hsame : b'.deferred.used = b.deferred.used) : Turns P free tried b b' := by
  refine ⟨hpower, hdevice ▸ hb, hsame ▸ hused, fun _ hor => ?_⟩
  rw [Spent, hframes, hdevice]
  exact hor.resolve_left htried

theorem Turns.imp {tried' : Prop} (h : Turns P free tried b b')
    (himp : b.isRunning = true → tried' → tried) : Turns P free tried' b b' :=
  ⟨h.power, h.device, h.used_le,
    fun hrunning hor => h.spent hrunning (hor.imp_left (himp hrunning))⟩

section Operations

variable [Device δ]

/-- The drain ends when no frame is left, or with occupied hardware. -/
theorem spent_moveDeferred (hD : Device.Candid P free) {frames : List Frame} (hb : P b.device)
    (hframes : b.deferred.frames = frames) :
    P (b.moveDeferred frames).1.device ∧
    (b.moveDeferred frames).1.deferred.used ≤ b.deferred.used ∧
    (b.moveDeferred frames).1.Spent free := by
  induction frames generalizing b with
  | nil =>
    obtain ⟨hanswer, hP, -⟩ := hD.ready hb
    rw [moveDeferred]
    rcases hr : Device.ready b.device with ⟨answer, device⟩
    rw [hr] at hanswer hP
    obtain rfl : answer = _ := hanswer
    exact ⟨hP, Nat.le_refl _, .inl hframes⟩
  | cons f frames ih =>
    obtain ⟨hanswer, hP, hsame⟩ := hD.ready hb
    rw [moveDeferred]
    rcases hr : Device.ready b.device with ⟨answer, device⟩
    rw [hr] at hanswer hP hsame
    obtain rfl : answer = _ := hanswer
    cases hfree : free b.device with
    | false => exact ⟨hP, Nat.le_refl _, .inr (hsame.trans hfree)⟩
    | true =>
      obtain ⟨hattempt, hP', -⟩ := hD.transmit f hP
      rw [show free device = true from hsame.trans hfree, if_pos rfl] at hattempt
      dsimp only
      rcases ht : Device.transmit f device with ⟨attempt, after⟩
      rw [ht] at hattempt hP'
      obtain rfl : attempt = _ := hattempt
      have htail : b.deferred.pop.frames = frames := by
        rw [Deferred.frames_pop, hframes, List.tail_cons]
      obtain ⟨hdevice, hused, hspent⟩ :=
        ih (b := ((b.behindFirst after).noteSent f).1) hP' htail
      exact ⟨hdevice, Nat.le_trans hused (Deferred.used_pop_le (by simp [hframes])), hspent⟩

theorem turns_transmitDeferred (hD : Device.Candid P free) (hb : P b.device)
    (hused : b.deferred.used ≤ Deferred.capacity) : Turns P free True b b.transmitDeferred.1 := by
  rw [transmitDeferred]
  split
  · obtain ⟨hdevice, hle, hspent⟩ := spent_moveDeferred hD hb rfl
    obtain ⟨-, hpower, -⟩ := b.moveDeferred_unchanged b.deferred.frames
    exact ⟨hpower, hdevice, Nat.le_trans hle hused, fun _ _ => hspent⟩
  · next hstopped => exact ⟨rfl, hb, hused, fun hrunning => absurd hrunning hstopped⟩

theorem turns_defer (hD : Device.Candid P free) (hb : P b.device)
    (hroom : b.deferred.used < Deferred.capacity) (f : Frame) :
    Turns P free True b (b.defer f).bus := by
  have hpush : (b.deferred.push f).used ≤ Deferred.capacity := by
    rw [Deferred.used_push]
    exact hroom
  obtain ⟨hpower, hdevice, hused, hspent⟩ := turns_transmitDeferred
    (b := { b with statistics := b.statistics.countDelayed, deferred := b.deferred.push f })
    hD hb hpush
  exact ⟨hpower, hdevice, hused, fun hrunning _ => hspent hrunning (.inl trivial)⟩

theorem turns_deferOrWait (hD : Device.Candid P free) (hb : P b.device)
    (hused : b.deferred.used ≤ Deferred.capacity) (f : Frame) (patient : Bool) (ticket : Nat) :
    Turns P free ((b.deferOrWait f patient ticket).result = .ok (.done .queued)) b
      (b.deferOrWait f patient ticket).bus := by
  rw [deferOrWait]
  split
  · next hroom =>
    exact (turns_defer hD hb (Deferred.used_lt_of_hasRoom hroom) f).imp fun _ _ => trivial
  split
  · exact .idle hb hused (by simp) rfl rfl rfl rfl
  · exact .idle hb hused (by simp [reject]) rfl rfl rfl rfl

theorem turns_write (hD : Device.Candid P free) (hb : P b.device)
    (hused : b.deferred.used ≤ Deferred.capacity) (f : Frame) (patient : Bool) (ticket : Nat) :
    Turns P free ((b.write f patient ticket).result = .ok (.done .queued)) b
      (b.write f patient ticket).bus := by
  rw [write]
  dsimp only
  split
  · refine .idle hb hused (fun h => ?_) rfl rfl rfl rfl
    cases h
  split
  case isFalse => exact turns_deferOrWait hD hb hused _ patient ticket
  next hnone =>
    have hframes : b.deferred.frames = [] :=
      List.eq_nil_of_length_eq_zero (Nat.eq_zero_of_add_eq_zero_right hnone)
    obtain ⟨hattempt, hP, hoccupied⟩ := hD.transmit (f.withOrigin b.name) hb
    rcases ht : Device.transmit (f.withOrigin b.name) b.device with ⟨attempt, after⟩
    rw [ht] at hattempt hP hoccupied
    obtain rfl : attempt = _ := hattempt
    cases hfree : free b.device with
    | true => exact ⟨rfl, hP, hused, fun _ _ => .inl hframes⟩
    | false =>
      have hwait := turns_deferOrWait hD (b := { b with device := after }) hP hused
        (f.withOrigin b.name) patient ticket
      exact ⟨hwait.power, hwait.device, hwait.used_le,
        fun hrunning _ => hwait.spent hrunning (.inr (.inr (hoccupied hfree)))⟩

theorem turns_resume (hD : Device.Candid P free) (hb : P b.device)
    (hused : b.deferred.used ≤ Deferred.capacity) (ticket : Nat) :
    Turns P free ((b.resume ticket).result = .ok (.done .queued)) b (b.resume ticket).bus := by
  rw [resume]
  split
  · next f deferred hredeem =>
    obtain ⟨-, hlt⟩ := Deferred.redeem?_eq_some hredeem
    have hroom := Nat.lt_of_lt_of_le hlt hused
    obtain ⟨hpower, hdevice, hle, hspent⟩ := turns_defer hD (b := { b with deferred }) hb hroom f
    exact ⟨hpower, hdevice, hle, fun hrunning _ => hspent hrunning (.inl trivial)⟩
  · exact .idle hb hused (by simp) rfl rfl rfl rfl

omit [Device δ] in
theorem turns_expire (hb : P b.device) (hused : b.deferred.used ≤ Deferred.capacity)
    (ticket : Nat) : Turns P free False b (b.expire ticket).bus := by
  rw [expire]
  split
  · next f deferred habandon =>
    obtain ⟨hframes, hsame⟩ := Deferred.abandon?_eq_some habandon
    exact .idle hb hused id rfl rfl hframes hsame
  · exact .idle hb hused id rfl rfl rfl rfl

theorem turns_act (hD : Device.Candid P free) (hb : P b.device)
    (hused : b.deferred.used ≤ Deferred.capacity) (t : Turn) :
    Turns P free (b.retries t = true) b (b.act t).bus := by
  have hqueued : ∀ o : Outcome δ (Except DeviceError Writing),
      (b.isRunning && (act.answered o).result = some .queued) = true →
      o.result = .ok (.done .queued) := by
    intro o h
    have hresult := of_decide_eq_true (Bool.and_eq_true_iff.mp h).2
    rw [act.answered] at hresult
    split at hresult
    · next delivery heq => rw [heq, Option.some.inj hresult]
    · cases hresult
  cases t with
  | write f patient ticket =>
    exact (turns_write hD hb hused f patient ticket).imp fun _ => hqueued _
  | resume ticket => exact (turns_resume hD hb hused ticket).imp fun _ => hqueued _
  | expire ticket =>
    refine (turns_expire hb hused ticket).imp fun _ h => ?_
    have hexpire := hqueued _ h
    rw [expire] at hexpire
    split at hexpire <;> cases hexpire
  | transmitDeferred => exact (turns_transmitDeferred hD hb hused).imp fun _ _ => trivial

theorem write_of_full (hrunning : b.isRunning = true)
    (hfull : Deferred.capacity ≤ b.deferred.used) (f : Frame) (ticket : Nat) :
    b.write f false ticket = b.reject (f.withOrigin b.name) := by
  have hroom : ¬ b.deferred.hasRoom = true := by simp [Deferred.hasRoom, hfull]
  have hsome : ¬ b.deferred.used = 0 := by
    intro hnone
    rw [hnone] at hfull
    exact absurd hfull (by decide)
  rw [write, hrunning, if_neg (by decide), if_neg hsome, deferOrWait, if_neg hroom,
    if_neg Bool.false_ne_true]

theorem full_of_rejected {f : Frame} {patient : Bool} {ticket : Nat}
    (h : (b.write f patient ticket).result = .ok (.done .rejected)) :
    b.isRunning = true ∧ Deferred.capacity ≤ b.deferred.used := by
  have hwait : ∀ (b : Bus δ) (f : Frame),
      (b.deferOrWait f patient ticket).result = .ok (.done .rejected) →
      Deferred.capacity ≤ b.deferred.used := by
    intro b f hrejected
    rw [deferOrWait] at hrejected
    split_ifs at hrejected with hroom
    · cases hrejected
    · cases hrejected
    · exact Nat.le_of_not_lt fun hlt => hroom (decide_eq_true hlt)
  rw [write] at h
  dsimp only at h
  split at h
  · cases h
  next hrunning =>
  refine ⟨by simpa using hrunning, ?_⟩
  split at h
  · -- With no slot in use there is room, whatever the hardware answers.
    rcases ht : Device.transmit (f.withOrigin b.name) b.device with ⟨_ | _ | _, after⟩
    all_goals rw [ht] at h
    · cases h
    · cases h
    · exact hwait { b with device := after } _ h
  · exact hwait b _ h

end Operations
end Bus

/-! ### Virtual hardware -/

theorem Controller.pending_arrive (c : Controller) (m : Mailbox) :
    (c.arrive m).pending = c.pending := by
  rw [arrive]
  split
  · rfl
  · split <;> rfl

theorem OnChip.freeReadings_stop (d : OnChip) :
    (Device.stop d).2.freeReadings = d.freeReadings := by
  show (stop d).2.freeReadings = _
  rw [stop]
  split
  · rfl
  · dsimp only
    split <;> rfl

theorem OnChip.candid : Device.Candid (fun d : OnChip => d.freeReadings = [])
    (·.controller.isTransmitFree) := by
  refine ⟨fun {d} hd => ?_, fun {d} f hd => ?_⟩
  · show Except.ok d.queryFree.1 = _ ∧ d.queryFree.2.freeReadings = [] ∧
      d.queryFree.2.controller.isTransmitFree = _
    rw [OnChip.queryFree_eq hd]
    exact ⟨rfl, hd, rfl⟩
  · rw [OnChip.transmit_eq hd, Controller.isTransmitFree]
    cases hpending : d.controller.pending with
    | none => exact ⟨rfl, hd, nofun⟩
    | some m => exact ⟨rfl, hd, fun _ => congrArg Option.isNone hpending⟩

namespace Mcp2515

/-- A transmit buffer does not wait to be sent. -/
def Chip.isTransmitFree (c : Chip) : Bool := !transmitBuffers.all c.isRequested

theorem Link.candid : Device.Candid (fun l : Link => l.failures = []) (·.chip.isTransmitFree) := by
  refine ⟨fun {l} hl => ?_, fun {l} f hl => ?_⟩
  · obtain ⟨hanswer, hchip, hfailures⟩ := runs_ready l.chip l ⟨rfl, hl⟩
    refine ⟨hanswer.trans (congrArg Except.ok ?_), hfailures, congrArg Chip.isTransmitFree hchip⟩
    rw [l.chip.freeBuffer?_statusByte, Chip.isTransmitFree, List.not_all_eq_any_not]
    exact List.isSome_find?
  · obtain ⟨hanswer, hchip, hfailures⟩ := transmit_eq hl f
    rw [hanswer, hchip, Chip.isTransmitFree]
    obtain ⟨hall, htake⟩ | ⟨hall, n, -, -, htake⟩ := l.chip.take_cases f
    · rw [htake, hall]
      exact ⟨rfl, hfailures, fun _ => congrArg not hall⟩
    · rw [htake, hall]
      exact ⟨rfl, hfailures, nofun⟩

theorem Chip.Unmoved.isTransmitFree {c c' : Chip} (h : c.Unmoved c') :
    c'.isTransmitFree = c.isTransmitFree := by
  have hrequested : ∀ n ∈ transmitBuffers, c'.isRequested n = c.isRequested n :=
    fun n hn => (waiting?_congr (h.buffers n hn)).1
  simp only [Chip.isTransmitFree, transmitBuffers, List.all_cons, List.all_nil,
    hrequested 0 (by decide), hrequested 1 (by decide), hrequested 2 (by decide)]

theorem Chip.unmoved_setErrorCounters (c : Chip) (transmitErrors receiveErrors : UInt8) :
    c.Unmoved (c.setErrorCounters transmitErrors receiveErrors) :=
  (unmoved_set c _ (by decide +kernel)).trans (unmoved_set _ _ (by decide +kernel))

/-- What happens to the chip from outside. -/
inductive Chip.Event where
  | inject (f : Frame)
  | setErrors (transmitErrors receiveErrors : UInt8)
  | hold (value : Bool)
  | release

def Chip.event (c : Chip) : Event → Chip
  | .inject f => (c.inject f).2
  | .setErrors transmitErrors receiveErrors => c.setErrorCounters transmitErrors receiveErrors
  | .hold value => { c with holding := value }
  | .release => c.release

end Mcp2515

namespace Hardware

/-- Virtual hardware whose transfers do not fail, and whose readings are its own. -/
def Faultless : Hardware → Prop
  | .onChip d => d.freeReadings = []
  | .mcp2515 l => l.failures = []
  | .scripted _ => False

/-- Whether a transmit buffer is free. -/
def isFree : Hardware → Bool
  | .onChip d => d.controller.isTransmitFree
  | .mcp2515 l => l.chip.isTransmitFree
  | .scripted _ => false

theorem candid : Device.Candid Faultless isFree := by
  refine ⟨?ready, ?transmit⟩
  case ready =>
    rintro (d | l | _) hd
    · obtain ⟨hanswer, hfaultless, hfree⟩ := OnChip.candid.ready hd
      exact ⟨hanswer, hfaultless, hfree⟩
    · obtain ⟨hanswer, hfaultless, hfree⟩ := Mcp2515.Link.candid.ready hd
      exact ⟨hanswer, hfaultless, hfree⟩
    · exact hd.elim
  case transmit =>
    rintro (d | l | _) f hd
    · obtain ⟨hanswer, hfaultless, hfree⟩ := OnChip.candid.transmit f hd
      exact ⟨hanswer, hfaultless, hfree⟩
    · obtain ⟨hanswer, hfaultless, hfree⟩ := Mcp2515.Link.candid.transmit f hd
      exact ⟨hanswer, hfaultless, hfree⟩
    · exact hd.elim

theorem faultless_start {d : Hardware} (hd : d.Faultless) (setup : Setup) :
    (Device.start setup d).2.Faultless := by
  rcases d with d | l | _
  · exact (OnChip.freeReadings_start setup d).trans hd
  · obtain ⟨result, c', hruns, -⟩ := Mcp2515.runs_start setup l.chip
    exact (hruns l ⟨rfl, hd⟩).2.failures
  · exact hd

theorem faultless_stop {d : Hardware} (hd : d.Faultless) : (Device.stop d).2.Faultless := by
  rcases d with d | l | _
  · exact (OnChip.freeReadings_stop d).trans hd
  · obtain ⟨result, c', hruns, -⟩ := Mcp2515.runs_stop l.chip
    exact (hruns l ⟨rfl, hd⟩).2.failures
  · exact hd

/-- What polling and the interrupt handler do, and what happens on the bus, keeps a transmit buffer free
or occupied. -/
def Kept (before after : Hardware) : Prop :=
  before.Faultless → after.Faultless ∧ after.isFree = before.isFree

theorem kept_poll (d : Hardware) (name : BusName) (s : Statistics) :
    Kept d (Device.poll name s d).device := by
  intro hd
  rcases d with d | l | _
  · exact ⟨hd, rfl⟩
  · have hpoll := Mcp2515.Link.unmoved_poll hd name s
    exact ⟨hpoll.failures, hpoll.chip.isTransmitFree⟩
  · exact hd.elim

theorem kept_interrupt (d : Hardware) (name : BusName) (s : Statistics) :
    Kept d (Device.interrupt name s d).device := by
  intro hd
  rcases d with d | l | _
  · obtain ⟨hreadings, hpending, -⟩ := OnChip.interrupt_cases name s d
    exact ⟨hreadings.trans hd, congrArg Option.isNone hpending⟩
  · exact ⟨hd, rfl⟩
  · exact hd.elim

/-- What happens to virtual hardware from outside. -/
inductive Event where
  | controller (e : Controller.Event)
  | chip (e : Mcp2515.Chip.Event)

/-- Frames that wait to be sent go out. -/
def Event.completes : Event → Bool
  | .controller .complete => true
  | .chip .release => true
  | _ => false

def event : Hardware → Event → Hardware
  | .onChip d, .controller e => .onChip { d with controller := d.controller.event e }
  | .mcp2515 l, .chip e => .mcp2515 { l with chip := l.chip.event e }
  | d, _ => d

theorem faultless_event {d : Hardware} (hd : d.Faultless) (e : Event) : (d.event e).Faultless := by
  rcases d with d | l | _
  · cases e <;> exact hd
  · cases e <;> exact hd
  · exact hd.elim

theorem isFree_event (d : Hardware) {e : Event} (he : e.completes = false) :
    (d.event e).isFree = d.isFree := by
  rcases d with d | l | _
  · cases e with
    | chip e => rfl
    | controller e =>
      cases e with
      | receive f => exact congrArg Option.isNone (d.controller.pending_arrive _)
      | receiveRaw info id data => exact congrArg Option.isNone (d.controller.pending_arrive _)
      | raise interrupts errors => rfl
      | hold value => rfl
      | complete => cases he
  · cases e with
    | controller e => rfl
    | chip e =>
      cases e with
      | inject f => exact (l.chip.unmoved_inject f).isTransmitFree
      | setErrors transmitErrors receiveErrors =>
        exact (l.chip.unmoved_setErrorCounters transmitErrors receiveErrors).isTransmitFree
      | hold value => exact (l.chip.unmoved_hold value).isTransmitFree
      | release => cases he
  · cases e <;> rfl

end Hardware

/-! ### Runs -/

/-- A bus, and whether a transmit buffer of its hardware may have become free since the deferred frames
were tried last. -/
structure Congestion where
  bus : Bus Hardware
  freed : Bool := false

inductive Congestion.Event where
  | command (c : Command)
  | turn (t : Turn)
  | poll
  /-- The interrupt handler runs. -/
  | handle
  | report (kind : StatusKind)
  | hardware (e : Hardware.Event)

namespace Congestion

def event (r : Congestion) : Event → Congestion
  | .command c =>
    { bus := (r.bus.obey c).bus, freed := r.freed || !(c.calls r.bus.power r.bus.setup).isEmpty }
  | .turn t => { bus := (r.bus.act t).bus, freed := r.freed && !r.bus.retries t }
  | .poll => { r with bus := r.bus.poll.bus }
  | .handle => { r with bus := r.bus.handled }
  | .report kind => { r with bus := (r.bus.reportStatus kind).1 }
  | .hardware e =>
    { bus := { r.bus with device := r.bus.device.event e }, freed := r.freed || e.completes }

def events (r : Congestion) (events : List Event) : Congestion := events.foldl event r

/-- Unless the hardware may have become free, it is occupied while frames are deferred. -/
structure Sound (r : Congestion) : Prop where
  device : r.bus.device.Faultless
  used_le : r.bus.deferred.used ≤ Deferred.capacity
  spent : r.freed = false → r.bus.isRunning = true → r.bus.Spent Hardware.isFree

namespace Sound

variable {r : Congestion} {b : Bus Hardware}

/-- A command that calls for the device may make a transmit buffer free. -/
theorem called (hdevice : b.device.Faultless) (hused : b.deferred.used ≤ Deferred.capacity) :
    Sound { bus := b, freed := true } :=
  ⟨hdevice, hused, nofun⟩

theorem command (h : r.Sound) (c : Command) : (r.event (.command c)).Sound := by
  obtain ⟨setup, -, hcalls, heq⟩ | ⟨-, hcalls, heq⟩ | ⟨hcalls, heq⟩ := r.bus.obey_cases c
  · obtain ⟨-, -, hdevice, -, hdeferred⟩ := r.bus.start_eq setup
    rw [event, heq, hcalls, List.isEmpty_cons, Bool.not_false, Bool.or_true]
    exact .called (hdevice ▸ Hardware.faultless_start h.device setup) (hdeferred ▸ h.used_le)
  · obtain ⟨-, -, hdevice, -⟩ := r.bus.halt_eq c.target
    have hdeferred := congrArg Prod.snd (r.bus.deferred_halt c.target)
    rw [event, heq, hcalls, List.isEmpty_cons, Bool.not_false, Bool.or_true]
    refine .called (hdevice ▸ Hardware.faultless_stop h.device) ?_
    rw [show (r.bus.halt c.target).bus.deferred = _ from hdeferred]
    split
    · exact Nat.le_trans r.bus.deferred.used_clear_le h.used_le
    · exact h.used_le
  · rw [event, heq, hcalls, List.isEmpty_nil, Bool.not_true, Bool.or_false]
    exact h

theorem turn (h : r.Sound) (t : Turn) : (r.event (.turn t)).Sound := by
  obtain ⟨hpower, hdevice, hused, hspent⟩ := Bus.turns_act Hardware.candid h.device h.used_le t
  refine ⟨hdevice, hused, fun hfreed hrunning => ?_⟩
  have hrunning : r.bus.isRunning = true := by
    rw [Bus.isRunning, ← hpower]
    exact hrunning
  refine hspent hrunning ?_
  have hfreed : (r.freed && !r.bus.retries t) = false := hfreed
  cases hretries : r.bus.retries t with
  | true => exact .inl rfl
  | false =>
    rw [hretries, Bool.not_false, Bool.and_true] at hfreed
    exact .inr (h.spent hfreed hrunning)

theorem kept (h : r.Sound) (hkept : Hardware.Kept r.bus.device b.device)
    (hpower : b.power = r.bus.power) (hdeferred : b.deferred = r.bus.deferred) :
    Sound { r with bus := b } := by
  obtain ⟨hdevice, hfree⟩ := hkept h.device
  refine ⟨hdevice, hdeferred ▸ h.used_le, fun hfreed hrunning => ?_⟩
  have hspent := h.spent hfreed (by rw [Bus.isRunning, ← hpower]; exact hrunning)
  rw [Bus.Spent, hdeferred, hfree]
  exact hspent

theorem hardware (h : r.Sound) (e : Hardware.Event) : (r.event (.hardware e)).Sound := by
  have hdevice := Hardware.faultless_event h.device e
  cases he : e.completes with
  | true =>
    rw [event, he, Bool.or_true]
    exact .called hdevice h.used_le
  | false =>
    rw [event, he, Bool.or_false]
    exact h.kept (fun _ => ⟨hdevice, Hardware.isFree_event _ he⟩) rfl rfl

theorem event (h : r.Sound) (e : Event) : (r.event e).Sound := by
  cases e with
  | command c => exact h.command c
  | turn t => exact h.turn t
  | poll => exact h.kept (Hardware.kept_poll _ _ _) rfl rfl
  | handle => exact h.kept (Hardware.kept_interrupt _ _ _) rfl rfl
  | report kind => cases kind <;> exact h.kept (fun hd => ⟨hd, rfl⟩) rfl rfl
  | hardware e => exact h.hardware e

theorem events (h : r.Sound) (events : List Event) : (r.events events).Sound := by
  induction events generalizing r with
  | nil => exact h
  | cons e events ih => exact ih (h.event e)

end Sound

/-- A bus with virtual hardware that is not at fault rejects a frame if and only if it runs and every slot
is in use; it looks at the hardware no more than it touches the deferred frames.  So a transmit buffer may
be free by then: if it may have become free since the deferred frames were tried last, or if no frame is
deferred, as writers that were granted the slots have not gone on yet.  Otherwise none is. -/
theorem occupied_events (name : BusName) (device : Hardware) (hdevice : device.Faultless)
    (events : List Event) (f : Frame) (ticket : Nat) :
    let r := ({ bus := { name, device } } : Congestion).events events
    let o := r.bus.write f false ticket
    (o.result = .ok (.done .rejected) ↔
      r.bus.isRunning = true ∧ r.bus.deferred.used = Deferred.capacity) ∧
    (o.result = .ok (.done .rejected) →
      o.bus = (r.bus.noteFailed (f.withOrigin r.bus.name)).1 ∧
      (r.freed = true ∨ r.bus.deferred.frames = [] ∨
        (Device.ready r.bus.device).1 = .ok false)) := by
  intro r o
  have hnew : Sound { bus := { name, device } } := ⟨hdevice, Nat.zero_le _, fun _ => nofun⟩
  have hr : r.Sound := hnew.events events
  have hrejects : r.bus.isRunning = true → Deferred.capacity ≤ r.bus.deferred.used →
      o = r.bus.reject (f.withOrigin r.bus.name) :=
    fun hrunning hfull => Bus.write_of_full hrunning hfull f ticket
  refine ⟨⟨fun hrejected => ?_, fun ⟨hrunning, hfull⟩ => ?_⟩, fun hrejected => ?_⟩
  · obtain ⟨hrunning, hfull⟩ := Bus.full_of_rejected hrejected
    exact ⟨hrunning, Nat.le_antisymm hr.used_le hfull⟩
  · rw [hrejects hrunning (Nat.le_of_eq hfull.symm)]
    rfl
  · obtain ⟨hrunning, hfull⟩ := Bus.full_of_rejected hrejected
    refine ⟨congrArg Outcome.bus (hrejects hrunning hfull), ?_⟩
    cases hfreed : r.freed with
    | true => exact .inl rfl
    | false =>
      refine .inr ((hr.spent hfreed hrunning).imp_right fun hoccupied => ?_)
      rw [(Hardware.candid.ready hr.device).1, hoccupied]

/-- One frame waits in the controller and twenty are deferred, and another one is rejected. -/
theorem occupied_events_of_held :
    let device : Hardware := .onChip {}
    let f : Frame := ⟨none, 0x100, .standard, [], by decide, by decide⟩
    let events : List Event := .command (.start ⟨.active, .kbps500⟩) ::
      .hardware (.controller (.hold true)) :: List.replicate 21 (.turn (.write f false 0))
    let r := ({ bus := { name := .numbered 1, device } } : Congestion).events events
    device.Faultless ∧ (r.bus.write f false 0).result = .ok (.done .rejected) ∧
    (Device.ready r.bus.device).1 = .ok false := by
  intro device f events
  obtain ⟨-, h⟩ := occupied_events (.numbered 1) device rfl events f 0
  have hrejected :
      ((({ bus := { name := .numbered 1, device } } : Congestion).events events).bus.write
        f false 0).result = .ok (.done .rejected) := by decide +kernel
  have htried :
      ¬ ((({ bus := { name := .numbered 1, device } } : Congestion).events events).freed ∨
        (({ bus := { name := .numbered 1, device } } : Congestion).events
          events).bus.deferred.frames = []) := by decide +kernel
  exact ⟨rfl, hrejected, (or_assoc.mpr (h hrejected).2).resolve_left htried⟩

/-- As soon as the frame in the controller has gone out a transmit buffer is free, but until the deferred
frames are tried again another frame is rejected. -/
theorem ready_of_completed :
    let new : Congestion := { bus := { name := .numbered 1, device := .onChip {} } }
    let f : Frame := ⟨none, 0x100, .standard, [], by decide, by decide⟩
    let events : List Event := .command (.start ⟨.active, .kbps500⟩) ::
      .hardware (.controller (.hold true)) :: List.replicate 21 (.turn (.write f false 0))
        ++ [.hardware (.controller .complete)]
    let r := new.events events
    (r.bus.write f false 0).result = .ok (.done .rejected) ∧
    (Device.ready r.bus.device).1 = .ok true := by
  decide +kernel

end Congestion
end Fieldbus
