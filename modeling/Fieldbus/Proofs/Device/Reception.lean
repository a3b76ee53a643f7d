import Fieldbus.Proofs.Bus.Power
import Fieldbus.Proofs.Device.OnChip

/-! Reception on a bus of the on-chip device.  A run keeps the mailboxes that entered the queue of the
controller and what every run of the interrupt handler found and asked for.  From a start on, the
handler reads the mailboxes in their order, each once (`Reception.entered_events`).  Over starts and
stops, a handler that runs outside reset mode asks for frames of such mailboxes only, each at most
once; one that runs in reset mode may find the receive interrupt of mailboxes that were dropped, and
then reads an empty one (`Reception.frames_phases`). -/

namespace Fieldbus

/-- One run of the interrupt handler: the device as it found it, and what it asked for. -/
structure Handling where
  found : OnChip
  requests : List Request

namespace Handling

def mailbox? (h : Handling) : Option Mailbox := h.found.reads?

def frames (h : Handling) : List Frame := h.requests.filterMap Request.frame?

def foundReset (h : Handling) : Bool := h.found.controller.inReset

def foundOverrun (h : Handling) : Bool := h.found.controller.inbox.overrun

end Handling

structure Reception where
  bus : Bus OnChip
  entered : List Mailbox := []
  /-- Whether a mailbox found the queue full since the handler ran last. -/
  refused : Bool := false
  handlings : List Handling := []

/-- What may happen to a bus that is neither started nor stopped. -/
inductive Reception.Event where
  | receive (f : Frame)
  | receiveRaw (info : UInt8) (id : UInt32) (data : List UInt8)
  | raise (interrupts : UInt8) (errors : ErrorRegisters)
  | hold (value : Bool)
  | complete
  /-- Frames are written or go out. -/
  | turn (t : Turn)
  /-- The interrupt handler runs.  Servicing the interrupts lets it run several times in a row. -/
  | handle

/-- What may happen to a bus at all. -/
inductive Reception.Phase where
  | event (e : Reception.Event)
  | start (setup : Setup)
  | stop
  | setPower (power : Power)
  | failTransceiver (value : Bool)

namespace Reception

def read (r : Reception) : List Mailbox := r.handlings.filterMap Handling.mailbox?

def frames (r : Reception) : List Frame := r.handlings.flatMap Handling.frames

def controller (r : Reception) : Controller := r.bus.device.controller

def inbox (r : Reception) : Inbox := r.controller.inbox

def onController (r : Reception) (change : Controller → Controller) : Reception :=
  { r with bus.device.controller := change r.controller }

/-- Out of reset mode, a mailbox enters the queue exactly if there is room. -/
def arrive (r : Reception) (m : Mailbox) : Reception :=
  let after := r.onController (·.arrive m)
  if r.controller.inReset then after
  else if r.controller.fifo.length < Controller.fifoDepth then
    { after with entered := r.entered ++ [m] }
  else { after with refused := true }

def handle (r : Reception) : Reception :=
  let h := Device.interrupt r.bus.name r.bus.statistics r.bus.device
  { r with
    bus := { r.bus with device := h.device, statistics := h.statistics }
    refused := false
    handlings := r.handlings ++ [{ found := r.bus.device, requests := h.requests }] }

def occur (r : Reception) : Event → Reception
  | .receive f => r.arrive (.ofFrame f)
  | .receiveRaw info id data => r.arrive (.ofBytes info id data)
  | .raise interrupts errors => r.onController (·.raise interrupts errors)
  | .hold value => r.onController fun c => { c with holding := value }
  | .complete => r.onController Controller.complete
  | .turn t => { r with bus := r.bus.turn t }
  | .handle => r.handle

def events (r : Reception) (events : List Event) : Reception := events.foldl occur r

def pass (r : Reception) : Phase → Reception
  | .event e => r.occur e
  | .start setup => { r with bus := (r.bus.start setup).bus }
  | .stop => { r with bus := r.bus.stop.bus }
  | .setPower power => { r with bus := (r.bus.setPower power).bus }
  | .failTransceiver value => r.onController fun c => { c with transceiverFails := value }

def phases (r : Reception) (phases : List Phase) : Reception := phases.foldl pass r

/-! ### What the events do -/

variable {r : Reception}

theorem arrive_cases (r : Reception) (m : Mailbox) :
    ∃ bus : Bus OnChip, bus.name = r.bus.name ∧ bus.statistics = r.bus.statistics ∧
      ((r.arrive m = { r with bus } ∧ bus.device.controller.inbox = r.inbox) ∨
      (r.inbox.inReset = false ∧ r.arrive m = { r with bus, entered := r.entered ++ [m] } ∧
        bus.device.controller.inbox
          = { r.inbox with fifo := r.inbox.fifo ++ [m], received := true }) ∨
      (r.inbox.inReset = false ∧ r.arrive m = { r with bus, refused := true } ∧
        bus.device.controller.inbox = { r.inbox with overrun := true })) := by
  have hinbox := r.controller.inbox_arrive m
  rw [Inbox.arrive] at hinbox
  refine ⟨(r.onController (·.arrive m)).bus, rfl, rfl, ?_⟩
  rw [arrive]
  by_cases hreset : r.controller.inReset = true
  · rw [if_pos (show r.controller.inbox.inReset = true from hreset)] at hinbox
    rw [if_pos hreset]
    exact .inl ⟨rfl, hinbox⟩
  rw [if_neg (show ¬ r.controller.inbox.inReset = true from hreset)] at hinbox
  rw [if_neg hreset]
  have hopen : r.inbox.inReset = false := Bool.eq_false_iff.mpr hreset
  by_cases hroom : r.controller.fifo.length < Controller.fifoDepth
  · rw [if_pos (show r.controller.inbox.hasRoom = true from decide_eq_true hroom)] at hinbox
    rw [if_pos hroom]
    exact .inr (.inl ⟨hopen, rfl, hinbox⟩)
  · have hfull : ¬ r.controller.inbox.hasRoom = true := fun h => hroom (of_decide_eq_true h)
    rw [if_neg hfull] at hinbox
    rw [if_neg hroom]
    exact .inr (.inr ⟨hopen, rfl, hinbox⟩)

theorem inbox_handle (r : Reception) : r.handle.inbox = r.inbox.handle :=
  OnChip.inbox_interrupt _ _ _

theorem inbox_turn (r : Reception) (t : Turn) : (r.occur (.turn t)).inbox = r.inbox :=
  (Bus.transmits_turn (OnChip.lasts_inbox r.inbox) r.bus t).device rfl

def handling (r : Reception) : Handling :=
  { found := r.bus.device
    requests := (Device.interrupt r.bus.name r.bus.statistics r.bus.device).requests }

theorem handlings_handle (r : Reception) :
    r.handle.handlings = r.handlings ++ [r.handling] := rfl

theorem frames_handling (r : Reception) :
    r.handling.frames = (r.handling.mailbox?.bind (·.capture? r.bus.name)).toList :=
  OnChip.frames_interrupt r.bus.name r.bus.statistics r.bus.device

theorem mailbox?_handling (h : r.inbox.received = !r.inbox.fifo.isEmpty) :
    r.handling.mailbox? = r.inbox.fifo.head? := by
  show OnChip.reads? r.bus.device = r.controller.fifo.head?
  rw [OnChip.reads?,
    show r.bus.device.controller.inbox.received = !r.controller.fifo.isEmpty from h,
    show r.bus.device.controller.front = r.controller.fifo.head?.getD {} from rfl]
  cases r.controller.fifo <;> rfl

theorem mailbox?_of_empty (h : r.inbox.fifo = []) {m : Mailbox}
    (hm : r.handling.mailbox? = some m) : m = {} := by
  have hfront : r.bus.device.controller.front = {} := by
    rw [Controller.front, show r.bus.device.controller.fifo = [] from h]
    rfl
  have hreads : r.bus.device.reads? = some m := hm
  rw [OnChip.reads?, hfront] at hreads
  split at hreads
  · exact (Option.some.inj hreads).symm
  · cases hreads

/-- The handler takes one mailbox away, if the receive interrupt is latched just when there are
any. -/
theorem fifo_handle (h : r.inbox.received = !r.inbox.fifo.isEmpty) :
    r.handle.inbox.fifo = r.inbox.fifo.tail := by
  rw [inbox_handle, Inbox.handle, h]
  cases r.inbox.fifo <;> rfl

theorem received_handle (h : r.inbox.received = !r.inbox.fifo.isEmpty) :
    r.handle.inbox.received = !r.handle.inbox.fifo.isEmpty := by
  rw [fifo_handle h, inbox_handle, Inbox.handle, h]
  cases r.inbox.fifo <;> rfl

theorem inReset_handle (r : Reception) : r.handle.inbox.inReset = r.inbox.inReset := by
  rw [inbox_handle, Inbox.handle]
  split <;> rfl

/-! ### From a start on -/

/-- Everything that entered has been read, in its order, or is still in the queue. -/
structure Faithful (name : BusName) (r : Reception) : Prop where
  bus : r.bus.name = name
  isOpen : r.inbox.inReset = false
  latched : r.inbox.received = !r.inbox.fifo.isEmpty
  entered : r.entered = r.read ++ r.inbox.fifo
  frames : r.frames = r.read.filterMap (·.capture? name)
  refused : r.refused = true → r.inbox.overrun = true
  overflow : r.bus.statistics.counters.receiveOverflow
    = UInt32.ofNat (r.handlings.countP Handling.foundOverrun)
  reported : ∀ x ∈ r.handlings, x.foundOverrun = true → Request.reportErrors ∈ x.requests

namespace Faithful

variable {name : BusName} {r : Reception}

/-- The bus goes on to another state, in which an overrun may have been raised. -/
theorem withBus (h : Faithful name r) {bus : Bus OnChip} (hname : bus.name = r.bus.name)
    (hoverflow : bus.statistics.counters.receiveOverflow
      = r.bus.statistics.counters.receiveOverflow)
    (overrun : Bool) (hoverrun : r.inbox.overrun = true → overrun = true)
    (hinbox : bus.device.controller.inbox = { r.inbox with overrun }) :
    Faithful name { r with bus } := by
  have hafter : ({ r with bus } : Reception).inbox = { r.inbox with overrun } := hinbox
  refine ⟨hname.trans h.bus, ?_, ?_, ?_, h.frames, ?_, hoverflow.trans h.overflow, h.reported⟩
  · rw [hafter]
    exact h.isOpen
  · rw [hafter]
    exact h.latched
  · rw [hafter]
    exact h.entered
  · intro hrefused
    rw [hafter]
    exact hoverrun (h.refused hrefused)

theorem arrive (h : Faithful name r) (m : Mailbox) : Faithful name (r.arrive m) := by
  obtain ⟨bus, hname, hstatistics, hcases⟩ := r.arrive_cases m
  have hoverflow := congrArg (·.counters.receiveOverflow) hstatistics
  obtain ⟨heq, hinbox⟩ | ⟨-, heq, hinbox⟩ | ⟨-, heq, hinbox⟩ := hcases
  · rw [heq]
    exact h.withBus hname hoverflow _ id hinbox
  · rw [heq]
    have hafter : ({ r with bus, entered := r.entered ++ [m] } : Reception).inbox
        = { r.inbox with fifo := r.inbox.fifo ++ [m], received := true } := hinbox
    refine ⟨hname.trans h.bus, ?_, ?_, ?_, h.frames, ?_, hoverflow.trans h.overflow, h.reported⟩
    · rw [hafter]
      exact h.isOpen
    · rw [hafter]
      simp
    · rw [hafter, h.entered, List.append_assoc]
      rfl
    · rw [hafter]
      exact h.refused
  · rw [heq]
    have hraised := h.withBus hname hoverflow true (fun _ => rfl) hinbox
    exact { hraised with refused := fun _ => congrArg Inbox.overrun hinbox }

theorem handle (h : Faithful name r) : Faithful name r.handle := by
  have hmailbox := mailbox?_handling h.latched
  have hread : r.handle.read = r.read ++ r.inbox.fifo.head?.toList := by
    rw [Reception.read, Reception.read, handlings_handle, List.filterMap_append,
      List.filterMap_cons, List.filterMap_nil, hmailbox]
    cases r.inbox.fifo.head? <;> rfl
  refine ⟨h.bus, ?_, received_handle h.latched, ?_, ?_, nofun, ?_, ?_⟩
  · rw [inReset_handle]
    exact h.isOpen
  · show r.entered = _
    rw [hread, fifo_handle h.latched, h.entered, List.append_assoc]
    cases r.inbox.fifo <;> rfl
  · rw [Reception.frames, handlings_handle, List.flatMap_append, List.flatMap_singleton,
      frames_handling, hmailbox, hread, List.filterMap_append, h.bus]
    refine congr (congrArg _ h.frames) ?_
    cases r.inbox.fifo <;> rfl
  · have hcount := (OnChip.overrun_interrupt r.bus.name r.bus.statistics r.bus.device).1
    show (OnChip.interrupt ..).statistics.counters.receiveOverflow = _
    rw [hcount, h.overflow, handlings_handle, List.countP_append, List.countP_singleton,
      UInt32.ofNat_add]
    refine congrArg _ ?_
    show (if r.handling.foundOverrun = true then 1 else 0) = _
    split <;> rfl
  · intro x hx
    rcases List.mem_append.mp hx with hx | hx
    · exact h.reported x hx
    · rw [List.mem_singleton.mp hx]
      exact (OnChip.overrun_interrupt r.bus.name r.bus.statistics r.bus.device).2

theorem occur (h : Faithful name r) (e : Event) : Faithful name (r.occur e) := by
  cases e with
  | receive f => exact h.arrive _
  | receiveRaw info id data => exact h.arrive _
  | raise interrupts errors =>
    obtain ⟨overrun, hoverrun, hinbox⟩ := r.controller.inbox_raise interrupts errors
    exact h.withBus rfl rfl overrun hoverrun hinbox
  | hold value => exact h.withBus rfl rfl _ id rfl
  | complete => exact h.withBus rfl rfl _ id r.controller.inbox_complete
  | turn t =>
    have hturn := Bus.transmits_turn (OnChip.lasts_inbox r.inbox) r.bus t
    exact h.withBus hturn.name hturn.receiveOverflow _ id (r.inbox_turn t)
  | handle => exact h.handle

theorem events (h : Faithful name r) (events : List Event) : Faithful name (r.events events) := by
  induction events generalizing r with
  | nil => exact h
  | cons e events ih => exact ih (h.occur e)

theorem start {b : Bus OnChip} {setup : Setup} (h : (b.start setup).result = .ok ()) :
    Faithful b.name { bus := (b.start setup).bus } := by
  obtain ⟨hresult, hname, hdevice, hstatistics, -⟩ := b.start_eq setup
  obtain ⟨inReset, hinbox, hok⟩ := OnChip.inbox_start setup b.device
  obtain rfl := hok (hresult.symm.trans h)
  have hafter : ({ bus := (b.start setup).bus } : Reception).inbox = ⟨false, [], false, false⟩ :=
    (congrArg (·.controller.inbox) hdevice).trans hinbox
  refine ⟨hname, ?_, ?_, ?_, rfl, ?_, congrArg (·.counters.receiveOverflow) hstatistics, ?_⟩
  · rw [hafter]
  · rw [hafter]
    rfl
  · rw [hafter]
    rfl
  · exact fun hrefused => absurd hrefused Bool.false_ne_true
  · exact fun _ hx => absurd hx List.not_mem_nil

end Faithful

/-- Whatever happens to a bus after it has started, the mailboxes that entered the queue are, in
their order, those that the handler has read and behind them those in the queue, which takes another
one if it holds fewer than 64.  The frames that the handler asked to pass on are those in the
mailboxes it read: a mailbox has one if it is no request and length and identifier are possible.  No
mailbox waits while no interrupt is latched.  One that is refused leaves an overrun latched until the
handler runs, which counts each overrun that it finds and asks for a report. -/
theorem entered_events (b : Bus OnChip) (setup : Setup) (h : (b.start setup).result = .ok ())
    (events : List Event) :
    let r := ({ bus := (b.start setup).bus } : Reception).events events
    r.entered = r.read ++ r.controller.fifo ∧
    (∀ m : Mailbox, (r.controller.arrive m).fifo
      = if r.controller.fifo.length < 64 then r.controller.fifo ++ [m] else r.controller.fifo) ∧
    r.frames = r.read.filterMap (·.capture? b.name) ∧
    (∀ (m : Mailbox) (f : Frame), m.capture? b.name = some f ↔
      m.isRemote = false ∧ m.length ≤ maxPayload ∧ m.id ≤ m.format.maxId ∧
      f.origin = some b.name ∧ f.id = m.id ∧ f.format = m.format ∧ f.data = m.data.take m.length) ∧
    (r.controller.interrupts = 0 → r.controller.fifo = []) ∧
    (r.refused = true → r.controller.interrupts &&& Irq.dataOverrun ≠ 0) ∧
    r.bus.statistics.counters.receiveOverflow
      = UInt32.ofNat (r.handlings.countP Handling.foundOverrun) ∧
    ∀ x ∈ r.handlings, x.foundOverrun = true → Request.reportErrors ∈ x.requests := by
  intro r
  have hr : Faithful b.name r := (Faithful.start h).events events
  refine ⟨hr.entered, fun m => ?_, hr.frames, fun m f => m.capture?_eq_some_iff b.name f, ?_, ?_,
    hr.overflow, hr.reported⟩
  · exact Controller.fifo_arrive hr.isOpen m
  · intro hnone
    have hreceived := hr.latched
    rw [Reception.inbox, Controller.inbox_of_interrupts_eq_zero hnone] at hreceived
    exact List.isEmpty_iff.mp (by simpa using hreceived.symm)
  · exact fun hrefused => of_decide_eq_true (hr.refused hrefused)

/-- A frame, a request and a frame arrive, and the handler runs twice. -/
theorem entered_events_of_three :
    let b : Bus OnChip := { name := .numbered 1, device := {} }
    let setup : Setup := ⟨.active, .kbps500⟩
    let events : List Event :=
      [.receiveRaw 0x03 0x7e8 [1, 2, 3, 4], .receiveRaw 0x40 0x7df [],
        .receiveRaw 0x81 0x18daf110 [9], .handle, .handle]
    let r := ({ bus := (b.start setup).bus } : Reception).events events
    (b.start setup).result = .ok () ∧
    r.frames.map Frame.data = [[1, 2, 3]] ∧ r.controller.fifo.length = 1 ∧
    r.entered = r.read ++ r.controller.fifo := by
  intro b setup events r
  have hstart : (b.start setup).result = .ok () := by rfl
  exact ⟨hstart, by decide +kernel, by decide +kernel, (entered_events b setup hstart events).1⟩

/-! ### Over starts and stops -/

/-- The frames of those runs of the handler that found the controller in this mode. -/
def framesWhile (r : Reception) (inReset : Bool) : List Frame :=
  (r.handlings.filter (·.foundReset = inReset)).flatMap Handling.frames

theorem framesWhile_handle (r : Reception) (inReset : Bool) :
    r.handle.framesWhile inReset
      = r.framesWhile inReset ++ if r.inbox.inReset = inReset then r.handling.frames else [] := by
  rw [framesWhile, framesWhile, handlings_handle, List.filter_append, List.flatMap_append]
  refine congrArg _ ?_
  rw [List.filter_cons, List.filter_nil, show r.handling.foundReset = r.inbox.inReset from rfl]
  by_cases h : r.inbox.inReset = inReset
  · rw [decide_eq_true h, if_pos rfl, if_pos h, List.flatMap_singleton]
  · rw [decide_eq_false h, if_neg Bool.false_ne_true, if_neg h, List.flatMap_nil]

/-- What was asked for out of reset mode are frames of mailboxes that have left the queue.  In reset
mode there are no mailboxes, so that only an empty one can be read. -/
structure Genuine (name : BusName) (r : Reception) : Prop where
  bus : r.bus.name = name
  closed : r.inbox.inReset = true → r.inbox.fifo = []
  latched : r.inbox.inReset = false → r.inbox.received = !r.inbox.fifo.isEmpty
  passed : ∃ gone, r.entered = gone ++ r.inbox.fifo ∧
    (r.framesWhile false).Sublist (gone.filterMap (·.capture? name))
  strays : ∀ x ∈ r.handlings, x.foundReset = true →
    ∀ f ∈ x.frames, ({} : Mailbox).capture? name = some f

namespace Genuine

variable {name : BusName} {r : Reception}

theorem withBus (h : Genuine name r) {bus : Bus OnChip} (hname : bus.name = r.bus.name)
    (overrun : Bool) (hinbox : bus.device.controller.inbox = { r.inbox with overrun }) :
    Genuine name { r with bus } := by
  have hafter : ({ r with bus } : Reception).inbox = { r.inbox with overrun } := hinbox
  refine ⟨hname.trans h.bus, ?_, ?_, ?_, h.strays⟩
  · rw [hafter]
    exact h.closed
  · rw [hafter]
    exact h.latched
  · rw [hafter]
    exact h.passed

theorem dropped (h : Genuine name r) {bus : Bus OnChip} (hname : bus.name = r.bus.name)
    (hfifo : bus.device.controller.inbox.fifo = [])
    (hreceived : bus.device.controller.inbox.inReset = false →
      bus.device.controller.inbox.received = false) : Genuine name { r with bus } := by
  have hafter : ({ r with bus } : Reception).inbox = bus.device.controller.inbox := rfl
  refine ⟨hname.trans h.bus, fun _ => hfifo, fun hopen => ?_, ?_, h.strays⟩
  · rw [hafter, hfifo]
    exact hreceived hopen
  · obtain ⟨gone, hentered, hpassed⟩ := h.passed
    refine ⟨gone ++ r.inbox.fifo, ?_, ?_⟩
    · rw [hafter, hfifo, List.append_nil]
      exact hentered
    · rw [List.filterMap_append]
      exact hpassed.trans (List.sublist_append_left ..)

theorem arrive (h : Genuine name r) (m : Mailbox) : Genuine name (r.arrive m) := by
  obtain ⟨bus, hname, -, hcases⟩ := r.arrive_cases m
  obtain ⟨heq, hinbox⟩ | ⟨hopen, heq, hinbox⟩ | ⟨-, heq, hinbox⟩ := hcases
  · rw [heq]
    exact h.withBus hname _ hinbox
  · rw [heq]
    have hafter : ({ r with bus, entered := r.entered ++ [m] } : Reception).inbox
        = { r.inbox with fifo := r.inbox.fifo ++ [m], received := true } := hinbox
    refine ⟨hname.trans h.bus, ?_, ?_, ?_, h.strays⟩
    · rw [hafter]
      intro hreset
      exact absurd (hopen.symm.trans hreset) Bool.false_ne_true
    · rw [hafter]
      simp
    · obtain ⟨gone, hentered, hpassed⟩ := h.passed
      refine ⟨gone, ?_, hpassed⟩
      rw [hafter, hentered, List.append_assoc]
  · rw [heq]
    exact { h.withBus hname true hinbox with }

theorem handle_of_open (h : Genuine name r) (hopen : r.inbox.inReset = false) :
    Genuine name r.handle := by
  have hlatched := h.latched hopen
  have hfound : r.handling.foundReset = false := hopen
  refine ⟨h.bus, ?_, fun _ => received_handle hlatched, ?_, ?_⟩
  · intro hreset
    rw [inReset_handle, hopen] at hreset
    exact absurd hreset Bool.false_ne_true
  · obtain ⟨gone, hentered, hpassed⟩ := h.passed
    refine ⟨gone ++ r.inbox.fifo.head?.toList, ?_, ?_⟩
    · show r.entered = _
      rw [fifo_handle hlatched, hentered, List.append_assoc]
      cases r.inbox.fifo <;> rfl
    · have hnew : r.handling.frames = r.inbox.fifo.head?.toList.filterMap (·.capture? name) := by
        rw [frames_handling, mailbox?_handling hlatched, h.bus]
        cases r.inbox.fifo <;> rfl
      rw [framesWhile_handle, if_pos hopen, List.filterMap_append, hnew]
      exact hpassed.append_right _
  · intro x hx hreset
    rw [handlings_handle] at hx
    rcases List.mem_append.mp hx with hx | hx
    · exact h.strays x hx hreset
    · obtain rfl := List.mem_singleton.mp hx
      exact absurd (hfound.symm.trans hreset) Bool.false_ne_true

theorem handle_of_reset (h : Genuine name r) (hreset : r.inbox.inReset = true) :
    Genuine name r.handle := by
  have hfifo := h.closed hreset
  have hfound : r.handling.foundReset = true := hreset
  have hafter : r.handle.inbox.fifo = [] := by
    rw [inbox_handle, Inbox.handle]
    split
    · rw [hfifo]
      rfl
    · exact hfifo
  refine ⟨h.bus, fun _ => hafter, ?_, ?_, ?_⟩
  · intro hopen
    rw [inReset_handle, hreset] at hopen
    exact absurd hopen.symm Bool.false_ne_true
  · rw [framesWhile_handle, hreset, if_neg (Ne.symm Bool.false_ne_true), List.append_nil, hafter,
      ← hfifo]
    exact h.passed
  · intro x hx hx' f hf
    rw [handlings_handle] at hx
    rcases List.mem_append.mp hx with hx | hx
    · exact h.strays x hx hx' f hf
    · obtain rfl := List.mem_singleton.mp hx
      rw [frames_handling, Option.mem_toList, h.bus] at hf
      obtain ⟨m, hm, hcapture⟩ := Option.bind_eq_some_iff.mp hf
      rw [mailbox?_of_empty hfifo hm] at hcapture
      exact hcapture

theorem occur (h : Genuine name r) (e : Event) : Genuine name (r.occur e) := by
  cases e with
  | receive f => exact h.arrive _
  | receiveRaw info id data => exact h.arrive _
  | raise interrupts errors =>
    obtain ⟨overrun, -, hinbox⟩ := r.controller.inbox_raise interrupts errors
    exact h.withBus rfl overrun hinbox
  | hold value => exact h.withBus rfl _ rfl
  | complete => exact h.withBus rfl _ r.controller.inbox_complete
  | turn t =>
    have hturn := Bus.transmits_turn (OnChip.lasts_inbox r.inbox) r.bus t
    exact h.withBus hturn.name _ (r.inbox_turn t)
  | handle =>
    cases hreset : r.inbox.inReset
    · exact h.handle_of_open hreset
    · exact h.handle_of_reset hreset

theorem start (h : Genuine name r) (setup : Setup) :
    Genuine name { r with bus := (r.bus.start setup).bus } := by
  obtain ⟨-, hname, hdevice, -, -⟩ := r.bus.start_eq setup
  obtain ⟨inReset, hinbox, -⟩ := OnChip.inbox_start setup r.bus.device
  have hafter := (congrArg (·.controller.inbox) hdevice).trans hinbox
  exact h.dropped hname (congrArg Inbox.fifo hafter) fun _ => congrArg Inbox.received hafter

theorem halt (h : Genuine name r) (power : Power) :
    Genuine name { r with bus := (r.bus.halt power).bus } := by
  obtain ⟨-, hname, hdevice, -⟩ := r.bus.halt_eq power
  rcases OnChip.inbox_stop r.bus.device with hinbox | hinbox
  · exact h.withBus hname _ ((congrArg (·.controller.inbox) hdevice).trans hinbox)
  · have hafter := (congrArg (·.controller.inbox) hdevice).trans hinbox
    refine h.dropped hname (congrArg Inbox.fifo hafter) fun hopen => ?_
    exact absurd (hopen.symm.trans (congrArg Inbox.inReset hafter)) Bool.false_ne_true

theorem pass (h : Genuine name r) (p : Phase) : Genuine name (r.pass p) := by
  cases p with
  | event e => exact h.occur e
  | start setup => exact h.start setup
  | stop => exact h.halt .off
  | setPower power =>
    show Genuine name { r with bus := (r.bus.setPower power).bus }
    obtain ⟨setup, -, -, heq⟩ | ⟨-, heq⟩ | ⟨-, heq⟩ := r.bus.setPower_cases power
    · rw [heq]
      exact h.start setup
    · rw [heq]
      exact h
    · rw [heq]
      exact h.halt power
  | failTransceiver value => exact h.withBus rfl _ rfl

theorem phases (h : Genuine name r) (phases : List Phase) : Genuine name (r.phases phases) := by
  induction phases generalizing r with
  | nil => exact h
  | cons p phases ih => exact ih (h.pass p)

end Genuine

/-- Whatever happens to a new bus, the frames that the handler asks to pass on while the controller
is out of reset mode are those of mailboxes that entered the queue, each at most once and in their
order.  In reset mode it may ask for the frame of an empty mailbox, and for no other. -/
theorem frames_phases (name : BusName) (resetReading : Option Bool) (freeReadings : List Bool)
    (phases : List Phase) :
    let r := ({ bus := { name, device := { resetReading, freeReadings } } } : Reception).phases
      phases
    (r.framesWhile false).Sublist (r.entered.filterMap (·.capture? name)) ∧
    ∀ f ∈ r.framesWhile true, ({} : Mailbox).capture? name = some f := by
  intro r
  have hnew : Genuine name { bus := { name, device := { resetReading, freeReadings } } } :=
    ⟨rfl, fun _ => rfl, fun hopen => absurd hopen.symm Bool.false_ne_true, ⟨[], rfl, .slnil⟩,
      fun _ hx => absurd hx List.not_mem_nil⟩
  have hr : Genuine name r := hnew.phases phases
  refine ⟨?_, fun f hf => ?_⟩
  · obtain ⟨gone, hentered, hpassed⟩ := hr.passed
    rw [hentered, List.filterMap_append]
    exact hpassed.trans (List.sublist_append_left ..)
  · obtain ⟨x, hx, hf⟩ := List.mem_flatMap.mp hf
    obtain ⟨hx, hreset⟩ := List.mem_filter.mp hx
    exact hr.strays x hx (of_decide_eq_true hreset) f hf

/-- A mailbox arrives, and the handler runs only after a stop: the frame that it then asks to pass on
is not that of the mailbox. -/
theorem frames_of_stopped :
    let r := ({ bus := { name := .numbered 1, device := {} } } : Reception).phases
      [.start ⟨.active, .kbps500⟩, .event (.receiveRaw 0x01 0x123 [7]), .stop, .event .handle]
    ∃ f ∈ r.frames, ∀ m ∈ r.entered, m.capture? (.numbered 1) ≠ some f := by
  decide +kernel

end Reception
end Fieldbus
