import Fieldbus.Device.OnChip
import Fieldbus.Proofs.Bus.Transmission
import Fieldbus.Proofs.Device.Flags

/-! What reception on the on-chip device depends on: the reset bit, the queue of mailboxes and two
bits of the interrupt register (`Inbox`).  Every operation of the controller and of its driver acts on
these alone, and transmission does not act on them at all. -/

namespace Fieldbus

def Request.frame? : Request → Option Frame
  | .frame f => some f
  | _ => none

namespace Mailbox

/-- A mailbox gives a frame exactly if it is no request, its length is possible and its identifier
fits. -/
theorem capture?_eq_some_iff (m : Mailbox) (name : BusName) (f : Frame) :
    m.capture? name = some f ↔
      m.isRemote = false ∧ m.length ≤ maxPayload ∧ m.id ≤ m.format.maxId ∧
      f.origin = some name ∧ f.id = m.id ∧ f.format = m.format ∧
      f.data = m.data.take m.length := by
  have htake : (m.data.take m.length).length ≤ m.length := List.length_take_le ..
  rw [capture?]
  constructor
  · intro h
    by_cases hout : m.isRemote || maxPayload < m.length
    · rw [if_pos hout] at h
      exact nomatch h
    rw [if_neg hout] at h
    obtain ⟨hremote, hlength⟩ : m.isRemote = false ∧ m.length ≤ maxPayload := by
      simpa using hout
    by_cases hid : m.id ≤ m.format.maxId
    · rw [Frame.make, dif_pos (Nat.le_trans htake hlength), dif_pos hid] at h
      obtain rfl := Option.some.inj h
      exact ⟨hremote, hlength, hid, rfl, rfl, rfl, rfl⟩
    · rw [Frame.make, dif_pos (Nat.le_trans htake hlength), dif_neg hid] at h
      exact nomatch h
  · rintro ⟨hremote, hlength, hid, horigin, hfid, hformat, hdata⟩
    rw [if_neg (by simp [hremote, hlength]), Frame.make, dif_pos (Nat.le_trans htake hlength),
      dif_pos hid]
    obtain ⟨origin, id, format, data, hf, hf'⟩ := f
    obtain rfl : origin = _ := horigin
    obtain rfl : id = _ := hfid
    obtain rfl : format = _ := hformat
    obtain rfl : data = _ := hdata
    rfl

end Mailbox

/-- What reception depends on. -/
structure Inbox where
  inReset : Bool
  fifo : List Mailbox
  received : Bool
  overrun : Bool
deriving DecidableEq

namespace Inbox

def hasRoom (i : Inbox) : Bool := i.fifo.length < Controller.fifoDepth

def arrive (i : Inbox) (m : Mailbox) : Inbox :=
  if i.inReset then i
  else if i.hasRoom then { i with fifo := i.fifo ++ [m], received := true }
  else { i with overrun := true }

/-- The interrupt handler runs: it reads one mailbox if the receive interrupt is latched, and that
interrupt is latched again while there are others. -/
def handle (i : Inbox) : Inbox :=
  if i.received then
    { i with fifo := i.fifo.tail, received := !i.fifo.tail.isEmpty, overrun := false }
  else { i with overrun := false }

end Inbox

namespace Controller

def inbox (c : Controller) : Inbox :=
  { inReset := c.inReset
    fifo := c.fifo
    received := c.interrupts &&& Irq.receive ≠ 0
    overrun := c.interrupts &&& Irq.dataOverrun ≠ 0 }

theorem inbox_arrive (c : Controller) (m : Mailbox) : (c.arrive m).inbox = c.inbox.arrive m := by
  rw [arrive, Inbox.arrive]
  by_cases hreset : c.inReset
  · rw [if_pos hreset, if_pos (show c.inbox.inReset = true from hreset)]
  rw [if_neg hreset, if_neg (show ¬ c.inbox.inReset = true from hreset)]
  by_cases hfull : fifoDepth ≤ c.fifo.length
  · have hroom : ¬ c.inbox.hasRoom = true := by
      simpa [Inbox.hasRoom, inbox] using hfull
    have hreceive : (c.interrupts ||| Irq.dataOverrun) &&& Irq.receive
        = c.interrupts &&& Irq.receive :=
      Flags.or_and_of_disjoint _ (by decide)
    have hoverrun : (c.interrupts ||| Irq.dataOverrun) &&& Irq.dataOverrun ≠ 0 :=
      Flags.or_and_ne_zero _ (by decide)
    rw [if_pos hfull, if_neg hroom]
    simp only [inbox, hreceive, hoverrun, ne_eq, not_false_eq_true, decide_true]
  · have hroom : c.inbox.hasRoom = true := by
      simpa [Inbox.hasRoom, inbox] using hfull
    have hreceive : (c.interrupts ||| Irq.receive) &&& Irq.receive ≠ 0 :=
      Flags.or_and_ne_zero _ (by decide)
    have hoverrun : (c.interrupts ||| Irq.receive) &&& Irq.dataOverrun
        = c.interrupts &&& Irq.dataOverrun :=
      Flags.or_and_of_disjoint _ (by decide)
    rw [if_neg hfull, if_pos hroom]
    simp only [inbox, hreceive, hoverrun, ne_eq, not_false_eq_true, decide_true]

theorem fifo_arrive {c : Controller} (h : c.inReset = false) (m : Mailbox) :
    (c.arrive m).fifo = if c.fifo.length < fifoDepth then c.fifo ++ [m] else c.fifo := by
  rw [arrive, h, if_neg Bool.false_ne_true]
  by_cases hroom : c.fifo.length < fifoDepth
  · rw [if_neg (Nat.not_le.mpr hroom), if_pos hroom]
  · rw [if_pos (Nat.not_lt.mp hroom), if_neg hroom]

@[simp] theorem inbox_complete (c : Controller) : c.complete.inbox = c.inbox := by
  rw [complete]
  split
  · have hreceive : (c.interrupts ||| Irq.transmit) &&& Irq.receive
        = c.interrupts &&& Irq.receive :=
      Flags.or_and_of_disjoint _ (by decide)
    have hoverrun : (c.interrupts ||| Irq.transmit) &&& Irq.dataOverrun
        = c.interrupts &&& Irq.dataOverrun :=
      Flags.or_and_of_disjoint _ (by decide)
    simp only [inbox, hreceive, hoverrun]
  · rfl

/-- Errors raised from outside may be taken for an overrun, and for nothing else. -/
theorem inbox_raise (c : Controller) (interrupts : UInt8) (errors : ErrorRegisters) :
    ∃ overrun, (c.inbox.overrun = true → overrun = true) ∧
      (c.raise interrupts errors).inbox = { c.inbox with overrun } := by
  have hreceive : (c.interrupts ||| (interrupts &&& Irq.errors)) &&& Irq.receive
      = c.interrupts &&& Irq.receive :=
    Flags.or_and_of_disjoint _ (Flags.and_and_of_disjoint _ (by decide))
  refine ⟨(c.raise interrupts errors).inbox.overrun, ?_, ?_⟩
  · intro h
    have hlatched : c.interrupts &&& Irq.dataOverrun ≠ 0 := of_decide_eq_true h
    refine decide_eq_true ?_
    rw [raise, UInt8.or_comm]
    exact Flags.or_and_ne_zero _ hlatched
  · simp only [inbox, raise, hreceive]

@[simp] theorem inbox_load (c : Controller) (m : Mailbox) : (c.load m).inbox = c.inbox := rfl

@[simp] theorem inbox_request (c : Controller) : c.request.inbox = c.inbox := by
  rw [request]
  split
  · rfl
  · exact c.inbox_complete

theorem inbox_of_interrupts_eq_zero {c : Controller} (h : c.interrupts = 0) :
    c.inbox = ⟨c.inReset, c.fifo, false, false⟩ := by
  simp [inbox, h]

theorem inbox_takeInterrupts (c : Controller) :
    c.takeInterrupts.2.inbox = ⟨c.inReset, c.fifo, false, false⟩ :=
  inbox_of_interrupts_eq_zero rfl

theorem inbox_release (c : Controller) :
    c.release.inbox = { c.inbox with
      fifo := c.fifo.tail, received := c.inbox.received || !c.fifo.tail.isEmpty } := by
  rw [release]
  cases hempty : c.fifo.tail.isEmpty
  · have hreceive : (c.interrupts ||| Irq.receive) &&& Irq.receive ≠ 0 :=
      Flags.or_and_ne_zero _ (by decide)
    have hoverrun : (c.interrupts ||| Irq.receive) &&& Irq.dataOverrun
        = c.interrupts &&& Irq.dataOverrun :=
      Flags.or_and_of_disjoint _ (by decide)
    simp only [inbox, hreceive, hoverrun, Bool.false_eq_true, if_false, ne_eq,
      not_false_eq_true, decide_true, Bool.not_false, Bool.or_true]
  · simp only [inbox, if_true, Bool.not_true, Bool.or_false]

end Controller

namespace OnChip

theorem inbox_start (setup : Setup) (d : OnChip) :
    ∃ inReset, (start setup d).2.controller.inbox = ⟨inReset, [], false, false⟩ ∧
      ((start setup d).1 = .ok () → inReset = false) := by
  by_cases hfails : d.controller.transceiverFails
  · refine ⟨true, ?_, ?_⟩ <;>
      simp [start, Controller.configure, Controller.setReset, Controller.setTransceiver, hfails,
        Controller.inbox]
  · refine ⟨false, ?_, fun _ => rfl⟩
    simp only [start, Controller.configure, Controller.setReset, Controller.setTransceiver, hfails,
      Bool.false_eq_true, if_true, if_false]
    split <;> exact Controller.inbox_of_interrupts_eq_zero rfl

/-- Stopping drops all mailboxes, but leaves the interrupts latched. -/
theorem inbox_stop (d : OnChip) :
    (stop d).2.controller.inbox = d.controller.inbox ∨
    (stop d).2.controller.inbox = { d.controller.inbox with inReset := true, fifo := [] } := by
  by_cases hfails : d.controller.transceiverFails
  · exact .inl (by simp [stop, Controller.setTransceiver, hfails])
  · refine .inr ?_
    simp only [stop, Controller.setTransceiver, hfails, Bool.false_eq_true, if_false]
    split <;> rfl

/-- A driver whose readings are its controller's own. -/
theorem queryFree_eq {d : OnChip} (h : d.freeReadings = []) :
    d.queryFree = (d.controller.isTransmitFree, d) := by
  rw [queryFree, h]

theorem controller_queryFree (d : OnChip) : d.queryFree.2.controller = d.controller := by
  rw [queryFree]
  split <;> rfl

theorem inbox_transmit (f : Frame) (d : OnChip) :
    (transmit f d).2.controller.inbox = d.controller.inbox := by
  rw [transmit]
  dsimp only
  split
  · simp only [Controller.inbox_request, Controller.inbox_load, controller_queryFree]
  · rw [controller_queryFree]

theorem lasts_inbox (i : Inbox) : Device.Lasts fun d : OnChip => d.controller.inbox = i where
  ready {d} h := by
    show d.queryFree.2.controller.inbox = i
    rw [controller_queryFree, h]
  transmit {f d} h := by
    show (transmit f d).2.controller.inbox = i
    rw [inbox_transmit, h]

/-- The mailbox that the handler reads, if it runs in this state. -/
def reads? (d : OnChip) : Option Mailbox :=
  if d.controller.inbox.received then some d.controller.front else none

theorem inbox_interrupt (name : BusName) (s : Statistics) (d : OnChip) :
    (interrupt name s d).device.controller.inbox = d.controller.inbox.handle := by
  -- Noting errors does not act on the inbox.
  have hnote : ∀ (c : Controller) (p q : Prop) [Decidable p] [Decidable q] (s s' s'' : Statistics),
      (if p then if q then (s, c.clearOverrun) else (s', c) else (s'', c)).2.inbox = c.inbox := by
    intro c p q _ _ s s' s''
    split
    · split <;> rfl
    · rfl
  simp only [interrupt, hnote]
  by_cases hreceived : d.controller.interrupts &&& Irq.receive ≠ 0
  · have h : d.controller.inbox.received = true := decide_eq_true hreceived
    rw [if_pos (show d.controller.takeInterrupts.1 &&& Irq.receive ≠ 0 from hreceived),
      Inbox.handle, if_pos h, Controller.inbox_release, Controller.inbox_takeInterrupts]
    rfl
  · have h : d.controller.inbox.received = false := decide_eq_false hreceived
    rw [if_neg (show ¬ d.controller.takeInterrupts.1 &&& Irq.receive ≠ 0 from hreceived),
      Inbox.handle, if_neg (Bool.eq_false_iff.mp h), Controller.inbox_takeInterrupts, h]
    rfl

theorem frames_interrupt (name : BusName) (s : Statistics) (d : OnChip) :
    (interrupt name s d).requests.filterMap Request.frame?
      = (d.reads?.bind (·.capture? name)).toList := by
  have hframes : ∀ (f : Option Frame),
      (f.toList.map Request.frame).filterMap Request.frame? = f.toList := by
    intro f
    cases f <;> rfl
  have htransmit : ∀ (p : Prop) [Decidable p],
      (if p then [Request.transmit] else []).filterMap Request.frame? = [] := by
    intro p _
    split <;> rfl
  have herrors : ∀ (p : Prop) [Decidable p],
      (if p then [Request.reportErrors] else []).filterMap Request.frame? = [] := by
    intro p _
    split <;> rfl
  simp only [interrupt, List.filterMap_append, htransmit, herrors, List.nil_append,
    List.append_nil]
  by_cases hreceived : d.controller.interrupts &&& Irq.receive ≠ 0
  · have h : d.controller.inbox.received = true := decide_eq_true hreceived
    rw [reads?, if_pos h,
      if_pos (show d.controller.takeInterrupts.1 &&& Irq.receive ≠ 0 from hreceived)]
    exact hframes _
  · have h : ¬ d.controller.inbox.received = true := fun h => hreceived (of_decide_eq_true h)
    rw [reads?, if_neg h,
      if_neg (show ¬ d.controller.takeInterrupts.1 &&& Irq.receive ≠ 0 from hreceived)]
    rfl

theorem overrun_interrupt (name : BusName) (s : Statistics) (d : OnChip) :
    (interrupt name s d).statistics.counters.receiveOverflow
      = s.counters.receiveOverflow + (if d.controller.inbox.overrun then 1 else 0) ∧
    (d.controller.inbox.overrun → Request.reportErrors ∈ (interrupt name s d).requests) := by
  let latched := d.controller.takeInterrupts.1
  have hmask : latched &&& Irq.errors &&& Irq.dataOverrun = latched &&& Irq.dataOverrun :=
    Flags.and_and_of_subset _ (by decide)
  simp only [interrupt]
  rw [hmask]
  by_cases hoverrun : latched &&& Irq.dataOverrun ≠ 0
  · have h : d.controller.inbox.overrun = true := decide_eq_true hoverrun
    -- An overrun is an error.
    have herrors : latched &&& Irq.errors ≠ 0 := by
      intro hzero
      rw [hzero, UInt8.zero_and] at hmask
      exact hoverrun hmask.symm
    rw [if_pos herrors, if_pos hoverrun, if_pos herrors, if_pos h]
    exact ⟨rfl, fun _ => List.mem_append_right _ (List.mem_singleton.mpr rfl)⟩
  · have h : d.controller.inbox.overrun = false := decide_eq_false hoverrun
    rw [if_neg hoverrun, h, if_neg Bool.false_ne_true, UInt32.add_zero]
    refine ⟨?_, nofun⟩
    split <;> rfl

end OnChip
end Fieldbus
