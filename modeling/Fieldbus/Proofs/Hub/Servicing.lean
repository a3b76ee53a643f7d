import Fieldbus.Proofs.Device.Mcp2515.Fetching
import Fieldbus.Proofs.Hub.Wakeup

/-! The two loops of a hub that devices end: its interrupt handlers, and the polling for frames.

The interrupt handler of an on-chip device runs until nothing is latched.  Each run reads one
mailbox at most, and while there are others the receive interrupt is latched again; transmissions
and errors are reported by the first run alone.  So the handler runs once for each mailbox
(`Bus.services_onChip`), and what all runs ask for is known beforehand (`Hub.service_onChip`).

A bus is polled until it has no frame.  Every device has only so many, and a bound on them is known
before it is polled, which therefore bounds the polls but does not cut them short
(`Hub.pollFrames_of_backlog_lt`). -/

namespace Fieldbus

/-! ### The queue -/

namespace WorkQueue

/-- How much more work the queue takes. -/
def room (q : WorkQueue) : Nat :=
  match q.worker with
  | .ended => 0
  | _ => capacity - q.items.length

theorem accepts_iff (q : WorkQueue) : q.accepts = true ↔ 0 < q.room := by
  obtain ⟨items, dropped, worker⟩ := q
  cases worker <;> simp [accepts, room]

def pushAll (q : WorkQueue) (work : List Work) : WorkQueue :=
  work.foldl (fun q w => (q.push w).2) q

/-- Of work that is put in, as much is kept as there is room for, and the rest is counted. -/
theorem pushAll_eq (q : WorkQueue) (work : List Work) :
    q.pushAll work =
      { q with
        items := q.items ++ work.take q.room
        dropped := q.dropped + UInt32.ofNat (work.length - q.room) } := by
  induction work generalizing q with
  | nil => simp [pushAll]
  | cons w work ih =>
    rw [pushAll, List.foldl_cons, ← pushAll, ih, push]
    by_cases haccepts : q.accepts = true
    · have hpos := q.accepts_iff.mp haccepts
      have hroom : room { q with items := q.items ++ [w] } = q.room - 1 := by
        obtain ⟨items, dropped, worker⟩ := q
        cases worker <;> simp [room] <;> omega
      obtain ⟨r, hr⟩ : ∃ r, q.room = r + 1 := ⟨q.room - 1, by omega⟩
      rw [if_pos haccepts]
      dsimp only
      rw [hroom, hr]
      simp
    · have hzero : q.room = 0 := by
        have := q.accepts_iff.not.mp haccepts
        omega
      have hroom : room { q with dropped := q.dropped + 1 } = 0 := hzero
      rw [if_neg haccepts]
      dsimp only
      rw [hroom, hzero, Nat.sub_zero, Nat.sub_zero, List.length_cons, Nat.add_comm,
        UInt32.ofNat_add, UInt32.add_assoc]
      rfl

end WorkQueue

/-! ### One run -/

namespace Controller

/-- How often the interrupt handler runs until nothing is latched. -/
def runs (c : Controller) : Nat :=
  if c.interrupts = 0 then 0 else if c.interrupts &&& Irq.receive ≠ 0 then c.fifo.length else 1

/-- What the interrupt handler asks for until nothing is latched. -/
def requested (c : Controller) (name : BusName) : List Request :=
  (if c.interrupts &&& Irq.transmit ≠ 0 then [.transmit] else [])
    ++ (c.fifo.head?.bind (·.capture? name)).toList.map .frame
    ++ (if c.interrupts &&& Irq.errors ≠ 0 then [.reportErrors] else [])
    ++ (c.fifo.tail.filterMap (·.capture? name)).map .frame

/-- The receive interrupt is latched exactly while there are mailboxes. -/
def Calls (c : Controller) : Prop := c.interrupts &&& Irq.receive ≠ 0 ↔ c.fifo ≠ []

/-- The controller behind its first mailbox, with nothing latched but that there are others. -/
def behindFirst (c : Controller) : Controller :=
  { c with
    fifo := c.fifo.tail
    interrupts := if c.fifo.tail.isEmpty then 0 else Irq.receive }

end Controller

namespace OnChip

variable {d : OnChip} (name : BusName) (s : Statistics)

/-- Whatever is latched, a run takes the first mailbox, if there is one, and leaves nothing latched
but that there are others. -/
theorem interrupt_latched (h : d.controller.Calls) :
    (∃ errors, (interrupt name s d).device =
      { d with controller := { d.controller.behindFirst with errors } }) ∧
    (interrupt name s d).statistics.counters.interrupts = s.counters.interrupts + 1 ∧
    (interrupt name s d).requests =
      (if d.controller.interrupts &&& Irq.transmit ≠ 0 then [.transmit] else [])
        ++ (d.controller.fifo.head?.bind (·.capture? name)).toList.map .frame
        ++ (if d.controller.interrupts &&& Irq.errors ≠ 0 then [.reportErrors] else []) := by
  obtain ⟨c, resetReading, freeReadings⟩ := d
  have hread : (if c.interrupts &&& Irq.receive ≠ 0 then
        (c.takeInterrupts.2.release,
          (c.takeInterrupts.2.front.capture? name).toList.map Request.frame)
      else (c.takeInterrupts.2, []))
      = (c.behindFirst, (c.fifo.head?.bind (·.capture? name)).toList.map .frame) := by
    cases hfifo : c.fifo with
    | nil =>
      rw [if_neg fun hlatched => h.mp hlatched hfifo]
      simp [Controller.takeInterrupts, Controller.behindFirst, hfifo]
    | cons m rest =>
      rw [if_pos (h.mpr (by simp [hfifo]))]
      simp [Controller.takeInterrupts, Controller.release, Controller.front,
        Controller.behindFirst, hfifo]
  have hlatched : c.takeInterrupts.1 = c.interrupts := rfl
  simp only [interrupt, hlatched, hread]
  by_cases herrors : c.interrupts &&& Irq.errors ≠ 0
  · simp only [if_pos herrors]
    split
    · exact ⟨⟨_, rfl⟩, rfl, trivial⟩
    · exact ⟨⟨_, rfl⟩, rfl, trivial⟩
  · simp only [if_neg herrors]
    exact ⟨⟨_, rfl⟩, rfl, trivial⟩

/-- When mailboxes are all that is latched, a run reads one. -/
theorem interrupt_of_receive {m : Mailbox} {rest : List Mailbox}
    (hlatched : d.controller.interrupts = Irq.receive) (hfifo : d.controller.fifo = m :: rest) :
    interrupt name s d =
      { device := { d with controller := d.controller.behindFirst }
        statistics := s.countInterrupt
        requests := (m.capture? name).toList.map .frame } := by
  have hreceive : Irq.receive ≠ 0 := by decide
  have hothers : Irq.receive &&& Irq.transmit = 0 ∧ Irq.receive &&& Irq.errors = 0 := by decide
  simp [interrupt, Controller.takeInterrupts, Controller.release, Controller.front,
    Controller.behindFirst, hlatched, hfifo, hreceive, hothers]

end OnChip

/-! ### All runs -/

namespace Hub

variable {δ : Type} {h : Hub δ} {i : Nat}

theorem workText_congr {h' : Hub δ} (hnames : h'.names = h.names) (w : Work) :
    h'.workText w = h.workText w := by
  have hname : ∀ (h : Hub δ) (i : Nat),
      workText.nameAt h i = ((h.names[i]?).map (·.text)).getD "" := by
    intro h i
    rw [workText.nameAt, names, List.getElem?_map, Option.map_map]
    rfl
  cases w <;> simp only [workText, hname, hnames]

/-- Work is put in as well after buses are replaced by others of the same names. -/
theorem push_withBuses {buses : List (Bus δ)} (hnames : buses.map Bus.name = h.names) (w : Work) :
    { (h.push w).2 with buses } = (push { h with buses } w).2 := by
  have hsame : names { h with buses, queue := (h.queue.push w).2 }
      = names { h with queue := (h.queue.push w).2 } := hnames
  have htext := workText_congr hsame w
  rw [push, push]
  dsimp only
  split
  · rfl
  · rw [htext]
    rfl

theorem pushAll_withBuses {buses : List (Bus δ)} (hnames : buses.map Bus.name = h.names)
    (requests : List Request) :
    { h.pushAll i requests with buses } = pushAll { h with buses } i requests := by
  induction requests generalizing h with
  | nil => rfl
  | cons request requests ih =>
    have hpushed : buses.map Bus.name = (h.push (request.work i)).2.names := by
      rw [hnames, names, names, (h.push_eq _).1]
    show { (h.push (request.work i)).2.pushAll i requests with buses } = _
    rw [ih hpushed, push_withBuses hnames]
    rfl

theorem pushAll_append (requests more : List Request) :
    (h.pushAll i requests).pushAll i more = h.pushAll i (requests ++ more) :=
  List.foldl_append.symm

theorem queue_pushAll (requests : List Request) :
    (h.pushAll i requests).queue = h.queue.pushAll (requests.map (·.work i)) := by
  induction requests generalizing h with
  | nil => rfl
  | cons request requests ih =>
    show ((h.push (request.work i)).2.pushAll i requests).queue = _
    rw [ih, (h.push_eq _).2]
    rfl

end Hub

namespace Bus

/-- While its line is asserted, but at most `n` times, the handler of the bus runs: so often, with
this bus behind it, and all runs together ask for this. -/
def Services (b : Bus Hardware) (n count : Nat) (b' : Bus Hardware) (requests : List Request) :
    Prop :=
  ∀ (h : Hub Hardware) (i : Nat), h.buses[i]? = some b →
    h.serviceRounds i n = (count, Hub.pushAll { h with buses := h.buses.set i b' } i requests)

variable {b b' : Bus Hardware} {d : OnChip} {n count : Nat} {requests : List Request}

theorem services_none (hasserted : Device.asserted b.device = false) (n : Nat) :
    b.Services n 0 b [] := by
  intro h i hb
  obtain ⟨hi, rfl⟩ := List.getElem?_eq_some_iff.mp hb
  have hline : h.asserted i = false := by
    rw [Hub.asserted, hb]
    exact hasserted
  rw [List.set_getElem_self]
  cases n with
  | zero => rfl
  | succ n => rw [Hub.serviceRounds, if_neg (by simp [hline])]; rfl

theorem Services.next (hservices : b.handled.Services n count b' requests)
    (hasserted : Device.asserted b.device = true) (hname : b'.name = b.name) :
    b.Services (n + 1) (count + 1) b' (b.requests ++ requests) := by
  intro h i hb
  obtain ⟨hi, hget⟩ := List.getElem?_eq_some_iff.mp hb
  have hline : h.asserted i = true := by
    rw [Hub.asserted, hb]
    exact hasserted
  have hnames : (h.buses.set i b').map Bus.name = (h.buses.set i b.handled).map Bus.name := by
    rw [List.map_set, List.map_set, hname]
    rfl
  let handled : Hub Hardware := { h with buses := h.buses.set i b.handled }
  have hhandled : (handled.pushAll i b.requests).buses[i]? = some b.handled := by
    rw [Hub.buses_pushAll]
    exact List.getElem?_set_self hi
  rw [Hub.serviceRounds, if_pos hline, Hub.interrupt_eq hb, hservices _ i hhandled,
    Hub.buses_pushAll, List.set_set, Hub.pushAll_withBuses hnames, Hub.pushAll_append]

/-- The bus after so many runs of its handler, with all mailboxes read and nothing latched. -/
def emptied (b : Bus Hardware) (d : OnChip) (runs : Nat) : Bus Hardware :=
  { b with
    device := .onChip { d with controller := { d.controller with interrupts := 0, fifo := [] } }
    statistics := { b.statistics with
      counters.interrupts := b.statistics.counters.interrupts + UInt32.ofNat runs } }

theorem emptied_of_idle (hd : b.device = .onChip d) (hlatched : d.controller.interrupts = 0)
    (hfifo : d.controller.fifo = []) : b.emptied d 0 = b := by
  obtain ⟨name, device, statistics, power, setup, deferred⟩ := b
  obtain ⟨⟨inReset, transceiver, _, interrupts, fifo, _, _, _, _, _⟩, _, _⟩ := d
  subst hd hlatched hfifo
  simp [emptied]

theorem asserted_eq (hd : b.device = .onChip d) :
    Device.asserted b.device = decide (d.controller.interrupts ≠ 0) := by
  rw [hd]
  rfl

theorem handled_eq (hd : b.device = .onChip d) :
    let r := OnChip.interrupt b.name b.statistics d
    b.handled = { b with device := .onChip r.device, statistics := r.statistics } ∧
    b.requests = r.requests := by
  rw [handled, Bus.requests, hd]
  exact ⟨rfl, rfl⟩

/-- Mailboxes that are all that is latched are read one by one. -/
theorem services_receive {fifo : List Mailbox} (hd : b.device = .onChip d)
    (hfifo : d.controller.fifo = fifo)
    (hlatched : d.controller.interrupts = if fifo.isEmpty then 0 else Irq.receive)
    (hn : fifo.length ≤ n) :
    b.Services n fifo.length (b.emptied d fifo.length)
      ((fifo.filterMap (·.capture? b.name)).map .frame) := by
  induction fifo generalizing b d n with
  | nil =>
    have hidle : Device.asserted b.device = false := by
      rw [asserted_eq hd, hlatched]
      rfl
    rw [List.length_nil, emptied_of_idle hd hlatched hfifo]
    exact services_none hidle n
  | cons m rest ih =>
    obtain ⟨n, rfl⟩ : ∃ k, n = k + 1 := ⟨n - 1, by simp only [List.length_cons] at hn; omega⟩
    have hasserted : Device.asserted b.device = true := by
      rw [asserted_eq hd, hlatched]
      rfl
    let d' : OnChip := { d with controller := d.controller.behindFirst }
    obtain ⟨hhandled, hrequests⟩ := handled_eq hd
    rw [OnChip.interrupt_of_receive b.name b.statistics hlatched hfifo] at hhandled hrequests
    have hrest : b.handled.Services n rest.length (b.handled.emptied d' rest.length)
        ((rest.filterMap (·.capture? b.handled.name)).map .frame) := by
      refine ih (by rw [hhandled]) ?_ ?_ (Nat.le_of_succ_le_succ hn)
      · show d.controller.fifo.tail = rest
        rw [hfifo]
        rfl
      · show (if d.controller.fifo.tail.isEmpty then _ else _) = _
        rw [hfifo]
        rfl
    have hemptied : b.handled.emptied d' rest.length = b.emptied d (rest.length + 1) := by
      rw [hhandled]
      simp [emptied, d', Controller.behindFirst, Statistics.countInterrupt, UInt32.add_assoc,
        UInt32.add_comm 1]
    have hall := hrest.next hasserted rfl
    rw [hemptied, hrequests] at hall
    have hcaptures : ((m :: rest).filterMap (·.capture? b.name)).map Request.frame
        = (m.capture? b.name).toList.map .frame
          ++ (rest.filterMap (·.capture? b.name)).map .frame := by
      cases hm : m.capture? b.name <;> simp [hm]
    rw [hcaptures]
    exact hall

/-- The bus after servicing: the controller has nothing latched and no mailbox, and else only the
state of its errors and the statistics have changed. -/
structure Serviced (b : Bus Hardware) (d : OnChip) (b' : Bus Hardware) : Prop where
  device : ∃ errors, b'.device = .onChip
    { d with controller := { d.controller with interrupts := 0, fifo := [], errors } }
  others : b' = { b with device := b'.device, statistics := b'.statistics }
  interrupts : b'.statistics.counters.interrupts
    = b.statistics.counters.interrupts + UInt32.ofNat d.controller.runs
  receiveOverflow : b'.statistics.counters.receiveOverflow
    = b.statistics.counters.receiveOverflow
      + if d.controller.interrupts &&& Irq.dataOverrun ≠ 0 then 1 else 0

/-- The handler runs as often as there are mailboxes, or once if there is none but something else is
latched, and reports transmissions and errors once. -/
theorem services_onChip (hd : b.device = .onChip d) (hcalls : d.controller.Calls) :
    ∃ b', b.Serviced d b' ∧ ∀ n, d.controller.fifo.length < n →
      b.Services n d.controller.runs b' (d.controller.requested b.name) := by
  by_cases hlatched : d.controller.interrupts = 0
  · have hfifo : d.controller.fifo = [] := by
      by_contra hne
      exact hcalls.mpr hne (by rw [hlatched, UInt8.zero_and])
    have hidle : Device.asserted b.device = false := by
      rw [asserted_eq hd, hlatched]
      rfl
    have hruns : d.controller.runs = 0 := if_pos hlatched
    have hrequested : d.controller.requested b.name = [] := by
      simp [Controller.requested, hlatched, hfifo]
    refine ⟨b, ⟨⟨d.controller.errors, ?_⟩, rfl, ?_, ?_⟩, fun n _ => ?_⟩
    · rw [hd, ← hlatched, ← hfifo]
    · rw [hruns]
      exact (UInt32.add_zero _).symm
    · simp [hlatched]
    · rw [hruns, hrequested]
      exact services_none hidle n
  · have hasserted : Device.asserted b.device = true := by
      rw [asserted_eq hd]
      exact decide_eq_true hlatched
    obtain ⟨hhandled, hrequests⟩ := handled_eq hd
    obtain ⟨⟨errors, hdevice⟩, hinterrupts, hfirst⟩ :=
      OnChip.interrupt_latched b.name b.statistics hcalls
    obtain ⟨hoverflow, -⟩ := OnChip.overrun_interrupt b.name b.statistics d
    rw [hdevice] at hhandled
    rw [hfirst] at hrequests
    have hruns : d.controller.runs = d.controller.fifo.tail.length + 1 := by
      rw [Controller.runs, if_neg hlatched]
      cases hfifo : d.controller.fifo with
      | nil => rw [if_neg fun hreceive => hcalls.mp hreceive hfifo]; rfl
      | cons m rest => rw [if_pos (hcalls.mpr (by simp [hfifo]))]; rfl
    let d' : OnChip := { d with controller := { d.controller.behindFirst with errors } }
    refine ⟨b.handled.emptied d' d.controller.fifo.tail.length, ⟨⟨errors, rfl⟩, rfl, ?_, ?_⟩,
      fun n hn => ?_⟩
    · rw [hhandled]
      show (OnChip.interrupt _ _ d).statistics.counters.interrupts + _ = _
      rw [hinterrupts, hruns, UInt32.add_assoc, Nat.add_comm, UInt32.ofNat_add]
      rfl
    · rw [hhandled]
      show (OnChip.interrupt _ _ d).statistics.counters.receiveOverflow = _
      rw [hoverflow]
      simp [Controller.inbox]
    · obtain ⟨n, rfl⟩ : ∃ k, n = k + 1 := ⟨n - 1, by omega⟩
      have hlength : d.controller.fifo.tail.length ≤ n := by
        rw [List.length_tail]
        omega
      have hrest := services_receive (b := b.handled) (d := d') (by rw [hhandled]) rfl rfl hlength
      have hall := hrest.next hasserted rfl
      rw [hrequests] at hall
      rw [hruns]
      exact hall

end Bus

namespace Hub

/-- However often the handler of an on-chip device may run, it runs until its line is not asserted
any more.  What it asked for goes into the queue in this order; what finds the queue full is counted
as dropped. -/
theorem service_onChip {h : Hub Hardware} {i : Nat} {b : Bus Hardware} {d : OnChip}
    (hb : h.buses[i]? = some b) (hd : b.device = .onChip d) (hcalls : d.controller.Calls) :
    let requests := d.controller.requested b.name
    let work := requests.map (·.work i)
    ∃ b', b.Serviced d b' ∧
      h.service i = (d.controller.runs, pushAll { h with buses := h.buses.set i b' } i requests) ∧
      (∀ n, d.controller.fifo.length < n → h.serviceRounds i n = h.service i) ∧
      (h.service i).2.asserted i = false ∧
      (h.service i).2.queue = { h.queue with
        items := h.queue.items ++ work.take h.queue.room
        dropped := h.queue.dropped + UInt32.ofNat (work.length - h.queue.room) } := by
  intro requests work
  obtain ⟨b', hserviced, hservices⟩ := Bus.services_onChip hd hcalls
  have hrounds : ((h.buses[i]?).map fun b => Device.rounds b.device).getD 0
      = d.controller.fifo.length + 1 := by
    rw [hb, Option.map_some, hd]
    rfl
  have hservice : h.service i
      = (d.controller.runs, pushAll { h with buses := h.buses.set i b' } i requests) := by
    rw [service, hrounds]
    exact hservices _ (Nat.lt_succ_self _) h i hb
  refine ⟨b', hserviced, hservice, fun n hn => ?_, ?_, ?_⟩
  · rw [hservice]
    exact hservices n hn h i hb
  · obtain ⟨hi, -⟩ := List.getElem?_eq_some_iff.mp hb
    obtain ⟨errors, hdevice⟩ := hserviced.device
    rw [hservice, asserted, buses_pushAll, List.getElem?_set_self hi, Option.map_some,
      Bus.asserted_eq hdevice]
    rfl
  · rw [hservice, queue_pushAll, WorkQueue.pushAll_eq]

/-- A transmission, an overrun and three mailboxes, one of which asks for a frame, while the queue
has room for three. -/
theorem service_onChip_of_three_mailboxes :
    let mailboxes : List Mailbox :=
      [.ofBytes 1 0x7ff [0x2a], .ofBytes 0x41 0x7ff [], .ofBytes 0x80 0x1fffffff []]
    let d : OnChip := { controller := { interrupts := 0x0b, fifo := mailboxes } }
    let h : Hub Hardware :=
      { buses := [⟨⟨"can0"⟩, .scripted {}, {}, .off, none, {}⟩,
          ⟨⟨"can1"⟩, .onChip d, {}, .off, none, {}⟩]
        queue := { items := List.replicate 17 (.poll 0), worker := .running } }
    let f : Frame := ⟨some ⟨"can1"⟩, 0x7ff, .standard, [0x2a], by decide, by decide⟩
    (h.service 1).1 = 3 ∧ (h.service 1).2.asserted 1 = false ∧
      (∃ b', (h.service 1).2.buses[1]? = some b' ∧
        b'.statistics.counters.interrupts = 3 ∧ b'.statistics.counters.receiveOverflow = 1) ∧
      (h.service 1).2.queue.items
        = List.replicate 17 (.poll 0) ++ [.transmit 1, .frame f, .reportErrors 1] ∧
      (h.service 1).2.queue.dropped = 1 := by
  intro mailboxes d h f
  have hcalls : d.controller.Calls := by
    unfold Controller.Calls
    decide
  obtain ⟨b', hserviced, hservice, -, hasserted, hqueue⟩ :=
    service_onChip (h := h) (i := 1) rfl rfl hcalls
  refine ⟨?_, hasserted, ⟨b', ?_, ?_, ?_⟩, ?_, ?_⟩
  · rw [hservice]
    show d.controller.runs = 3
    decide
  · rw [hservice, buses_pushAll]
    rfl
  · rw [hserviced.interrupts]
    decide
  · rw [hserviced.receiveOverflow]
    decide
  · rw [hqueue]
    decide
  · rw [hqueue]
    decide

end Hub

/-! ### Polling -/

namespace Hardware

/-- How many frames polling can still fetch for the bus of this name. -/
def pollable (name : BusName) : Hardware → Nat
  | onChip _ => 0
  | mcp2515 l => (l.chip.inbox name).length
  | scripted d => d.polls.length

theorem pollable_le_backlog (name : BusName) (d : Hardware) :
    d.pollable name ≤ Device.backlog d := by
  cases d with
  | onChip d => exact Nat.le_refl 0
  | mcp2515 l =>
    show (l.chip.inbox name).length ≤ 2
    rw [Mcp2515.Chip.inbox, List.length_append]
    cases l.chip.held? name 0 <;> cases l.chip.held? name 1 <;> simp
  | scripted d => exact Nat.le_refl _

theorem pollable_of_poll {name : BusName} {s : Statistics} {d : Hardware} {f : Frame}
    (h : (Device.poll name s d).frame = some f) :
    (Device.poll name s d).device.pollable name < d.pollable name := by
  cases d with
  | onChip d => cases h
  | mcp2515 l =>
    have hinbox := Mcp2515.Polling.inbox_of_poll h
    show ((Mcp2515.poll name s l).device.chip.inbox name).length < (l.chip.inbox name).length
    rw [hinbox]
    exact Nat.lt_succ_self _
  | scripted d =>
    obtain ⟨starts, stops, readies, transmits, polls, calls⟩ := d
    cases polls with
    | nil => cases h
    | cons answer polls => exact Nat.lt_succ_self _

end Hardware

namespace Hub

variable {h : Hub Hardware} {i : Nat}

/-- Any two bounds that cover the frames of the bus come to the same. -/
theorem pollFrames_congr {k n m : Nat}
    (hbus : h.Has i fun b => b.device.pollable b.name ≤ k) (hn : k < n) (hm : k < m) :
    h.pollFrames i n = h.pollFrames i m := by
  induction n generalizing h k m with
  | zero => exact absurd hn (Nat.not_lt_zero k)
  | succ n ih =>
    obtain ⟨m, rfl⟩ := Nat.exists_eq_succ_of_ne_zero (Nat.ne_zero_of_lt hm)
    obtain ⟨b, hb, hk⟩ := hbus
    rw [pollFrames, pollFrames, onBus_eq hb]
    cases hframe : b.poll.result with
    | none => rfl
    | some f =>
      -- The device has one frame less, and recording the frame does not touch it.
      have hless : b.poll.bus.device.pollable b.name < b.device.pollable b.name :=
        Hardware.pollable_of_poll hframe
      obtain ⟨k, rfl⟩ := Nat.exists_eq_succ_of_ne_zero
        (Nat.ne_zero_of_lt (Nat.lt_of_lt_of_le hless hk))
      have hpolled : (h.settle i (b.poll.bus, b.poll.effects)).Has i
          fun b => b.device.pollable b.name ≤ k :=
        Has.ofBuses (.set_self hb (Nat.le_of_lt_succ (Nat.lt_of_lt_of_le hless hk)))
          (h.onlyRecords_settle i _).buses
      exact ih (hpolled.incoming (fun _ hb => hb) f) (Nat.lt_of_succ_lt_succ hn)
        (Nat.lt_of_succ_lt_succ hm)

/-- However often the bus at a place may be polled beyond its backlog, the polls end when it has no
frame. -/
theorem pollFrames_of_backlog_lt (h : Hub Hardware) (i : Nat) {n : Nat} (hn : h.backlog i < n) :
    h.pollFrames i n = h.pollFrames i (h.backlog i + 1) := by
  cases hb : h.buses[i]? with
  | none =>
    have hnone : ∀ n, h.pollFrames i n = h := by
      rintro (_ | n)
      · rfl
      · rw [pollFrames, onBus, hb]
    rw [hnone, hnone]
  | some b =>
    have hbacklog : h.backlog i = Device.backlog b.device := by
      rw [backlog, hb, Option.map_some, Option.getD_some]
    rw [hbacklog] at hn ⊢
    exact pollFrames_congr ⟨b, hb, Hardware.pollable_le_backlog b.name b.device⟩ hn
      (Nat.lt_succ_self _)

end Hub
end Fieldbus
