import Fieldbus.Proofs.Hub.Traffic
import Fieldbus.Station.Basic

/-! What becomes of the work of a hub.  Anyone may push work at any time, while the worker takes one
item after another, is started, again or for the first time, or is shut down.  What was accepted has
been dispatched in the order in which it was pushed, or it waits, or the end of the worker discarded it;
everything else was refused and counted.  The frames among the dispatched work were counted by their
buses and handed to the active logger (`Workload.accounted_events`). -/

namespace Fieldbus

/-- Work is refused if, and only if, the queue is full or the worker has ended. -/
theorem WorkQueue.push_cases (q : WorkQueue) (w : Work) :
    (q.push w = (true, { q with items := q.items ++ [w] }) ∧
      q.worker ≠ .ended ∧ q.items.length < capacity) ∨
    (q.push w = (false, { q with dropped := q.dropped + 1 }) ∧
      (q.worker = .ended ∨ capacity ≤ q.items.length)) := by
  rw [push, accepts]
  by_cases hended : q.worker = .ended
  · simp [hended]
  · by_cases hroom : q.items.length < capacity
    · simp [hended, hroom]
    · simp [hended, hroom, Nat.le_of_not_lt hroom]

namespace Hub

/-! ### Traffic that comes in -/

/-- From one state to another, these frames came in, and nothing else happened that buses count as
received frames or that the active logger is told. -/
structure Receives (h h' : Hub Hardware) (frames : List Frame) : Prop where
  names : h'.names = h.names
  received : ∀ {i : Nat} {b : Bus Hardware}, h.Sole i b → ∃ b', h'.buses[i]? = some b' ∧
    b'.statistics.counters.received
      = b.statistics.counters.received + UInt32.ofNat (frames.countP (·.origin = some b.name))
  recorder : ∃ messages : List Message,
    messages.map (fun m => (m.origin, m.entry))
      = frames.map (fun f => (f.origin, .frame .received f)) ∧
    h'.recorder = messages.foldl Recorder.hand h.recorder

namespace Receives

variable {h h' h'' : Hub Hardware} {frames : List Frame}

theorem refl (h : Hub Hardware) : Receives h h [] :=
  ⟨rfl, fun hsole => ⟨_, hsole.bus, (UInt32.add_zero _).symm⟩, [], rfl, rfl⟩

/-- A step that neither counts nor records anything. -/
theorem keep (hr : Receives h h' frames) (hnames : h''.names = h'.names)
    (hreceived : ∀ {i : Nat} {b : Bus Hardware}, h'.buses[i]? = some b →
      ∃ b' : Bus Hardware, h''.buses[i]? = some b' ∧
        b'.statistics.counters.received = b.statistics.counters.received)
    (hrecorder : h''.recorder = h'.recorder) : Receives h h'' frames := by
  refine ⟨hnames.trans hr.names, fun hsole => ?_, ?_⟩
  · obtain ⟨b', hb', hcount⟩ := hr.received hsole
    obtain ⟨b'', hb'', hsame⟩ := hreceived hb'
    exact ⟨b'', hb'', hsame.trans hcount⟩
  · obtain ⟨messages, hmessages, hhanded⟩ := hr.recorder
    exact ⟨messages, hmessages, hrecorder.trans hhanded⟩

theorem ofBuses (hr : Receives h h' frames) (hbuses : h''.buses = h'.buses)
    (hrecorder : h''.recorder = h'.recorder) : Receives h h'' frames :=
  hr.keep (congrArg (List.map Bus.name) hbuses) (fun hb => ⟨_, hbuses ▸ hb, rfl⟩) hrecorder

theorem incoming (hr : Receives h h' frames) (f : Frame) :
    Receives h (h'.incoming f) (frames ++ [f]) := by
  refine ⟨(h'.names_incoming f).trans hr.names, fun {i b} hsole => ?_, ?_⟩
  · obtain ⟨b', hb', hcount⟩ := hr.received hsole
    obtain ⟨hname, hsole'⟩ := hsole.congr hr.names hb'
    refine ⟨_, (congrArg (·[i]?) (h'.onlyRecords_incoming f).buses).trans (hsole'.counted f), ?_⟩
    rw [List.countP_append, List.countP_singleton, UInt32.ofNat_add, ← UInt32.add_assoc, ← hcount,
      hname]
    by_cases horigin : f.origin = some b.name
    · simp [horigin, Statistics.countReceived]
    · simp [horigin]
  · obtain ⟨messages, hmessages, hhanded⟩ := hr.recorder
    refine ⟨messages ++ [⟨f.origin, h'.clock, .frame .received f⟩], ?_, ?_⟩
    · rw [List.map_append, List.map_append, hmessages]
      rfl
    · rw [(h'.hands_incoming f).recorder, hhanded, List.foldl_append]

theorem push (hr : Receives h h' frames) (w : Work) : Receives h (h'.push w).2 frames :=
  hr.ofBuses (h'.push_eq w).1 (h'.hands_push w).recorder

/-- An interrupt handler counts interrupts and errors, but no frames. -/
theorem handle (hr : Receives h h' frames) {i : Nat} {b : Bus Hardware}
    (hb : h'.buses[i]? = some b) :
    Receives h { h' with buses := h'.buses.set i b.handled } frames := by
  have hlength := (List.getElem?_eq_some_iff.mp hb).1
  have hname : b.handled.name = b.name := rfl
  have hnames : Hub.names { h' with buses := h'.buses.set i b.handled } = h'.names :=
    names_settle hb hname []
  refine hr.keep hnames (fun {j b'} hb' => ?_) rfl
  by_cases hj : i = j
  · subst hj
    obtain rfl : b = b' := Option.some.inj (hb.symm.trans hb')
    refine ⟨b.handled, List.getElem?_set_self hlength, ?_⟩
    have htraffic := Hardware.traffic_interrupt b.name b.statistics b.device
    exact congrFun htraffic .received
  · exact ⟨b', (List.getElem?_set_ne hj).trans hb', rfl⟩

end Receives
end Hub

theorem Hub.queue_dispatchNext {δ : Type} [Device δ] {h : Hub δ} {w : Work} {rest : List Work}
    (hitems : h.queue.items = w :: rest) :
    h.dispatchNext.queue = { h.queue with items := rest } := by
  rw [dispatchNext, hitems]
  exact queue_dispatch _ w

/-- The worker takes all that waits and dispatches it, item by item. -/
def Hub.dispatchAll {δ : Type} [Device δ] (h : Hub δ) : Hub δ :=
  h.queue.items.foldl Hub.dispatch { h with queue.items := [] }

theorem Hub.queue_dispatchAll {δ : Type} [Device δ] (h : Hub δ) :
    h.dispatchAll.queue = { h.queue with items := [] } := by
  have hall : ∀ (items : List Work) (h : Hub δ), (items.foldl dispatch h).queue = h.queue := by
    intro items
    induction items with
    | nil => exact fun _ => rfl
    | cons w items ih => exact fun h => (ih _).trans (h.queue_dispatch w)
  exact hall _ _

/-- This is what the turn of a station's worker does to its hub. -/
theorem Station.hub_work {δ : Type} [Device δ] (s : Station δ) :
    s.work.hub = s.hub.dispatchAll := by
  have hwake : ∀ s : Station δ, s.wakeWrites.hub = s.hub := by
    intro s
    have hready : ∀ (runners : List Runner) (s : Station δ),
        (s.makeAllReady runners).hub = s.hub := by
      intro runners
      induction runners with
      | nil => exact fun _ => rfl
      | cons t runners ih =>
        intro s
        refine (ih _).trans ?_
        rw [makeReady]
        split <;> rfl
    exact hready _ s
  have hall : ∀ (items : List Work) (s : Station δ),
      (items.foldl (fun s w => { s with hub := s.hub.dispatch w }.wakeWrites) s).hub
        = items.foldl Hub.dispatch s.hub := by
    intro items
    induction items with
    | nil => exact fun _ => rfl
    | cons w items ih =>
      intro s
      rw [List.foldl_cons, ih, hwake, List.foldl_cons]
  exact hall _ _

/-- A hub, and what became of the work that was pushed. -/
structure Workload where
  hub : Hub Hardware
  accepted : List Work := []
  refused : List Work := []
  dispatched : List Work := []
  discarded : List Work := []
  /-- Whether the worker was told to end. -/
  told : Bool := false

namespace Workload

inductive Event where
  | push (w : Work)
  /-- The interrupt handler of a bus runs, and what it asks for is pushed. -/
  | interrupt (place : Nat)
  /-- The worker, if it runs, takes the first item that waits and dispatches it. -/
  | work
  /-- The worker, if it runs, dispatches all that waits, as in one turn of a station. -/
  | turn
  | start
  | shutdown
  /-- The worker ends, if it was told to.  Until then it goes on. -/
  | ended
  /-- Listeners come, go, or take their frames, and time passes. -/
  | aside (listeners : Listeners) (clock : Timestamp)
  /-- Anything else happens that does not concern the queue. -/
  | meanwhile (hub : Hub Hardware)

def push (r : Workload) (w : Work) : Workload :=
  let (taken, hub) := r.hub.push w
  if taken then { r with hub, accepted := r.accepted ++ [w] }
  else { r with hub, refused := r.refused ++ [w] }

def interrupt (r : Workload) (place : Nat) : Workload :=
  match r.hub.buses[place]? with
  | some b =>
    b.requests.foldl (fun r request => r.push (request.work place))
      { r with hub.buses := r.hub.buses.set place b.handled }
  | none => r

def work (r : Workload) : Workload :=
  match r.hub.queue.worker, r.hub.queue.items with
  | .running, w :: _ => { r with hub := r.hub.dispatchNext, dispatched := r.dispatched ++ [w] }
  | _, _ => r

def turn (r : Workload) : Workload :=
  match r.hub.queue.worker with
  | .running =>
    { r with hub := r.hub.dispatchAll, dispatched := r.dispatched ++ r.hub.queue.items }
  | _ => r

def event (r : Workload) : Event → Workload
  | .push w => r.push w
  | .interrupt place => r.interrupt place
  | .work => r.work
  | .turn => r.turn
  | .start => { r with hub := r.hub.startWorker }
  | .shutdown => { r with told := r.told || r.hub.queue.worker ≠ .idle }
  | .ended =>
    if r.told then
      { r with hub := r.hub.shutdown, discarded := r.discarded ++ r.hub.queue.items }
    else r
  | .aside listeners clock => { r with hub := { r.hub with listeners, clock } }
  | .meanwhile hub => { r with hub := { hub with queue := r.hub.queue } }

def events (r : Workload) (events : List Event) : Workload := events.foldl event r

theorem hub_push (r : Workload) (w : Work) : (r.push w).hub = (r.hub.push w).2 := by
  rw [push]
  dsimp only
  split <;> rfl

/-- The handler does what it does on the hub alone. -/
theorem hub_interrupt (r : Workload) (place : Nat) :
    (r.interrupt place).hub = r.hub.interrupt place := by
  have hall : ∀ (requests : List Request) (r : Workload),
      (requests.foldl (fun r request => r.push (request.work place)) r).hub
        = r.hub.pushAll place requests := by
    intro requests
    induction requests with
    | nil => exact fun _ => rfl
    | cons request requests ih =>
      intro r
      rw [List.foldl_cons, ih, hub_push]
      rfl
  rw [interrupt]
  split
  · next b hb => rw [hall, Hub.interrupt_eq hb]
  · next hnone => rw [Hub.interrupt, hnone]

/-- From one state to the next, work was at most pushed. -/
structure Steady (before after : Workload) : Prop where
  worker : after.hub.queue.worker = before.hub.queue.worker
  told : after.told = before.told
  dispatched : after.dispatched = before.dispatched
  receives : ∀ {h frames}, Hub.Receives h before.hub frames → Hub.Receives h after.hub frames

theorem steady_push (r : Workload) (w : Work) : Steady r (r.push w) := by
  have hworker : (r.hub.push w).2.queue.worker = r.hub.queue.worker := by
    rw [(r.hub.push_eq w).2]
    rcases r.hub.queue.push_cases w with ⟨hpush, -⟩ | ⟨hpush, -⟩
    all_goals rw [hpush]
  rw [push]
  dsimp only
  split
  · exact ⟨hworker, rfl, rfl, fun hr => hr.push w⟩
  · exact ⟨hworker, rfl, rfl, fun hr => hr.push w⟩

theorem steady_interrupt (r : Workload) (place : Nat) : Steady r (r.interrupt place) := by
  have hall : ∀ (requests : List Request) (r : Workload),
      Steady r (requests.foldl (fun r request => r.push (request.work place)) r) := by
    intro requests
    induction requests with
    | nil => exact fun _ => ⟨rfl, rfl, rfl, id⟩
    | cons request requests ih =>
      intro r
      have hfirst := r.steady_push (request.work place)
      have hrest := ih (r.push (request.work place))
      exact ⟨hrest.worker.trans hfirst.worker, hrest.told.trans hfirst.told,
        hrest.dispatched.trans hfirst.dispatched, fun hr => hrest.receives (hfirst.receives hr)⟩
  rw [interrupt]
  split
  · next b hb =>
    have hpushed := hall b.requests { r with hub.buses := r.hub.buses.set place b.handled }
    exact ⟨hpushed.worker, hpushed.told, hpushed.dispatched,
      fun hr => hpushed.receives (hr.handle hb)⟩
  · exact ⟨rfl, rfl, rfl, id⟩

/-! ### The account -/

structure Sound (r : Workload) : Prop where
  length_le : r.hub.queue.items.length ≤ WorkQueue.capacity
  accounted : r.accepted = r.dispatched ++ r.discarded ++ r.hub.queue.items
  dropped : r.hub.queue.dropped = UInt32.ofNat r.refused.length
  told : r.told = true → r.hub.queue.worker ≠ .idle
  kept : r.hub.queue.worker ≠ .ended → r.discarded = []
  ended : r.hub.queue.worker = .ended → r.hub.queue.items = []

namespace Sound

variable {r : Workload}

theorem initial {h : Hub Hardware} (hqueue : h.queue = {}) : Sound { hub := h } := by
  constructor <;> simp [hqueue]

theorem ofQueue (h : r.Sound) {hub : Hub Hardware} (hqueue : hub.queue = r.hub.queue) :
    Sound { r with hub } := by
  obtain ⟨hlength, haccounted, hdropped, htold, hkept, hended⟩ := h
  constructor <;> simp_all

theorem push (h : r.Sound) (w : Work) : (r.push w).Sound := by
  have hanswer : (r.hub.push w).1 = (r.hub.queue.push w).1 := rfl
  have hqueue := (r.hub.push_eq w).2
  rw [Workload.push]
  dsimp only
  rw [hanswer]
  rcases r.hub.queue.push_cases w with ⟨hpush, hopen, hroom⟩ | ⟨hpush, -⟩
  · rw [hpush] at hqueue ⊢
    rw [if_pos rfl]
    constructor
    · rw [hqueue, List.length_append]
      exact hroom
    · simp [hqueue, h.accounted]
    · rw [hqueue]
      exact h.dropped
    · rw [hqueue]
      exact h.told
    · rw [hqueue]
      exact h.kept
    · rw [hqueue]
      exact fun hended => absurd hended hopen
  · rw [hpush] at hqueue ⊢
    rw [if_neg Bool.false_ne_true]
    constructor
    · rw [hqueue]
      exact h.length_le
    · rw [hqueue]
      exact h.accounted
    · simp [hqueue, h.dropped]
    · rw [hqueue]
      exact h.told
    · rw [hqueue]
      exact h.kept
    · rw [hqueue]
      exact h.ended

theorem interrupt (h : r.Sound) (place : Nat) : (r.interrupt place).Sound := by
  have hall : ∀ (requests : List Request) {r : Workload}, r.Sound →
      (requests.foldl (fun r request => r.push (request.work place)) r).Sound := by
    intro requests
    induction requests with
    | nil => exact fun h => h
    | cons request requests ih => exact fun h => ih (h.push _)
  rw [Workload.interrupt]
  split
  · exact hall _ (h.ofQueue rfl)
  · exact h

theorem work (h : r.Sound) : r.work.Sound := by
  rw [Workload.work]
  split
  · next w rest hworker hitems =>
    have hrunning : r.hub.queue.worker ≠ .ended := by simp [hworker]
    have hqueue := Hub.queue_dispatchNext hitems
    constructor
    · have hlength := h.length_le
      rw [hitems, List.length_cons] at hlength
      rw [hqueue]
      exact Nat.le_of_succ_le hlength
    · dsimp only
      rw [h.accounted, hitems, h.kept hrunning, hqueue]
      simp
    · rw [hqueue]
      exact h.dropped
    · rw [hqueue]
      exact h.told
    · rw [hqueue]
      exact h.kept
    · rw [hqueue]
      exact fun hended => absurd hended hrunning
  · exact h

theorem turn (h : r.Sound) : r.turn.Sound := by
  rw [Workload.turn]
  split
  · next hworker =>
    have hrunning : r.hub.queue.worker ≠ .ended := by simp [hworker]
    have hqueue := r.hub.queue_dispatchAll
    constructor
    · simp [hqueue]
    · simp [hqueue, h.accounted, h.kept hrunning]
    · rw [hqueue]
      exact h.dropped
    · rw [hqueue]
      exact h.told
    · rw [hqueue]
      exact h.kept
    · simp [hqueue]
  · exact h

theorem start (h : r.Sound) : Sound { r with hub := r.hub.startWorker } := by
  rw [Hub.startWorker]
  split
  · next hworker =>
    have hidle : r.told = false := by
      have htold := h.told
      simp_all
    constructor
    · exact h.length_le
    · exact h.accounted
    · exact h.dropped
    · simp [Hub.say]
    · intro _
      exact h.kept (by simp [hworker])
    · simp [Hub.say]
  · exact h.ofQueue rfl

theorem ended_told (h : r.Sound) (htold : r.told = true) :
    Sound { r with hub := r.hub.shutdown, discarded := r.discarded ++ r.hub.queue.items } := by
  cases hworker : r.hub.queue.worker with
  | idle => exact absurd hworker (h.told htold)
  | running =>
    have hqueue : r.hub.shutdown.queue
        = { r.hub.queue with items := [], worker := .ended } := by
      rw [Hub.shutdown, WorkQueue.shutdown, hworker]
    constructor
    · simp [hqueue]
    · simp [hqueue, h.accounted]
    · rw [hqueue]
      exact h.dropped
    · simp [hqueue]
    · simp [hqueue]
    · simp [hqueue]
  | ended =>
    have hsame : r.hub.shutdown = r.hub := by
      rw [Hub.shutdown, WorkQueue.shutdown, hworker]
    rw [hsame, h.ended hworker, List.append_nil]
    exact h

theorem event (h : r.Sound) (e : Event) : (r.event e).Sound := by
  cases e with
  | push w => exact h.push w
  | interrupt place => exact h.interrupt place
  | work => exact h.work
  | turn => exact h.turn
  | start => exact h.start
  | shutdown =>
    refine ⟨h.length_le, h.accounted, h.dropped, fun htold => ?_, h.kept, h.ended⟩
    rcases Bool.or_eq_true_iff.mp htold with hbefore | hnow
    · exact h.told hbefore
    · exact of_decide_eq_true hnow
  | ended =>
    rw [Workload.event]
    split
    · next htold => exact h.ended_told htold
    · exact h
  | aside listeners clock => exact h.ofQueue rfl
  | meanwhile hub => exact h.ofQueue rfl

theorem events (h : r.Sound) (es : List Event) : (r.events es).Sound := by
  induction es generalizing r with
  | nil => exact h
  | cons e es ih => exact ih (h.event e)

end Sound

/-! ### The worker's history -/

open scoped List

/-- Whether the worker runs and what it was told follow from what has happened. -/
structure Recalls (r : Workload) (past : List Event) : Prop where
  idle : r.hub.queue.worker = .idle ↔ .start ∉ past
  told : r.told = true ↔ [.start, .shutdown] <+ past
  ended : r.hub.queue.worker = .ended ↔ [.start, .shutdown, .ended] <+ past

theorem sublist_concat_iff {events past : List Event} {a e : Event} :
    events ++ [a] <+ past ++ [e] ↔ events ++ [a] <+ past ∨ a = e ∧ events <+ past := by
  rw [← List.reverse_sublist, List.reverse_concat, List.reverse_concat, List.cons_sublist_cons',
    ← List.reverse_concat, List.reverse_sublist, List.reverse_sublist]

theorem told_concat_iff {past : List Event} {e : Event} :
    [.start, .shutdown] <+ past ++ [e] ↔
      [.start, .shutdown] <+ past ∨ .shutdown = e ∧ .start ∈ past := by
  have hlast : [.start] ++ [.shutdown] <+ past ++ [e] ↔
      [.start] ++ [.shutdown] <+ past ∨ .shutdown = e ∧ [.start] <+ past := sublist_concat_iff
  rwa [List.singleton_sublist] at hlast

theorem ended_concat_iff {past : List Event} {e : Event} :
    [.start, .shutdown, .ended] <+ past ++ [e] ↔
      [.start, .shutdown, .ended] <+ past ∨ .ended = e ∧ [.start, .shutdown] <+ past := by
  have hlast : [.start, .shutdown] ++ [.ended] <+ past ++ [e] ↔
      [.start, .shutdown] ++ [.ended] <+ past ∨ .ended = e ∧ [.start, .shutdown] <+ past :=
    sublist_concat_iff
  exact hlast

namespace Recalls

variable {r r' : Workload} {past : List Event}

/-- Other events do not matter to the worker. -/
theorem other (h : r.Recalls past) {e : Event} (hstart : e ≠ .start) (hshutdown : e ≠ .shutdown)
    (hended : e ≠ .ended) (hworker : r'.hub.queue.worker = r.hub.queue.worker)
    (htold : r'.told = r.told) : r'.Recalls (past ++ [e]) := by
  constructor
  · rw [hworker, h.idle]
    simp [hstart.symm]
  · rw [htold, h.told, told_concat_iff]
    simp [hshutdown.symm]
  · rw [hworker, h.ended, ended_concat_iff]
    simp [hended.symm]

theorem start (h : r.Recalls past) : (r.event .start).Recalls (past ++ [.start]) := by
  have hworker : r.hub.startWorker.queue.worker
      = if r.hub.queue.worker = .idle then .running else r.hub.queue.worker := by
    rw [Hub.startWorker]
    cases hworker : r.hub.queue.worker <;> simp [Hub.say, hworker]
  constructor
  · rw [Workload.event, hworker]
    split <;> simp [*]
  · rw [told_concat_iff]
    simpa [Workload.event] using h.told
  · rw [Workload.event, hworker, ended_concat_iff, ← h.ended]
    split <;> simp [*]

theorem shutdown (h : r.Recalls past) : (r.event .shutdown).Recalls (past ++ [.shutdown]) := by
  constructor
  · simpa [Workload.event] using h.idle
  · rw [Workload.event, Bool.or_eq_true, decide_eq_true_iff, h.told, told_concat_iff, Ne, h.idle]
    simp
  · rw [ended_concat_iff]
    simpa [Workload.event] using h.ended

theorem ended_event (h : r.Recalls past) (hsound : r.Sound) :
    (r.event .ended).Recalls (past ++ [.ended]) := by
  by_cases htold : r.told = true
  · have hstarted := hsound.told htold
    have hworker : r.hub.shutdown.queue.worker = .ended := by
      rw [Hub.shutdown, WorkQueue.shutdown]
      cases hworker : r.hub.queue.worker <;> simp_all
    rw [Workload.event, if_pos htold]
    constructor
    · simpa [hworker] using mt h.idle.mpr hstarted
    · rw [told_concat_iff]
      simpa using h.told
    · rw [ended_concat_iff]
      simp [hworker, h.told.mp htold]
  · rw [Workload.event, if_neg htold]
    constructor
    · simpa using h.idle
    · rw [told_concat_iff]
      simpa using h.told
    · rw [ended_concat_iff, ← h.told]
      simpa [htold] using h.ended

theorem event (h : r.Recalls past) (hsound : r.Sound) (e : Event) :
    (r.event e).Recalls (past ++ [e]) := by
  cases e with
  | start => exact h.start
  | shutdown => exact h.shutdown
  | ended => exact h.ended_event hsound
  | push w =>
    have hpushed := r.steady_push w
    exact h.other nofun nofun nofun hpushed.worker hpushed.told
  | interrupt place =>
    have hpushed := r.steady_interrupt place
    exact h.other nofun nofun nofun hpushed.worker hpushed.told
  | work =>
    rw [Workload.event, Workload.work]
    split
    · next hitems =>
      refine h.other nofun nofun nofun ?_ rfl
      rw [Hub.queue_dispatchNext hitems]
    · exact h.other nofun nofun nofun rfl rfl
  | turn =>
    rw [Workload.event, Workload.turn]
    split
    · refine h.other nofun nofun nofun ?_ rfl
      rw [r.hub.queue_dispatchAll]
    · exact h.other nofun nofun nofun rfl rfl
  | aside listeners clock => exact h.other nofun nofun nofun rfl rfl
  | meanwhile hub => exact h.other nofun nofun nofun rfl rfl

end Recalls

/-! ### The frames that were dispatched -/

section Frames

variable {h h' : Hub Hardware} {frames : List Frame}

theorem receives_dispatch (hr : Hub.Receives h h' frames) (dispatched : List Frame) :
    Hub.Receives h ((dispatched.map Work.frame).foldl Hub.dispatch h') (frames ++ dispatched) := by
  induction dispatched generalizing h' frames with
  | nil =>
    rw [List.append_nil]
    exact hr
  | cons f dispatched ih =>
    have hrest := ih (hr.incoming f)
    rwa [List.append_assoc] at hrest

/-- If an event adds only frames to the dispatched work, these have come in. -/
def Adds (before after : Workload) (more : List Work) : Prop :=
  after.dispatched = before.dispatched ++ more ∧
  ∀ {h : Hub Hardware} {frames fs : List Frame}, more = fs.map Work.frame →
    Hub.Receives h before.hub frames → Hub.Receives h after.hub (frames ++ fs)

theorem adds_nil {r r' : Workload} (hdispatched : r'.dispatched = r.dispatched)
    (hreceives : ∀ {h frames}, Hub.Receives h r.hub frames → Hub.Receives h r'.hub frames) :
    ∃ more, r.Adds r' more := by
  refine ⟨[], by rw [hdispatched, List.append_nil], fun {h frames fs} hfs hr => ?_⟩
  rw [List.map_eq_nil_iff.mp hfs.symm, List.append_nil]
  exact hreceives hr

theorem adds_event (r : Workload) {e : Event} (he : ∀ hub, e ≠ .meanwhile hub) :
    ∃ more, r.Adds (r.event e) more := by
  cases e with
  | push w => exact adds_nil (r.steady_push w).dispatched (r.steady_push w).receives
  | interrupt place =>
    exact adds_nil (r.steady_interrupt place).dispatched (r.steady_interrupt place).receives
  | work =>
    rw [event, work]
    split
    · next w rest hworker hitems =>
      refine ⟨[w], rfl, fun {h frames fs} hfs hr => ?_⟩
      have hnext : r.hub.dispatchNext
          = [w].foldl Hub.dispatch { r.hub with queue.items := rest } := by
        rw [Hub.dispatchNext, hitems]
        rfl
      have hbefore : h.Receives { r.hub with queue.items := rest } frames := hr.ofBuses rfl rfl
      dsimp only
      rw [hnext, hfs]
      exact receives_dispatch hbefore fs
    · exact adds_nil rfl id
  | turn =>
    rw [event, turn]
    split
    · refine ⟨r.hub.queue.items, rfl, fun {h frames fs} hfs hr => ?_⟩
      have hbefore : h.Receives { r.hub with queue.items := [] } frames := hr.ofBuses rfl rfl
      dsimp only
      rw [Hub.dispatchAll, hfs]
      exact receives_dispatch hbefore fs
    · exact adds_nil rfl id
  | start =>
    refine adds_nil rfl fun hr => ?_
    rw [event, Hub.startWorker]
    dsimp only
    split
    · exact hr.ofBuses rfl (Hub.hands_say _ rfl).recorder
    · exact hr.ofBuses rfl (Hub.hands_say _ rfl).recorder
  | shutdown => exact adds_nil rfl id
  | ended =>
    rw [event]
    split
    · exact adds_nil rfl fun hr => hr.ofBuses rfl rfl
    · exact adds_nil rfl id
  | aside listeners clock => exact adds_nil rfl fun hr => hr.ofBuses rfl rfl
  | meanwhile hub => exact absurd rfl (he hub)

theorem events_concat (r : Workload) (es : List Event) (e : Event) :
    r.events (es ++ [e]) = (r.events es).event e := by
  rw [events, List.foldl_append]
  rfl

theorem receives_events {es : List Event} (hes : ∀ hub, .meanwhile hub ∉ es)
    (hframes : (events { hub := h } es).dispatched = frames.map .frame) :
    Hub.Receives h (events { hub := h } es).hub frames := by
  induction es using List.reverseRecOn generalizing frames with
  | nil =>
    obtain rfl : frames = [] := List.map_eq_nil_iff.mp hframes.symm
    exact .refl h
  | append_singleton es e ih =>
    have hes' : ∀ hub, .meanwhile hub ∉ es := fun hub hmem =>
      hes hub (List.mem_append_left _ hmem)
    have he : ∀ hub, e ≠ .meanwhile hub := fun hub hmem =>
      hes hub (List.mem_append_right _ (hmem ▸ List.mem_singleton_self _))
    rw [events_concat] at hframes ⊢
    obtain ⟨more, hdispatched, hreceives⟩ := adds_event (events { hub := h } es) he
    obtain ⟨before, fs, rfl, hbefore, hfs⟩ :=
      List.map_eq_append_iff.mp (hframes.symm.trans hdispatched)
    exact hreceives hfs.symm (ih hes' hbefore.symm)

end Frames

theorem recalls_events {h : Hub Hardware} (hqueue : h.queue = {}) (es : List Event) :
    (events { hub := h } es).Recalls es := by
  induction es using List.reverseRecOn with
  | nil => constructor <;> simp [events, hqueue]
  | append_singleton es e ih =>
    rw [events_concat]
    exact ih.event ((Sound.initial hqueue).events es) e

/-- From a fresh queue on, and whatever happens: at most twenty items wait; what was accepted has been
dispatched in its order, or the end of the worker discarded it, or it waits; what was refused has been
counted; and work is refused exactly if twenty items wait, or the worker was started, was shut down and
has ended.  Another start changes nothing.  If only frames were dispatched and nothing else happened to
the buses and the logger, each bus that has its name to itself has counted those of its frames, and the
active logger was handed all of them in their order. -/
theorem accounted_events (h : Hub Hardware) (hqueue : h.queue = {}) (es : List Event) :
    let r := ({ hub := h } : Workload).events es
    let ended := [.start, .shutdown, .ended] <+ es
    r.hub.queue.items.length ≤ 20 ∧
    r.accepted = r.dispatched ++ r.discarded ++ r.hub.queue.items ∧
    (¬ ended → r.discarded = []) ∧ (ended → r.hub.queue.items = []) ∧
    r.hub.queue.dropped = UInt32.ofNat r.refused.length ∧
    (∀ w, (r.hub.push w).1 = false ↔ r.hub.queue.items.length = 20 ∨ ended) ∧
    (.start ∈ es → r.event .start = { r with hub := r.hub.say .workerAlreadyStarted }) ∧
    ∀ frames : List Frame, r.dispatched = frames.map .frame → (∀ hub, .meanwhile hub ∉ es) →
      (∀ i b, h.Sole i b → ∃ b', r.hub.buses[i]? = some b' ∧
        b'.statistics.counters.received
          = b.statistics.counters.received
            + UInt32.ofNat (frames.countP (·.origin = some b.name))) ∧
      ∃ messages : List Message,
        messages.map (fun m => (m.origin, m.entry))
          = frames.map (fun f => (f.origin, .frame .received f)) ∧
        r.hub.recorder = messages.foldl Recorder.hand h.recorder := by
  intro r ended
  have hsound : r.Sound := (Sound.initial hqueue).events es
  have hrecalls : r.Recalls es := recalls_events hqueue es
  refine ⟨hsound.length_le, hsound.accounted, fun hnot => hsound.kept (mt hrecalls.ended.mp hnot),
    fun hended => hsound.ended (hrecalls.ended.mpr hended), hsound.dropped, fun w => ?_,
    fun hstart => ?_, fun frames hframes hes => ?_⟩
  · have hanswer : (r.hub.push w).1 = (r.hub.queue.push w).1 := rfl
    have hlength : r.hub.queue.items.length ≤ 20 := hsound.length_le
    have hended : r.hub.queue.worker = .ended ↔ ended := hrecalls.ended
    rw [hanswer, ← hended]
    rcases r.hub.queue.push_cases w with ⟨hpush, hopen, hroom⟩ | ⟨hpush, hclosed⟩
    · have hless : r.hub.queue.items.length < 20 := hroom
      rw [hpush]
      simp [hopen, Nat.ne_of_lt hless]
    · rw [hpush]
      refine iff_of_true rfl (hclosed.symm.imp_left fun hfull => ?_)
      exact Nat.le_antisymm hlength hfull
  · have hstarted : r.hub.queue.worker ≠ .idle := fun hidle => hrecalls.idle.mp hidle hstart
    rw [event, Hub.startWorker]
    split
    · next hidle => exact absurd hidle hstarted
    · rfl
  · have hreceives := receives_events hes hframes
    exact ⟨fun i b => hreceives.received, hreceives.recorder⟩

/-- Two of three frames are dispatched, one by one, before the worker ends; the one pushed after that is
refused.  The second start comes before the end. -/
theorem accounted_events_of_shutdown :
    let f (id : UInt32) (h : id ≤ 0x7ff) : Frame :=
      ⟨some (.numbered 1), id, .standard, [7], h, by decide⟩
    let f₁ := f 1 (by decide)
    let f₂ := f 2 (by decide)
    let f₃ := f 3 (by decide)
    let f₄ := f 4 (by decide)
    let h : Hub Hardware :=
      { buses :=
          [{ name := .numbered 1, device := .onChip {} },
            { name := .numbered 2, device := .mcp2515 {} }]
        logger := some { kind := .memory false, isOpen := true } }
    let es : List Event :=
      [.push (.frame f₁), .start, .push (.frame f₂), .work, .start, .work, .shutdown,
        .push (.frame f₃), .ended, .push (.frame f₄)]
    let r := ({ hub := h } : Workload).events es
    r.accepted = [.frame f₁, .frame f₂] ++ [.frame f₃] ++ r.hub.queue.items ∧
    r.hub.queue.dropped = UInt32.ofNat [Work.frame f₄].length ∧
    (∃ b, r.hub.buses[0]? = some b ∧ b.statistics.counters.received = 2) ∧
    r.hub.outlet.memory.map Message.entry = [.frame .received f₁, .frame .received f₂] := by
  intro f f₁ f₂ f₃ f₄ h es
  obtain ⟨-, haccepted, -, -, hdropped, -, -, hframes⟩ := accounted_events h rfl es
  have hdispatched : (events { hub := h } es).dispatched = [f₁, f₂].map .frame := by decide +kernel
  have hdiscarded : (events { hub := h } es).discarded = [.frame f₃] := by decide +kernel
  have hrefused : (events { hub := h } es).refused = [.frame f₄] := by decide +kernel
  have hsole : h.Sole 0 { name := .numbered 1, device := .onChip {} } :=
    Hub.sole_of_nodup (by decide +kernel) rfl
  obtain ⟨b, hb, hreceived⟩ := (hframes [f₁, f₂] hdispatched (by simp [es])).1 0 _ hsole
  rw [hdispatched, hdiscarded] at haccepted
  rw [hrefused] at hdropped
  exact ⟨haccepted, hdropped, ⟨b, hb, hreceived.trans (by decide +kernel)⟩, by decide +kernel⟩

end Workload
end Fieldbus
