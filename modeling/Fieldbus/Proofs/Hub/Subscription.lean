import Fieldbus.Proofs.Hub.Listeners
import Fieldbus.Proofs.Hub.Log

/-! The fan-out of received frames.  What becomes of a channel depends on its own registrations, on its
own frames and on the frames that come in, and on no other channel nor on the order of the
registrations (`Subscription.after`).  Each frame that comes in is one entry of the log and one more
frame of the bus that it names, whatever becomes of the listeners (`Hub.heard_events`). -/

namespace Fieldbus

/-- What may happen to the listeners of a hub. -/
inductive Listeners.Event where
  | listen (key : String) (capacity : Nat)
  | deregister (key : String)
  | incoming (f : Frame)
  /-- So many frames are read from a channel, or all that wait there. -/
  | take (key : String) (limit : Option Nat)
  /-- Nobody can put frames into the channel any more; what waits in it may still be read. -/
  | close (key : String)
  /-- Nobody reads the channel any more. -/
  | hangUp (key : String)

def Listeners.Event.frame? : Listeners.Event → Option Frame
  | .incoming f => some f
  | _ => none

/-! ### One channel by itself -/

/-- What the listeners have for one key: how often it is registered, and its channel. -/
structure Subscription where
  count : Nat := 0
  channel : Option Channel := none
deriving DecidableEq

namespace Subscription

/-- A frame comes in.  The registrations of a channel that nobody reads are removed. -/
def deliver (s : Subscription) (f : Frame) : Subscription :=
  { count := if s.channel.any Channel.isOpen then s.count else 0
    channel := s.channel.map (·.receive s.count f) }

/-- The subscription of a key after an event.  What happens to another key does not matter. -/
def after (key : String) (s : Subscription) : Listeners.Event → Subscription
  | .listen k capacity =>
    if k = key then { count := s.count + 1, channel := s.channel.or (some { capacity }) } else s
  | .deregister k => if k = key then { s with count := s.count - 1 } else s
  | .incoming f => s.deliver f
  | .take k limit =>
    if k = key then
      { s with channel := s.channel.map fun c =>
          { c with frames := c.frames.drop (limit.getD c.frames.length) } }
    else s
  | .close k =>
    if k = key then { s with channel := s.channel.map fun c => { c with isOpen := false } } else s
  | .hangUp k =>
    if k = key then
      { s with channel := s.channel.map fun c => { c with frames := [], isOpen := false } }
    else s

end Subscription

namespace Listeners

def subscription (l : Listeners) (key : String) : Subscription :=
  { count := l.registered.count key, channel := l.channel? key }

theorem channel?_make (l : Listeners) (key key' : String) (capacity : Nat) :
    (l.make key' capacity).channel? key
      = if key' = key then (l.channel? key).or (some { capacity }) else l.channel? key := by
  cases hc : l.channel? key' with
  | some c =>
    have hmake : l.make key' capacity = l := by rw [make, hc]
    rw [hmake]
    by_cases heq : key' = key
    · rw [if_pos heq, ← heq, hc, Option.some_or]
    · rw [if_neg heq]
  | none =>
    have hmake : (l.make key' capacity).channel? key
        = (l.channel? key).or (List.lookup key [(key', { capacity })]) := by
      rw [make, hc]
      exact List.lookup_append
    rw [hmake]
    by_cases heq : key' = key
    · rw [if_pos heq, heq, List.lookup_cons_self]
    · rw [if_neg heq, List.lookup_cons, beq_eq_false_iff_ne.mpr (Ne.symm heq)]
      exact Option.or_none

theorem subscription_listen (l : Listeners) (key key' : String) (capacity : Nat) :
    (l.listen key' capacity).subscription key
      = (l.subscription key).after key (.listen key' capacity) := by
  have hregistered : (l.listen key' capacity).registered = l.registered ++ [key'] := by
    rw [listen, register, make]
    split <;> rfl
  show Subscription.mk _ ((l.make key' capacity).channel? key) = _
  rw [hregistered, channel?_make, List.count_append, Subscription.after]
  by_cases heq : key' = key
  · rw [if_pos heq, if_pos heq, heq, List.count_singleton_self]
    rfl
  · rw [if_neg heq, if_neg heq, List.count_cons_of_ne heq]
    rfl

theorem subscription_deregister (l : Listeners) (key key' : String) :
    (l.deregister key').2.subscription key = (l.subscription key).after key (.deregister key') := by
  show Subscription.mk ((l.registered.erase key').count key) (l.channel? key) = _
  rw [Subscription.after]
  by_cases heq : key' = key
  · rw [if_pos heq, heq, List.count_erase_self]
    rfl
  · rw [if_neg heq, List.count_erase_of_ne (Ne.symm heq)]
    rfl

theorem subscription_deliver (l : Listeners) (key : String) (f : Frame) :
    (l.deliver f).1.subscription key = (l.subscription key).deliver f := by
  rw [subscription, channel?_deliver, registered_deliver, Subscription.deliver]
  refine congrArg (Subscription.mk · _) ?_
  show _ = if l.reaches key then l.registered.count key else 0
  split
  · next hreaches => exact List.count_filter hreaches
  · next hgone =>
    exact List.count_eq_zero.mpr fun hmem => hgone (List.mem_filter.mp hmem).2

/-- A change to the channels of one key. -/
theorem subscription_adjust (l : Listeners) (key key' : String) (change : Channel → Channel) :
    (l.adjust key' change).subscription key
      = if key' = key then
          { l.subscription key with channel := (l.subscription key).channel.map change }
        else l.subscription key := by
  show Subscription.mk (l.registered.count key) _ = _
  rw [channel?_adjust]
  by_cases heq : key' = key
  · simp only [heq, if_true]
    rfl
  · simp only [if_neg heq, if_neg (Ne.symm heq), Option.map_id']
    rfl

theorem subscription_take (l : Listeners) (key key' : String) (limit : Option Nat) :
    (l.take key' limit).2.subscription key = (l.subscription key).after key (.take key' limit) := by
  refine (l.subscription_adjust key key' _).trans ?_
  rw [Subscription.after]
  by_cases heq : key' = key
  · rw [if_pos heq, if_pos heq, heq]
    refine congrArg (Subscription.mk _) (Option.map_congr fun c hc => ?_)
    have hfrom : l.channel? key = some c := hc
    rw [hfrom]
    rfl
  · rw [if_neg heq, if_neg heq]

end Listeners

/-! ### Runs -/

namespace Hub

variable {δ : Type}

def hear (h : Hub δ) : Listeners.Event → Hub δ
  | .listen key capacity => (h.onListeners fun l => ((), l.listen key capacity)).2
  | .deregister key => (h.onListeners (·.deregister key)).2
  | .incoming f => h.incoming f
  | .take key limit => (h.onListeners (·.take key limit)).2
  | .close key => (h.onListeners fun l => ((), l.adjust key fun c => { c with isOpen := false })).2
  | .hangUp key => (h.onListeners (·.hangUp key)).2

def hearAll (h : Hub δ) (events : List Listeners.Event) : Hub δ := events.foldl hear h

theorem subscription_hear (h : Hub δ) (key : String) (e : Listeners.Event) :
    (h.hear e).listeners.subscription key = (h.listeners.subscription key).after key e := by
  cases e with
  | listen key' capacity => exact h.listeners.subscription_listen key key' capacity
  | deregister key' => exact h.listeners.subscription_deregister key key'
  | incoming f =>
    show (h.incoming f).listeners.subscription key = _
    rw [(h.onlyRecords_incoming f).listeners]
    exact h.listeners.subscription_deliver key f
  | take key' limit => exact h.listeners.subscription_take key key' limit
  | close key' => exact h.listeners.subscription_adjust key key' _
  | hangUp key' => exact h.listeners.subscription_adjust key key' _

theorem subscription_hearAll (h : Hub δ) (key : String) (events : List Listeners.Event) :
    (h.hearAll events).listeners.subscription key
      = events.foldl (Subscription.after key) (h.listeners.subscription key) := by
  induction events generalizing h with
  | nil => rfl
  | cons e events ih => exact (ih (h.hear e)).trans (by rw [subscription_hear]; rfl)

/-- A frame that comes in is counted by the first bus of its name, and by no other. -/
theorem getElem?_buses_incoming (h : Hub δ) (f : Frame) (i : Nat) :
    (h.incoming f).buses[i]? = (h.buses[i]?).map fun b =>
      if f.origin = some b.name ∧ b.name ∉ h.names.take i then
        { b with statistics.counters.received := b.statistics.counters.received + 1 }
      else b := by
  have hfound : (h.incoming f).buses[i]? = (h.buses[i]?).map fun b =>
      if h.busOf? f = some i then { b with statistics := b.statistics.countReceived } else b := by
    rw [(h.onlyRecords_incoming f).buses]
    show (h.counted f).buses[i]? = _
    rw [counted]
    cases hi : h.busOf? f with
    | none => simp
    | some j =>
      obtain ⟨b, hb, -⟩ := busOf?_eq_some hi
      dsimp only
      rw [countReceived, alter_eq hb, (h.onlyRecords_settle j _).buses, List.getElem?_set]
      split
      · next heq =>
        subst heq
        rw [if_pos (List.getElem?_eq_some_iff.mp hb).1, hb, Option.map_some, if_pos rfl]
      · next hne => simp [hne]
  rw [hfound]
  refine Option.map_congr fun b hb => ?_
  simp only [busOf?_eq_some_iff hb]
  rfl

theorem names_hear (h : Hub δ) (e : Listeners.Event) : (h.hear e).names = h.names := by
  cases e with
  | incoming f => exact h.names_incoming f
  | _ => rfl

/-- The first bus of each name counts the frames that are named after it. -/
theorem getElem?_buses_hearAll (h : Hub δ) (events : List Listeners.Event) (i : Nat) :
    (h.hearAll events).buses[i]? = (h.buses[i]?).map fun b =>
      if b.name ∈ h.names.take i then b
      else { b with
        statistics.counters.received := b.statistics.counters.received + UInt32.ofNat
          ((events.filterMap Listeners.Event.frame?).countP (·.origin = some b.name)) } := by
  induction events generalizing h with
  | nil =>
    show h.buses[i]? = _
    simp only [List.filterMap_nil, List.countP_nil, show UInt32.ofNat 0 = 0 from rfl,
      UInt32.add_zero, ite_self, Option.map_id']
  | cons e events ih =>
    show ((h.hear e).hearAll events).buses[i]? = _
    rw [ih, names_hear]
    cases e with
    | incoming f =>
      show ((h.incoming f).buses[i]?).map _ = _
      rw [getElem?_buses_incoming, Option.map_map]
      refine Option.map_congr fun b _ => ?_
      by_cases hfirst : b.name ∈ h.names.take i
      · simp [hfirst]
      by_cases horigin : f.origin = some b.name
      · simp [hfirst, horigin, Listeners.Event.frame?, UInt32.ofNat_add, UInt32.add_assoc,
          UInt32.add_comm 1]
      · simp [hfirst, horigin, Listeners.Event.frame?]
    | _ => rfl

/-- The active logger is handed each frame that comes in, and nothing else. -/
theorem hands_hearAll (h : Hub δ) (events : List Listeners.Event) :
    Hands h (h.hearAll events) ((events.filterMap Listeners.Event.frame?).map fun f =>
      ⟨f.origin, h.clock, .frame .received f⟩) := by
  induction events generalizing h with
  | nil => exact .refl h
  | cons e events ih =>
    cases e with
    | incoming f =>
      have hincoming := h.hands_incoming f
      have hrest := ih (h.incoming f)
      rw [hincoming.clock] at hrest
      exact hincoming.trans hrest
    | _ => exact ⟨(ih _).recorder, (ih _).clock⟩

/-- What a frame that comes in makes of a hub: every channel that is open gets as many copies as it
has registrations and room for, and the registrations of all other channels are removed; one message is
handed to the active logger, and one bus counts the frame. -/
structure Heard (f : Frame) (h h' : Hub δ) : Prop where
  channels : ∀ key, h'.listeners.channel? key = (h.listeners.channel? key).map fun c =>
    let copies := min (h.listeners.registered.count key) (c.capacity - c.frames.length)
    if c.isOpen then { c with frames := c.frames ++ List.replicate copies f } else c
  registered : h'.listeners.registered = h.listeners.registered.filter fun key =>
    (h.listeners.channel? key).any Channel.isOpen
  handed : h'.recorder = h.recorder.hand ⟨f.origin, h.clock, .frame .received f⟩
  logged : h.Records → h'.log = h.log ++ [⟨f.origin, h.clock, .frame .received f⟩]
  counted : h'.buses = h.buses.mapIdx fun i b =>
    if f.origin = some b.name ∧ b.name ∉ h.names.take i then
      { b with statistics.counters.received := b.statistics.counters.received + 1 }
    else b

theorem heard_incoming (h : Hub δ) (f : Frame) : Heard f h (h.incoming f) where
  channels key := by
    rw [(h.onlyRecords_incoming f).listeners]
    exact h.listeners.channel?_deliver f key
  registered := by
    rw [(h.onlyRecords_incoming f).listeners]
    exact h.listeners.registered_deliver f
  handed := (h.hands_incoming f).recorder
  logged hrecords := ((h.hands_incoming f).logs hrecords).log
  counted := List.ext_getElem? fun i => by
    rw [List.getElem?_mapIdx]
    exact h.getElem?_buses_incoming f i

/-- After any course of registrations, frames, reads and closings, each listener has what its own
events made of it, the first bus of each name has counted the frames that are named after it, and no
other bus has changed; the active logger was handed each frame that came in, as a received frame and in
their order, and nothing else.  This holds of the next frame too, wherever it finds the listeners.  A
deregistration removes one registration of its channel, if there is one. -/
theorem heard_events (h : Hub δ) (events : List Listeners.Event) :
    let r := h.hearAll events
    let frames := events.filterMap Listeners.Event.frame?
    let messages : List Message := frames.map fun f => ⟨f.origin, h.clock, .frame .received f⟩
    (∀ key, r.listeners.subscription key
      = events.foldl (Subscription.after key) (h.listeners.subscription key)) ∧
    r.recorder = messages.foldl Recorder.hand h.recorder ∧
    (h.Records → r.log = h.log ++ messages) ∧
    r.buses = h.buses.mapIdx (fun i b =>
      if b.name ∈ h.names.take i then b
      else { b with
        statistics.counters.received := b.statistics.counters.received
          + UInt32.ofNat (frames.countP (·.origin = some b.name)) }) ∧
    (∀ f, Heard f r (r.incoming f)) ∧
    ∀ key,
      (r.listeners.deregister key).1 = decide (key ∈ r.listeners.registered) ∧
      (r.hear (.deregister key)).listeners = (r.listeners.deregister key).2 ∧
      (∀ key', (r.listeners.deregister key).2.registered.count key'
        = r.listeners.registered.count key' - if key' = key then 1 else 0) ∧
      (r.listeners.deregister key).2.registered.Sublist r.listeners.registered ∧
      (r.listeners.deregister key).2.channels = r.listeners.channels := by
  intro r frames messages
  have hhands : Hands h r messages := h.hands_hearAll events
  refine ⟨fun key => h.subscription_hearAll key events, hhands.recorder,
    fun hrecords => (hhands.logs hrecords).log, List.ext_getElem? fun i => ?_, r.heard_incoming,
    fun key => ⟨?_, rfl, fun key' => ?_, List.erase_sublist, rfl⟩⟩
  · rw [List.getElem?_mapIdx]
    exact h.getElem?_buses_hearAll events i
  · exact List.contains_eq_mem key r.listeners.registered
  · show (r.listeners.registered.erase key).count key' = _
    by_cases heq : key' = key
    · rw [if_pos heq, heq, List.count_erase_self]
    · rw [if_neg heq, List.count_erase_of_ne heq, Nat.sub_zero]

/-- A channel that is registered twice and has room for three frames, and one that nobody reads any
more.  The second frame names no bus, and it comes twice to a channel that can take it once. -/
theorem heard_events_of_full :
    let f : Frame := ⟨some (.numbered 1), 0x12, .standard, [7], by decide, by decide⟩
    let g : Frame := ⟨some (.numbered 3), 0x34, .standard, [], by decide, by decide⟩
    let h : Hub Hardware :=
      { buses :=
          [{ name := .numbered 1, device := .onChip {} },
            { name := .numbered 2, device := .mcp2515 {} }]
        logger := some { kind := .memory false, isOpen := true } }
    let r := h.hearAll [.listen "a" 3, .listen "b" 8, .listen "a" 3, .hangUp "b", .incoming f]
    (r.incoming g).listeners.channel? "a" = some { capacity := 3, frames := [f, f, g] } ∧
    r.listeners.registered = ["a", "a"] ∧
    (r.incoming g).log = [⟨some (.numbered 1), {}, .frame .received f⟩,
      ⟨some (.numbered 3), {}, .frame .received g⟩] ∧
    (r.incoming g).buses.map (·.statistics.counters.received) = [1, 0] := by
  intro f g h r
  have hrecords : h.Records := ⟨_, rfl, rfl, rfl, rfl, rfl⟩
  obtain ⟨-, -, hlog, hbuses, hheard, -⟩ := heard_events h
    [.listen "a" 3, .listen "b" 8, .listen "a" 3, .hangUp "b", .incoming f]
  have hrecords' : r.Records := ((h.hands_hearAll _).logs hrecords).records
  have hcounted : (r.incoming g).buses = _ := (hheard g).counted
  refine ⟨((hheard g).channels "a").trans (by decide +kernel), by decide +kernel, ?_, ?_⟩
  · refine ((hheard g).logged hrecords').trans ?_
    rw [hlog hrecords]
    decide +kernel
  · rw [hcounted, hbuses]
    decide +kernel

end Hub
end Fieldbus
