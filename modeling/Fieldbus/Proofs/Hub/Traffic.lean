import Fieldbus.Proofs.Hub.Log
import Fieldbus.Proofs.Hub.Wakeup

/-! What a hub records about the traffic of one bus while none of its frames goes out: frames that come
in, each of which is recorded and counted (`Hub.quiet_incoming`).  Whatever else happens, to this bus or
to others, records nothing about its traffic (`Hub.quiet_settle`, `Hub.quiet_settle_of_ne`). -/

namespace Fieldbus

/-- The message records a frame of the bus on its way in this direction. -/
def Message.tells (name : BusName) (direction : Direction) (m : Message) : Bool :=
  m.origin = some name &&
    match m.entry with
    | .frame d _ => d = direction
    | _ => false

theorem Message.tells_of_origin_ne {name : BusName} {m : Message} (h : m.origin ≠ some name)
    (direction : Direction) : m.tells name direction = false := by
  rw [tells, decide_eq_false h, Bool.false_and]

theorem Message.tells_of_no_frame {m : Message} (h : m.entry.frame? = none) (name : BusName)
    (direction : Direction) : m.tells name direction = false := by
  rw [tells]
  cases hentry : m.entry with
  | frame d f =>
    rw [hentry] at h
    cases h
  | _ => exact Bool.and_false _

/-- The number of entries about frames of the bus that went in this direction. -/
def entries (log : List Message) (name : BusName) (direction : Direction) : Nat :=
  log.countP (Message.tells name direction)

theorem entries_append (log log' : List Message) (name : BusName) (direction : Direction) :
    entries (log ++ log') name direction =
      entries log name direction + entries log' name direction :=
  List.countP_append

theorem entries_eq_zero {log : List Message} {name : BusName} {direction : Direction}
    (h : ∀ m ∈ log, m.tells name direction = false) : entries log name direction = 0 :=
  List.countP_eq_zero.mpr fun m hm => by simp [h m hm]

namespace Effect

/-- The effect records no frame. -/
def Untold : Effect → Prop
  | .notice n => n.message? = none
  | .entry _ e => e.frame? = none

theorem Untold.plain {e : Effect} (h : e.Untold) : e.Plain := by
  cases e with
  | notice n => exact h
  | entry origin e => exact trivial

theorem frame?_of_untold {effects : List Effect} (h : ∀ e ∈ effects, e.Untold) (time : Timestamp) :
    ∀ m ∈ effects.filterMap (message? time), m.entry.frame? = none := by
  intro m hm
  obtain ⟨e, he, hmessage⟩ := List.mem_filterMap.mp hm
  have huntold := h e he
  cases e with
  | notice n => cases hmessage
  | entry origin e =>
    rw [← Option.some.inj hmessage]
    exact huntold

end Effect

namespace Bus

variable {δ : Type}

/-- A step of a bus that records none of its frames, and defers none of another bus. -/
structure Mute (before after : Bus δ) (effects : List Effect) : Prop where
  name : after.name = before.name
  owned : before.deferred.Of before.name → after.deferred.Of before.name
  untold : ∀ e ∈ effects, e.Untold

theorem Mute.ofDeferred {before after : Bus δ} {effects : List Effect}
    (hname : after.name = before.name) (hdeferred : after.deferred = before.deferred)
    (huntold : ∀ e ∈ effects, e.Untold) : Mute before after effects :=
  ⟨hname, fun howned => hdeferred ▸ howned, huntold⟩

theorem Mute.refl (b : Bus δ) : Mute b b [] :=
  .ofDeferred rfl rfl fun _ he => absurd he List.not_mem_nil

/-- A step of a bus that changes nothing about its traffic. -/
structure Silent (before after : Bus δ) (effects : List Effect) : Prop
    extends Mute before after effects where
  frames : after.deferred.frames = before.deferred.frames
  counts : after.statistics.counters.traffic = before.statistics.counters.traffic

theorem Silent.ofStatistics (b : Bus δ) {device : δ} {statistics : Statistics}
    (h : statistics.counters.traffic = b.statistics.counters.traffic) :
    Silent b { b with device, statistics } [] :=
  ⟨.ofDeferred rfl rfl (Mute.refl b).untold, rfl, h⟩

/-- The bus after a frame has come in. -/
def counting (b : Bus δ) (f : Frame) : Bus δ :=
  if f.origin = some b.name then { b with statistics := b.statistics.countReceived } else b

theorem silent_reportStatus (b : Bus δ) (kind : StatusKind) :
    Silent b (b.reportStatus kind).1 (b.reportStatus kind).2 := by
  have hstatus : ∀ (kind : StatusKind) (counters : Counters),
      ∀ e ∈ [Effect.entry (some b.name) (.status kind counters)], e.Untold := by
    intro kind counters e he
    rw [List.mem_singleton.mp he]
    rfl
  cases kind with
  | statistics => exact ⟨.ofDeferred rfl rfl (hstatus _ _), rfl, rfl⟩
  | error =>
    show Silent b { b with statistics := b.statistics.reportChanged.2 }
      (if b.statistics.reportChanged.1 then _ else [])
    split
    · exact ⟨.ofDeferred rfl rfl (hstatus _ _), rfl, rfl⟩
    · exact .ofStatistics b rfl

theorem silent_poll (b : Bus Hardware) : Silent b b.poll.bus b.poll.effects := by
  obtain ⟨htraffic, hnotices⟩ := Hardware.traffic_poll b.name b.statistics b.device
  refine ⟨.ofDeferred rfl rfl fun e he => ?_, rfl, htraffic⟩
  obtain ⟨n, hn, rfl⟩ := List.mem_map.mp he
  exact hnotices n hn

section Power

variable [Device δ]

theorem mute_start (b : Bus δ) (setup : Setup) :
    Mute b (b.start setup).bus (b.start setup).effects := by
  rw [start]
  rcases Device.start setup b.device with ⟨_ | ⟨⟩, device⟩
  · exact .ofDeferred rfl rfl (Mute.refl b).untold
  · exact .ofDeferred rfl rfl (List.forall_mem_cons.mpr ⟨rfl, List.forall_mem_singleton.mpr rfl⟩)

theorem mute_halt (b : Bus δ) (power : Power) :
    Mute b (b.halt power).bus (b.halt power).effects := by
  rw [halt]
  rcases Device.stop b.device with ⟨_ | ⟨⟩, device⟩
  · exact .ofDeferred rfl rfl (Mute.refl b).untold
  · refine ⟨rfl, Deferred.Of.clear, ?_⟩
    dsimp only
    split
    · exact List.forall_mem_cons.mpr ⟨rfl, List.forall_mem_singleton.mpr rfl⟩
    · exact List.forall_mem_cons.mpr
        ⟨rfl, List.forall_mem_cons.mpr ⟨rfl, List.forall_mem_singleton.mpr rfl⟩⟩

theorem mute_setPower (b : Bus δ) (power : Power) :
    Mute b (b.setPower power).bus (b.setPower power).effects := by
  rcases b.setPower_cases power with ⟨setup, -, -, heq⟩ | ⟨-, heq⟩ | ⟨-, heq⟩
  · rw [heq]
    exact b.mute_start setup
  · rw [heq]
    exact .refl b
  · rw [heq]
    exact b.mute_halt power

end Power

end Bus

namespace Hub

variable {δ : Type} {h h' h'' : Hub δ} {i j : Nat} {b b' : Bus δ} {effects : List Effect}

/-- The buses have different names, what is deferred is their own, and all entries are recorded. -/
structure Regular (h : Hub δ) : Prop where
  records : h.Records
  names : h.names.Nodup
  owned : ∀ b ∈ h.buses, b.deferred.Of b.name

/-- From one state to the next, no frame of the bus at a place went out, was deferred or given up, and
those that came in were recorded and counted. -/
structure Quiet (i : Nat) (h h' : Hub δ) : Prop where
  regular : h'.Regular
  change : ∃ messages b b', h'.log = h.log ++ messages ∧ h.buses[i]? = some b ∧
    h'.buses[i]? = some b' ∧ b'.name = b.name ∧ b'.deferred.frames = b.deferred.frames ∧
    (∀ direction, b'.statistics.counters.traffic direction
      = b.statistics.counters.traffic direction
        + UInt32.ofNat (entries messages b.name direction)) ∧
    ∀ direction, direction ≠ .received → entries messages b.name direction = 0

theorem Quiet.trans (h₁ : Quiet i h h') (h₂ : Quiet i h' h'') : Quiet i h h'' := by
  refine ⟨h₂.regular, ?_⟩
  obtain ⟨ms, b, b', hlog, hb, hb', hname, hframes, hcounts, hquiet⟩ := h₁.change
  obtain ⟨ms', b₁, b'', hlog', hb₁, hb'', hname', hframes', hcounts', hquiet'⟩ := h₂.change
  obtain rfl : b₁ = b' := Option.some.inj (hb₁.symm.trans hb')
  refine ⟨ms ++ ms', b, b'', by rw [hlog', hlog, List.append_assoc], hb, hb'', hname'.trans hname,
    hframes'.trans hframes, fun direction => ?_, fun direction hdirection => ?_⟩
  · rw [hcounts', hcounts, entries_append, UInt32.ofNat_add, UInt32.add_assoc, hname]
  · rw [entries_append, hquiet direction hdirection, ← hname, hquiet' direction hdirection]

/-- Nothing happens to the bus, and no frame of it is recorded. -/
theorem Quiet.ofUntold (hregular : h'.Regular) {messages : List Message}
    (hlog : h'.log = h.log ++ messages) (hb : h.buses[i]? = some b) (hb' : h'.buses[i]? = some b')
    (hname : b'.name = b.name) (hframes : b'.deferred.frames = b.deferred.frames)
    (hcounts : b'.statistics.counters.traffic = b.statistics.counters.traffic)
    (huntold : ∀ m ∈ messages, ∀ direction, m.tells b.name direction = false) : Quiet i h h' := by
  have hzero : ∀ direction, entries messages b.name direction = 0 :=
    fun direction => entries_eq_zero fun m hm => huntold m hm direction
  refine ⟨hregular, messages, b, b', hlog, hb, hb', hname, hframes, fun direction => ?_,
    fun direction _ => hzero direction⟩
  rw [hcounts, hzero]
  exact (UInt32.add_zero _).symm

theorem Quiet.refl (hregular : h.Regular) (hb : h.buses[i]? = some b) : Quiet i h h :=
  .ofUntold hregular (List.append_nil _).symm hb hb rfl rfl rfl fun _ hm =>
    absurd hm List.not_mem_nil

/-- The buses stay as they are, and no frame is recorded. -/
theorem Quiet.ofBuses (hregular : h.Regular) (hb : h.buses[i]? = some b)
    (hbuses : h'.buses = h.buses)
    (hrecords : h'.Records) {messages : List Message} (hlog : h'.log = h.log ++ messages)
    (huntold : ∀ m ∈ messages, m.entry.frame? = none) : Quiet i h h' := by
  have hregular' : h'.Regular :=
    ⟨hrecords, by rw [Hub.names, hbuses]; exact hregular.names, hbuses ▸ hregular.owned⟩
  exact .ofUntold hregular' hlog hb (hbuses ▸ hb) rfl rfl rfl fun m hm direction =>
    Message.tells_of_no_frame (huntold m hm) _ _

theorem regular_settle (hregular : h.Regular) (hb : h.buses[j]? = some b) (hname : b'.name = b.name)
    (howned : b'.deferred.Of b.name) (hplain : ∀ e ∈ effects, e.Plain) :
    (h.settle j (b', effects)).Regular := by
  refine ⟨((h.hands_settle j b' hplain).logs hregular.records).records, ?_, ?_⟩
  · rw [names_settle hb hname]
    exact hregular.names
  · rw [(h.onlyRecords_settle j (b', effects)).buses]
    intro b₁ hb₁
    rcases List.mem_or_eq_of_mem_set hb₁ with hb₁ | rfl
    · exact hregular.owned b₁ hb₁
    · exact hname ▸ howned

theorem buses_settle_self (hb : h.buses[i]? = some b) :
    (h.settle i (b', effects)).buses[i]? = some b' := by
  rw [(h.onlyRecords_settle i (b', effects)).buses]
  exact List.getElem?_set_self (List.getElem?_eq_some_iff.mp hb).1

theorem buses_settle_of_ne (hj : j ≠ i) :
    (h.settle j (b', effects)).buses[i]? = h.buses[i]? := by
  rw [(h.onlyRecords_settle j (b', effects)).buses]
  exact List.getElem?_set_ne hj

/-- Whatever another bus does, it records nothing about this one. -/
theorem quiet_settle_of_ne (hregular : h.Regular) {bᵢ : Bus δ} (hi : h.buses[i]? = some bᵢ)
    (hb : h.buses[j]? = some b) (hj : j ≠ i) (hname : b'.name = b.name)
    (howned : b'.deferred.Of b.name) (hplain : ∀ e ∈ effects, e.Plain)
    (horigin : ∀ m ∈ effects.filterMap (Effect.message? h.clock),
      m.origin = some b.name ∨ m.entry.frame? = none) :
    Quiet i h (h.settle j (b', effects)) := by
  have hlogs := (h.hands_settle j b' hplain).logs hregular.records
  refine .ofUntold (regular_settle hregular hb hname howned hplain) hlogs.log hi
    ((buses_settle_of_ne hj).trans hi) rfl rfl rfl ?_
  intro m hm direction
  rcases horigin m hm with hother | hframe
  · refine Message.tells_of_origin_ne ?_ direction
    rw [hother]
    exact fun hsame => (sole_of_nodup hregular.names hi).others hb hj (Option.some.inj hsame)
  · exact Message.tells_of_no_frame hframe _ _

theorem quiet_settle (hregular : h.Regular) {bᵢ : Bus δ} (hi : h.buses[i]? = some bᵢ)
    (hb : h.buses[j]? = some b) (hsilent : b.Silent b' effects) :
    Quiet i h (h.settle j (b', effects)) := by
  have howned := hsilent.owned (hregular.owned b (List.mem_of_getElem? hb))
  have hplain : ∀ e ∈ effects, e.Plain := fun e he => (hsilent.untold e he).plain
  have hframe := Effect.frame?_of_untold hsilent.untold h.clock
  by_cases hj : j = i
  · subst hj
    have hlogs := (h.hands_settle j b' hplain).logs hregular.records
    exact .ofUntold (regular_settle hregular hb hsilent.name howned hplain) hlogs.log hb
      (buses_settle_self hb) hsilent.name hsilent.frames hsilent.counts
      fun m hm => Message.tells_of_no_frame (hframe m hm) _
  · exact quiet_settle_of_ne hregular hi hb hj hsilent.name howned hplain fun m hm =>
      .inr (hframe m hm)

theorem regular_counted (hregular : h.Regular) (f : Frame) : (h.counted f).Regular := by
  rw [counted]
  split
  · next k _ =>
    rw [countReceived, alter]
    split
    · next bₖ hbₖ =>
      exact regular_settle hregular hbₖ rfl (hregular.owned bₖ (List.mem_of_getElem? hbₖ))
        fun _ he => absurd he List.not_mem_nil
    · exact hregular
  · exact hregular

/-- A frame that comes in is recorded and counted, if it is one of the bus. -/
theorem quiet_incoming (hregular : h.Regular) (hb : h.buses[i]? = some b) (f : Frame) :
    Quiet i h (h.incoming f) := by
  have hbuses : (h.incoming f).buses = (h.counted f).buses := (h.onlyRecords_incoming f).buses
  have hbus : (h.incoming f).buses[i]? = some (b.counting f) :=
    (congrArg (·[i]?) hbuses).trans ((sole_of_nodup hregular.names hb).counted f)
  have hlogs := (h.hands_incoming f).logs hregular.records
  have hregular' : (h.incoming f).Regular :=
    ⟨hlogs.records, by rw [names_incoming]; exact hregular.names,
      hbuses ▸ (regular_counted hregular f).owned⟩
  have hentries : ∀ (time : Timestamp) (direction : Direction),
      entries [(⟨f.origin, time, .frame .received f⟩ : Message)] b.name direction
        = if f.origin = some b.name ∧ .received = direction then 1 else 0 := by
    intro time direction
    rw [entries, List.countP_singleton, Message.tells]
    simp only [Bool.and_eq_true, decide_eq_true_eq]
  refine ⟨hregular', _, b, b.counting f, hlogs.log, hb, hbus, ?_⟩
  rw [Bus.counting]
  by_cases horigin : f.origin = some b.name
  · rw [if_pos horigin]
    refine ⟨rfl, rfl, fun direction => ?_, fun direction hdirection => ?_⟩
    · rw [hentries, Statistics.traffic_countReceived]
      by_cases hdirection : Direction.received = direction <;> simp [horigin, hdirection]
    · rw [hentries, if_neg fun h => hdirection h.2.symm]
  · rw [if_neg horigin]
    have hzero : ∀ time direction,
        entries [(⟨f.origin, time, .frame .received f⟩ : Message)] b.name direction = 0 :=
      fun time direction => (hentries time direction).trans (if_neg fun h => horigin h.1)
    refine ⟨rfl, rfl, fun direction => ?_, fun direction _ => hzero _ direction⟩
    rw [hzero]
    exact (UInt32.add_zero _).symm

theorem Quiet.andThen (h₁ : Quiet i h h')
    (h₂ : ∀ b', h'.Regular → h'.buses[i]? = some b' → Quiet i h' h'') : Quiet i h h'' := by
  obtain ⟨_, _, b', _, _, hb', -⟩ := h₁.change
  exact h₁.trans (h₂ b' h₁.regular hb')

theorem quiet_alter (hregular : h.Regular) (hb : h.buses[i]? = some b) (j : Nat)
    {operation : Bus δ → Bus δ × List Effect}
    (hsilent : ∀ b : Bus δ, b.Silent (operation b).1 (operation b).2) :
    Quiet i h (h.alter j operation) := by
  rw [alter]
  split
  · next bⱼ hbⱼ => exact quiet_settle hregular hb hbⱼ (hsilent bⱼ)
  · exact .refl hregular hb

theorem quiet_reportErrors (hregular : h.Regular) (hb : h.buses[i]? = some b) (j : Nat) :
    Quiet i h (h.reportErrors j) := by
  refine quiet_alter hregular hb j fun b => ?_
  have hreported := Bus.silent_reportStatus
    { b with statistics := b.statistics.takeErrorPending.2 } .error
  exact ⟨⟨hreported.name, hreported.owned, hreported.untold⟩, hreported.frames, hreported.counts⟩

theorem quiet_reportNotedErrors (hregular : h.Regular) (hb : h.buses[i]? = some b) (j : Nat) :
    Quiet i h (h.reportNotedErrors j) := by
  refine quiet_alter hregular hb j fun b => ?_
  have hreported := Bus.silent_reportStatus
    { b with statistics := b.statistics.takeErrorPending.2 } .error
  dsimp only
  split
  · exact ⟨⟨hreported.name, hreported.owned, hreported.untold⟩, hreported.frames, hreported.counts⟩
  · exact .ofStatistics b rfl

section Devices

variable {h : Hub Hardware} {b : Bus Hardware}

theorem quiet_pollFrames (hregular : h.Regular) (hb : h.buses[i]? = some b) (j n : Nat) :
    Quiet i h (h.pollFrames j n) := by
  induction n generalizing h b with
  | zero => exact .refl hregular hb
  | succ n ih =>
    have hpolled : Quiet i h (h.onBus j Bus.poll).2 := by
      rw [onBus_snd]
      exact quiet_alter hregular hb j Bus.silent_poll
    rw [pollFrames]
    rcases honBus : h.onBus j Bus.poll with ⟨_ | _ | f, h'⟩
    all_goals rw [honBus] at hpolled
    · exact hpolled
    · exact hpolled
    · refine hpolled.andThen fun b' hregular' hb' => ?_
      exact (quiet_incoming hregular' hb' f).andThen fun _ hregular'' hb'' => ih hregular'' hb''

theorem hands_pushAll (h : Hub Hardware) (j : Nat) (requests : List Request) :
    Hands h (h.pushAll j requests) [] := by
  induction requests generalizing h with
  | nil => exact .refl h
  | cons request requests ih => exact (h.hands_push (request.work j)).trans (ih _)

theorem quiet_interrupt (hregular : h.Regular) (hb : h.buses[i]? = some b) (j : Nat) :
    Quiet i h (h.interrupt j) := by
  cases hbⱼ : h.buses[j]? with
  | none =>
    have hsame : h.interrupt j = h := by rw [interrupt, hbⱼ]
    rw [hsame]
    exact .refl hregular hb
  | some bⱼ =>
    have hsilent : bⱼ.Silent bⱼ.handled [] :=
      .ofStatistics bⱼ (Hardware.traffic_interrupt bⱼ.name bⱼ.statistics bⱼ.device)
    have hhandled : Quiet i h (h.settle j (bⱼ.handled, [])) := quiet_settle hregular hb hbⱼ hsilent
    rw [interrupt_eq hbⱼ]
    refine hhandled.andThen fun b' hregular' hb' => ?_
    have hlogs := (hands_pushAll _ j bⱼ.requests).logs hregular'.records
    exact .ofBuses hregular' hb' (buses_pushAll _ j _) hlogs.records hlogs.log
      fun _ hm => absurd hm List.not_mem_nil

end Devices

end Hub
end Fieldbus
