import Fieldbus.Hub.Assembly
import Fieldbus.Proofs.Bus.Commands
import Fieldbus.Proofs.Hub.Books

/-! Buses leave each other alone.  They share the work queue, the listeners and the active logger, and
frames find their bus by its name.  Yet as long as the names differ, whatever is done on behalf of one
bus changes that bus only, and a frame that is named after no bus changes none (`Hub.apart_steps`). -/

namespace Fieldbus

namespace Hardware

/-- What polling the device fetches is named after the bus.  For answers that were prepared in advance
this is up to those who prepared them. -/
def Yields (name : BusName) : Hardware → Prop
  | .scripted d => ∀ p ∈ d.polls, ∀ f ∈ p.frame, f.origin = some name
  | _ => True

/-- Something happens to virtual hardware from outside: frames arrive, transmissions are held up or
completed, errors are raised, transfers or readings go wrong. -/
inductive Influence where
  | onChip (change : OnChip → OnChip)
  | mcp2515 (change : Mcp2515.Link → Mcp2515.Link)

def undergo : Hardware → Influence → Hardware
  | .onChip d, .onChip change => .onChip (change d)
  | .mcp2515 l, .mcp2515 change => .mcp2515 (change l)
  | d, _ => d

variable {name : BusName} {d : Hardware}

theorem Yields.start (h : d.Yields name) (setup : Setup) :
    (Device.start setup d).2.Yields name := by
  cases d <;> exact h

theorem Yields.stop (h : d.Yields name) : (Device.stop d).2.Yields name := by
  cases d <;> exact h

theorem lasts_yields (name : BusName) : Device.Lasts fun d : Hardware => d.Yields name := by
  constructor
  · intro d h
    cases d <;> exact h
  · intro f d h
    cases d <;> exact h

theorem Yields.poll (h : d.Yields name) (s : Statistics) :
    (Device.poll name s d).device.Yields name ∧
    ∀ f, (Device.poll name s d).frame = some f → f.origin = some name := by
  cases d with
  | onChip d => exact ⟨trivial, (origin_poll rfl name s).2⟩
  | mcp2515 l => exact ⟨trivial, (origin_poll rfl name s).2⟩
  | scripted d =>
    obtain ⟨starts, stops, readies, transmits, polls, calls⟩ := d
    cases polls with
    | nil => exact ⟨h, fun f hf => by cases hf⟩
    | cons p polls =>
      exact ⟨fun q hq => h q (List.mem_cons_of_mem p hq), fun f hf => h p List.mem_cons_self f hf⟩

theorem Yields.interrupt (h : d.Yields name) (s : Statistics) :
    (Device.interrupt name s d).device.Yields name := by
  cases d <;> exact h

theorem Yields.undergo (h : d.Yields name) (change : Influence) :
    (d.undergo change).Yields name := by
  cases d with
  | onChip d => cases change <;> trivial
  | mcp2515 l => cases change <;> trivial
  | scripted d => cases change <;> exact h

end Hardware

namespace Bus

/-- The bus has kept its name, and its device still yields frames of that name. -/
structure Stays (before after : Bus Hardware) : Prop where
  name : after.name = before.name
  yields : before.device.Yields before.name → after.device.Yields before.name

variable {b b' : Bus Hardware}

theorem Stays.ofDevice (hname : b'.name = b.name) (hdevice : b'.device = b.device) : Stays b b' :=
  ⟨hname, fun h => hdevice ▸ h⟩

theorem Stays.ofTransmits (h : ∀ {P : Hardware → Prop}, Device.Lasts P → Transmits P b b') :
    Stays b b' :=
  have hyields := h (Hardware.lasts_yields b.name)
  ⟨hyields.name, hyields.device⟩

theorem stays_obey (b : Bus Hardware) (c : Command) : Stays b (b.obey c).bus := by
  rcases b.obey_cases c with ⟨setup, -, -, heq⟩ | ⟨-, -, heq⟩ | ⟨-, heq⟩
  · obtain ⟨-, hname, hdevice, -⟩ := b.start_eq setup
    rw [heq]
    exact ⟨hname, fun h => hdevice ▸ h.start setup⟩
  · obtain ⟨-, hname, hdevice, -⟩ := b.halt_eq c.target
    rw [heq]
    exact ⟨hname, fun h => hdevice ▸ h.stop⟩
  · rw [heq]
    exact ⟨rfl, id⟩

theorem stays_turn (b : Bus Hardware) (t : Turn) : Stays b (b.turn t) :=
  .ofTransmits fun hP => transmits_turn hP b t

theorem stays_poll (b : Bus Hardware) : Stays b b.poll.bus :=
  ⟨rfl, fun h => (h.poll b.statistics).1⟩

theorem stays_reportStatus (b : Bus Hardware) (kind : StatusKind) :
    Stays b (b.reportStatus kind).1 := by
  cases kind <;> exact .ofDevice rfl rfl

end Bus

namespace Hub

/-- The buses have different names, and each device yields frames of its own bus. -/
structure Distinct (h : Hub Hardware) : Prop where
  names : h.names.Nodup
  yields : ∀ b ∈ h.buses, b.device.Yields b.name

/-- From one state to the next, at most the bus at this place has changed. -/
structure Touches (place : Option Nat) (h h' : Hub Hardware) : Prop where
  names : h'.names = h.names
  yields : (∀ b ∈ h.buses, b.device.Yields b.name) → ∀ b ∈ h'.buses, b.device.Yields b.name
  others : ∀ j, place ≠ some j → h'.buses[j]? = h.buses[j]?

variable {place : Option Nat} {h h' h'' : Hub Hardware} {i : Nat}

namespace Touches

theorem trans (h₁ : Touches place h h') (h₂ : Touches place h' h'') : Touches place h h'' :=
  ⟨h₂.names.trans h₁.names, fun hyields => h₂.yields (h₁.yields hyields),
    fun j hj => (h₂.others j hj).trans (h₁.others j hj)⟩

theorem ofBuses (hbuses : h'.buses = h.buses) : Touches place h h' :=
  ⟨congrArg (List.map Bus.name) hbuses, fun hyields => hbuses ▸ hyields, fun _ _ => by rw [hbuses]⟩

theorem distinct (ht : Touches place h h') (hdistinct : h.Distinct) : h'.Distinct :=
  ⟨ht.names ▸ hdistinct.names, ht.yields hdistinct.yields⟩

end Touches

theorem touches_settle {b b' : Bus Hardware} (hb : h.buses[i]? = some b) (hstays : b.Stays b')
    (effects : List Effect) : Touches (some i) h (h.settle i (b', effects)) := by
  refine ⟨names_settle hb hstays.name effects, fun hyields => ?_, fun j hj => ?_⟩
  · rw [(h.onlyRecords_settle i (b', effects)).buses]
    intro b₁ hb₁
    rcases List.mem_or_eq_of_mem_set hb₁ with hmem | rfl
    · exact hyields b₁ hmem
    · rw [hstays.name]
      exact hstays.yields (hyields b (List.mem_of_getElem? hb))
  · exact buses_settle_of_ne fun hi => hj (congrArg some hi)

theorem touches_alter (h : Hub Hardware) (i : Nat)
    {operation : Bus Hardware → Bus Hardware × List Effect}
    (hstays : ∀ b : Bus Hardware, b.Stays (operation b).1) :
    Touches (some i) h (h.alter i operation) := by
  rw [alter]
  split
  · next b hb => exact touches_settle hb (hstays b) _
  · exact .ofBuses rfl

theorem touches_onBus {α : Type} (h : Hub Hardware) (i : Nat)
    {operation : Bus Hardware → Outcome Hardware α}
    (hstays : ∀ b : Bus Hardware, b.Stays (operation b).bus) :
    Touches (some i) h (h.onBus i operation).2 := by
  rw [onBus_snd]
  exact h.touches_alter i hstays

/-- A frame that comes in touches the bus that it finds. -/
theorem touches_incoming (h : Hub Hardware) (f : Frame) :
    Touches (h.busOf? f) h (h.incoming f) := by
  have hcounted : Touches (h.busOf? f) h (h.counted f) := by
    rw [counted]
    split
    · next i hi =>
      rw [hi]
      exact h.touches_alter i fun b => .ofDevice rfl rfl
    · exact .ofBuses rfl
  exact hcounted.trans (.ofBuses (h.onlyRecords_incoming f).buses)

theorem touches_transmitDeferred (h : Hub Hardware) (i : Nat) :
    Touches (some i) h (h.transmitDeferred i) :=
  h.touches_alter i fun b => b.stays_turn .transmitDeferred

/-- The frames that a poll fetches are named after the bus that is polled. -/
theorem touches_pollFrames (hdistinct : h.Distinct) (i n : Nat) :
    Touches (some i) h (h.pollFrames i n) := by
  induction n generalizing h with
  | zero => exact .ofBuses rfl
  | succ n ih =>
    have hpolled : Touches (some i) h (h.onBus i Bus.poll).2 := h.touches_onBus i Bus.stays_poll
    rw [pollFrames]
    rcases honBus : h.onBus i Bus.poll with ⟨_ | _ | f, h'⟩
    all_goals rw [honBus] at hpolled
    · exact hpolled
    · exact hpolled
    · have hdistinct' := hpolled.distinct hdistinct
      obtain ⟨b, hb, hfetched⟩ : ∃ b, h.buses[i]? = some b ∧ b.poll.result = some f := by
        rw [onBus] at honBus
        split at honBus
        · next b hb => exact ⟨b, hb, Option.some.inj (congrArg Prod.fst honBus)⟩
        · cases congrArg Prod.fst honBus
      have hb' : h'.buses[i]? = some b.poll.bus := by
        rw [onBus_eq hb] at honBus
        obtain rfl : h.settle i (b.poll.bus, b.poll.effects) = h' := congrArg Prod.snd honBus
        exact buses_settle_self hb
      have horigin : f.origin = some b.name :=
        ((hdistinct.yields b (List.mem_of_getElem? hb)).poll b.statistics).2 f hfetched
      have hplace : h'.busOf? f = some i :=
        ((sole_of_nodup hdistinct'.names hb').busOf?_eq_some_iff f).mpr horigin
      have hincoming := h'.touches_incoming f
      rw [hplace] at hincoming
      exact (hpolled.trans hincoming).trans (ih (hincoming.distinct hdistinct'))

theorem touches_reportErrors (h : Hub Hardware) (i : Nat) :
    Touches (some i) h (h.reportErrors i) :=
  h.touches_alter i fun _ => .ofDevice rfl rfl

theorem touches_reportNotedErrors (h : Hub Hardware) (i : Nat) :
    Touches (some i) h (h.reportNotedErrors i) := by
  refine h.touches_alter i fun b => ?_
  dsimp only
  split
  · exact .ofDevice rfl rfl
  · exact .ofDevice rfl rfl

/-- The bus on whose behalf work is done. -/
def workPlace? (h : Hub Hardware) : Work → Option Nat
  | .frame f => h.busOf? f
  | .poll i | .transmit i | .reportErrors i => some i

theorem touches_dispatch (hdistinct : h.Distinct) (w : Work) :
    Touches (h.workPlace? w) h (h.dispatch w) := by
  cases w with
  | frame f => exact h.touches_incoming f
  | poll i =>
    exact ((touches_pollFrames hdistinct i _).trans (touches_reportNotedErrors _ i)).trans
      (touches_transmitDeferred _ i)
  | transmit i => exact h.touches_transmitDeferred i
  | reportErrors i => exact h.touches_reportErrors i

theorem touches_interrupt (h : Hub Hardware) (i : Nat) : Touches (some i) h (h.interrupt i) := by
  cases hb : h.buses[i]? with
  | none =>
    rw [interrupt, hb]
    exact .ofBuses rfl
  | some b =>
    rw [interrupt_eq hb]
    have hstays : b.Stays b.handled := ⟨rfl, fun hyields => hyields.interrupt b.statistics⟩
    exact (touches_settle hb hstays []).trans (.ofBuses (buses_pushAll _ i _))

theorem touches_serviceRounds (h : Hub Hardware) (i n : Nat) :
    Touches (some i) h (h.serviceRounds i n).2 := by
  induction n generalizing h with
  | zero => exact .ofBuses rfl
  | succ n ih =>
    rw [serviceRounds]
    split
    · exact (h.touches_interrupt i).trans (ih _)
    · exact .ofBuses rfl

/-! ### Requests by name -/

theorem touches_withBus {α : Type} (h : Hub Hardware) (name : String)
    {request : Nat → Bus Hardware → Answer Hardware α}
    (hrequest : ∀ {i b}, h.findBus? name = some i → h.buses[i]? = some b →
      Touches (some i) h (request i b).2) :
    Touches (h.findBus? name) h (h.withBus name request).2 := by
  obtain ⟨-, heq⟩ | ⟨i, b, hi, hb, heq⟩ := h.withBus_cases name request
  · rw [heq]
    exact .ofBuses rfl
  · rw [heq, hi]
    exact hrequest hi hb

theorem touches_attempt {α : Type} (h : Hub Hardware) (i : Nat)
    {operation : Bus Hardware → Outcome Hardware (Except DeviceError α)}
    (hstays : ∀ b : Bus Hardware, b.Stays (operation b).bus) (missing : OperatorError) :
    Touches (some i) h (h.attempt i operation missing).2 := by
  rw [attempt_snd]
  exact h.touches_onBus i hstays

theorem touches_startBus (h : Hub Hardware) (bus mode : String) (bps : UInt32) :
    Touches (h.findBus? bus) h (h.startBus bus mode bps).2 := by
  obtain ⟨_, -, heq⟩ | ⟨i, m, speed, hi, -, -, heq⟩ := h.startBus_cases bus mode bps
  · rw [heq]
    exact .ofBuses rfl
  · rw [heq, hi]
    exact h.touches_attempt i (fun b => b.stays_obey (.start ⟨m, speed⟩)) _

theorem touches_transmit (h : Hub Hardware) (bus : String) (id : UInt32) (extended : Bool)
    (data : List UInt8) : Touches (h.findBus? bus) h (h.transmit bus id extended data).2 := by
  refine h.touches_withBus bus fun {i b} _ _ => ?_
  split
  · dsimp only
    split
    · exact .ofBuses rfl
    · next f _ =>
      have hwritten : Touches (some i) h (h.attempt i (·.write f false 0) (.noSuchBus bus)).2 :=
        h.touches_attempt i (fun b => b.stays_turn (.write f false 0)) _
      generalize h.attempt i (·.write f false 0) (.noSuchBus bus) = answer at hwritten ⊢
      rcases answer with ⟨_ | (_ | _ | _) | _, h'⟩ <;> exact hwritten
  · exact .ofBuses rfl

/-- The frame is named after the bus that is found by its name. -/
theorem touches_inject (hdistinct : h.Distinct) (bus : String) (id : UInt32) (extended : Bool)
    (data : List UInt8) : Touches (h.findBus? bus) h (h.inject bus id extended data).2 := by
  refine h.touches_withBus bus fun {i b} _ hb => ?_
  split
  · dsimp only
    split
    · next f hf =>
      have horigin : f.origin = some b.name := Frame.origin_of_make (by rw [hf]; rfl)
      have hplace : h.busOf? f = some i :=
        ((sole_of_nodup hdistinct.names hb).busOf?_eq_some_iff f).mpr horigin
      rw [← hplace]
      exact h.touches_incoming f
    · exact .ofBuses rfl
  · exact .ofBuses rfl

/-! ### Steps -/

/-- What may happen at a hub. -/
inductive Step where
  | obey (place : Nat) (c : Command)
  /-- A frame is written, its write goes on or gives up, or the deferred frames are tried again. -/
  | turn (place : Nat) (t : Turn)
  | poll (place : Nat)
  | report (place : Nat) (kind : StatusKind)
  | interrupt (place : Nat)
  | service (place : Nat)
  | hardware (place : Nat) (change : Hardware.Influence)
  | dispatch (w : Work)
  | incoming (f : Frame)
  | startBus (bus mode : String) (bps : UInt32)
  | stopBus (bus : String)
  | setPower (bus : String) (power : Power)
  | transmit (bus : String) (id : UInt32) (extended : Bool) (data : List UInt8)
  | inject (bus : String) (id : UInt32) (extended : Bool) (data : List UInt8)
  | busStatus (bus : String)
  /-- Something happens to the queue, the listeners or the logger, or time passes. -/
  | aside (hub : Hub Hardware)

def step (h : Hub Hardware) : Step → Hub Hardware
  | .obey place c => (h.onBus place (·.obey c)).2
  | .turn place t => h.turn place t
  | .poll place => (h.onBus place Bus.poll).2
  | .report place kind => h.alter place (·.reportStatus kind)
  | .interrupt place => h.interrupt place
  | .service place => (h.service place).2
  | .hardware place change =>
    h.alter place fun b => ({ b with device := b.device.undergo change }, [])
  | .dispatch w => h.dispatch w
  | .incoming f => h.incoming f
  | .startBus bus mode bps => (h.startBus bus mode bps).2
  | .stopBus bus => (h.stopBus bus).2
  | .setPower bus power => (h.setPower bus power).2
  | .transmit bus id extended data => (h.transmit bus id extended data).2
  | .inject bus id extended data => (h.inject bus id extended data).2
  | .busStatus bus => (h.busStatus bus).2
  | .aside hub => { hub with buses := h.buses }

def steps (h : Hub Hardware) (steps : List Step) : Hub Hardware := steps.foldl step h

/-- The step concerns the bus at a place: it is done there, or under the name of that bus. -/
def Concerns (h : Hub Hardware) (i : Nat) : Step → Prop
  | .obey place _ | .turn place _ | .poll place | .report place _ | .interrupt place
  | .service place | .hardware place _ | .dispatch (.poll place) | .dispatch (.transmit place)
  | .dispatch (.reportErrors place) => place = i
  | .dispatch (.frame f) | .incoming f => ∃ b, h.buses[i]? = some b ∧ f.origin = some b.name
  | .startBus bus _ _ | .stopBus bus | .setPower bus _ | .transmit bus _ _ _ | .inject bus _ _ _
  | .busStatus bus => ∃ b, h.buses[i]? = some b ∧ b.name = ⟨bus⟩
  | .aside _ => False

theorem touches_turn (h : Hub Hardware) (i : Nat) (t : Turn) : Touches (some i) h (h.turn i t) := by
  cases t with
  | transmitDeferred => exact h.touches_transmitDeferred i
  | write f patient ticket =>
    exact h.touches_onBus i fun b => b.stays_turn (.write f patient ticket)
  | resume ticket => exact h.touches_onBus i fun b => b.stays_turn (.resume ticket)
  | expire ticket => exact h.touches_onBus i fun b => b.stays_turn (.expire ticket)

/-- Only a bus that the step concerns is touched. -/
theorem touches_step (hdistinct : h.Distinct) (s : Step) :
    ∃ place, Touches place h (h.step s) ∧ ∀ i, place = some i → h.Concerns i s := by
  have hat : ∀ {i : Nat}, Touches (some i) h (h.step s) → h.Concerns i s →
      ∃ place, Touches place h (h.step s) ∧ ∀ i, place = some i → h.Concerns i s := by
    intro i htouches hconcerns
    exact ⟨some i, htouches, fun j hj => Option.some.inj hj ▸ hconcerns⟩
  cases s with
  | obey i c => exact hat (h.touches_onBus i fun b => b.stays_obey c) rfl
  | turn i t => exact hat (h.touches_turn i t) rfl
  | poll i => exact hat (h.touches_onBus i Bus.stays_poll) rfl
  | report i kind => exact hat (h.touches_alter i fun b => b.stays_reportStatus kind) rfl
  | interrupt i => exact hat (h.touches_interrupt i) rfl
  | service i => exact hat (h.touches_serviceRounds i _) rfl
  | hardware i change =>
    exact hat (h.touches_alter i fun b => ⟨rfl, fun hyields => hyields.undergo change⟩) rfl
  | dispatch w =>
    refine ⟨_, touches_dispatch hdistinct w, fun i hi => ?_⟩
    cases w with
    | frame f => exact busOf?_eq_some hi
    | poll j => exact Option.some.inj hi
    | transmit j => exact Option.some.inj hi
    | reportErrors j => exact Option.some.inj hi
  | incoming f => exact ⟨_, h.touches_incoming f, fun i hi => busOf?_eq_some hi⟩
  | startBus bus mode bps =>
    exact ⟨_, h.touches_startBus bus mode bps, fun i hi => findBus?_eq_some hi⟩
  | stopBus bus =>
    refine ⟨_, h.touches_withBus bus fun {i b} _ _ => ?_, fun i hi => findBus?_eq_some hi⟩
    exact h.touches_attempt i (fun b => b.stays_obey .stop) _
  | setPower bus power =>
    refine ⟨_, h.touches_withBus bus fun {i b} _ _ => ?_, fun i hi => findBus?_eq_some hi⟩
    exact h.touches_attempt i (fun b => b.stays_obey (.setPower power)) _
  | transmit bus id extended data =>
    exact ⟨_, h.touches_transmit bus id extended data, fun i hi => findBus?_eq_some hi⟩
  | inject bus id extended data =>
    exact ⟨_, touches_inject hdistinct bus id extended data, fun i hi => findBus?_eq_some hi⟩
  | busStatus bus =>
    refine ⟨_, h.touches_withBus bus fun {i b} _ _ => ?_, fun i hi => findBus?_eq_some hi⟩
    exact h.touches_alter i fun b => b.stays_reportStatus .statistics
  | aside hub => exact ⟨none, .ofBuses rfl, fun i hi => by cases hi⟩

theorem distinct_steps (hdistinct : h.Distinct) (steps : List Step) : (h.steps steps).Distinct := by
  induction steps generalizing h with
  | nil => exact hdistinct
  | cons s steps ih =>
    obtain ⟨_, htouches, -⟩ := touches_step hdistinct s
    exact ih (htouches.distinct hdistinct)

/-- As the names differ, a step concerns one bus at most. -/
theorem concerns_unique (hdistinct : h.Distinct) {s : Step} {i j : Nat} (hi : h.Concerns i s)
    (hj : h.Concerns j s) : i = j := by
  have hsame : ∀ {b b' : Bus Hardware}, h.buses[i]? = some b → h.buses[j]? = some b' →
      b'.name = b.name → i = j := by
    intro b b' hb hb' hname
    by_contra hne
    exact (sole_of_nodup hdistinct.names hb).others hb' (Ne.symm hne) hname
  have hbus : ∀ {name : BusName}, (∃ b, h.buses[i]? = some b ∧ b.name = name) →
      (∃ b, h.buses[j]? = some b ∧ b.name = name) → i = j := by
    rintro name ⟨b, hb, hname⟩ ⟨b', hb', hname'⟩
    exact hsame hb hb' (hname'.trans hname.symm)
  have hframe : ∀ {f : Frame}, (∃ b, h.buses[i]? = some b ∧ f.origin = some b.name) →
      (∃ b, h.buses[j]? = some b ∧ f.origin = some b.name) → i = j := by
    rintro f ⟨b, hb, hname⟩ ⟨b', hb', hname'⟩
    exact hsame hb hb' (Option.some.inj (hname'.symm.trans hname))
  cases s with
  | incoming f => exact hframe hi hj
  | startBus bus mode bps => exact hbus hi hj
  | stopBus bus => exact hbus hi hj
  | setPower bus power => exact hbus hi hj
  | transmit bus id extended data => exact hbus hi hj
  | inject bus id extended data => exact hbus hi hj
  | busStatus bus => exact hbus hi hj
  | dispatch w =>
    cases w with
    | frame f => exact hframe hi hj
    | poll k => exact hi.symm.trans hj
    | transmit k => exact hi.symm.trans hj
    | reportErrors k => exact hi.symm.trans hj
  | aside hub => exact hi.elim
  | _ => exact hi.symm.trans hj

/-- From buses with different names on, and whatever has happened: a step that concerns one bus leaves
all others as they are, and a step that concerns none, such as a frame that comes in and is named after
no bus, changes no bus. -/
theorem apart_steps (h : Hub Hardware) (hdistinct : h.Distinct) (steps : List Step) (s : Step) :
    let r := h.steps steps
    (∀ i, r.Concerns i s → ∀ j, j ≠ i → (r.step s).buses[j]? = r.buses[j]?) ∧
    ((∀ i, ¬ r.Concerns i s) → (r.step s).buses = r.buses) := by
  intro r
  have hr : r.Distinct := distinct_steps hdistinct steps
  obtain ⟨place, htouches, hconcerns⟩ := touches_step hr s
  constructor
  · intro i hi j hj
    refine htouches.others j fun hplace => hj ?_
    exact concerns_unique hr (hconcerns j hplace) hi
  · intro hnone
    apply List.ext_getElem?
    intro j
    exact htouches.others j fun hplace => hnone j (hconcerns j hplace)

theorem distinct_addBuses (hdistinct : h.Distinct) (configs : List BusConfig) :
    (h.addBuses configs).2.Distinct := by
  induction configs generalizing h with
  | nil => exact hdistinct
  | cons c configs ih =>
    rw [addBuses]
    split
    · exact hdistinct
    · next hfresh =>
      refine ih ⟨?_, ?_⟩
      · show (List.map Bus.name (h.buses ++ _)).Nodup
        rw [List.map_append, List.nodup_append]
        refine ⟨hdistinct.names, by simp, ?_⟩
        rintro name hname _ hlast rfl
        obtain ⟨b, hb, rfl⟩ := List.mem_map.mp hname
        refine hfresh (List.any_eq_true.mpr ⟨b, hb, decide_eq_true ?_⟩)
        rw [List.mem_singleton.mp hlast]
      · intro b hb
        rcases List.mem_append.mp hb with hb | hb
        · exact hdistinct.yields b hb
        · rw [List.mem_singleton.mp hb]
          cases c.kind <;> trivial

/-- The buses of a configuration have different names, and devices that name frames after them. -/
theorem distinct_assemble (config : Config) (outlet : Logger.Outlet) :
    (assemble config outlet).2.Distinct := by
  have hempty : Distinct ({ outlet } : Hub Hardware) :=
    ⟨List.nodup_nil, fun _ hb => absurd hb List.not_mem_nil⟩
  exact distinct_addBuses hempty config.buses

/-- Two buses of a configuration, with a frame of the first one in its receive buffer: a poll of that bus
is no concern of the second. -/
theorem apart_steps_of_two :
    let f : Frame := ⟨none, 1, .standard, [7], by decide, by decide⟩
    let config : Config :=
      { buses := [⟨"can1", .mcp2515, none⟩, ⟨"can2", .onChip, none⟩] }
    let h := (assemble config {}).2
    let arrive : Hardware.Influence := .mcp2515 fun l => { l with chip := (l.chip.inject f).2 }
    let r := h.steps [.startBus "can1" "active" 500000, .hardware 0 arrive]
    (r.step (.dispatch (.poll 0))).buses[1]? = r.buses[1]? ∧
    ((r.step (.dispatch (.poll 0))).buses[0]?.map
      fun b => b.statistics.counters.received) = some 1 ∧
    (r.step (.dispatch (.frame f))).buses = r.buses := by
  intro f config h arrive r
  have hapart := fun s => apart_steps h (distinct_assemble config {})
    [.startBus "can1" "active" 500000, .hardware 0 arrive] s
  refine ⟨(hapart (.dispatch (.poll 0))).1 0 rfl 1 (by decide), by decide +kernel, ?_⟩
  refine (hapart (.dispatch (.frame f))).2 ?_
  rintro i ⟨b, -, horigin⟩
  cases horigin

end Hub
end Fieldbus
