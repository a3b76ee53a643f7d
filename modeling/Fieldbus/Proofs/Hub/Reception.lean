import Fieldbus.Proofs.Bus.Power
import Fieldbus.Proofs.Hub.Hosts
import Mathlib.Data.List.Infix

/-! The way of frames from the chip of one bus to one listener of the hub.  While the hub works, its
queue drops what it has no room for, other buses do what they like, and the frames of all of them meet
in the listener; yet the listener is given the frames of that bus in the order in which its chip
latched them, each once (`Intake.given_occurrences`). -/

namespace Fieldbus
namespace Hub

/-- Does something to the chip of the bus at a place, if it has one. -/
def onChip {α : Type} (h : Hub Hardware) (i : Nat)
    (operation : Mcp2515.Chip → α × Mcp2515.Chip) : Option α × Hub Hardware :=
  match h.buses[i]? with
  | some b =>
    match b.device with
    | .mcp2515 l =>
      let (a, chip) := operation l.chip
      (some a, { h with buses := h.buses.set i { b with device := .mcp2515 { l with chip } } })
    | _ => (none, h)
  | none => (none, h)

def turn {δ : Type} [Device δ] (h : Hub δ) (i : Nat) : Turn → Hub δ
  | .write f patient ticket => (h.onBus i (·.write f patient ticket)).2
  | .resume ticket => (h.onBus i (·.resume ticket)).2
  | .expire ticket => (h.onBus i (·.expire ticket)).2
  | .transmitDeferred => h.transmitDeferred i

def dispatchNext {δ : Type} [Device δ] (h : Hub δ) : Hub δ :=
  match h.queue.items with
  | w :: rest => { h with queue.items := rest }.dispatch w
  | [] => h

def waiting {δ : Type} (h : Hub δ) (key : String) : List Frame :=
  ((h.listeners.channel? key).map Channel.frames).getD []

/-- No other bus has the name of this one, or a device whose frames were prepared in advance.  The
channel is open, registered once, and not full. -/
structure Setting (h : Hub Hardware) (s : Route) : Prop where
  others : ∀ q ∈ h.buses.zipIdx, q.2 ≠ s.place →
    q.1.name.text ≠ s.name.text ∧ q.1.device.isScripted = false
  once : h.listeners.registered.count s.key = 1
  room : ∃ c ∈ h.listeners.channel? s.key, c.isOpen = true ∧ c.frames.length < c.capacity

instance (h : Hub Hardware) (s : Route) : Decidable (h.Setting s) :=
  decidable_of_iff
    ((∀ q ∈ h.buses.zipIdx, q.2 ≠ s.place →
        q.1.name.text ≠ s.name.text ∧ q.1.device.isScripted = false) ∧
      h.listeners.registered.count s.key = 1 ∧
      ∃ c ∈ h.listeners.channel? s.key, c.isOpen = true ∧ c.frames.length < c.capacity)
    ⟨fun ⟨others, once, room⟩ => ⟨others, once, room⟩,
      fun ⟨others, once, room⟩ => ⟨others, once, room⟩⟩

namespace Setting

variable {h : Hub Hardware} {s : Route}

theorem other (hsetting : h.Setting s) {j : Nat} {b : Bus Hardware} (hj : j ≠ s.place)
    (hb : h.buses[j]? = some b) : b.name.text ≠ s.name.text ∧ b.device.isScripted = false :=
  hsetting.others (b, j) (List.mem_zipIdx_iff_getElem?.mpr hb) hj

theorem serves (hsetting : h.Setting s) :
    ∃ c, h.listeners.Serves s.key c ∧ c.frames.length < c.capacity := by
  obtain ⟨c, hc, hopen, hroom⟩ := hsetting.room
  exact ⟨c, ⟨hc, hopen, hsetting.once⟩, hroom⟩

end Setting

namespace Hosts

variable {h : Hub Hardware} {s : Route} {x y : Option Frame} {m : Nat} {c : Channel}

theorem onChip {α : Type} (hosts : h.Hosts s x y m c)
    (operation : Mcp2515.Chip → α × Mcp2515.Chip) :
    ∃ chip : Mcp2515.Chip, chip.Latched x y ∧
      (h.onChip s.place operation).1 = some (operation chip).1 ∧
      ∀ {x' y'}, (operation chip).2.Latched x' y' →
        (h.onChip s.place operation).2.Hosts s x' y' m c := by
  obtain ⟨b, hb, hname, ⟨l, hl, hlatched⟩, hreceived⟩ := hosts.bus
  let b' : Bus Hardware := { b with device := .mcp2515 { l with chip := (operation l.chip).2 } }
  have honChip : h.onChip s.place operation
      = (some (operation l.chip).1, { h with buses := h.buses.set s.place b' }) := by
    rw [Hub.onChip, hb]
    dsimp only
    rw [hl]
  refine ⟨l.chip, hlatched.chip, congrArg Prod.fst honChip, fun hafter => ?_⟩
  rw [honChip]
  exact hosts.settle_own (b := b') hname ⟨_, rfl, hlatched.failures, hafter⟩ hreceived []

/-- What is done to the chip without disturbing reception changes nothing. -/
theorem onChip_undisturbed {α : Type} (hosts : h.Hosts s x y m c)
    {operation : Mcp2515.Chip → α × Mcp2515.Chip}
    (hoperation : ∀ chip, Mcp2515.Chip.Undisturbed chip (operation chip).2) :
    (h.onChip s.place operation).2.Hosts s x y m c := by
  obtain ⟨chip, hlatched, -, hafter⟩ := hosts.onChip operation
  exact hafter (hlatched.undisturbed (hoperation chip))

theorem turn (hosts : h.Hosts s x y m c) (j : Nat) (t : Turn) : (h.turn j t).Hosts s x y m c := by
  cases hb : h.buses[j]? with
  | none =>
    cases t with
    | transmitDeferred => exact hosts.transmitDeferred j
    | _ =>
      rw [Hub.turn, onBus, hb]
      exact hosts
  | some b =>
    have hspared : ∀ {P : Hardware → Prop}, Device.Lasts P → Bus.Transmits P b (b.turn t) :=
      fun hP => Bus.transmits_turn hP b t
    cases t with
    | transmitDeferred => exact hosts.transmitDeferred j
    | _ =>
      rw [Hub.turn, onBus_eq hb]
      exact hosts.settle_spared hb hspared _

end Hosts
end Hub

/-- A hub, the frames that the chip of a bus accepted, and those that a listener was given. -/
structure Intake where
  hub : Hub Hardware
  accepted : List Frame := []
  given : List Frame := []

inductive Occurrence where
  | inject (f : Frame)
  | hold (holding : Bool)
  | release
  | turn (t : Turn)
  | service (place : Nat)
  | dispatch
  /-- Something happens to the bus at another place. -/
  | elsewhere (place : Nat) (bus : Bus Hardware)
  /-- Frames are taken out of channels, or listeners come and go. -/
  | listeners (change : Listeners → Listeners)

namespace Intake

def occurrence (r : Intake) (s : Route) : Occurrence → Intake
  | .inject f =>
    let (taken, hub) := r.hub.onChip s.place (·.inject f)
    { r with hub, accepted := r.accepted ++ if taken = some true then [f] else [] }
  | .hold holding => { r with hub := (r.hub.onChip s.place fun c => ((), { c with holding })).2 }
  | .release => { r with hub := (r.hub.onChip s.place fun c => ((), c.release)).2 }
  | .turn t => { r with hub := r.hub.turn s.place t }
  | .service place => { r with hub := (r.hub.service place).2 }
  | .dispatch =>
    let hub := r.hub.dispatchNext
    { r with
      hub
      given := r.given ++ (hub.waiting s.key).drop (r.hub.waiting s.key).length }
  | .elsewhere place bus =>
    if place = s.place then r
    else { r with hub := { r.hub with buses := r.hub.buses.set place bus } }
  | .listeners change =>
    { r with hub := { r.hub with listeners := change r.hub.listeners } }

def occurrences (r : Intake) (s : Route) (occurrences : List Occurrence) : Intake :=
  occurrences.foldl (occurrence · s) r

def received (r : Intake) (s : Route) : List Frame := r.given.filter s.owns

/-- The frames that the chip accepted were given to the listener, or they are latched. -/
def Sound (r : Intake) (s : Route) : Prop :=
  ∃ x y c, r.hub.Hosts s x y (r.received s).length c ∧ (x = none → y = none) ∧
    r.received s ++ s.pending x y = r.accepted.map (·.withOrigin s.name)

section Steps

variable {r : Intake} {s : Route}

theorem Sound.ofHosts (h : r.Sound s) {hub : Hub Hardware}
    (hhub : ∀ {x y m c}, r.hub.Hosts s x y m c → ∃ c', hub.Hosts s x y m c') :
    Sound { r with hub } s := by
  obtain ⟨x, y, c, hosts, horder, haccepted⟩ := h
  obtain ⟨c', hosts'⟩ := hhub hosts
  exact ⟨x, y, c', hosts', horder, haccepted⟩

/-- A frame that arrives is latched behind those that are latched already, or the chip does not accept
it. -/
theorem Sound.inject (h : r.Sound s) (f : Frame) : (r.occurrence s (.inject f)).Sound s := by
  obtain ⟨x, y, c, hosts, horder, haccepted⟩ := h
  obtain ⟨chip, hlatched, htaken, hafter⟩ := hosts.onChip (·.inject f)
  have hcase : ∀ {taken x' y'}, (chip.inject f).1 = taken → (chip.inject f).2.Latched x' y' →
      (x' = none → y' = none) →
      s.pending x' y' = s.pending x y ++ (if taken then [f] else []).map (·.withOrigin s.name) →
      (r.occurrence s (.inject f)).Sound s := by
    intro taken x' y' hresult hlatched' horder' hpending
    refine ⟨x', y', c, hafter hlatched', horder', ?_⟩
    show r.received s ++ _ = (r.accepted ++
      if (r.hub.onChip s.place (·.inject f)).1 = some true then [f] else []).map _
    rw [htaken, hresult, List.map_append, ← haccepted, hpending, List.append_assoc]
    cases taken <;> rfl
  cases x with
  | none =>
    obtain rfl := horder rfl
    obtain ⟨hresult, hlatched'⟩ := hlatched.inject_first f
    exact hcase hresult hlatched' nofun rfl
  | some g =>
    cases y with
    | none =>
      obtain ⟨hresult, hlatched'⟩ := hlatched.inject_second f
      exact hcase hresult hlatched' nofun rfl
    | some k =>
      obtain ⟨hresult, hlatched'⟩ := hlatched.inject_full f
      exact hcase hresult hlatched' nofun (List.append_nil _).symm

theorem Sound.dispatch (h : r.Sound s) (hsetting : (r.occurrence s .dispatch).hub.Setting s) :
    (r.occurrence s .dispatch).Sound s := by
  obtain ⟨x, y, c, hosts, horder, haccepted⟩ := h
  have hwaiting : ∀ {hub : Hub Hardware} {x y m c}, hub.Hosts s x y m c →
      hub.waiting s.key = c.frames := by
    intro hub x y m c hosts
    rw [Hub.waiting, hosts.listener.channel]
    rfl
  obtain ⟨x', y', fs, c', hosts', hfollows, hpending, horder'⟩ :
      ∃ x' y' fs c', r.hub.dispatchNext.Hosts s x' y'
          ((r.received s).length + (fs.filter s.owns).length) c' ∧ c.Follows c' fs ∧
        fs.filter s.owns ++ s.pending x' y' = s.pending x y ∧
        ((x = none → y = none) → x' = none → y' = none) := by
    rw [Hub.dispatchNext]
    split
    · next w rest hitems =>
      have hrest : Hub.Hosts { r.hub with queue.items := rest } s x y (r.received s).length c :=
        ⟨hosts.bus, hosts.others,
          fun f hf => hosts.items f (hitems ▸ List.mem_cons_of_mem _ hf), hosts.listener⟩
      refine hrest.dispatch fun f hf => hosts.items f ?_
      rw [hitems, hf]
      exact List.mem_cons_self ..
    · exact ⟨x, y, [], c, hosts, .refl c, rfl, id⟩
  -- The channel is not full now, so it took every frame.
  have hgiven : (r.hub.dispatchNext.waiting s.key).drop (r.hub.waiting s.key).length = fs := by
    obtain ⟨c'', hserves, hroom⟩ := hsetting.serves
    obtain rfl : c'' = c' :=
      Option.some.inj (hserves.channel.symm.trans hosts'.listener.channel)
    rw [hwaiting hosts', hwaiting hosts, hfollows.frames hroom, List.drop_left]
  have hreceived : (r.occurrence s .dispatch).received s = r.received s ++ fs.filter s.owns := by
    show (r.given ++ (r.hub.dispatchNext.waiting s.key).drop _).filter s.owns = _
    rw [hgiven, List.filter_append]
    rfl
  refine ⟨x', y', c', ?_, horder' horder, ?_⟩
  · rw [hreceived, List.length_append]
    exact hosts'
  · rw [hreceived, List.append_assoc, hpending]
    exact haccepted

theorem Sound.occurrence (h : r.Sound s) (o : Occurrence)
    (hsetting : (r.occurrence s o).hub.Setting s) : (r.occurrence s o).Sound s := by
  cases o with
  | inject f => exact h.inject f
  | hold holding =>
    exact h.ofHosts fun hosts =>
      ⟨_, hosts.onChip_undisturbed fun c => Mcp2515.Chip.undisturbed_hold c holding⟩
  | release =>
    exact h.ofHosts fun hosts =>
      ⟨_, hosts.onChip_undisturbed Mcp2515.Chip.undisturbed_release⟩
  | turn t => exact h.ofHosts fun hosts => ⟨_, hosts.turn s.place t⟩
  | service place => exact h.ofHosts fun hosts => ⟨_, hosts.serviceRounds place _⟩
  | dispatch => exact h.dispatch hsetting
  | elsewhere place bus =>
    rw [Intake.occurrence] at hsetting ⊢
    split
    · exact h
    next hplace =>
    rw [if_neg hplace] at hsetting
    refine h.ofHosts fun hosts => ⟨_, ?_, fun j b hj hb => hsetting.other hj hb, hosts.items,
      hosts.listener⟩
    obtain ⟨b, hb, hown⟩ := hosts.bus
    exact ⟨b, (List.getElem?_set_ne hplace).trans hb, hown⟩
  | listeners change =>
    obtain ⟨c', hserves, -⟩ := hsetting.serves
    exact h.ofHosts fun hosts => ⟨c', hosts.bus, hosts.others, hosts.items, hserves⟩

theorem Sound.occurrences (h : r.Sound s) {occurrences : List Occurrence}
    (hsetting : ∀ before, before <+: occurrences → (r.occurrences s before).hub.Setting s) :
    (r.occurrences s occurrences).Sound s := by
  induction occurrences generalizing r with
  | nil => exact h
  | cons o occurrences ih =>
    have hfirst : (r.occurrence s o).Sound s :=
      h.occurrence o (hsetting [o] ⟨occurrences, rfl⟩)
    refine ih hfirst fun before hbefore => hsetting (o :: before) ?_
    exact List.cons_prefix_cons.mpr ⟨rfl, hbefore⟩

end Steps

theorem sound_started {h : Hub Hardware} {s : Route} {b : Bus Hardware} {l : Mcp2515.Link}
    {setup : Setup} (hbus : h.buses[s.place]? = some b) (hname : b.name = s.name)
    (hdevice : b.device = .mcp2515 l) (hlink : l.failures = [])
    (hitems : ∀ f, .frame f ∈ h.queue.items → s.owns f = false)
    (hstart : (h.onBus s.place (·.start setup)).1 = some (.ok ()))
    (hsetting : (h.onBus s.place (·.start setup)).2.Setting s) :
    Sound { hub := (h.onBus s.place (·.start setup)).2 } s := by
  obtain ⟨hresult, hname', hdevice', hstatistics, -⟩ := b.start_eq setup
  obtain ⟨c, hserves, -⟩ := hsetting.serves
  rw [Hub.onBus_eq hbus] at hstart
  have hok : (Device.start setup l).1 = .ok () := by
    have hbusOk := hresult.symm.trans (Option.some.inj hstart)
    rwa [hdevice] at hbusOk
  have hlatched : (b.start setup).bus.device.Latched none none := by
    rw [hdevice', hdevice]
    exact ⟨_, rfl, Mcp2515.latched_start hlink hok⟩
  have hrecords := h.onlyRecords_settle s.place ((b.start setup).bus, (b.start setup).effects)
  refine ⟨none, none, c, ⟨?_, fun j b hj hb => hsetting.other hj hb, ?_, hserves⟩, id, rfl⟩
  · refine ⟨(b.start setup).bus, ?_, hname'.trans hname, hlatched, ?_⟩
    · rw [Hub.onBus_eq hbus, hrecords.buses]
      exact List.getElem?_set_self (List.getElem?_eq_some_iff.mp hbus).1
    · rw [hstatistics]
      rfl
  · rw [Hub.onBus_eq hbus, hrecords.queue]
    exact hitems

/-- From a start of the bus on that succeeds, on a link without failures, and whatever happens as long
as the bus is not started again or stopped, and the listener stays and has room: the listener was given
a part of the frames that the chip accepted, from the first on, in their order, each once and named
after the bus.  The bus has counted them.  While no interrupt is pending, they are all of the frames
that the chip accepted. -/
theorem given_occurrences (h : Hub Hardware) (s : Route) {b : Bus Hardware} {l : Mcp2515.Link}
    (setup : Setup) (hbus : h.buses[s.place]? = some b) (hname : b.name = s.name)
    (hdevice : b.device = .mcp2515 l) (hlink : l.failures = [])
    (hitems : ∀ f, .frame f ∈ h.queue.items → s.owns f = false)
    (hstart : (h.onBus s.place (·.start setup)).1 = some (.ok ()))
    (occurrences : List Occurrence)
    (hsetting : ∀ before, before <+: occurrences →
      (({ hub := (h.onBus s.place (·.start setup)).2 } : Intake).occurrences s
        before).hub.Setting s) :
    let r := ({ hub := (h.onBus s.place (·.start setup)).2 } : Intake).occurrences s occurrences
    r.given.filter s.owns <+: r.accepted.map (·.withOrigin s.name) ∧
    (r.hub.buses[s.place]?.map fun b => b.statistics.counters.received)
      = some (UInt32.ofNat (r.given.filter s.owns).length) ∧
    (r.hub.asserted s.place = false →
      r.given.filter s.owns = r.accepted.map (·.withOrigin s.name)) := by
  intro r
  have hstarted := sound_started hbus hname hdevice hlink hitems hstart
    (hsetting [] (List.nil_prefix))
  obtain ⟨x, y, c, hosts, -, haccepted⟩ : r.Sound s := hstarted.occurrences hsetting
  obtain ⟨b', hb', -, ⟨l', hl', hlatched⟩, hreceived⟩ := hosts.bus
  refine ⟨⟨s.pending x y, haccepted⟩, ?_, fun hasserted => ?_⟩
  · rw [hb', Option.map_some, hreceived]
    rfl
  · have hline : l'.chip.asserted = false := by
      rw [Hub.asserted, hb', Option.map_some, Option.getD_some, hl'] at hasserted
      exact hasserted
    obtain ⟨rfl, rfl⟩ := hlatched.chip.eq_none hline
    exact (List.append_nil _).symm.trans haccepted

/-- The third frame that arrives finds both buffers occupied.  After the dispatch there is room for it
when it arrives again, and then it is latched. -/
theorem given_occurrences_of_three :
    let f (id : UInt32) (h : id ≤ 0x7ff) : Frame := ⟨none, id, .standard, [7], h, by decide⟩
    let f₁ := f 1 (by decide)
    let f₂ := f 2 (by decide)
    let f₃ := f 3 (by decide)
    let s : Route := ⟨0, .numbered 1, "k"⟩
    let h : Hub Hardware :=
      { buses :=
          [{ name := .numbered 1, device := .mcp2515 {} },
            { name := .numbered 2, device := .onChip {} }]
        listeners := ({} : Listeners).listen "k" 4 }
    let setup : Setup := ⟨.active, .kbps500⟩
    let occurrences : List Occurrence :=
      [.inject f₁, .inject f₂, .inject f₃, .service 0, .turn (.write f₃ false 0), .dispatch,
        .inject f₃]
    let r := ({ hub := (h.onBus 0 (·.start setup)).2 } : Intake).occurrences s occurrences
    r.accepted = [f₁, f₂, f₃] ∧ r.given = [f₁.withOrigin s.name, f₂.withOrigin s.name] ∧
    r.given.filter s.owns <+: r.accepted.map (·.withOrigin s.name) := by
  intro f f₁ f₂ f₃ s h setup occurrences r
  have hsetting : ∀ before ∈ occurrences.inits,
      (({ hub := (h.onBus 0 (·.start setup)).2 } : Intake).occurrences s before).hub.Setting s := by
    decide +kernel
  have hr := given_occurrences h s setup rfl rfl rfl rfl nofun (by decide +kernel) occurrences
    fun before hbefore => hsetting before ((List.mem_inits _ _).mpr hbefore)
  exact ⟨by decide +kernel, by decide +kernel, hr.1⟩

end Intake
end Fieldbus
