import Fieldbus.Hub.Operator
import Mathlib.Tactic.Common

/-! What the operations of a hub change.  Notices and records of the logger never touch the buses, the
queue or the listeners (`Hub.OnlyRecords`); apart from these, an operation on a bus replaces that bus
in its place, and a frame that comes in is counted by one bus and delivered. -/

namespace Fieldbus.Hub

variable {δ : Type}

/-- Two states of a hub differ at most in what was recorded and said. -/
structure OnlyRecords (before after : Hub δ) : Prop where
  buses : after.buses = before.buses
  queue : after.queue = before.queue
  listeners : after.listeners = before.listeners

theorem OnlyRecords.refl (h : Hub δ) : OnlyRecords h h := ⟨rfl, rfl, rfl⟩

theorem OnlyRecords.trans {h h₁ h₂ : Hub δ} (h₁₂ : OnlyRecords h h₁) (h₂₃ : OnlyRecords h₁ h₂) :
    OnlyRecords h h₂ :=
  ⟨h₂₃.buses.trans h₁₂.buses, h₂₃.queue.trans h₁₂.queue, h₂₃.listeners.trans h₁₂.listeners⟩

theorem onlyRecords_sayAll (h : Hub δ) (notices : List Notice) :
    OnlyRecords h (h.sayAll notices) := by
  induction notices generalizing h with
  | nil => exact .refl h
  | cons n notices ih =>
    have hfirst : OnlyRecords h (h.say n) := ⟨rfl, rfl, rfl⟩
    exact hfirst.trans (ih _)

theorem onlyRecords_record (h : Hub δ) (origin : Option BusName) (e : Entry) :
    OnlyRecords h (h.record origin e) := by
  rw [record, onLogger]
  split
  · next l _ =>
    let s := l.log ⟨origin, h.clock, e⟩ h.outlet
    have hlogged : OnlyRecords h { h with logger := some s.logger, outlet := s.outlet } :=
      ⟨rfl, rfl, rfl⟩
    exact hlogged.trans (onlyRecords_sayAll _ s.notices)
  · exact .refl h

theorem onlyRecords_performAll (h : Hub δ) (effects : List Effect) :
    OnlyRecords h (h.performAll effects) := by
  induction effects generalizing h with
  | nil => exact .refl h
  | cons e effects ih =>
    have hfirst : OnlyRecords h (h.perform e) := by
      cases e with
      | notice n => exact ⟨rfl, rfl, rfl⟩
      | entry origin e => exact onlyRecords_record h origin e
    exact hfirst.trans (ih _)

theorem onlyRecords_settle (h : Hub δ) (i : Nat) (step : Bus δ × List Effect) :
    OnlyRecords { h with buses := h.buses.set i step.1 } (h.settle i step) :=
  onlyRecords_performAll _ _

theorem onBus_eq {α : Type} {h : Hub δ} {i : Nat} {b : Bus δ} (hb : h.buses[i]? = some b)
    (operation : Bus δ → Outcome δ α) :
    h.onBus i operation
      = (some (operation b).result, h.settle i ((operation b).bus, (operation b).effects)) := by
  rw [onBus, hb]

theorem alter_eq {h : Hub δ} {i : Nat} {b : Bus δ} (hb : h.buses[i]? = some b)
    (operation : Bus δ → Bus δ × List Effect) :
    h.alter i operation = h.settle i (operation b) := by
  rw [alter, hb]

theorem alter_unchanged (h : Hub δ) (i : Nat) (operation : Bus δ → Bus δ × List Effect) :
    (h.alter i operation).queue = h.queue ∧ (h.alter i operation).listeners = h.listeners := by
  rw [alter]
  split
  · exact ⟨(h.onlyRecords_settle i _).queue, (h.onlyRecords_settle i _).listeners⟩
  · exact ⟨rfl, rfl⟩

def counted (h : Hub δ) (f : Frame) : Hub δ :=
  match h.busOf? f with
  | some i => h.countReceived i
  | none => h

theorem counted_unchanged (h : Hub δ) (f : Frame) :
    (h.counted f).queue = h.queue ∧ (h.counted f).listeners = h.listeners := by
  rw [counted]
  split
  · exact h.alter_unchanged _ _
  · exact ⟨rfl, rfl⟩

theorem onlyRecords_incoming (h : Hub δ) (f : Frame) :
    OnlyRecords { h.counted f with listeners := (h.listeners.deliver f).1 } (h.incoming f) := by
  have hdelivered : OnlyRecords { h.counted f with listeners := (h.listeners.deliver f).1 }
      ((h.counted f).deliver f) := by
    rw [deliver, (h.counted_unchanged f).2]
    exact onlyRecords_sayAll _ _
  exact hdelivered.trans (onlyRecords_record _ _ _)

/-! ### Buses by their names -/

def names (h : Hub δ) : List BusName := h.buses.map Bus.name

/-- The bus of a frame depends on the names of the buses alone. -/
theorem busOf?_congr {h h' : Hub δ} (hnames : h'.names = h.names) (f : Frame) :
    h'.busOf? f = h.busOf? f := by
  have hfind : ∀ (h : Hub δ) (text : String),
      h.findBus? text = h.names.findIdx? fun name => name.text = text := by
    intro h text
    rw [findBus?, names, List.findIdx?_map]
    rfl
  rw [busOf?, busOf?]
  simp only [hfind, hnames]

theorem getElem?_names {h : Hub δ} {i : Nat} {b : Bus δ} (hb : h.buses[i]? = some b) :
    h.names[i]? = some b.name := by
  rw [names, List.getElem?_map, hb, Option.map_some]

/-- No other bus has the name of the bus at this place. -/
structure Sole (h : Hub δ) (i : Nat) (b : Bus δ) : Prop where
  bus : h.buses[i]? = some b
  others : ∀ {j b'}, h.buses[j]? = some b' → j ≠ i → b'.name ≠ b.name

theorem sole_of_nodup {h : Hub δ} {i : Nat} {b : Bus δ} (hnames : h.names.Nodup)
    (hb : h.buses[i]? = some b) : h.Sole i b := by
  refine ⟨hb, fun {j b'} hb' hne hname => hne ?_⟩
  have hlength : j < h.names.length := (List.getElem?_eq_some_iff.mp (getElem?_names hb')).1
  refine (List.getElem?_inj hlength hnames).mp ?_
  rw [getElem?_names hb, getElem?_names hb', hname]

theorem Sole.congr {h h' : Hub δ} {i : Nat} {b b' : Bus δ} (hsole : h.Sole i b)
    (hnames : h'.names = h.names) (hb' : h'.buses[i]? = some b') :
    b'.name = b.name ∧ h'.Sole i b' := by
  have hname : b'.name = b.name := by
    have hsame := (getElem?_names hb').symm.trans (hnames ▸ getElem?_names hsole.bus)
    exact Option.some.inj hsame
  refine ⟨hname, hb', fun {j b₁} hb₁ hne => ?_⟩
  have hj : h.names[j]? = some b₁.name := hnames ▸ getElem?_names hb₁
  rw [names, List.getElem?_map] at hj
  obtain ⟨b₂, hb₂, hname₂⟩ := Option.map_eq_some_iff.mp hj
  rw [hname, ← hname₂]
  exact hsole.others hb₂ hne

theorem findBus?_eq_some {h : Hub δ} {text : String} {i : Nat} (hi : h.findBus? text = some i) :
    ∃ b, h.buses[i]? = some b ∧ b.name = ⟨text⟩ := by
  obtain ⟨hlength, hfound, -⟩ := List.findIdx?_eq_some_iff_getElem.mp hi
  have htext : h.buses[i].name.text = text := of_decide_eq_true hfound
  exact ⟨_, List.getElem?_eq_getElem hlength, congrArg BusName.mk htext⟩

theorem busOf?_eq_some {h : Hub δ} {f : Frame} {i : Nat} (hi : h.busOf? f = some i) :
    ∃ b, h.buses[i]? = some b ∧ f.origin = some b.name := by
  obtain ⟨name, horigin, hfind⟩ := Option.bind_eq_some_iff.mp hi
  obtain ⟨b, hb, hname⟩ := findBus?_eq_some hfind
  exact ⟨b, hb, horigin.trans (congrArg some hname.symm)⟩

theorem mem_take_names {h : Hub δ} {name : BusName} {i : Nat} :
    name ∈ h.names.take i ↔ ∃ j b, j < i ∧ h.buses[j]? = some b ∧ b.name = name := by
  have hget : ∀ j b, (h.buses.take i)[j]? = some b ↔ j < i ∧ h.buses[j]? = some b := by
    intro j b
    rw [List.getElem?_take]
    split
    · next hj => exact (and_iff_right hj).symm
    · next hj => exact iff_of_false nofun fun hb => hj hb.1
  rw [names, ← List.map_take, List.mem_map]
  simp only [List.mem_iff_getElem?, hget]
  constructor
  · rintro ⟨b, ⟨j, hj, hb⟩, hname⟩
    exact ⟨j, b, hj, hb, hname⟩
  · rintro ⟨j, b, hj, hb, hname⟩
    exact ⟨b, ⟨j, hj, hb⟩, hname⟩

/-- A frame finds the first bus of the name that it carries. -/
theorem busOf?_eq_some_iff {h : Hub δ} {i : Nat} {b : Bus δ} (hb : h.buses[i]? = some b)
    (f : Frame) :
    h.busOf? f = some i ↔ f.origin = some b.name ∧ b.name ∉ h.names.take i := by
  obtain ⟨hlength, rfl⟩ := List.getElem?_eq_some_iff.mp hb
  constructor
  · intro hi
    obtain ⟨b', hb', horigin⟩ := busOf?_eq_some hi
    obtain rfl : h.buses[i] = b' := Option.some.inj (hb.symm.trans hb')
    refine ⟨horigin, fun hmem => ?_⟩
    obtain ⟨j, b', hj, hb', hname⟩ := mem_take_names.mp hmem
    obtain ⟨_, rfl⟩ := List.getElem?_eq_some_iff.mp hb'
    rw [busOf?, horigin] at hi
    obtain ⟨_, _, hearlier⟩ := List.findIdx?_eq_some_iff_getElem.mp hi
    exact hearlier j hj (decide_eq_true (congrArg BusName.text hname))
  · rintro ⟨horigin, hfirst⟩
    rw [busOf?, horigin]
    refine List.findIdx?_eq_some_iff_getElem.mpr
      ⟨hlength, decide_eq_true rfl, fun j hj htext => hfirst (mem_take_names.mpr ?_)⟩
    exact ⟨j, _, hj, List.getElem?_eq_getElem (Nat.lt_trans hj hlength),
      congrArg BusName.mk (of_decide_eq_true htext)⟩

theorem Sole.busOf?_eq_some_iff {h : Hub δ} {i : Nat} {b : Bus δ} (hsole : h.Sole i b) (f : Frame) :
    h.busOf? f = some i ↔ f.origin = some b.name := by
  refine (Hub.busOf?_eq_some_iff hsole.bus f).trans (and_iff_left fun hmem => ?_)
  obtain ⟨j, b', hj, hb', hname⟩ := mem_take_names.mp hmem
  exact hsole.others hb' (Nat.ne_of_lt hj) hname

/-- Who counts a frame is the bus that it is named after. -/
theorem Sole.counted {h : Hub δ} {i : Nat} {b : Bus δ} (hsole : h.Sole i b) (f : Frame) :
    (h.counted f).buses[i]? = some (if f.origin = some b.name then
      { b with statistics := b.statistics.countReceived } else b) := by
  by_cases horigin : f.origin = some b.name
  · rw [if_pos horigin, Hub.counted, (hsole.busOf?_eq_some_iff f).mpr horigin]
    dsimp only
    rw [countReceived, alter_eq hsole.bus, (h.onlyRecords_settle i _).buses]
    exact List.getElem?_set_self (List.getElem?_eq_some_iff.mp hsole.bus).1
  · rw [if_neg horigin, Hub.counted]
    split
    · next k hk =>
      have hki : k ≠ i := fun hki => horigin ((hsole.busOf?_eq_some_iff f).mp (hki ▸ hk))
      rw [countReceived, alter]
      split
      · rw [(h.onlyRecords_settle k _).buses]
        exact (List.getElem?_set_ne hki).trans hsole.bus
      · exact hsole.bus
    · exact hsole.bus

theorem names_settle {h : Hub δ} {i : Nat} {b b' : Bus δ} (hb : h.buses[i]? = some b)
    (hname : b'.name = b.name) (effects : List Effect) :
    (h.settle i (b', effects)).names = h.names := by
  obtain ⟨hlength, rfl⟩ := List.getElem?_eq_some_iff.mp hb
  have hlength' : i < (h.buses.map Bus.name).length := by rwa [List.length_map]
  have hget : h.buses[i].name = (h.buses.map Bus.name)[i] := (List.getElem_map _).symm
  rw [names, (h.onlyRecords_settle i _).buses, List.map_set, hname, names, hget,
    List.set_getElem_self]

theorem names_alter (h : Hub δ) (i : Nat) {operation : Bus δ → Bus δ × List Effect}
    (hname : ∀ b, (operation b).1.name = b.name) : (h.alter i operation).names = h.names := by
  rw [alter]
  split
  · next b hb => exact names_settle hb (hname b) _
  · rfl

theorem names_incoming (h : Hub δ) (f : Frame) : (h.incoming f).names = h.names := by
  have hcounted : (h.counted f).names = h.names := by
    rw [counted]
    split
    · exact h.names_alter _ fun _ => rfl
    · rfl
  rw [← hcounted, names, (h.onlyRecords_incoming f).buses]
  rfl

/-! ### Requests by name -/

/-- A request by name is one on the bus that is found, or no bus has that name. -/
theorem withBus_cases {α : Type} (h : Hub δ) (name : String)
    (request : Nat → Bus δ → Answer δ α) :
    (h.findBus? name = none ∧ h.withBus name request = (.error (.noSuchBus name), h)) ∨
    ∃ i b, h.findBus? name = some i ∧ h.buses[i]? = some b ∧
      h.withBus name request = request i b := by
  rw [withBus]
  split
  · next i hi =>
    obtain ⟨b, hb, -⟩ := findBus?_eq_some hi
    rw [hb]
    exact .inr ⟨i, b, hi, hb, rfl⟩
  · next hnone => exact .inl ⟨hnone, rfl⟩

theorem attempt_snd {α : Type} (h : Hub δ) (i : Nat)
    (operation : Bus δ → Outcome δ (Except DeviceError α)) (missing : OperatorError) :
    (h.attempt i operation missing).2 = (h.onBus i operation).2 := by
  rw [attempt]
  rcases h.onBus i operation with ⟨_ | _ | _, h'⟩ <;> rfl

/-- A start is refused without any bus being reached, or its bus, mode and speed are known. -/
theorem startBus_cases [Device δ] (h : Hub δ) (name mode : String) (bps : UInt32) :
    (∃ e, (∀ d, e ≠ .device d) ∧ h.startBus name mode bps = (.error e, h)) ∨
    ∃ i m speed, h.findBus? name = some i ∧ BusMode.ofText? mode = some m ∧
      Speed.ofBps? bps = some speed ∧
      h.startBus name mode bps = h.attempt i (·.start ⟨m, speed⟩) (.noSuchBus name) := by
  cases hi : h.findBus? name with
  | none => exact .inl ⟨.noSuchBus name, nofun, by simp only [startBus, withBus, hi]⟩
  | some i =>
    obtain ⟨b, hb, -⟩ := findBus?_eq_some hi
    simp only [startBus, withBus, hi, hb, BusMode.read]
    cases BusMode.ofText? mode with
    | none => exact .inl ⟨.unsupportedMode mode, nofun, rfl⟩
    | some m =>
      cases Speed.ofBps? bps with
      | none => exact .inl ⟨.unsupportedSpeed bps, nofun, rfl⟩
      | some speed => exact .inr ⟨i, m, speed, rfl, rfl, rfl, rfl⟩

end Fieldbus.Hub
