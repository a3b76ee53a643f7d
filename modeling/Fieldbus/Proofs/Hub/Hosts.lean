import Fieldbus.Proofs.Device.Hardware
import Fieldbus.Proofs.Hub.Basic
import Fieldbus.Proofs.Hub.Listeners

/-! A hub with a bus whose chip has latched some frames, and with a listener (`Hub.Hosts`).  Every
operation of the hub that is no poll of this bus leaves the frames latched, and gives none of them to
the listener; a poll of the bus gives it all of them, in their order, and counts them
(`Hub.Hosts.dispatch`). -/

namespace Fieldbus

/-- A bus, by its place in the hub and its name, and a listener, by the key of its channel. -/
structure Route where
  place : Nat
  name : BusName
  key : String

def Route.owns (s : Route) (f : Frame) : Bool := f.origin = some s.name

/-- The frames in two receive buffers as they will be given to listeners. -/
def Route.pending (s : Route) (first second : Option Frame) : List Frame :=
  (first.toList ++ second.toList).map (·.withOrigin s.name)

theorem Route.pending_cons (s : Route) {x y : Option Frame} {f : Frame} (h : x.or y = some f) :
    s.pending x y = f.withOrigin s.name :: s.pending none (x.bind fun _ => y) := by
  cases x with
  | none =>
    obtain rfl : y = some f := h
    rfl
  | some g =>
    obtain rfl : g = f := Option.some.inj h
    rfl

theorem Route.owns_withOrigin (s : Route) (f : Frame) : s.owns (f.withOrigin s.name) = true :=
  decide_eq_true rfl

namespace Hub

/-- The bus of a route is a chip that has latched some frames; so many of its frames were received
so far.  No other bus has its name, none of its frames waits in the queue, and the channel is served. -/
structure Hosts (h : Hub Hardware) (s : Route) (first second : Option Frame) (count : Nat)
    (c : Channel) : Prop where
  bus : ∃ b, h.buses[s.place]? = some b ∧ b.name = s.name ∧ b.device.Latched first second ∧
    b.statistics.counters.received = UInt32.ofNat count
  others : ∀ j b, j ≠ s.place → h.buses[j]? = some b →
    b.name.text ≠ s.name.text ∧ b.device.isScripted = false
  items : ∀ f, .frame f ∈ h.queue.items → s.owns f = false
  listener : h.listeners.Serves s.key c

namespace Hosts

variable {h h' : Hub Hardware} {s : Route} {x y x' y' : Option Frame} {m m' : Nat} {c : Channel}

theorem ofRecords (hosts : h.Hosts s x y m c) (hrecords : h.OnlyRecords h') :
    h'.Hosts s x y m c := by
  obtain ⟨hbuses, hqueue, hlisteners⟩ := hrecords
  exact ⟨hbuses ▸ hosts.bus, hbuses ▸ hosts.others, hqueue ▸ hosts.items,
    hlisteners ▸ hosts.listener⟩

theorem settle_own (hosts : h.Hosts s x y m c) {b : Bus Hardware} (hname : b.name = s.name)
    (hdevice : b.device.Latched x' y')
    (hreceived : b.statistics.counters.received = UInt32.ofNat m') (effects : List Effect) :
    (h.settle s.place (b, effects)).Hosts s x' y' m' c := by
  obtain ⟨b₀, hb₀, -⟩ := hosts.bus
  have hset : (h.buses.set s.place b)[s.place]? = some b :=
    List.getElem?_set_self (List.getElem?_eq_some_iff.mp hb₀).1
  refine ofRecords ?_ (h.onlyRecords_settle s.place (b, effects))
  refine ⟨⟨b, hset, hname, hdevice, hreceived⟩, fun j b' hj hb' => ?_, hosts.items, hosts.listener⟩
  rw [List.getElem?_set_ne (Ne.symm hj)] at hb'
  exact hosts.others j b' hj hb'

theorem settle_other (hosts : h.Hosts s x y m c) {j : Nat} (hj : j ≠ s.place) {b : Bus Hardware}
    (hname : b.name.text ≠ s.name.text) (hdevice : b.device.isScripted = false)
    (effects : List Effect) : (h.settle j (b, effects)).Hosts s x y m c := by
  refine ofRecords ?_ (h.onlyRecords_settle j (b, effects))
  obtain ⟨b₀, hb₀, hown⟩ := hosts.bus
  refine ⟨⟨b₀, (List.getElem?_set_ne hj).trans hb₀, hown⟩, fun k b' hk hb' => ?_, hosts.items,
    hosts.listener⟩
  by_cases hkj : j = k
  · subst hkj
    have hlength : j < h.buses.length := by
      have := (List.getElem?_eq_some_iff.mp hb').1
      rwa [List.length_set] at this
    rw [List.getElem?_set_self hlength] at hb'
    obtain rfl := Option.some.inj hb'
    exact ⟨hname, hdevice⟩
  · rw [List.getElem?_set_ne hkj] at hb'
    exact hosts.others k b' hk hb'

theorem origin_of_owns {f : Frame} (hf : s.owns f = true) : f.origin = some s.name :=
  of_decide_eq_true hf

theorem busOf?_own (hosts : h.Hosts s x y m c) {f : Frame} (hf : s.owns f = true) :
    h.busOf? f = some s.place := by
  obtain ⟨b, hb, hname, -⟩ := hosts.bus
  obtain ⟨hlength, hget⟩ := List.getElem?_eq_some_iff.mp hb
  rw [busOf?, origin_of_owns hf]
  refine List.findIdx?_eq_some_iff_getElem.mpr ⟨hlength, ?_, fun j hj => ?_⟩
  · exact decide_eq_true (by rw [hget, hname])
  · have hother := hosts.others j _ (Nat.ne_of_lt hj) (List.getElem?_eq_getElem (by omega))
    simpa using hother.1

theorem busOf?_other (hosts : h.Hosts s x y m c) {f : Frame} (hf : s.owns f = false) {j : Nat}
    (hj : h.busOf? f = some j) : j ≠ s.place := by
  rintro rfl
  obtain ⟨b, hb, hname, -⟩ := hosts.bus
  obtain ⟨name, horigin, hfind⟩ := Option.bind_eq_some_iff.mp hj
  obtain ⟨hlength, hfound, -⟩ := List.findIdx?_eq_some_iff_getElem.mp hfind
  have htext : s.name.text = name.text := by
    rw [← hname, ← (List.getElem?_eq_some_iff.mp hb).2]
    exact of_decide_eq_true hfound
  have hsame : s.name = name := congrArg BusName.mk htext
  have howns : s.owns f = true := decide_eq_true (horigin.trans (congrArg some hsame.symm))
  exact absurd (hf.symm.trans howns) Bool.false_ne_true

/-- A frame that comes in is given to the listener, and counted if it is one of the bus. -/
theorem incoming (hosts : h.Hosts s x y m c) (f : Frame) :
    ∃ c', (h.incoming f).Hosts s x y (m + if s.owns f then 1 else 0) c' ∧ c.Follows c' [f] := by
  have hrecords := h.onlyRecords_incoming f
  obtain ⟨c', hserves, hfollows⟩ := Listeners.serves_deliver hosts.listener f
  have hcounted : (h.counted f).Hosts s x y (m + if s.owns f then 1 else 0) c := by
    obtain ⟨b, hb, hname, hdevice, hreceived⟩ := hosts.bus
    rw [counted]
    cases hf : s.owns f
    · split
      · next j hj =>
        have hne := hosts.busOf?_other hf hj
        rw [countReceived, alter]
        split
        · next b' hb' =>
          obtain ⟨hname', hscripted⟩ := hosts.others j b' hne hb'
          exact hosts.settle_other (b := { b' with statistics := b'.statistics.countReceived })
            hne hname' hscripted []
        · exact hosts
      · exact hosts
    · rw [hosts.busOf?_own hf]
      dsimp only
      rw [countReceived, alter_eq hb]
      refine hosts.settle_own (b := { b with statistics := b.statistics.countReceived })
        hname hdevice ?_ []
      show b.statistics.counters.received + 1 = _
      rw [hreceived, if_pos rfl, UInt32.ofNat_add]
      rfl
  have hgiven : Hosts { h.counted f with listeners := (h.listeners.deliver f).1 } s x y
      (m + if s.owns f then 1 else 0) c' :=
    ⟨hcounted.bus, hcounted.others, hcounted.items, hserves⟩
  exact ⟨c', hgiven.ofRecords hrecords, hfollows⟩

theorem settle_spared (hosts : h.Hosts s x y m c) {j : Nat} {b b' : Bus Hardware}
    (hb : h.buses[j]? = some b)
    (hspared : ∀ {P : Hardware → Prop}, Device.Lasts P → Bus.Transmits P b b')
    (effects : List Effect) : (h.settle j (b', effects)).Hosts s x y m c := by
  by_cases hj : j = s.place
  · subst hj
    obtain ⟨b₀, hb₀, hname, hdevice, hreceived⟩ := hosts.bus
    obtain rfl : b₀ = b := Option.some.inj (hb₀.symm.trans hb)
    have hlatched := hspared (Hardware.lasts_latched x y)
    exact hosts.settle_own (hlatched.name.trans hname) (hlatched.device hdevice)
      (hlatched.received.trans hreceived) effects
  · obtain ⟨hname, hscripted⟩ := hosts.others j b hj hb
    have hkind := hspared (Hardware.lasts_isScripted false)
    exact hosts.settle_other hj (hkind.name ▸ hname) (hkind.device hscripted) effects

theorem alter_spared (hosts : h.Hosts s x y m c) (j : Nat)
    {operation : Bus Hardware → Bus Hardware × List Effect}
    (hspared : ∀ {P : Hardware → Prop} b, Device.Lasts P → Bus.Transmits P b (operation b).1) :
    (h.alter j operation).Hosts s x y m c := by
  rw [alter]
  split
  · next b hb => exact hosts.settle_spared hb (hspared b) _
  · exact hosts

theorem transmitDeferred (hosts : h.Hosts s x y m c) (j : Nat) :
    (h.transmitDeferred j).Hosts s x y m c :=
  hosts.alter_spared j fun b hP => Bus.transmits_transmitDeferred hP b

theorem reportErrors (hosts : h.Hosts s x y m c) (j : Nat) :
    (h.reportErrors j).Hosts s x y m c :=
  hosts.alter_spared j fun _ _ => ⟨rfl, rfl, rfl, rfl, id⟩

theorem reportNotedErrors (hosts : h.Hosts s x y m c) (j : Nat) :
    (h.reportNotedErrors j).Hosts s x y m c := by
  refine hosts.alter_spared j fun b _ => ?_
  dsimp only
  split <;> exact ⟨rfl, rfl, rfl, rfl, id⟩

/-! ### Polling -/

theorem poll_own (hosts : h.Hosts s x y m c) :
    (h.onBus s.place Bus.poll).1 = some ((x.or y).map (·.withOrigin s.name)) ∧
    (h.onBus s.place Bus.poll).2.Hosts s none (x.bind fun _ => y) m c := by
  obtain ⟨b, hb, hname, hdevice, hreceived⟩ := hosts.bus
  obtain ⟨hframe, hlatched, hsame⟩ := hdevice.poll b.name b.statistics
  rw [onBus_eq hb]
  refine ⟨congrArg some (hname ▸ hframe), ?_⟩
  exact hosts.settle_own (b := b.poll.bus) hname hlatched (hsame.trans hreceived) _

theorem poll_other (hosts : h.Hosts s x y m c) {j : Nat} (hj : j ≠ s.place) :
    (∀ f, (h.onBus j Bus.poll).1 = some (some f) → s.owns f = false) ∧
    (h.onBus j Bus.poll).2.Hosts s x y m c := by
  cases hb : h.buses[j]? with
  | none =>
    rw [onBus, hb]
    exact ⟨by simp, hosts⟩
  | some b =>
    obtain ⟨hname, hscripted⟩ := hosts.others j b hj hb
    obtain ⟨hscripted', horigin⟩ := Hardware.origin_poll hscripted b.name b.statistics
    rw [onBus_eq hb]
    refine ⟨fun f hf => ?_, hosts.settle_other (b := b.poll.bus) hj hname hscripted' _⟩
    have hname' : f.origin = some b.name := horigin f (Option.some.inj hf)
    refine decide_eq_false fun hown => hname ?_
    rw [Option.some.inj (hname'.symm.trans hown)]

theorem pollFrames_own (hosts : h.Hosts s x y m c) {n : Nat} (hn : (s.pending x y).length < n) :
    ∃ c', (h.pollFrames s.place n).Hosts s none none (m + (s.pending x y).length) c' ∧
      c.Follows c' (s.pending x y) := by
  induction n generalizing h x y m c with
  | zero => exact absurd hn (Nat.not_lt_zero _)
  | succ n ih =>
    obtain ⟨hresult, hpolled⟩ := hosts.poll_own
    rw [pollFrames]
    rcases honBus : h.onBus s.place Bus.poll with ⟨result, h₁⟩
    rw [honBus] at hresult hpolled
    obtain rfl : result = _ := hresult
    cases hfirst : x.or y with
    | none =>
      obtain ⟨rfl, rfl⟩ := Option.or_eq_none_iff.mp hfirst
      exact ⟨c, hpolled, .refl c⟩
    | some f =>
      -- One frame less is latched, so the remaining rounds suffice for the others.
      rw [s.pending_cons hfirst] at hn ⊢
      obtain ⟨c₁, hincoming, hfollows⟩ := hpolled.incoming (f.withOrigin s.name)
      rw [s.owns_withOrigin, if_pos rfl] at hincoming
      obtain ⟨c', hrest, hfollows'⟩ := ih hincoming (Nat.lt_of_succ_lt_succ hn)
      refine ⟨c', ?_, hfollows.trans hfollows'⟩
      rwa [Nat.add_assoc, Nat.add_comm 1] at hrest

theorem pollFrames_other (hosts : h.Hosts s x y m c) {j : Nat} (hj : j ≠ s.place) (n : Nat) :
    ∃ fs c', (h.pollFrames j n).Hosts s x y m c' ∧ c.Follows c' fs ∧ fs.filter s.owns = [] := by
  induction n generalizing h c with
  | zero => exact ⟨[], c, hosts, .refl c, rfl⟩
  | succ n ih =>
    obtain ⟨hresult, hpolled⟩ := hosts.poll_other hj
    rw [pollFrames]
    rcases honBus : h.onBus j Bus.poll with ⟨_ | _ | f, h₁⟩
    · rw [honBus] at hpolled
      exact ⟨[], c, hpolled, .refl c, rfl⟩
    · rw [honBus] at hpolled
      exact ⟨[], c, hpolled, .refl c, rfl⟩
    · rw [honBus] at hresult hpolled
      have hf := hresult f rfl
      obtain ⟨c₁, hincoming, hfollows⟩ := hpolled.incoming f
      rw [hf, if_neg Bool.false_ne_true] at hincoming
      obtain ⟨fs, c', hrest, hfollows', hfs⟩ := ih hincoming
      refine ⟨f :: fs, c', hrest, hfollows.trans hfollows', ?_⟩
      rw [List.filter_cons_of_neg (by rw [hf]; exact Bool.false_ne_true), hfs]

/-! ### The queue -/

theorem push (hosts : h.Hosts s x y m c) {w : Work} (hw : ∀ f, w = .frame f → s.owns f = false) :
    (h.push w).2.Hosts s x y m c := by
  have hitems : ∀ f, .frame f ∈ (h.queue.push w).2.items → s.owns f = false := by
    intro f hf
    rw [WorkQueue.push] at hf
    split at hf
    · rcases List.mem_append.mp hf with hf | hf
      · exact hosts.items f hf
      · exact hw f (List.mem_singleton.mp hf).symm
    · exact hosts.items f hf
  have hpushed : Hosts { h with queue := (h.queue.push w).2 } s x y m c :=
    ⟨hosts.bus, hosts.others, hitems, hosts.listener⟩
  rw [Hub.push]
  dsimp only
  split
  · exact hpushed
  · exact hpushed.ofRecords ⟨rfl, rfl, rfl⟩

theorem pushAll (hosts : h.Hosts s x y m c) (j : Nat) {requests : List Request}
    (hrequests : ∀ f, .frame f ∈ requests → s.owns f = false) :
    (requests.foldl (fun h request => (h.push (request.work j)).2) h).Hosts s x y m c := by
  induction requests generalizing h with
  | nil => exact hosts
  | cons request requests ih =>
    refine ih (hosts.push fun f hf => ?_) fun f hf => hrequests f (List.mem_cons_of_mem _ hf)
    refine hrequests f ?_
    cases request with
    | frame g =>
      obtain rfl : g = f := Work.frame.inj hf
      exact List.mem_cons_self ..
    | _ => exact nomatch hf

/-- An interrupt handler leaves what is latched as it is.  Those of other buses ask for frames of
their own. -/
theorem interrupt (hosts : h.Hosts s x y m c) (j : Nat) : (h.interrupt j).Hosts s x y m c := by
  rw [Hub.interrupt]
  split
  case h_2 => exact hosts
  next b hb =>
  let r := Device.interrupt b.name b.statistics b.device
  let b' : Bus Hardware := { b with device := r.device, statistics := r.statistics }
  by_cases hj : j = s.place
  · subst hj
    obtain ⟨b₀, hb₀, hname, hdevice, hreceived⟩ := hosts.bus
    obtain rfl : b₀ = b := Option.some.inj (hb₀.symm.trans hb)
    obtain ⟨hlatched, hrequests, hsame⟩ := hdevice.interrupt b₀.name b₀.statistics
    refine pushAll (hosts.settle_own (b := b') hname hlatched (hsame.trans hreceived) []) _ ?_
    intro f hf
    rw [hrequests] at hf
    exact nomatch List.mem_singleton.mp hf
  · obtain ⟨hname, hscripted⟩ := hosts.others j b hj hb
    obtain ⟨hkind, horigin⟩ := Hardware.origin_interrupt b.device b.name b.statistics
    refine pushAll (hosts.settle_other (b := b') hj hname (hkind.trans hscripted) []) _ ?_
    intro f hf
    refine decide_eq_false fun hown => hname ?_
    rw [Option.some.inj ((horigin f hf).symm.trans hown)]

theorem serviceRounds (hosts : h.Hosts s x y m c) (j n : Nat) :
    (h.serviceRounds j n).2.Hosts s x y m c := by
  induction n generalizing h with
  | zero => exact hosts
  | succ n ih =>
    rw [Hub.serviceRounds]
    split
    · exact ih (hosts.interrupt j)
    · exact hosts

/-- Work is done: what was latched is given to the listener and counted, or it stays latched. -/
theorem dispatch (hosts : h.Hosts s x y m c) {w : Work}
    (hw : ∀ f, w = .frame f → s.owns f = false) :
    ∃ x' y' fs c', (h.dispatch w).Hosts s x' y' (m + (fs.filter s.owns).length) c' ∧
      c.Follows c' fs ∧ fs.filter s.owns ++ s.pending x' y' = s.pending x y ∧
      ((x = none → y = none) → x' = none → y' = none) := by
  -- What does not poll the bus gives none of its frames to the listener.
  have hsame : ∀ {h' : Hub Hardware} {fs c'}, h'.Hosts s x y m c' → c.Follows c' fs →
      fs.filter s.owns = [] →
      ∃ x' y' fs c', h'.Hosts s x' y' (m + (fs.filter s.owns).length) c' ∧ c.Follows c' fs ∧
        fs.filter s.owns ++ s.pending x' y' = s.pending x y ∧
        ((x = none → y = none) → x' = none → y' = none) := by
    intro h' fs c' hosts' hfollows hfs
    refine ⟨x, y, fs, c', ?_, hfollows, by rw [hfs, List.nil_append], id⟩
    rwa [hfs]
  cases w with
  | frame f =>
    have hf := hw f rfl
    obtain ⟨c', hincoming, hfollows⟩ := hosts.incoming f
    rw [hf, if_neg Bool.false_ne_true] at hincoming
    refine hsame hincoming hfollows ?_
    rw [List.filter_cons_of_neg (by rw [hf]; exact Bool.false_ne_true), List.filter_nil]
  | poll j =>
    by_cases hj : j = s.place
    · subst hj
      obtain ⟨b, hb, -, ⟨l, hl, -⟩, -⟩ := hosts.bus
      have hbacklog : h.backlog s.place = 2 := by
        rw [backlog, hb, Option.map_some, Option.getD_some, hl]
        rfl
      have hlength : (s.pending x y).length < h.backlog s.place + 1 := by
        rw [hbacklog]
        cases x <;> cases y <;> simp [Route.pending]
      obtain ⟨c', hpolled, hfollows⟩ := hosts.pollFrames_own hlength
      have hfilter : (s.pending x y).filter s.owns = s.pending x y := by
        refine List.filter_eq_self.mpr fun f hf => ?_
        obtain ⟨g, -, rfl⟩ := List.mem_map.mp hf
        exact s.owns_withOrigin g
      refine ⟨none, none, s.pending x y, c', ?_, hfollows, ?_, fun _ => id⟩
      · rw [hfilter]
        exact (hpolled.reportNotedErrors _).transmitDeferred _
      · rw [hfilter]
        exact List.append_nil _
    · obtain ⟨fs, c', hpolled, hfollows, hfs⟩ := hosts.pollFrames_other hj (h.backlog j + 1)
      exact hsame ((hpolled.reportNotedErrors j).transmitDeferred j) hfollows hfs
  | transmit j => exact hsame (hosts.transmitDeferred j) (.refl c) rfl
  | reportErrors j => exact hsame (hosts.reportErrors j) (.refl c) rfl

end Hosts
end Hub
end Fieldbus
