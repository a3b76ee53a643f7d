import Fieldbus.Proofs.Bus.Wakeup
import Fieldbus.Proofs.Hub.Reception

/-! Deferred frames are tried again.  The call for another try starts in the transmit buffer, goes to
the interrupt register of the controller, from there to the work queue of the hub, and ends with a
drain of the deferred frames.  Whatever happens in between, it is in one of these places as long as
there are deferred frames, unless the queue has dropped work (`Vigil.awake_happenings`). -/

namespace Fieldbus
namespace Hub

variable {δ : Type} {h : Hub δ} {i : Nat} {P Q : Bus δ → Prop}

theorem onBus_snd {α : Type} (h : Hub δ) (i : Nat) (operation : Bus δ → Outcome δ α) :
    (h.onBus i operation).2 = h.alter i fun b => ((operation b).bus, (operation b).effects) := by
  rw [onBus, alter]
  split <;> rfl

/-- The bus at a place has a property. -/
def Has (h : Hub δ) (i : Nat) (P : Bus δ → Prop) : Prop := ∃ b, h.buses[i]? = some b ∧ P b

namespace Has

theorem ofBuses (hP : h.Has i P) {h' : Hub δ} (hbuses : h'.buses = h.buses) : h'.Has i P := by
  obtain ⟨b, hb, hprop⟩ := hP
  exact ⟨b, hbuses ▸ hb, hprop⟩

theorem set_of_ne (hP : h.Has i P) {j : Nat} (hj : j ≠ i) (b : Bus δ) :
    Has { h with buses := h.buses.set j b } i P := by
  obtain ⟨b₀, hb₀, hprop⟩ := hP
  exact ⟨b₀, (List.getElem?_set_ne hj).trans hb₀, hprop⟩

theorem set_self {b₀ b : Bus δ} (hb₀ : h.buses[i]? = some b₀) (hb : P b) :
    Has { h with buses := h.buses.set i b } i P :=
  ⟨b, List.getElem?_set_self (List.getElem?_eq_some_iff.mp hb₀).1, hb⟩

theorem alter_self (hP : h.Has i P) {operation : Bus δ → Bus δ × List Effect}
    (hop : ∀ b, P b → Q (operation b).1) : (h.alter i operation).Has i Q := by
  obtain ⟨b, hb, hprop⟩ := hP
  rw [alter_eq hb]
  exact ofBuses (set_self hb (hop b hprop)) (h.onlyRecords_settle i _).buses

theorem alter_of_ne (hP : h.Has i P) {j : Nat} (hj : j ≠ i)
    (operation : Bus δ → Bus δ × List Effect) : (h.alter j operation).Has i P := by
  rw [alter]
  split
  · exact ofBuses (hP.set_of_ne hj _) (h.onlyRecords_settle j _).buses
  · exact hP

theorem alter (hP : h.Has i P) (j : Nat) {operation : Bus δ → Bus δ × List Effect}
    (hop : ∀ b, P b → P (operation b).1) : (h.alter j operation).Has i P := by
  by_cases hj : j = i
  · subst hj
    exact hP.alter_self hop
  · exact hP.alter_of_ne hj operation

theorem onBus {α : Type} (hP : h.Has i P) (j : Nat) {operation : Bus δ → Outcome δ α}
    (hop : ∀ b, P b → P (operation b).bus) : (h.onBus j operation).2.Has i P := by
  rw [onBus_snd]
  exact hP.alter j hop

theorem onBus_self {α : Type} (hP : h.Has i P) {operation : Bus δ → Outcome δ α}
    (hop : ∀ b, P b → Q (operation b).bus) : (h.onBus i operation).2.Has i Q := by
  rw [onBus_snd]
  exact hP.alter_self hop

theorem incoming (hP : h.Has i P) (hstatistics : ∀ {b} s, P b → P { b with statistics := s })
    (f : Frame) : (h.incoming f).Has i P := by
  have hcounted : (h.counted f).Has i P := by
    rw [counted]
    split
    · exact hP.alter _ fun _ hb => hstatistics _ hb
    · exact hP
  exact hcounted.ofBuses (h.onlyRecords_incoming f).buses

theorem turn [Device δ] (hP : h.Has i P) {t : Turn} (hturn : ∀ b, P b → Q (b.turn t)) :
    (h.turn i t).Has i Q := by
  cases t with
  | transmitDeferred => exact hP.alter_self hturn
  | _ => exact hP.onBus_self hturn

end Has

/-! ### Work -/

/-- A property of buses that no work of the hub ends. -/
structure Lasting [Device δ] (P : Bus δ → Prop) : Prop where
  statistics : ∀ {b} s, P b → P { b with statistics := s }
  poll : ∀ {b}, P b → P b.poll.bus
  transmitDeferred : ∀ {b}, P b → P b.transmitDeferred.1

section Work

variable [Device δ]

theorem Has.pollFrames (hP : h.Has i P) (hlasting : Lasting P) (j n : Nat) :
    (h.pollFrames j n).Has i P := by
  induction n generalizing h with
  | zero => exact hP
  | succ n ih =>
    have hpolled : (h.onBus j Bus.poll).2.Has i P := hP.onBus j fun _ hb => hlasting.poll hb
    rw [Hub.pollFrames]
    rcases honBus : h.onBus j Bus.poll with ⟨_ | _ | f, h'⟩
    all_goals rw [honBus] at hpolled
    · exact hpolled
    · exact hpolled
    · exact ih (hpolled.incoming hlasting.statistics f)

theorem Has.reportErrors (hP : h.Has i P) (hlasting : Lasting P) (j : Nat) :
    (h.reportErrors j).Has i P :=
  hP.alter j fun b hb => hlasting.statistics (b := b) _ hb

theorem Has.reportNotedErrors (hP : h.Has i P) (hlasting : Lasting P) (j : Nat) :
    (h.reportNotedErrors j).Has i P := by
  refine hP.alter j fun b hb => ?_
  dsimp only
  split <;> exact hlasting.statistics (b := b) _ hb

theorem Has.dispatch (hP : h.Has i P) (hlasting : Lasting P) (w : Work) :
    (h.dispatch w).Has i P := by
  have hdrain : ∀ {h : Hub δ} (j : Nat), h.Has i P → (h.transmitDeferred j).Has i P :=
    fun j hP => hP.alter j fun _ hb => hlasting.transmitDeferred hb
  cases w with
  | frame f => exact hP.incoming hlasting.statistics f
  | poll j =>
    exact hdrain j ((hP.pollFrames hlasting j _).reportNotedErrors hlasting j)
  | transmit j => exact hdrain j hP
  | reportErrors j => exact hP.reportErrors hlasting j

theorem queue_pollFrames (h : Hub δ) (j n : Nat) : (h.pollFrames j n).queue = h.queue := by
  induction n generalizing h with
  | zero => rfl
  | succ n ih =>
    have hpolled : (h.onBus j Bus.poll).2.queue = h.queue := by
      rw [onBus_snd]
      exact (h.alter_unchanged j _).1
    rw [pollFrames]
    rcases honBus : h.onBus j Bus.poll with ⟨_ | _ | f, h'⟩
    all_goals rw [honBus] at hpolled
    · exact hpolled
    · exact hpolled
    · have hincoming : (h'.incoming f).queue = h'.queue :=
        (h'.onlyRecords_incoming f).queue.trans (h'.counted_unchanged f).1
      exact (ih _).trans (hincoming.trans hpolled)

/-- Work is done without asking for more. -/
theorem queue_dispatch (h : Hub δ) (w : Work) : (h.dispatch w).queue = h.queue := by
  cases w with
  | frame f => exact (h.onlyRecords_incoming f).queue.trans (h.counted_unchanged f).1
  | poll j =>
    exact (alter_unchanged _ _ _).1.trans ((alter_unchanged _ _ _).1.trans (h.queue_pollFrames j _))
  | transmit j => exact (h.alter_unchanged j _).1
  | reportErrors j => exact (h.alter_unchanged j _).1

theorem queue_turn (h : Hub δ) (i : Nat) (t : Turn) : (h.turn i t).queue = h.queue := by
  cases t with
  | transmitDeferred => exact (h.alter_unchanged i _).1
  | _ =>
    rw [turn, onBus_snd]
    exact (h.alter_unchanged i _).1

end Work

/-! ### The queue -/

theorem push_eq (h : Hub δ) (w : Work) :
    (h.push w).2.buses = h.buses ∧ (h.push w).2.queue = (h.queue.push w).2 := by
  rw [push]
  dsimp only
  split <;> exact ⟨rfl, rfl⟩

/-- Work that is asked for is queued, or it is dropped and counted. -/
theorem push_cases (h : Hub δ) (w : Work) :
    ((h.push w).2.queue.items = h.queue.items ++ [w] ∧
      (h.push w).2.queue.dropped = h.queue.dropped) ∨
    ((h.push w).2.queue.items = h.queue.items ∧
      (h.push w).2.queue.dropped = h.queue.dropped + 1) := by
  rw [(h.push_eq w).2, WorkQueue.push]
  split
  · exact .inl ⟨rfl, rfl⟩
  · exact .inr ⟨rfl, rfl⟩

theorem mem_push (h : Hub δ) (w : Work) {v : Work} (hv : v ∈ h.queue.items) :
    v ∈ (h.push w).2.queue.items := by
  rcases h.push_cases w with ⟨hitems, -⟩ | ⟨hitems, -⟩
  all_goals rw [hitems]
  · exact List.mem_append_left _ hv
  · exact hv

def pushAll (h : Hub δ) (j : Nat) (requests : List Request) : Hub δ :=
  requests.foldl (fun h request => (h.push (request.work j)).2) h

theorem buses_pushAll (h : Hub δ) (j : Nat) (requests : List Request) :
    (h.pushAll j requests).buses = h.buses := by
  induction requests generalizing h with
  | nil => rfl
  | cons request requests ih => exact (ih _).trans (h.push_eq _).1

theorem mem_pushAll (h : Hub δ) (j : Nat) (requests : List Request) {w : Work}
    (hw : w ∈ h.queue.items) : w ∈ (h.pushAll j requests).queue.items := by
  induction requests generalizing h with
  | nil => exact hw
  | cons request requests ih => exact ih _ (h.mem_push _ hw)

/-- If nothing is dropped, all that was asked for is in the queue. -/
theorem pushAll_cases (h : Hub δ) (j : Nat) (requests : List Request) :
    ∃ n ≤ requests.length, (h.pushAll j requests).queue.dropped = h.queue.dropped + UInt32.ofNat n ∧
      (n = 0 → ∀ request ∈ requests, request.work j ∈ (h.pushAll j requests).queue.items) := by
  induction requests generalizing h with
  | nil => exact ⟨0, Nat.le_refl _, (UInt32.add_zero _).symm, fun _ _ hr => nomatch hr⟩
  | cons request requests ih =>
    obtain ⟨n, hn, hdropped, hall⟩ := ih (h.push (request.work j)).2
    rcases h.push_cases (request.work j) with ⟨hitems, hsame⟩ | ⟨-, hmore⟩
    · refine ⟨n, Nat.le_succ_of_le hn, hdropped.trans (by rw [hsame]), fun hzero => ?_⟩
      refine List.forall_mem_cons.mpr ⟨mem_pushAll _ j requests ?_, hall hzero⟩
      rw [hitems]
      exact List.mem_append_right _ (List.mem_singleton.mpr rfl)
    · refine ⟨n + 1, Nat.succ_le_succ hn, hdropped.trans ?_, fun hzero => nomatch hzero⟩
      rw [hmore, Nat.add_comm, UInt32.ofNat_add, UInt32.add_assoc]
      rfl

theorem interrupt_eq {h : Hub Hardware} {b : Bus Hardware} (hb : h.buses[i]? = some b) :
    h.interrupt i = pushAll { h with buses := h.buses.set i b.handled } i b.requests := by
  rw [interrupt, hb]
  rfl

/-! ### Another try -/

theorem lasting_follows : Lasting fun b : Bus Hardware => ∃ d, b.Follows d where
  statistics := fun _ ⟨d, h⟩ => ⟨d, h.running, h.device, h.readings⟩
  poll := by
    rintro b ⟨d, h⟩
    refine ⟨d, h.running, ?_, h.readings⟩
    show (Device.poll b.name b.statistics b.device).device = _
    rw [h.device]
    rfl
  transmitDeferred := fun ⟨_, h⟩ => h.transmitDeferred.imp fun _ h => h.toFollows

theorem lasting_awake : Lasting fun b : Bus Hardware => ∃ d, b.Awake d where
  statistics := fun _ ⟨d, h⟩ => ⟨d, ⟨h.running, h.device, h.readings⟩, h.signals⟩
  poll := by
    rintro b ⟨d, h⟩
    refine ⟨d, ⟨h.running, ?_, h.readings⟩, h.signals⟩
    show (Device.poll b.name b.statistics b.device).device = _
    rw [h.device]
    rfl
  transmitDeferred := fun ⟨_, h⟩ => h.transmitDeferred

end Hub

/-- A hub, and whether its queue has dropped work. -/
structure Vigil where
  hub : Hub Hardware
  dropped : Bool := false

/-- What happens around the bus at one place of a hub. -/
inductive Happening where
  | turn (t : Turn)
  /-- A writer goes on that found the hardware busy before. -/
  | goOn (f : Frame) (patient : Bool) (ticket : Nat)
  | controller (e : Controller.Event)
  | handle (place : Nat)
  | dispatch
  /-- Work is done out of turn. -/
  | perform (w : Work)
  | push (w : Work)
  | incoming (f : Frame)
  /-- Something happens to the bus at another place. -/
  | elsewhere (place : Nat) (bus : Bus Hardware)
  /-- Something happens that concerns neither the buses nor the queue. -/
  | aside (hub : Hub Hardware)

namespace Vigil

/-- The hub that follows.  No step drops as much work as would make its count of dropped work turn
around. -/
def next (r : Vigil) (hub : Hub Hardware) : Vigil :=
  { hub, dropped := r.dropped || hub.queue.dropped ≠ r.hub.queue.dropped }

def happening (r : Vigil) (i : Nat) : Happening → Vigil
  | .turn t => r.next (r.hub.turn i t)
  | .goOn f patient ticket => r.next (r.hub.onBus i (·.deferOrWait f patient ticket)).2
  | .controller e => r.next (r.hub.alter i fun b => (b.onController (·.event e), []))
  | .handle place => r.next (r.hub.interrupt place)
  | .dispatch => r.next r.hub.dispatchNext
  | .perform w => r.next (r.hub.dispatch w)
  | .push w => r.next (r.hub.push w).2
  | .incoming f => r.next (r.hub.incoming f)
  | .elsewhere place bus =>
    if place = i then r else r.next { r.hub with buses := r.hub.buses.set place bus }
  | .aside hub => r.next { hub with buses := r.hub.buses, queue := r.hub.queue }

def happenings (r : Vigil) (i : Nat) (happenings : List Happening) : Vigil :=
  happenings.foldl (happening · i) r

/-- While no work was dropped, another try of the deferred frames is called for, by the controller or
in the queue. -/
structure Sound (r : Vigil) (i : Nat) : Prop where
  follows : r.hub.Has i fun b => ∃ d, b.Follows d
  awake : r.dropped = false →
    r.hub.Has i (fun b => ∃ d, b.Awake d) ∨ .transmit i ∈ r.hub.queue.items

namespace Sound

variable {r : Vigil} {i : Nat} {hub : Hub Hardware}

theorem next (h : r.Sound i) (hfollows : hub.Has i fun b => ∃ d, b.Follows d)
    (hawake : hub.queue.dropped = r.hub.queue.dropped →
      r.hub.Has i (fun b => ∃ d, b.Awake d) ∨ .transmit i ∈ r.hub.queue.items →
      hub.Has i (fun b => ∃ d, b.Awake d) ∨ .transmit i ∈ hub.queue.items) :
    (r.next hub).Sound i := by
  refine ⟨hfollows, fun hdropped => ?_⟩
  obtain ⟨hbefore, hsame⟩ := Bool.or_eq_false_iff.mp hdropped
  exact hawake (not_not.mp (of_decide_eq_false hsame)) (h.awake hbefore)

/-- A step keeps the call where it is, or in the queue. -/
theorem nextQueue (h : r.Sound i) (hfollows : hub.Has i fun b => ∃ d, b.Follows d)
    (hawake : r.hub.Has i (fun b => ∃ d, b.Awake d) → hub.Has i fun b => ∃ d, b.Awake d)
    (hitems : ∀ w ∈ r.hub.queue.items, w ∈ hub.queue.items) : (r.next hub).Sound i :=
  h.next hfollows fun _ => Or.imp hawake (hitems _)

theorem dispatch (h : r.Sound i) (w : Work) {items : List Work}
    (hitems : ∀ v ∈ r.hub.queue.items, v = w ∨ v ∈ items) :
    (r.next (Hub.dispatch { r.hub with queue.items := items } w)).Sound i := by
  have hbefore : ∀ {P : Bus Hardware → Prop}, r.hub.Has i P →
      Hub.Has { r.hub with queue.items := items } i P := fun hP => hP.ofBuses rfl
  refine h.next ((hbefore h.follows).dispatch Hub.lasting_follows w) fun _ hcall => ?_
  rcases hcall with hawake | hqueued
  · exact .inl ((hbefore hawake).dispatch Hub.lasting_awake w)
  rcases hitems _ hqueued with rfl | hlater
  · -- The call is answered.
    exact .inl ((hbefore h.follows).alter_self fun _ ⟨_, hb⟩ => hb.transmitDeferred)
  · refine .inr ?_
    rw [Hub.queue_dispatch]
    exact hlater

theorem handle (h : r.Sound i) (place : Nat) : (r.next (r.hub.interrupt place)).Sound i := by
  cases hplace : r.hub.buses[place]? with
  | none =>
    have hsame : r.hub.interrupt place = r.hub := by
      rw [Hub.interrupt, hplace]
    rw [hsame]
    exact h.nextQueue h.follows id fun _ => id
  | some b =>
    rw [Hub.interrupt_eq hplace]
    let served : Hub Hardware := { r.hub with buses := r.hub.buses.set place b.handled }
    have hbuses := served.buses_pushAll place b.requests
    have hkept : ∀ w ∈ r.hub.queue.items, w ∈ (served.pushAll place b.requests).queue.items :=
      fun w hw => served.mem_pushAll place b.requests hw
    by_cases hi : place = i
    · subst hi
      have hown : ∀ {P : Bus Hardware → Prop}, r.hub.Has place P → P b := by
        rintro P ⟨b', hb', hP⟩
        rwa [Option.some.inj (hplace.symm.trans hb')]
      obtain ⟨d, hd⟩ := hown h.follows
      obtain ⟨hfollows, hlength⟩ := hd.handled
      refine h.next ((Hub.Has.set_self hplace hfollows).ofBuses hbuses) fun hsame hcall => ?_
      rcases hcall with hawake | hqueued
      · obtain ⟨d', hd'⟩ := hown hawake
        rcases hd'.handled with hawake' | hasked
        · exact .inl ((Hub.Has.set_self hplace hawake').ofBuses hbuses)
        · -- Nothing was dropped, so the call is in the queue now.
          obtain ⟨n, hn, hdropped, hall⟩ := served.pushAll_cases place b.requests
          have hzero : UInt32.ofNat n = 0 := UInt32.left_eq_add.mp (hsame.symm.trans hdropped)
          have hn' : n % 2 ^ 32 = 0 := congrArg UInt32.toNat hzero
          rw [Nat.mod_eq_of_lt (by omega)] at hn'
          exact .inr (hall hn' .transmit hasked)
      · exact .inr (hkept _ hqueued)
    · exact h.nextQueue ((h.follows.set_of_ne hi _).ofBuses hbuses)
        (fun hawake => (hawake.set_of_ne hi _).ofBuses hbuses) hkept

theorem happening (h : r.Sound i) (e : Happening) : (r.happening i e).Sound i := by
  cases e with
  | turn t =>
    have hqueue := r.hub.queue_turn i t
    refine h.nextQueue (h.follows.turn fun b ⟨d, hb⟩ => ?_)
      (fun hawake => hawake.turn fun b ⟨d, hb⟩ => hb.turn t) fun w hw => by rwa [hqueue]
    exact hb.transmits fun hP => Bus.transmits_turn hP b t
  | goOn f patient ticket =>
    refine h.nextQueue (h.follows.onBus_self fun b ⟨d, hb⟩ => ?_)
      (fun hawake => hawake.onBus_self fun b ⟨d, hb⟩ => hb.deferOrWait f patient ticket)
      fun w hw => ?_
    · exact hb.transmits fun hP => Bus.transmits_deferOrWait hP b f patient ticket
    · rw [Hub.onBus_snd, (r.hub.alter_unchanged i _).1]
      exact hw
  | controller e =>
    refine h.nextQueue (h.follows.alter_self fun b ⟨d, hb⟩ => ?_)
      (fun hawake => hawake.alter_self fun b ⟨d, hb⟩ => hb.event e) fun w hw => ?_
    · rw [Bus.onController, hb.device]
      exact ⟨_, hb.running, rfl, hb.readings⟩
    · rw [(r.hub.alter_unchanged i _).1]
      exact hw
  | handle place => exact h.handle place
  | dispatch =>
    rw [Vigil.happening, Hub.dispatchNext]
    split
    · next w rest hitems =>
      exact h.dispatch w fun v hv => List.mem_cons.mp (hitems ▸ hv)
    · exact h.nextQueue h.follows id fun _ => id
  | perform w => exact h.dispatch w fun _ hv => .inr hv
  | push w =>
    obtain ⟨hbuses, -⟩ := r.hub.push_eq w
    exact h.nextQueue (h.follows.ofBuses hbuses) (·.ofBuses hbuses) fun _ hv => r.hub.mem_push w hv
  | incoming f =>
    refine h.nextQueue (h.follows.incoming Hub.lasting_follows.statistics f)
      (·.incoming Hub.lasting_awake.statistics f) fun w hw => ?_
    rw [(r.hub.onlyRecords_incoming f).queue]
    exact (r.hub.counted_unchanged f).1 ▸ hw
  | elsewhere place bus =>
    rw [Vigil.happening]
    split
    · exact h
    · next hplace =>
      exact h.nextQueue (h.follows.set_of_ne hplace bus) (·.set_of_ne hplace bus) fun _ => id
  | aside hub => exact h.nextQueue (h.follows.ofBuses rfl) (·.ofBuses rfl) fun _ => id

theorem happenings (h : r.Sound i) (es : List Happening) : (r.happenings i es).Sound i := by
  induction es generalizing r with
  | nil => exact h
  | cons e es ih => exact ih (h.happening e)

end Sound

theorem sound_started {h : Hub Hardware} {i : Nat} {b : Bus Hardware} {d : OnChip} {setup : Setup}
    (hbus : h.buses[i]? = some b) (hdevice : b.device = .onChip d) (hreadings : d.freeReadings = [])
    (hdeferred : b.deferred.frames = [])
    (hstart : (h.onBus i (·.start setup)).1 = some (.ok ())) :
    Sound { hub := (h.onBus i (·.start setup)).2 } i := by
  rw [Hub.onBus_eq hbus] at hstart ⊢
  have hok : (b.start setup).result = .ok () := Option.some.inj hstart
  obtain ⟨-, -, hdevice', -, -⟩ := b.start_eq setup
  have hpower := b.power_start setup
  rw [hok] at hpower
  have hfollows : (b.start setup).bus.Follows (Device.start setup d).2 := by
    refine ⟨decide_eq_true hpower, ?_, (d.freeReadings_start setup).trans hreadings⟩
    rw [hdevice', hdevice]
    rfl
  have hawake : (b.start setup).bus.Awake (Device.start setup d).2 := by
    refine ⟨hfollows, .inl ?_⟩
    rw [b.deferred_start setup, hdeferred]
  have hbuses := (h.onlyRecords_settle i ((b.start setup).bus, (b.start setup).effects)).buses
  exact ⟨(Hub.Has.set_self hbus ⟨_, hfollows⟩).ofBuses hbuses,
    fun _ => .inl ((Hub.Has.set_self hbus ⟨_, hawake⟩).ofBuses hbuses)⟩

/-- From a start of the bus on that succeeds, while no frame was deferred, and whatever happens as long
as the bus is not started again or stopped: if the queue has not dropped any work, and some frame is
deferred, then the transmit buffer is occupied, or the transmit interrupt is latched, or a drain of the
deferred frames waits in the queue. -/
theorem awake_happenings {h : Hub Hardware} {i : Nat} {b : Bus Hardware} {d : OnChip}
    (setup : Setup) (hbus : h.buses[i]? = some b) (hdevice : b.device = .onChip d)
    (hreadings : d.freeReadings = []) (hdeferred : b.deferred.frames = [])
    (hstart : (h.onBus i (·.start setup)).1 = some (.ok ())) (es : List Happening) :
    let r := ({ hub := (h.onBus i (·.start setup)).2 } : Vigil).happenings i es
    ∃ b' d', r.hub.buses[i]? = some b' ∧ b'.device = .onChip d' ∧
      (r.dropped = false → b'.deferred.frames ≠ [] →
        d'.controller.pending.isSome = true ∨ d'.controller.interrupts &&& Irq.transmit ≠ 0 ∨
        .transmit i ∈ r.hub.queue.items) := by
  intro r
  have hr : r.Sound i := (sound_started hbus hdevice hreadings hdeferred hstart).happenings es
  obtain ⟨b', hb', d', hd'⟩ := hr.follows
  refine ⟨b', d', hb', hd'.device, fun hdropped hframes => ?_⟩
  rcases hr.awake hdropped with ⟨b'', hb'', d'', hd''⟩ | hqueued
  · obtain rfl : b'' = b' := Option.some.inj (hb''.symm.trans hb')
    obtain rfl : d'' = d' := Hardware.onChip.inj (hd''.device.symm.trans hd'.device)
    rcases hd''.signals.resolve_left hframes with hoccupied | hlatched
    · exact .inl hoccupied
    · exact .inr (.inl hlatched)
  · exact .inr (.inr hqueued)

/-- A frame is deferred while another one occupies the transmit buffer.  After the completion and the
handler the call for another try waits in the queue. -/
theorem awake_happenings_of_completion :
    let f (id : UInt32) (h : id ≤ 0x7ff) : Frame := ⟨none, id, .standard, [7], h, by decide⟩
    let f₁ := f 1 (by decide)
    let f₂ := f 2 (by decide)
    let h : Hub Hardware := { buses := [{ name := .numbered 1, device := .onChip {} }] }
    let setup : Setup := ⟨.active, .kbps500⟩
    let es : List Happening :=
      [.controller (.hold true), .turn (.write f₁ false 0), .turn (.write f₂ false 0),
        .controller .complete, .handle 0]
    let r := ({ hub := (h.onBus 0 (·.start setup)).2 } : Vigil).happenings 0 es
    r.dropped = false ∧ r.hub.queue.items = [.transmit 0] ∧
      ∃ b d, r.hub.buses[0]? = some b ∧ b.device = .onChip d ∧
        b.deferred.frames = [f₂.withOrigin (.numbered 1)] ∧
        (d.controller.pending.isSome = true ∨ d.controller.interrupts &&& Irq.transmit ≠ 0 ∨
          .transmit 0 ∈ r.hub.queue.items) := by
  intro f f₁ f₂ h setup es
  have hstart : (h.onBus 0 (·.start setup)).1 = some (.ok ()) := by decide +kernel
  obtain ⟨b, d, hb, hd, hcall⟩ := awake_happenings (h := h) (i := 0) setup rfl rfl rfl rfl hstart es
  have hdropped : (happenings { hub := (h.onBus 0 (·.start setup)).2 } 0 es).dropped = false := by
    decide +kernel
  have hframes : ((happenings { hub := (h.onBus 0 (·.start setup)).2 } 0 es).hub.buses[0]?.map
      fun b => b.deferred.frames) = some [f₂.withOrigin (.numbered 1)] := by
    decide +kernel
  rw [hb] at hframes
  have hb' : b.deferred.frames = [f₂.withOrigin (.numbered 1)] := Option.some.inj hframes
  refine ⟨hdropped, by decide +kernel, b, d, hb, hd, hb', hcall hdropped ?_⟩
  rw [hb']
  exact List.cons_ne_nil _ _

end Vigil
end Fieldbus
