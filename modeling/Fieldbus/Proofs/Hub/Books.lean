import Fieldbus.Hub.Operator
import Fieldbus.Proofs.Hub.Accounts

/-! Counters, answers and log of a bus tell the same, whatever happens at its hub
(`Books.agree_events`).  The books are a hub, and the account of the bus at one of its places.  A step of
the hub either is a turn of that bus, or it starts or halts it, or it is quiet as far as the traffic of
that bus goes. -/

namespace Fieldbus
namespace Hub

variable {δ : Type} {h : Hub Hardware} {i j : Nat} {b b' : Bus Hardware}

/-- What may happen at a hub with its active logger.  Writers take turns with everything else where
they wait, and the devices may change as they like in between. -/
inductive Event where
  | turn (place : Nat) (t : Turn)
  | incoming (f : Frame)
  | dispatch (w : Work)
  | start (place : Nat) (setup : Setup)
  | stop (place : Nat)
  | setPower (place : Nat) (power : Power)
  | transmit (bus : String) (id : UInt32) (extended : Bool) (data : List UInt8)
  | inject (bus : String) (id : UInt32) (extended : Bool) (data : List UInt8)
  | interrupt (place : Nat)
  | device (place : Nat) (device : Hardware)
  | report (place : Nat) (kind : StatusKind)
  | remark (origin : Option BusName) (kind : RemarkKind) (text : String)
  | push (w : Work)
  /-- Something happens that concerns neither the buses nor the log. -/
  | aside (queue : WorkQueue) (listeners : Listeners) (clock : Timestamp)

def event (h : Hub Hardware) : Event → Hub Hardware
  | .turn place t => h.turn place t
  | .incoming f => h.incoming f
  | .dispatch w => h.dispatch w
  | .start place setup => (h.onBus place (·.start setup)).2
  | .stop place => (h.onBus place Bus.stop).2
  | .setPower place power => (h.onBus place (·.setPower power)).2
  | .transmit bus id extended data => (h.transmit bus id extended data).2
  | .inject bus id extended data => (h.inject bus id extended data).2
  | .interrupt place => h.interrupt place
  | .device place device => h.alter place fun b => ({ b with device }, [])
  | .report place kind => h.alter place (·.reportStatus kind)
  | .remark origin kind text => h.record origin (.remark kind text)
  | .push w => (h.push w).2
  | .aside queue listeners clock => { h with queue, listeners, clock }

/-- The write that a request to transmit a frame comes to, by the place of its bus. -/
def writes? (h : Hub δ) (bus : String) (id : UInt32) (extended : Bool) (data : List UInt8) :
    Option (Nat × Frame) :=
  match h.findBus? bus with
  | some place =>
    match h.buses[place]? with
    | some b =>
      if b.isRunning then
        (Frame.make none id (formatOf extended) data).toOption.map fun f => (place, f)
      else none
    | none => none
  | none => none

/-- A poll of the bus at a place, up to the try of its deferred frames. -/
def fetched (h : Hub Hardware) (place : Nat) : Hub Hardware :=
  (h.pollFrames place (h.backlog place + 1)).reportNotedErrors place

theorem turn_eq (h : Hub Hardware) (place : Nat) (t : Turn) :
    h.turn place t = h.alter place fun b => ((b.act t).bus, (b.act t).effects) := by
  cases t with
  | transmitDeferred => rfl
  | _ => exact onBus_snd h place _

theorem transmit_snd (h : Hub Hardware) (bus : String) (id : UInt32) (extended : Bool)
    (data : List UInt8) :
    (h.transmit bus id extended data).2
      = match h.writes? bus id extended data with
        | some (place, f) => h.turn place (.write f false 0)
        | none => h := by
  rw [transmit, withRunningBus, withBus, writes?]
  cases h.findBus? bus with
  | none => rfl
  | some place =>
    dsimp only
    cases h.buses[place]? with
    | none => rfl
    | some b =>
      dsimp only
      cases b.isRunning with
      | false => rfl
      | true =>
        cases Frame.make none id (formatOf extended) data with
        | error e => rfl
        | ok f =>
          simp only [reduceIte, attempt, turn, Except.toOption, Option.map_some]
          rcases h.onBus place (·.write f false 0) with ⟨_ | _ | (_ | _ | _) | _, h'⟩ <;> rfl

theorem inject_snd (h : Hub Hardware) (bus : String) (id : UInt32) (extended : Bool)
    (data : List UInt8) :
    (h.inject bus id extended data).2 = h ∨
      ∃ f, (h.inject bus id extended data).2 = h.incoming f := by
  rw [inject, withRunningBus, withBus]
  split
  · split
    · split
      · split
        · exact .inr ⟨_, rfl⟩
        · exact .inl rfl
      · exact .inl rfl
    · exact .inl rfl
  · exact .inl rfl

theorem quiet_fetched (hregular : h.Regular) (hb : h.buses[i]? = some b) (place : Nat) :
    Quiet i h (h.fetched place) :=
  (quiet_pollFrames hregular hb place _).andThen fun _ hregular' hb' =>
    quiet_reportNotedErrors hregular' hb' place

theorem quiet_onBus_of_ne {α : Type} (hregular : h.Regular) (hb : h.buses[i]? = some b) (hj : j ≠ i)
    {operation : Bus Hardware → Outcome Hardware α}
    (hmute : ∀ b : Bus Hardware, b.Mute (operation b).bus (operation b).effects) :
    Quiet i h (h.onBus j operation).2 := by
  rw [onBus_snd, alter]
  split
  · next bⱼ hbⱼ =>
    obtain ⟨hname, howned, huntold⟩ := hmute bⱼ
    have hframe := Effect.frame?_of_untold huntold h.clock
    exact quiet_settle_of_ne hregular hb hbⱼ hj hname
      (howned (hregular.owned bⱼ (List.mem_of_getElem? hbⱼ))) (fun e he => (huntold e he).plain)
      fun m hm => .inr (hframe m hm)
  · exact .refl hregular hb

theorem quiet_turn_of_ne (hregular : h.Regular) (hb : h.buses[i]? = some b) (hj : j ≠ i)
    (t : Turn) :
    Quiet i h (h.turn j t) := by
  rw [turn_eq, alter]
  split
  · next bⱼ hbⱼ =>
    obtain ⟨written, htold⟩ := bⱼ.told_act (hregular.owned bⱼ (List.mem_of_getElem? hbⱼ)) t
    refine quiet_settle_of_ne hregular hb hbⱼ hj
      htold.name htold.owned htold.plain fun m hm => .inl ?_
    rw [htold.messages] at hm
    obtain ⟨x, hx, rfl⟩ := List.mem_map.mp hm
    exact htold.origin x hx
  · exact .refl hregular hb

end Hub

/-! ### Books -/

/-- Something happens at a place, which may be the one of the bus whose account is kept. -/
def Account.atPlace (a : Account) (i : Nat) (h : Hub Hardware) (place : Nat)
    (kept : Bus Hardware → Account) : Account :=
  if place = i then ((h.buses[i]?).map kept).getD a else a

def Account.atTurn (a : Account) (i : Nat) (h : Hub Hardware) (place : Nat) (t : Turn) : Account :=
  a.atPlace i h place fun b => a.turn b t h.log (h.turn place t).log

def Account.halt (a : Account) (b : Bus Hardware) (power : Power) : Account :=
  match (b.halt power).result with
  | .ok () => a.discard
  | .error _ => a

/-- The power of the bus is changed.  A start that is tried begins its statistics anew. -/
def Account.power (a : Account) (b : Bus Hardware) (log : List Message) : Power → Account
  | .on => if b.setup.isSome && !b.isRunning then a.reset log else a
  | power => a.halt b power

/-- A hub, and the account of the bus at one place. -/
structure Books where
  hub : Hub Hardware
  account : Account := {}

namespace Books

def accountAfter (r : Books) (i : Nat) : Hub.Event → Account
  | .turn place t => r.account.atTurn i r.hub place t
  | .dispatch (.poll place) => r.account.atTurn i (r.hub.fetched place) place .transmitDeferred
  | .dispatch (.transmit place) => r.account.atTurn i r.hub place .transmitDeferred
  | .start place _ => r.account.atPlace i r.hub place fun _ => r.account.reset r.hub.log
  | .stop place => r.account.atPlace i r.hub place (r.account.power · r.hub.log .off)
  | .setPower place power => r.account.atPlace i r.hub place (r.account.power · r.hub.log power)
  | .transmit bus id extended data =>
    match r.hub.writes? bus id extended data with
    | some (place, f) => r.account.atTurn i r.hub place (.write f false 0)
    | none => r.account
  | _ => r.account

def event (r : Books) (i : Nat) (e : Hub.Event) : Books := ⟨r.hub.event e, r.accountAfter i e⟩

def events (r : Books) (i : Nat) (es : List Hub.Event) : Books := es.foldl (event · i) r

theorem hub_events (r : Books) (i : Nat) (es : List Hub.Event) :
    (r.events i es).hub = es.foldl Hub.event r.hub := by
  induction es generalizing r with
  | nil => rfl
  | cons e es ih => exact ih (r.event i e)

/-- Log, counters and account agree about the bus at a place. -/
structure Sound (r : Books) (i : Nat) (name : BusName) : Prop where
  regular : r.hub.Regular
  bus : ∃ b, r.hub.buses[i]? = some b ∧ b.name = name ∧ r.account.Sound r.hub.log b

namespace Sound

variable {r : Books} {i j : Nat} {name : BusName} {h' : Hub Hardware} {b b' : Bus Hardware}

theorem at_bus (h : r.Sound i name) (hb : r.hub.buses[i]? = some b) :
    b.name = name ∧ r.account.Sound r.hub.log b := by
  obtain ⟨b', hb', hname, hsound⟩ := h.bus
  obtain rfl : b' = b := Option.some.inj (hb'.symm.trans hb)
  exact ⟨hname, hsound⟩

theorem quiet (h : r.Sound i name)
    (hquiet : ∀ b, r.hub.buses[i]? = some b → Hub.Quiet i r.hub h') :
    Sound ⟨h', r.account⟩ i name := by
  obtain ⟨_, hbus, -⟩ := h.bus
  obtain ⟨hregular, messages, b, b', hlog, hb, hb', hname', hframes, hcounts, hentries⟩ :=
    hquiet _ hbus
  obtain ⟨hname, hsound⟩ := h.at_bus hb
  refine ⟨hregular, b', hb', hname'.trans hname, ?_⟩
  show r.account.Sound h'.log b'
  rw [hlog]
  exact hsound.quiet hname' hframes hcounts hentries

theorem atPlace (h : r.Sound i name) {kept : Bus Hardware → Account}
    (hself : ∀ b, r.hub.buses[i]? = some b → j = i → Sound ⟨h', kept b⟩ i name)
    (hother : ∀ b, r.hub.buses[i]? = some b → j ≠ i → Hub.Quiet i r.hub h') :
    Sound ⟨h', r.account.atPlace i r.hub j kept⟩ i name := by
  rw [Account.atPlace]
  split
  · next hj =>
    obtain ⟨b, hb, -⟩ := h.bus
    rw [hb]
    exact hself b hb hj
  · next hj => exact h.quiet fun b hb => hother b hb hj

theorem turn_self (h : r.Sound i name) (hb : r.hub.buses[i]? = some b) (t : Turn) :
    Sound ⟨r.hub.turn i t, r.account.turn b t r.hub.log (r.hub.turn i t).log⟩ i name := by
  obtain ⟨hname, hsound⟩ := h.at_bus hb
  obtain ⟨written, htold⟩ := b.told_act (h.regular.owned b (List.mem_of_getElem? hb)) t
  have hturn : r.hub.turn i t = r.hub.settle i ((b.act t).bus, (b.act t).effects) := by
    rw [Hub.turn_eq, Hub.alter_eq hb]
  have hlog := ((r.hub.hands_settle i (b.act t).bus htold.plain).logs h.regular.records).log
  rw [htold.messages] at hlog
  rw [hturn]
  refine ⟨Hub.regular_settle h.regular hb htold.name htold.owned htold.plain, (b.act t).bus,
    Hub.buses_settle_self hb, htold.name.trans hname, ?_⟩
  dsimp only
  rw [hlog]
  exact hsound.turn htold r.hub.clock

theorem turn (h : r.Sound i name) (j : Nat) (t : Turn) :
    Sound ⟨r.hub.turn j t, r.account.atTurn i r.hub j t⟩ i name :=
  h.atPlace (fun _ hb hj => hj ▸ h.turn_self hb t) fun _ hb hj =>
    Hub.quiet_turn_of_ne h.regular hb hj t

/-- A step of the bus that records no frame, by what it does to the account. -/
theorem mute (h : r.Sound i name) (hb : r.hub.buses[i]? = some b) {a : Account}
    {effects : List Effect} (hmute : b.Mute b' effects)
    (hsound : ∀ messages, (∀ direction, entries messages b.name direction = 0) →
      r.account.Sound r.hub.log b → a.Sound (r.hub.log ++ messages) b') :
    Sound ⟨r.hub.settle i (b', effects), a⟩ i name := by
  obtain ⟨hname, hkept⟩ := h.at_bus hb
  have howned := hmute.owned (h.regular.owned b (List.mem_of_getElem? hb))
  have hplain : ∀ e ∈ effects, e.Plain := fun e he => (hmute.untold e he).plain
  refine ⟨Hub.regular_settle h.regular hb hmute.name howned hplain, b', Hub.buses_settle_self hb,
    hmute.name.trans hname, ?_⟩
  dsimp only
  rw [((r.hub.hands_settle i b' hplain).logs h.regular.records).log]
  have hframe := Effect.frame?_of_untold hmute.untold r.hub.clock
  exact hsound _ (fun direction => entries_eq_zero fun m hm =>
    Message.tells_of_no_frame (hframe m hm) _ _) hkept

theorem start_self (h : r.Sound i name) (hb : r.hub.buses[i]? = some b) (setup : Setup) :
    Sound ⟨r.hub.settle i ((b.start setup).bus, (b.start setup).effects),
      r.account.reset r.hub.log⟩ i name := by
  obtain ⟨-, hname, -, hstatistics, hdeferred⟩ := b.start_eq setup
  refine h.mute hb (b.mute_start setup) fun messages hmessages hsound => ?_
  refine hsound.reset hname (by rw [hdeferred]) (fun direction => ?_) hmessages
  rw [hstatistics]
  cases direction <;> rfl

theorem halt_self (h : r.Sound i name) (hb : r.hub.buses[i]? = some b) (power : Power) :
    Sound ⟨r.hub.settle i ((b.halt power).bus, (b.halt power).effects), r.account.halt b power⟩
      i name := by
  obtain ⟨-, hname, -, hstatistics⟩ := b.halt_eq power
  have hdeferred : (b.halt power).bus.deferred = _ := congrArg Prod.snd (b.deferred_halt power)
  refine h.mute hb (b.mute_halt power) fun messages hmessages hsound => ?_
  rw [Account.halt]
  cases hresult : (b.halt power).result with
  | ok =>
    rw [hresult, Except.toBool, if_pos rfl] at hdeferred
    refine hsound.discard hname ?_ (by rw [hstatistics]) hmessages
    rw [hdeferred, Deferred.frames_clear]
  | error e =>
    rw [hresult, Except.toBool, if_neg Bool.false_ne_true] at hdeferred
    refine hsound.quiet hname (by rw [hdeferred]) (fun direction => ?_) fun _ _ => hmessages _
    rw [hstatistics, hmessages]
    exact (UInt32.add_zero _).symm

theorem power_self (h : r.Sound i name) (hb : r.hub.buses[i]? = some b) (power : Power) :
    Sound ⟨r.hub.settle i ((b.setPower power).bus, (b.setPower power).effects),
      r.account.power b r.hub.log power⟩ i name := by
  have hsame : Sound ⟨r.hub.settle i (b, []), r.account⟩ i name :=
    h.quiet fun b' hb' => Hub.quiet_settle h.regular hb' hb (.ofStatistics b rfl)
  cases power with
  | on =>
    rw [Bus.setPower, Account.power]
    cases b.setup with
    | none => exact hsame
    | some setup =>
      cases hrunning : b.isRunning with
      | true => exact hsame
      | false => exact h.start_self hb setup
  | sleep => exact h.halt_self hb .sleep
  | deepSleep => exact h.halt_self hb .deepSleep
  | off => exact h.halt_self hb .off

theorem setPower (h : r.Sound i name) (j : Nat) (power : Power) :
    Sound ⟨(r.hub.onBus j (·.setPower power)).2,
      r.account.atPlace i r.hub j (r.account.power · r.hub.log power)⟩ i name := by
  refine h.atPlace (fun b hb hj => ?_) fun b hb hj =>
    Hub.quiet_onBus_of_ne h.regular hb hj fun b => b.mute_setPower power
  subst hj
  rw [Hub.onBus_eq hb]
  exact h.power_self hb power

theorem start (h : r.Sound i name) (j : Nat) (setup : Setup) :
    Sound ⟨(r.hub.onBus j (·.start setup)).2,
      r.account.atPlace i r.hub j fun _ => r.account.reset r.hub.log⟩ i name := by
  refine h.atPlace (fun b hb hj => ?_) fun b hb hj =>
    Hub.quiet_onBus_of_ne h.regular hb hj fun b => b.mute_start setup
  subst hj
  rw [Hub.onBus_eq hb]
  exact h.start_self hb setup

theorem event (h : r.Sound i name) (e : Hub.Event) : (r.event i e).Sound i name := by
  cases e with
  | turn place t => exact h.turn place t
  | incoming f => exact h.quiet fun b hb => Hub.quiet_incoming h.regular hb f
  | dispatch w =>
    cases w with
    | frame f => exact h.quiet fun b hb => Hub.quiet_incoming h.regular hb f
    | poll place =>
      have hfetched : Sound ⟨r.hub.fetched place, r.account⟩ i name :=
        h.quiet fun b hb => Hub.quiet_fetched h.regular hb place
      exact hfetched.turn place .transmitDeferred
    | transmit place => exact h.turn place .transmitDeferred
    | reportErrors place => exact h.quiet fun b hb => Hub.quiet_reportErrors h.regular hb place
  | start place setup => exact h.start place setup
  | stop place => exact h.setPower place .off
  | setPower place power => exact h.setPower place power
  | transmit bus id extended data =>
    rw [Books.event, Hub.event, Hub.transmit_snd, accountAfter]
    split
    · next place f _ => exact h.turn place (.write f false 0)
    · exact h
  | inject bus id extended data =>
    refine h.quiet fun b hb => ?_
    rw [Hub.event]
    rcases r.hub.inject_snd bus id extended data with heq | ⟨f, heq⟩
    · rw [heq]
      exact .refl h.regular hb
    · rw [heq]
      exact Hub.quiet_incoming h.regular hb f
  | interrupt place => exact h.quiet fun b hb => Hub.quiet_interrupt h.regular hb place
  | device place device =>
    exact h.quiet fun b hb => Hub.quiet_alter h.regular hb place fun b => .ofStatistics b rfl
  | report place kind =>
    exact h.quiet fun b hb => Hub.quiet_alter h.regular hb place (Bus.silent_reportStatus · kind)
  | remark origin kind text =>
    refine h.quiet fun b hb => ?_
    have hlogs := (r.hub.hands_record origin (.remark kind text)).logs h.regular.records
    refine .ofBuses h.regular hb (r.hub.onlyRecords_record _ _).buses hlogs.records hlogs.log ?_
    exact List.forall_mem_singleton.mpr rfl
  | push w =>
    refine h.quiet fun b hb => ?_
    have hlogs := (r.hub.hands_push w).logs h.regular.records
    exact .ofBuses h.regular hb (r.hub.push_eq w).1 hlogs.records hlogs.log fun _ hm =>
      absurd hm List.not_mem_nil
  | aside queue listeners clock =>
    refine h.quiet fun b hb => ?_
    exact .ofBuses h.regular hb rfl h.regular.records (List.append_nil _).symm fun _ hm =>
      absurd hm List.not_mem_nil

theorem events (h : r.Sound i name) (es : List Hub.Event) : (r.events i es).Sound i name := by
  induction es generalizing r with
  | nil => exact h
  | cons e es ih => exact ih (h.event e)

end Sound

/-- Nothing has happened yet. -/
def opened (h : Hub Hardware) : Books := { hub := h, account := { since := h.log.length } }

/-- A write that is answered with an error changes neither the account, nor the log, nor a counter. -/
theorem write_error {r : Books} {i place ticket : Nat} {f : Frame} {patient : Bool}
    {e : DeviceError} (hregular : r.hub.Regular)
    (herror : (r.hub.onBus place (·.write f patient ticket)).1 = some (.error e)) :
    let r' := r.event i (.turn place (.write f patient ticket))
    r'.account = r.account ∧ r'.hub.log = r.hub.log ∧
      r'.hub.buses.map Bus.statistics = r.hub.buses.map Bus.statistics := by
  intro r'
  cases hb : r.hub.buses[place]? with
  | none =>
    rw [Hub.onBus, hb] at herror
    cases herror
  | some b =>
    rw [Hub.onBus_eq hb] at herror
    have hresult := Option.some.inj herror
    obtain ⟨device, hbus, heffects⟩ := Bus.write_error hresult
    have hact : b.act (.write f patient ticket) = ⟨none, { b with device }, []⟩ := by
      rw [Bus.act, Bus.act.answered, hresult, hbus, heffects]
    have hhub : r'.hub = { r.hub with buses := r.hub.buses.set place { b with device } } := by
      show r.hub.turn place (.write f patient ticket) = _
      rw [Hub.turn_eq, Hub.alter_eq hb, hact]
      rfl
    have hlog : r'.hub.log = r.hub.log := by
      rw [hhub]
      rfl
    refine ⟨?_, hlog, ?_⟩
    · show r.account.atTurn i r.hub place (.write f patient ticket) = _
      rw [Account.atTurn, Account.atPlace]
      split
      · next hplace =>
        rw [← hplace, hb, show (r.hub.turn place _).log = _ from hlog]
        have howned := hregular.owned b (List.mem_of_getElem? hb)
        exact Account.turn_eq_self howned (by rw [hact]) _ _
      · rfl
    · obtain ⟨hlength, rfl⟩ := List.getElem?_eq_some_iff.mp hb
      have hlength' : place < (r.hub.buses.map Bus.statistics).length := by rwa [List.length_map]
      have hget : r.hub.buses[place].statistics = (r.hub.buses.map Bus.statistics)[place] :=
        (List.getElem_map _).symm
      rw [hhub, List.map_set]
      dsimp only
      rw [hget, List.set_getElem_self]

/-- Counters, answers and log tell the same about a bus.  The buses have different names, the active
logger records every entry, and no frame is deferred at first.  Then, whatever happens: since the
statistics of the bus began anew, it counts each frame that it records, up to the width of its
counters.  The frames recorded as sent are those that were answered with that and the deferred ones
that the device accepted; those recorded as deferred are those that were answered with that; and those
recorded as failed are those that were rejected and the deferred ones that the device was handed in
vain.  Each deferred frame that the device was handed was recorded as deferred before.  A write that
is answered with an error changes nothing of this. -/
theorem agree_events {h : Hub Hardware} {i : Nat} {b : Bus Hardware} (hrecords : h.Records)
    (hnames : h.names.Nodup) (hdeferred : ∀ b ∈ h.buses, b.deferred = {})
    (hbus : h.buses[i]? = some b) (hcounters : b.statistics.counters = {}) (es : List Hub.Event) :
    let r := (opened h).events i es
    let a := r.account
    let told := entries (r.hub.log.drop a.since) b.name
    r.hub = es.foldl Hub.event h ∧
    (∃ b', r.hub.buses[i]? = some b' ∧ b'.name = b.name ∧
      let c := b'.statistics.counters
      (c.sent = .ofNat (told .sent) ∧ told .sent = a.sent + a.accepted) ∧
      (c.delayed = .ofNat (told .deferred) ∧ told .deferred = a.queued) ∧
      (c.transmitOverflow = .ofNat (told .failed) ∧ told .failed = a.rejected + a.givenUp) ∧
      c.received = .ofNat (told .received)) ∧
    (a.line.passed.length = a.accepted + a.givenUp ∧
      (a.line.passed.map Prod.fst).Pairwise (· < ·) ∧
      (a.line.passed.map Prod.snd).Pairwise (· < ·) ∧
      ∀ x ∈ a.line.passed, x.1 < x.2 ∧ ∃ f direction, (direction = .sent ∨ direction = .failed) ∧
        Recorded r.hub.log x.1 b.name .deferred f ∧ Recorded r.hub.log x.2 b.name direction f) ∧
    ∀ place f patient ticket e,
      (r.hub.onBus place (·.write f patient ticket)).1 = some (.error e) →
      let r' := r.event i (.turn place (.write f patient ticket))
      r'.account = a ∧ r'.hub.log = r.hub.log ∧
        r'.hub.buses.map Bus.statistics = r.hub.buses.map Bus.statistics := by
  intro r a told
  have howned : ∀ b ∈ h.buses, b.deferred.Of b.name := by
    intro b hb
    rw [hdeferred b hb]
    exact ⟨fun _ hf => absurd hf List.not_mem_nil, fun _ hw => absurd hw List.not_mem_nil⟩
  have hframes : b.deferred.frames = [] := by rw [hdeferred b (List.mem_of_getElem? hbus)]
  have hopened : (opened h).Sound i b.name :=
    ⟨⟨hrecords, hnames, howned⟩, b, hbus, rfl, .fresh hcounters hframes⟩
  have hr : r.Sound i b.name := hopened.events es
  obtain ⟨b', hb', hname, hsound⟩ := hr.bus
  obtain ⟨-, hcounts, hsent, hqueued, hfailed, hpassed, hline⟩ := hsound
  rw [hname] at hcounts hsent hqueued hfailed hline
  refine ⟨hub_events _ i es, ⟨b', hb', hname, ?_⟩, ?_, ?_⟩
  · exact ⟨⟨hcounts .sent, hsent⟩, ⟨hcounts .deferred, hqueued⟩, ⟨hcounts .failed, hfailed⟩,
      hcounts .received⟩
  · exact ⟨hpassed, (List.pairwise_append.mp hline.sorted).1, hline.left, hline.passed⟩
  · intro place f patient ticket e herror
    exact write_error hr.regular herror

/-- After a start anew, one frame is sent and two are deferred; of these the device accepts the first
and finds no room for the second.  One frame comes in.  The other bus sends a frame and is stopped. -/
theorem agree_events_of_two :
    let f (id : UInt32) (h : id ≤ 0x7ff) : Frame := ⟨none, id, .standard, [7], h, by decide⟩
    let f₁ := f 1 (by decide)
    let f₂ := f 2 (by decide)
    let f₃ := f 3 (by decide)
    let device : Scripted :=
      { readies := [.ok false, .ok false]
        transmits := [.ok .accepted, .ok .accepted, .ok .busy, .ok .accepted, .ok .busy]
        polls := [{ frame := some (f₁.withOrigin (.numbered 1)) }] }
    let h : Hub Hardware :=
      { buses := [{ name := .numbered 1, device := .scripted device },
          { name := .numbered 2, device := .scripted {} }]
        logger := some { kind := .memory false, isOpen := true } }
    let setup : Setup := ⟨.active, .kbps500⟩
    let es : List Hub.Event :=
      [.start 0 setup, .turn 0 (.write f₁ false 0), .start 0 setup, .start 1 setup,
        .turn 0 (.write f₁ false 0), .turn 1 (.write f₁ false 0), .turn 0 (.write f₂ true 1),
        .turn 0 (.write f₃ false 0), .dispatch (.poll 0), .stop 1]
    let r := (opened h).events 0 es
    let line : Line := { passed := [(6, 9), (7, 10)] }
    r.account = { since := 2, sent := 1, queued := 2, accepted := 1, givenUp := 1, line } ∧
    (∃ b, r.hub.buses[0]? = some b ∧ b.name = .numbered 1 ∧ b.statistics.counters.sent = 2 ∧
      b.statistics.counters.delayed = 2 ∧ b.statistics.counters.transmitOverflow = 1 ∧
      b.statistics.counters.received = 1) ∧
    (∃ f direction, Recorded r.hub.log 7 (.numbered 1) .deferred f ∧
      Recorded r.hub.log 10 (.numbered 1) direction f) ∧
    (r.event 0 (.turn 1 (.write f₁ false 0))).hub.log = r.hub.log := by
  intro f f₁ f₂ f₃ device h setup es r line
  obtain ⟨-, ⟨b, hb, hname, hsent, hdelayed, hfailed, hreceived⟩, ⟨-, -, -, hpassed⟩, herror⟩ :=
    agree_events (h := h) (i := 0) ⟨_, rfl, rfl, rfl, rfl, rfl⟩ (by decide +kernel)
      (by simp [h]) rfl rfl es
  have haccount : r.account
      = { since := 2, sent := 1, queued := 2, accepted := 1, givenUp := 1, line } := by
    decide +kernel
  have hentries : entries (r.hub.log.drop r.account.since) (.numbered 1) .received = 1 := by
    decide +kernel
  have hstopped : (r.hub.onBus 1 (·.write f₁ false 0)).1
      = some (.error (.notRunning (.numbered 2))) := by decide +kernel
  refine ⟨haccount, ⟨b, hb, hname, ?_, ?_, ?_, ?_⟩, ?_, (herror 1 f₁ false 0 _ hstopped).2.1⟩
  · rw [hsent.1, hsent.2, show Books.account _ = _ from haccount]
    rfl
  · rw [hdelayed.1, hdelayed.2, show Books.account _ = _ from haccount]
    rfl
  · rw [hfailed.1, hfailed.2, show Books.account _ = _ from haccount]
    rfl
  · rw [hreceived, show entries _ _ _ = _ from hentries]
    rfl
  · obtain ⟨-, f, direction, -, hdeferred, hleft⟩ :=
      hpassed (7, 10) (by rw [show Books.account _ = _ from haccount]; decide)
    exact ⟨f, direction, hdeferred, hleft⟩

end Books
end Fieldbus
