import Fieldbus.Device.Mcp2515.Driver
import Fieldbus.Proofs.Bus.Transmission
import Fieldbus.Proofs.Device.Mcp2515.Chip
import Fieldbus.Proofs.Device.Steps

/-! The driver on a link.  A transaction fails, or the chip executes it (`Steps.leads_send`).  Where none
fails, what the steps do is said in terms of the chip, command by command (`Steps.Runs`); from these
follow the operations of a bus.  A start that succeeds leaves both receive buffers free and every
interrupt enabled, and transmission does not disturb reception. -/

namespace Fieldbus.Mcp2515

/-! ### Steps -/

/-- The link when a transaction has been made. -/
def Link.after (l : Link) (chip : Chip) (t : Transaction) : Link :=
  { chip, failures := l.failures.tail, history := l.history ++ [t] }

section

variable {α : Type} {l : Link}

/-- A transaction fails and does not reach the chip, or the chip executes the command. -/
theorem Steps.leads_send {command : UInt8} {args : List UInt8}
    {Q : Except HardwareError (List UInt8) → Link → Prop}
    (hfailed : l.failures.head?.getD false = true →
      Q (.error .noResponse) (l.after l.chip ⟨command :: args, none⟩))
    (hdone : l.failures.head?.getD false = false →
      let (result, chip) := l.chip.execute command args
      let response := result.toOption.getD (List.replicate (args.length + 1) 0)
      Q result (l.after chip ⟨command :: args, some response⟩)) :
    Leads (Steps.send (command :: args)) l Q := by
  have htransact : l.chip.transact (command :: args) (command :: args).length
      = l.chip.execute command args := if_neg (not_not_intro rfl)
  show Q (l.transfer (command :: args)).1 (l.transfer (command :: args)).2
  rw [Link.transfer]
  dsimp only
  split
  · next hfails => exact hfailed hfails
  · next hfails =>
    rw [htransact]
    exact hdone (Bool.eq_false_iff.mpr hfails)

theorem Steps.leads_onBus {steps : Steps HardwareError α} {Q : Except DeviceError α → Link → Prop}
    (h : Leads steps l fun result l' => Q (result.mapError .hardware) l') :
    Leads (Steps.onBus steps) l Q :=
  h

end

/-- A link to this chip on which no transaction is going to fail. -/
structure Link.Clear (c : Chip) (l : Link) : Prop where
  chip : l.chip = c
  failures : l.failures = []

/-- On a link without failures, steps come to a result and lead from one state of the chip to another,
whatever was transferred before. -/
abbrev Steps.Runs {ε α : Type} (steps : Steps ε α) (c : Chip) (result : Except ε α) (c' : Chip) :
    Prop :=
  Reaches (Link.Clear c) steps result (Link.Clear c')

namespace Steps.Runs

variable {ε α : Type} {c c' : Chip}

theorem onBus {steps : Steps HardwareError α} {result : Except HardwareError α}
    (h : steps.Runs c result c') : (Steps.onBus steps).Runs c (result.mapError .hardware) c' :=
  fun l hl => leads_onBus ((h l hl).imp fun _ _ ⟨hresult, hl'⟩ => ⟨congrArg _ hresult, hl'⟩)

theorem send {command : UInt8} {args response : List UInt8}
    (h : c.execute command args = (.ok response, c')) :
    (Steps.send (command :: args)).Runs c (.ok response) c' := by
  rintro ⟨chip, failures, history⟩ ⟨rfl, rfl⟩
  refine leads_send nofun fun _ => ?_
  rw [h]
  exact ⟨rfl, rfl, rfl⟩

theorem write (c : Chip) (address : UInt8) (values : List UInt8) :
    (Steps.write address values).Runs c (.ok ()) (c.writeFrom address values) :=
  .bind (send rfl) (.pure ())

theorem writeOnBus {c : Chip} {address : UInt8} {values : List UInt8} :
    (Steps.onBus (Steps.write address values)).Runs c (.ok ()) (c.writeFrom address values) :=
  (write c address values).onBus

theorem bitModify (c : Chip) (address mask value : UInt8) :
    (Steps.bitModify address mask value).Runs c (.ok ())
      (c.write address ((c.get address &&& ~~~ mask) ||| (value &&& mask))) :=
  .bind (send rfl) (.pure ())

theorem fetchRegisters (c : Chip) (address : UInt8) (n : Nat) :
    (Steps.fetch [Command.read, address] n).Runs c (.ok (c.readFrom address n)) c := by
  have hexecute : c.execute Command.read (address :: List.replicate n 0)
      = (.ok (0 :: 0 :: c.readFrom address n), c) := by
    show (Except.ok (0 :: 0 :: c.readFrom address (List.replicate n (0 : UInt8)).length), c) = _
    rw [List.length_replicate]
  exact .bind (send hexecute) (.pure _)

theorem fetchRegister (c : Chip) (address : UInt8) :
    (Steps.fetchByte [Command.read, address]).Runs c (.ok (c.get address)) c :=
  .bind (fetchRegisters c address 1) (.pure _)

theorem readStatus (c : Chip) : Steps.readStatus.Runs c (.ok c.statusByte) c :=
  .bind (.bind (send rfl) (.pure _)) (.pure _)

theorem fetchBuffer (c : Chip) {n : UInt8} (hn : n ∈ [(0 : UInt8), 1]) :
    (Steps.fetch [Command.readReceive ||| n <<< 2] Chip.imageLength).Runs c
      (.ok (c.readFrom (Address.receiveBuffer n) Chip.imageLength)) (c.unlatch n) :=
  .bind (send (c.execute_readReceive hn)) (.pure _)

theorem load (c : Chip) {n : UInt8} (hn : n ∈ Chip.transmitBuffers) (image : List UInt8) :
    (Steps.send ((Command.loadTransmit ||| n <<< 1) :: image)).Runs c
      (.ok (List.replicate (image.length + 1) 0))
      (c.setFrom (Address.transmitControl n + 1) image) :=
  send (c.execute_loadTransmit hn image)

theorem request (c : Chip) {n : UInt8} (hn : n ∈ Chip.transmitBuffers) :
    (Steps.send [Command.requestToSend ||| 1 <<< n]).Runs c (.ok [0]) (c.request n) :=
  send (c.execute_requestToSend hn)

end Steps.Runs

/-! ### Transmission -/

theorem runs_ready (c : Chip) : ready.Runs c (.ok (freeBuffer? c.statusByte).isSome) c :=
  .bind (Steps.Runs.readStatus c).onBus (.pure _)

theorem freeBuffer?_mem {status n : UInt8} (h : freeBuffer? status = some n) :
    n ∈ Chip.transmitBuffers := by
  unfold freeBuffer? at h
  split_ifs at h <;> obtain rfl := Option.some.inj h <;> decide

/-- What comes of a frame that is handed to the driver: it is refused if every transmit buffer waits,
and else loaded into the first that does not, and asked to be sent. -/
def Chip.take (c : Chip) (f : Frame) : Attempt × Chip :=
  match freeBuffer? c.statusByte with
  | none => (.busy, c)
  | some n => (.accepted, (c.setFrom (Address.transmitControl n + 1) (image f)).request n)

theorem runs_transmit (f : Frame) (c : Chip) :
    (transmit f).Runs c (.ok (c.take f).1) (c.take f).2 := by
  have hstatus := (Steps.Runs.readStatus c).onBus
  rw [Chip.take]
  cases hfree : freeBuffer? c.statusByte with
  | none =>
    refine .bind hstatus ?_
    rw [hfree]
    exact .pure _
  | some n =>
    have hn := freeBuffer?_mem hfree
    have hload := Steps.Runs.load c hn (image f)
    have hrequest := Steps.Runs.request (c.setFrom (Address.transmitControl n + 1) (image f)) hn
    refine .bind hstatus ?_
    rw [hfree]
    exact .bind hload.onBus (.bind hrequest.onBus (.pure _))

theorem Chip.undisturbed_take (f : Frame) (c : Chip) : Undisturbed c (c.take f).2 := by
  rw [take]
  cases hfree : freeBuffer? c.statusByte with
  | none => exact .refl c
  | some n =>
    have hn := freeBuffer?_mem hfree
    have hspan : ∀ p ∈ slot Address.interruptFlags :: receiving,
        p ∉ span (Address.transmitControl n + 1) (image f).length := by
      rw [length_image]
      clear hfree
      revert n
      decide +kernel
    exact (undisturbed_setFrom c hspan).trans (undisturbed_request _ hn)

/-! ### Starting -/

open Steps.Runs (writeOnBus)

theorem Steps.Runs.expectMode (c : Chip) (expected : UInt8) (requested : String) :
    (Steps.expectMode expected requested).Runs c
      (if c.get Address.status &&& OperatingMode.mask = expected then .ok ()
        else .error (.notAcknowledged requested (c.get Address.status))) c := by
  refine .bind (fetchRegister c Address.status).onBus ?_
  split
  · exact .throw _
  · next hmode =>
    rw [if_pos (not_not.mp hmode)]
    exact .pure _

/-- The bits of the status register that stand for a mode of a bus. -/
def operatingMode : BusMode → UInt8
  | .active => OperatingMode.normal
  | .listen => OperatingMode.listen

namespace Chip

theorem refusing_write (c : Chip) (address value : UInt8) :
    (c.write address value).refusing = c.refusing := by
  rw [write]
  split <;> rfl

/-- A chip that refuses other modes does not show them either. -/
theorem status_writeFrom_of_refusing {c : Chip} (h : c.refusing = true) {address : UInt8}
    {values : List UInt8} (hspan : slot Address.status ∉ span address values.length) :
    (c.writeFrom address values).refusing = true ∧
    (c.writeFrom address values).get Address.status = c.get Address.status := by
  induction values generalizing c address with
  | nil => exact ⟨h, rfl⟩
  | cons v values ih =>
    obtain ⟨hfirst, hrest⟩ := not_or.mp (mt List.mem_cons.mpr hspan)
    have hrefuses : (address = Address.control && !(c.set address v).refusing) = false := by
      rw [show (c.set address v).refusing = true from h, Bool.not_true, Bool.and_false]
    have hwrite : c.write address v = c.set address v := by
      rw [write, hrefuses]
      rfl
    obtain ⟨hrefusing, hstatus⟩ := ih ((c.refusing_write address v).trans h) hrest
    refine ⟨hrefusing, hstatus.trans ?_⟩
    rw [hwrite, c.get_set_of_ne (Ne.symm hfirst)]

/-- What is written to a chip to set it up and to make it enter a mode. -/
def configuration (speed : Speed) (mode : UInt8) : List (UInt8 × List UInt8) :=
  [(Address.receiveControl, [0x64]), (Address.interruptEnable, [0xff]),
    (Address.pinControl, [0x0c]), (Address.timing, bitTiming speed), (Address.control, [mode])]

def writeAll (c : Chip) (writes : List (UInt8 × List UInt8)) : Chip :=
  writes.foldl (fun c w => c.writeFrom w.1 w.2) c

theorem status_writeAll_of_refusing {c : Chip} (h : c.refusing = true)
    {writes : List (UInt8 × List UInt8)}
    (hspan : ∀ w ∈ writes, slot Address.status ∉ span w.1 w.2.length) :
    (c.writeAll writes).get Address.status = c.get Address.status := by
  induction writes generalizing c with
  | nil => rfl
  | cons w writes ih =>
    obtain ⟨hfirst, hrest⟩ := List.forall_mem_cons.mp hspan
    obtain ⟨hrefusing, hstatus⟩ := status_writeFrom_of_refusing h hfirst
    exact (ih hrefusing hrest).trans hstatus

/-- The chip but for the frames it has sent and those that it holds back. -/
def bare (c : Chip) : Chip := { c with holding := false, transmitted := [] }

theorem bare_write (c : Chip) (address value : UInt8) :
    (c.write address value).bare = c.bare.write address value := by
  have hsame : (c.bare.set address value).refusing = (c.set address value).refusing := rfl
  rw [write, write, hsame]
  split <;> rfl

theorem bare_writeFrom (c : Chip) (address : UInt8) (values : List UInt8) :
    (c.writeFrom address values).bare = c.bare.writeFrom address values := by
  induction values generalizing c address with
  | nil => rfl
  | cons v values ih => exact (ih _ _).trans (by rw [bare_write]; rfl)

theorem bare_writeAll (c : Chip) (writes : List (UInt8 × List UInt8)) :
    (c.writeAll writes).bare = c.bare.writeAll writes := by
  induction writes generalizing c with
  | nil => rfl
  | cons w writes ih => exact (ih _).trans (by rw [bare_writeFrom]; rfl)

/-- The chip after a reset, which it ignores if it refuses. -/
def reset (c : Chip) : Chip := if c.refusing then c else { c with registers := resetRegisters }

theorem bare_reset {c : Chip} (h : c.refusing = false) : c.reset.bare = powered := by
  rw [reset, h, if_neg Bool.false_ne_true]
  rfl

/-- What a start asks of a chip first. -/
def configured (c : Chip) : Chip :=
  c.writeFrom Address.control
    [OperatingMode.configuration ||| OperatingMode.abort ||| OperatingMode.oneShot]

/-- A chip that was reset, set up, and made to enter the mode of a bus. -/
def setUp (setup : Setup) : Chip :=
  powered.configured.writeAll (configuration setup.speed (operatingMode setup.mode))

/-- Every interrupt of the chip is enabled, and no buffer is in use. -/
structure Fresh (c : Chip) : Prop where
  latched : c.Latched none none
  unrequested : ∀ n ∈ transmitBuffers, c.isRequested n = false

/-- A chip that was set up is in the mode and at the speed asked for, and free of whatever was before. -/
theorem registers_setUp (setup : Setup) :
    (setUp setup).get Address.status &&& OperatingMode.mask = operatingMode setup.mode ∧
    (setUp setup).readFrom Address.timing 3 = bitTiming setup.speed ∧
    (setUp setup).get Address.interruptEnable = 0xff ∧
    (setUp setup).get Address.interruptFlags = 0 ∧
    (setUp setup).get Address.errorFlags = 0 ∧
    ∀ n ∈ transmitBuffers, (setUp setup).isRequested n = false := by
  obtain ⟨mode, speed⟩ := setup
  cases mode <;> cases speed <;> decide +kernel

theorem fresh_of_setUp {c : Chip} {setup : Setup} (h : c.bare = setUp setup) : c.Fresh := by
  obtain ⟨-, -, henabled, hflags, -, hunrequested⟩ := registers_setUp setup
  rw [← h] at henabled hflags hunrequested
  have hfree : ∀ n, c.Holds n none := by
    intro n
    show c.bare.get Address.interruptFlags &&& _ = 0
    rw [hflags, UInt8.zero_and]
  exact ⟨⟨henabled, hfree 0, hfree 1⟩, hunrequested⟩

end Chip

/-- What a start does when the chip is in configuration mode. -/
def enter (speed : Speed) (mode : UInt8) (name : String) : Steps DeviceError Unit := do
  Steps.onBus (Steps.write Address.receiveControl [0x64])
  Steps.onBus (Steps.write Address.interruptEnable [0xff])
  Steps.onBus (Steps.write Address.pinControl [0x0c])
  Steps.onBus (Steps.write Address.timing (bitTiming speed))
  Steps.onBus (Steps.write Address.control [mode])
  Steps.expectMode mode name

def modeName : BusMode → String
  | .active => "normal"
  | .listen => "listen-only"

theorem start_eq (setup : Setup) : start setup = (do
    let _ ← Steps.onBus (Steps.send [Command.reset])
    Steps.onBus (Steps.write Address.control
      [OperatingMode.configuration ||| OperatingMode.abort ||| OperatingMode.oneShot])
    Steps.expectMode OperatingMode.configuration "configuration"
    enter setup.speed (operatingMode setup.mode) (modeName setup.mode)) := by
  obtain ⟨mode, speed⟩ := setup
  cases mode <;> rfl

theorem runs_enter (c : Chip) (speed : Speed) (mode : UInt8) (name : String) :
    let c' := c.writeAll (Chip.configuration speed mode)
    (enter speed mode name).Runs c
      (if c'.get Address.status &&& OperatingMode.mask = mode then .ok ()
        else .error (.notAcknowledged name (c'.get Address.status))) c' :=
  .bind writeOnBus (.bind writeOnBus (.bind writeOnBus (.bind writeOnBus
    (.bind writeOnBus (Steps.Runs.expectMode _ mode name)))))

theorem Steps.Runs.reset (c : Chip) :
    (Steps.onBus (Steps.send [Command.reset])).Runs c (.ok [0]) c.reset :=
  (Steps.Runs.send rfl).onBus

/-- A start goes on with a chip that was reset and configured. -/
theorem Steps.Runs.start {setup : Setup} {c c' : Chip} {result : Except DeviceError Unit}
    (h : Steps.Runs (do
      Steps.expectMode OperatingMode.configuration "configuration"
      enter setup.speed (operatingMode setup.mode) (modeName setup.mode))
      c.reset.configured result c') : (start setup).Runs c result c' := by
  rw [start_eq]
  exact .bind (Steps.Runs.reset c) (.bind writeOnBus h)

theorem runs_start_of_willing (setup : Setup) {c : Chip} (h : c.refusing = false) :
    ∃ c', (start setup).Runs c (.ok ()) c' ∧ c'.bare = Chip.setUp setup := by
  let c₁ := c.reset.configured
  let c₂ := c₁.writeAll (Chip.configuration setup.speed (operatingMode setup.mode))
  have hbare : c₁.bare = Chip.powered.configured := by
    show c.reset.configured.bare = _
    rw [Chip.configured, Chip.bare_writeFrom, Chip.bare_reset h]
    rfl
  have hsetUp : c₂.bare = Chip.setUp setup := by
    show (c₁.writeAll _).bare = _
    rw [Chip.bare_writeAll, hbare]
    rfl
  have hconfiguration : c₁.get Address.status &&& OperatingMode.mask
      = OperatingMode.configuration := by
    show c₁.bare.get Address.status &&& _ = _
    rw [hbare]
    decide +kernel
  have hmode : c₂.get Address.status &&& OperatingMode.mask = operatingMode setup.mode := by
    show c₂.bare.get Address.status &&& _ = _
    rw [hsetUp]
    exact (Chip.registers_setUp setup).1
  have hexpect := Steps.Runs.expectMode c₁ OperatingMode.configuration "configuration"
  have henter := runs_enter c₁ setup.speed (operatingMode setup.mode) (modeName setup.mode)
  rw [if_pos hconfiguration] at hexpect
  dsimp only at henter
  rw [if_pos hmode] at henter
  exact ⟨c₂, .start (.bind hexpect henter), hsetUp⟩

/-- A chip that has ignored the reset does not leave configuration mode, should it be there. -/
theorem runs_start_of_refusing (setup : Setup) {c : Chip} (h : c.refusing = true) :
    ∃ e c', (start setup).Runs c (.error e) c' := by
  let c₁ := c.reset.configured
  have hexpect := Steps.Runs.expectMode c₁ OperatingMode.configuration "configuration"
  by_cases hconfiguration : c₁.get Address.status &&& OperatingMode.mask
      = OperatingMode.configuration
  case neg =>
    rw [if_neg hconfiguration] at hexpect
    exact ⟨_, _, .start (.bind_error hexpect)⟩
  have hspan : ∀ w ∈ Chip.configuration setup.speed (operatingMode setup.mode),
      Chip.slot Address.status ∉ Chip.span w.1 w.2.length := by
    obtain ⟨mode, speed⟩ := setup
    cases mode <;> cases speed <;> decide +kernel
  have hrefuses : c₁.refusing = true := by
    have hreset : c.reset.refusing = true := by
      rw [Chip.reset, if_pos h]
      exact h
    exact (c.reset.refusing_write _ _).trans hreset
  have hother : OperatingMode.configuration ≠ operatingMode setup.mode := by
    cases setup.mode <;> decide
  have henter := runs_enter c₁ setup.speed (operatingMode setup.mode) (modeName setup.mode)
  rw [if_pos hconfiguration] at hexpect
  dsimp only at henter
  rw [Chip.status_writeAll_of_refusing hrefuses hspan, if_neg (hconfiguration ▸ hother)] at henter
  exact ⟨_, _, .start (.bind hexpect henter)⟩

/-- A start succeeds if the chip does not refuse, and fails otherwise. -/
theorem runs_start (setup : Setup) (c : Chip) :
    ∃ result c', (start setup).Runs c result c' ∧
      (if c.refusing then ∃ e, result = .error e else result = .ok () ∧ c'.bare = Chip.setUp setup)
    := by
  cases hrefusing : c.refusing with
  | false =>
    obtain ⟨c', hruns, hbare⟩ := runs_start_of_willing setup hrefusing
    exact ⟨_, c', hruns, rfl, hbare⟩
  | true =>
    obtain ⟨e, c', hruns⟩ := runs_start_of_refusing setup hrefusing
    exact ⟨_, c', hruns, e, rfl⟩

/-- A stop succeeds if the chip sleeps in the end, and it does so unless it refuses. -/
theorem runs_stop (c : Chip) :
    ∃ result c', stop.Runs c result c' ∧
      (result = .ok () → c'.get Address.status &&& OperatingMode.mask = OperatingMode.sleep) ∧
      (c.refusing = false → result = .ok ()) := by
  let asleep := fun c : Chip => (c.writeFrom Address.pinControl [0x3c]).writeFrom Address.control
    [OperatingMode.sleep ||| OperatingMode.abort]
  refine ⟨_, asleep c.reset, .bind (Steps.Runs.reset c) (.bind writeOnBus (.bind writeOnBus
    (Steps.Runs.expectMode _ OperatingMode.sleep "sleep"))), fun hresult => ?_, fun hrefusing => ?_⟩
  · by_contra hnot
    rw [if_neg hnot] at hresult
    exact nomatch hresult
  · have hbare : (asleep c.reset).bare = asleep .powered := by
      simp only [asleep, Chip.bare_writeFrom, Chip.bare_reset hrefusing]
    refine if_pos ?_
    show (asleep c.reset).bare.get Address.status &&& OperatingMode.mask = OperatingMode.sleep
    rw [hbare]
    decide +kernel

theorem fresh_start {l : Link} (hfailures : l.failures = []) {setup : Setup}
    (h : (Device.start setup l).1 = .ok ()) :
    (Device.start setup l).2.failures = [] ∧ (Device.start setup l).2.chip.Fresh := by
  obtain ⟨result, c', hruns, hresult⟩ := runs_start setup l.chip
  obtain ⟨hsame, hchip, hclear⟩ := hruns l ⟨rfl, hfailures⟩
  refine ⟨hclear, hchip ▸ ?_⟩
  split at hresult
  · obtain ⟨e, he⟩ := hresult
    exact nomatch h.symm.trans (hsame.trans he)
  · exact Chip.fresh_of_setUp hresult.2

end Fieldbus.Mcp2515
