import Fieldbus.Device.Scripted
import Fieldbus.Proofs.Bus.Power
import Fieldbus.Proofs.Device.Inner

/-! What a bus makes of the commands that start it, stop it and change its power, whatever its device
answers.  A command calls for one operation of the device at most, and only when it does can it change
anything (`Bus.calls_obey`).  Hence the setup of a bus is that of the last start that its device took, and
its power state the one that the last command to succeed asked for (`Commanded.obeyed_commands`). -/

namespace Fieldbus

/-! ### A device whose calls are kept -/

/-- A device, the calls made of it so far, and why those that failed did. -/
structure Monitored (δ : Type) where
  device : δ
  calls : List (Call × Option DeviceError) := []

def failure? {α : Type} : Except DeviceError α → Option DeviceError
  | .ok _ => none
  | .error e => some e

namespace Monitored

variable {δ : Type}

def answered {α : Type} (d : Monitored δ) (call : Call) (answer : Except DeviceError α × δ) :
    Except DeviceError α × Monitored δ :=
  (answer.1, { device := answer.2, calls := d.calls ++ [(call, failure? answer.1)] })

variable [Device δ]

instance : Device (Monitored δ) where
  start setup d := d.answered (.start setup) (Device.start setup d.device)
  stop d := d.answered .stop (Device.stop d.device)
  ready d := d.answered .ready (Device.ready d.device)
  transmit f d := d.answered (.transmit f) (Device.transmit f d.device)
  poll bus s d :=
    let p := Device.poll bus s d.device
    { p with device := { device := p.device, calls := d.calls ++ [(.poll bus, none)] } }
  backlog d := Device.backlog d.device
  asserted d := Device.asserted d.device
  interrupt bus s d :=
    let h := Device.interrupt bus s d.device
    { h with device := { d with device := h.device } }
  rounds d := Device.rounds d.device

theorem wraps : Device.Wraps (Monitored.device : Monitored δ → δ) :=
  ⟨fun _ _ => rfl, fun _ => rfl, fun _ => rfl, fun _ _ => rfl⟩

end Monitored

def Call.isStart : Call → Bool
  | .start _ => true
  | _ => false

/-- The setup of a start that the device took. -/
def started? : Call × Option DeviceError → Option Setup
  | (.start setup, none) => some setup
  | _ => none

/-! ### Commands -/

inductive Command where
  | start (setup : Setup)
  | stop
  | setPower (power : Power)
deriving DecidableEq

namespace Command

/-- The power state that a command asks for. -/
def target : Command → Power
  | start _ => .on
  | stop => .off
  | setPower power => power

/-- What a command calls the device of a bus for, by the power state and the setup of that bus. -/
def calls (power : Power) (setup : Option Setup) : Command → List Call
  | start setup => [.start setup]
  | setPower .on => if power = .on then [] else (setup.map .start).toList
  | _ => [.stop]

end Command

namespace Bus

variable {δ : Type} [Device δ]

def obey (b : Bus δ) : Command → Outcome δ (Except DeviceError Unit)
  | .start setup => b.start setup
  | .stop => b.stop
  | .setPower power => b.setPower power

def obeyAll (b : Bus δ) (commands : List Command) : Bus δ :=
  commands.foldl (fun b c => (b.obey c).bus) b

theorem obey_halt (b : Bus δ) {c : Command} (h : c.target ≠ .on) :
    c.calls b.power b.setup = [.stop] ∧ b.obey c = b.halt c.target := by
  cases c with
  | start setup => exact absurd rfl h
  | stop => exact ⟨rfl, rfl⟩
  | setPower power =>
    cases power with
    | on => exact absurd rfl h
    | _ => exact ⟨rfl, rfl⟩

/-- A command is a start, or a halt, or nothing happens. -/
theorem obey_cases (b : Bus δ) (c : Command) :
    (∃ setup, c.target = .on ∧ c.calls b.power b.setup = [.start setup] ∧
      b.obey c = b.start setup) ∨
    (c.target ≠ .on ∧ c.calls b.power b.setup = [.stop] ∧ b.obey c = b.halt c.target) ∨
    (c.calls b.power b.setup = [] ∧ b.obey c = { result := .ok (), bus := b }) := by
  by_cases htarget : c.target = .on
  · cases c with
    | start setup => exact .inl ⟨setup, rfl, rfl, rfl⟩
    | stop => cases htarget
    | setPower power =>
      obtain rfl : power = .on := htarget
      simp only [obey, setPower, isRunning, Command.calls]
      by_cases hon : b.power = .on
      · cases b.setup <;> simp [hon]
      · cases b.setup <;> simp [hon, Command.target]
  · exact .inr (.inl ⟨htarget, b.obey_halt htarget⟩)

theorem inside_obey {ε : Type} [Device ε] {inner : ε → δ} (h : Device.Wraps inner) (b : Bus ε)
    (c : Command) : (b.obey c).inside inner = (b.inside inner).obey c := by
  cases c with
  | start setup => exact inside_start h b setup
  | stop => exact inside_halt h b .off
  | setPower power => exact inside_setPower h b power

theorem calls_start (b : Bus (Monitored δ)) (setup : Setup) :
    (b.start setup).bus.device.calls
      = b.device.calls ++ [(.start setup, failure? (b.start setup).result)] := by
  obtain ⟨hresult, -, hdevice, -⟩ := b.start_eq setup
  rw [hresult, hdevice]
  rfl

theorem calls_halt (b : Bus (Monitored δ)) (power : Power) :
    (b.halt power).bus.device.calls
      = b.device.calls ++ [(.stop, failure? (b.halt power).result)] := by
  obtain ⟨hresult, -, hdevice, -⟩ := b.halt_eq power
  rw [hresult, hdevice]
  rfl

/-- A command makes the calls it has to make, of which there is one at most, and nothing happens if
there is none.  The statistics begin anew if and only if the device is started. -/
theorem calls_obey (b : Bus (Monitored δ)) (c : Command) :
    let o := b.obey c
    let calls := c.calls b.power b.setup
    o.bus.device.calls = b.device.calls ++ calls.map (·, failure? o.result) ∧
    o.bus.statistics = (if calls.any Call.isStart then {} else b.statistics) ∧
    (calls = [] → o = { result := .ok (), bus := b }) := by
  obtain ⟨setup, -, hcalls, heq⟩ | ⟨-, hcalls, heq⟩ | ⟨hcalls, heq⟩ := b.obey_cases c
  · obtain ⟨-, -, -, hstatistics, -⟩ := b.start_eq setup
    simp only [heq, hcalls]
    refine ⟨b.calls_start setup, ?_, nofun⟩
    exact hstatistics
  · obtain ⟨-, -, -, hstatistics⟩ := b.halt_eq c.target
    simp only [heq, hcalls]
    refine ⟨b.calls_halt c.target, ?_, nofun⟩
    exact hstatistics
  · simp only [heq, hcalls]
    exact ⟨(List.append_nil _).symm, rfl, fun _ => trivial⟩

end Bus

/-! ### Runs -/

/-- A command that was given, with the calls it made and its result. -/
structure Execution where
  command : Command
  calls : List (Call × Option DeviceError)
  result : Except DeviceError Unit

/-- The power state that a command has brought about: it called for its device, and succeeded. -/
def Execution.reached? (x : Execution) : Option Power :=
  if x.calls ≠ [] ∧ x.result.toBool then some x.command.target else none

/-- A bus, and what became of the commands it was given. -/
structure Commanded (δ : Type) where
  bus : Bus (Monitored δ)
  executions : List Execution := []

namespace Commanded

variable {δ : Type} [Device δ]

def command (r : Commanded δ) (c : Command) : Commanded δ :=
  let o := r.bus.obey c
  let calls := o.bus.device.calls.drop r.bus.device.calls.length
  { bus := o.bus, executions := r.executions ++ [⟨c, calls, o.result⟩] }

def commands (r : Commanded δ) (commands : List Command) : Commanded δ :=
  commands.foldl command r

/-- The setup and the power state are those of the last calls that succeeded. -/
structure Sound (r : Commanded δ) : Prop where
  setup : r.bus.setup = (r.bus.device.calls.filterMap started?).getLast?
  power : r.bus.power = ((r.executions.filterMap Execution.reached?).getLast?).getD .off
  known : r.bus.power = .on → r.bus.setup.isSome

namespace Sound

variable {r : Commanded δ}

/-- The last of some items, when one more is given of which something is kept or nothing. -/
theorem getLast?_append {α β : Type} (f : α → Option β) (xs : List α) (x : α) :
    ((xs ++ [x]).filterMap f).getLast? = (f x).or (xs.filterMap f).getLast? := by
  rw [List.filterMap_append, List.filterMap_cons, List.filterMap_nil]
  cases f x with
  | none => rw [List.append_nil, Option.none_or]
  | some y => rw [List.getLast?_concat, Option.some_or]

theorem started (h : r.Sound) {c : Command} {setup : Setup} (hon : c.target = .on)
    (heq : r.bus.obey c = r.bus.start setup) : (r.command c).Sound := by
  have hcalls := r.bus.calls_start setup
  have hpower := r.bus.power_start setup
  have hsetup := r.bus.setup_start setup
  refine ⟨?setup, ?power, ?known⟩
  case setup =>
    simp only [Commanded.command, heq, hcalls, hsetup, getLast?_append, ← h.setup]
    cases (r.bus.start setup).result <;> rfl
  case power =>
    simp only [Commanded.command, heq, hpower, getLast?_append, hcalls, List.drop_left,
      Execution.reached?, hon]
    cases (r.bus.start setup).result.toBool
    · exact h.power
    · rfl
  case known =>
    simp only [Commanded.command, heq, hpower, hsetup]
    cases (r.bus.start setup).result.toBool with
    | true => exact fun _ => rfl
    | false => exact h.known

theorem halted (h : r.Sound) {c : Command} (hoff : c.target ≠ .on)
    (heq : r.bus.obey c = r.bus.halt c.target) : (r.command c).Sound := by
  have hcalls := r.bus.calls_halt c.target
  have hpower := r.bus.power_halt c.target
  have hsetup := r.bus.setup_halt c.target
  refine ⟨?setup, ?power, ?known⟩
  case setup =>
    simp only [Commanded.command, heq, hcalls, hsetup, getLast?_append, ← h.setup]
    rfl
  case power =>
    simp only [Commanded.command, heq, hpower, getLast?_append, hcalls, List.drop_left,
      Execution.reached?]
    cases (r.bus.halt c.target).result.toBool
    · exact h.power
    · rfl
  case known =>
    simp only [Commanded.command, heq, hpower, hsetup]
    cases (r.bus.halt c.target).result.toBool with
    | true => exact fun hon => absurd hon hoff
    | false => exact h.known

theorem idle (h : r.Sound) {c : Command}
    (heq : r.bus.obey c = { result := .ok (), bus := r.bus }) : (r.command c).Sound := by
  refine ⟨?setup, ?power, ?known⟩
  case setup =>
    simp only [Commanded.command, heq]
    exact h.setup
  case power =>
    simp only [Commanded.command, heq, getLast?_append, List.drop_length, Execution.reached?]
    exact h.power
  case known =>
    simp only [Commanded.command, heq]
    exact h.known

theorem command (h : r.Sound) (c : Command) : (r.command c).Sound := by
  obtain ⟨setup, hon, -, heq⟩ | ⟨hoff, -, heq⟩ | ⟨-, heq⟩ := r.bus.obey_cases c
  · exact h.started hon heq
  · exact h.halted hoff heq
  · exact h.idle heq

theorem commands (h : r.Sound) (commands : List Command) : (r.commands commands).Sound := by
  induction commands generalizing r with
  | nil => exact h
  | cons c commands ih => exact ih (h.command c)

end Sound

theorem inside_commands (r : Commanded δ) (commands : List Command) :
    (r.commands commands).bus.inside Monitored.device
      = (r.bus.inside Monitored.device).obeyAll commands := by
  induction commands generalizing r with
  | nil => rfl
  | cons c commands ih =>
    have hobey := congrArg Outcome.bus (Bus.inside_obey Monitored.wraps r.bus c)
    exact (ih (r.command c)).trans (congrArg (Bus.obeyAll · commands) hobey)

/-- Whatever commands a new bus is given and whatever its device answers: the setup is that of the last
start that the device took, the power state is the one that the last command to succeed asked for (off
before the first), and a bus that is on has a setup.  The next command calls the device as it has to, once
at most; if it has no call to make, it does nothing else either, and the statistics begin anew if and only
if it calls for a start. -/
theorem obeyed_commands (name : BusName) (device : δ) (commands : List Command) :
    let b : Bus δ := { name, device }
    let r := ({ bus := { name, device := { device } } } : Commanded δ).commands commands
    r.bus.inside Monitored.device = b.obeyAll commands ∧
    r.bus.setup = (r.bus.device.calls.filterMap started?).getLast? ∧
    r.bus.power = ((r.executions.filterMap Execution.reached?).getLast?).getD .off ∧
    (r.bus.power = .on → r.bus.setup.isSome) ∧
    ∀ c, let o := r.bus.obey c
      let calls := c.calls r.bus.power r.bus.setup
      o.bus.device.calls = r.bus.device.calls ++ calls.map (·, failure? o.result) ∧
      o.bus.statistics = (if calls.any Call.isStart then {} else r.bus.statistics) ∧
      (calls = [] → o = { result := .ok (), bus := r.bus }) := by
  intro b r
  have hnew : Sound ({ bus := { name, device := { device } } } : Commanded δ) := ⟨rfl, rfl, nofun⟩
  have hr : r.Sound := hnew.commands commands
  exact ⟨inside_commands _ commands, hr.setup, hr.power, hr.known, r.bus.calls_obey⟩

end Commanded
end Fieldbus
