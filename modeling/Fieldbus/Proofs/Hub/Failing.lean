import Fieldbus.Proofs.Bus.Retrying
import Fieldbus.Proofs.Hub.Basic

/-! Operations that fail.  Whatever the device of a bus does, a write or a command that fails leaves the hub
as it was, but for that device; a start that fails leaves new statistics (`Hub.AsBefore`).  So nothing is
recorded or said, and the frames of failed writes do not go out later either
(`Hub.unchanged_of_failure`). -/

namespace Fieldbus

namespace Bus

variable {δ : Type}

/-- The bus after an operation that its device has failed.  The statistics may have begun anew. -/
def withFailed (b : Bus δ) (anew : Bool) (device : δ) : Bus δ :=
  { b with device, statistics := if anew then {} else b.statistics }

/-- An operation leaves nothing behind, if it fails, but what its device did. -/
def Withdraws {α : Type} (operation : Bus δ → Outcome δ (Except DeviceError α)) (anew : Bool) :
    Prop :=
  ∀ b e, (operation b).result = .error e →
    ∃ device, (operation b).bus = b.withFailed anew device ∧ (operation b).effects = []

variable [Device δ]

theorem withdraws_write (f : Frame) (patient : Bool) (ticket : Nat) :
    Withdraws (δ := δ) (·.write f patient ticket) false :=
  fun _ _ h => write_error h

theorem withdraws_start (setup : Setup) : Withdraws (δ := δ) (·.start setup) true := by
  intro b e h
  dsimp only at h ⊢
  rw [start] at h ⊢
  rcases hd : Device.start setup b.device with ⟨_ | ⟨⟩, device⟩
  · exact ⟨device, rfl, rfl⟩
  · rw [hd] at h
    cases h

theorem withdraws_halt (power : Power) : Withdraws (δ := δ) (·.halt power) false := by
  intro b e h
  dsimp only at h ⊢
  rw [halt] at h ⊢
  rcases hd : Device.stop b.device with ⟨_ | ⟨⟩, device⟩
  · exact ⟨device, rfl, rfl⟩
  · rw [hd] at h
    cases h

theorem withdraws_obey (c : Command) : Withdraws (δ := δ) (·.obey c) (c.target = .on) := by
  intro b e h
  obtain ⟨setup, hon, -, heq⟩ | ⟨hoff, -, heq⟩ | ⟨-, heq⟩ := b.obey_cases c
  all_goals
    dsimp only at h ⊢
    rw [heq] at h ⊢
  · rw [decide_eq_true hon]
    exact withdraws_start setup b e h
  · rw [decide_eq_false hoff]
    exact withdraws_halt c.target b e h
  · cases h

theorem isOk_resume_expire (b : Bus δ) (ticket : Nat) :
    (b.resume ticket).result.isOk = true ∧ (b.expire ticket).result.isOk = true := by
  rw [resume, expire]
  constructor <;> split <;> rfl

end Bus

namespace Hub

variable {δ : Type}

/-- The hub is as it was, but for what the device of the bus at a place did, and the statistics of that
bus, if they began anew. -/
def AsBefore (h : Hub δ) (i : Nat) (anew : Bool) (h' : Hub δ) : Prop :=
  ∃ b device, h.buses[i]? = some b ∧
    h' = { h with buses := h.buses.set i (b.withFailed anew device) }

variable {α : Type} {operation : Bus δ → Outcome δ (Except DeviceError α)} {anew : Bool}
  {e : DeviceError}

theorem asBefore_onBus (hop : Bus.Withdraws operation anew) (h : Hub δ) {i : Nat}
    (he : (h.onBus i operation).1 = some (.error e)) :
    h.AsBefore i anew (h.onBus i operation).2 := by
  cases hb : h.buses[i]? with
  | none =>
    rw [onBus, hb] at he
    cases he
  | some b =>
    rw [onBus_eq hb] at he ⊢
    obtain ⟨device, hbus, heffects⟩ := hop b e (Option.some.inj he)
    refine ⟨b, device, hb, ?_⟩
    rw [hbus, heffects]
    rfl

/-- A request that the device fails is one whose operation fails. -/
theorem asBefore_attempt (hop : Bus.Withdraws operation anew) (h : Hub δ) {i : Nat} {name : String}
    (he : (h.attempt i operation (.noSuchBus name)).1 = .error (.device e)) :
    h.AsBefore i anew (h.attempt i operation (.noSuchBus name)).2 := by
  rw [attempt_snd]
  refine asBefore_onBus hop h (e := e) ?_
  rw [attempt] at he
  rcases honBus : h.onBus i operation with ⟨_ | _ | _, h'⟩
  all_goals rw [honBus] at he
  · cases he
  · cases he
    rfl
  · cases he

theorem asBefore_withBus {request : Nat → Bus δ → Answer δ α} {h : Hub δ} {name : String}
    (hrequest : ∀ i b, (request i b).1 = .error (.device e) → h.AsBefore i anew (request i b).2)
    (he : (h.withBus name request).1 = .error (.device e)) :
    ∃ i, h.findBus? name = some i ∧ h.AsBefore i anew (h.withBus name request).2 := by
  obtain ⟨-, heq⟩ | ⟨i, b, hi, -, heq⟩ := h.withBus_cases name request
  all_goals rw [heq] at he ⊢
  · cases he
  · exact ⟨i, hi, hrequest i b he⟩

section Requests

variable [Device δ] {h : Hub δ} {name : String}

theorem asBefore_startBus {mode : String} {bps : UInt32}
    (he : (h.startBus name mode bps).1 = .error (.device e)) :
    ∃ i, h.findBus? name = some i ∧ h.AsBefore i true (h.startBus name mode bps).2 := by
  obtain ⟨refusal, hrefusal, heq⟩ | ⟨i, m, speed, hi, -, -, heq⟩ := h.startBus_cases name mode bps
  all_goals rw [heq] at he ⊢
  · cases he
    exact absurd rfl (hrefusal e)
  · exact ⟨i, hi, asBefore_attempt (Bus.withdraws_start ⟨m, speed⟩) h he⟩

theorem startBus_refused {mode : String} {bps : UInt32}
    (hrefused : h.findBus? name = none ∨ BusMode.ofText? mode = none ∨ Speed.ofBps? bps = none) :
    ∃ e, (∀ d, e ≠ .device d) ∧ h.startBus name mode bps = (.error e, h) := by
  refine (h.startBus_cases name mode bps).resolve_right ?_
  rintro ⟨i, m, speed, hi, hm, hspeed, -⟩
  rw [hi, hm, hspeed] at hrefused
  obtain hnone | hnone | hnone := hrefused <;> cases hnone

theorem asBefore_transmit {id : UInt32} {extended : Bool} {data : List UInt8}
    (he : (h.transmit name id extended data).1 = .error (.device e)) :
    ∃ i, h.findBus? name = some i ∧ h.AsBefore i false (h.transmit name id extended data).2 := by
  refine asBefore_withBus (fun i b he => ?_) he
  split at he
  case isFalse => cases he
  next hrunning =>
  rw [if_pos hrunning]
  cases hframe : Frame.make none id (formatOf extended) data with
  | error invalid =>
    rw [hframe] at he
    cases he
  | ok f =>
    rw [hframe] at he
    dsimp only at he ⊢
    have hattempt : (h.attempt i (·.write f false 0) (.noSuchBus name)).1 = .error (.device e) →
        h.AsBefore i false (h.attempt i (·.write f false 0) (.noSuchBus name)).2 :=
      asBefore_attempt (Bus.withdraws_write f false 0) h
    generalize h.attempt i (·.write f false 0) (.noSuchBus name) = answer at he hattempt ⊢
    rcases answer with ⟨refusal | (_ | _ | _) | _, h'⟩
    all_goals cases he
    exact hattempt rfl

theorem asBefore_stopBus (he : (h.stopBus name).1 = .error (.device e)) :
    ∃ i, h.findBus? name = some i ∧ h.AsBefore i false (h.stopBus name).2 :=
  asBefore_withBus (fun _ _ => asBefore_attempt (Bus.withdraws_halt .off) h) he

theorem asBefore_setPower {power : Power} (he : (h.setPower name power).1 = .error (.device e)) :
    ∃ i, h.findBus? name = some i ∧ h.AsBefore i (power = .on) (h.setPower name power).2 :=
  asBefore_withBus (fun _ _ => asBefore_attempt (Bus.withdraws_obey (.setPower power)) h) he

end Requests

/-- Whatever state a hub is in and however its devices behave: after a write that fails, or a command
that does, the hub is as it was but for what the device did; only the statistics of that bus are new if the
command was to start it.  Nothing is recorded and nothing is said.  Writers that wait for room are not told
of failures any more.  A start that is refused for its bus, its mode or its speed changes nothing at all.
And a bus with an MCP2515 sends no frame more often than it had it and took it in writes that did not fail,
whichever transactions fail on the way. -/
theorem unchanged_of_failure [Device δ] (h : Hub δ) :
    (∀ i f patient ticket e, (h.onBus i (·.write f patient ticket)).1 = some (.error e) →
      h.AsBefore i false (h.onBus i (·.write f patient ticket)).2) ∧
    (∀ (b : Bus δ) ticket,
      (b.resume ticket).result.isOk = true ∧ (b.expire ticket).result.isOk = true) ∧
    (∀ i c e, (h.onBus i (·.obey c)).1 = some (.error e) →
      h.AsBefore i (c.target = .on) (h.onBus i (·.obey c)).2) ∧
    (∀ name e,
      (∀ id extended data, (h.transmit name id extended data).1 = .error (.device e) →
        ∃ i, h.findBus? name = some i ∧ h.AsBefore i false (h.transmit name id extended data).2) ∧
      ((h.stopBus name).1 = .error (.device e) →
        ∃ i, h.findBus? name = some i ∧ h.AsBefore i false (h.stopBus name).2) ∧
      (∀ power, (h.setPower name power).1 = .error (.device e) →
        ∃ i, h.findBus? name = some i ∧ h.AsBefore i (power = .on) (h.setPower name power).2) ∧
      (∀ mode bps, (h.startBus name mode bps).1 = .error (.device e) →
        ∃ i, h.findBus? name = some i ∧ h.AsBefore i true (h.startBus name mode bps).2)) ∧
    (∀ name mode bps,
      h.findBus? name = none ∨ BusMode.ofText? mode = none ∨ Speed.ofBps? bps = none →
      ∃ e, (∀ d, e ≠ .device d) ∧ h.startBus name mode bps = (.error e, h)) ∧
    (∀ (b : Bus Mcp2515.Link) (events : List Undertaking.Event) (g : Frame),
      let r := ({ bus := b } : Undertaking).events events
      g.among r.bus.device.chip.transmitted
        ≤ g.among (b.device.chip.transmitted ++ b.device.chip.outbox ++ b.deferred.held
          ++ r.undertaken)) :=
  ⟨fun _ f patient ticket _ => asBefore_onBus (Bus.withdraws_write f patient ticket) h,
    fun b => b.isOk_resume_expire,
    fun _ c _ => asBefore_onBus (Bus.withdraws_obey c) h,
    fun _ _ => ⟨fun _ _ _ => asBefore_transmit, asBefore_stopBus, fun _ => asBefore_setPower,
      fun _ _ => asBefore_startBus⟩,
    fun _ _ _ => startBus_refused,
    Undertaking.among_transmitted_events⟩

end Hub
end Fieldbus
