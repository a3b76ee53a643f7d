import Fieldbus.Proofs.Device.Mcp2515.Sending

/-! Starts and stops of the chip, whatever fails.  A transaction that fails does not reach the chip and
ends the steps in an error, so that steps that succeed have done what they do on a link without failures
(`Steps.Faithful`).  What the driver acknowledges is therefore the state of the chip
(`acknowledged_start_stop`). -/

namespace Fieldbus.Mcp2515

/-- If steps succeed, or none of the transactions to come fails, they do what they do on a link without
failures. -/
def Steps.Faithful {ε α : Type} (steps : Steps ε α) : Prop :=
  ∀ l : Link, Leads steps l fun result l' => l'.failures <:+ l.failures ∧
    (result.isOk = true ∨ true ∉ l.failures → steps.Runs l.chip result l'.chip)

namespace Steps.Faithful

variable {ε α β : Type}

theorem pure (a : α) : Faithful (Pure.pure a : Steps ε α) :=
  fun _ => ⟨List.suffix_refl _, fun _ => .pure a⟩

theorem throw (e : ε) : Faithful (MonadExcept.throw e : Steps ε α) :=
  fun _ => ⟨List.suffix_refl _, fun _ => .throw e⟩

/-- A transaction that fails is an error, and one that does not depends on the chip alone. -/
theorem send (command : UInt8) (args : List UInt8) : (Steps.send (command :: args)).Faithful := by
  intro l
  refine leads_send (fun hfails => ⟨List.tail_suffix _, ?_⟩)
    fun _ => ⟨List.tail_suffix _, fun _ => ?_⟩
  · rintro (hok | hnone)
    · cases hok
    · cases hfailures : l.failures with
      | nil =>
        rw [hfailures] at hfails
        cases hfails
      | cons fails failures =>
        rw [hfailures] at hfails hnone
        obtain rfl : fails = true := hfails
        exact absurd List.mem_cons_self hnone
  · rintro ⟨chip, failures, history⟩ ⟨rfl, rfl⟩
    exact leads_send nofun fun _ => ⟨rfl, rfl, rfl⟩

theorem bind {steps : Steps ε α} {next : α → Steps ε β} (h : steps.Faithful)
    (hnext : ∀ a, (next a).Faithful) : (steps >>= next).Faithful := by
  intro l
  refine (h l).bind ?_ ?_
  · rintro a middle ⟨hsuffix, hruns⟩
    refine (hnext a middle).imp ?_
    rintro result l' ⟨hsuffix', hruns'⟩
    refine ⟨hsuffix'.trans hsuffix, fun hok => .bind (hruns (.inl rfl)) (hruns' ?_)⟩
    exact hok.imp_right fun hnone hmem => hnone (hsuffix.mem hmem)
  · rintro e l' ⟨hsuffix, hruns⟩
    exact ⟨hsuffix, fun hok => .bind_error (hruns hok)⟩

theorem onBus {steps : Steps HardwareError α} (h : steps.Faithful) :
    (Steps.onBus steps).Faithful := by
  refine fun l => leads_onBus ((h l).imp ?_)
  rintro result l' ⟨hsuffix, hruns⟩
  refine ⟨hsuffix, fun hok => (hruns (hok.imp_left fun hok => ?_)).onBus⟩
  cases result with
  | error e => cases hok
  | ok a => rfl

theorem write (address : UInt8) (values : List UInt8) : (Steps.write address values).Faithful :=
  .bind (send _ _) fun _ => .pure ()

theorem writeOnBus {address : UInt8} {values : List UInt8} :
    (Steps.onBus (Steps.write address values)).Faithful := (write address values).onBus

theorem fetchByte (command : UInt8) (args : List UInt8) :
    (Steps.fetchByte (command :: args)).Faithful :=
  .bind (.bind (send _ _) fun _ => .pure _) fun _ => .pure _

theorem expectMode (expected : UInt8) (requested : String) :
    (Steps.expectMode expected requested).Faithful := by
  refine .bind (fetchByte _ _).onBus fun status => ?_
  split
  · exact .throw _
  · exact .pure ()

end Steps.Faithful

theorem faithful_start (setup : Setup) : (start setup).Faithful := by
  rw [start_eq]
  exact .bind (Steps.Faithful.send _ _).onBus fun _ => .bind .writeOnBus fun _ =>
    .bind (.expectMode _ _) fun _ => .bind .writeOnBus fun _ => .bind .writeOnBus fun _ =>
    .bind .writeOnBus fun _ => .bind .writeOnBus fun _ => .bind .writeOnBus fun _ =>
    .expectMode _ _

theorem faithful_stop : stop.Faithful :=
  .bind (Steps.Faithful.send _ _).onBus fun _ => .bind .writeOnBus fun _ =>
    .bind .writeOnBus fun _ => .expectMode _ _

/-- Steps come to one result on a link without failures, and to one state of the chip. -/
theorem Steps.Runs.unique {ε α : Type} {steps : Steps ε α} {c c₁ c₂ : Chip}
    {result₁ result₂ : Except ε α} (h₁ : steps.Runs c result₁ c₁) (h₂ : steps.Runs c result₂ c₂) :
    result₁ = result₂ ∧ c₁ = c₂ := by
  obtain ⟨hresult₁, hlink₁⟩ := h₁ { chip := c } ⟨rfl, rfl⟩
  obtain ⟨hresult₂, hlink₂⟩ := h₂ { chip := c } ⟨rfl, rfl⟩
  exact ⟨hresult₁.symm.trans hresult₂, hlink₁.chip.symm.trans hlink₂.chip⟩

/-- A start that succeeds has set the chip up, whatever state it was in. -/
theorem setUp_of_start {setup : Setup} {l : Link} (h : (Device.start setup l).1 = .ok ()) :
    (Device.start setup l).2.chip.bare = Chip.setUp setup := by
  obtain ⟨-, hfaithful⟩ := faithful_start setup l
  obtain ⟨result, c', hruns, hresult⟩ := runs_start setup l.chip
  obtain ⟨hsame, hchip⟩ := (hfaithful (.inl (congrArg Except.isOk h))).unique hruns
  split at hresult
  · obtain ⟨e, he⟩ := hresult
    exact nomatch h.symm.trans (hsame.trans he)
  · exact (congrArg Chip.bare hchip).trans hresult.2

/-- A query of the transmit buffers tells the truth unless it fails. -/
theorem run_ready (l : Link) :
    (Device.ready l).1 = if l.failures.head?.getD false then .error (.hardware .noResponse)
      else .ok (freeBuffer? l.chip.statusByte).isSome := by
  obtain ⟨chip, failures, history⟩ := l
  rcases failures with _ | ⟨_ | _, failures⟩ <;> rfl

/-- Whatever state the chip is in and whichever transactions fail: a start that succeeds leaves the chip
in the mode and at the speed asked for, with every interrupt enabled, no flag set and no transmit buffer in
use, so that it is ready; a stop that succeeds leaves it asleep.  Both succeed if no transaction fails and
the chip does not refuse. -/
theorem acknowledged_start_stop (setup : Setup) (l : Link) :
    let started := Device.start setup l
    let stopped := Device.stop l
    (started.1 = .ok () →
      let c := started.2.chip
      c.get Address.status &&& OperatingMode.mask = (match setup.mode with
        | .active => OperatingMode.normal
        | .listen => OperatingMode.listen) ∧
      c.readFrom Address.timing 3 = bitTiming setup.speed ∧
      c.get Address.interruptEnable = 0xff ∧
      c.get Address.interruptFlags = 0 ∧
      c.get Address.errorFlags = 0 ∧
      (∀ n ∈ Chip.transmitBuffers, c.isRequested n = false) ∧
      (Device.ready started.2).1 = if started.2.failures.head?.getD false
        then .error (.hardware .noResponse) else .ok true) ∧
    (stopped.1 = .ok () →
      stopped.2.chip.get Address.status &&& OperatingMode.mask = OperatingMode.sleep) ∧
    (true ∉ l.failures → l.chip.refusing = false → started.1 = .ok () ∧ stopped.1 = .ok ()) := by
  intro started stopped
  obtain ⟨-, hstart⟩ := faithful_start setup l
  obtain ⟨-, hstop⟩ := faithful_stop l
  obtain ⟨stopResult, stopChip, hstopRuns, hasleep, hstops⟩ := runs_stop l.chip
  refine ⟨fun hok => ?_, fun hok => ?_, fun hnone hwilling => ⟨?_, ?_⟩⟩
  · obtain ⟨hmode, hspeed, henabled, hflags, herrors, hunrequested⟩ := Chip.registers_setUp setup
    rw [← setUp_of_start hok] at hmode hspeed henabled hflags herrors hunrequested
    refine ⟨hmode.trans ?_, hspeed, henabled, hflags, herrors, hunrequested, ?_⟩
    · cases setup.mode <;> rfl
    · have hfree : freeBuffer? started.2.chip.statusByte = some 0 := by
        rw [Chip.freeBuffer?_statusByte]
        exact List.find?_cons_of_pos (congrArg (!·) (hunrequested 0 (by decide)))
      rw [run_ready, hfree]
      rfl
  · obtain ⟨hsame, hchip⟩ := (hstop (.inl (congrArg Except.isOk hok))).unique hstopRuns
    have h := hasleep (hsame.symm.trans hok)
    rw [← hchip] at h
    exact h
  · obtain ⟨result, c', hruns, hresult⟩ := runs_start setup l.chip
    obtain ⟨hsame, -⟩ := (hstart (.inr hnone)).unique hruns
    rw [hwilling, if_neg Bool.false_ne_true] at hresult
    exact hsame.trans hresult.1
  · obtain ⟨hsame, -⟩ := (hstop (.inr hnone)).unique hstopRuns
    exact hsame.trans (hstops hwilling)

/-- The registers CNF3, CNF2 and CNF1, the mode and the enabled interrupts of a bus at 500 kbit/s. -/
example :
    let started := Device.start ⟨.listen, .kbps500⟩ ({} : Link)
    started.1 = .ok () ∧ started.2.chip.readFrom Address.timing 3 = [0x86, 0xf0, 0x00] ∧
    started.2.chip.get Address.status &&& OperatingMode.mask = 0x60 ∧
    started.2.chip.get Address.interruptEnable = 0xff := by
  decide +kernel

end Fieldbus.Mcp2515
