import Fieldbus.Proofs.Bus.Copies
import Fieldbus.Proofs.Device.Mcp2515.Sending

/-! The frames of the chip when transactions fail.  A frame that was loaded but never asked to be sent
does not wait: its buffer stays free, and is filled anew for the next frame.  So whichever transactions
fail, only a transmission that succeeds adds a frame to those that the chip has sent or holds
(`leads_transmit`), and no other operation does (`Link.accountable`). -/

namespace Fieldbus.Mcp2515

namespace Chip

/-- The frames that the chip has sent, and those that wait to be sent. -/
def frames (c : Chip) : List Frame := c.transmitted ++ c.outbox

variable {c c' : Chip}

theorem Unmoved.frames (h : Unmoved c c') : c'.frames = c.frames := by
  rw [Chip.frames, Chip.frames, h.transmitted, h.outbox]

theorem accounts_frames (c : Chip) : c.Accounts [] c.frames := ⟨c.transmitted, rfl, .refl _⟩

theorem Accounts.frames {accepted : List Frame} (h : c.Accounts [] accepted) :
    c.frames.Perm accepted := by
  obtain ⟨added, htransmitted, hperm⟩ := h
  rw [Chip.frames, htransmitted]
  exact hperm

theorem unmoved_writeFrom (c : Chip) {address : UInt8} {values : List UInt8}
    (h : ∀ p ∈ span address values.length, p ∉ sending) :
    Unmoved c (c.writeFrom address values) := by
  induction values generalizing c address with
  | nil => exact .refl c
  | cons v values ih =>
    obtain ⟨hfirst, hrest⟩ := List.forall_mem_cons.mp h
    exact (unmoved_write c v hfirst).trans (ih _ hrest)

/-- What stands in a buffer that does not wait makes no difference. -/
theorem frames_setFrom (c : Chip) {n : UInt8} (hn : n ∈ transmitBuffers)
    (hfree : c.isRequested n = false) (f : Frame) :
    (c.setFrom (Address.transmitControl n + 1) (image f)).frames = c.frames := by
  let c' := c.setFrom (Address.transmitControl n + 1) (image f)
  have hsame : ∀ m ∈ transmitBuffers, c'.waiting? m = c.waiting? m := by
    intro m hm
    by_cases hne : m = n
    case neg => exact (waiting?_congr (buffer_setFrom_other hn hm hne f)).2
    subst hne
    have hcontrol : c'.get (Address.transmitControl m) = c.get (Address.transmitControl m) := by
      refine registers_setFrom_of_not_mem c ?_
      rw [length_image]
      exact (span_image m hm).2
    have hfree' : c'.isRequested m = false := by
      rw [isRequested, hcontrol]
      exact hfree
    rw [waiting?, waiting?, hfree', hfree, if_neg Bool.false_ne_true, if_neg Bool.false_ne_true]
  rw [frames, frames, transmitted_setFrom]
  exact congrArg (c.transmitted ++ ·) (List.filterMap_congr hsame)

/-- A reset takes the frames that wait away. -/
theorem frames_reset (c : Chip) :
    ({ c with registers := resetRegisters } : Chip).frames = c.transmitted := by
  have hnone : ∀ n ∈ transmitBuffers, powered.isRequested n = false := by decide +kernel
  have hempty : ({ c with registers := resetRegisters } : Chip).outbox = [] := by
    refine List.filterMap_eq_nil_iff.mpr fun n hn => if_neg ?_
    rw [show isRequested { c with registers := resetRegisters } n = _ from hnone n hn]
    exact Bool.false_ne_true
  rw [frames, hempty, List.append_nil]

end Chip

/-! ### Steps -/

/-- Whichever transactions fail, steps do not give the chip other frames to send than these. -/
abbrev Steps.Sheds {ε α : Type} (steps : Steps ε α) (frames : List Frame) : Prop :=
  Keeps (fun l : Link => l.chip.frames.Subperm frames) (fun l => l.chip.frames.Subperm frames) steps

namespace Steps.Sheds

variable {ε α : Type} {frames : List Frame}

theorem onBus {steps : Steps HardwareError α} (h : steps.Sheds frames) :
    (Steps.onBus steps).Sheds frames :=
  Keeps.self_iff.mpr fun l hl => leads_onBus (Keeps.self_iff.mp h l hl)

theorem send {command : UInt8} {args : List UInt8}
    (h : ∀ c : Chip, (c.execute command args).2.frames.Subperm c.frames) :
    (Steps.send (command :: args)).Sheds frames :=
  Keeps.self_iff.mpr fun l hl => leads_send (fun _ => hl) fun _ => (h l.chip).trans hl

theorem reset : (Steps.send [Command.reset]).Sheds frames := by
  refine send fun c => ?_
  show c.reset.frames.Subperm c.frames
  rw [Chip.reset]
  split
  · exact .refl _
  · rw [Chip.frames_reset]
    exact (List.sublist_append_left c.transmitted _).subperm

theorem write {address : UInt8} {values : List UInt8}
    (h : ∀ p ∈ Chip.span address values.length, p ∉ Chip.sending) :
    (Steps.write address values).Sheds frames :=
  .bind (send fun c => (c.unmoved_writeFrom h).frames ▸ .refl _) fun _ => .pure ()

theorem bitModify {address : UInt8} (h : Chip.slot address ∉ Chip.sending) (mask value : UInt8) :
    (Steps.bitModify address mask value).Sheds frames :=
  .bind (send fun c => (c.unmoved_write _ h).frames ▸ .refl _) fun _ => .pure ()

theorem read (address : UInt8) (n : Nat) : (Steps.fetch [Command.read, address] n).Sheds frames :=
  .bind (send fun _ => .refl _) fun _ => .pure _

theorem readBuffer {n : UInt8} (hn : n ∈ [(0 : UInt8), 1]) :
    (Steps.fetch [Command.readReceive ||| n <<< 2] Chip.imageLength).Sheds frames := by
  refine .bind (send fun c => ?_) fun _ => .pure _
  show (c.execute _ (List.replicate Chip.imageLength 0)).2.frames.Subperm _
  have hsame : (c.unlatch n).frames = c.frames := (c.unmoved_set _ (by decide +kernel)).frames
  rw [c.execute_readReceive hn, hsame]

theorem readStatus : Steps.readStatus.Sheds frames :=
  .bind (.bind (send fun _ => .refl _) fun _ => .pure _) fun _ => .pure _

theorem expectMode (expected : UInt8) (requested : String) :
    (Steps.expectMode expected requested).Sheds frames := by
  refine .bind (onBus (.bind (read _ _) fun _ => .pure _)) fun status => ?_
  split
  · exact .throw _ fun _ hl => hl
  · exact .pure ()

end Steps.Sheds

/-- What starts and stops write is apart from the transmit buffers. -/
theorem sheds_start (setup : Setup) (frames : List Frame) : (start setup).Sheds frames := by
  have hspan : ∀ w ∈ Chip.configuration setup.speed (operatingMode setup.mode),
      ∀ p ∈ Chip.span w.1 w.2.length, p ∉ Chip.sending := by
    obtain ⟨mode, speed⟩ := setup
    cases mode <;> cases speed <;> decide +kernel
  have hwrite : ∀ w ∈ Chip.configuration setup.speed (operatingMode setup.mode),
      (Steps.onBus (Steps.write w.1 w.2)).Sheds frames :=
    fun w hw => (Steps.Sheds.write (hspan w hw)).onBus
  simp only [Chip.configuration, List.forall_mem_cons] at hwrite
  obtain ⟨hreceive, hinterrupts, hpins, htiming, hcontrol, -⟩ := hwrite
  rw [start_eq]
  exact .bind Steps.Sheds.reset.onBus fun _ =>
    .bind (Steps.Sheds.write (by decide +kernel)).onBus fun _ =>
    .bind (Steps.Sheds.expectMode _ _) fun _ =>
    .bind hreceive fun _ => .bind hinterrupts fun _ => .bind hpins fun _ => .bind htiming fun _ =>
    .bind hcontrol fun _ => Steps.Sheds.expectMode _ _

theorem sheds_stop (frames : List Frame) : stop.Sheds frames :=
  .bind Steps.Sheds.reset.onBus fun _ =>
    .bind (Steps.Sheds.write (by decide +kernel)).onBus fun _ =>
    .bind (Steps.Sheds.write (by decide +kernel)).onBus fun _ => Steps.Sheds.expectMode _ _

theorem sheds_ready (frames : List Frame) : ready.Sheds frames :=
  .bind Steps.Sheds.readStatus.onBus fun _ => .pure _

theorem Steps.leads_readStatus (l : Link) : Leads (Steps.onBus Steps.readStatus) l fun result l' =>
    l'.chip = l.chip ∧ ∀ status, result = .ok status → status = l.chip.statusByte := by
  have hok : ∀ status, (.ok l.chip.statusByte : Except DeviceError UInt8) = .ok status →
      status = l.chip.statusByte := fun _ h => (Except.ok.inj h).symm
  obtain ⟨chip, failures, history⟩ := l
  rcases failures with _ | ⟨_ | _, failures⟩
  exacts [⟨rfl, hok⟩, ⟨rfl, hok⟩, ⟨rfl, nofun⟩]

/-- A transmission that fails or is refused adds no frame, even if the frame was loaded. -/
theorem leads_transmit (f : Frame) (l : Link) : Leads (transmit f) l fun result l' =>
    l'.chip.frames.Subperm
      (l.chip.frames ++ if result = .ok .accepted then [f.anonymous] else []) := by
  let c := l.chip
  let Q (result : Except DeviceError Attempt) (l' : Link) : Prop :=
    l'.chip.frames.Subperm (c.frames ++ if result = .ok .accepted then [f.anonymous] else [])
  have hsame : ∀ {result l'}, result ≠ .ok .accepted → l'.chip.frames = c.frames → Q result l' := by
    intro result l' hresult hframes
    show l'.chip.frames.Subperm _
    rw [hframes, if_neg hresult, List.append_nil]
  refine (Steps.leads_readStatus l).bind ?_ fun e l' h => hsame nofun (congrArg Chip.frames h.1)
  rintro status l' ⟨hchip, hquery⟩
  obtain rfl := hquery status rfl
  cases hfree : freeBuffer? c.statusByte with
  | none => exact .pure (hsame nofun (congrArg Chip.frames hchip))
  | some n =>
    have hn := freeBuffer?_mem hfree
    have hunrequested : c.isRequested n = false := by
      rw [Chip.freeBuffer?_statusByte] at hfree
      simpa using List.find?_some hfree
    have hframes := c.frames_setFrom hn hunrequested f
    -- The chip is as it was, or the frame was loaded; it waits only if the chip is asked to send it.
    have hload : Leads (Steps.onBus (Steps.send ((Command.loadTransmit ||| n <<< 1) :: image f))) l'
        fun result l'' => l''.chip.frames = c.frames ∧
          (result.isOk = true →
            l''.chip = c.setFrom (Address.transmitControl n + 1) (image f)) := by
      refine Steps.leads_onBus (Steps.leads_send (fun _ => ⟨congrArg Chip.frames hchip, nofun⟩) ?_)
      rw [hchip, c.execute_loadTransmit hn]
      exact fun _ => ⟨hframes, fun _ => rfl⟩
    refine hload.bind ?_ fun e l'' h => hsame nofun h.1
    rintro _ l'' ⟨hsame', hloaded⟩
    have hrequest : Leads (Steps.onBus (Steps.send [Command.requestToSend ||| 1 <<< n])) l''
        fun result l₃ => Q (result.map fun _ => .accepted) l₃ := by
      refine Steps.leads_onBus (Steps.leads_send (fun _ => hsame nofun hsame') fun _ => ?_)
      rw [hloaded rfl, Chip.execute_requestToSend _ hn]
      have htake := (c.accounts_frames.take f).frames
      rw [Chip.take, hfree] at htake
      exact htake.subperm
    exact hrequest.bind (fun _ _ h => .pure h) fun _ _ h => h

theorem kept_frames (frames : List Frame) :
    Polling.Kept fun p => p.link.chip.frames.Subperm frames where
  read address n := Polling.keeps_onLink (Steps.Sheds.read address n)
  fetch _ hn := Polling.keeps_onLink (Steps.Sheds.readBuffer hn)
  clearErrors := Polling.keeps_onLink (Steps.Sheds.bitModify (by decide +kernel) _ 0)
  clearOthers _ := Polling.keeps_onLink (Steps.Sheds.bitModify (by decide +kernel) _ 0)
  countOverflow := fun _ hp => hp
  noteErrors := fun _ _ _ _ hp => hp
  say := fun _ _ _ hp => hp

/-- Whichever transactions fail, the chip gets a frame to send only when a transmission succeeds. -/
theorem Link.accountable (g : Frame) :
    Device.Accountable (fun l : Link => g.among l.chip.frames) g where
  start setup l := g.among_le (Keeps.self_iff.mp (sheds_start setup _) l (.refl _))
  stop l := g.among_le (Keeps.self_iff.mp (sheds_stop _) l (.refl _))
  ready l := g.among_le (Keeps.self_iff.mp (sheds_ready _) l (.refl _))
  transmit f l := by
    have hle := g.among_le (leads_transmit f l)
    rw [Frame.among_append] at hle
    refine Nat.le_trans hle (Nat.add_le_add_left (Nat.le_of_eq ?_) _)
    exact apply_ite g.among _ _ _
  poll name s l := g.among_le
    ((kept_frames l.chip.frames).rounds name 3 (p := { link := l, statistics := s }) (.refl _))
  interrupt _ _ _ := Nat.le_refl _

end Fieldbus.Mcp2515
