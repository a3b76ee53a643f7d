import Fieldbus.Proofs.Bus.Commands
import Fieldbus.Proofs.Bus.Telling
import Mathlib.Data.List.Perm.Subperm

/-! How often a frame can still go out.  The copies of a frame that a bus has are those of its device, and
those that are deferred or whose writers wait.  If the device gets one only with a frame that it accepts,
then a turn of the bus makes none but of a frame whose write does not fail (`Bus.copies_act_le`), and the
commands make none at all. -/

namespace Fieldbus

/-- How many of some frames are this one, whatever bus they are of. -/
def Frame.among (g : Frame) (frames : List Frame) : Nat := frames.countP (·.anonymous = g)

namespace Frame

variable (g : Frame)

theorem among_append (frames frames' : List Frame) :
    g.among (frames ++ frames') = g.among frames + g.among frames' := List.countP_append

theorem among_cons (f : Frame) (frames : List Frame) :
    g.among (f :: frames) = g.among [f] + g.among frames := g.among_append [f] frames

theorem among_le {frames frames' : List Frame} (h : frames.Subperm frames') :
    g.among frames ≤ g.among frames' := h.countP_le _

end Frame

namespace Deferred

/-- The deferred frames, and those whose writers wait for room. -/
def held (d : Deferred) : List Frame := d.frames ++ d.writers.map Writer.frame

variable {d d' : Deferred} {f : Frame} {ticket : Nat}

theorem among_push (g : Frame) (d : Deferred) (f : Frame) :
    g.among (d.push f).held = g.among d.held + g.among [f] := by
  show g.among ((d.frames ++ [f]) ++ d.writers.map Writer.frame) = _
  rw [held, Frame.among_append, Frame.among_append, Frame.among_append]
  omega

theorem held_await (d : Deferred) (w : Writer) : (d.await w).held = d.held ++ [w.frame] := by
  simp [held, await, writers]

theorem held_of_cons {rest : List Frame} (h : d.frames = f :: rest) : d.held = f :: d.pop.held := by
  rw [held, held, frames_pop, writers_pop, h]
  rfl

theorem held_clear_sublist (d : Deferred) : d.clear.held.Sublist d.held := by
  rw [held, frames_clear, writers_clear]
  exact List.sublist_append_right d.frames _

/-- The frame of a writer that goes on was among those of the writers. -/
theorem among_redeem? (g : Frame) (h : d.redeem? ticket = some (f, d')) :
    g.among [f] + g.among d'.held ≤ g.among d.held := by
  obtain ⟨w, hw, heq⟩ := Option.map_eq_some_iff.mp h
  obtain ⟨rfl, rfl⟩ := Prod.mk.inj heq
  -- The writers with this ticket leave, and this one is among them.
  have hticket : w.ticket = ticket := by simpa using List.find?_some hw
  have hmem : w ∈ d.granted.filter (·.ticket = ticket) :=
    List.mem_filter.mpr ⟨List.mem_of_find?_eq_some hw, decide_eq_true hticket⟩
  have hsplit : (d.granted.filter (·.ticket = ticket)
      ++ d.granted.filter fun w => !decide (w.ticket = ticket)).Perm d.granted :=
    List.filter_append_perm _ _
  have hgranted : ([w] ++ d.granted.filter (·.ticket ≠ ticket)).Subperm d.granted := by
    simp only [ne_eq, decide_not]
    exact ((List.singleton_subperm_iff.mpr hmem).append (.refl _)).trans hsplit.subperm
  have hcount := hgranted.countP_le (fun w => decide (w.frame.anonymous = g))
  rw [List.countP_append] at hcount
  simp only [held, writers, Frame.among, List.map_append, List.countP_append, List.countP_map]
  have hown : [w.frame].countP (·.anonymous = g) = [w].countP (·.frame.anonymous = g) :=
    List.countP_map (f := Writer.frame) (l := [w])
  rw [hown]
  simp only [Function.comp_def]
  omega

theorem held_abandon?_sublist (h : d.abandon? ticket = some (f, d')) : d'.held.Sublist d.held := by
  obtain ⟨w, -, heq⟩ := Option.map_eq_some_iff.mp h
  obtain ⟨-, rfl⟩ := Prod.mk.inj heq
  exact (((List.Sublist.refl d.granted).append List.filter_sublist).map _).append_left _

end Deferred

/-- How many copies of a frame a device has, so that it never gets one but with a frame that it
accepts. -/
structure Device.Accountable {δ : Type} [Device δ] (stock : δ → Nat) (g : Frame) : Prop where
  start : ∀ setup d, stock (Device.start setup d).2 ≤ stock d
  stop : ∀ d, stock (Device.stop d).2 ≤ stock d
  ready : ∀ d, stock (Device.ready d).2 ≤ stock d
  transmit : ∀ f d, stock (Device.transmit f d).2
    ≤ stock d + if (Device.transmit f d).1 = .ok .accepted then g.among [f] else 0
  poll : ∀ name s d, stock (Device.poll name s d).device ≤ stock d
  interrupt : ∀ name s d, stock (Device.interrupt name s d).device ≤ stock d

namespace Bus

variable {δ : Type}

/-- The copies of a frame that a bus has. -/
def copies (stock : δ → Nat) (g : Frame) (b : Bus δ) : Nat :=
  stock b.device + g.among b.deferred.held

/-- The frame of a turn, if it is a write and does not fail. -/
def undertaken [Device δ] (b : Bus δ) : Turn → List Frame
  | .write f patient ticket => if (b.write f patient ticket).result.isOk then [f] else []
  | _ => []

section Operations

variable [Device δ] {stock : δ → Nat} {g : Frame} (h : Device.Accountable stock g)
include h

theorem copies_transmitDeferred_le (b : Bus δ) :
    b.transmitDeferred.1.copies stock g ≤ b.copies stock g := by
  rw [transmitDeferred]
  split
  case isFalse => exact Nat.le_refl _
  -- A frame that is handed to the device has left the deferred ones.
  have hround : ∀ {f frames} {b' : Bus δ} {answer device after}, b'.deferred.frames = f :: frames →
      b'.copies stock g ≤ b.copies stock g → Device.ready b'.device = (.ok true, device) →
      Device.transmit f device = (answer, after) →
      (b'.behindFirst after).deferred.frames = frames ∧
      (b'.behindFirst after).copies stock g ≤ b.copies stock g := by
    intro f frames b' answer device after hframes hle hready htransmit
    have hdevice := h.ready b'.device
    have hafter := h.transmit f device
    rw [hready] at hdevice
    rw [htransmit] at hafter
    refine ⟨by rw [behindFirst, Deferred.frames_pop, hframes, List.tail_cons], ?_⟩
    rw [copies, Deferred.held_of_cons hframes, Frame.among_cons] at hle
    rw [copies, behindFirst]
    dsimp only at hdevice hafter ⊢
    split at hafter <;> omega
  let P (frames : List Frame) (b' : Bus δ) (_ : List Effect) : Prop :=
    b'.deferred.frames = frames ∧ b'.copies stock g ≤ b.copies stock g
  have hP : P b.deferred.frames b [] := ⟨rfl, Nat.le_refl _⟩
  refine Exists.elim (moveDeferred_induct ?rest ?notice ?sent ?failed hP) fun _ hfinal => hfinal.2
  case rest =>
    rintro frames b' said answer device ⟨hframes, hle⟩ hready -
    have hdevice := h.ready b'.device
    rw [hready] at hdevice
    exact ⟨hframes, Nat.le_trans (Nat.add_le_add_right hdevice _) hle⟩
  case notice => exact fun _ _ hb => hb
  case sent =>
    rintro f frames b' said device after ⟨hframes, hle⟩ hready htransmit
    exact hround hframes hle hready htransmit
  case failed =>
    rintro f frames b' said answer device after ⟨hframes, hle⟩ hready htransmit -
    exact hround hframes hle hready htransmit

theorem copies_defer_le (b : Bus δ) (f : Frame) :
    (b.defer f).bus.copies stock g ≤ b.copies stock g + g.among [f] := by
  have hmoved := copies_transmitDeferred_le h
    { b with statistics := b.statistics.countDelayed, deferred := b.deferred.push f }
  have hpush := b.deferred.among_push g f
  rw [defer]
  dsimp only
  refine Nat.le_trans hmoved (Nat.le_of_eq ?_)
  rw [copies, copies, hpush, Nat.add_assoc]

theorem copies_deferOrWait_le (b : Bus δ) (f : Frame) (patient : Bool) (ticket : Nat) :
    (b.deferOrWait f patient ticket).bus.copies stock g ≤ b.copies stock g + g.among [f] := by
  rw [deferOrWait]
  split
  · exact copies_defer_le h b f
  split
  · show stock b.device + g.among (b.deferred.await ⟨ticket, f⟩).held ≤ _
    rw [Deferred.held_await, Frame.among_append, copies, Nat.add_assoc]
  · exact Nat.le_add_right _ _

/-- A write that fails makes no copy of its frame, nor of any other. -/
theorem copies_write_le (b : Bus δ) (f : Frame) (patient : Bool) (ticket : Nat) :
    (b.write f patient ticket).bus.copies stock g ≤ b.copies stock g
      + if (b.write f patient ticket).result.isOk then g.among [f] else 0 := by
  let g' := f.withOrigin b.name
  have hdefers : ∀ b : Bus δ, (b.deferOrWait g' patient ticket).bus.copies stock g
      ≤ b.copies stock g
        + if (b.deferOrWait g' patient ticket).result.isOk then g.among [f] else 0 := by
    intro b
    rw [b.isOk_deferOrWait g' patient ticket, if_pos rfl]
    exact copies_deferOrWait_le h b g' patient ticket
  rw [write]
  dsimp only
  split
  · exact Nat.le_add_right _ _
  split
  case isFalse => exact hdefers b
  have hafter := h.transmit g' b.device
  rcases ht : Device.transmit g' b.device with ⟨e | _ | _, after⟩
  all_goals rw [ht] at hafter
  · have hfailed : (Except.error e : Except DeviceError Attempt) ≠ .ok .accepted := by simp
    rw [if_neg hfailed, Nat.add_zero] at hafter
    exact Nat.add_le_add_right hafter _
  · rw [if_pos rfl, Nat.add_comm] at hafter
    show stock after + g.among b.deferred.held ≤ b.copies stock g + g.among [f]
    rw [copies, Nat.add_right_comm, Nat.add_comm (stock b.device)]
    exact Nat.add_le_add_right hafter _
  · have hbusy : (Except.ok .busy : Except DeviceError Attempt) ≠ .ok .accepted := by simp
    rw [if_neg hbusy, Nat.add_zero] at hafter
    exact Nat.le_trans (hdefers { b with device := after })
      (Nat.add_le_add_right (Nat.add_le_add_right hafter _) _)

theorem copies_resume_le (b : Bus δ) (ticket : Nat) :
    (b.resume ticket).bus.copies stock g ≤ b.copies stock g := by
  rw [resume]
  split
  · next f deferred hredeem =>
    have hdefer := copies_defer_le h { b with deferred } f
    have hredeemed := Deferred.among_redeem? g hredeem
    rw [copies] at hdefer ⊢
    rw [copies] at hdefer ⊢
    dsimp only at hdefer ⊢
    omega
  · exact Nat.le_refl _

omit h [Device δ] in
theorem copies_expire_le (b : Bus δ) (ticket : Nat) :
    (b.expire ticket).bus.copies stock g ≤ b.copies stock g := by
  rw [expire]
  split
  · next f deferred habandon =>
    exact Nat.add_le_add_left (g.among_le (Deferred.held_abandon?_sublist habandon).subperm) _
  · exact Nat.le_refl _

theorem copies_act_le (b : Bus δ) (t : Turn) :
    (b.act t).bus.copies stock g ≤ b.copies stock g + g.among (b.undertaken t) := by
  cases t with
  | write f patient ticket =>
    rw [undertaken, apply_ite g.among]
    exact copies_write_le h b f patient ticket
  | resume ticket => exact copies_resume_le h b ticket
  | expire ticket => exact b.copies_expire_le ticket
  | transmitDeferred => exact copies_transmitDeferred_le h b

theorem copies_obey_le (b : Bus δ) (c : Command) :
    (b.obey c).bus.copies stock g ≤ b.copies stock g := by
  obtain ⟨setup, -, -, heq⟩ | ⟨-, -, heq⟩ | ⟨-, heq⟩ := b.obey_cases c
  · obtain ⟨-, -, hdevice, -, hdeferred⟩ := b.start_eq setup
    rw [heq, copies, hdevice, hdeferred]
    exact Nat.add_le_add_right (h.start setup b.device) _
  · obtain ⟨-, -, hdevice, -⟩ := b.halt_eq c.target
    have hdeferred := congrArg Prod.snd (b.deferred_halt c.target)
    rw [heq, copies, hdevice, show (b.halt c.target).bus.deferred = _ from hdeferred]
    refine Nat.add_le_add (h.stop b.device) (g.among_le ?_)
    split
    · exact b.deferred.held_clear_sublist.subperm
    · exact .refl _
  · rw [heq]

theorem copies_poll_le (b : Bus δ) : b.poll.bus.copies stock g ≤ b.copies stock g :=
  Nat.add_le_add_right (h.poll b.name b.statistics b.device) _

theorem copies_handled_le (b : Bus δ) : b.handled.copies stock g ≤ b.copies stock g :=
  Nat.add_le_add_right (h.interrupt b.name b.statistics b.device) _

end Operations
end Bus
end Fieldbus
