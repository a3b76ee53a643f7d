import Fieldbus.Device.Scripted
import Fieldbus.Proofs.Device.Traced

/-! The order of transmitted frames (`Run.kept_turns`).  A frame is admitted when its write is
answered with `sent` or when it is deferred.  A ledger of the admitted frames, kept from what the
operations of a bus answer and say, is compared with what the device was handed: the frames that
are not lost are those that the device accepted, and behind them the deferred ones. -/

namespace Fieldbus

inductive Fate where
  | pending
  | accepted
  | lost
deriving DecidableEq

structure Admitted where
  frame : Frame
  fate : Fate := .pending
deriving DecidableEq

abbrev Ledger := List Admitted

namespace Ledger

def settle (fate : Fate) (f : Frame) : Ledger → Ledger
  | [] => []
  | a :: rest =>
    if a.fate = .pending ∧ a.frame = f then { a with fate } :: rest else a :: settle fate f rest

def note (ledger : Ledger) : Effect → Ledger
  | .entry _ (.frame .deferred f) => ledger ++ [{ frame := f }]
  | .entry _ (.frame .sent f) => ledger.settle .accepted f
  | .entry _ (.frame .failed f) => ledger.settle .lost f
  | _ => ledger

def kept (ledger : Ledger) : List Frame :=
  (ledger.filter fun a => a.fate ≠ .lost).map (·.frame)

/-- Some frames have met their fate, the accepted ones among them as given; those behind them are
pending. -/
structure Balanced (ledger : Ledger) (accepted pending : List Frame) : Prop where
  split : ∃ settled, ledger = settled ++ pending.map (fun f => { frame := f }) ∧
    (∀ a ∈ settled, a.fate ≠ .pending) ∧
    (settled.filter fun a => a.fate = .accepted).map (·.frame) = accepted

namespace Balanced

variable {ledger : Ledger} {accepted pending : List Frame} {f : Frame}

theorem empty : Balanced [] [] [] := ⟨[], rfl, by simp, rfl⟩

theorem defer (h : Balanced ledger accepted pending) (f : Frame) :
    Balanced (ledger ++ [{ frame := f }]) accepted (pending ++ [f]) := by
  obtain ⟨settled, rfl, hsettled, haccepted⟩ := h.split
  exact ⟨settled, by simp, hsettled, haccepted⟩

theorem settle_split {settled : Ledger} (h : ∀ a ∈ settled, a.fate ≠ .pending) (fate : Fate)
    (f : Frame) (rest : Ledger) :
    settle fate f (settled ++ { frame := f } :: rest)
      = settled ++ { frame := f, fate } :: rest := by
  induction settled with
  | nil => exact if_pos ⟨rfl, rfl⟩
  | cons a settled ih =>
    have ha : a.fate ≠ .pending := h a (List.mem_cons_self ..)
    rw [List.cons_append, settle, if_neg fun hand => ha hand.1,
      ih fun a' ha' => h a' (List.mem_cons_of_mem _ ha')]
    rfl

theorem settle (h : Balanced ledger accepted (f :: pending)) {fate : Fate}
    (hfate : fate ≠ .pending) :
    Balanced (ledger.settle fate f) (accepted ++ if fate = .accepted then [f] else []) pending := by
  obtain ⟨settled, rfl, hsettled, haccepted⟩ := h.split
  refine ⟨settled ++ [{ frame := f, fate }], ?_, ?_, ?_⟩
  · rw [List.map_cons, settle_split hsettled, List.append_assoc]
    rfl
  · intro a ha
    rcases List.mem_append.mp ha with ha | ha
    · exact hsettled a ha
    · rw [List.mem_singleton.mp ha]
      exact hfate
  · rw [List.filter_append, List.map_append, haccepted]
    split <;> simp_all

theorem kept_eq (h : Balanced ledger accepted pending) : ledger.kept = accepted ++ pending := by
  obtain ⟨settled, rfl, hsettled, rfl⟩ := h.split
  have hfates : settled.filter (fun a => a.fate ≠ .lost)
      = settled.filter fun a => a.fate = .accepted := by
    refine List.filter_congr fun a ha => ?_
    have := hsettled a ha
    cases hfate : a.fate <;> simp_all
  rw [kept, List.filter_append, hfates, List.map_append]
  simp [List.filter_map, Function.comp_def]

end Balanced

/-- What a ledger learns from an operation.  The frame of a write is `written`; one that was
rejected has not been admitted. -/
def record {δ : Type} (ledger : Ledger) (written : Option Frame)
    (o : Outcome δ (Except DeviceError Writing)) : Ledger :=
  match o.result with
  | .ok (.done .rejected) => ledger
  | .ok (.done .sent) => o.effects.foldl note (ledger ++ written.toList.map ({ frame := · }))
  | _ => o.effects.foldl note ledger

end Ledger

/-- What may happen to the frames of a bus between two starts or halts of it. -/
inductive Turn where
  | write (f : Frame) (patient : Bool) (ticket : Nat)
  /-- A writer goes on that was granted a slot. -/
  | resume (ticket : Nat)
  /-- The patience of a writer is over. -/
  | expire (ticket : Nat)
  /-- Transmit buffers may have become free. -/
  | transmitDeferred

structure Run (δ : Type) where
  bus : Bus δ
  ledger : Ledger := []

namespace Run

variable {δ : Type} [Device δ]

def turn (r : Run δ) : Turn → Run δ
  | .write f patient ticket =>
    let o := r.bus.write f patient ticket
    { bus := o.bus, ledger := r.ledger.record (some (f.withOrigin r.bus.name)) o }
  | .resume ticket =>
    let o := r.bus.resume ticket
    { bus := o.bus, ledger := r.ledger.record none o }
  | .expire ticket =>
    let o := r.bus.expire ticket
    { bus := o.bus, ledger := r.ledger.record none o }
  | .transmitDeferred =>
    let (bus, effects) := r.bus.transmitDeferred
    { bus, ledger := effects.foldl Ledger.note r.ledger }

def turns (r : Run δ) (turns : List Turn) : Run δ := turns.foldl turn r

def untrace (r : Run (Traced δ)) : Run δ := { bus := r.bus.untrace, ledger := r.ledger }

/-- The ledger balances what the device accepted and what is deferred. -/
structure Ordered (r : Run (Traced δ)) : Prop where
  used_le : r.bus.deferred.used ≤ Deferred.capacity
  balanced : r.ledger.Balanced r.bus.device.accepted r.bus.deferred.frames

section Steps

variable {b : Bus (Traced δ)} {ledger : Ledger}

theorem Ordered.behindFirst (h : Ordered ⟨b, ledger⟩) {f : Frame} {frames : List Frame}
    (hframes : b.deferred.frames = f :: frames) {answer : Except DeviceError Attempt}
    {device after : Traced δ} (hready : Device.ready b.device = (.ok true, device))
    (htransmit : Device.transmit f device = (answer, after)) (fate : Fate)
    (hfate : fate ≠ .pending)
    (htaken : (Traced.taken? (f, answer)).toList = if fate = .accepted then [f] else []) :
    b.deferred.pop.frames = frames ∧ b.deferred.pop.used ≤ Deferred.capacity ∧
    (ledger.settle fate f).Balanced after.accepted b.deferred.pop.frames := by
  have hpop : b.deferred.pop.frames = frames := by
    rw [Deferred.frames_pop, hframes, List.tail_cons]
  have hused : b.deferred.pop.used ≤ b.deferred.used := Deferred.used_pop_le (by simp [hframes])
  have hbalanced : ledger.Balanced device.accepted (f :: frames) := by
    rw [← hframes, Traced.accepted_of_ready hready]
    exact h.balanced
  refine ⟨hpop, Nat.le_trans hused h.used_le, ?_⟩
  rw [hpop, Traced.accepted_of_transmit htransmit, htaken]
  exact hbalanced.settle hfate

theorem Ordered.transmitDeferred (h : Ordered ⟨b, ledger⟩) :
    Ordered ⟨b.transmitDeferred.1, b.transmitDeferred.2.foldl Ledger.note ledger⟩ := by
  rw [Bus.transmitDeferred]
  split
  case isFalse => exact h
  -- After every round, the ledger balances the frames that are still to be moved.
  let P (frames : List Frame) (b : Bus (Traced δ)) (said : List Effect) : Prop :=
    b.deferred.frames = frames ∧ Ordered ⟨b, said.foldl Ledger.note ledger⟩
  have hP : P b.deferred.frames b [] := ⟨rfl, h⟩
  refine Exists.elim (Bus.moveDeferred_induct ?rest ?notice ?sent ?failed hP)
    fun _ hfinal => hfinal.2
  case rest =>
    rintro frames b said answer device ⟨hframes, hused, hbalanced⟩ hready -
    refine ⟨hframes, hused, ?_⟩
    show Ledger.Balanced _ device.accepted _
    rw [Traced.accepted_of_ready hready]
    exact hbalanced
  case notice =>
    rintro frames b said n - ⟨hframes, hordered⟩
    refine ⟨hframes, ?_⟩
    rw [List.foldl_append]
    exact hordered
  case sent =>
    rintro f frames b said device after ⟨hframes, hordered⟩ hready htransmit
    obtain ⟨hpop, hused, hbalanced⟩ :=
      hordered.behindFirst hframes hready htransmit .accepted (by decide) rfl
    refine ⟨hpop, hused, ?_⟩
    rw [List.foldl_append]
    exact hbalanced
  case failed =>
    rintro f frames b said answer device after ⟨hframes, hordered⟩ hready htransmit hanswer
    have htaken := congrArg Option.toList (Traced.taken?_of_ne (f := f) hanswer)
    obtain ⟨hpop, hused, hbalanced⟩ :=
      hordered.behindFirst hframes hready htransmit .lost (by decide) htaken
    refine ⟨hpop, hused, ?_⟩
    rw [List.foldl_append]
    exact hbalanced

theorem Ordered.defer (h : Ordered ⟨b, ledger⟩) (hroom : b.deferred.used < Deferred.capacity)
    (f : Frame) : Ordered ⟨(b.defer f).bus, ledger.record none (b.defer f)⟩ := by
  have hpush : Ordered ⟨{ b with
      statistics := b.statistics.countDelayed, deferred := b.deferred.push f },
      ledger ++ [{ frame := f }]⟩ := by
    refine ⟨?_, h.balanced.defer f⟩
    show (b.deferred.push f).used ≤ _
    rw [Deferred.used_push]
    exact hroom
  exact hpush.transmitDeferred

theorem Ordered.deferOrWait (h : Ordered ⟨b, ledger⟩) (f : Frame) (patient : Bool)
    (ticket : Nat) (written : Option Frame) :
    Ordered ⟨(b.deferOrWait f patient ticket).bus,
      ledger.record written (b.deferOrWait f patient ticket)⟩ := by
  rw [Bus.deferOrWait]
  split
  · next hroom => exact h.defer (Deferred.used_lt_of_hasRoom hroom) f
  · cases patient
    · exact ⟨h.used_le, h.balanced⟩
    · exact ⟨h.used_le, h.balanced⟩

/-- The hardware is tried only when nothing is deferred, so a frame that is sent at once is the last
of the accepted ones. -/
theorem Ordered.write (h : Ordered ⟨b, ledger⟩) (f : Frame) (patient : Bool) (ticket : Nat) :
    Ordered ⟨(b.write f patient ticket).bus,
      ledger.record (some (f.withOrigin b.name)) (b.write f patient ticket)⟩ := by
  rw [Bus.write]
  dsimp only
  split
  · exact h
  split
  · next hnone =>
    -- No entry is pending, so the one of this frame is the oldest that can be settled.
    have hframes : b.deferred.frames = [] :=
      List.eq_nil_of_length_eq_zero (Nat.eq_zero_of_add_eq_zero_right hnone)
    have hunchanged : ∀ {answer after},
        Device.transmit (f.withOrigin b.name) b.device = (answer, after) →
        answer ≠ .ok .accepted → Ordered ⟨{ b with device := after }, ledger⟩ := by
      intro answer after ht hanswer
      refine ⟨h.used_le, ?_⟩
      show Ledger.Balanced _ after.accepted _
      rw [Traced.accepted_of_transmit ht, Traced.taken?_of_ne hanswer, Option.toList_none,
        List.append_nil]
      exact h.balanced
    rcases ht : Device.transmit (f.withOrigin b.name) b.device with ⟨e | _ | _, after⟩
    · exact hunchanged ht (by simp)
    · refine ⟨h.used_le, ?_⟩
      have hadmitted := h.balanced.defer (f.withOrigin b.name)
      dsimp only at hadmitted
      rw [hframes] at hadmitted
      show Ledger.Balanced _ after.accepted b.deferred.frames
      rw [hframes, Traced.accepted_of_transmit ht]
      exact hadmitted.settle (by decide)
    · exact (hunchanged ht (by simp)).deferOrWait ..
  · exact h.deferOrWait ..

theorem Ordered.resume (h : Ordered ⟨b, ledger⟩) (ticket : Nat) :
    Ordered ⟨(b.resume ticket).bus, ledger.record none (b.resume ticket)⟩ := by
  rw [Bus.resume]
  split
  · next f deferred hredeem =>
    obtain ⟨hframes, hused⟩ := Deferred.redeem?_eq_some hredeem
    have hredeemed : Ordered ⟨{ b with deferred }, ledger⟩ :=
      ⟨Nat.le_trans (Nat.le_of_lt hused) h.used_le, hframes ▸ h.balanced⟩
    exact hredeemed.defer (Nat.lt_of_lt_of_le hused h.used_le) f
  · exact h

omit [Device δ] in
theorem Ordered.expire (h : Ordered ⟨b, ledger⟩) (ticket : Nat) :
    Ordered ⟨(b.expire ticket).bus, ledger.record none (b.expire ticket)⟩ := by
  rw [Bus.expire]
  split
  · next f deferred habandon =>
    obtain ⟨hframes, hused⟩ := Deferred.abandon?_eq_some habandon
    exact ⟨hused ▸ h.used_le, hframes ▸ h.balanced⟩
  · exact h

end Steps

theorem Ordered.turn {r : Run (Traced δ)} (h : r.Ordered) (t : Turn) : (r.turn t).Ordered := by
  cases t with
  | write f patient ticket => exact Ordered.write h f patient ticket
  | resume ticket => exact Ordered.resume h ticket
  | expire ticket => exact Ordered.expire h ticket
  | transmitDeferred => exact Ordered.transmitDeferred h

theorem Ordered.turns {r : Run (Traced δ)} (h : r.Ordered) (turns : List Turn) :
    (r.turns turns).Ordered := by
  induction turns generalizing r with
  | nil => exact h
  | cons t turns ih => exact ih (h.turn t)

omit [Device δ] in
theorem record_untrace (ledger : Ledger) (written : Option Frame)
    (o : Outcome (Traced δ) (Except DeviceError Writing)) :
    ledger.record written o.untrace = ledger.record written o := rfl

theorem untrace_turn (r : Run (Traced δ)) (t : Turn) :
    (r.turn t).untrace = r.untrace.turn t := by
  cases t with
  | write f patient ticket =>
    have h := r.bus.untrace_write f patient ticket
    simp only [turn, untrace, ← h, record_untrace]
    rfl
  | resume ticket =>
    simp only [turn, untrace, ← Bus.untrace_resume, record_untrace]
    rfl
  | expire ticket =>
    simp only [turn, untrace, ← Bus.untrace_expire, record_untrace]
    rfl
  | transmitDeferred =>
    obtain ⟨hbus, heffects⟩ := r.bus.untrace_transmitDeferred
    simp only [turn, untrace, hbus, heffects]

theorem untrace_turns (r : Run (Traced δ)) (turns : List Turn) :
    (r.turns turns).untrace = r.untrace.turns turns := by
  induction turns generalizing r with
  | nil => rfl
  | cons t turns ih =>
    show ((r.turn t).turns turns).untrace = (r.untrace.turn t).turns turns
    rw [ih, untrace_turn]

/-- From a start on at which nothing was deferred, and whatever turns follow, the slots suffice, and
the admitted frames that are not lost are those that the device accepted and behind them the
deferred ones. -/
theorem kept_turns (b : Bus δ) (setup : Setup) (h : b.deferred = {}) (turns : List Turn) :
    let started := (b.start setup).bus
    let r := ({ bus := started.trace } : Run (Traced δ)).turns turns
    r.untrace = ({ bus := started } : Run δ).turns turns ∧
    r.bus.deferred.used ≤ Deferred.capacity ∧
    r.ledger.kept = r.bus.device.accepted ++ r.bus.deferred.frames := by
  intro started r
  have hdeferred : started.deferred = {} := (b.deferred_start setup).trans h
  have hinitial : Ordered { bus := started.trace } := by
    refine ⟨?_, ?_⟩
    · show started.deferred.used ≤ _
      rw [hdeferred]
      exact Nat.zero_le _
    · show Ledger.Balanced [] [] started.deferred.frames
      rw [hdeferred]
      exact .empty
  have hr : r.Ordered := hinitial.turns turns
  exact ⟨untrace_turns _ turns, hr.used_le, hr.balanced.kept_eq⟩

/-- The first frame is lost, the second one sent, and the third one waits. -/
theorem kept_turns_of_three :
    let f (id : UInt32) (h : id ≤ 0x7ff) : Frame :=
      ⟨some (.numbered 1), id, .standard, [], h, by decide⟩
    let f₁ := f 1 (by decide)
    let f₂ := f 2 (by decide)
    let f₃ := f 3 (by decide)
    let device : Scripted :=
      { transmits := [.ok .busy, .ok .busy, .ok .accepted, .ok .busy]
        readies := [.ok true, .ok false] }
    let b : Bus Scripted := { name := .numbered 1, device }
    let turns : List Turn := [.write f₁ false 1, .write f₂ false 2, .write f₃ true 3]
    let started := (b.start ⟨.active, .kbps500⟩).bus
    let r := ({ bus := started.trace } : Run (Traced Scripted)).turns turns
    r.ledger = [⟨f₁, .lost⟩, ⟨f₂, .accepted⟩, ⟨f₃, .pending⟩] ∧
    r.ledger.kept = r.bus.device.accepted ++ r.bus.deferred.frames := by
  intro f f₁ f₂ f₃ device b turns
  exact ⟨by decide +kernel, (kept_turns b ⟨.active, .kbps500⟩ rfl turns).2.2⟩

end Run
end Fieldbus
