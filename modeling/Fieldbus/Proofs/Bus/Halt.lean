import Fieldbus.Device.Scripted
import Fieldbus.Proofs.Bus.Power
import Fieldbus.Proofs.Device.Traced

/-! What a halt leaves behind.  A history follows every write of a bus over starts and halts: from the
frames that are deferred and those that the device is handed, which leave the deferred ones in their
order, it tells whose frame each of them is.  A frame that was written before a halt is not handed
over after it, and none is deferred while the bus is not on, but for the frames of writers that a
halt found waiting for room (`History.handed_events`): the slots that it frees are granted to them,
and they go on as if nothing had happened. -/

namespace Fieldbus

/-! ### The ways of frames -/

def Traced.frames {δ : Type} (d : Traced δ) : List Frame := d.handed.map (·.1)

namespace Bus

variable {δ : Type} [Device δ]

/-- Between two states of a bus, frames were put behind the deferred ones, and frames left these at
the front.  The latter were handed to the device, after some that were never deferred. -/
structure Moved (before after : Bus (Traced δ)) (direct pushed moved : List Frame) : Prop where
  power : after.power = before.power
  frames : before.deferred.frames ++ pushed = moved ++ after.deferred.frames
  handed : after.device.frames = before.device.frames ++ (direct ++ moved)

omit [Device δ] in
theorem Moved.still {before after : Bus (Traced δ)} {direct : List Frame}
    (power : after.power = before.power) (frames : after.deferred.frames = before.deferred.frames)
    (handed : after.device.frames = before.device.frames ++ direct) :
    Moved before after direct [] [] :=
  ⟨power, by rw [frames, List.append_nil, List.nil_append], by rw [handed, List.append_nil]⟩

omit [Device δ] in
theorem Moved.refl (b : Bus (Traced δ)) : Moved b b [] [] [] :=
  .still rfl rfl (List.append_nil _).symm

theorem moved_transmitDeferred (b : Bus (Traced δ)) :
    ∃ moved, Moved b b.transmitDeferred.1 [] [] moved ∧
      b.transmitDeferred.1.deferred.writers = b.deferred.writers := by
  rw [transmitDeferred]
  split
  case isFalse => exact ⟨[], .refl b, rfl⟩
  let P (frames : List Frame) (b' : Bus (Traced δ)) : Prop :=
    b'.deferred.frames = frames ∧ ∃ moved, Moved b b' [] [] moved ∧
      b'.deferred.writers = b.deferred.writers
  have hP : P b.deferred.frames b := ⟨rfl, [], .refl b, rfl⟩
  -- A frame that was handed over has left the deferred ones.
  have hround : ∀ {f frames b' answer device after} (statistics : Statistics),
      P (f :: frames) b' → Device.ready b'.device = (.ok true, device) →
      Device.transmit f device = (answer, after) →
      P frames { b'.behindFirst after with statistics } := by
    rintro f frames b' answer device after statistics ⟨hframes, moved, hmoved, hwriters⟩
      hready htransmit
    have htail : b'.deferred.pop.frames = frames := by
      rw [Deferred.frames_pop, hframes, List.tail_cons]
    have hafter : after.frames = b'.device.frames ++ [f] := by
      obtain rfl := congrArg Prod.snd hready
      obtain rfl := congrArg Prod.snd htransmit
      exact List.map_append ..
    refine ⟨htail, moved ++ [f], ⟨hmoved.power, ?_, ?_⟩, ?_⟩
    · show _ = moved ++ [f] ++ b'.deferred.pop.frames
      rw [hmoved.frames, hframes, htail, List.append_assoc]
      rfl
    · show after.frames = _
      rw [hafter, hmoved.handed, List.append_assoc, List.append_assoc]
    · show b'.deferred.pop.writers = _
      rw [Deferred.writers_pop, hwriters]
  let Q (frames : List Frame) (b' : Bus (Traced δ)) (_ : List Effect) : Prop := P frames b'
  have hQ : Q b.deferred.frames b [] := hP
  refine Exists.elim (moveDeferred_induct ?rest ?notice ?sent ?failed hQ) fun _ h => h.2
  case rest =>
    rintro frames b' - answer device ⟨hframes, moved, hmoved, hwriters⟩ hready -
    obtain rfl := congrArg Prod.snd hready
    exact ⟨hframes, moved, ⟨hmoved.power, hmoved.frames, hmoved.handed⟩, hwriters⟩
  case notice => exact fun _ _ h => h
  case sent =>
    intro f frames b' _ device after h hready htransmit
    exact hround _ h hready htransmit
  case failed =>
    intro f frames b' _ answer device after h hready htransmit _
    exact hround _ h hready htransmit

theorem moved_defer (b : Bus (Traced δ)) (f : Frame) :
    (b.defer f).result = .ok (.done .queued) ∧
    ∃ moved, Moved b (b.defer f).bus [] [f] moved ∧
      (b.defer f).bus.deferred.writers = b.deferred.writers := by
  refine ⟨rfl, ?_⟩
  obtain ⟨moved, hmoved, hwriters⟩ := moved_transmitDeferred
    { b with statistics := b.statistics.countDelayed, deferred := b.deferred.push f }
  refine ⟨moved, ⟨hmoved.power, ?_, hmoved.handed⟩, hwriters⟩
  exact (List.append_nil _).symm.trans hmoved.frames

/-- Those of `own` that an operation has put behind the deferred frames, by its answer. -/
def pushed {α : Type} (own : List α) : Except DeviceError Writing → List α
  | .ok (.done .queued) => own
  | _ => []

omit [Device δ] in
theorem map_pushed {α β : Type} (f : α → β) (own : List α) (result : Except DeviceError Writing) :
    (pushed own result).map f = pushed (own.map f) result := by
  rcases result with _ | ⟨_ | _ | _⟩ | _ <;> rfl

omit [Device δ] in
theorem pushed_nil {α : Type} (result : Except DeviceError Writing) :
    pushed ([] : List α) result = [] := by
  rcases result with _ | ⟨_ | _ | _⟩ | _ <;> rfl

omit [Device δ] in
theorem mem_pushed {α : Type} {x : α} {own : List α} {result : Except DeviceError Writing}
    (h : x ∈ pushed own result) : x ∈ own := by
  unfold pushed at h
  split at h
  · exact h
  · exact absurd h List.not_mem_nil

theorem moved_deferOrWait (b : Bus (Traced δ)) (g : Frame) (patient : Bool) (ticket : Nat) :
    let o := b.deferOrWait g patient ticket
    ∃ moved, Moved b o.bus [] (pushed [g] o.result) moved ∧
      ∀ v ∈ o.bus.deferred.writers, v ∈ b.deferred.writers ∨ v = ⟨ticket, g⟩ := by
  rw [deferOrWait]
  dsimp only
  split
  · obtain ⟨hresult, moved, hmoved, hwriters⟩ := moved_defer b g
    rw [hresult]
    exact ⟨moved, hmoved, fun v hv => .inl (hwriters ▸ hv)⟩
  split
  · refine ⟨[], .still rfl rfl (List.append_nil _).symm, fun v hv => ?_⟩
    rcases List.mem_append.mp hv with hv | hv
    · exact .inl (List.mem_append_left _ hv)
    · rcases List.mem_append.mp hv with hv | hv
      · exact .inl (List.mem_append_right _ hv)
      · exact .inr (List.mem_singleton.mp hv)
  · exact ⟨[], .still rfl rfl (List.append_nil _).symm, fun v hv => .inl hv⟩

/-- A write hands its frame over directly at most once, and does nothing if the bus is not on. -/
theorem moved_write (b : Bus (Traced δ)) (f : Frame) (patient : Bool) (ticket : Nat) :
    let o := b.write f patient ticket
    let g := f.withOrigin b.name
    ∃ direct moved, Moved b o.bus direct (pushed [g] o.result) moved ∧
      (direct = [] ∨ direct = [g]) ∧
      (∀ v ∈ o.bus.deferred.writers, v ∈ b.deferred.writers ∨
        b.isRunning = true ∧ v = ⟨ticket, g⟩) ∧
      (b.isRunning = false → direct = [] ∧ pushed [g] o.result = []) := by
  rw [write]
  dsimp only
  cases hrunning : b.isRunning
  · exact ⟨[], [], .refl b, .inl rfl, fun v hv => .inl hv, fun _ => ⟨rfl, rfl⟩⟩
  rw [if_neg (by decide)]
  split
  · -- The device is tried at once.
    have hafter : ∀ {answer after},
        Device.transmit (f.withOrigin b.name) b.device = (answer, after) →
        after.frames = b.device.frames ++ [f.withOrigin b.name] := by
      intro answer after ht
      obtain rfl := congrArg Prod.snd ht
      exact List.map_append ..
    rcases ht : Device.transmit (f.withOrigin b.name) b.device with ⟨e | _ | _, after⟩
    · exact ⟨_, [], .still rfl rfl (hafter ht), .inr rfl, fun v hv => .inl hv, by simp⟩
    · exact ⟨_, [], .still rfl rfl (hafter ht), .inr rfl, fun v hv => .inl hv, by simp⟩
    · obtain ⟨moved, hmoved, hwriters⟩ :=
        moved_deferOrWait { b with device := after } (f.withOrigin b.name) patient ticket
      refine ⟨[f.withOrigin b.name], moved, ⟨hmoved.power, hmoved.frames, ?_⟩, .inr rfl,
        fun v hv => (hwriters v hv).imp_right fun h => ⟨rfl, h⟩, by simp⟩
      rw [hmoved.handed]
      show after.frames ++ ([] ++ moved) = _
      rw [hafter ht, List.nil_append, List.append_assoc]
  · obtain ⟨moved, hmoved, hwriters⟩ := moved_deferOrWait b (f.withOrigin b.name) patient ticket
    exact ⟨[], moved, hmoved, .inl rfl, fun v hv => (hwriters v hv).imp_right fun h => ⟨rfl, h⟩,
      by simp⟩

theorem moved_resume (b : Bus (Traced δ)) (ticket : Nat) :
    b.resume ticket = { result := .ok .waiting, bus := b } ∨
    ∃ f moved, ⟨ticket, f⟩ ∈ b.deferred.writers ∧
      (b.resume ticket).result = .ok (.done .queued) ∧
      Moved b (b.resume ticket).bus [] [f] moved ∧
      ∀ v ∈ (b.resume ticket).bus.deferred.writers, v ∈ b.deferred.writers := by
  rw [resume]
  split
  case h_2 => exact .inl rfl
  next f deferred hredeem =>
  obtain ⟨hwriter, hwriters⟩ := Deferred.writer_of_redeem? hredeem
  obtain ⟨hresult, moved, hmoved, hafter⟩ := moved_defer { b with deferred } f
  refine .inr ⟨f, moved, hwriter, hresult, ⟨hmoved.power, ?_, hmoved.handed⟩, ?_⟩
  · rw [← hmoved.frames, ← (Deferred.redeem?_eq_some hredeem).1]
  · intro v hv
    exact hwriters v (hafter ▸ hv)

omit [Device δ] in
theorem moved_expire (b : Bus (Traced δ)) (ticket : Nat) :
    Moved b (b.expire ticket).bus [] [] [] ∧
    ∀ v ∈ (b.expire ticket).bus.deferred.writers, v ∈ b.deferred.writers := by
  rw [expire]
  split
  · next f deferred habandon =>
    exact ⟨.still rfl (Deferred.abandon?_eq_some habandon).1 (List.append_nil _).symm,
      Deferred.writers_of_abandon? habandon⟩
  · exact ⟨.refl b, fun v hv => hv⟩

end Bus

/-! ### Histories -/

inductive Event where
  | write (f : Frame) (patient : Bool)
  /-- A writer goes on that was granted a slot. -/
  | resume (ticket : Nat)
  /-- The patience of a writer is over. -/
  | expire (ticket : Nat)
  /-- Transmit buffers may have become free. -/
  | transmitDeferred
  | start (setup : Setup)
  | stop
  | setPower (power : Power)

/-- How many writes were called, so many of them before the event. -/
def Event.writes (before : Nat) : Event → Nat
  | .write .. => before + 1
  | _ => before

namespace Bus

variable {δ : Type} [Device δ]

/-- The bus after an event, at which so many writes were called already. -/
def after (b : Bus δ) (writes : Nat) : Event → Bus δ
  | .write f patient => (b.write f patient writes).bus
  | .resume ticket => (b.resume ticket).bus
  | .expire ticket => (b.expire ticket).bus
  | .transmitDeferred => b.transmitDeferred.1
  | .start setup => (b.start setup).bus
  | .stop => b.stop.bus
  | .setPower power => (b.setPower power).bus

/-- The bus after some events.  The writers get their tickets in the order of their calls. -/
def lived (b : Bus δ) (writes : Nat) : List Event → Bus δ
  | [] => b
  | e :: events => (b.after writes e).lived (e.writes writes) events

end Bus

structure WriteCall where
  ticket : Nat
  frame : Frame
  halts : Nat
deriving DecidableEq

/-- The device was handed the frame of a write, after so many halts. -/
structure Handover where
  write : WriteCall
  halts : Nat
deriving DecidableEq

/-- A bus and what became of all that was written to it. -/
structure History (δ : Type) where
  bus : Bus (Traced δ)
  writes : List WriteCall := []
  halts : Nat := 0
  /-- The tickets of the writers that a halt found waiting for room or not yet back from it. -/
  caught : List Nat := []
  line : List WriteCall := []
  handed : List Handover := []

namespace History

variable {δ : Type}

/-- Goes on after an operation with the frame of `own`.  That frame may have been put behind the
deferred ones; those that are missing at the front then were handed over, and `own` before them if
the device was handed one more. -/
def follow (r : History δ) (own : Option WriteCall) (result : Except DeviceError Writing)
    (bus : Bus (Traced δ)) : History δ :=
  let line := r.line ++ Bus.pushed own.toList result
  let left := line.length - bus.deferred.frames.length
  let direct := bus.device.handed.length - r.bus.device.handed.length - left
  let handed := own.toList.take direct ++ line.take left
  { r with
    bus, line := line.drop left
    handed := r.handed ++ handed.map fun write => { write, halts := r.halts } }

def halted (r : History δ) (o : Outcome (Traced δ) (Except DeviceError Unit)) : History δ :=
  if o.result.toBool then
    { r with
      bus := o.bus, line := [], halts := r.halts + 1
      caught := r.caught ++ r.bus.deferred.writers.map (·.ticket) }
  else { r with bus := o.bus }

section Events

variable [Device δ]

def event (r : History δ) : Event → History δ
  | .write f patient =>
    let own : WriteCall := ⟨r.writes.length, f.withOrigin r.bus.name, r.halts⟩
    let o := r.bus.write f patient own.ticket
    { r with writes := r.writes ++ [own] }.follow (some own) o.result o.bus
  | .resume ticket =>
    let o := r.bus.resume ticket
    r.follow r.writes[ticket]? o.result o.bus
  | .expire ticket =>
    let o := r.bus.expire ticket
    r.follow none o.result o.bus
  | .transmitDeferred => r.follow none (.ok .waiting) r.bus.transmitDeferred.1
  | .start setup => { r with bus := (r.bus.start setup).bus }
  | .stop => r.halted r.bus.stop
  | .setPower .on => { r with bus := (r.bus.setPower .on).bus }
  | .setPower power => r.halted (r.bus.setPower power)

def events (r : History δ) (events : List Event) : History δ := events.foldl event r

end Events

/-- A write whose frame may still be handed over: no halt came between, or one found its writer
waiting. -/
structure Allowed (r : History δ) (w : WriteCall) : Prop where
  known : w ∈ r.writes
  fresh : r.bus.isRunning = true ∧ w.halts = r.halts ∨ w.ticket ∈ r.caught

/-- A history knows whose frames are deferred and were handed over, and allows for the former. -/
structure Tracked (r : History δ) : Prop where
  ticket : ∀ {i : Nat} {w : WriteCall}, r.writes[i]? = some w → w.ticket = i
  line : r.line.map (·.frame) = r.bus.deferred.frames
  handed : r.handed.map (·.write.frame) = r.bus.device.frames
  allowed : ∀ w ∈ r.line, r.Allowed w
  writers : ∀ v ∈ r.bus.deferred.writers, ∃ w, r.Allowed w ∧ w.ticket = v.ticket ∧ w.frame = v.frame
  fair : ∀ x ∈ r.handed,
    x.write ∈ r.writes ∧ (x.write.halts = x.halts ∨ x.write.ticket ∈ r.caught)

namespace Tracked

variable {r : History δ}

theorem initial (name : BusName) (device : δ) :
    Tracked { bus := ({ name, device } : Bus δ).trace } :=
  ⟨nofun, rfl, rfl, nofun, nofun, nofun⟩

theorem frames_line (h : r.Tracked) {own : Option WriteCall}
    {result : Except DeviceError Writing} {bus : Bus (Traced δ)} {direct moved : List Frame}
    (hmoved : Bus.Moved r.bus bus direct (Bus.pushed (own.toList.map (·.frame)) result) moved) :
    (r.line ++ Bus.pushed own.toList result).map (·.frame) = moved ++ bus.deferred.frames := by
  rw [List.map_append, Bus.map_pushed, h.line, hmoved.frames]

/-- The lengths alone tell how the frames have moved. -/
theorem follow_eq (h : r.Tracked) {own : Option WriteCall} {result : Except DeviceError Writing}
    {bus : Bus (Traced δ)} {direct moved : List Frame}
    (hmoved : Bus.Moved r.bus bus direct (Bus.pushed (own.toList.map (·.frame)) result) moved) :
    let line := r.line ++ Bus.pushed own.toList result
    r.follow own result bus =
      { r with
        bus, line := line.drop moved.length
        handed := r.handed ++ (own.toList.take direct.length ++ line.take moved.length).map
          fun write => { write, halts := r.halts } } := by
  intro line
  have hleft : line.length - bus.deferred.frames.length = moved.length := by
    have hlength := congrArg List.length (h.frames_line hmoved)
    simp only [List.length_map, List.length_append] at hlength
    simp only [line, List.length_append]
    omega
  have hcount : bus.device.handed.length - r.bus.device.handed.length - moved.length
      = direct.length := by
    have hlength := congrArg List.length hmoved.handed
    simp only [Traced.frames, List.length_append, List.length_map] at hlength
    omega
  rw [← hcount, ← hleft]
  rfl

theorem follow (h : r.Tracked) {own : Option WriteCall} {result : Except DeviceError Writing}
    {bus : Bus (Traced δ)} {direct moved : List Frame}
    (hmoved : Bus.Moved r.bus bus direct (Bus.pushed (own.toList.map (·.frame)) result) moved)
    (hdirect : direct = [] ∨ direct = own.toList.map (·.frame) ∧ ∀ w ∈ own, r.Allowed w)
    (hpushed : ∀ w ∈ Bus.pushed own.toList result, r.Allowed w)
    (hwriters : ∀ v ∈ bus.deferred.writers, v ∈ r.bus.deferred.writers ∨
      ∃ w, r.Allowed w ∧ w.ticket = v.ticket ∧ w.frame = v.frame) :
    (r.follow own result bus).Tracked := by
  have hline := h.frames_line hmoved
  have hallowed : ∀ w ∈ r.line ++ Bus.pushed own.toList result, r.Allowed w :=
    List.forall_mem_append.mpr ⟨h.allowed, hpushed⟩
  have hown : (own.toList.take direct.length).map (·.frame) = direct ∧
      ∀ w ∈ own.toList.take direct.length, r.Allowed w := by
    rcases hdirect with rfl | ⟨rfl, hallowed⟩
    · exact ⟨rfl, nofun⟩
    · rw [List.length_map, List.take_length]
      exact ⟨rfl, fun w hw => hallowed w (Option.mem_toList.mp hw)⟩
  have hkeep : ∀ {w}, r.Allowed w → (r.follow own result bus).Allowed w := by
    intro w hw
    refine ⟨hw.known, ?_⟩
    show bus.isRunning = true ∧ _ ∨ _
    rw [Bus.isRunning, hmoved.power]
    exact hw.fresh
  refine ⟨?_, ?_, ?_, ?_, ?_, ?_⟩
  · exact h.ticket
  · rw [h.follow_eq hmoved]
    show (List.drop _ _).map _ = _
    rw [List.map_drop, hline, List.drop_left]
  · rw [h.follow_eq hmoved]
    dsimp only
    rw [List.map_append, List.map_map, List.map_append, h.handed, hmoved.handed]
    show _ ++ (List.map WriteCall.frame _ ++ List.map WriteCall.frame _) = _
    rw [hown.1, List.map_take, hline, List.take_left]
  · intro w hw
    rw [h.follow_eq hmoved] at hw
    exact hkeep (hallowed w (List.mem_of_mem_drop hw))
  · intro v hv
    obtain ⟨w, hw, hv⟩ := (hwriters v hv).elim (h.writers v) id
    exact ⟨w, hkeep hw, hv⟩
  · intro x hx
    rw [h.follow_eq hmoved] at hx
    rcases List.mem_append.mp hx with hx | hx
    · exact h.fair x hx
    obtain ⟨w, hw, rfl⟩ := List.mem_map.mp hx
    have hw : r.Allowed w := by
      rcases List.mem_append.mp hw with hw | hw
      · exact hown.2 w hw
      · exact hallowed w (List.mem_of_mem_take hw)
    exact ⟨hw.known, hw.fresh.imp_left And.right⟩

theorem called (h : r.Tracked) (f : Frame) :
    Tracked { r with writes := r.writes ++ [⟨r.writes.length, f, r.halts⟩] } := by
  have hkeep : ∀ {w}, r.Allowed w →
      Allowed { r with writes := r.writes ++ [⟨r.writes.length, f, r.halts⟩] } w :=
    fun hw => ⟨List.mem_append_left _ hw.known, hw.fresh⟩
  refine ⟨?_, h.line, h.handed, fun w hw => hkeep (h.allowed w hw), ?_, ?_⟩
  · intro i w hw
    rcases Nat.lt_or_ge i r.writes.length with hi | hi
    · rw [List.getElem?_append_left hi] at hw
      exact h.ticket hw
    · rw [List.getElem?_append_right hi] at hw
      obtain ⟨hi', rfl⟩ := List.getElem?_eq_some_iff.mp hw
      have hlast : i - r.writes.length = 0 := by simpa using hi'
      simp only [hlast, List.getElem_cons_zero]
      omega
  · intro v hv
    obtain ⟨w, hw, hv⟩ := h.writers v hv
    exact ⟨w, hkeep hw, hv⟩
  · intro x hx
    exact ⟨List.mem_append_left _ (h.fair x hx).1, (h.fair x hx).2⟩

theorem powered (h : r.Tracked) {bus : Bus (Traced δ)} (hdeferred : bus.deferred = r.bus.deferred)
    (hhanded : bus.device.handed = r.bus.device.handed)
    (hpower : r.bus.isRunning = true → bus.isRunning = true) : Tracked { r with bus } := by
  have hkeep : ∀ {w}, r.Allowed w → Allowed { r with bus } w :=
    fun hw => ⟨hw.known, hw.fresh.imp_left (And.imp_left hpower)⟩
  refine ⟨h.ticket, ?_, ?_, fun w hw => hkeep (h.allowed w hw), ?_, h.fair⟩
  · rw [h.line, ← hdeferred]
  · rw [h.handed, Traced.frames, Traced.frames, hhanded]
  · intro v hv
    obtain ⟨w, hw, hv⟩ := h.writers v (hdeferred ▸ hv)
    exact ⟨w, hkeep hw, hv⟩

variable [Device δ]

theorem halted (h : r.Tracked) (power : Power) : (r.halted (r.bus.halt power)).Tracked := by
  have hhanded : (r.bus.halt power).bus.device.handed = r.bus.device.handed := by
    rw [(r.bus.halt_eq power).2.2.1]
    rfl
  have hboth := r.bus.deferred_halt power
  rw [History.halted]
  split
  · next hresult =>
    rw [if_pos hresult] at hboth
    obtain ⟨-, hdeferred⟩ := Prod.mk.inj hboth
    refine ⟨h.ticket, ?_, ?_, nofun, ?_, ?_⟩
    · rw [hdeferred, Deferred.frames_clear]
      rfl
    · rw [h.handed, Traced.frames, Traced.frames, hhanded]
    · intro v hv
      rw [hdeferred, Deferred.writers_clear] at hv
      obtain ⟨w, hw, hticket, hframe⟩ := h.writers v hv
      have hcaught : w.ticket ∈ r.bus.deferred.writers.map (·.ticket) :=
        List.mem_map.mpr ⟨v, hv, hticket.symm⟩
      exact ⟨w, ⟨hw.known, .inr (List.mem_append_right _ hcaught)⟩, hticket, hframe⟩
    · intro x hx
      exact ⟨(h.fair x hx).1, (h.fair x hx).2.imp_right (List.mem_append_left _)⟩
  · next hresult =>
    rw [if_neg hresult] at hboth
    obtain ⟨hpower, hdeferred⟩ := Prod.mk.inj hboth
    refine h.powered hdeferred hhanded ?_
    rw [Bus.isRunning, Bus.isRunning, hpower]
    exact id

theorem started (h : r.Tracked) (setup : Setup) :
    Tracked { r with bus := (r.bus.start setup).bus } := by
  obtain ⟨-, -, hdevice, -, hdeferred⟩ := r.bus.start_eq setup
  refine h.powered hdeferred (by rw [hdevice]; rfl) ?_
  intro hrunning
  have hpower := r.bus.power_start setup
  rw [Bus.isRunning, hpower]
  split
  · rfl
  · exact hrunning

theorem event (h : r.Tracked) (e : Event) : (r.event e).Tracked := by
  cases e with
  | write f patient =>
    let own : WriteCall := ⟨r.writes.length, f.withOrigin r.bus.name, r.halts⟩
    obtain ⟨direct, moved, hmoved, hdirect, hwriters, hstopped⟩ :=
      Bus.moved_write r.bus f patient own.ticket
    have hallowed : r.bus.isRunning = true →
        Allowed { r with writes := r.writes ++ [own] } own :=
      fun hrunning => ⟨List.mem_append_right _ (List.mem_singleton_self _), .inl ⟨hrunning, rfl⟩⟩
    refine (h.called (f.withOrigin r.bus.name)).follow hmoved ?_ ?_ ?_
    · rcases hdirect with hnone | hdirect
      · exact .inl hnone
      cases hrunning : r.bus.isRunning
      · exact .inl (hstopped hrunning).1
      · refine .inr ⟨hdirect, fun w hw => ?_⟩
        rw [← Option.some.inj hw]
        exact hallowed hrunning
    · intro w hw
      obtain rfl : w = own := List.mem_singleton.mp (Bus.mem_pushed hw)
      refine hallowed (Bool.of_not_eq_false fun hrunning => ?_)
      have hframe := List.mem_map_of_mem (f := (·.frame)) hw
      rw [Bus.map_pushed] at hframe
      exact absurd ((hstopped hrunning).2 ▸ hframe) List.not_mem_nil
    · intro v hv
      refine (hwriters v hv).imp_right ?_
      rintro ⟨hrunning, rfl⟩
      exact ⟨own, hallowed hrunning, rfl, rfl⟩
  | resume ticket =>
    rcases Bus.moved_resume r.bus ticket with
      hwaiting | ⟨f, moved, hwriter, hresult, hmoved, hwriters⟩
    · rw [History.event, hwaiting]
      exact h.follow (.refl _) (.inl rfl) nofun fun v hv => .inl hv
    · -- The writer is known by its ticket.
      obtain ⟨w, hw, rfl, rfl⟩ := h.writers _ hwriter
      obtain ⟨i, hi⟩ := List.mem_iff_getElem?.mp hw.known
      obtain rfl := h.ticket hi
      rw [History.event, hi, hresult]
      refine h.follow hmoved (.inl rfl) ?_ fun v hv => .inl (hwriters v hv)
      intro v hv
      rw [List.mem_singleton.mp (Bus.mem_pushed hv)]
      exact hw
  | expire ticket =>
    obtain ⟨hmoved, hwriters⟩ := Bus.moved_expire r.bus ticket
    have hnone : Bus.Moved r.bus (r.bus.expire ticket).bus []
        (Bus.pushed [] (r.bus.expire ticket).result) [] := by
      rw [Bus.pushed_nil]
      exact hmoved
    exact h.follow hnone (.inl rfl) (fun w hw => nomatch Bus.mem_pushed hw)
      fun v hv => .inl (hwriters v hv)
  | transmitDeferred =>
    obtain ⟨moved, hmoved, hwriters⟩ := Bus.moved_transmitDeferred r.bus
    refine h.follow hmoved (.inl rfl) nofun fun v hv => .inl ?_
    rw [← hwriters]
    exact hv
  | start setup => exact h.started setup
  | stop => exact h.halted .off
  | setPower power =>
    rcases r.bus.setPower_cases power with ⟨setup, rfl, -, heq⟩ | ⟨rfl, heq⟩ | ⟨hpower, heq⟩
    · show Tracked { r with bus := (r.bus.setPower .on).bus }
      rw [heq]
      exact h.started setup
    · show Tracked { r with bus := (r.bus.setPower .on).bus }
      rw [heq]
      exact h
    · have hhalted : r.event (.setPower power) = r.halted (r.bus.setPower power) := by
        cases power with
        | on => exact absurd rfl hpower
        | _ => rfl
      rw [hhalted, heq]
      exact h.halted power

theorem events (h : r.Tracked) (events : List Event) : (r.events events).Tracked := by
  induction events generalizing r with
  | nil => exact h
  | cons e events ih => exact ih (h.event e)

end Tracked

section Events

variable [Device δ]

theorem bus_event (r : History δ) (e : Event) :
    (r.event e).bus.untrace = r.bus.untrace.after r.writes.length e ∧
    (r.event e).writes.length = e.writes r.writes.length := by
  have hhalted : ∀ o, (r.halted o).bus = o.bus ∧ (r.halted o).writes = r.writes := by
    intro o
    rw [halted]
    split <;> exact ⟨rfl, rfl⟩
  cases e with
  | write f patient =>
    refine ⟨?_, List.length_append⟩
    show (r.bus.write f patient r.writes.length).untrace.bus = _
    rw [Bus.untrace_write]
    rfl
  | resume ticket =>
    refine ⟨?_, rfl⟩
    show (r.bus.resume ticket).untrace.bus = _
    rw [Bus.untrace_resume]
    rfl
  | expire ticket =>
    refine ⟨?_, rfl⟩
    show (r.bus.expire ticket).untrace.bus = _
    rw [Bus.untrace_expire]
    rfl
  | transmitDeferred => exact ⟨(Bus.untrace_transmitDeferred _).1, rfl⟩
  | start setup =>
    refine ⟨?_, rfl⟩
    show (r.bus.start setup).untrace.bus = _
    rw [Bus.untrace_start]
    rfl
  | stop =>
    refine ⟨?_, congrArg List.length (hhalted _).2⟩
    show (r.halted r.bus.stop).bus.untrace = _
    rw [(hhalted _).1]
    show (r.bus.halt .off).untrace.bus = _
    rw [Bus.untrace_halt]
    rfl
  | setPower power =>
    have heq : (r.event (.setPower power)).bus = (r.bus.setPower power).bus ∧
        (r.event (.setPower power)).writes = r.writes := by
      cases power with
      | on => exact ⟨rfl, rfl⟩
      | _ => exact hhalted _
    refine ⟨?_, congrArg List.length heq.2⟩
    rw [heq.1]
    show (r.bus.setPower power).untrace.bus = _
    rw [Bus.untrace_setPower]
    rfl

theorem bus_events (r : History δ) (events : List Event) :
    (r.events events).bus.untrace = r.bus.untrace.lived r.writes.length events := by
  induction events generalizing r with
  | nil => rfl
  | cons e events ih =>
    obtain ⟨hbus, hwrites⟩ := r.bus_event e
    rw [Bus.lived, ← hbus, ← hwrites]
    exact ih (r.event e)

/-- Whatever happens to a new bus, its history tells rightly which frames are deferred and which were
handed over.  They are those of writes that no halt came after, but for the writers that a halt found
waiting; and only the frames of such writers are deferred while the bus is not on. -/
theorem handed_events (name : BusName) (device : δ) (events : List Event) :
    let b : Bus δ := { name, device }
    let r := ({ bus := b.trace } : History δ).events events
    r.bus.untrace = b.lived 0 events ∧
    r.line.map (·.frame) = r.bus.deferred.frames ∧
    r.handed.map (·.write.frame) = r.bus.device.frames ∧
    (∀ w ∈ r.line, w ∈ r.writes) ∧
    (r.bus.isRunning = false → ∀ w ∈ r.line, w.ticket ∈ r.caught) ∧
    ∀ x ∈ r.handed,
      x.write ∈ r.writes ∧ (x.write.halts = x.halts ∨ x.write.ticket ∈ r.caught) := by
  intro b r
  have h : r.Tracked := (Tracked.initial name device).events events
  refine ⟨bus_events _ events, h.line, h.handed, fun w hw => (h.allowed w hw).known, ?_, h.fair⟩
  intro hstopped w hw
  refine (h.allowed w hw).fresh.resolve_left fun hrunning => ?_
  exact absurd (hstopped.symm.trans hrunning.1) Bool.false_ne_true

/-- A halt frees the slots of twenty deferred frames, one of them for the writer that waits.  It defers
its frame while the bus is off, and the device is handed it after the next start. -/
theorem handed_of_caught :
    let setup : Setup := ⟨.active, .kbps500⟩
    let f : Frame := ⟨some (.numbered 1), 1, .standard, [], by decide, by decide⟩
    let device : Scripted :=
      { transmits := [.ok .busy], readies := List.replicate 20 (.ok false) }
    let b : Bus Scripted := { name := .numbered 1, device }
    let filled : List Event := .start setup :: List.replicate 20 (.write f false)
    let r := ({ bus := b.trace } : History Scripted).events
      (filled ++ [.write f true, .stop, .resume 20])
    (r.bus.isRunning = false ∧ r.halts = 1 ∧ r.bus.deferred.frames = [f]) ∧
    (r.events [.start setup, .transmitDeferred]).handed.getLast? = some ⟨⟨20, f, 0⟩, 1⟩ := by
  decide +kernel

end Events
end History
end Fieldbus
