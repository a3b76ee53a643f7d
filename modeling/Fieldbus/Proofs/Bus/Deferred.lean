import Fieldbus.Bus.Basic

/-! What the operations on deferred frames do to the frames and to the slots in use, and what moving
the frames into the hardware leaves alone. -/

namespace Fieldbus

/-- The message that a logger reported by this notice. -/
def Notice.message? : Notice → Option Message
  | .recorded m => some m
  | _ => none

namespace Deferred

theorem used_push (d : Deferred) (f : Frame) : (d.push f).used = d.used + 1 := by
  simp only [used, push, List.length_append, List.length_singleton]
  omega

theorem used_lt_of_hasRoom {d : Deferred} (h : d.hasRoom = true) : d.used < capacity :=
  of_decide_eq_true h

@[simp] theorem frames_grant (d : Deferred) : d.grant.frames = d.frames := by
  rw [grant]
  split <;> rfl

theorem used_grant_le (d : Deferred) : d.grant.used ≤ d.used + 1 := by
  rw [grant]
  split
  · simp only [used, List.length_append, List.length_singleton]
    omega
  · exact Nat.le_succ _

@[simp] theorem frames_pop (d : Deferred) : d.pop.frames = d.frames.tail := frames_grant _

/-- The slot of a frame that is taken out is at most granted to a writer. -/
theorem used_pop_le {d : Deferred} (h : d.frames ≠ []) : d.pop.used ≤ d.used := by
  have hgrant := used_grant_le { d with frames := d.frames.tail }
  have hpos := List.length_pos_iff.mpr h
  simp only [used, List.length_tail] at hgrant
  rw [pop]
  simp only [used]
  omega

/-- The frame of a writer takes the place of the slot it was granted. -/
theorem redeem?_eq_some {d d' : Deferred} {ticket : Nat} {f : Frame}
    (h : d.redeem? ticket = some (f, d')) : d'.frames = d.frames ∧ d'.used < d.used := by
  obtain ⟨w, hw, heq⟩ := Option.map_eq_some_iff.mp h
  obtain ⟨rfl, rfl⟩ := Prod.mk.inj heq
  -- At least one granted slot has this ticket.
  refine ⟨rfl, Nat.add_lt_add_left ?_ _⟩
  have hticket : ¬ decide (w.ticket ≠ ticket) = true := by simpa using List.find?_some hw
  exact List.length_filter_lt_length_iff_exists.mpr ⟨w, List.mem_of_find?_eq_some hw, hticket⟩

theorem abandon?_eq_some {d d' : Deferred} {ticket : Nat} {f : Frame}
    (h : d.abandon? ticket = some (f, d')) : d'.frames = d.frames ∧ d'.used = d.used := by
  obtain ⟨w, -, heq⟩ := Option.map_eq_some_iff.mp h
  obtain ⟨rfl, rfl⟩ := Prod.mk.inj heq
  exact ⟨rfl, rfl⟩

/-! ### Writers -/

/-- Those who wait for room, or were granted a slot and did not use it yet. -/
def writers (d : Deferred) : List Writer := d.granted ++ d.waiting

@[simp] theorem writers_grant (d : Deferred) : d.grant.writers = d.writers := by
  rw [grant]
  split
  · next w rest hwaiting => simp [writers, hwaiting]
  · rfl

@[simp] theorem writers_pop (d : Deferred) : d.pop.writers = d.writers := writers_grant _

theorem foldl_pop (d : Deferred) (frames : List Frame) :
    (frames.foldl (fun d _ => d.pop) d).frames = d.frames.drop frames.length ∧
    (frames.foldl (fun d _ => d.pop) d).writers = d.writers := by
  induction frames generalizing d with
  | nil => exact ⟨rfl, rfl⟩
  | cons f frames ih =>
    obtain ⟨hframes, hwriters⟩ := ih d.pop
    rw [List.foldl_cons, hframes, hwriters, frames_pop, writers_pop]
    exact ⟨by simp, rfl⟩

@[simp] theorem frames_clear (d : Deferred) : d.clear.frames = [] := by
  rw [clear, (d.foldl_pop _).1, List.drop_length]

@[simp] theorem writers_clear (d : Deferred) : d.clear.writers = d.writers := (d.foldl_pop _).2

theorem writer_of_redeem? {d d' : Deferred} {ticket : Nat} {f : Frame}
    (h : d.redeem? ticket = some (f, d')) :
    ⟨ticket, f⟩ ∈ d.writers ∧ ∀ v ∈ d'.writers, v ∈ d.writers := by
  obtain ⟨w, hw, heq⟩ := Option.map_eq_some_iff.mp h
  obtain ⟨rfl, rfl⟩ := Prod.mk.inj heq
  have hticket : w.ticket = ticket := by simpa using List.find?_some hw
  refine ⟨?_, fun v hv => ?_⟩
  · rw [← hticket]
    exact List.mem_append_left _ (List.mem_of_find?_eq_some hw)
  · rcases List.mem_append.mp hv with hv | hv
    · exact List.mem_append_left _ (List.mem_filter.mp hv).1
    · exact List.mem_append_right _ hv

theorem writers_of_abandon? {d d' : Deferred} {ticket : Nat} {f : Frame}
    (h : d.abandon? ticket = some (f, d')) : ∀ v ∈ d'.writers, v ∈ d.writers := by
  obtain ⟨w, hw, heq⟩ := Option.map_eq_some_iff.mp h
  obtain ⟨rfl, rfl⟩ := Prod.mk.inj heq
  intro v hv
  rcases List.mem_append.mp hv with hv | hv
  · exact List.mem_append_left _ hv
  · exact List.mem_append_right _ (List.mem_filter.mp hv).1

end Deferred

namespace Bus

variable {δ : Type} [Device δ]

theorem deferred_start (b : Bus δ) (setup : Setup) :
    (b.start setup).bus.deferred = b.deferred := by
  rw [start]
  split <;> rfl

/-- The bus behind one of its deferred frames, which its device answered in state `device`. -/
def behindFirst (b : Bus δ) (device : δ) : Bus δ := { b with device, deferred := b.deferred.pop }

/-- Moving frames goes in rounds.  A property of the frames still to be moved, the bus and what was
said so far holds in the end if the rounds keep it: the last, in which nothing is moved, and those
in which the device, being ready, takes a frame or does not.  No notice is one of a logger. -/
theorem moveDeferred_induct {P : List Frame → Bus δ → List Effect → Prop}
    (rest : ∀ {frames b said} answer device, P frames b said →
      Device.ready b.device = (answer, device) → answer ≠ .ok true ∨ frames = [] →
      P frames { b with device } said)
    (notice : ∀ {frames b said} n, n.message? = none → P frames b said →
      P frames b (said ++ [.notice n]))
    (sent : ∀ {f frames b said} device after, P (f :: frames) b said →
      Device.ready b.device = (.ok true, device) →
      Device.transmit f device = (.ok .accepted, after) →
      P frames ((b.behindFirst after).noteSent f).1 (said ++ [.frame .sent f]))
    (failed : ∀ {f frames b said} answer device after, P (f :: frames) b said →
      Device.ready b.device = (.ok true, device) → Device.transmit f device = (answer, after) →
      answer ≠ .ok .accepted →
      P frames ((b.behindFirst after).noteFailed f).1 (said ++ [.frame .failed f]))
    {frames : List Frame} {b : Bus δ} {said : List Effect} (h : P frames b said) :
    ∃ left, P left (b.moveDeferred frames).1 (said ++ (b.moveDeferred frames).2) := by
  induction frames generalizing b said with
  | nil =>
    rw [moveDeferred]
    rcases hr : Device.ready b.device with ⟨answer, device⟩
    have hrest := rest answer device h hr (.inr rfl)
    cases answer with
    | error e => exact ⟨_, notice _ rfl hrest⟩
    | ok room => exact ⟨_, by simpa using hrest⟩
  | cons f frames ih =>
    rw [moveDeferred]
    rcases hr : Device.ready b.device with ⟨_ | _ | _, device⟩
    · exact ⟨_, notice _ rfl (rest _ device h hr (.inl nofun))⟩
    · exact ⟨_, by simpa using rest _ device h hr (.inl nofun)⟩
    dsimp only
    rcases ht : Device.transmit f device with ⟨e | _ | _, after⟩
    · -- The notice comes before the frame is given up, and before all that is said later.
      let final := (((b.behindFirst after).noteFailed f).1.moveDeferred frames).1
      obtain ⟨left, hleft⟩ :=
        ih (failed _ device after (notice (.deferredTransmitFailed final.name e) rfl h) hr ht nofun)
      rw [List.append_assoc, List.append_assoc] at hleft
      exact ⟨left, hleft⟩
    · obtain ⟨left, hleft⟩ := ih (sent device after h hr ht)
      rw [List.append_assoc] at hleft
      exact ⟨left, hleft⟩
    · exact ⟨_, failed _ device after h hr ht nofun⟩

theorem moveDeferred_unchanged (b : Bus δ) (frames : List Frame) :
    (b.moveDeferred frames).1.name = b.name ∧ (b.moveDeferred frames).1.power = b.power ∧
    (b.moveDeferred frames).1.setup = b.setup := by
  let P (_ : List Frame) (b' : Bus δ) (_ : List Effect) : Prop :=
    b'.name = b.name ∧ b'.power = b.power ∧ b'.setup = b.setup
  have h : P frames b [] := ⟨rfl, rfl, rfl⟩
  obtain ⟨_, hfinal⟩ := moveDeferred_induct (fun _ _ h _ _ => h) (fun _ _ h => h)
    (fun _ _ h _ _ => h) (fun _ _ _ h _ _ _ => h) h
  exact hfinal

end Bus
end Fieldbus
