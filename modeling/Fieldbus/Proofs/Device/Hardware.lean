import Fieldbus.Device.Hardware
import Fieldbus.Proofs.Device.Mcp2515.Rounds
import Fieldbus.Proofs.Device.OnChip

/-! Devices of either kind on a bus.  What the chip has latched is not disturbed by transmission, and
every frame that a device yields, when it is polled or by its interrupt handler, is named after the
bus, except for those that were prepared in advance. -/

namespace Fieldbus

theorem Frame.origin_of_make {origin : Option BusName} {id : UInt32} {format : FrameFormat}
    {data : List UInt8} {f : Frame} (h : (Frame.make origin id format data).toOption = some f) :
    f.origin = origin := by
  rw [Frame.make] at h
  split_ifs at h
  · obtain rfl := Option.some.inj h
    rfl
  · cases h
  · cases h

namespace Mcp2515

theorem origin_of_ofImage? {origin : Option BusName} {bytes : List UInt8} {f : Frame}
    (h : ofImage? origin bytes = some f) : f.origin = origin := by
  unfold ofImage? at h
  split at h
  case h_2 => cases h
  dsimp only at h
  split_ifs at h
  exact Frame.origin_of_make h

namespace Polling

/-- Every result of a round satisfies `P`. -/
def Round.Ensures {α : Type} (steps : Round α) (P : α → Prop) : Prop :=
  ∀ p a p', steps.run.run p = (.ok a, p') → P a

theorem Round.Ensures.bind {α β : Type} {steps : Round α} {next : α → Round β} {P : α → Prop}
    {Q : β → Prop} (h : steps.Ensures P) (hnext : ∀ a, P a → (next a).Ensures Q) :
    Round.Ensures (steps >>= next) Q := by
  intro p b p' hrun
  simp only [ExceptT.run_bind, StateT.run_bind] at hrun
  rcases hsteps : steps.run.run p with ⟨e | a, p₁⟩
  · rw [hsteps] at hrun
    exact nomatch congrArg Prod.fst hrun
  · rw [hsteps] at hrun
    exact hnext a (h p a p₁ hsteps) p₁ b p' hrun

theorem Round.Ensures.pure {α : Type} {a : α} {P : α → Prop} (h : P a) :
    Round.Ensures (Pure.pure a) P := by
  intro p b p' hrun
  obtain rfl := Except.ok.inj (congrArg Prod.fst hrun)
  exact h

def Named (origin : BusName) : Received → Prop
  | .frame f => f.origin = some origin
  | _ => True

theorem ensures_round (origin : BusName) : Round.Ensures (round origin) (Named origin) := by
  have hany : ∀ {α : Type} {steps : Round α}, Round.Ensures steps fun _ => True :=
    fun _ _ _ _ => trivial
  have hfetch : ∀ flags, Round.Ensures (fetchFrame origin flags) (Named origin) := by
    intro flags
    rw [fetchFrame]
    split
    · exact .pure trivial
    refine .bind hany fun record _ => ?_
    split
    · next hframe => exact .pure (origin_of_ofImage? hframe)
    · exact .pure trivial
  refine .bind hany fun seen _ => .bind (hfetch _) fun received hreceived => ?_
  have hcleared : Round.Ensures (do
      if seen.headD 0 &&& ~~~ (Flag.received0 ||| Flag.received1) ≠ 0 then
        onLink (Steps.bitModify Address.interruptFlags
          (seen.headD 0 &&& ~~~ (Flag.received0 ||| Flag.received1)) 0)
      return received) (Named origin) := by
    show Round.Ensures (if _ then _ else _) _
    split
    · exact .bind hany fun _ _ => .pure hreceived
    · exact .pure hreceived
  show Round.Ensures (if _ then _ else _) _
  split
  · exact .bind hany fun _ _ => hcleared
  · exact hcleared

theorem origin_rounds {origin : BusName} {n : Nat} {p p' : Polling} {f : Frame}
    (h : rounds origin n p = (some (some f), p')) : f.origin = some origin := by
  induction n generalizing p with
  | zero => cases congrArg Prod.fst h
  | succ n ih =>
    rw [rounds] at h
    split at h
    · next g p₁ hround =>
      obtain rfl : g = f := Option.some.inj (Option.some.inj (congrArg Prod.fst h))
      exact ensures_round origin p _ p₁ hround
    · cases Option.some.inj (congrArg Prod.fst h)
    · exact ih h
    · cases Option.some.inj (congrArg Prod.fst h)

end Polling
end Mcp2515

namespace Hardware

/-- The chip of the device, on a link without failures, holds these frames in its receive buffers. -/
def Latched (d : Hardware) (first second : Option Frame) : Prop :=
  ∃ l, d = .mcp2515 l ∧ l.Latched first second

def isScripted : Hardware → Bool
  | .scripted _ => true
  | _ => false

section

variable {d : Hardware} {x y : Option Frame}

theorem lasts_latched (x y : Option Frame) : Device.Lasts fun d : Hardware => d.Latched x y := by
  refine ⟨?_, ?_⟩
  · rintro d ⟨l, rfl, h⟩
    exact ⟨_, rfl, h.ready⟩
  · rintro f d ⟨l, rfl, h⟩
    exact ⟨_, rfl, h.transmit f⟩

theorem Latched.poll (h : d.Latched x y) (origin : BusName) (s : Statistics) :
    let p := Device.poll origin s d
    p.frame = (x.or y).map (·.withOrigin origin) ∧
    p.device.Latched none (x.bind fun _ => y) ∧
    p.statistics.counters.received = s.counters.received := by
  obtain ⟨l, rfl, h⟩ := h
  obtain ⟨hframe, hdevice, hreceived⟩ := h.poll origin s
  exact ⟨hframe, ⟨_, rfl, hdevice⟩, hreceived⟩

theorem Latched.interrupt (h : d.Latched x y) (origin : BusName) (s : Statistics) :
    let r := Device.interrupt origin s d
    r.device.Latched x y ∧ r.requests = [.poll] ∧
    r.statistics.counters.received = s.counters.received := by
  obtain ⟨l, rfl, h⟩ := h
  exact ⟨⟨l, rfl, h⟩, rfl, rfl⟩

theorem lasts_isScripted (scripted : Bool) :
    Device.Lasts fun d : Hardware => d.isScripted = scripted := by
  refine ⟨?_, ?_⟩
  · intro d h
    cases d <;> exact h
  · intro f d h
    cases d <;> exact h

theorem origin_poll (h : d.isScripted = false) (origin : BusName) (s : Statistics) :
    (Device.poll origin s d).device.isScripted = false ∧
    ∀ f, (Device.poll origin s d).frame = some f → f.origin = some origin := by
  cases d with
  | onChip d => exact ⟨rfl, nofun⟩
  | mcp2515 l =>
    refine ⟨rfl, fun f hf => ?_⟩
    have hjoin : (Mcp2515.Polling.rounds origin 3 { link := l, statistics := s }).1.join = some f :=
      hf
    rcases hrounds : Mcp2515.Polling.rounds origin 3 { link := l, statistics := s } with
      ⟨_ | _ | g, p⟩
    · rw [hrounds] at hjoin
      exact nomatch hjoin
    · rw [hrounds] at hjoin
      exact nomatch hjoin
    · rw [hrounds] at hjoin
      obtain rfl := Option.some.inj hjoin
      exact Mcp2515.Polling.origin_rounds hrounds
  | scripted d => exact nomatch h

theorem origin_interrupt (d : Hardware) (origin : BusName) (s : Statistics) :
    (Device.interrupt origin s d).device.isScripted = d.isScripted ∧
    ∀ f, .frame f ∈ (Device.interrupt origin s d).requests → f.origin = some origin := by
  cases d with
  | onChip d =>
    refine ⟨rfl, fun f hf => ?_⟩
    have hmem : f ∈ (OnChip.interrupt origin s d).requests.filterMap Request.frame? :=
      List.mem_filterMap.mpr ⟨.frame f, hf, rfl⟩
    rw [OnChip.frames_interrupt, Option.mem_toList] at hmem
    obtain ⟨m, -, hcapture⟩ := Option.bind_eq_some_iff.mp hmem
    exact ((m.capture?_eq_some_iff origin f).mp hcapture).2.2.2.1
  | mcp2515 l =>
    refine ⟨rfl, fun f hf => ?_⟩
    exact nomatch List.mem_singleton.mp hf
  | scripted d => exact ⟨rfl, nofun⟩

end

end Hardware
end Fieldbus
