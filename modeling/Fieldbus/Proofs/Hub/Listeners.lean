import Fieldbus.Hub.Listeners
import Mathlib.Tactic.Common

/-! What a delivery does to the listeners.  A channel gets as many copies of the frame as it has
registrations, up to the room that it has left, and the registrations of channels that nobody reads are
removed, whatever becomes of the other channels (`Listeners.channel?_deliver`,
`Listeners.registered_deliver`). -/

namespace Fieldbus

/-- A channel before and after frames were offered to it.  If it is not full in the end, it took all
of them. -/
structure Channel.Follows (before after : Channel) (offered : List Frame) : Prop where
  isOpen : after.isOpen = before.isOpen
  capacity : after.capacity = before.capacity
  length_le : before.frames.length ≤ after.frames.length
  frames : after.frames.length < after.capacity → after.frames = before.frames ++ offered

namespace Channel.Follows

variable {c c₁ c₂ : Channel} {fs gs : List Frame}

theorem refl (c : Channel) : Follows c c [] :=
  ⟨rfl, rfl, Nat.le_refl _, fun _ => (List.append_nil _).symm⟩

theorem trans (h₁ : Follows c c₁ fs) (h₂ : Follows c₁ c₂ gs) : Follows c c₂ (fs ++ gs) := by
  refine ⟨h₂.isOpen.trans h₁.isOpen, h₂.capacity.trans h₁.capacity,
    Nat.le_trans h₁.length_le h₂.length_le, fun hroom => ?_⟩
  -- A channel that has room in the end had room all the time.
  have hbefore : c₁.frames.length < c₁.capacity :=
    Nat.lt_of_le_of_lt h₂.length_le (h₂.capacity ▸ hroom)
  rw [h₂.frames hroom, h₁.frames hbefore, List.append_assoc]

end Channel.Follows

/-- Copies of a frame are put into a channel one after the other, while somebody reads it and there is
room. -/
def Channel.receive (c : Channel) (copies : Nat) (f : Frame) : Channel :=
  if c.isOpen then
    { c with frames := c.frames ++ List.replicate (min copies (c.capacity - c.frames.length)) f }
  else c

namespace Channel

variable (c : Channel) (f : Frame)

theorem receive_of_closed (h : c.isOpen = false) (copies : Nat) : c.receive copies f = c := by
  rw [receive, h, if_neg Bool.false_ne_true]

theorem receive_of_full (h : c.capacity ≤ c.frames.length) (copies : Nat) :
    c.receive copies f = c := by
  rw [receive, Nat.sub_eq_zero_of_le h, Nat.min_zero, List.replicate_zero,
    List.append_nil, ite_self]

theorem receive_zero : c.receive 0 f = c := by
  rw [receive, Nat.zero_min, List.replicate_zero, List.append_nil, ite_self]

theorem receive_one (hopen : c.isOpen = true) (hroom : c.frames.length < c.capacity) :
    c.receive 1 f = { c with frames := c.frames ++ [f] } := by
  rw [receive, if_pos hopen, Nat.min_eq_left (Nat.sub_pos_of_lt hroom)]
  rfl

theorem isOpen_receive (copies : Nat) : (c.receive copies f).isOpen = c.isOpen := by
  rw [receive]
  split <;> rfl

/-- The room that some copies leave is the room for the next ones. -/
theorem receive_receive (m n : Nat) : (c.receive m f).receive n f = c.receive (m + n) f := by
  cases hopen : c.isOpen with
  | false =>
    rw [c.receive_of_closed f hopen, c.receive_of_closed f hopen,
      c.receive_of_closed f hopen]
  | true =>
    have hroom : min m (c.capacity - c.frames.length)
        + min n (c.capacity - (c.frames.length + min m (c.capacity - c.frames.length)))
        = min (m + n) (c.capacity - c.frames.length) := by omega
    simp only [receive, hopen, if_true, List.length_append, List.length_replicate,
      List.append_assoc, List.replicate_append_replicate, hroom]

theorem follows_receive (hopen : c.isOpen = true) (copies : Nat) :
    c.Follows (c.receive copies f) (List.replicate copies f) := by
  rw [receive, if_pos hopen]
  refine ⟨rfl, rfl, by simp, fun hroom => ?_⟩
  have hall : min copies (c.capacity - c.frames.length) = copies := by
    simp only [List.length_append, List.length_replicate] at hroom
    omega
  simp only [hall]

end Channel

namespace Listeners

variable {l : Listeners} {key : String} {c : Channel}

theorem channel?_adjust (l : Listeners) (key key' : String) (f : Channel → Channel) :
    (l.adjust key' f).channel? key =
      (l.channel? key).map fun c => if key = key' then f c else c := by
  obtain ⟨channels, registered⟩ := l
  simp only [channel?, adjust]
  induction channels with
  | nil => rfl
  | cons entry channels ih =>
    obtain ⟨k, c⟩ := entry
    have hentry : (if k = key' then (k, f c) else (k, c)) = (k, if k = key' then f c else c) := by
      split <;> rfl
    simp only [List.map_cons, hentry, List.lookup_cons]
    by_cases hk : key = k
    · subst hk
      simp
    · rw [beq_eq_false_iff_ne.mpr hk]
      exact ih

/-- The channel of a key is there, and somebody reads it. -/
def reaches (l : Listeners) (key : String) : Bool := (l.channel? key).any Channel.isOpen

/-- What an offer makes of the channel that it is made to. -/
theorem offer_cases (l : Listeners) (key : String) (f : Frame) :
    ((l.offer key f).1 = .gone ↔ l.reaches key = false) ∧
    (l.offer key f).2.registered = l.registered ∧
    ∀ key', (l.offer key f).2.channel? key'
      = (l.channel? key').map fun c => if key' = key then c.receive 1 f else c := by
  -- An offer that leaves the listeners alone is one that the channel does not receive.
  have hkept : (∀ c, l.channel? key = some c → c.receive 1 f = c) →
      ∀ key', l.channel? key'
        = (l.channel? key').map fun c => if key' = key then c.receive 1 f else c := by
    intro h key'
    cases hc : l.channel? key' with
    | none => rfl
    | some c =>
      rw [Option.map_some]
      split
      · next heq => rw [h c (heq ▸ hc)]
      · rfl
  rw [offer, reaches]
  cases hc : l.channel? key with
  | none => exact ⟨iff_of_true rfl rfl, rfl, hkept fun c h => by rw [hc] at h; cases h⟩
  | some c =>
    dsimp only
    cases hopen : c.isOpen with
    | false =>
      refine ⟨iff_of_true rfl hopen, rfl, hkept fun c' h => ?_⟩
      obtain rfl : c = c' := Option.some.inj (hc.symm.trans h)
      exact c.receive_of_closed f hopen 1
    | true =>
      rw [if_neg (by decide)]
      split
      · next hroom =>
        refine ⟨iff_of_false nofun (by simp [hopen]), rfl, fun key' => ?_⟩
        rw [channel?_adjust]
        refine Option.map_congr fun c' hc' => ?_
        by_cases heq : key' = key
        · subst heq
          obtain rfl : c = c' := Option.some.inj (hc.symm.trans hc')
          rw [if_pos rfl, if_pos rfl, c.receive_one f hopen hroom]
        · rw [if_neg heq, if_neg heq]
      · next hfull =>
        refine ⟨iff_of_false nofun (by simp [hopen]), rfl, hkept fun c' h => ?_⟩
        obtain rfl : c = c' := Option.some.inj (hc.symm.trans h)
        exact c.receive_of_full f (Nat.not_lt.mp hfull) 1

/-- The listeners after the delivery to one registration, which is kept unless its channel is gone. -/
def serve (l : Listeners) (f : Frame) (key : String) : Listeners :=
  { (l.offer key f).2 with
    registered := l.registered ++ if (l.offer key f).1 = Receipt.gone then [] else [key] }

theorem deliverTo_cons (l : Listeners) (f : Frame) (key : String) (keys : List String) :
    (l.deliverTo f (key :: keys)).1 = ((l.serve f key).deliverTo f keys).1 := by
  rw [deliverTo, serve, ← (l.offer_cases key f).2.1]
  rcases l.offer key f with ⟨_ | _ | _, after⟩
  · rfl
  · rfl
  · rw [if_pos rfl, List.append_nil]

theorem channel?_serve (l : Listeners) (f : Frame) (key key' : String) :
    (l.serve f key).channel? key'
      = (l.channel? key').map fun c => if key' = key then c.receive 1 f else c :=
  (l.offer_cases key f).2.2 key'

theorem registered_serve (l : Listeners) (f : Frame) (key : String) :
    (l.serve f key).registered = l.registered ++ [key].filter l.reaches := by
  have hgone := (l.offer_cases key f).1
  rw [serve]
  cases hreaches : l.reaches key with
  | false => simp [hgone.mpr hreaches, hreaches]
  | true =>
    have hkept : (l.offer key f).1 ≠ .gone := fun h => by simp [hgone.mp h] at hreaches
    simp [hkept, hreaches]

/-- A delivery closes no channel. -/
theorem reaches_serve (l : Listeners) (f : Frame) (key : String) :
    (l.serve f key).reaches = l.reaches := by
  funext key'
  rw [reaches, channel?_serve, reaches]
  cases l.channel? key' with
  | none => rfl
  | some c =>
    rw [Option.map_some, Option.any_some, Option.any_some]
    split
    · exact c.isOpen_receive f 1
    · rfl

theorem deliverTo_eq (l : Listeners) (f : Frame) (keys : List String) :
    (∀ key, (l.deliverTo f keys).1.channel? key
      = (l.channel? key).map (·.receive (keys.count key) f)) ∧
    (l.deliverTo f keys).1.registered = l.registered ++ keys.filter l.reaches := by
  induction keys generalizing l with
  | nil =>
    refine ⟨fun key => ?_, (List.append_nil _).symm⟩
    cases hc : l.channel? key with
    | none => exact hc
    | some c => exact hc.trans (congrArg some (c.receive_zero f).symm)
  | cons key' keys ih =>
    obtain ⟨hchannel, hregistered⟩ := ih (l.serve f key')
    rw [deliverTo_cons]
    refine ⟨fun key => ?_, ?_⟩
    · rw [hchannel, channel?_serve, Option.map_map]
      refine Option.map_congr fun c _ => ?_
      rw [Function.comp_apply]
      by_cases heq : key = key'
      · subst heq
        rw [if_pos rfl, Channel.receive_receive, List.count_cons_self, Nat.add_comm]
      · rw [if_neg heq, List.count_cons_of_ne (Ne.symm heq)]
    · rw [hregistered, registered_serve, reaches_serve, List.append_assoc, ← List.filter_append]
      rfl

theorem channel?_deliver (l : Listeners) (f : Frame) (key : String) :
    (l.deliver f).1.channel? key
      = (l.channel? key).map (·.receive (l.registered.count key) f) :=
  (deliverTo_eq { l with registered := [] } f l.registered).1 key

theorem registered_deliver (l : Listeners) (f : Frame) :
    (l.deliver f).1.registered = l.registered.filter l.reaches :=
  (deliverTo_eq { l with registered := [] } f l.registered).2

/-- A channel that is open and registered once. -/
structure Serves (l : Listeners) (key : String) (c : Channel) : Prop where
  channel : l.channel? key = some c
  isOpen : c.isOpen = true
  once : l.registered.count key = 1

theorem serves_deliver (h : l.Serves key c) (f : Frame) :
    ∃ c', (l.deliver f).1.Serves key c' ∧ c.Follows c' [f] := by
  have hreaches : l.reaches key = true := by rw [reaches, h.channel, Option.any_some, h.isOpen]
  refine ⟨c.receive 1 f, ⟨?_, (c.isOpen_receive f 1).trans h.isOpen, ?_⟩,
    c.follows_receive f h.isOpen 1⟩
  · rw [channel?_deliver, h.channel, h.once, Option.map_some]
  · rw [registered_deliver, List.count_filter hreaches, h.once]

end Listeners
end Fieldbus
