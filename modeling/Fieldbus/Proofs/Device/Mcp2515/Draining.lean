import Fieldbus.Proofs.Device.Mcp2515.Fetching
import Fieldbus.Proofs.Device.Mcp2515.Rounds

/-! Polling until nothing is left, on a link without failures.  Whatever the registers of the chip hold,
each poll ends, the polls give the frames of the receive buffers one after the other, and the errors that
the flags tell of are noted once, by the first round (`Polling.drained_poll`). -/

namespace Fieldbus.Mcp2515

/-! ### What polling leaves of the errors -/

namespace Chip

/-- The flags that tell of errors. -/
def errorBits (c : Chip) : UInt8 :=
  c.get Address.interruptFlags &&& (Flag.messageError ||| Flag.error)

/-- The chip when the errors that its flags tell of have been noted: it tells of no overflow. -/
def acknowledged (c : Chip) : Chip :=
  if c.errorBits = 0 then c
  else c.set Address.errorFlags
    (c.get Address.errorFlags &&& ~~~ (Flag.overflow0 ||| Flag.overflow1))

/-- How many receive buffers have overflowed. -/
def overflows (c : Chip) : UInt32 :=
  (if c.get Address.errorFlags &&& Flag.overflow0 = 0 then 0 else 1)
    + (if c.get Address.errorFlags &&& Flag.overflow1 = 0 then 0 else 1)

/-- The statistics when errors of these flags have been noted. -/
def noting (c : Chip) (flags : UInt8) (s : Statistics) : Statistics :=
  { s with
    counters.receiveOverflow := s.counters.receiveOverflow + c.overflows
    counters.errorFlags := flags.toUInt32 <<< 8 ||| (c.get Address.errorFlags).toUInt32
    counters.receiveErrors := (c.get Address.receiveErrors).toUInt32
    counters.transmitErrors := (c.get Address.transmitErrors).toUInt32
    errorPending := true }

def noted (c : Chip) (s : Statistics) : Statistics :=
  if c.errorBits = 0 then s else c.noting c.errorBits s

/-- No flag is set but those of the receive buffers. -/
def Quiet (c : Chip) : Prop :=
  c.get Address.interruptFlags &&& ~~~ (Flag.received0 ||| Flag.received1) = 0

theorem Quiet.errorBits {c : Chip} (h : c.Quiet) : c.errorBits = 0 := by
  have hmask : Flag.messageError ||| Flag.error
      = ~~~ (Flag.received0 ||| Flag.received1) &&& (Flag.messageError ||| Flag.error) := by decide
  rw [Chip.errorBits, hmask, ← UInt8.and_assoc, h, UInt8.zero_and]

/-- Rounds of polling lead from one state of the chip and the statistics to the other: the errors are
noted, and no flags are set afterwards but those of the receive buffers. -/
structure Settled (c : Chip) (s : Statistics) (c' : Chip) (s' : Statistics) : Prop where
  chip : ∃ flags, c' = c.acknowledged.set Address.interruptFlags flags
  quiet : c'.Quiet
  statistics : s' = c.noted s

/-- There is nothing left to note. -/
theorem Settled.trans {c c' c'' : Chip} {s s' s'' : Statistics} (h : Settled c s c' s')
    (h' : Settled c' s' c'' s'') : Settled c s c'' s'' := by
  have hacknowledged : c'.acknowledged = c' := if_pos h.quiet.errorBits
  have hnoted : c'.noted s' = s' := if_pos h.quiet.errorBits
  obtain ⟨⟨flags, hc'⟩, -, hs'⟩ := h
  obtain ⟨⟨flags', hc''⟩, hquiet, hs''⟩ := h'
  refine ⟨⟨flags', ?_⟩, hquiet, (hs''.trans hnoted).trans hs'⟩
  rw [hc'', hacknowledged, hc', set_set]

theorem occupied_lt (c : Chip) : c.occupied < 3 := Nat.lt_succ_of_le List.countP_le_length

end Chip

/-! ### A round -/

namespace Polling

theorem yields_clear (c : Chip) (s : Statistics) (address : UInt8) (h : address ≠ Address.control)
    (mask : UInt8) :
    (onLink (Steps.bitModify address mask 0)).Yields c s ()
      (c.set address (c.get address &&& ~~~ mask)) s := by
  have hruns := Steps.Runs.bitModify c address mask 0
  rw [Chip.write_of_ne c h, UInt8.zero_and, UInt8.or_zero] at hruns
  exact yields_onLink s hruns

/-- The statistics when an overflow has been counted, if the flags tell of it. -/
def countOverflow (errors flag : UInt8) (s : Statistics) : Statistics :=
  if errors &&& flag ≠ 0 then s.countReceiveOverflow else s

theorem countOverflow_eq (errors flag : UInt8) (s : Statistics) :
    countOverflow errors flag s = { s with
      counters.receiveOverflow :=
        s.counters.receiveOverflow + if errors &&& flag = 0 then 0 else 1 } := by
  rw [countOverflow]
  split
  · rfl
  · next h => rw [if_pos (not_not.mp h), UInt32.add_zero]

theorem yields_noteErrors (origin : BusName) (flags : UInt8) (c : Chip) (s : Statistics) :
    (noteErrors origin flags (c.get Address.errorFlags)).Yields c s ()
      (c.set Address.errorFlags
        (c.get Address.errorFlags &&& ~~~ (Flag.overflow0 ||| Flag.overflow1)))
      (c.noting flags s) := by
  let errors := c.get Address.errorFlags
  have hcount : ∀ flag s, errors &&& flag ≠ 0 →
      (count Statistics.countReceiveOverflow).Yields c s () c (countOverflow errors flag s) := by
    intro flag s h
    rw [show countOverflow errors flag s = s.countReceiveOverflow from if_pos h]
    exact yields_count s _ c
  have hskip : ∀ flag s, ¬ errors &&& flag ≠ 0 → ∀ p, At c s p →
      At c (countOverflow errors flag s) p := by
    intro flag s h p hp
    rwa [show countOverflow errors flag s = s from if_neg h]
  have hcounters : (noteCounters flags errors).Yields c
      (countOverflow errors Flag.overflow0 (countOverflow errors Flag.overflow1 s)) ()
      (c.set Address.errorFlags (errors &&& ~~~ (Flag.overflow0 ||| Flag.overflow1)))
      (c.noting flags s) := by
    rw [countOverflow_eq, countOverflow_eq, UInt32.add_assoc,
      UInt32.add_comm (if errors &&& Flag.overflow1 = 0 then 0 else 1)]
    exact .bind (yields_onLink _ (Steps.Runs.fetchRegisters c _ 2))
      (.bind (yields_count _ _ c) (yields_clear c _ _ (by decide) _))
  rw [noteErrors_eq]
  refine .bind (.onlyIf (fun h => .bind (hcount _ s h) (yields_say _ _ c)) (hskip _ s)) ?_
  exact .bind (.onlyIf (hcount _ _) (hskip _ _)) hcounters

/-- The errors of a state of the chip are noted in the same way when some of its flags are cleared. -/
theorem yields_noted (origin : BusName) (c : Chip) (s : Statistics) (flags : UInt8)
    (h : c.errorBits ≠ 0) :
    (noteErrors origin c.errorBits (c.get Address.errorFlags)).Yields
      (c.set Address.interruptFlags flags) s ()
      (c.acknowledged.set Address.interruptFlags flags) (c.noted s) := by
  let c₁ := c.set Address.interruptFlags flags
  have hyields := yields_noteErrors origin c.errorBits c₁ s
  have hget : ∀ address, Chip.slot Address.interruptFlags ≠ Chip.slot address →
      c₁.get address = c.get address := fun address h => c.get_set_of_ne h _
  have hnoting : c₁.noting c.errorBits s = c.noted s := by
    rw [Chip.noted, if_neg h, Chip.noting, Chip.overflows, hget _ (by decide),
      hget _ (by decide), hget _ (by decide)]
    rfl
  rw [hnoting, hget _ (by decide)] at hyields
  rw [Chip.acknowledged, if_neg h, Chip.set_comm _ (by decide)]
  exact hyields

theorem flags_of_readCommand? {flags : UInt8} (h : readCommand? flags = none) :
    flags &&& (Flag.received0 ||| Flag.received1) = 0 := by
  unfold readCommand? at h
  split_ifs at h with hfirst hsecond
  rw [UInt8.and_comm, Flags.or_and, UInt8.and_comm, not_not.mp hfirst, UInt8.and_comm,
    not_not.mp hsecond, UInt8.or_zero]

/-- What finishes a round notes the errors that the flags told of, and clears the flags that do not
tell of frames. -/
theorem yields_finish (origin : BusName) (c : Chip) (s : Statistics) (left : UInt8) :
    let flags := c.get Address.interruptFlags
    let others := flags &&& ~~~ (Flag.received0 ||| Flag.received1)
    (finish origin flags (c.get Address.errorFlags)).Yields
      (c.set Address.interruptFlags left) s ()
      (c.acknowledged.set Address.interruptFlags (left &&& ~~~ others)) (c.noted s) := by
  intro flags others
  have hskipped : ¬ c.errorBits ≠ 0 → ∀ p, At (c.set Address.interruptFlags left) s p →
      At (c.acknowledged.set Address.interruptFlags left) (c.noted s) p := by
    intro h p hp
    rwa [Chip.acknowledged, Chip.noted, if_pos (not_not.mp h), if_pos (not_not.mp h)]
  have hcleared : (onLink (Steps.bitModify Address.interruptFlags others 0)).Yields
      (c.acknowledged.set Address.interruptFlags left) (c.noted s) ()
      (c.acknowledged.set Address.interruptFlags (left &&& ~~~ others)) (c.noted s) := by
    have hyields := yields_clear (c.acknowledged.set Address.interruptFlags left) (c.noted s)
      Address.interruptFlags (by decide) others
    rwa [Chip.get_set_self, Chip.set_set] at hyields
  have hkept : ¬ others ≠ 0 → left &&& ~~~ others = left := by
    intro h
    rw [not_not.mp h, show ~~~ (0 : UInt8) = -1 from rfl, UInt8.and_neg_one]
  refine .bind (.onlyIf (yields_noted origin c s left) hskipped) ?_
  exact .onlyIf (fun _ => hcleared) fun h p hp => (hkept h).symm ▸ hp

/-- A round fetches at most one record, and thereby clears at most one flag. -/
theorem yields_found (origin : BusName) (c : Chip) (s : Statistics) :
    ∃ received mask,
      (fetchFrame origin (c.get Address.interruptFlags)).Yields c s received
        (c.set Address.interruptFlags (c.get Address.interruptFlags &&& mask)) s ∧
      (received = .nothing →
        c.get Address.interruptFlags &&& (Flag.received0 ||| Flag.received1) = 0) := by
  cases hcommand : readCommand? (c.get Address.interruptFlags) with
  | none =>
    refine ⟨.nothing, -1, ?_, fun _ => flags_of_readCommand? hcommand⟩
    rw [UInt8.and_neg_one, c.set_get_self, fetchFrame, hcommand]
    exact .pure _
  | some command =>
    obtain ⟨n, hn, rfl⟩ := readCommand?_eq_some hcommand
    exact ⟨_, ~~~ (Flag.received0 <<< n), yields_fetchFrame origin c s hn hcommand,
      fun hnothing => absurd hnothing (ofRecord_ne_nothing _ _)⟩

/-- A round notes the errors, and leaves no flags but those of buffers that are still occupied. -/
theorem yields_round (origin : BusName) (c : Chip) (s : Statistics) :
    ∃ received c' s', (round origin).Yields c s received c' s' ∧ c.Settled s c' s' ∧
      (received = .nothing → c'.get Address.interruptFlags = 0) := by
  obtain ⟨received, mask, hfetch, hnothing⟩ := yields_found origin c s
  let flags := c.get Address.interruptFlags
  let others := flags &&& ~~~ (Flag.received0 ||| Flag.received1)
  let left := (flags &&& mask) &&& ~~~ others
  have hyields : (round origin).Yields c s received
      (c.acknowledged.set Address.interruptFlags left) (c.noted s) := by
    rw [round_eq]
    exact .bind (yields_onLink s (Steps.Runs.fetchRegisters c _ 2))
      (.bind hfetch (.bind (yields_finish origin c s (flags &&& mask)) (.pure received)))
  have hleft : left &&& ~~~ (Flag.received0 ||| Flag.received1) = 0 := Flags.and_not_and _ _ _
  refine ⟨received, _, _, hyields, ⟨⟨left, rfl⟩, ?_, rfl⟩, fun h => ?_⟩
  · rw [Chip.Quiet, Chip.get_set_self]
    exact hleft
  · rw [Chip.get_set_self]
    refine Flags.eq_zero_of_and ?_ hleft
    have hmasked : flags &&& mask &&& (Flag.received0 ||| Flag.received1) = 0 := by
      rw [UInt8.and_comm flags]
      exact Flags.and_and_of_disjoint mask (hnothing h)
    show (flags &&& mask) &&& ~~~ others &&& _ = 0
    rw [UInt8.and_comm (flags &&& mask)]
    exact Flags.and_and_of_disjoint _ hmasked

/-! ### Polls -/

/-- One round on a link without failures: what it takes from the receive buffers, and what it leaves. -/
theorem settled_round (origin : BusName) {p : Polling} (hlink : p.link.failures = []) :
    ∃ received p', (round origin).run.run p = (.ok received, p') ∧ p'.link.failures = [] ∧
      p.link.chip.Settled p.statistics p'.link.chip p'.statistics ∧
      (received = .nothing → p'.link.chip.get Address.interruptFlags = 0) ∧
      ∃ found, p.link.chip.inbox origin = found ++ p'.link.chip.inbox origin ∧
        Fetches origin p.link.chip (.ok received) found p'.link.chip := by
  obtain ⟨received, c', s', hyields, hsettled, hnothing⟩ :=
    yields_round origin p.link.chip p.statistics
  have hround := hyields p ⟨⟨rfl, hlink⟩, rfl⟩
  obtain ⟨made, -, hinbox, -, hfetches⟩ := takes_round origin p.link.chip p rfl
  rcases hrun : (round origin).run.run p with ⟨result, p'⟩
  rw [Leads, hrun] at hround
  rw [hrun] at hinbox hfetches
  obtain ⟨rfl, ⟨⟨rfl, hfailures⟩, rfl⟩⟩ := hround
  exact ⟨received, p', rfl, hfailures, hsettled, hnothing, _, hinbox, hfetches⟩

/-- What comes of rounds of polling on a link without failures: the first frame, if any. -/
structure Ended (origin : BusName) (p : Polling) (frame : Option Frame) (p' : Polling) : Prop where
  failures : p'.link.failures = []
  settled : p.link.chip.Settled p.statistics p'.link.chip p'.statistics
  inbox : p.link.chip.inbox origin = frame.toList ++ p'.link.chip.inbox origin
  empty : frame = none → p'.link.chip.inbox origin = [] ∧
    p'.link.chip.get Address.interruptFlags = 0

theorem ended_rounds (origin : BusName) {n : Nat} {p : Polling} (hlink : p.link.failures = [])
    (h : p.link.chip.occupied < n) :
    ∃ frame, (rounds origin n p).1 = some frame ∧ Ended origin p frame (rounds origin n p).2 := by
  induction n generalizing p with
  | zero => exact absurd h (Nat.not_lt_zero _)
  | succ n ih =>
    obtain ⟨received, p', hrun, hfailures, hsettled, hnothing, found, hinbox, hfetches⟩ :=
      settled_round origin hlink
    rw [rounds, hrun]
    cases received with
    | nothing =>
      obtain ⟨rfl, hempty⟩ := hfetches
      refine ⟨none, rfl, hfailures, hsettled, hinbox, fun _ => ⟨?_, hnothing rfl⟩⟩
      exact hinbox.symm.trans hempty
    | frame f =>
      obtain rfl : found = [f] := hfetches
      exact ⟨some f, rfl, hfailures, hsettled, hinbox, fun h => absurd h (Option.some_ne_none f)⟩
    -- The rounds that follow have one buffer less to look into.
    | malformed =>
      obtain ⟨rfl, hless⟩ := hfetches
      obtain ⟨frame, hresult, hended⟩ :=
        ih (p := { p' with notices := p'.notices ++ [.invalidLengthReceived origin] }) hfailures
          (Nat.lt_of_lt_of_le hless (Nat.lt_succ_iff.mp h))
      exact ⟨frame, hresult, hended.failures, hsettled.trans hended.settled,
        hinbox.trans hended.inbox, hended.empty⟩

/-- Rounds beyond those that suffice are not made. -/
theorem rounds_of_le (origin : BusName) {n m : Nat} {p : Polling} (hnm : n ≤ m)
    (h : (rounds origin n p).1.isSome) : rounds origin m p = rounds origin n p := by
  induction n generalizing m p with
  | zero => exact absurd h Bool.false_ne_true
  | succ n ih =>
    obtain ⟨m, rfl⟩ : ∃ m', m = m' + 1 := ⟨m - 1, by omega⟩
    rw [rounds, rounds]
    rw [rounds] at h
    rcases hrun : (round origin).run.run p with ⟨e | _ | f | _, p'⟩
    · rfl
    · rfl
    · rfl
    · rw [hrun] at h
      exact ih (Nat.le_of_succ_le_succ hnm) h

/-- Polls follow each other until one gives no frame. -/
inductive Drains (origin : BusName) :
    Statistics → Link → List Frame → Statistics → Link → Prop where
  | last {s : Statistics} {l : Link} (hnone : (poll origin s l).frame = none) :
    Drains origin s l [] (poll origin s l).statistics (poll origin s l).device
  | next {s s' : Statistics} {l l' : Link} {f : Frame} {frames : List Frame}
    (hsome : (poll origin s l).frame = some f)
    (hrest : Drains origin (poll origin s l).statistics (poll origin s l).device frames s' l') :
    Drains origin s l (f :: frames) s' l'

theorem ended_poll (origin : BusName) (s : Statistics) {l : Link} (hlink : l.failures = []) :
    Ended origin { link := l, statistics := s } (poll origin s l).frame
      { link := (poll origin s l).device, statistics := (poll origin s l).statistics } := by
  obtain ⟨frame, hresult, hended⟩ :=
    ended_rounds origin (p := { link := l, statistics := s }) hlink l.chip.occupied_lt
  have hframe : (poll origin s l).frame = frame := congrArg Option.join hresult
  rw [hframe]
  exact ⟨hended.failures, hended.settled, hended.inbox, hended.empty⟩

theorem drains_inbox (origin : BusName) (s : Statistics) {l : Link} (hlink : l.failures = []) :
    ∃ s' l', Drains origin s l (l.chip.inbox origin) s' l' ∧ l'.failures = [] ∧
      l.chip.Settled s l'.chip s' ∧ l'.chip.get Address.interruptFlags = 0 := by
  induction hinbox : l.chip.inbox origin generalizing s l with
  | nil =>
    have hended := ended_poll origin s hlink
    obtain ⟨hnone, -⟩ := List.append_eq_nil_iff.mp (hended.inbox.symm.trans hinbox)
    have hnone := Option.toList_eq_nil_iff.mp hnone
    exact ⟨_, _, .last hnone, hended.failures, hended.settled, (hended.empty hnone).2⟩
  | cons f frames ih =>
    have hended := ended_poll origin s hlink
    have hframes := hended.inbox.symm.trans hinbox
    cases hframe : (poll origin s l).frame with
    | none =>
      rw [hframe, (hended.empty hframe).1] at hframes
      exact nomatch hframes
    | some g =>
      rw [hframe] at hframes
      obtain ⟨rfl, hrest⟩ := List.cons.inj hframes
      obtain ⟨s', l', hdrains, hfailures, hsettled, hflags⟩ :=
        ih (poll origin s l).statistics hended.failures hrest
      exact ⟨s', l', .next hframe hdrains, hfailures, hended.settled.trans hsettled, hflags⟩

/-- A poll ends after three rounds at most, whatever fails.  On a link without failures at most three
polls give all frames of the receive buffers, the first buffer's before the second one's, and then no more:
the polls after that leave every flag clear.  Errors that the flags told of have been noted once, each
overflow has been counted, and the chip tells of no overflow any more; otherwise the statistics and the
error flags are as they were.  No other register has changed. -/
theorem drained_poll (origin : BusName) (s : Statistics) {l : Link} (hlink : l.failures = []) :
    (∀ p, (rounds origin 3 p).1.isSome ∧ ∀ n, 3 ≤ n → rounds origin n p = rounds origin 3 p) ∧
    (l.chip.inbox origin).length + 1 ≤ 3 ∧
    ∃ s' l', Drains origin s l (l.chip.inbox origin) s' l' ∧ l'.failures = [] ∧
      let errorBits := l.chip.get Address.interruptFlags &&& (Flag.messageError ||| Flag.error)
      let errors := l.chip.get Address.errorFlags
      if errorBits = 0 then l'.chip = l.chip.set Address.interruptFlags 0 ∧ s' = s
      else
        l'.chip = (l.chip.set Address.errorFlags
          (errors &&& ~~~ (Flag.overflow0 ||| Flag.overflow1))).set Address.interruptFlags 0 ∧
        s' = { s with
          counters.receiveOverflow := s.counters.receiveOverflow
            + ((if errors &&& Flag.overflow0 = 0 then 0 else 1)
              + (if errors &&& Flag.overflow1 = 0 then 0 else 1))
          counters.errorFlags := errorBits.toUInt32 <<< 8 ||| errors.toUInt32
          counters.receiveErrors := (l.chip.get Address.receiveErrors).toUInt32
          counters.transmitErrors := (l.chip.get Address.transmitErrors).toUInt32
          errorPending := true } := by
  have hrounds : ∀ p, (rounds origin 3 p).1.isSome := by
    intro p
    obtain ⟨_, frame, hresult, -⟩ := frames_rounds origin p.link.chip.occupied_lt
    rw [hresult]
    rfl
  have hlength : (l.chip.inbox origin).length ≤ 2 := by
    rw [Chip.inbox, List.length_append]
    cases l.chip.held? origin 0 <;> cases l.chip.held? origin 1 <;> simp
  obtain ⟨s', l', hdrains, hfailures, ⟨⟨flags, hchip⟩, -, hstatistics⟩, hflags⟩ :=
    drains_inbox origin s hlink
  obtain rfl : flags = 0 := by rwa [hchip, Chip.get_set_self] at hflags
  refine ⟨fun p => ⟨hrounds p, fun n hn => rounds_of_le origin hn (hrounds p)⟩,
    Nat.succ_le_succ hlength, s', l', hdrains, hfailures, ?_⟩
  rw [Chip.acknowledged] at hchip
  rw [Chip.noted] at hstatistics
  show if l.chip.errorBits = 0 then _ else _
  split
  · next h =>
    rw [if_pos h] at hchip hstatistics
    exact ⟨hchip, hstatistics⟩
  · next h =>
    rw [if_neg h] at hchip hstatistics
    exact ⟨hchip, hstatistics⟩

/-- Two of three frames were latched, and the length of the first one is out of range. -/
theorem drained_poll_of_malformed :
    let origin := BusName.numbered 1
    let f : Frame := ⟨none, 0x123, .standard, [7], by decide, by decide⟩
    let latched := (((Chip.powered.inject f).2.inject f).2.inject f).2
    let l : Link :=
      { chip := (latched.set (Address.receiveBuffer 0 + 4) 0x0f).setErrorCounters 1 2 }
    l.failures = [] ∧ ∃ s' l', Drains origin {} l [f.withOrigin origin] s' l' ∧
      l'.chip.get Address.interruptFlags = 0 ∧ l'.chip.get Address.errorFlags = 0 ∧
      s' = { counters := { receiveErrors := 2, transmitErrors := 1, receiveOverflow := 1,
                           errorFlags := 0x2080 }
             errorPending := true } := by
  intro origin f latched l
  obtain ⟨-, -, s', l', hdrains, -, hafter⟩ := drained_poll origin {} (l := l) rfl
  have hinbox : l.chip.inbox origin = [f.withOrigin origin] := by decide +kernel
  have herrors : l.chip.get Address.interruptFlags &&& (Flag.messageError ||| Flag.error) ≠ 0 := by
    decide +kernel
  dsimp only at hafter
  rw [if_neg herrors] at hafter
  obtain ⟨hchip, hstatistics⟩ := hafter
  rw [hinbox] at hdrains
  refine ⟨rfl, s', l', hdrains, ?_, ?_, ?_⟩
  · rw [hchip]
    decide +kernel
  · rw [hchip]
    decide +kernel
  · rw [hstatistics]
    decide +kernel

end Polling
end Fieldbus.Mcp2515
