import Fieldbus.Proofs.Device.Mcp2515.Polling

/-! Where the frames in the receive buffers go when the controller is polled and transfers may fail.
Reading a buffer makes it free, so that a frame that was read is nowhere but in the hands of the driver;
and the driver drops it if a later transfer of the same round fails.  Up to that, no frame is lost: those
that were in the buffers have been read or are still there (`Polling.frames_poll`). -/

namespace Fieldbus.Mcp2515

/-- The frame that a transaction brought, if it read a receive buffer and the image was one of a frame. -/
def Transaction.fetched? (t : Transaction) (origin : BusName) : Option Frame :=
  match t.sent, t.response with
  | command :: _, some (_ :: record) =>
    if command &&& 0xf9 = Command.readReceive then ofImage? (some origin) record else none
  | _, _ => none

def fetched (origin : BusName) (made : List Transaction) : List Frame :=
  made.filterMap (·.fetched? origin)

def Transaction.failed (t : Transaction) : Bool := t.response.isNone

namespace Chip

/-- The frame in receive buffer `n`, if its flag is set and its image is one of a frame. -/
def held? (c : Chip) (origin : BusName) (n : UInt8) : Option Frame :=
  if c.get Address.interruptFlags &&& (Flag.received0 <<< n) = 0 then none
  else ofImage? (some origin) (c.readFrom (Address.receiveBuffer n) imageLength)

/-- The frames in the receive buffers. -/
def inbox (c : Chip) (origin : BusName) : List Frame :=
  (c.held? origin 0).toList ++ (c.held? origin 1).toList

variable {c c' : Chip} {origin : BusName}

theorem inbox_of_undisturbed (h : Undisturbed c c') (origin : BusName) :
    c'.inbox origin = c.inbox origin := by
  have hheld : ∀ n ∈ [(0 : UInt8), 1], c'.held? origin n = c.held? origin n := by
    intro n hn
    obtain ⟨hflags, himage⟩ := h.buffer hn
    rw [held?, held?, hflags, himage]
  rw [inbox, inbox, hheld 0 (by decide), hheld 1 (by decide)]

theorem held?_unlatch (c : Chip) (origin : BusName) {n m : UInt8} (hnm : (n, m) ∈ bufferPairs) :
    (c.unlatch n).held? origin n = none ∧ (c.unlatch n).held? origin m = c.held? origin m := by
  obtain ⟨hown, hother, himage⟩ := buffer_unlatch (c := c) hnm
  exact ⟨if_pos hown, by rw [held?, held?, hother, himage]⟩

def isOccupied (c : Chip) (n : UInt8) : Bool :=
  c.get Address.interruptFlags &&& (Flag.received0 <<< n) ≠ 0

/-- How many receive buffers are occupied, by a frame or by something else. -/
def occupied (c : Chip) : Nat := [(0 : UInt8), 1].countP c.isOccupied

theorem occupied_of_undisturbed (h : Undisturbed c c') : c'.occupied = c.occupied := by
  refine List.countP_congr fun n hn => ?_
  rw [isOccupied, isOccupied, (h.buffer hn).1]

theorem occupied_unlatch {n m : UInt8} (hnm : (n, m) ∈ bufferPairs)
    (hn : c.get Address.interruptFlags &&& (Flag.received0 <<< n) ≠ 0) :
    (c.unlatch n).occupied < c.occupied := by
  obtain ⟨hown, hother, -⟩ := buffer_unlatch (c := c) hnm
  have hbefore : c.isOccupied n = true := decide_eq_true hn
  have hafter : (c.unlatch n).isOccupied n = false := decide_eq_false (not_not_intro hown)
  have hsame : (c.unlatch n).isOccupied m = c.isOccupied m := by rw [isOccupied, hother, isOccupied]
  rcases List.mem_cons.mp hnm with heq | hnm
  · obtain ⟨rfl, rfl⟩ := Prod.mk.inj heq
    simp [occupied, List.countP_cons, hbefore, hafter, hsame]
  · obtain ⟨rfl, rfl⟩ := Prod.mk.inj (List.mem_singleton.mp hnm)
    simp [occupied, List.countP_cons, hbefore, hafter, hsame]

/-- The driver reads the first buffer that is occupied, and thereby takes its frame out. -/
theorem inbox_cases (c : Chip) (origin : BusName) :
    (readCommand? (c.get Address.interruptFlags) = none ∧ c.inbox origin = []) ∨
    ∃ n ∈ [(0 : UInt8), 1],
      readCommand? (c.get Address.interruptFlags) = some (Command.readReceive ||| n <<< 2) ∧
      c.inbox origin
        = (ofImage? (some origin) (c.readFrom (Address.receiveBuffer n) imageLength)).toList
          ++ (c.unlatch n).inbox origin ∧
      (c.unlatch n).occupied < c.occupied := by
  by_cases hfirst : c.get Address.interruptFlags &&& Flag.received0 = 0
  · have hnone : c.held? origin 0 = none := if_pos hfirst
    by_cases hsecond : c.get Address.interruptFlags &&& Flag.received1 = 0
    · have hnone' : c.held? origin 1 = none := if_pos hsecond
      refine .inl ⟨?_, by rw [inbox, hnone, hnone']; rfl⟩
      rw [readCommand?, if_neg (not_not_intro hfirst), if_neg (not_not_intro hsecond)]
    · have hheld : c.held? origin 1
          = ofImage? (some origin) (c.readFrom (Address.receiveBuffer 1) imageLength) :=
        if_neg hsecond
      obtain ⟨hfree, hkept⟩ := c.held?_unlatch origin (n := 1) (m := 0) (by decide)
      refine .inr ⟨1, by decide, ?_, ?_, occupied_unlatch (m := 0) (by decide) hsecond⟩
      · rw [readCommand?, if_neg (not_not_intro hfirst), if_pos hsecond]
        rfl
      · rw [inbox, inbox, hfree, hkept, hnone, hheld]
        exact (List.append_nil _).symm
  · have hheld : c.held? origin 0
        = ofImage? (some origin) (c.readFrom (Address.receiveBuffer 0) imageLength) :=
      if_neg hfirst
    obtain ⟨hfree, hkept⟩ := c.held?_unlatch origin (n := 0) (m := 1) (by decide)
    refine .inr ⟨0, by decide, ?_, ?_, occupied_unlatch (m := 1) (by decide) hfirst⟩
    · rw [readCommand?, if_pos hfirst]
      rfl
    · rw [inbox, inbox, hfree, hkept, hheld]
      rfl

end Chip

namespace Polling

/-- Whichever transfers fail, steps of a round that begin in this state of the chip take frames out of
the receive buffers only by fetching them, and end in an error if and only if a transfer fails.  Of the
result, the frames fetched and the chip afterwards `Q` holds. -/
def Round.Takes {α : Type} (steps : Round α) (origin : BusName) (c : Chip)
    (Q : Except HardwareError α → List Frame → Chip → Prop) : Prop :=
  ∀ p : Polling, p.link.chip = c → Leads steps p fun result p' => ∃ made,
    p'.link.history = p.link.history ++ made ∧
    c.inbox origin = fetched origin made ++ p'.link.chip.inbox origin ∧
    made.any Transaction.failed = !result.isOk ∧
    Q result (fetched origin made) p'.link.chip

theorem fetched_append (origin : BusName) (made more : List Transaction) :
    fetched origin (made ++ more) = fetched origin made ++ fetched origin more :=
  List.filterMap_append

namespace Round.Takes

variable {α β : Type} {origin : BusName} {c : Chip}
  {Q : Except HardwareError α → List Frame → Chip → Prop}
  {R : Except HardwareError β → List Frame → Chip → Prop}

theorem pure {a : α} (h : Q (.ok a) [] c) : Takes (Pure.pure a) origin c Q := by
  rintro p rfl
  exact ⟨[], (List.append_nil _).symm, rfl, rfl, h⟩

theorem bind {steps : Round α} {next : α → Round β} (h : steps.Takes origin c Q)
    (hnext : ∀ a found c', Q (.ok a) found c' →
      (next a).Takes origin c' fun result more => R result (found ++ more))
    (herror : ∀ e found c', Q (.error e) found c' → R (.error e) found c') :
    Takes (steps >>= next) origin c R := by
  intro p hp
  refine (h p hp).bind ?_ ?_
  · rintro a p' ⟨made, hmade, hinbox, hfailed, hQ⟩
    refine (hnext a _ _ hQ p' rfl).imp ?_
    rintro result p'' ⟨more, hmore, hinbox', hfailed', hR⟩
    refine ⟨made ++ more, ?_, ?_, ?_, ?_⟩
    · rw [hmore, hmade, List.append_assoc]
    · rw [hinbox, hinbox', fetched_append, List.append_assoc]
    · rw [List.any_append, hfailed]
      exact hfailed'
    · rw [fetched_append]
      exact hR
  · rintro e p' ⟨made, hmade, hinbox, hfailed, hQ⟩
    exact ⟨made, hmade, hinbox, hfailed, herror e _ _ hQ⟩

/-- A transfer reaches the chip, or it fails and does not. -/
theorem transfer {command : UInt8} {args response : List UInt8} {answer : List UInt8 → α}
    {c' : Chip} (h : c.execute command args = (.ok response, c'))
    (hinbox : c.inbox origin
      = fetched origin [⟨command :: args, some response⟩] ++ c'.inbox origin)
    (hdone : Q (.ok (answer response)) (fetched origin [⟨command :: args, some response⟩]) c')
    (hfailed : Q (.error .noResponse) [] c) :
    Takes (onLink do
      let response ← Steps.send (command :: args)
      return answer response) origin c Q := by
  rintro p rfl
  have hsend : Leads (Steps.send (command :: args)) p.link fun result link =>
      (result = .error .noResponse ∧ link = p.link.after p.link.chip ⟨command :: args, none⟩) ∨
      (result = .ok response ∧ link = p.link.after c' ⟨command :: args, some response⟩) := by
    refine Steps.leads_send (fun _ => .inl ⟨rfl, rfl⟩) fun _ => ?_
    rw [h]
    exact .inr ⟨rfl, rfl⟩
  refine leads_onLink (hsend.bind ?_ ?_)
  · rintro _ _ (⟨⟨⟩, -⟩ | ⟨⟨⟩, rfl⟩)
    exact ⟨[⟨command :: args, some response⟩], rfl, hinbox, rfl, hdone⟩
  · rintro _ _ (⟨⟨⟩, rfl⟩ | ⟨⟨⟩, -⟩)
    exact ⟨[⟨command :: args, none⟩], rfl, rfl, rfl, hfailed⟩

end Round.Takes

/-! ### Steps that fetch nothing -/

/-- Since polling was in a state, nothing has been fetched, and reception has not been disturbed.  It is
known whether a transfer has failed. -/
def Idles (origin : BusName) (before : Polling) (failed : Bool) (p : Polling) : Prop :=
  ∃ made, p.link.history = before.link.history ++ made ∧ fetched origin made = [] ∧
    made.any Transaction.failed = failed ∧ before.link.chip.Undisturbed p.link.chip

theorem notes_idles (origin : BusName) (before : Polling) :
    Notes (Idles origin before false) (Idles origin before true) := by
  have hidle : ∀ {α : Type} {steps : Round α}, (∀ c, steps.Takes origin c fun _ found c' =>
      found = [] ∧ c.Undisturbed c') →
      Keeps (Idles origin before false) (Idles origin before true) steps := by
    rintro α steps h p ⟨made, hmade, hnothing, hfailed, hc⟩
    refine (h p.link.chip p rfl).imp ?_
    rintro result p' ⟨more, hmore, -, hfailed', hnothing', hc'⟩
    have hidles : Idles origin before (!result.isOk) p' := by
      refine ⟨made ++ more, ?_, ?_, ?_, hc.trans hc'⟩
      · rw [hmore, hmade, List.append_assoc]
      · rw [fetched_append, hnothing, hnothing']
        rfl
      · rw [List.any_append, hfailed, hfailed', Bool.false_or]
    cases result <;> exact hidles
  have hclear : ∀ {address mask : UInt8}, (∀ c : Chip, c.Undisturbed
      (c.write address (c.get address &&& ~~~ mask ||| 0 &&& mask))) →
      Keeps (Idles origin before false) (Idles origin before true)
        (onLink (Steps.bitModify address mask 0)) :=
    fun h => hidle fun c => .transfer rfl (Chip.inbox_of_undisturbed (h c) origin).symm
      ⟨rfl, h c⟩ ⟨rfl, .refl c⟩
  exact {
    read := fun _ _ => hidle fun c => .transfer rfl rfl ⟨rfl, .refl c⟩ ⟨rfl, .refl c⟩
    clearErrors := hclear fun c => c.undisturbed_write _ (by decide)
    clearOthers := fun flags => hclear fun c => c.undisturbed_clearOthers flags
    countOverflow := fun _ hp => hp
    noteErrors := fun _ _ _ _ hp => hp
    say := fun _ _ _ hp => hp }

theorem takes_finish (origin : BusName) (flags errors : UInt8) (c : Chip) :
    (finish origin flags errors).Takes origin c fun _ found c' =>
      found = [] ∧ c.Undisturbed c' := by
  rintro p rfl
  have hbegin : Idles origin p false p := ⟨[], (List.append_nil _).symm, rfl, rfl, .refl _⟩
  refine ((notes_idles origin p).finish origin flags errors p hbegin).imp fun result p' h => ?_
  have hidles : Idles origin p (!result.isOk) p' := by cases result <;> exact h
  obtain ⟨made, hmade, hnothing, hfailed, hc⟩ := hidles
  refine ⟨made, hmade, ?_, hfailed, hnothing, hc⟩
  rw [hnothing, Chip.inbox_of_undisturbed hc]
  rfl

/-! ### Rounds -/

/-- What a round that begins in this state of the chip has fetched when it comes to a result. -/
def Fetches (origin : BusName) (c : Chip) :
    Except HardwareError Received → List Frame → Chip → Prop
  | .ok (.frame f), found, _ => found = [f]
  | .ok .nothing, found, _ => found = [] ∧ c.inbox origin = []
  | .ok .malformed, found, c' => found = [] ∧ c'.occupied < c.occupied
  | .error _, found, _ => found.length ≤ 1

namespace Fetches

variable {origin : BusName} {c c' c'' : Chip} {received : Received} {found : List Frame}

theorem undisturbed (h : Fetches origin c (.ok received) found c') (hc : Chip.Undisturbed c' c'') :
    Fetches origin c (.ok received) found c'' := by
  cases received with
  | nothing => exact h
  | frame f => exact h
  | malformed => exact ⟨h.1, (Chip.occupied_of_undisturbed hc).trans_lt h.2⟩

theorem error (h : Fetches origin c (.ok received) found c') (e : HardwareError) :
    Fetches origin c (.error e) found c'' := by
  show found.length ≤ 1
  cases received with
  | nothing => simp [h.1]
  | frame f => simp [show found = [f] from h]
  | malformed => simp [h.1]

end Fetches

theorem fetched_readReceive (origin : BusName) {n : UInt8} (hn : n ∈ [(0 : UInt8), 1])
    (args record : List UInt8) :
    fetched origin [⟨(Command.readReceive ||| n <<< 2) :: args, some (0 :: record)⟩]
      = (ofImage? (some origin) record).toList := by
  have hmask : (Command.readReceive ||| n <<< 2) &&& 0xf9 = Command.readReceive := by
    rcases List.mem_cons.mp hn with rfl | hn
    · rfl
    · obtain rfl := List.mem_singleton.mp hn
      rfl
  have hfetched? : Transaction.fetched?
      ⟨(Command.readReceive ||| n <<< 2) :: args, some (0 :: record)⟩ origin
      = ofImage? (some origin) record := if_pos hmask
  rw [fetched, List.filterMap_cons, hfetched?]
  cases ofImage? (some origin) record <;> rfl

theorem takes_fetchFrame (origin : BusName) (c : Chip) :
    (fetchFrame origin (c.get Address.interruptFlags)).Takes origin c (Fetches origin c) := by
  rw [fetchFrame]
  obtain ⟨hcommand, hempty⟩ | ⟨n, hn, hcommand, hinbox, hoccupied⟩ := c.inbox_cases origin
  · rw [hcommand]
    exact .pure ⟨rfl, hempty⟩
  rw [hcommand]
  let record := c.readFrom (Address.receiveBuffer n) Chip.imageLength
  -- The frame is out of its buffer as soon as the record has come.
  have hrecord : (onLink (Steps.fetch [Command.readReceive ||| n <<< 2] Chip.imageLength)).Takes
      origin c fun result found c' =>
        found = (result.toOption.bind (ofImage? (some origin))).toList ∧
        (result.isOk = true → c'.occupied < c.occupied) := by
    have hfetched := fetched_readReceive origin hn (List.replicate Chip.imageLength 0) record
    exact .transfer (c.execute_readReceive hn) (hfetched ▸ hinbox) ⟨hfetched, fun _ => hoccupied⟩
      ⟨rfl, fun h => by cases h⟩
  refine .bind hrecord (fun record found c' hfound => ?_) fun e found c' hfound => ?_
  · obtain ⟨hfound, hoccupied⟩ := hfound
    obtain rfl : found = (ofImage? (some origin) record).toList := hfound
    cases ofImage? (some origin) record with
    | some f => exact .pure rfl
    | none => exact .pure ⟨rfl, hoccupied rfl⟩
  · rw [show found = [] from hfound.1]
    exact Nat.zero_le 1

/-- A round takes at most one frame out, and gives it unless a transfer fails afterwards. -/
theorem takes_round (origin : BusName) (c : Chip) :
    (round origin).Takes origin c (Fetches origin c) := by
  have hread : (onLink (Steps.fetch [Command.read, Address.interruptFlags] 2)).Takes origin c
      fun result found c' => found = [] ∧ ∀ seen, result = .ok seen →
        c' = c ∧ seen.headD 0 = c.get Address.interruptFlags :=
    .transfer rfl rfl ⟨rfl, by rintro _ ⟨⟩; exact ⟨rfl, rfl⟩⟩ ⟨rfl, nofun⟩
  rw [round_eq]
  refine .bind hread (fun seen found c' hseen => ?_) fun e found _ hfound => ?_
  · obtain ⟨rfl, hseen⟩ := hseen
    obtain ⟨rfl, hflags⟩ := hseen seen rfl
    rw [hflags]
    refine .bind (takes_fetchFrame origin c') (fun received found c'' hfetched => ?_)
      fun _ _ _ hfetched => hfetched
    refine .bind (takes_finish origin _ _ c'') (fun _ more c₃ h => .pure ?_) fun e more c₃ h => ?_
    all_goals
      obtain ⟨rfl, hc⟩ := h
      simp only [List.nil_append, List.append_nil]
    · exact hfetched.undisturbed hc
    · exact hfetched.error e
  · rw [hfound.1]
    exact Nat.zero_le 1

/-- What becomes of these frames when those of `found` are fetched and `frame` is given. -/
def Settles (frames found : List Frame) (failed : Bool) (frame : Option Frame) : Prop :=
  if failed then frame = none ∧ found.length ≤ 1 else frame = frames.head? ∧ found = frame.toList

/-- As many rounds suffice as buffers are occupied, and one more. -/
theorem frames_rounds (origin : BusName) {n : Nat} {p : Polling} (h : p.link.chip.occupied < n) :
    ∃ made frame, (rounds origin n p).1 = some frame ∧
      (rounds origin n p).2.link.history = p.link.history ++ made ∧
      p.link.chip.inbox origin
        = fetched origin made ++ (rounds origin n p).2.link.chip.inbox origin ∧
      Settles (p.link.chip.inbox origin) (fetched origin made) (made.any Transaction.failed)
        frame := by
  induction n generalizing p with
  | zero => exact absurd h (Nat.not_lt_zero _)
  | succ n ih =>
    obtain ⟨made, hmade, hinbox, hfailed, hfetched⟩ := takes_round origin p.link.chip p rfl
    rw [rounds]
    rcases hrun : (round origin).run.run p with ⟨e | _ | f | _, p'⟩
    all_goals rw [hrun] at hmade hinbox hfailed hfetched
    · refine ⟨made, none, rfl, hmade, hinbox, ?_⟩
      rw [hfailed]
      exact ⟨rfl, hfetched⟩
    · obtain ⟨hfetched, hempty⟩ := hfetched
      refine ⟨made, none, rfl, hmade, hinbox, ?_⟩
      rw [hfailed, hempty]
      exact ⟨rfl, hfetched⟩
    · have hfetched : fetched origin made = [f] := hfetched
      refine ⟨made, some f, rfl, hmade, hinbox, ?_⟩
      rw [hfailed, hinbox, hfetched]
      exact ⟨rfl, rfl⟩
    -- A malformed image is no frame, so that the frames are those of the rounds that follow.
    · obtain ⟨hfetched, hless⟩ := hfetched
      rw [hfetched, List.nil_append] at hinbox
      obtain ⟨more, frame, hresult, hmore, hinbox', hsettles⟩ :=
        ih (p := { p' with notices := p'.notices ++ [.invalidLengthReceived origin] })
          (Nat.lt_of_lt_of_le hless (Nat.lt_succ_iff.mp h))
      have hfetched' : fetched origin (made ++ more) = fetched origin more := by
        rw [fetched, List.filterMap_append]
        exact congrArg (· ++ _) hfetched
      refine ⟨made ++ more, frame, hresult, ?_, ?_, ?_⟩
      · rw [← List.append_assoc, ← hmade]
        exact hmore
      · rw [hinbox, hfetched']
        exact hinbox'
      · rw [hinbox, hfetched', List.any_append, hfailed]
        exact hsettles

/-- A frame that a poll gives was the first one in the receive buffers, and the others are still there. -/
theorem inbox_of_poll {origin : BusName} {s : Statistics} {l : Link} {f : Frame}
    (h : (poll origin s l).frame = some f) :
    l.chip.inbox origin = f :: (poll origin s l).device.chip.inbox origin := by
  have hoccupied : l.chip.occupied < 3 := Nat.lt_succ_of_le List.countP_le_length
  obtain ⟨made, frame, hresult, -, hinbox, hsettles⟩ :=
    frames_rounds origin (p := { link := l, statistics := s }) hoccupied
  obtain rfl : some f = frame := h.symm.trans (congrArg Option.join hresult)
  rw [Settles] at hsettles
  split at hsettles
  · exact absurd hsettles.1 (Option.some_ne_none f)
  · rw [hsettles.2] at hinbox
    exact hinbox

/-- The frames in the receive buffers before a poll are those that its transactions fetched and those
that are in the buffers afterwards.  Unless a transfer fails, the first of them is fetched and given.  If
one fails no frame is given; at most one was fetched by then, and that one is lost. -/
theorem frames_poll (origin : BusName) (s : Statistics) (l : Link) :
    let p := poll origin s l
    ∃ made, p.device.history = l.history ++ made ∧
      l.chip.inbox origin = fetched origin made ++ p.device.chip.inbox origin ∧
      if made.any Transaction.failed then p.frame = none ∧ (fetched origin made).length ≤ 1
      else p.frame = (l.chip.inbox origin).head? ∧ fetched origin made = p.frame.toList := by
  intro p
  have hoccupied : l.chip.occupied < 3 := Nat.lt_succ_of_le List.countP_le_length
  obtain ⟨made, frame, hresult, hmade, hinbox, hsettles⟩ :=
    frames_rounds origin (p := { link := l, statistics := s }) hoccupied
  have hframe : p.frame = frame := congrArg Option.join hresult
  exact ⟨made, hmade, hinbox, hframe ▸ hsettles⟩

/-- A frame has been sent and another one has arrived.  The frame is fetched, the transfer that clears
the flag of the transmission fails, and the frame is neither given nor in a buffer. -/
theorem inbox_poll_of_failure :
    let origin := BusName.numbered 1
    let first : Frame := ⟨none, 0x100, .standard, [], by decide, by decide⟩
    let second : Frame := ⟨none, 0x123, .standard, [7], by decide, by decide⟩
    let started : Link := (Device.start ⟨.active, .kbps500⟩ {}).2
    let sent := (Device.transmit first started).2
    let l := { sent with chip := (sent.chip.inject second).2 }.plan 2 1
    let p := Device.poll origin {} l
    l.chip.inbox origin ≠ p.frame.toList ++ p.device.chip.inbox origin := by
  decide +kernel

end Polling
end Fieldbus.Mcp2515
