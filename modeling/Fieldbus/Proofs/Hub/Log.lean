import Fieldbus.Proofs.Bus.Telling
import Fieldbus.Proofs.Hub.Basic

/-! The log of a hub.  The active logger is handed one message for each entry and nothing else, so that
a frame that comes in is handed to it once, whatever becomes of the listeners (`Hub.hands_performAll`,
`Hub.hands_incoming`).  A logger that is open, has no filters, and reports or keeps whatever it is handed
makes each message one more of its log (`Hub.Hands.logs`). -/

namespace Fieldbus

/-- The logger lets no entry pass it by. -/
def Logger.RecordsAll (l : Logger) (outlet : Logger.Outlet) : Prop :=
  l.isOpen = true ∧ l.filter.filters = [] ∧
  match l.kind with
  | .trace => True
  | .file _ => False
  | .memory _ => outlet.memoryFails = false ∧ outlet.memorySkips = false

/-- What such a logger makes of a message: it reports it, or it keeps it. -/
theorem Logger.RecordsAll.log {l : Logger} {outlet : Logger.Outlet} (hl : l.RecordsAll outlet)
    (m : Message) :
    let s := l.log m outlet
    s.logger.RecordsAll s.outlet ∧ s.logger.kind = l.kind ∧
    ((l.kind = .trace ∧ s.notices = [.recorded m]) ∨
      ((∃ needsPath, l.kind = .memory needsPath) ∧ s.outlet.memory = outlet.memory ++ [m] ∧
        s.notices = [])) := by
  obtain ⟨kind, filter, tally, isOpen, path⟩ := l
  obtain ⟨hopen, hfilter, hkind⟩ := hl
  dsimp only at hopen hfilter hkind ⊢
  subst hopen
  have hadmits : filter.admits m = true := by
    rw [Logger.FilterSet.admits, hfilter]
    rfl
  cases kind with
  | trace => simp [Logger.log, Logger.write, hadmits, RecordsAll, hfilter]
  | file format => exact hkind.elim
  | memory needsPath =>
    obtain ⟨hfails, hskips⟩ := hkind
    simp [Logger.log, Logger.write, hadmits, RecordsAll, hfails, hskips, hfilter]

/-- The active logger, what it writes to, and the messages that it has reported. -/
structure Recorder where
  logger : Option Logger
  outlet : Logger.Outlet
  reported : List Message

namespace Recorder

/-- The active logger is handed a message, if there is a logger. -/
def hand (r : Recorder) (m : Message) : Recorder :=
  match r.logger with
  | some l =>
    let s := l.log m r.outlet
    ⟨some s.logger, s.outlet, r.reported ++ s.notices.filterMap Notice.message?⟩
  | none => r

/-- There is an active logger, and it records every entry. -/
def RecordsAll (r : Recorder) : Prop := ∃ l, r.logger = some l ∧ l.RecordsAll r.outlet

/-- What the active logger has recorded: it keeps the messages in memory, or reports them. -/
def log (r : Recorder) : List Message :=
  match r.logger.map Logger.kind with
  | some (.memory _) => r.outlet.memory
  | _ => r.reported

theorem log_hand {r : Recorder} (hr : r.RecordsAll) (m : Message) :
    (r.hand m).RecordsAll ∧ (r.hand m).log = r.log ++ [m] := by
  obtain ⟨logger, outlet, reported⟩ := r
  obtain ⟨l, rfl, hall⟩ := hr
  obtain ⟨hall', hkind, hlogged⟩ := hall.log m
  refine ⟨⟨_, rfl, hall'⟩, ?_⟩
  rw [log, log, hand]
  simp only [Option.map_some, hkind]
  rcases hlogged with ⟨htrace, hnotices⟩ | ⟨⟨needsPath, hmemory⟩, hkept, -⟩
  · rw [htrace, hnotices]
    rfl
  · rw [hmemory]
    exact hkept

theorem log_foldl {r : Recorder} (hr : r.RecordsAll) (messages : List Message) :
    (messages.foldl hand r).RecordsAll ∧ (messages.foldl hand r).log = r.log ++ messages := by
  induction messages generalizing r with
  | nil => exact ⟨hr, (List.append_nil _).symm⟩
  | cons m messages ih =>
    obtain ⟨hfirst, hlog⟩ := log_hand hr m
    obtain ⟨hrest, hlog'⟩ := ih hfirst
    refine ⟨hrest, hlog'.trans ?_⟩
    rw [hlog, List.append_assoc, List.singleton_append]

end Recorder

namespace Hub

variable {δ : Type} {h h' h'' : Hub δ} {messages messages' : List Message}

/-! ### What the active logger is handed -/

def recorder (h : Hub δ) : Recorder :=
  ⟨h.logger, h.outlet, h.journal.toList.filterMap Notice.message?⟩

/-- From one state to the next, the active logger was handed these messages, and no time has passed. -/
structure Hands (h h' : Hub δ) (messages : List Message) : Prop where
  recorder : h'.recorder = messages.foldl Recorder.hand h.recorder
  clock : h'.clock = h.clock

theorem Hands.refl (h : Hub δ) : Hands h h [] := ⟨rfl, rfl⟩

theorem Hands.trans (h₁ : Hands h h' messages) (h₂ : Hands h' h'' messages') :
    Hands h h'' (messages ++ messages') :=
  ⟨by rw [h₂.recorder, h₁.recorder, List.foldl_append], h₂.clock.trans h₁.clock⟩

/-- The notices of a logger are reported behind those that have been reported. -/
theorem recorder_sayAll (h : Hub δ) (notices : List Notice) :
    (h.sayAll notices).clock = h.clock ∧
    (h.sayAll notices).recorder = { h.recorder with
      reported := h.recorder.reported ++ notices.filterMap Notice.message? } := by
  induction notices generalizing h with
  | nil => exact ⟨rfl, by simp [sayAll, recorder]⟩
  | cons n notices ih =>
    obtain ⟨hclock, hrecorder⟩ := ih (h.say n)
    refine ⟨hclock, hrecorder.trans ?_⟩
    simp only [recorder, say, Array.toList_push, List.append_assoc, ← List.filterMap_append,
      List.singleton_append]

theorem hands_sayAll (h : Hub δ) {notices : List Notice}
    (hnotices : ∀ n ∈ notices, n.message? = none) : Hands h (h.sayAll notices) [] := by
  obtain ⟨hclock, hrecorder⟩ := h.recorder_sayAll notices
  refine ⟨hrecorder.trans ?_, hclock⟩
  rw [List.filterMap_eq_nil_iff.mpr hnotices, List.append_nil]
  rfl

theorem hands_say (h : Hub δ) {n : Notice} (hn : n.message? = none) : Hands h (h.say n) [] :=
  h.hands_sayAll (List.forall_mem_singleton.mpr hn)

theorem hands_record (h : Hub δ) (origin : Option BusName) (e : Entry) :
    Hands h (h.record origin e) [⟨origin, h.clock, e⟩] := by
  rw [record, onLogger]
  cases hl : h.logger with
  | none => exact ⟨by simp [Recorder.hand, recorder, hl], rfl⟩
  | some l =>
    let s := l.log ⟨origin, h.clock, e⟩ h.outlet
    obtain ⟨hclock, hrecorder⟩ :=
      recorder_sayAll { h with logger := some s.logger, outlet := s.outlet } s.notices
    refine ⟨hrecorder.trans ?_, hclock⟩
    simp only [List.foldl_cons, List.foldl_nil, Recorder.hand, recorder, hl]
    rfl

/-- Each entry is handed on as one message. -/
theorem hands_performAll (h : Hub δ) {effects : List Effect} (hplain : ∀ e ∈ effects, e.Plain) :
    Hands h (h.performAll effects) (effects.filterMap (Effect.message? h.clock)) := by
  induction effects generalizing h with
  | nil => exact .refl h
  | cons e effects ih =>
    obtain ⟨hfirst, hrest⟩ := List.forall_mem_cons.mp hplain
    have hafter : ∀ {h' : Hub δ}, h'.clock = h.clock →
        Hands h' (h'.performAll effects) (effects.filterMap (Effect.message? h.clock)) :=
      fun {h'} hclock => hclock ▸ ih h' hrest
    cases e with
    | notice n => exact (h.hands_say hfirst).trans (hafter rfl)
    | entry origin e =>
      have hrecorded := h.hands_record origin e
      exact hrecorded.trans (hafter hrecorded.clock)

theorem hands_settle (h : Hub δ) (i : Nat) (b : Bus δ) {effects : List Effect}
    (hplain : ∀ e ∈ effects, e.Plain) :
    Hands h (h.settle i (b, effects)) (effects.filterMap (Effect.message? h.clock)) := by
  have hperformed := hands_performAll { h with buses := h.buses.set i b } hplain
  exact ⟨hperformed.recorder, hperformed.clock⟩

theorem hands_counted (h : Hub δ) (f : Frame) : Hands h (h.counted f) [] := by
  rw [counted]
  split
  · rw [countReceived, alter]
    split <;> exact ⟨rfl, rfl⟩
  · exact .refl h

theorem message?_deliver (l : Listeners) (f : Frame) :
    ∀ n ∈ (l.deliver f).2, n.message? = none := by
  have hdeliverTo : ∀ (keys : List String) (l : Listeners),
      ∀ n ∈ (l.deliverTo f keys).2, n.message? = none := by
    intro keys
    induction keys with
    | nil => exact fun l n hn => absurd hn List.not_mem_nil
    | cons key keys ih =>
      intro l
      rw [Listeners.deliverTo]
      rcases l.offer key f with ⟨_ | _ | _, l'⟩
      · exact ih _
      · exact List.forall_mem_cons.mpr ⟨rfl, ih _⟩
      · exact List.forall_mem_cons.mpr ⟨rfl, ih _⟩
  exact hdeliverTo _ _

theorem hands_deliver (h : Hub δ) (f : Frame) : Hands h (h.deliver f) [] := by
  have hsaid := hands_sayAll { h with listeners := (h.listeners.deliver f).1 }
    (message?_deliver h.listeners f)
  exact ⟨hsaid.recorder, hsaid.clock⟩

/-- A frame that comes in is handed on once, as a received frame. -/
theorem hands_incoming (h : Hub δ) (f : Frame) :
    Hands h (h.incoming f) [⟨f.origin, h.clock, .frame .received f⟩] := by
  have hdelivered := (h.hands_counted f).trans ((h.counted f).hands_deliver f)
  rw [← hdelivered.clock]
  exact hdelivered.trans (hands_record _ _ _)

theorem hands_push (h : Hub δ) (w : Work) : Hands h (h.push w).2 [] := by
  rw [push]
  dsimp only
  split
  · exact ⟨rfl, rfl⟩
  · have hsaid := hands_say { h with queue := (h.queue.push w).2 }
      (n := .workDropped (workText { h with queue := (h.queue.push w).2 } w)) rfl
    exact ⟨hsaid.recorder, hsaid.clock⟩

/-! ### What a logger that passes everything has recorded -/

def log (h : Hub δ) : List Message := h.recorder.log

def Records (h : Hub δ) : Prop := h.recorder.RecordsAll

/-- From one state to the next, these messages came to the log. -/
structure Logs (h h' : Hub δ) (messages : List Message) : Prop where
  records : h'.Records
  log : h'.log = h.log ++ messages

/-- What the logger was handed is in its log. -/
theorem Hands.logs (hhands : Hands h h' messages) (hrecords : h.Records) : Logs h h' messages := by
  obtain ⟨hrecords', hlog⟩ := Recorder.log_foldl hrecords messages
  rw [← hhands.recorder] at hrecords' hlog
  exact ⟨hrecords', hlog⟩

end Hub
end Fieldbus
