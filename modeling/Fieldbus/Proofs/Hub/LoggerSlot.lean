import Fieldbus.Daemon
import Fieldbus.Proofs.Logger.Filing

/-! The slot of the active logger.  An account of the loggers that were asked for is kept from the calls
and their answers alone (`Tenure`): what the active logger was told last, and the messages that came
since it was made.  Whatever the calls, whichever files can be opened and whatever is logged meanwhile,
the logger in the slot is the one of the account (`LoggerSlot.kept_events`). -/

namespace Fieldbus

/-! ### What the operations do -/

namespace Logger

variable {l : Logger} {outlet : Outlet} {path : Option String}

theorem open_ok (h : (l.open path outlet).result = .ok ())
    (hmemory : ∀ needsPath, l.kind ≠ .memory needsPath) :
    (l.open path outlet).logger
      = { l with isOpen := true, path := if l.needsPath then path else l.path } := by
  obtain ⟨kind, filter, tally, isOpen, before⟩ := l
  cases kind with
  | trace => rfl
  | memory needsPath => exact absurd rfl (hmemory needsPath)
  | file format =>
    cases path with
    | none => cases h
    | some path =>
      cases hfiles : outlet.openAppend path with
      | error e =>
        simp only [Logger.open, hfiles] at h
        cases h
      | ok files =>
        simp only [Logger.open, hfiles]
        rfl

/-- Files change only where the logger has its path. -/
theorem files_write (l : Logger) (m : Message) (outlet : Outlet) :
    (l.write m outlet).outlet.files = outlet.files ∨
    ∃ path bytes, l.path = some path ∧
      (l.write m outlet).outlet.files = outlet.files.append path bytes := by
  rw [write]
  split
  · exact .inl rfl
  · split
    · exact .inl rfl
    · exact .inl rfl
    · next path hpath _ => exact .inr ⟨path, _, hpath, rfl⟩
  · split_ifs <;> exact .inl rfl

/-- Traffic changes the file that an open logger without filters has its path to. -/
theorem files_log_ne {format : Capture.Format} {path name : String} (hl : l.Writes format path)
    (hname : outlet.files.resolve path = .ok name)
    {m : Message} (hm : m.entry.traffic?.isSome = true) :
    (l.log m outlet).outlet.files.get? name ≠ outlet.files.get? name := by
  have hrepresents : l.kind.represents m = true := by rw [hl.kind, Kind.represents_file, hm]
  have hbytes : format.encode m ≠ [] := by
    rw [Ne, Capture.Format.encode_eq_nil_iff, ← Ne, ← Option.isSome_iff_ne_none]
    exact hm
  rw [log, hl.isOpen, hl.admits]
  simp only [Bool.not_true, Bool.false_eq_true, if_false]
  rw [write_of_file hl.kind hl.path, if_pos hrepresents]
  dsimp only
  rw [Files.append_eq_put hname, Files.get?_put, if_pos rfl]
  cases outlet.files.get? name with
  | none => exact Option.some_ne_none _
  | some bytes => simpa using hbytes

/-- A message changes a file only if the logger is open there. -/
theorem open_of_files_log_ne {m : Message} {name : String}
    (h : (l.log m outlet).outlet.files.get? name ≠ outlet.files.get? name) :
    l.isOpen = true ∧ ∃ path, l.path = some path ∧ outlet.files.resolve path = .ok name := by
  rw [log] at h
  split at h
  · exact absurd rfl h
  next hopen =>
  split at h
  · exact absurd rfl h
  rcases l.files_write m outlet with hsame | ⟨path, bytes, hpath, hfiles⟩
  · rw [hsame] at h
    exact absurd rfl h
  · rw [hfiles] at h
    exact ⟨by simpa using hopen, path, hpath, Files.resolve_of_get?_append_ne h⟩

end Logger

namespace Hub

variable {δ : Type}

theorem logger_sayAll (h : Hub δ) (notices : List Notice) :
    (h.sayAll notices).logger = h.logger := by
  induction notices generalizing h with
  | nil => rfl
  | cons n notices ih => exact ih (h.say n)

theorem outlet_sayAll (h : Hub δ) (notices : List Notice) :
    (h.sayAll notices).outlet = h.outlet := by
  induction notices generalizing h with
  | nil => rfl
  | cons n notices ih => exact ih (h.say n)

/-- A request for a logger that is refused before anything is changed. -/
def Refused (h : Hub δ) (a : Except OperatorError Unit × Hub δ) : Prop :=
  ∃ e, a = (.error e, h) ∧ ∀ reason, e ≠ .logger reason

/-- The logger could not be opened, so none is active. -/
def Failed (a : Except OperatorError Unit × Hub δ) : Prop :=
  ∃ reason, a.1 = .error (.logger reason) ∧ a.2.logger = none

def Changed (a : Except OperatorError Unit × Hub δ) (l : Logger) : Prop :=
  a.1 = .ok () ∧ a.2.logger = some l

theorem createLogger_cases {h : Hub δ} (hnone : h.logger = none) (types : Registry Logger.Kind)
    (typeName : String) (path : Option String) (filter : Logger.FilterSet) :
    let a := h.createLogger types typeName path filter
    h.Refused a ∨ Failed a ∨ ∃ kind, types.get? typeName = some kind ∧
      let l : Logger := { kind, filter }
      let s := l.open path h.outlet
      (l.needsPath = true → path.isSome = true) ∧ s.result = .ok () ∧ Changed a s.logger := by
  rw [createLogger]
  split
  · exact .inl ⟨_, rfl, nofun⟩
  next kind hkind =>
  dsimp only
  split
  · exact .inl ⟨_, rfl, nofun⟩
  next hpath =>
  have hsome : ({ kind, filter } : Logger).needsPath = true → path.isSome = true := by
    simpa [Option.isSome_iff_ne_none] using hpath
  cases hopen : (({ kind, filter } : Logger).open path h.outlet).result with
  | error e => exact .inr (.inl ⟨e, rfl, (logger_sayAll _ _).trans hnone⟩)
  | ok _ => exact .inr (.inr ⟨kind, hkind, hsome, hopen, rfl, rfl⟩)

theorem reconfigureLogger_cases (h : Hub δ) (l : Logger) (typeName : String) (path : Option String)
    (filter : Logger.FilterSet) :
    let a := h.reconfigureLogger l typeName path filter
    h.Refused a ∨ Failed a ∨
    (l.typeName = typeName ∧ (l.needsPath = true → path.isSome = true) ∧
      (((l.needsPath = true → l.path = path) ∧ Changed a { l with filter }) ∨
      let s := ({ l with filter, isOpen := false } : Logger).open path h.outlet
      s.result = .ok () ∧ Changed a s.logger)) := by
  rw [reconfigureLogger]
  split
  · exact .inl ⟨_, rfl, nofun⟩
  next htype =>
  split
  · exact .inl ⟨_, rfl, nofun⟩
  next hpath =>
  have hsome : l.needsPath = true → path.isSome = true := by
    simpa [Option.isSome_iff_ne_none] using hpath
  dsimp only
  split
  · cases hopen : (({ l with filter, isOpen := false } : Logger).open path h.outlet).result with
    | error e =>
      simp only [Logger.close, hopen]
      exact .inr (.inl ⟨e, rfl, logger_sayAll _ _⟩)
    | ok _ =>
      simp only [Logger.close, hopen]
      exact .inr (.inr ⟨not_not.mp htype, hsome, .inr ⟨trivial, rfl, rfl⟩⟩)
  · next hmoved =>
    have hsame : ({ l with filter } : Logger).needsPath = true → l.path = path := by
      simpa using hmoved
    exact .inr (.inr ⟨not_not.mp htype, hsome, .inl ⟨hsame, rfl, rfl⟩⟩)

/-- Only a failure to open a path changes anything but the answer. -/
theorem configureLogger_cases (h : Hub δ) (types : Registry Logger.Kind) (typeName : String)
    (path : Option String) (filters : List String) :
    let a := h.configureLogger types typeName path filters
    h.Refused a ∨ Failed a ∨ a.1 = .ok () := by
  rw [configureLogger]
  cases Logger.FilterSet.parse filters with
  | error e => exact .inl ⟨_, rfl, nofun⟩
  | ok filter =>
    cases hlogger : h.logger with
    | none =>
      obtain ha | ha | ⟨_, _, _, _, hok, _⟩ :=
        createLogger_cases hlogger types typeName path filter
      · exact .inl ha
      · exact .inr (.inl ha)
      · exact .inr (.inr hok)
    | some l =>
      obtain ha | ha | ⟨_, _, ⟨_, hok, _⟩ | ⟨_, hok, _⟩⟩ :=
        h.reconfigureLogger_cases l typeName path filter
      · exact .inl ha
      · exact .inr (.inl ha)
      all_goals exact .inr (.inr hok)

/-- A recording in a file that is there starts without a change of the file. -/
theorem configureLogger_of_get? {h : Hub δ} (hnone : h.logger = none)
    {types : Registry Logger.Kind} {typeName path : String} {format : Capture.Format}
    {bytes : List UInt8} (hkind : types.get? typeName = some (.file format))
    (hget : h.outlet.files.get? path = some bytes) (hslash : path.endsWith "/" = false)
    (havailable : h.outlet.unavailable.lookup path = none) :
    let a := h.configureLogger types typeName (some path) []
    Changed a { kind := .file format, isOpen := true, path := some path } ∧
      a.2.outlet = h.outlet := by
  have hfilter : Logger.FilterSet.parse [] = .ok {} := rfl
  obtain ⟨hok, hlogger, houtlet⟩ :=
    Logger.open_of_get? (l := { kind := .file format }) rfl hget hslash havailable
  have hpath : (({ kind := .file format } : Logger).needsPath && (some path).isNone) = false := rfl
  rw [configureLogger, hfilter]
  dsimp only
  rw [hnone]
  dsimp only
  rw [createLogger, hkind]
  dsimp only
  rw [hpath, hok, hlogger]
  exact ⟨⟨rfl, rfl⟩, (outlet_sayAll _ _).trans houtlet⟩

/-- Traffic changes the file that the active logger records in without filters. -/
theorem files_record_ne {h : Hub δ} {l : Logger} {format : Capture.Format} {path name : String}
    (hlogger : h.logger = some l) (hl : l.Writes format path)
    (hname : h.outlet.files.resolve path = .ok name) {origin : Option BusName} {e : Entry}
    (he : e.traffic?.isSome = true) :
    (h.record origin e).outlet.files.get? name ≠ h.outlet.files.get? name := by
  rw [record, onLogger, hlogger]
  dsimp only
  rw [outlet_sayAll]
  exact Logger.files_log_ne hl hname he

/-- A message changes a file only if the active logger is open there. -/
theorem open_of_files_record_ne {h : Hub δ} {origin : Option BusName} {e : Entry} {name : String}
    (hchanged : (h.record origin e).outlet.files.get? name ≠ h.outlet.files.get? name) :
    ∃ l path, h.logger = some l ∧ l.isOpen = true ∧ l.path = some path ∧
      h.outlet.files.resolve path = .ok name := by
  rw [record, onLogger] at hchanged
  cases hlogger : h.logger with
  | none =>
    rw [hlogger] at hchanged
    exact absurd rfl hchanged
  | some l =>
    rw [hlogger] at hchanged
    dsimp only at hchanged
    rw [outlet_sayAll] at hchanged
    obtain ⟨hopen, path, hpath, hname⟩ := Logger.open_of_files_log_ne hchanged
    exact ⟨l, path, rfl, hopen, hpath, hname⟩

end Hub

/-! ### The account -/

/-- What was asked of the active logger, and the messages that came since it was made. -/
structure Tenure where
  /-- How many loggers had left the slot before. -/
  before : Nat
  typeName : String
  path : Option String
  filters : List String
  arrivals : List Logger.Arrival := []

namespace Tenure

def kind (t : Tenure) : Logger.Kind := (Daemon.loggerTypes.get? t.typeName).getD .trace

def tally (t : Tenure) : Logger.Tally := .ofArrivals t.kind t.arrivals

def admits (t : Tenure) (m : Message) : Bool :=
  match Logger.FilterSet.parse t.filters with
  | .ok filter => filter.admits m
  | .error _ => false

def arrive (t : Tenure) (m : Message) : Tenure :=
  { t with arrivals := t.arrivals ++ [⟨t.admits m, m⟩] }

/-- The logger is open, of the type that was asked for at first, with the filters and at the path that
were asked for last, and its counters tell of all messages since it was made. -/
structure Describes (t : Tenure) (l : Logger) : Prop where
  isOpen : l.isOpen = true
  kind : l.kind = t.kind
  typeName : l.typeName = t.typeName
  filter : Logger.FilterSet.parse t.filters = .ok l.filter
  path : l.needsPath = true → l.path = t.path ∧ t.path.isSome = true
  tally : l.tally = t.tally

end Tenure

/-- A hub, an account of its active logger, and the loggers that left the slot, each with the account
of it. -/
structure LoggerSlot (δ : Type) where
  hub : Hub δ
  tenure : Option Tenure := none
  past : List (Logger × Tenure) := []

/-- What an operator may ask about loggers, and what may happen meanwhile. -/
inductive LoggerSlot.Event where
  | configure (typeName : String) (path : Option String) (filters : List String)
  | stop
  | log (origin : Option BusName) (e : Entry)
  | pass (clock : Timestamp)
  /-- Files are changed, or the paths at which they can be opened. -/
  | outside (outlet : Logger.Outlet)

namespace LoggerSlot

variable {δ : Type}

def leave (r : LoggerSlot δ) : LoggerSlot δ :=
  { r with
    tenure := none
    past := r.past ++ (r.hub.logger.bind fun l => r.tenure.map (l, ·)).toList }

/-- The account of a request that was answered in this way. -/
def answered (r : LoggerSlot δ) (typeName : String) (path : Option String) (filters : List String) :
    Except OperatorError Unit → LoggerSlot δ
  | .ok () =>
    match r.tenure with
    | none => { r with tenure := some { before := r.past.length, typeName, path, filters } }
    | some t => { r with tenure := some { t with path, filters } }
  | .error (.logger _) => r.leave
  | .error _ => r

def occur (r : LoggerSlot δ) : Event → LoggerSlot δ
  | .configure typeName path filters =>
    let (answer, hub) := r.hub.configureLogger Daemon.loggerTypes typeName path filters
    { r.answered typeName path filters answer with hub }
  | .stop => { r.leave with hub := r.hub.detach.2 }
  | .log origin e =>
    { r with
      hub := r.hub.record origin e
      tenure := r.tenure.map (·.arrive ⟨origin, r.hub.clock, e⟩) }
  | .pass clock => { r with hub.clock := clock }
  | .outside outlet => { r with hub.outlet := outlet }

def events (r : LoggerSlot δ) (events : List Event) : LoggerSlot δ := events.foldl occur r

end LoggerSlot

/-! ### The slot is as the account says -/

/-- The defaults are named after their types, and none of them keeps messages in memory. -/
theorem typeName_of_loggerTypes {typeName : String} {kind : Logger.Kind}
    (h : Daemon.loggerTypes.get? typeName = some kind) :
    ({ kind } : Logger).typeName = typeName ∧ ∀ needsPath, kind ≠ .memory needsPath := by
  have hentries : Daemon.loggerTypes.entries
      = [("gvret-a", .file .lines), ("gvret-b", .file .records), ("trace", .trace)] := by rfl
  have hmem : (typeName, kind) ∈ Daemon.loggerTypes.entries := by
    obtain ⟨l₁, l₂, hl, -⟩ := List.lookup_eq_some_iff.mp h
    rw [hl]
    exact List.mem_append_right _ (List.mem_cons_self ..)
  rw [hentries] at hmem
  simp only [List.mem_cons, Prod.mk.injEq, List.not_mem_nil, or_false] at hmem
  obtain ⟨rfl, rfl⟩ | ⟨rfl, rfl⟩ | ⟨rfl, rfl⟩ := hmem <;> exact ⟨rfl, nofun⟩

namespace Tenure

variable {t : Tenure} {l : Logger}

theorem Describes.kind_ne_memory (h : t.Describes l) (needsPath : Bool) :
    l.kind ≠ .memory needsPath := by
  rw [h.kind, Tenure.kind]
  cases hkind : Daemon.loggerTypes.get? t.typeName with
  | none => nofun
  | some kind => exact (typeName_of_loggerTypes hkind).2 needsPath

/-- A logger that is made has no messages yet. -/
theorem describes_opened {outlet : Logger.Outlet} {typeName : String} {kind : Logger.Kind}
    {path : Option String} {filters : List String} {filter : Logger.FilterSet}
    (hkind : Daemon.loggerTypes.get? typeName = some kind)
    (hfilter : Logger.FilterSet.parse filters = .ok filter)
    (hpath : ({ kind, filter } : Logger).needsPath = true → path.isSome = true)
    (hopen : (({ kind, filter } : Logger).open path outlet).result = .ok ()) (before : Nat) :
    ({ before, typeName, path, filters } : Tenure).Describes
      (({ kind, filter } : Logger).open path outlet).logger := by
  obtain ⟨htype, hmemory⟩ := typeName_of_loggerTypes hkind
  rw [Logger.open_ok hopen hmemory]
  refine ⟨rfl, ?_, htype, hfilter, fun hneeds => ⟨if_pos hneeds, hpath hneeds⟩, rfl⟩
  rw [Tenure.kind, hkind, Option.getD_some]

/-- A logger that is changed keeps its type and its messages. -/
theorem Describes.filtered (h : t.Describes l) {path : Option String} {filters : List String}
    {filter : Logger.FilterSet} (hfilter : Logger.FilterSet.parse filters = .ok filter)
    (hpath : l.needsPath = true → l.path = path ∧ path.isSome = true) :
    ({ t with path, filters } : Tenure).Describes { l with filter } :=
  ⟨h.isOpen, h.kind, h.typeName, hfilter, hpath, h.tally⟩

theorem Describes.moved (h : t.Describes l) {outlet : Logger.Outlet} {path : Option String}
    {filters : List String} {filter : Logger.FilterSet}
    (hfilter : Logger.FilterSet.parse filters = .ok filter)
    (hpath : l.needsPath = true → path.isSome = true)
    (hopen : (({ l with filter, isOpen := false } : Logger).open path outlet).result = .ok ()) :
    ({ t with path, filters } : Tenure).Describes
      (({ l with filter, isOpen := false } : Logger).open path outlet).logger := by
  rw [Logger.open_ok hopen h.kind_ne_memory]
  exact ⟨rfl, h.kind, h.typeName, hfilter, fun hneeds => ⟨if_pos hneeds, hpath hneeds⟩, h.tally⟩

theorem Describes.log (h : t.Describes l) (m : Message) (outlet : Logger.Outlet) :
    (t.arrive m).Describes (l.log m outlet).logger := by
  have hadmitted : t.admits m = l.filter.admits m := by
    rw [admits, h.filter]
  have hpath : l.needsPath = true → l.path.isSome = true := by
    intro hneeds
    obtain ⟨hsame, hsome⟩ := h.path hneeds
    rw [hsame]
    exact hsome
  have hlogger := Logger.log_of_open (a := ⟨t.admits m, m⟩) h.kind_ne_memory h.isOpen hpath
    hadmitted outlet
  have htally : l.tally.count l.kind ⟨t.admits m, m⟩ = (t.arrive m).tally := by
    rw [h.tally, h.kind]
    exact (Logger.Tally.ofArrivals_concat _ _ _).symm
  rw [hlogger]
  exact ⟨h.isOpen, h.kind, h.typeName, h.filter, h.path, htally⟩

end Tenure

namespace LoggerSlot

/-- The logger in the slot is the one of the account, which was made when all those before it had left;
they left with the counters that their accounts tell. -/
structure Sound (r : LoggerSlot δ) : Prop where
  slot : match r.tenure with
    | none => r.hub.logger = none
    | some t => ∃ l, r.hub.logger = some l ∧ t.Describes l ∧ t.before = r.past.length
  past : ∀ x ∈ r.past, x.1.tally = x.2.tally

namespace Sound

variable {r : LoggerSlot δ}

/-- Without an account there is no active logger, and with one there is. -/
theorem cases (h : r.Sound) :
    (r.tenure = none ∧ r.hub.logger = none) ∨
    ∃ t l, r.tenure = some t ∧ r.hub.logger = some l ∧ t.Describes l ∧
      t.before = r.past.length := by
  have hslot := h.slot
  cases htenure : r.tenure with
  | none =>
    rw [htenure] at hslot
    exact .inl ⟨rfl, hslot⟩
  | some t =>
    rw [htenure] at hslot
    obtain ⟨l, hlogger, hdescribes, hbefore⟩ := hslot
    exact .inr ⟨t, l, rfl, hlogger, hdescribes, hbefore⟩

theorem leave (h : r.Sound) {hub : Hub δ} (hnone : hub.logger = none) :
    Sound { r.leave with hub } := by
  refine ⟨hnone, fun x hx => ?_⟩
  rcases List.mem_append.mp hx with hx | hx
  · exact h.past x hx
  obtain ⟨-, hlogger⟩ | ⟨t, l, htenure, hlogger, hdescribes, -⟩ := h.cases
  · rw [hlogger] at hx
    exact absurd hx List.not_mem_nil
  · rw [htenure, hlogger] at hx
    obtain rfl := List.mem_singleton.mp hx
    exact hdescribes.tally

section Answers

variable {typeName : String} {path : Option String} {filters : List String}
  {a : Except OperatorError Unit × Hub δ}

theorem refused (h : r.Sound) (ha : r.hub.Refused a) :
    Sound { r.answered typeName path filters a.1 with hub := a.2 } := by
  obtain ⟨e, rfl, he⟩ := ha
  have hsame : r.answered typeName path filters (.error e) = r := by
    rw [answered]
    exact he
  rw [hsame]
  exact h

theorem failed (h : r.Sound) (ha : Hub.Failed a) :
    Sound { r.answered typeName path filters a.1 with hub := a.2 } := by
  obtain ⟨reason, hanswer, hnone⟩ := ha
  rw [hanswer]
  exact h.leave hnone

theorem created (h : r.Sound) (htenure : r.tenure = none) {l : Logger} (ha : Hub.Changed a l)
    (hl : ∀ before, ({ before, typeName, path, filters } : Tenure).Describes l) :
    Sound { r.answered typeName path filters a.1 with hub := a.2 } := by
  obtain ⟨hanswer, hlogger⟩ := ha
  rw [hanswer, answered, htenure]
  exact ⟨⟨l, hlogger, hl _, rfl⟩, h.past⟩

theorem changed (h : r.Sound) {t : Tenure} (htenure : r.tenure = some t)
    (hbefore : t.before = r.past.length) {l : Logger} (ha : Hub.Changed a l)
    (hl : ({ t with path, filters } : Tenure).Describes l) :
    Sound { r.answered typeName path filters a.1 with hub := a.2 } := by
  obtain ⟨hanswer, hlogger⟩ := ha
  rw [hanswer, answered, htenure]
  exact ⟨⟨l, hlogger, hl, hbefore⟩, h.past⟩

end Answers

theorem configure (h : r.Sound) (typeName : String) (path : Option String)
    (filters : List String) : (r.occur (.configure typeName path filters)).Sound := by
  rw [LoggerSlot.occur, Hub.configureLogger]
  cases hfilter : Logger.FilterSet.parse filters with
  | error e => exact h.refused (a := (.error (.filter e), r.hub)) ⟨_, rfl, nofun⟩
  | ok filter =>
    obtain ⟨htenure, hlogger⟩ | ⟨t, l, htenure, hlogger, hdescribes, hbefore⟩ := h.cases
    · dsimp only
      rw [hlogger]
      obtain ha | ha | ⟨kind, hkind, hpath, hopen, ha⟩ :=
        Hub.createLogger_cases hlogger Daemon.loggerTypes typeName path filter
      · exact h.refused ha
      · exact h.failed ha
      · exact h.created htenure ha fun before =>
          Tenure.describes_opened hkind hfilter hpath hopen before
    · dsimp only
      rw [hlogger]
      obtain ha | ha | ⟨-, hpath, ⟨hsame, ha⟩ | ⟨hopen, ha⟩⟩ :=
        r.hub.reconfigureLogger_cases l typeName path filter
      · exact h.refused ha
      · exact h.failed ha
      · exact h.changed htenure hbefore ha
          (hdescribes.filtered hfilter fun hneeds => ⟨hsame hneeds, hpath hneeds⟩)
      · exact h.changed htenure hbefore ha (hdescribes.moved hfilter hpath hopen)

theorem log (h : r.Sound) (origin : Option BusName) (e : Entry) :
    (r.occur (.log origin e)).Sound := by
  refine ⟨?_, h.past⟩
  rw [LoggerSlot.occur, Hub.record, Hub.onLogger]
  obtain ⟨htenure, hlogger⟩ | ⟨t, l, htenure, hlogger, hdescribes, hbefore⟩ := h.cases
  · rw [htenure, hlogger]
    exact hlogger
  · rw [htenure, hlogger]
    exact ⟨_, Hub.logger_sayAll _ _, hdescribes.log _ _, hbefore⟩

theorem occur (h : r.Sound) (e : Event) : (r.occur e).Sound := by
  cases e with
  | configure typeName path filters => exact h.configure typeName path filters
  | stop => exact h.leave rfl
  | log origin e => exact h.log origin e
  | pass clock => exact ⟨h.slot, h.past⟩
  | outside outlet => exact ⟨h.slot, h.past⟩

theorem events (h : r.Sound) (events : List Event) : (r.events events).Sound := by
  induction events generalizing r with
  | nil => exact h
  | cons e events ih => exact ih (h.occur e)

/-- A logger that is stopped tells of all messages that came while it was in the slot, and of none
that come after. -/
theorem answer_stopLogger [Device δ] (h : r.Sound) {s : Station δ} (hs : s.hub = r.hub) :
    s.stopLogger.1 = match r.tenure with
      | none => .error .noLogger
      | some t => .ok t.tally := by
  rw [Station.stopLogger, Station.act, Hub.detach, hs]
  obtain ⟨htenure, hlogger⟩ | ⟨t, l, htenure, hlogger, hdescribes, -⟩ := h.cases
  · rw [htenure, hlogger]
  · rw [htenure, hlogger]
    exact congrArg Except.ok hdescribes.tally

end Sound

/-- Whatever an operator asks of the loggers, whichever files can be opened and whatever is logged
meanwhile: the active logger, if any, is as it was asked for.  A request that fails otherwise than by
opening a path changes nothing; one that cannot open its path leaves no active logger.  A logger that has
left the slot keeps its counters, to the end of the time of grace, and from then on a message changes a
file only through a logger that was made later and is open there. -/
theorem kept_events [Device δ] (hub : Hub δ) (events : List Event) :
    let r := ({ hub := { hub with logger := none } } : LoggerSlot δ).events events
    (match r.tenure with
      | none => r.hub.logger = none
      | some t => ∃ l, r.hub.logger = some l ∧ t.Describes l ∧ t.before = r.past.length) ∧
    (∀ typeName path filters,
      let a := r.hub.configureLogger Daemon.loggerTypes typeName path filters
      match a.1 with
      | .ok () => True
      | .error (.logger _) => a.2.logger = none
      | .error _ => a.2 = r.hub) ∧
    (∀ x ∈ r.past, x.1.tally = x.2.tally) ∧
    (∀ s : Station δ, s.hub = r.hub → s.stopLogger.1 = match r.tenure with
      | none => .error .noLogger
      | some t => .ok t.tally) ∧
    ∀ origin e name,
      (r.hub.record origin e).outlet.files.get? name ≠ r.hub.outlet.files.get? name →
      ∃ l path, r.hub.logger = some l ∧ l.isOpen = true ∧ l.path = some path ∧
        r.hub.outlet.files.resolve path = .ok name := by
  intro r
  have hnew : Sound ({ hub := { hub with logger := none } } : LoggerSlot δ) := ⟨rfl, nofun⟩
  have hr : r.Sound := hnew.events events
  refine ⟨hr.slot, fun typeName path filters => ?_, hr.past, fun s hs => ?_,
    fun origin e name hchanged => ?_⟩
  · obtain ⟨e, ha, he⟩ | ⟨reason, ha, hnone⟩ | ha :=
      r.hub.configureLogger_cases Daemon.loggerTypes typeName path filters
    · rw [ha]
      cases e with
      | logger reason => exact absurd rfl (he reason)
      | _ => rfl
    · dsimp only
      rw [ha]
      exact hnone
    · dsimp only
      rw [ha]
      trivial
  · exact hr.answer_stopLogger hs
  · exact Hub.open_of_files_record_ne hchanged

/-- A logger that starts on a file that is there is the only change. -/
theorem occur_configure_of_get? {r : LoggerSlot δ} (hnone : r.hub.logger = none)
    (htenure : r.tenure = none) {typeName path : String} {format : Capture.Format}
    {bytes : List UInt8} (hkind : Daemon.loggerTypes.get? typeName = some (.file format))
    (hget : r.hub.outlet.files.get? path = some bytes) (hslash : path.endsWith "/" = false)
    (havailable : r.hub.outlet.unavailable.lookup path = none) :
    let s := r.occur (.configure typeName (some path) [])
    s.hub.logger = some { kind := .file format, isOpen := true, path := some path } ∧
      s.hub.outlet = r.hub.outlet ∧ s.tenure.isSome = true ∧ s.past = r.past := by
  obtain ⟨⟨hok, hlogger⟩, houtlet⟩ :=
    Hub.configureLogger_of_get? hnone hkind hget hslash havailable
  rw [occur]
  dsimp only
  rw [hok, answered, htenure]
  exact ⟨hlogger, houtlet, rfl, rfl⟩

/-- A file that a logger has left changes again when another one is started on it. -/
theorem file_changed_of_restart :
    let outlet : Logger.Outlet := { files := ⟨[("a", [])]⟩ }
    let f : Frame := ⟨some (.numbered 1), 0x123, .standard, [0xff], by decide, by decide⟩
    let start : Event := .configure "gvret-a" (some "a") []
    let r := ({ hub := { outlet } } : LoggerSlot Unit).events [start, .stop, start]
    (∃ x ∈ r.past, x.1.path = some "a") ∧
    (r.hub.record none (.frame .received f)).outlet.files.get? "a"
      ≠ r.hub.outlet.files.get? "a" := by
  intro outlet f start r
  let first := ({ hub := { outlet } } : LoggerSlot Unit).occur start
  have hslash : "a".endsWith "/" = false := by decide +kernel
  obtain ⟨hlogger₁, houtlet₁, htenure₁, -⟩ : _ ∧ first.hub.outlet = outlet ∧ _ :=
    occur_configure_of_get? rfl rfl rfl rfl hslash rfl
  obtain ⟨t, ht⟩ := Option.isSome_iff_exists.mp htenure₁
  have hget : (first.occur .stop).hub.outlet.files.get? "a" = some [] := by
    show first.hub.outlet.files.get? "a" = some []
    rw [houtlet₁]
    rfl
  have havailable : (first.occur .stop).hub.outlet.unavailable.lookup "a" = none := by
    show first.hub.outlet.unavailable.lookup "a" = none
    rw [houtlet₁]
    rfl
  obtain ⟨hlogger, houtlet, -, hpast⟩ : r.hub.logger = _ ∧ r.hub.outlet = _ ∧ _ ∧ r.past = _ :=
    occur_configure_of_get? rfl rfl rfl hget hslash havailable
  constructor
  · rw [hpast]
    refine ⟨({ kind := .file .lines, isOpen := true, path := some "a" }, t), ?_, rfl⟩
    show _ ∈ first.past ++ (first.hub.logger.bind fun l => first.tenure.map (l, ·)).toList
    rw [hlogger₁, ht]
    exact List.mem_append_right _ (List.mem_singleton.mpr rfl)
  · have hfile : r.hub.outlet.files.resolve "a" = .ok "a" := by
      rw [houtlet]
      exact Files.resolve_of_get? hget
    exact Hub.files_record_ne hlogger ⟨rfl, rfl, rfl, rfl⟩ hfile rfl

end LoggerSlot
end Fieldbus
