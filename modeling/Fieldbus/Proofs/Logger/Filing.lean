import Fieldbus.Proofs.Logger.Recording

/-! What a logger leaves in its files over its whole life.  An account of the calls that were made of it
keeps the file it is open on, the filters in force and the messages that arrived meanwhile (`Watch`).
Whatever the calls, and whichever of the files can be opened, each file has grown by the messages that
were recorded while the logger was open on it, in their order, and the counters tell their number
(`Filing.kept_calls`). -/

namespace Fieldbus

/-- Traffic is all that a format has a form for. -/
theorem Capture.Format.encode_eq_nil_iff (format : Capture.Format) (m : Message) :
    format.encode m = [] ↔ m.entry.traffic? = none := by
  cases format with
  | lines =>
    show Gvret.Line.encode m = [] ↔ _
    rw [Gvret.Line.encode]
    cases m.entry.traffic? <;> simp [Gvret.Line.bytes]
  | records =>
    show Gvret.Record.encode m = [] ↔ _
    rw [Gvret.Record.encode]
    cases m.entry.traffic? <;> simp

namespace Logger

/-! ### Messages that arrive -/

/-- A message that arrived while a logger was open, and whether its filters admitted it. -/
structure Arrival where
  admitted : Bool
  message : Message

/-- Whether loggers of a kind have a form for a message.  Files are for frames that were received or
sent, and for nothing else. -/
def Kind.represents (kind : Kind) (m : Message) : Bool :=
  match kind, m.entry with
  | .file _, .frame .received _ => true
  | .file _, .frame .sent _ => true
  | .file _, _ => false
  | _, _ => true

theorem Kind.represents_file (format : Capture.Format) (m : Message) :
    (Kind.file format).represents m = m.entry.traffic?.isSome := by
  obtain ⟨origin, time, ⟨_ | _ | _ | _, f⟩ | _ | _⟩ := m <;> rfl

def Arrival.isRecorded (kind : Kind) (a : Arrival) : Bool := a.admitted && kind.represents a.message

/-- The counters of a logger to which these messages came, if each could be written. -/
def Tally.ofArrivals (kind : Kind) (arrivals : List Arrival) : Tally :=
  { recorded := .ofNat (arrivals.countP (Arrival.isRecorded kind))
    filtered := .ofNat (arrivals.countP fun a => !a.admitted) }

def Tally.count (t : Tally) (kind : Kind) (a : Arrival) : Tally :=
  { t with
    recorded := t.recorded + if a.isRecorded kind then 1 else 0
    filtered := t.filtered + if a.admitted then 0 else 1 }

theorem Tally.ofArrivals_concat (kind : Kind) (arrivals : List Arrival) (a : Arrival) :
    Tally.ofArrivals kind (arrivals ++ [a]) = (Tally.ofArrivals kind arrivals).count kind a := by
  simp only [ofArrivals, count, List.countP_append, List.countP_singleton, UInt32.ofNat_add]
  cases a.isRecorded kind <;> cases a.admitted <;> rfl

/-- A logger of files writes a message that there is a form for, and counts it. -/
theorem write_of_file {l : Logger} {format : Capture.Format} {path : String}
    (hkind : l.kind = .file format) (hpath : l.path = some path) (m : Message) (outlet : Outlet) :
    l.write m outlet = if l.kind.represents m then
        { result := ()
          logger := { l with tally.recorded := l.tally.recorded + 1 }
          outlet := { outlet with files := outlet.files.append path (format.encode m) } }
      else { result := (), logger := l, outlet } := by
  have hencode := format.encode_eq_nil_iff m
  rw [write, hkind, hpath, Kind.represents_file]
  dsimp only
  cases hbytes : format.encode m with
  | nil => rw [hencode.mp hbytes, Option.isSome_none, if_neg Bool.false_ne_true]
  | cons b rest =>
    have htraffic : m.entry.traffic?.isSome = true := by
      rw [Option.isSome_iff_ne_none]
      exact fun h => List.cons_ne_nil b rest (hbytes.symm.trans (hencode.mpr h))
    rw [if_pos htraffic]

/-- An open logger counts a message that arrives as recorded or as filtered, or there is no form for it. -/
theorem log_of_open {l : Logger} (hmemory : ∀ needsPath, l.kind ≠ .memory needsPath)
    (hopen : l.isOpen = true) (hpath : l.needsPath = true → l.path.isSome = true) {a : Arrival}
    (hadmitted : a.admitted = l.filter.admits a.message) (outlet : Outlet) :
    (l.log a.message outlet).logger = { l with tally := l.tally.count l.kind a } := by
  obtain ⟨kind, filter, tally, isOpen, path⟩ := l
  obtain rfl : isOpen = true := hopen
  dsimp only at hadmitted ⊢
  rw [log, ← hadmitted, Tally.count, Arrival.isRecorded]
  cases a.admitted with
  | false => simp
  | true =>
    simp only [Bool.not_true, Bool.false_eq_true, if_false, Bool.true_and]
    cases kind with
    | trace => simp [write, Kind.represents]
    | memory needsPath => exact absurd rfl (hmemory needsPath)
    | file format =>
      obtain ⟨path, rfl⟩ := Option.isSome_iff_exists.mp (hpath rfl)
      rw [write_of_file rfl rfl]
      split <;> simp [*]

theorem log_of_closed {l : Logger} (h : l.isOpen = false) (m : Message) (outlet : Outlet) :
    l.log m outlet = { result := (), logger := l, outlet } := by
  rw [log, h]
  rfl

/-! ### Calls and what is to be expected of them -/

/-- What may be asked of a logger, and what may happen to the paths of files. -/
inductive Call where
  | openAt (path : Option String)
  | close
  | setFilter (filter : FilterSet)
  | log (m : Message)
  | outage (unavailable : List (String × FileError))

/-- The file that is opened at a path. -/
def Outlet.place? (outlet : Outlet) (path : String) : Option String :=
  match outlet.openAppend path with
  | .ok _ => (outlet.files.resolve path).toOption
  | .error _ => none

/-- An account of the calls that were made of a logger. -/
structure Watch where
  file : Option String := none
  filter : FilterSet := {}
  opened : List String := []
  /-- The messages that arrived while the logger was open, each with the file it was open on. -/
  arrivals : List (String × Arrival) := []

namespace Watch

def call (w : Watch) (outlet : Outlet) : Call → Watch
  | .openAt none => w
  | .openAt (some path) =>
    { w with file := outlet.place? path, opened := w.opened ++ (outlet.place? path).toList }
  | .close => { w with file := none }
  | .setFilter filter => { w with filter }
  | .log m =>
    { w with
      arrivals := w.arrivals ++ (w.file.map fun file => (file, ⟨w.filter.admits m, m⟩)).toList }
  | .outage _ => w

def tally (w : Watch) (format : Capture.Format) : Tally :=
  .ofArrivals (.file format) (w.arrivals.map Prod.snd)

/-- The messages that were recorded in a file. -/
def recorded (w : Watch) (format : Capture.Format) (name : String) : List Message :=
  (w.arrivals.filter fun a => a.1 = name && a.2.isRecorded (.file format)).map (·.2.message)

/-- What a file holds, by what it held at first: it is there if it was there or was opened. -/
def contents (w : Watch) (format : Capture.Format) (files : Files) (name : String) :
    Option (List UInt8) :=
  if (files.get? name).isSome ∨ name ∈ w.opened then
    some ((files.get? name).getD [] ++ format.encodeAll (w.recorded format name))
  else none

end Watch

/-- A logger, its outlet and an account of the calls. -/
structure Filing where
  logger : Logger
  outlet : Outlet
  watch : Watch := {}

namespace Filing

def call (r : Filing) (c : Call) : Filing :=
  let watch := r.watch.call r.outlet c
  match c with
  | .openAt path =>
    let s := r.logger.open path r.outlet
    { logger := s.logger, outlet := s.outlet, watch }
  | .close => { r with logger := r.logger.close.1, watch }
  | .setFilter filter => { r with logger.filter := filter, watch }
  | .log m =>
    let s := r.logger.log m r.outlet
    { logger := s.logger, outlet := s.outlet, watch }
  | .outage unavailable => { r with outlet.unavailable := unavailable, watch }

def calls (r : Filing) (calls : List Call) : Filing := calls.foldl call r

end Filing

/-! ### What the operations do -/

namespace Watch

def arrive (w : Watch) (name : String) (a : Arrival) : Watch :=
  { w with arrivals := w.arrivals ++ [(name, a)] }

section Arrivals

variable {w : Watch} {name : String} {a : Arrival} {format : Capture.Format}

theorem tally_arrive :
    (w.arrive name a).tally format = (w.tally format).count (.file format) a := by
  rw [tally, arrive, List.map_append]
  exact Tally.ofArrivals_concat _ _ a

theorem recorded_arrive (n : String) :
    (w.arrive name a).recorded format n
      = w.recorded format n
        ++ if name = n ∧ a.isRecorded (.file format) then [a.message] else [] := by
  rw [recorded, arrive, List.filter_append, List.map_append]
  by_cases h : name = n ∧ a.isRecorded (.file format) = true
  · rw [if_pos h, List.filter_cons_of_pos (by simpa using h)]
    rfl
  · rw [if_neg h, List.filter_cons_of_neg (by simpa using h)]
    rfl

/-- A message that is not recorded changes no file. -/
theorem contents_arrive_of_not_recorded (h : a.isRecorded (.file format) = false) (files : Files)
    (n : String) : (w.arrive name a).contents format files n = w.contents format files n := by
  have hrecorded : (w.arrive name a).recorded format n = w.recorded format n := by
    rw [recorded_arrive, h, if_neg (by simp), List.append_nil]
  rw [contents, hrecorded]
  rfl

/-- A message that is recorded goes to the end of its file. -/
theorem contents_arrive (h : a.isRecorded (.file format) = true) (hopened : name ∈ w.opened)
    (files : Files) (n : String) :
    (w.arrive name a).contents format files n = if n = name then
        some ((w.contents format files n).getD [] ++ format.encode a.message)
      else w.contents format files n := by
  by_cases hname : n = name
  · subst hname
    have hold : w.contents format files n
        = some ((files.get? n).getD [] ++ format.encodeAll (w.recorded format n)) :=
      if_pos (.inr hopened)
    have hnew : (w.arrive n a).contents format files n
        = some ((files.get? n).getD [] ++ format.encodeAll ((w.arrive n a).recorded format n)) :=
      if_pos (.inr hopened)
    rw [if_pos rfl, hnew, hold, recorded_arrive, if_pos ⟨rfl, h⟩, Option.getD_some,
      List.append_assoc, Capture.Format.encodeAll, List.flatMap_append]
    simp [Capture.Format.encodeAll]
  · have hrecorded : (w.arrive name a).recorded format n = w.recorded format n := by
      rw [recorded_arrive, if_neg fun h => hname h.1.symm, List.append_nil]
    rw [if_neg hname, contents, hrecorded]
    rfl

end Arrivals

/-- What arrived did so in a file that was opened. -/
def Grounded (w : Watch) : Prop := ∀ a ∈ w.arrivals, a.1 ∈ w.opened

theorem Grounded.arrive {w : Watch} (h : w.Grounded) {name : String} (hname : name ∈ w.opened)
    (a : Arrival) : (w.arrive name a).Grounded := by
  intro a' ha'
  rcases List.mem_append.mp ha' with ha' | ha'
  · exact h a' ha'
  · rw [List.mem_singleton.mp ha']
    exact hname

/-- A file that is opened is there from then on. -/
theorem contents_opened {w : Watch} (h : w.Grounded) (name : String) (file : Option String)
    (format : Capture.Format) (files : Files) (n : String) :
    ({ w with file, opened := w.opened ++ [name] } : Watch).contents format files n
      = if n = name then some ((w.contents format files n).getD [])
        else w.contents format files n := by
  show (if _ ∨ n ∈ w.opened ++ [name] then some ((files.get? n).getD [] ++
    format.encodeAll (w.recorded format n)) else none) = _
  rw [contents]
  by_cases hn : n = name
  · subst hn
    rw [if_pos (.inr (by simp)), if_pos rfl]
    split
    · rfl
    · next hmissing =>
      obtain ⟨hnone, hunopened⟩ := not_or.mp hmissing
      have hget : files.get? n = none := Option.not_isSome_iff_eq_none.mp hnone
      have hrecorded : w.recorded format n = [] := by
        rw [recorded, List.map_eq_nil_iff, List.filter_eq_nil_iff]
        intro a ha hfile
        obtain ⟨rfl, -⟩ : a.1 = n ∧ a.2.isRecorded (.file format) = true := by simpa using hfile
        exact hunopened (h a ha)
      rw [hget, hrecorded]
      rfl
  · rw [if_neg hn]
    simp [hn]

end Watch

section Operations

variable {l : Logger} {outlet : Outlet} {format : Capture.Format} {path : String}

theorem place?_eq_some {name : String} (h : outlet.place? path = some name) :
    outlet.files.resolve path = .ok name ∧
    outlet.openAppend path = .ok (outlet.files.put name ((outlet.files.get? name).getD [])) := by
  unfold Outlet.place? at h
  split at h
  · next opened hopen =>
    obtain ⟨found, hresolve, rfl⟩ := Files.openAppend_eq_put (openAppend_eq_ok hopen)
    rw [hresolve] at h
    obtain rfl := Option.some.inj h
    exact ⟨hresolve, hopen⟩
  · cases h

theorem place?_eq_none (h : outlet.place? path = none) :
    ∃ e, outlet.openAppend path = .error e := by
  cases hopen : outlet.openAppend path with
  | error e => exact ⟨e, rfl⟩
  | ok opened =>
    obtain ⟨name, hresolve, -⟩ := Files.openAppend_eq_put (openAppend_eq_ok hopen)
    rw [Outlet.place?, hopen, hresolve] at h
    cases h

theorem open_of_place (hkind : l.kind = .file format) {name : String}
    (h : outlet.place? path = some name) :
    let s := l.open (some path) outlet
    s.result = .ok () ∧ s.logger = { l with isOpen := true, path := some path } ∧
    s.outlet.files.resolve path = .ok name ∧
    ∀ n, s.outlet.files.get? n
      = if n = name then some ((outlet.files.get? n).getD []) else outlet.files.get? n := by
  obtain ⟨hresolve, hopen⟩ := place?_eq_some h
  obtain ⟨kind, filter, tally, isOpen, before⟩ := l
  obtain rfl : kind = .file format := hkind
  let old := (outlet.files.get? name).getD []
  have hput := Files.resolve_put hresolve old
  have happend : (outlet.files.put name old).append path format.header
      = (outlet.files.put name old).put name old := by
    rw [Files.append_eq_put hput, Files.get?_put, if_pos rfl, Option.getD_some]
    exact congrArg _ (List.append_nil old)
  simp only [Logger.open, hopen, close]
  refine ⟨trivial, trivial, ?_, fun n => ?_⟩
  · rw [happend]
    exact Files.resolve_put hput _
  · rw [happend, Files.get?_put, Files.get?_put]
    split
    · next hn => rw [hn]
    · rfl

theorem open_of_no_place (hkind : l.kind = .file format) (h : outlet.place? path = none) :
    let s := l.open (some path) outlet
    s.result.toBool = false ∧ s.logger = l.close.1 ∧ s.outlet = outlet := by
  obtain ⟨e, hopen⟩ := place?_eq_none h
  rw [Logger.open, hkind]
  dsimp only
  rw [hopen]
  exact ⟨rfl, rfl, rfl⟩

theorem open_none (hkind : l.kind = .file format) :
    l.open none outlet = { result := .error .missingPath, logger := l, outlet } := by
  rw [Logger.open, hkind]

/-- A message that is recorded is appended at the path of the logger. -/
theorem files_log (hkind : l.kind = .file format) (hopen : l.isOpen = true)
    (hpath : l.path = some path)
    {a : Arrival} (hadmitted : a.admitted = l.filter.admits a.message) :
    (l.log a.message outlet).outlet.files
      = if a.isRecorded (.file format) then outlet.files.append path (format.encode a.message)
        else outlet.files := by
  rw [log, hopen, ← hadmitted, Arrival.isRecorded]
  cases a.admitted with
  | false => rfl
  | true =>
    simp only [Bool.not_true, Bool.false_eq_true, if_false, Bool.true_and]
    rw [write_of_file hkind hpath, hkind]
    split <;> rfl

/-- A path of an open logger leads to its file still when messages have arrived. -/
theorem resolve_files_log (hkind : l.kind = .file format) (hopen : l.isOpen = true)
    (hpath : l.path = some path) {a : Arrival} (hadmitted : a.admitted = l.filter.admits a.message)
    {name : String} (hresolve : outlet.files.resolve path = .ok name) :
    (l.log a.message outlet).outlet.files.resolve path = .ok name := by
  rw [files_log hkind hopen hpath hadmitted]
  split
  · rw [Files.append_eq_put hresolve]
    exact Files.resolve_put hresolve _
  · exact hresolve

end Operations

/-- If the files hold what the account says, they do so when a message has arrived. -/
theorem Watch.contents_log {w : Watch} {l : Logger} {outlet : Outlet} {files : Files}
    {format : Capture.Format} {path name : String} (hkind : l.kind = .file format)
    (hopen : l.isOpen = true) (hpath : l.path = some path) {a : Arrival}
    (hadmitted : a.admitted = l.filter.admits a.message)
    (hresolve : outlet.files.resolve path = .ok name) (hopened : name ∈ w.opened)
    (hcontents : ∀ n, outlet.files.get? n = w.contents format files n) (n : String) :
    (l.log a.message outlet).outlet.files.get? n = (w.arrive name a).contents format files n := by
  rw [files_log hkind hopen hpath hadmitted]
  cases hrecorded : a.isRecorded (.file format) with
  | false =>
    rw [if_neg Bool.false_ne_true, contents_arrive_of_not_recorded hrecorded]
    exact hcontents n
  | true =>
    rw [if_pos rfl, contents_arrive hrecorded hopened, Files.append_eq_put hresolve,
      Files.get?_put, hcontents, hcontents]
    by_cases hn : n = name
    · rw [if_pos hn, if_pos hn, hn]
    · rw [if_neg hn, if_neg hn]

namespace Filing

/-- The logger and its files are as the account says. -/
structure Sound (format : Capture.Format) (files : Files) (r : Filing) : Prop where
  kind : r.logger.kind = .file format
  filter : r.logger.filter = r.watch.filter
  isOpen : r.logger.isOpen = r.watch.file.isSome
  tally : r.logger.tally = r.watch.tally format
  grounded : r.watch.Grounded
  place : ∀ name, r.watch.file = some name → name ∈ r.watch.opened ∧
    ∃ path, r.logger.path = some path ∧ r.outlet.files.resolve path = .ok name
  contents : ∀ name, r.outlet.files.get? name = r.watch.contents format files name

namespace Sound

variable {format : Capture.Format} {files : Files} {r : Filing}

theorem close (h : r.Sound format files) : (r.call .close).Sound format files :=
  ⟨h.kind, h.filter, rfl, h.tally, h.grounded, nofun, h.contents⟩

theorem openAt (h : r.Sound format files) (path : Option String) :
    (r.call (.openAt path)).Sound format files := by
  cases path with
  | none =>
    simp only [call, open_none h.kind]
    exact h
  | some path =>
    cases hplace : r.outlet.place? path with
    | none =>
      obtain ⟨-, hlogger, houtlet⟩ := open_of_no_place h.kind hplace
      have hcall : r.call (.openAt (some path)) = r.call .close := by
        simp only [call, hlogger, houtlet, Watch.call, hplace, Option.toList_none, List.append_nil]
      rw [hcall]
      exact h.close
    | some name =>
      obtain ⟨-, hlogger, hresolve, hget⟩ := open_of_place h.kind hplace
      have hwatch : r.watch.call r.outlet (.openAt (some path))
          = { r.watch with file := some name, opened := r.watch.opened ++ [name] } := by
        simp only [Watch.call, hplace, Option.toList_some]
      rw [call, hlogger, hwatch]
      refine ⟨h.kind, h.filter, rfl, h.tally, ?_, ?_, fun n => ?_⟩
      · exact fun a ha => List.mem_append_left _ (h.grounded a ha)
      · intro n hn
        obtain rfl := Option.some.inj hn
        exact ⟨by simp, path, rfl, hresolve⟩
      · rw [Watch.contents_opened h.grounded, hget, h.contents]

theorem log_of_no_file (h : r.Sound format files) (hfile : r.watch.file = none) (m : Message) :
    r.call (.log m) = r := by
  have hclosed : r.logger.isOpen = false := by rw [h.isOpen, hfile, Option.isSome_none]
  simp only [call, log_of_closed hclosed, Watch.call, hfile, Option.map_none, Option.toList_none,
    List.append_nil]
  rw [← hfile]

theorem log (h : r.Sound format files) (m : Message) : (r.call (.log m)).Sound format files := by
  cases hfile : r.watch.file with
  | none =>
    rw [h.log_of_no_file hfile]
    exact h
  | some name =>
    have hopen : r.logger.isOpen = true := by rw [h.isOpen, hfile, Option.isSome_some]
    obtain ⟨hopened, path, hpath, hresolve⟩ := h.place name hfile
    let a : Arrival := ⟨r.watch.filter.admits m, m⟩
    have hadmitted : a.admitted = r.logger.filter.admits a.message := by rw [h.filter]
    have hlogger := log_of_open (by rw [h.kind]; nofun) hopen (by rw [hpath]; exact fun _ => rfl)
      hadmitted r.outlet
    have hwatch : r.watch.call r.outlet (.log m) = r.watch.arrive name a := by
      rw [Watch.arrive, Watch.call, hfile, Option.map_some, Option.toList_some]
    have htally : (r.logger.log m r.outlet).logger.tally =
        (r.watch.arrive name a).tally format := by
      rw [hlogger, Watch.tally_arrive, ← h.tally, h.kind]
    rw [call, hwatch]
    refine ⟨?_, ?_, ?_, htally, h.grounded.arrive hopened a, ?_, ?_⟩
    · exact (congrArg Logger.kind hlogger).trans h.kind
    · exact (congrArg Logger.filter hlogger).trans h.filter
    · exact (congrArg Logger.isOpen hlogger).trans h.isOpen
    · intro n hn
      obtain rfl : name = n := Option.some.inj (hfile.symm.trans hn)
      exact ⟨hopened, path, (congrArg Logger.path hlogger).trans hpath,
        resolve_files_log h.kind hopen hpath hadmitted hresolve⟩
    · exact Watch.contents_log h.kind hopen hpath hadmitted hresolve hopened h.contents

theorem call (h : r.Sound format files) (c : Call) : (r.call c).Sound format files := by
  cases c with
  | openAt path => exact h.openAt path
  | close => exact h.close
  | setFilter filter => exact ⟨h.kind, rfl, h.isOpen, h.tally, h.grounded, h.place, h.contents⟩
  | log m => exact h.log m
  | outage unavailable =>
    exact ⟨h.kind, h.filter, h.isOpen, h.tally, h.grounded, h.place, h.contents⟩

theorem calls (h : r.Sound format files) (calls : List Call) :
    (r.calls calls).Sound format files := by
  induction calls generalizing r with
  | nil => exact h
  | cons c calls ih => exact ih (h.call c)

end Sound

/-- Whatever is asked of a new logger and whichever files can be opened, in the end each file holds what
it held at first and then the messages that were recorded in it, and the counters tell how many messages
were recorded and how many were not admitted; none is dropped.  An attempt to open the logger succeeds if
and only if there is a file that can be opened; without a path it changes nothing.  Messages that find
the logger closed change nothing either. -/
theorem kept_calls (format : Capture.Format) (outlet : Outlet) (calls : List Call) :
    let r := ({ logger := { kind := .file format }, outlet } : Filing).calls calls
    let closed := r.call .close
    (∀ name, closed.outlet.files.get? name = r.watch.contents format outlet.files name) ∧
    closed.logger.tally = r.watch.tally format ∧
    r.logger.isOpen = r.watch.file.isSome ∧
    (∀ path, (r.logger.open path r.outlet).result.toBool = (path.bind r.outlet.place?).isSome) ∧
    (r.watch.file = none → ∀ m, r.call (.log m) = r) ∧
    r.logger.open none r.outlet
      = { result := .error .missingPath, logger := r.logger, outlet := r.outlet } := by
  intro r closed
  have hnew : Sound format outlet.files { logger := { kind := .file format }, outlet } := by
    refine ⟨rfl, rfl, rfl, rfl, nofun, nofun, fun name => ?_⟩
    show outlet.files.get? name
      = if _ ∨ name ∈ [] then some ((outlet.files.get? name).getD [] ++ []) else none
    cases outlet.files.get? name <;> simp
  have hr : r.Sound format outlet.files := hnew.calls calls
  refine ⟨hr.close.contents, hr.close.tally, hr.isOpen, fun path => ?_, hr.log_of_no_file,
    open_none hr.kind⟩
  cases path with
  | none =>
    rw [open_none hr.kind]
    rfl
  | some path =>
    cases hplace : r.outlet.place? path with
    | none => rw [(open_of_no_place hr.kind hplace).1, Option.bind_some, hplace, Option.isSome_none]
    | some name =>
      rw [(open_of_place hr.kind hplace).1, Option.bind_some, hplace]
      rfl

/-- Of four messages that come while the file is open one is recorded: there is no form for a frame that
was not sent or that waits, and the last one comes from another bus than the filter asks for. -/
theorem kept_calls_of_failed :
    let f : Frame := ⟨some (.numbered 1), 0x12, .standard, [7], by decide, by decide⟩
    let m (direction : Direction) (bus : Nat) : Message :=
      ⟨some (.numbered bus), {}, .frame direction f⟩
    let outlet : Outlet := { files := ⟨[("can.log", [1, 2])]⟩ }
    let r := ({ logger := { kind := .file .records }, outlet } : Filing).calls
      [.openAt (some "can.log"), .setFilter ⟨[.ofBus 1], by decide⟩, .log (m .failed 1),
        .log (m .sent 1), .log (m .deferred 1), .log (m .sent 2)]
    let closed := r.call .close
    closed.outlet.files.get? "can.log"
      = some ([1, 2] ++ Capture.Format.encode .records (m .sent 1)) ∧
    closed.logger.tally = { recorded := 1, filtered := 1 } := by
  intro f m outlet r closed
  have hslash : "can.log".endsWith "/" = false := by decide +kernel
  have hplace : outlet.place? "can.log" = some "can.log" := by
    rw [Outlet.place?, openAppend_of_available rfl, Files.openAppend_of_get? rfl hslash,
      Files.resolve_of_get? rfl]
    rfl
  let opened : Filing :=
    { logger := { kind := .file .records, isOpen := true, path := some "can.log" }, outlet
      watch := { file := some "can.log", opened := ["can.log"] } }
  have hopened : ({ logger := { kind := .file .records }, outlet } : Filing).call
      (.openAt (some "can.log")) = opened := by
    let l : Logger := { kind := .file .records }
    obtain ⟨-, hlogger, houtlet⟩ : (l.open (some "can.log") outlet).result = .ok () ∧ _ :=
      open_of_get? rfl rfl hslash
    simp only [call, Watch.call, hplace]
    rw [hlogger, houtlet]
    rfl
  have hrun : r = opened.calls [.setFilter ⟨[.ofBus 1], by decide⟩, .log (m .failed 1),
      .log (m .sent 1), .log (m .deferred 1), .log (m .sent 2)] := by
    rw [← hopened]
    rfl
  obtain ⟨hcontents, htally, -⟩ := kept_calls .records outlet
    [.openAt (some "can.log"), .setFilter ⟨[.ofBus 1], by decide⟩, .log (m .failed 1),
      .log (m .sent 1), .log (m .deferred 1), .log (m .sent 2)]
  refine ⟨(hcontents "can.log").trans ?_, htally.trans ?_⟩
  · show r.watch.contents _ _ _ = _
    rw [hrun]
    decide +kernel
  · show r.watch.tally _ = _
    rw [hrun]
    decide +kernel

end Filing
end Logger
end Fieldbus
