import Fieldbus.Logger.Basic
import Mathlib.Tactic.Common

/-! What a logger leaves in its file.  Each message it is handed goes behind those before it, in the
form that the format gives it (`Logger.holds_logAll`). -/

namespace Fieldbus

namespace Files

theorem lookup_cons_eq_ite (n first : String) (bytes : List UInt8)
    (entries : List (String × List UInt8)) :
    ((first, bytes) :: entries).lookup n = if n = first then some bytes else entries.lookup n := by
  by_cases hn : n = first
  · simp [hn]
  · simp [List.lookup_cons, beq_false_of_ne hn, hn]

theorem lookup_putEntry (name n : String) (bytes : List UInt8)
    (entries : List (String × List UInt8)) :
    (putEntry name bytes entries).lookup n
      = if n = name then some bytes else entries.lookup n := by
  induction entries with
  | nil => exact lookup_cons_eq_ite n name bytes []
  | cons entry entries ih =>
    obtain ⟨first, old⟩ := entry
    rw [putEntry]
    by_cases hfirst : first = name
    · subst hfirst
      by_cases hn : n = first <;> simp [lookup_cons_eq_ite, hn]
    · rw [if_neg hfirst, lookup_cons_eq_ite, lookup_cons_eq_ite, ih]
      by_cases hn : n = first
      · simp [hn, hfirst]
      · simp [hn]

theorem get?_put (files : Files) (name n : String) (bytes : List UInt8) :
    (files.put name bytes).get? n = if n = name then some bytes else files.get? n :=
  lookup_putEntry name n bytes files.entries

/-- A file that is given what it holds is as it was. -/
theorem put_of_get? {files : Files} {name : String} {bytes : List UInt8}
    (h : files.get? name = some bytes) : files.put name bytes = files := by
  obtain ⟨entries⟩ := files
  refine congrArg Files.mk ?_
  have hlookup : entries.lookup name = some bytes := h
  clear h
  induction entries with
  | nil => cases hlookup
  | cons entry entries ih =>
    obtain ⟨first, old⟩ := entry
    rw [lookup_cons_eq_ite] at hlookup
    rw [putEntry]
    by_cases hfirst : first = name
    · rw [if_pos hfirst.symm] at hlookup
      rw [if_pos hfirst, Option.some.inj hlookup]
    · rw [if_neg (Ne.symm hfirst)] at hlookup
      rw [if_neg hfirst, ih hlookup]

/-- A name of a file leads to it. -/
theorem resolve_of_get? {files : Files} {path : String} {bytes : List UInt8}
    (h : files.get? path = some bytes) : files.resolve path = .ok path := by
  rw [resolve, h, Option.isSome_some, if_pos rfl]

/-- A path that leads to a file leads there still when that file is written. -/
theorem resolve_put {files : Files} {path name : String} (h : files.resolve path = .ok name)
    (bytes : List UInt8) : (files.put name bytes).resolve path = .ok name := by
  by_cases hpath : path = name
  · subst hpath
    rw [resolve, get?_put, if_pos rfl]
    rfl
  · -- The path differs from the name, so the name is its last part.
    rw [resolve] at h ⊢
    rw [get?_put, if_neg hpath]
    split at h
    · exact absurd (Except.ok.inj h) hpath
    next hmissing =>
    rw [if_neg hmissing]
    split at h
    · cases h
    next hempty =>
    rw [if_neg hempty]
    cases hparts : parts path with
    | nil =>
      rw [hparts] at h
      cases h
    | cons part rest =>
      rw [hparts] at h
      dsimp only at h ⊢
      split_ifs at h ⊢ with hplace hparent hlast
      exact h

/-- A path leads to a file with these bytes. -/
def Holds (files : Files) (path : String) (bytes : List UInt8) : Prop :=
  ∃ name, files.resolve path = .ok name ∧ files.get? name = some bytes

theorem read_eq_ok_iff (files : Files) (path : String) (bytes : List UInt8) :
    files.read path = .ok bytes ↔ files.Holds path bytes := by
  rw [read]
  constructor
  · intro h
    cases hname : files.resolve path with
    | error e =>
      rw [hname] at h
      cases h
    | ok name =>
      rw [hname] at h
      refine ⟨name, hname, ?_⟩
      cases hget : files.get? name with
      | none => simp [bind, Except.bind, hget] at h
      | some stored => simpa [bind, Except.bind, hget] using h
  · rintro ⟨name, hname, hget⟩
    rw [hname]
    simp [bind, Except.bind, hget]

/-- What is appended at a path goes to the end of the file that it leads to. -/
theorem append_eq_put {files : Files} {path name : String} (h : files.resolve path = .ok name)
    (bytes : List UInt8) :
    files.append path bytes = files.put name ((files.get? name).getD [] ++ bytes) := by
  rw [append, h]

/-- Appending at a path changes no other file. -/
theorem resolve_of_get?_append_ne {files : Files} {path name : String} {bytes : List UInt8}
    (h : (files.append path bytes).get? name ≠ files.get? name) :
    files.resolve path = .ok name := by
  cases hplace : files.resolve path with
  | error e =>
    rw [append, hplace] at h
    exact absurd rfl h
  | ok place =>
    rw [append_eq_put hplace, get?_put] at h
    split at h
    · next hname => rw [hname]
    · exact absurd rfl h

/-- A file that is opened is there afterwards, with what it held before. -/
theorem openAppend_eq_put {files opened : Files} {path : String}
    (h : files.openAppend path = .ok opened) :
    ∃ name, files.resolve path = .ok name ∧
      opened = files.put name ((files.get? name).getD []) := by
  rw [openAppend] at h
  split at h
  · cases h
  · cases hname : files.resolve path with
    | error e =>
      rw [hname] at h
      cases h
    | ok name =>
      rw [hname] at h
      exact ⟨name, rfl, (Except.ok.inj h).symm⟩

theorem Holds.append {files : Files} {path : String} {bytes : List UInt8}
    (h : files.Holds path bytes) (more : List UInt8) :
    (files.append path more).Holds path (bytes ++ more) := by
  obtain ⟨name, hname, hget⟩ := h
  rw [append_eq_put hname, hget, Option.getD_some]
  exact ⟨name, resolve_put hname _, by rw [get?_put, if_pos rfl]⟩

/-- Opening a file that is missing or empty leaves it there, empty. -/
theorem holds_openAppend {files opened : Files} {path : String}
    (hempty : ∀ bytes, files.read path = .ok bytes → bytes = [])
    (h : files.openAppend path = .ok opened) : opened.Holds path [] := by
  obtain ⟨name, hname, rfl⟩ := openAppend_eq_put h
  refine ⟨name, resolve_put hname _, ?_⟩
  rw [get?_put, if_pos rfl]
  cases hget : files.get? name with
  | none => rfl
  | some bytes =>
    rw [hempty bytes ((read_eq_ok_iff files path bytes).mpr ⟨name, hname, hget⟩)]
    rfl

/-- A file that is there is opened as it is. -/
theorem openAppend_of_get? {files : Files} {path : String} {bytes : List UInt8}
    (h : files.get? path = some bytes) (hslash : path.endsWith "/" = false) :
    files.openAppend path = .ok files := by
  rw [openAppend, hslash, if_neg (by simp)]
  simp [resolve_of_get? h, h, put_of_get? h, bind, Except.bind, pure, Except.pure]

end Files

namespace Logger

/-- The logger writes all it is handed to the file at a path. -/
structure Writes (l : Logger) (format : Capture.Format) (path : String) : Prop where
  isOpen : l.isOpen = true
  kind : l.kind = .file format
  filter : l.filter.filters = []
  path : l.path = some path

/-- The logger and the outlet after some messages. -/
def logAll (l : Logger) (outlet : Outlet) (messages : List Message) : Logger × Outlet :=
  messages.foldl
    (fun (l, outlet) m => ((l.log m outlet).logger, (l.log m outlet).outlet)) (l, outlet)

variable {l : Logger} {format : Capture.Format} {path : String} {outlet : Outlet}

theorem writes_open (hkind : l.kind = .file format) (hfilter : l.filter.filters = [])
    (hopen : (l.open (some path) outlet).result = .ok ()) :
    (l.open (some path) outlet).logger.Writes format path := by
  rw [Logger.open, hkind] at hopen ⊢
  dsimp only at hopen ⊢
  cases hfiles : outlet.openAppend path with
  | error e =>
    rw [hfiles] at hopen
    cases hopen
  | ok files => exact ⟨rfl, hkind, hfilter, rfl⟩

/-- A path that is available is opened as the files are. -/
theorem openAppend_of_available (h : outlet.unavailable.lookup path = none) :
    outlet.openAppend path = outlet.files.openAppend path := by
  rw [Outlet.openAppend, h]

theorem openAppend_eq_ok {files : Files} (h : outlet.openAppend path = .ok files) :
    outlet.files.openAppend path = .ok files := by
  rw [Outlet.openAppend] at h
  split at h
  · cases h
  · exact h

/-- A logger that opens a file that is there leaves it as it is. -/
theorem open_of_get? {bytes : List UInt8} (hkind : l.kind = .file format)
    (hget : outlet.files.get? path = some bytes) (hslash : path.endsWith "/" = false)
    (havailable : outlet.unavailable.lookup path = none := by rfl) :
    let s := l.open (some path) outlet
    s.result = .ok () ∧ s.logger = { l with isOpen := true, path := some path } ∧
      s.outlet = outlet := by
  have hsame : outlet.files.append path format.header = outlet.files := by
    rw [Files.append_eq_put (Files.resolve_of_get? hget), hget, Option.getD_some,
      Capture.Format.header, List.append_nil, Files.put_of_get? hget]
  have hfiles : outlet.openAppend path = .ok outlet.files := by
    rw [openAppend_of_available havailable, Files.openAppend_of_get? hget hslash]
  rw [Logger.open, hkind]
  dsimp only
  rw [hfiles]
  dsimp only
  rw [hsame]
  exact ⟨rfl, by rw [close, hkind], rfl⟩

theorem result_open_of_get? {bytes : List UInt8} (hkind : l.kind = .file format)
    (hget : outlet.files.get? path = some bytes) (hslash : path.endsWith "/" = false)
    (havailable : outlet.unavailable.lookup path = none := by rfl) :
    (l.open (some path) outlet).result = .ok () :=
  (open_of_get? hkind hget hslash havailable).1

/-- A recording that starts on an empty file begins with the header of the format. -/
theorem holds_open (hkind : l.kind = .file format)
    (hempty : ∀ bytes, outlet.files.read path = .ok bytes → bytes = [])
    (hopen : (l.open (some path) outlet).result = .ok ()) :
    (l.open (some path) outlet).outlet.files.Holds path format.header := by
  rw [Logger.open, hkind] at hopen ⊢
  dsimp only at hopen ⊢
  cases hfiles : outlet.openAppend path with
  | error e =>
    rw [hfiles] at hopen
    cases hopen
  | ok files =>
    exact (Files.holds_openAppend hempty (openAppend_eq_ok hfiles)).append format.header

theorem Writes.admits (hl : l.Writes format path) (m : Message) : l.filter.admits m = true := by
  rw [FilterSet.admits, hl.filter]
  rfl

theorem holds_log (hl : l.Writes format path) (m : Message) {bytes : List UInt8}
    (hfile : outlet.files.Holds path bytes) :
    (l.log m outlet).logger.Writes format path ∧
    (l.log m outlet).outlet.files.Holds path (bytes ++ format.encode m) := by
  have hadmits := hl.admits m
  obtain ⟨hisOpen, hkind, hfilter, hpath⟩ := hl
  rw [log, hisOpen, hadmits]
  show (l.write m outlet).logger.Writes format path ∧
    (l.write m outlet).outlet.files.Holds path (bytes ++ format.encode m)
  rw [write, hkind]
  dsimp only
  rw [hpath]
  cases hencode : format.encode m with
  | nil =>
    rw [List.append_nil]
    exact ⟨⟨hisOpen, hkind, hfilter, hpath⟩, hfile⟩
  | cons b rest => exact ⟨⟨hisOpen, rfl, hfilter, rfl⟩, hfile.append _⟩

theorem holds_logAll (hl : l.Writes format path) (messages : List Message) {bytes : List UInt8}
    (hfile : outlet.files.Holds path bytes) :
    (l.logAll outlet messages).2.files.Holds path (bytes ++ format.encodeAll messages) := by
  induction messages generalizing l outlet bytes with
  | nil =>
    rw [Capture.Format.encodeAll, List.flatMap_nil, List.append_nil]
    exact hfile
  | cons m messages ih =>
    obtain ⟨hl', hfile'⟩ := holds_log hl m hfile
    rw [Capture.Format.encodeAll, List.flatMap_cons, ← List.append_assoc]
    exact ih hl' hfile'

end Logger
end Fieldbus
