import Fieldbus.Logger.Filter
import Fieldbus.Proofs.Text.Numeral
import Mathlib.Data.String.Basic

/-! What filters are written as, and what they admit.  A text of one byte is a digit, any other one is a
bus number with a colon, or nothing, before one identifier or two (`Demand.Reads`).  A list of texts makes
a set of filters if all of them read so and there are at most three, and that set admits a message if and
only if one of the texts does, or there is none (`FilterSet.parse_specs`). -/

namespace Fieldbus

open Numeral (Denotes IsDigit)

/-- The message comes from the bus with this number. -/
def Message.IsFrom (m : Message) (n : Nat) : Prop :=
  ∃ digits, m.origin = some ⟨String.ofList ('c' :: 'a' :: 'n' :: digits)⟩ ∧
    Denotes 10 UInt32.size digits n

theorem BusName.number_eq_some_iff (name : BusName) (n : Nat) :
    name.number = some n ↔ ∃ digits, name = ⟨String.ofList ('c' :: 'a' :: 'n' :: digits)⟩ ∧
      Denotes 10 UInt32.size digits n := by
  rw [number]
  constructor
  · intro h
    split at h
    · next digits htext =>
      exact ⟨digits, congrArg BusName.mk (by rw [← htext, String.ofList_toList]),
        (Numeral.decimal32?_eq_some_iff digits n).mp h⟩
    · cases h
  · rintro ⟨digits, rfl, h⟩
    rw [String.toList_ofList]
    exact (Numeral.decimal32?_eq_some_iff digits n).mpr h

theorem Message.isFrom_iff (m : Message) (n : Nat) :
    m.IsFrom n ↔ m.origin.bind BusName.number = some n := by
  rw [Option.bind_eq_some_iff]
  constructor
  · rintro ⟨digits, horigin, hdigits⟩
    exact ⟨_, horigin, (BusName.number_eq_some_iff _ n).mpr ⟨digits, rfl, hdigits⟩⟩
  · rintro ⟨name, horigin, hnumber⟩
    obtain ⟨digits, rfl, hdigits⟩ := (BusName.number_eq_some_iff name n).mp hnumber
    exact ⟨digits, horigin, hdigits⟩

namespace Logger

theorem Filter.admits_iff (f : Filter) (origin : Option BusName) (id : Option UInt32) :
    f.admits origin id = true ↔
      (∀ n ∈ f.bus, origin.bind BusName.number = some n) ∧ ∀ x ∈ id, f.low ≤ x ∧ x ≤ f.high := by
  unfold admits
  rw [Bool.and_eq_true]
  refine and_congr ?_ ?_
  · cases f.bus <;> simp
  · cases id <;> simp

/-- What the text of a filter asks of a message. -/
inductive Demand where
  | bus (number : Nat)
  | ids (bus : Option Nat) (first last : UInt32)

namespace Demand

/-- Before the identifiers there is a bus number with a colon, or nothing. -/
inductive Head : List Char → Option Nat → Prop
  | nothing : Head [] none
  | bus {text : List Char} {n : Nat} : Denotes 10 UInt32.size text n → Head (text ++ [':']) (some n)

/-- There are one identifier or two. -/
inductive Range : List Char → UInt32 → UInt32 → Prop
  | one {text : List Char} {x : UInt32} : Denotes 16 UInt32.size text x.toNat → Range text x x
  | two {first last : List Char} {x y : UInt32} : Denotes 16 UInt32.size first x.toNat →
      Denotes 16 UInt32.size last y.toNat → Range (first ++ '-' :: last) x y

/-- The text asks for these identifiers, and for the bus if it names one. -/
def Spells (text : List Char) (place : Option Nat) (x y : UInt32) : Prop :=
  ∃ head range, text = head ++ range ∧ Head head place ∧ Range range x y

/-- The text of a filter asks for this. -/
inductive Reads (spec : String) : Demand → Prop
  | bus {c : Char} {d : Nat} : spec.utf8ByteSize = 1 → spec.toList = [c] → IsDigit 10 c d →
      Reads spec (.bus d)
  | ids {place : Option Nat} {x y : UInt32} : spec.utf8ByteSize ≠ 1 →
      Spells spec.toList place x y → Reads spec (.ids place x y)

theorem Range.mark_or_alphanum {text : List Char} {x y : UInt32} (h : Range text x y) :
    ∀ c ∈ text, c = '-' ∨ c = '+' ∨ c.isAlphanum = true := by
  cases h with
  | one h => exact fun c hc => .inr (h.plus_or_alphanum (Nat.le_refl _) c hc)
  | two hfirst hlast =>
    intro c hc
    rcases List.mem_append.mp hc with hc | hc
    · exact .inr (hfirst.plus_or_alphanum (Nat.le_refl _) c hc)
    · exact (List.mem_cons.mp hc).imp_right (hlast.plus_or_alphanum (Nat.le_refl _) c)

theorem Spells.ascii {text : List Char} {place : Option Nat} {x y : UInt32}
    (h : Spells text place x y) : ∀ c ∈ text, c.toNat < 128 := by
  obtain ⟨head, range, rfl, hhead, hrange⟩ := h
  intro c hc
  rcases List.mem_append.mp hc with hc | hc
  · cases hhead with
    | nothing => cases hc
    | bus hn =>
      rcases List.mem_append.mp hc with hc | hc
      · exact hn.ascii (by decide) c hc
      · obtain rfl := List.mem_singleton.mp hc
        decide
  · rcases hrange.mark_or_alphanum c hc with rfl | rfl | hc
    · decide
    · decide
    · exact Numeral.toNat_lt_of_isAlphanum hc

/-- The message is what was asked for.  Only a message that carries a frame has an identifier. -/
def Admits (m : Message) : Demand → Prop
  | bus n => m.IsFrom n
  | ids place x y => (∀ n ∈ place, m.IsFrom n) ∧
      ∀ direction f, m.entry = .frame direction f → min x y ≤ f.id ∧ f.id ≤ max x y

/-- The filter for a demand. -/
def filter : Demand → Filter
  | bus n => .ofBus n
  | ids place x y => .between place (x, y)

theorem admits_filter (d : Demand) (m : Message) :
    d.filter.admits m.origin (m.entry.frame?.map Frame.id) = true ↔ Admits m d := by
  rw [Filter.admits_iff]
  cases d with
  | bus n =>
    have hall : ∀ x : UInt32, 0 ≤ x ∧ x ≤ 0xffffffff := fun x =>
      ⟨UInt32.zero_le, UInt32.le_iff_toNat_le.mpr (Nat.le_of_lt_succ x.toNat_lt)⟩
    simp [filter, Filter.ofBus, Admits, m.isFrom_iff, hall]
  | ids place x y =>
    have hids : (∀ id ∈ m.entry.frame?.map Frame.id, min x y ≤ id ∧ id ≤ max x y) ↔
        ∀ direction f, m.entry = .frame direction f → min x y ≤ f.id ∧ f.id ≤ max x y := by
      cases m.entry <;> simp [Entry.frame?]
    rw [Admits, ← hids]
    simp [filter, Filter.between, m.isFrom_iff]

end Demand

/-- A text of one byte is a single ASCII character. -/
theorem utf8ByteSize_eq_one_iff (s : String) :
    s.utf8ByteSize = 1 ↔ ∃ c, s.toList = [c] ∧ c.toNat < 128 := by
  have hsize : s.utf8ByteSize = String.utf8Len s.toList := by
    rw [← String.utf8ByteSize_ofList, String.ofList_toList]
  have hascii : ∀ c : Char, c.utf8Size = 1 ↔ c.toNat < 128 := by
    intro c
    rw [Char.utf8Size_eq_one_iff, UInt32.le_iff_toNat_le]
    exact Nat.lt_succ_iff.symm
  rw [hsize]
  cases s.toList with
  | nil => simp
  | cons c cs =>
    rw [String.utf8Len_cons]
    cases cs with
    | nil => simp [hascii]
    | cons b cs =>
      have hc := c.utf8Size_pos
      have hb := b.utf8Size_pos
      rw [String.utf8Len_cons]
      refine iff_of_false (by omega) ?_
      rintro ⟨_, h, -⟩
      cases h

namespace Filter

theorem splitOnce_eq_none_iff (separator : Char) (cs : List Char) :
    splitOnce separator cs = none ↔ separator ∉ cs := by
  induction cs with
  | nil => simp [splitOnce]
  | cons c cs ih =>
    rw [splitOnce]
    split
    · next h => simp [h]
    · next h => simp [ih, Ne.symm h]

/-- A text is split at the first separator. -/
theorem splitOnce_eq_some_iff (separator : Char) (cs before after : List Char) :
    splitOnce separator cs = some (before, after) ↔
      cs = before ++ separator :: after ∧ separator ∉ before := by
  induction cs generalizing before with
  | nil => simp [splitOnce]
  | cons c cs ih =>
    rw [splitOnce]
    split
    · next h =>
      subst h
      cases before with
      | nil => simp [eq_comm]
      | cons b before =>
        simp only [Option.some.injEq, Prod.mk.injEq, List.nil_eq, reduceCtorEq,
          false_and, false_iff, List.cons_append, List.cons.injEq, List.mem_cons, not_or]
        rintro ⟨⟨hcb, -⟩, hne, -⟩
        exact hne hcb
    · next h =>
      cases before with
      | nil => simp [h]
      | cons b before =>
        rw [Option.map_eq_some_iff]
        constructor
        · rintro ⟨⟨rest, tail⟩, hsplit, heq⟩
          obtain ⟨hcons, rfl⟩ := Prod.mk.inj heq
          obtain ⟨rfl, rfl⟩ := List.cons.inj hcons
          obtain ⟨rfl, hrest⟩ := (ih rest).mp hsplit
          exact ⟨rfl, List.not_mem_cons_of_ne_of_not_mem (Ne.symm h) hrest⟩
        · rintro ⟨heq, hmem⟩
          obtain ⟨rfl, rfl⟩ := List.cons.inj heq
          exact ⟨(before, after), (ih _).mpr ⟨rfl, fun hc => hmem (List.mem_cons_of_mem _ hc)⟩, rfl⟩

theorem hex32?_eq_some_iff (text : List Char) (x : UInt32) :
    (∃ a, Numeral.hex32? text = some a ∧ a.toUInt32 = x) ↔ Denotes 16 UInt32.size text x.toNat := by
  have hread : ∀ n, Numeral.hex32? text = some n ↔ Denotes 16 UInt32.size text n :=
    Numeral.read?_eq_some_iff (Nat.le_refl _) text
  constructor
  · rintro ⟨a, ha, rfl⟩
    have hdenotes := (hread a).mp ha
    have ha' : a < UInt32.size := hdenotes.lt
    have hsame : a.toUInt32.toNat = a := UInt32.toNat_ofNat_of_lt' ha'
    rwa [hsame]
  · intro h
    exact ⟨x.toNat, (hread _).mpr h, UInt32.ofNat_toNat⟩

theorem range?_eq_some_iff (text : List Char) (x y : UInt32) :
    range? text = some (x, y) ↔ Demand.Range text x y := by
  constructor
  · intro h
    unfold range? at h
    split at h
    · next first last hsplit =>
      obtain ⟨htext, -⟩ := (splitOnce_eq_some_iff _ _ _ _).mp hsplit
      simp only [Option.bind_eq_bind, Option.bind_eq_some_iff, Option.some.injEq,
        Prod.mk.injEq] at h
      obtain ⟨a, ha, b, hb, rfl, rfl⟩ := h
      rw [htext]
      exact .two ((hex32?_eq_some_iff _ _).mp ⟨a, ha, rfl⟩)
        ((hex32?_eq_some_iff _ _).mp ⟨b, hb, rfl⟩)
    · simp only [Option.map_eq_some_iff, Prod.mk.injEq] at h
      obtain ⟨a, ha, rfl, rfl⟩ := h
      exact .one ((hex32?_eq_some_iff _ _).mp ⟨a, ha, rfl⟩)
  · intro h
    unfold range?
    cases h with
    | one h =>
      have hmark : splitOnce '-' text = none :=
        (splitOnce_eq_none_iff _ _).mpr fun hc =>
          absurd (h.plus_or_alphanum (Nat.le_refl _) _ hc) (by decide)
      obtain ⟨a, ha, rfl⟩ := (hex32?_eq_some_iff _ _).mpr h
      rw [hmark, ha]
      rfl
    | @two first last _ _ hfirst hlast =>
      have hmark : splitOnce '-' (first ++ '-' :: last) = some (first, last) :=
        (splitOnce_eq_some_iff _ _ _ _).mpr ⟨rfl, fun hc =>
          absurd (hfirst.plus_or_alphanum (Nat.le_refl _) _ hc) (by decide)⟩
      obtain ⟨a, ha, rfl⟩ := (hex32?_eq_some_iff _ _).mpr hfirst
      obtain ⟨b, hb, rfl⟩ := (hex32?_eq_some_iff _ _).mpr hlast
      rw [hmark]
      dsimp only
      rw [ha, hb]
      rfl

/-- The rule for any text that is not of one byte. -/
theorem split_eq_some_iff (text : List Char) (f : Filter) :
    (match splitOnce ':' text with
      | some (place, range) => do
        let place ← Numeral.decimal32? place
        (range? range).map (between (some place))
      | none => (range? text).map (between none)) = some f ↔
    ∃ place x y, Demand.Spells text place x y ∧ between place (x, y) = f := by
  constructor
  · intro h
    split at h
    · next place range hsplit =>
      obtain ⟨htext, -⟩ := (splitOnce_eq_some_iff _ _ _ _).mp hsplit
      simp only [Option.bind_eq_bind, Option.bind_eq_some_iff, Option.map_eq_some_iff] at h
      obtain ⟨n, hn, ⟨x, y⟩, hxy, rfl⟩ := h
      refine ⟨some n, x, y, ⟨place ++ [':'], range, ?_, ?_, ?_⟩, rfl⟩
      · rw [htext, List.append_assoc, List.singleton_append]
      · exact .bus ((Numeral.decimal32?_eq_some_iff _ _).mp hn)
      · exact (range?_eq_some_iff _ _ _).mp hxy
    · simp only [Option.map_eq_some_iff] at h
      obtain ⟨⟨x, y⟩, hxy, rfl⟩ := h
      exact ⟨none, x, y, ⟨[], text, rfl, .nothing, (range?_eq_some_iff _ _ _).mp hxy⟩, rfl⟩
  · rintro ⟨place, x, y, ⟨head, range, rfl, hhead, hrange⟩, rfl⟩
    have hxy := (range?_eq_some_iff _ _ _).mpr hrange
    cases hhead with
    | nothing =>
      have hmark : splitOnce ':' range = none :=
        (splitOnce_eq_none_iff _ _).mpr fun hc => absurd (hrange.mark_or_alphanum _ hc) (by decide)
      rw [List.nil_append, hmark]
      dsimp only
      rw [hxy]
      rfl
    | @bus number n hn =>
      have hmark : splitOnce ':' (number ++ ':' :: range) = some (number, range) :=
        (splitOnce_eq_some_iff _ _ _ _).mpr ⟨rfl, fun hc =>
          absurd (hn.plus_or_alphanum (by decide) _ hc) (by decide)⟩
      rw [List.append_assoc, List.singleton_append, hmark]
      dsimp only
      rw [(Numeral.decimal32?_eq_some_iff _ _).mpr hn, hxy]
      rfl

theorem parse?_eq_some_iff (spec : String) (f : Filter) :
    parse? spec.toList = some f ↔ ∃ d, Demand.Reads spec d ∧ d.filter = f := by
  have hbyte := utf8ByteSize_eq_one_iff spec
  have hdigit : ∀ {c : Char} {n : Nat}, Numeral.decimal32? [c] = some n ↔ IsDigit 10 c n := by
    intro c n
    rw [Numeral.decimal32?_eq_some_iff, Numeral.denotes_singleton (by decide)]
  constructor
  · intro h
    unfold parse? at h
    split at h
    · next c hc =>
      obtain ⟨n, hn, rfl⟩ := Option.map_eq_some_iff.mp h
      have hc' : IsDigit 10 c n := hdigit.mp hn
      have hascii : c.toNat < 128 := Numeral.toNat_lt_of_isAlphanum (hc'.isAlphanum (by decide))
      exact ⟨.bus n, .bus (hbyte.mpr ⟨c, hc, hascii⟩) hc hc', rfl⟩
    · next hlong =>
      have hsize : spec.utf8ByteSize ≠ 1 := by
        intro hone
        obtain ⟨c, hc, -⟩ := hbyte.mp hone
        exact hlong c hc
      obtain ⟨place, x, y, hspells, rfl⟩ := (split_eq_some_iff _ _).mp h
      exact ⟨.ids place x y, .ids hsize hspells, rfl⟩
  · rintro ⟨_, hreads, rfl⟩
    cases hreads with
    | @bus c d _ hc hd =>
      rw [hc]
      exact Option.map_eq_some_iff.mpr ⟨d, hdigit.mpr hd, rfl⟩
    | @ids place x y hsize hspells =>
      unfold parse?
      split
      · next c hc =>
        -- Whatever spells identifiers is ASCII, so a single character would be a single byte.
        have hascii : c.toNat < 128 := hspells.ascii c (by rw [hc]; exact List.mem_singleton_self c)
        exact absurd (hbyte.mpr ⟨c, hc, hascii⟩) hsize
      · exact (split_eq_some_iff _ _).mpr ⟨place, x, y, hspells, rfl⟩

end Filter

/-- The text is one of a filter. -/
def IsFilter (spec : String) : Prop := ∃ d, Demand.Reads spec d

/-- The text of a filter admits the message. -/
def Admits (spec : String) (m : Message) : Prop := ∃ d, Demand.Reads spec d ∧ d.Admits m

theorem parse?_eq_none_iff (spec : String) :
    Filter.parse? spec.toList = none ↔ ¬ IsFilter spec := by
  rw [Option.eq_none_iff_forall_ne_some]
  constructor
  · rintro h ⟨d, hd⟩
    exact h d.filter ((Filter.parse?_eq_some_iff spec _).mpr ⟨d, hd, rfl⟩)
  · intro h f hf
    obtain ⟨d, hd, -⟩ := (Filter.parse?_eq_some_iff spec f).mp hf
    exact h ⟨d, hd⟩

theorem isFilter_of_parse? {spec : String} {f : Filter} (h : Filter.parse? spec.toList = some f) :
    IsFilter spec := by
  obtain ⟨d, hd, -⟩ := (Filter.parse?_eq_some_iff spec f).mp h
  exact ⟨d, hd⟩

theorem admits_of_parse? {spec : String} {f : Filter} (h : Filter.parse? spec.toList = some f)
    (m : Message) :
    f.admits m.origin (m.entry.frame?.map Frame.id) = true ↔ Admits spec m := by
  constructor
  · intro hadmits
    obtain ⟨d, hd, rfl⟩ := (Filter.parse?_eq_some_iff spec f).mp h
    exact ⟨d, hd, (d.admits_filter m).mp hadmits⟩
  · rintro ⟨d, hd, hadmits⟩
    have hf := (Filter.parse?_eq_some_iff spec _).mpr ⟨d, hd, rfl⟩
    obtain rfl := Option.some.inj (hf.symm.trans h)
    exact (d.admits_filter m).mpr hadmits

/-- A message from no numbered bus is only admitted by a text without a bus. -/
theorem Admits.of_no_number {spec : String} {m : Message} (h : Admits spec m)
    (hm : ∀ n, ¬ m.IsFrom n) : ∃ x y, Demand.Reads spec (.ids none x y) := by
  obtain ⟨d, hd, hadmits⟩ := h
  cases d with
  | bus n => exact absurd hadmits (hm n)
  | ids place x y =>
    cases place with
    | none => exact ⟨x, y, hd⟩
    | some n => exact absurd (hadmits.1 n rfl) (hm n)

namespace FilterSet

/-- Reads texts of filters one after another, up to the first that is none. -/
def readAll (specs : List String) : Except FilterError (List Filter) :=
  specs.mapM fun spec =>
    match Filter.parse? spec.toList with
    | some f => .ok f
    | none => .error (.invalid spec)

theorem parse_eq (specs : List String) : parse specs = (readAll specs).bind ofList := rfl

theorem readAll_cons (spec : String) (specs : List String) :
    readAll (spec :: specs) =
      match Filter.parse? spec.toList with
      | some f => (readAll specs).map (f :: ·)
      | none => .error (.invalid spec) := by
  rw [readAll, List.mapM_cons]
  cases Filter.parse? spec.toList with
  | none => rfl
  | some f =>
    show (readAll specs >>= _) = _
    cases readAll specs <;> rfl

/-- The first text that is no filter is the one reported, however many there are. -/
theorem readAll_of_invalid {before after : List String} {s : String}
    (hbefore : ∀ b ∈ before, IsFilter b) (hs : ¬ IsFilter s) :
    readAll (before ++ s :: after) = .error (.invalid s) := by
  induction before with
  | nil =>
    rw [List.nil_append, readAll_cons, (parse?_eq_none_iff s).mpr hs]
  | cons b before ih =>
    rw [List.forall_mem_cons] at hbefore
    rw [List.cons_append, readAll_cons, ih hbefore.2]
    cases h : Filter.parse? b.toList with
    | none => exact absurd hbefore.1 ((parse?_eq_none_iff b).mp h)
    | some f => rfl

theorem readAll_eq_ok_iff (specs : List String) (filters : List Filter) :
    readAll specs = .ok filters ↔
      List.Forall₂ (fun spec f => Filter.parse? spec.toList = some f) specs filters := by
  induction specs generalizing filters with
  | nil =>
    rw [List.forall₂_nil_left_iff]
    exact ⟨fun h => (Except.ok.inj h).symm, fun h => congrArg Except.ok h.symm⟩
  | cons spec specs ih =>
    rw [readAll_cons, List.forall₂_cons_left_iff]
    constructor
    · intro h
      split at h
      · next f hf =>
        cases hread : readAll specs with
        | error e =>
          rw [hread] at h
          cases h
        | ok rest =>
          rw [hread] at h
          exact ⟨f, rest, hf, (ih rest).mp hread, (Except.ok.inj h).symm⟩
      · cases h
    · rintro ⟨f, rest, hf, hrest, rfl⟩
      rw [hf, (ih rest).mpr hrest]
      rfl

theorem readAll_of_valid {specs : List String} (h : ∀ s ∈ specs, IsFilter s) :
    ∃ filters, readAll specs = .ok filters := by
  induction specs with
  | nil => exact ⟨[], rfl⟩
  | cons spec specs ih =>
    rw [List.forall_mem_cons] at h
    obtain ⟨filters, hread⟩ := ih h.2
    cases hf : Filter.parse? spec.toList with
    | none => exact absurd h.1 ((parse?_eq_none_iff spec).mp hf)
    | some f =>
      refine ⟨f :: filters, ?_⟩
      rw [readAll_cons, hf, hread]
      rfl

theorem parse_eq_ok_iff (specs : List String) (set : FilterSet) :
    parse specs = .ok set ↔
      List.Forall₂ (fun spec f => Filter.parse? spec.toList = some f) specs set.filters := by
  rw [← readAll_eq_ok_iff, parse_eq]
  cases readAll specs with
  | error e => exact ⟨fun h => (nomatch h), fun h => (nomatch h)⟩
  | ok filters =>
    show ofList filters = .ok set ↔ _
    constructor
    · intro h
      unfold ofList at h
      split at h
      · cases h
        rfl
      · cases h
    · intro h
      cases h
      exact dif_pos set.length_le

theorem admits_iff {specs : List String} {set : FilterSet}
    (h : List.Forall₂ (fun spec f => Filter.parse? spec.toList = some f) specs set.filters)
    (m : Message) : set.admits m = true ↔ specs = [] ∨ ∃ spec ∈ specs, Admits spec m := by
  have hany : ∀ {specs : List String} {filters : List Filter},
      List.Forall₂ (fun spec f => Filter.parse? spec.toList = some f) specs filters →
      (filters.any (fun f => f.admits m.origin (m.entry.frame?.map Frame.id)) = true ↔
        ∃ spec ∈ specs, Admits spec m) := by
    intro specs filters h
    induction h with
    | nil => simp
    | cons hf _ ih => simp [ih, admits_of_parse? hf]
  unfold admits
  rw [Bool.or_eq_true, hany h]
  refine or_congr ?_ Iff.rfl
  rw [List.isEmpty_iff, ← List.length_eq_zero_iff, ← h.length_eq, List.length_eq_zero_iff]

theorem parse_specs (specs : List String) :
    (∀ before s after, specs = before ++ s :: after → (∀ b ∈ before, IsFilter b) → ¬ IsFilter s →
      parse specs = .error (.invalid s)) ∧
    ((∀ s ∈ specs, IsFilter s) → 3 < specs.length → parse specs = .error (.tooMany 3)) ∧
    ((∀ s ∈ specs, IsFilter s) → specs.length ≤ 3 → ∃ set, parse specs = .ok set ∧
      ∀ m, (set.admits m = true ↔ specs = [] ∨ ∃ spec ∈ specs, Admits spec m)) ∧
    ∀ spec m, Admits spec m → (∀ n, ¬ m.IsFrom n) → ∃ x y, Demand.Reads spec (.ids none x y) := by
  refine ⟨?_, ?_, ?_, fun spec m h hm => h.of_no_number hm⟩
  · rintro before s after rfl hbefore hs
    rw [parse_eq, readAll_of_invalid hbefore hs]
    rfl
  · intro h hmany
    obtain ⟨filters, hread⟩ := readAll_of_valid h
    have hlength : ¬ filters.length ≤ maxFilters := by
      rw [← ((readAll_eq_ok_iff _ _).mp hread).length_eq]
      exact Nat.not_le.mpr hmany
    rw [parse_eq, hread]
    exact dif_neg hlength
  · intro h hfew
    obtain ⟨filters, hread⟩ := readAll_of_valid h
    have hfilters := (readAll_eq_ok_iff _ _).mp hread
    have hlength : filters.length ≤ maxFilters := by
      rw [← hfilters.length_eq]
      exact hfew
    exact ⟨⟨filters, hlength⟩, (parse_eq_ok_iff _ _).mpr hfilters, admits_iff hfilters⟩

/-- Of five texts the second is reported as no filter, and four filters are too many.  Of two filters the
second admits a frame between its bounds, and a remark, but not a frame beyond them. -/
theorem parse_five_and_four :
    let m (e : Entry) : Message := ⟨some (.numbered 3), {}, e⟩
    let f (id : UInt32) (h : id ≤ 0x7ff) : Frame := ⟨none, id, .standard, [], h, by decide⟩
    parse ["1", "x:100", "2", "3", "4"] = .error (.invalid "x:100") ∧
    parse ["1", "2:100", "3:1ff-100", "7df"] = .error (.tooMany 3) ∧
    ∃ set, parse ["1", "3:1ff-100"] = .ok set ∧
      set.admits (m (.frame .deferred (f 0x180 (by decide)))) = true ∧
      set.admits (m (.frame .received (f 0x200 (by decide)))) = false ∧
      set.admits (m (.remark .comment "")) = true := by
  intro m f
  have hvalid : ∀ s ∈ ["1", "2:100", "3:1ff-100", "7df"], IsFilter s := by
    simp only [List.forall_mem_cons]
    exact ⟨isFilter_of_parse? rfl, isFilter_of_parse? rfl, isFilter_of_parse? rfl,
      isFilter_of_parse? rfl, List.forall_mem_nil _⟩
  have htwo : ∀ s ∈ ["1", "3:1ff-100"], IsFilter s :=
    fun s hs => hvalid s (by simp at hs ⊢; tauto)
  refine ⟨(parse_specs _).1 ["1"] "x:100" ["2", "3", "4"] rfl ?_ ?_,
    (parse_specs _).2.1 hvalid (by decide), ?_⟩
  · exact List.forall_mem_singleton.mpr (isFilter_of_parse? rfl)
  · exact (parse?_eq_none_iff _).mp rfl
  obtain ⟨set, hset, hadmits⟩ := (parse_specs _).2.2.1 htwo (by decide)
  refine ⟨set, hset, (hadmits _).mpr (.inr ⟨"3:1ff-100", by simp, ?_⟩), ?_,
    (hadmits _).mpr (.inr ⟨"3:1ff-100", by simp, ?_⟩)⟩
  · exact (admits_of_parse? rfl _).mp (by decide +kernel)
  · refine Bool.eq_false_iff.mpr fun h => ?_
    obtain hnone | ⟨spec, hspec, hadmitted⟩ := (hadmits _).mp h
    · cases hnone
    · simp only [List.mem_cons, List.not_mem_nil, or_false] at hspec
      obtain rfl | rfl := hspec
      all_goals exact absurd ((admits_of_parse? rfl _).mpr hadmitted) (by decide +kernel)
  · exact (admits_of_parse? rfl _).mp (by decide +kernel)

end FilterSet
end Logger
end Fieldbus
