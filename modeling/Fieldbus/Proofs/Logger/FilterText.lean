import Fieldbus.Logger.Basic
import Fieldbus.Proofs.Logger.Filtering
import Fieldbus.Proofs.Text.Ascii

/-! Texts of filters, read again.  Of a filter that was read from a text, the text it has is read as
the same filter, but for two kinds of filters whose texts are ambiguous: a single identifier below 16
has one character and looks like a bus, and a whole bus from the tenth on has several and looks like an
identifier (`parse?_text_iff`).  So the filters that an operator is shown can be typed again if and only
if none of them is ambiguous (`FilterSet.read_again`). -/

namespace Fieldbus.Logger

open Numeral (Denotes)
open Text (IsWord IsPlain)

namespace Filter

/-- What every filter that was read satisfies. -/
structure Proper (f : Filter) : Prop where
  ordered : f.low ≤ f.high
  bus_lt : ∀ n ∈ f.bus, n < UInt32.size

/-- The filter admits all identifiers. -/
def Whole (f : Filter) : Prop := f.low = 0 ∧ f.high = 0xffffffff

/-- The text of the filter has another meaning: a bus that is one, or an identifier. -/
def Ambiguous (f : Filter) : Prop :=
  (f.bus = none ∧ f.low = f.high ∧ f.low < 16) ∨ (∃ n ∈ f.bus, 10 ≤ n) ∧ f.Whole

theorem between_eq {place : Option Nat} {x y : UInt32} (h : x ≤ y) :
    between place (x, y) = { bus := place, low := x, high := y } := by
  have hmin : min x y = x := if_pos h
  have hmax : max x y = y := if_pos h
  simp only [between, hmin, hmax]

theorem proper_ofBus {n : Nat} (h : n < UInt32.size) : (ofBus n).Proper where
  ordered := show (0 : UInt32) ≤ 0xffffffff by decide
  bus_lt := by
    rintro _ ⟨⟩
    exact h

theorem proper_between {place : Option Nat} (h : ∀ n ∈ place, n < UInt32.size) (x y : UInt32) :
    (between place (x, y)).Proper where
  ordered := by
    show (if x ≤ y then x else y) ≤ (if x ≤ y then y else x)
    split
    · assumption
    · next hxy => exact UInt32.le_of_lt (UInt32.not_le.mp hxy)
  bus_lt := h

theorem proper_of_reads {spec : String} {d : Demand} (h : Demand.Reads spec d) :
    d.filter.Proper := by
  cases h with
  | bus _ _ hd => exact proper_ofBus (Nat.lt_trans hd.1 (by decide))
  | ids _ hspells =>
    obtain ⟨head, range, -, hhead, -⟩ := hspells
    apply proper_between
    rintro n hn
    cases hhead with
    | nothing => cases hn
    | bus hdenotes =>
      cases hn
      exact hdenotes.lt

theorem proper_of_parse? {spec : String} {f : Filter} (h : parse? spec.toList = some f) :
    f.Proper := by
  obtain ⟨d, hd, rfl⟩ := (parse?_eq_some_iff spec f).mp h
  exact proper_of_reads hd

/-! ### The parts of a text -/

/-- The identifiers of a filter. -/
def range (f : Filter) : List Char :=
  if f.low = f.high then Numeral.hex f.low.toNat
  else Numeral.hex f.low.toNat ++ '-' :: Numeral.hex f.high.toNat

theorem text_of_no_bus {f : Filter} (h : f.bus = none) : f.text = f.range := by
  simp only [text, h, range]

theorem text_of_whole {f : Filter} {n : Nat} (h : f.bus = some n) (hwhole : f.Whole) :
    f.text = Numeral.decimal n := by
  simp only [text, h]
  exact if_pos hwhole

theorem text_of_bus {f : Filter} {n : Nat} (h : f.bus = some n) (hwhole : ¬ f.Whole) :
    f.text = Numeral.decimal n ++ [':'] ++ f.range := by
  simp only [text, h]
  refine (if_neg hwhole).trans ?_
  rw [List.append_assoc, List.singleton_append]
  rfl

theorem denotes_decimal {n : Nat} (h : n < UInt32.size) :
    Denotes 10 UInt32.size (Numeral.decimal n) n :=
  (Numeral.read?_eq_some_iff (by decide) _ _).mp (Numeral.read?_toDigits (by decide) (by decide) h)

theorem denotes_hex (x : UInt32) : Denotes 16 UInt32.size (Numeral.hex x.toNat) x.toNat :=
  (Numeral.read?_eq_some_iff (by decide) _ _).mp
    (Numeral.read?_toDigits (by decide) (by decide) x.toNat_lt)

theorem range_range (f : Filter) : Demand.Range f.range f.low f.high := by
  unfold range
  split
  · next h =>
    rw [← h]
    exact .one (denotes_hex f.low)
  · exact .two (denotes_hex f.low) (denotes_hex f.high)

theorem length_toDigits_of_le {base n : Nat} (hb : 1 < base) (h : base ≤ n) :
    1 < (Nat.toDigits base n).length := by
  by_contra hlength
  have hlt : n < base ^ 1 := (Nat.length_toDigits_le_iff hb (by decide)).mp (by omega)
  rw [Nat.pow_one] at hlt
  omega

/-! ### Reading a text again -/

theorem parse?_singleton (c : Char) : parse? [c] = (Numeral.decimal32? [c]).map ofBus := rfl

/-- A text of several characters has identifiers, and a bus if it has a colon. -/
theorem parse?_of_length {text : List Char} (h : text.length ≠ 1) (f : Filter) :
    parse? text = some f ↔
      ∃ place x y, Demand.Spells text place x y ∧ between place (x, y) = f := by
  rw [← split_eq_some_iff]
  unfold parse?
  split
  · exact absurd rfl h
  · rfl

theorem parse?_of_spells {f : Filter} {text : List Char} (hf : f.Proper) (h : text.length ≠ 1)
    (hspells : Demand.Spells text f.bus f.low f.high) : parse? text = some f :=
  (parse?_of_length h f).mpr ⟨f.bus, f.low, f.high, hspells, between_eq hf.ordered⟩

/-- A digit alone names a bus. -/
theorem parse?_decimal_of_digit {n : Nat} (h : n < 10) :
    parse? (Numeral.decimal n) = some (ofBus n) := by
  have hread : Numeral.decimal32? (Numeral.decimal n) = some n :=
    Numeral.read?_toDigits (by decide) (by decide) (Nat.lt_trans h (by decide))
  have hdigit : Numeral.decimal n = [Nat.digitChar n] := Nat.toDigits_of_lt_base h
  rw [hdigit] at hread ⊢
  rw [parse?_singleton, hread]
  rfl

/-- A longer numeral never names a bus. -/
theorem bus_of_parse?_decimal {n : Nat} {f : Filter} (h : 10 ≤ n)
    (hf : parse? (Numeral.decimal n) = some f) : f.bus = none := by
  have hlength : (Numeral.decimal n).length ≠ 1 := by
    have hlong : 1 < (Numeral.decimal n).length := length_toDigits_of_le (by decide) h
    omega
  obtain ⟨place, x, y, ⟨head, range, htext, hhead, -⟩, rfl⟩ := (parse?_of_length hlength f).mp hf
  cases hhead with
  | nothing => rfl
  | bus hdenotes =>
    -- No figure is a colon.
    exfalso
    have hcolon : ':' ∈ Numeral.decimal n := by
      rw [htext]
      simp
    obtain ⟨d, hd, hchar⟩ := Numeral.isFigure_toDigits (by decide) (by decide) ':' hcolon
    interval_cases d <;> cases hchar

/-- A single character is no identifier. -/
theorem bus_of_parse?_hex {x : UInt32} {f : Filter} (h : x < 16)
    (hf : parse? (Numeral.hex x.toNat) = some f) : f.bus ≠ none := by
  have hdigit : Numeral.hex x.toNat = [Nat.digitChar x.toNat] :=
    Nat.toDigits_of_lt_base (UInt32.lt_iff_toNat_lt.mp h)
  rw [hdigit, parse?_singleton] at hf
  obtain ⟨n, -, rfl⟩ := Option.map_eq_some_iff.mp hf
  exact Option.some_ne_none n

theorem length_range {f : Filter} (h : ¬ (f.low = f.high ∧ f.low < 16)) : f.range.length ≠ 1 := by
  unfold range
  split
  · next heq =>
    have hle : 16 ≤ f.low.toNat := by
      by_contra hlt
      exact h ⟨heq, UInt32.lt_iff_toNat_lt.mpr (Nat.lt_of_not_le hlt)⟩
    have hlong : 1 < (Numeral.hex f.low.toNat).length := length_toDigits_of_le (by decide) hle
    omega
  · have hlow : 0 < (Numeral.hex f.low.toNat).length := Nat.length_toDigits_pos
    have hhigh : 0 < (Numeral.hex f.high.toNat).length := Nat.length_toDigits_pos
    simp only [List.length_append, List.length_cons]
    omega

theorem parse?_text_of_ambiguous {f : Filter} (h : f.Ambiguous) : parse? f.text ≠ some f := by
  intro hf
  rcases h with ⟨hbus, heq, hlt⟩ | ⟨⟨n, hbus, hn⟩, hwhole⟩
  · have htext : f.text = Numeral.hex f.low.toNat := (text_of_no_bus hbus).trans (if_pos heq)
    rw [htext] at hf
    exact bus_of_parse?_hex hlt hf hbus
  · rw [text_of_whole hbus hwhole] at hf
    have hnone := bus_of_parse?_decimal hn hf
    rw [hnone] at hbus
    cases hbus

theorem parse?_text_of_not_ambiguous {f : Filter} (hf : f.Proper) (h : ¬ f.Ambiguous) :
    parse? f.text = some f := by
  cases hbus : f.bus with
  | none =>
    have hlong : ¬ (f.low = f.high ∧ f.low < 16) := fun hid => h (.inl ⟨hbus, hid⟩)
    rw [text_of_no_bus hbus]
    apply parse?_of_spells hf (length_range hlong)
    rw [hbus]
    exact ⟨[], f.range, rfl, .nothing, range_range f⟩
  | some n =>
    by_cases hwhole : f.Whole
    · have hn : n < 10 := by
        by_contra hle
        exact h (.inr ⟨⟨n, hbus, Nat.le_of_not_lt hle⟩, hwhole⟩)
      rw [text_of_whole hbus hwhole, parse?_decimal_of_digit hn]
      obtain ⟨hlow, hhigh⟩ := hwhole
      cases f
      simp_all [ofBus]
    · have hlength : (Numeral.decimal n ++ [':'] ++ f.range).length ≠ 1 := by
        have hn : 0 < (Numeral.decimal n).length := Nat.length_toDigits_pos
        simp only [List.length_append, List.length_cons, List.length_nil]
        omega
      rw [text_of_bus hbus hwhole]
      apply parse?_of_spells hf hlength
      rw [hbus]
      exact ⟨_, f.range, rfl, .bus (denotes_decimal (hf.bus_lt n hbus)), range_range f⟩

theorem parse?_text_iff {f : Filter} (hf : f.Proper) :
    parse? f.text = some f ↔ ¬ f.Ambiguous := by
  constructor
  · intro h hambiguous
    exact parse?_text_of_ambiguous hambiguous h
  · exact parse?_text_of_not_ambiguous hf

/-! ### Texts as words -/

theorem isWord_range (f : Filter) : IsWord f.range := by
  have hhex : ∀ x : UInt32, IsWord (Numeral.hex x.toNat) := fun x =>
    Text.isWord_of_figures Nat.toDigits_ne_nil (Numeral.isFigure_toDigits (by decide) (by decide))
  unfold range
  split
  · exact hhex f.low
  · refine ⟨List.append_ne_nil_of_left_ne_nil (hhex f.low).1 _, ?_⟩
    rw [List.forall_mem_append, List.forall_mem_cons]
    exact ⟨(hhex f.low).2, by decide, (hhex f.high).2⟩

theorem isWord_text (f : Filter) : IsWord f.text := by
  cases hbus : f.bus with
  | none =>
    rw [text_of_no_bus hbus]
    exact isWord_range f
  | some n =>
    have hnumber : IsWord (Numeral.decimal n) :=
      Text.isWord_of_figures Nat.toDigits_ne_nil (Numeral.isFigure_toDigits (by decide) (by decide))
    by_cases hwhole : f.Whole
    · rw [text_of_whole hbus hwhole]
      exact hnumber
    · rw [text_of_bus hbus hwhole, List.append_assoc]
      refine ⟨List.append_ne_nil_of_left_ne_nil hnumber.1 _, ?_⟩
      rw [List.forall_mem_append, List.forall_mem_append, List.forall_mem_singleton]
      exact ⟨hnumber.2, by decide, (isWord_range f).2⟩

end Filter

namespace FilterSet

/-- The texts of the filters, as an operator types them. -/
def texts (set : FilterSet) : List String := set.filters.map fun f => String.ofList f.text

/-- Blanks stand between the texts and nowhere else. -/
theorem words_text {set : FilterSet} (h : set.filters ≠ []) :
    (Text.words set.text.toList).map String.ofList = set.texts := by
  have hsome : set.filters.isEmpty = false := List.isEmpty_eq_false_iff.mpr h
  have htexts : set.texts.map String.toList = set.filters.map Filter.text := by
    simp [texts]
  have hwords : ∀ w ∈ set.filters.map Filter.text, IsWord w := by
    simp [Filter.isWord_text]
  have htext : set.text.toList = [' '].intercalate (set.filters.map Filter.text) := by
    rw [← htexts]
    unfold text
    rw [hsome]
    exact String.toList_intercalate
  rw [htext, Text.words_intercalate hwords, List.map_map]
  rfl

theorem forall₂_texts {set : FilterSet} :
    List.Forall₂ (fun spec f => Filter.parse? spec.toList = some f) set.texts set.filters ↔
      ∀ f ∈ set.filters, Filter.parse? f.text = some f := by
  rw [texts, List.forall₂_map_left_iff, List.forall₂_same]
  simp only [String.toList_ofList]

/-- Whatever kind of logger it is, what it tells about itself ends with its filters. -/
theorem info_eq (l : Logger) : ∃ head, l.info = head ++ l.filter.text := by
  unfold Logger.info
  split
  · exact ⟨_, rfl⟩
  · exact ⟨_, rfl⟩
  · exact ⟨_, rfl⟩

/-- The text of a filter that was read is read as the same filter if and only if it is not ambiguous.  So
the filters of any set that was read, as shown by themselves or by a logger, can be typed again if and only
if none of them is ambiguous. -/
theorem read_again (spec : String) (specs : List String) :
    (∀ f, Filter.parse? spec.toList = some f →
      (Filter.parse? f.text = some f ↔ ¬ f.Ambiguous)) ∧
    (∀ set, parse specs = .ok set →
      (parse set.texts = .ok set ↔ ∀ f ∈ set.filters, ¬ f.Ambiguous) ∧
      (set.filters ≠ [] → (Text.words set.text.toList).map String.ofList = set.texts)) ∧
    ∀ l : Logger, ∃ head, l.info = head ++ l.filter.text := by
  refine ⟨?_, ?_, info_eq⟩
  · intro f h
    exact Filter.parse?_text_iff (Filter.proper_of_parse? h)
  · intro set h
    refine ⟨?_, words_text⟩
    have hproper : ∀ f ∈ set.filters, f.Proper := by
      intro f hf
      obtain ⟨i, hi, rfl⟩ := List.getElem_of_mem hf
      have hread := (parse_eq_ok_iff specs set).mp h
      exact Filter.proper_of_parse? (hread.get (hread.length_eq ▸ hi) hi)
    rw [parse_eq_ok_iff, forall₂_texts]
    exact forall₂_congr fun f hf => Filter.parse?_text_iff (hproper f hf)

theorem read_again_of_two :
    ∃ set, parse ["1:100-1ff", "7df"] = .ok set ∧ set.text = "1:100-1ff 7df" ∧
      parse set.texts = .ok set := by
  have hclear : ∀ f ∈ [⟨some 1, 0x100, 0x1ff⟩, ⟨none, 0x7df, 0x7df⟩], ¬ Filter.Ambiguous f := by
    simp [Filter.Ambiguous, Filter.Whole]
  exact ⟨⟨[⟨some 1, 0x100, 0x1ff⟩, ⟨none, 0x7df, 0x7df⟩], by decide⟩, rfl, by decide,
    ((read_again "7df" ["1:100-1ff", "7df"]).2.1 _ rfl).1.mpr hclear⟩

/-- All of bus 12 is shown as an identifier, identifier 5 as a bus, and identifier ten as nothing that
can be read. -/
theorem misread :
    (∃ f g, Filter.parse? "12:0-ffffffff".toList = some f ∧ Filter.parse? f.text = some g ∧
      g ≠ f) ∧
    (∃ f g, Filter.parse? "05".toList = some f ∧ Filter.parse? f.text = some g ∧ g ≠ f) ∧
    ∃ f, Filter.parse? "0a".toList = some f ∧ Filter.parse? f.text = none :=
  ⟨⟨⟨some 12, 0, 0xffffffff⟩, ⟨none, 0x12, 0x12⟩, rfl, rfl, by decide⟩,
    ⟨⟨none, 5, 5⟩, ⟨some 5, 0, 0xffffffff⟩, rfl, rfl, by decide⟩, ⟨none, 10, 10⟩, rfl, rfl⟩

end FilterSet
end Fieldbus.Logger
