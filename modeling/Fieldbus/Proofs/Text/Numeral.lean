import Fieldbus.Text.Numeral
import Mathlib.Data.List.Forall2
import Mathlib.Data.Nat.Digits.Defs
import Mathlib.Tactic.IntervalCases
import Mathlib.Tactic.Ring

/-! Numerals are read back as they were written (`read?_toDigits`, `hex8?_hexByte`), and are made of
figures alone.  What is read as a numeral is one: digits of the base, behind a plus sign or not, with a
value below the limit (`read?_eq_some_iff`). -/

namespace Fieldbus.Numeral

/-- A digit of a numeral of base sixteen or less. -/
def IsFigure (c : Char) : Prop := ∃ d < 16, c = Nat.digitChar d

theorem digit?_digitChar {base d : Nat} (hb : base ≤ 16) (hd : d < base) :
    digit? base (Nat.digitChar d) = some d := by
  have : d < 16 := by omega
  interval_cases d <;> simp [digit?, Nat.digitChar, hd]

theorem digits?_append (base acc : Nat) (a b : List Char) :
    digits? base acc (a ++ b) = (digits? base acc a).bind fun acc => digits? base acc b := by
  induction a generalizing acc with
  | nil => rfl
  | cons c a ih =>
    simp only [List.cons_append, digits?]
    cases digit? base c with
    | none => rfl
    | some d => exact ih _

/-- The digits of a number have its value.  The induction removes the last digit. -/
theorem digits?_toDigits {base : Nat} (hb : 1 < base) (hb' : base ≤ 16) (n : Nat) :
    digits? base 0 (Nat.toDigits base n) = some n := by
  induction n using Nat.strong_induction_on with
  | _ n ih =>
    rw [Nat.toDigits_eq_if hb]
    split
    · next h => simp [digits?, digit?_digitChar hb' h]
    · next h =>
      have hmod : n % base < base := Nat.mod_lt _ (by omega)
      have hdiv : n / base < n := Nat.div_lt_self (by omega) hb
      rw [digits?_append, ih _ hdiv]
      simp [digits?, digit?_digitChar hb' hmod, Nat.div_add_mod']

theorem isFigure_toDigits {base n : Nat} (hb : 1 < base) (hb' : base ≤ 16) :
    ∀ c ∈ Nat.toDigits base n, IsFigure c := by
  induction n using Nat.strong_induction_on with
  | _ n ih =>
    rw [Nat.toDigits_eq_if hb]
    split
    · next h =>
      intro c hc
      exact ⟨n, by omega, List.mem_singleton.mp hc⟩
    · next h =>
      have hmod : n % base < base := Nat.mod_lt _ (by omega)
      intro c hc
      rcases List.mem_append.mp hc with hc | hc
      · exact ih _ (Nat.div_lt_self (by omega) hb) c hc
      · exact ⟨n % base, by omega, List.mem_singleton.mp hc⟩

theorem IsFigure.ne_plus {c : Char} (h : IsFigure c) : c ≠ '+' := by
  obtain ⟨d, hd, rfl⟩ := h
  interval_cases d <;> decide

theorem unsigned_of_figures {cs : List Char} (h : ∀ c ∈ cs, IsFigure c) : unsigned cs = cs := by
  cases cs with
  | nil => rfl
  | cons c rest =>
    have := (h c List.mem_cons_self).ne_plus
    simp [unsigned, this]

/-- A run of figures with a value below the limit is read as that value. -/
theorem read?_of_figures {base limit n : Nat} {cs : List Char} (h : ∀ c ∈ cs, IsFigure c)
    (hne : cs ≠ []) (hv : digits? base 0 cs = some n) (hn : n < limit) :
    read? base limit cs = some n := by
  cases cs with
  | nil => exact absurd rfl hne
  | cons c rest => simp [read?, unsigned_of_figures h, hv, hn]

theorem read?_toDigits {base limit n : Nat} (hb : 1 < base) (hb' : base ≤ 16) (hn : n < limit) :
    read? base limit (Nat.toDigits base n) = some n :=
  read?_of_figures (isFigure_toDigits hb hb') Nat.toDigits_ne_nil (digits?_toDigits hb hb' n) hn

/-- The first digit of a number is no zero. -/
theorem head?_toDigits {base n : Nat} (hb : 1 < base) (hb' : base ≤ 16) (hn : 0 < n) :
    (Nat.toDigits base n).head? ≠ some '0' := by
  induction n using Nat.strong_induction_on with
  | _ n ih =>
    rw [Nat.toDigits_eq_if hb]
    split
    · next h =>
      have hn' : n < 16 := by omega
      clear ih h
      interval_cases n <;> decide
    · next h =>
      rw [List.head?_append_of_ne_nil _ Nat.toDigits_ne_nil]
      exact ih _ (Nat.div_lt_self (by omega) hb) (Nat.div_pos (by omega) (by omega))

/-! ### Bytes -/

theorem isFigure_hexByte (b : UInt8) : ∀ c ∈ hexByte b, IsFigure c := by
  intro c hc
  rcases List.mem_append.mp hc with hc | hc
  · exact ⟨0, by decide, (List.mem_replicate.mp hc).2⟩
  · exact isFigure_toDigits (by decide) (by decide) c hc

theorem length_hexByte (b : UInt8) : (hexByte b).length = 2 := by
  have : (hex b.toNat).length ≤ 2 :=
    (Nat.length_toDigits_le_iff (by decide) (by decide)).mpr b.toNat_lt
  simp [hexByte, List.leftpad]
  omega

/-- Zeros in front do not change the value of a numeral. -/
theorem digits?_zeros (base k : Nat) (hb : 0 < base) (hb' : base ≤ 16) (cs : List Char) :
    digits? base 0 (List.replicate k '0' ++ cs) = digits? base 0 cs := by
  induction k with
  | zero => rfl
  | succ k ih =>
    have : digit? base '0' = some 0 := digit?_digitChar hb' hb
    simp [List.replicate_succ, digits?, this, ih]

theorem hex8?_hexByte (b : UInt8) : hex8? (hexByte b) = some b.toNat := by
  refine read?_of_figures (isFigure_hexByte b) ?_ ?_ b.toNat_lt
  · exact List.ne_nil_of_length_pos (by rw [length_hexByte]; decide)
  · exact (digits?_zeros 16 _ (by decide) (by decide) _).trans
      (digits?_toDigits (by decide) (by decide) _)

/-! ### What is read -/

/-- The digit of this value in a base; letters are of either case. -/
def IsDigit (base : Nat) (c : Char) (d : Nat) : Prop :=
  d < base ∧ (c = Nat.digitChar d ∨ c = (Nat.digitChar d).toUpper)

/-- The text is a numeral of this value, which is below the limit: a plus sign or none, and then one
digit or more, those of higher places first. -/
def Denotes (base limit : Nat) (text : List Char) (n : Nat) : Prop :=
  ∃ digits values, (text = digits ∨ text = '+' :: digits) ∧ digits ≠ [] ∧
    List.Forall₂ (IsDigit base) digits values ∧ Nat.ofDigits base values.reverse = n ∧ n < limit

theorem toNat_of_digit? {base d : Nat} {c : Char} (hb : base ≤ 16) (h : digit? base c = some d) :
    d < base ∧ (c.toNat = 48 + d ∧ d < 10 ∨ 10 ≤ d ∧ (c.toNat = 87 + d ∨ c.toNat = 55 + d)) := by
  have hle : ∀ {a b : Char}, a ≤ b → a.toNat ≤ b.toNat := fun h => h
  simp only [digit?, Option.ite_none_right_eq_some, Option.some.injEq] at h
  obtain ⟨hlt, rfl⟩ := h
  refine ⟨hlt, ?_⟩
  split_ifs at hlt ⊢ with hfigure hlower hupper
  · have hzero : 48 ≤ c.toNat := hle hfigure.1
    have hnine : c.toNat ≤ 57 := hle hfigure.2
    exact .inl ⟨(Nat.add_sub_cancel' hzero).symm, Nat.lt_succ_of_le (Nat.sub_le_sub_right hnine 48)⟩
  · have ha : 97 ≤ c.toNat := hle hlower.1
    have hcode : 'a'.toNat = 97 := rfl
    omega
  · have ha : 65 ≤ c.toNat := hle hupper.1
    have hcode : 'A'.toNat = 65 := rfl
    omega
  · exact absurd hlt (Nat.lt_irrefl _)

theorem digit?_eq_some_iff {base : Nat} (hb : base ≤ 16) (c : Char) (d : Nat) :
    digit? base c = some d ↔ IsDigit base c d := by
  constructor
  · intro h
    obtain ⟨hd, hcode⟩ := toNat_of_digit? hb h
    have hd' : d < 16 := Nat.lt_of_lt_of_le hd hb
    refine ⟨hd, ?_⟩
    rw [← Char.ofNat_toNat c]
    rcases hcode with ⟨hcode, hfigure⟩ | ⟨hletter, hcode | hcode⟩
    all_goals rw [hcode]
    · left; clear h hd; interval_cases d <;> rfl
    · left; clear h hd; interval_cases d <;> rfl
    · right; clear h hd; interval_cases d <;> rfl
  · rintro ⟨hd, h⟩
    have hd' : d < 16 := Nat.lt_of_lt_of_le hd hb
    rcases h with rfl | rfl
    · exact digit?_digitChar hb hd
    · interval_cases d <;> simp [digit?, Nat.digitChar, hd]

/-- The digits that follow digits worth `acc` move these to higher places. -/
theorem digits?_eq_some_iff {base : Nat} (hb : base ≤ 16) (acc n : Nat) (cs : List Char) :
    digits? base acc cs = some n ↔ ∃ values, List.Forall₂ (IsDigit base) cs values ∧
      acc * base ^ cs.length + Nat.ofDigits base values.reverse = n := by
  induction cs generalizing acc with
  | nil => simp [digits?]
  | cons c cs ih =>
    have hplace : ∀ {values : List Nat} (d : Nat), List.Forall₂ (IsDigit base) cs values →
        acc * base ^ (c :: cs).length + Nat.ofDigits base (d :: values).reverse
          = (acc * base + d) * base ^ cs.length + Nat.ofDigits base values.reverse := by
      intro values d hvalues
      rw [Nat.ofDigits_reverse_cons, ← hvalues.length_eq, List.length_cons]
      ring
    rw [digits?]
    constructor
    · intro h
      split at h
      · next d hd =>
        obtain ⟨values, hvalues, rfl⟩ := (ih _).mp h
        exact ⟨d :: values, .cons ((digit?_eq_some_iff hb c d).mp hd) hvalues, hplace d hvalues⟩
      · cases h
    · rintro ⟨_, hdigits, rfl⟩
      cases hdigits with
      | @cons _ d _ values hc hvalues =>
      rw [(digit?_eq_some_iff hb c d).mpr hc]
      exact (ih _).mpr ⟨values, hvalues, (hplace d hvalues).symm⟩

theorem unsigned_cases (cs : List Char) : cs = unsigned cs ∨ cs = '+' :: unsigned cs := by
  unfold unsigned
  split
  · exact .inr rfl
  · exact .inl rfl

theorem toNat_lt_of_isAlphanum {c : Char} (h : c.isAlphanum = true) : c.toNat < 128 := by
  have hle : ∀ {a b : Char}, a.val ≤ b.val → a.toNat ≤ b.toNat := fun h => h
  have hkind : (c.isUpper || c.isLower || c.isDigit) = true := h
  rw [Bool.or_eq_true, Bool.or_eq_true] at hkind
  rcases hkind with (hupper | hlower) | hdigit
  · have hlast : c.val ≤ 'Z'.val := (of_decide_eq_true hupper).2
    exact Nat.lt_of_le_of_lt (hle hlast) (by decide)
  · have hlast : c.val ≤ 'z'.val := of_decide_eq_true (Bool.and_eq_true_iff.mp hlower).2
    exact Nat.lt_of_le_of_lt (hle hlast) (by decide)
  · have hlast : c.val ≤ '9'.val := of_decide_eq_true (Bool.and_eq_true_iff.mp hdigit).2
    exact Nat.lt_of_le_of_lt (hle hlast) (by decide)

/-- No sign, separator or other mark is a digit. -/
theorem IsDigit.isAlphanum {base d : Nat} {c : Char} (h : IsDigit base c d) (hb : base ≤ 16) :
    c.isAlphanum = true := by
  obtain ⟨hd, hc⟩ := h
  have hd' : d < 16 := Nat.lt_of_lt_of_le hd hb
  rcases hc with rfl | rfl
  all_goals
    clear hd
    interval_cases d <;> decide

theorem Denotes.lt {base limit n : Nat} {text : List Char} (h : Denotes base limit text n) :
    n < limit := by
  obtain ⟨_, _, -, -, -, -, h⟩ := h
  exact h

theorem Denotes.plus_or_alphanum {base limit n : Nat} {text : List Char}
    (h : Denotes base limit text n)
    (hb : base ≤ 16) : ∀ c ∈ text, c = '+' ∨ c.isAlphanum = true := by
  obtain ⟨digits, values, htext, -, hvalues, -, -⟩ := h
  have hdigits : ∀ c ∈ digits, c.isAlphanum = true := by
    intro c hc
    obtain ⟨i, hi, rfl⟩ := List.getElem_of_mem hc
    exact (List.Forall₂.get hvalues hi (hvalues.length_eq ▸ hi)).isAlphanum hb
  rcases htext with rfl | rfl
  · exact fun c hc => .inr (hdigits c hc)
  · intro c hc
    exact (List.mem_cons.mp hc).imp_right (hdigits c)

theorem Denotes.ascii {base limit n : Nat} {text : List Char} (h : Denotes base limit text n)
    (hb : base ≤ 16) : ∀ c ∈ text, c.toNat < 128 := by
  intro c hc
  rcases h.plus_or_alphanum hb c hc with rfl | hc
  · decide
  · exact toNat_lt_of_isAlphanum hc

theorem denotes_singleton {base limit : Nat} (hb : base ≤ limit) (c : Char) (d : Nat) :
    Denotes base limit [c] d ↔ IsDigit base c d := by
  constructor
  · rintro ⟨digits, values, htext, hne, hvalues, rfl, -⟩
    obtain ⟨b, rest, rfl⟩ := List.exists_cons_of_ne_nil hne
    rcases htext with htext | htext
    · obtain ⟨rfl, rfl⟩ := List.cons.inj htext
      cases hvalues with
      | cons hc hnil =>
        cases hnil
        simpa using hc
    · cases (List.cons.inj htext).2
  · intro h
    exact ⟨[c], [d], .inl rfl, List.cons_ne_nil _ _, .cons h .nil, by simp,
      Nat.lt_of_lt_of_le h.1 hb⟩

theorem read?_eq_some_iff {base limit : Nat} (hb : base ≤ 16) (cs : List Char) (n : Nat) :
    read? base limit cs = some n ↔ Denotes base limit cs n := by
  have hread : ∀ {digits : List Char}, unsigned cs = digits → digits ≠ [] →
      (read? base limit cs = some n ↔ ∃ values, List.Forall₂ (IsDigit base) digits values ∧
        Nat.ofDigits base values.reverse = n ∧ n < limit) := by
    intro digits hdigits hne
    obtain ⟨c, rest, rfl⟩ := List.exists_cons_of_ne_nil hne
    have hvalue := digits?_eq_some_iff hb 0 n (c :: rest)
    rw [read?, hdigits]
    dsimp only
    rw [Option.filter_eq_some_iff, hvalue]
    simp only [Nat.zero_mul, Nat.zero_add, decide_eq_true_eq]
    constructor
    · rintro ⟨⟨values, hvalues, hn⟩, hlimit⟩
      exact ⟨values, hvalues, hn, hlimit⟩
    · rintro ⟨values, hvalues, hn, hlimit⟩
      exact ⟨⟨values, hvalues, hn⟩, hlimit⟩
  constructor
  · intro h
    have hne : unsigned cs ≠ [] := by
      intro hnil
      rw [read?, hnil] at h
      cases h
    obtain ⟨values, hvalues, hn⟩ := (hread rfl hne).mp h
    exact ⟨unsigned cs, values, unsigned_cases cs, hne, hvalues, hn⟩
  · rintro ⟨digits, values, hcs, hne, hvalues, hn⟩
    refine (hread ?_ hne).mpr ⟨values, hvalues, hn⟩
    rcases hcs with rfl | rfl
    · -- A plus sign is no digit.
      cases hvalues with
      | nil => rfl
      | cons hc =>
        rw [unsigned]
        rintro rest heq
        obtain ⟨rfl, -⟩ := List.cons.inj heq
        exact absurd (hc.isAlphanum hb) (by decide)
    · rfl

theorem decimal32?_eq_some_iff (cs : List Char) (n : Nat) :
    decimal32? cs = some n ↔ Denotes 10 UInt32.size cs n :=
  read?_eq_some_iff (by decide) cs n

end Fieldbus.Numeral
