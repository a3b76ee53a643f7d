import Fieldbus.Text.Utf8
import Fieldbus.Text.Words
import Fieldbus.Proofs.Text.Numeral

/-! ASCII text.  Its characters are its bytes (`decode?_ascii`), and words with blanks between them
are found again (`words_flatMap`). -/

namespace Fieldbus

namespace Utf8

theorem allSome_map_some {α : Type} (l : List α) : allSome (l.map some) = some l := by
  induction l with
  | nil => rfl
  | cons a l ih => simp [allSome, ih]

theorem lead_ascii {c : Char} (h : c.toNat < 128) : lead c.toNat.toUInt8 = .char c := by
  have hn : c.toNat.toUInt8.toNat = c.toNat := by
    rw [UInt8.toNat_ofNat']
    omega
  have hlt : c.toNat.toUInt8 < 0x80 := UInt8.lt_iff_toNat_lt.mpr (by rw [hn]; exact h)
  rw [lead, if_pos hlt, hn, Char.ofNat_toNat]

theorem decode?_ascii {cs : List Char} (h : ∀ c ∈ cs, c.toNat < 128) :
    decode? (cs.map fun c => c.toNat.toUInt8) = some cs := by
  have hscan : scan none (cs.map fun c => c.toNat.toUInt8) = cs.map some := by
    induction cs with
    | nil => rfl
    | cons c cs ih =>
      rw [List.forall_mem_cons] at h
      simp [scan, lead_ascii h.1, ih h.2]
  rw [decode?, hscan, allSome_map_some]

end Utf8

namespace Text

/-- A character of a word of ASCII text. -/
def IsPlain (c : Char) : Prop := c.toNat < 128 ∧ isBlank c = false

instance (c : Char) : Decidable (IsPlain c) := inferInstanceAs (Decidable (_ ∧ _))

/-- A word of ASCII text. -/
def IsWord (w : List Char) : Prop := w ≠ [] ∧ ∀ c ∈ w, IsPlain c

instance (w : List Char) : Decidable (IsWord w) :=
  have : Decidable (∀ c ∈ w, IsPlain c) := List.decidableBAll _ w
  inferInstanceAs (Decidable (_ ∧ _))

theorem isWord_of_figures {cs : List Char} (hne : cs ≠ []) (h : ∀ c ∈ cs, Numeral.IsFigure c) :
    IsWord cs := by
  refine ⟨hne, fun c hc => ?_⟩
  obtain ⟨d, hd, rfl⟩ := h c hc
  interval_cases d <;> decide

theorem wordsFrom_append {w : List Char} (h : ∀ c ∈ w, isBlank c = false) (word rest : List Char) :
    wordsFrom word (w ++ rest) = wordsFrom (word ++ w) rest := by
  induction w generalizing word with
  | nil => simp
  | cons c w ih =>
    rw [List.forall_mem_cons] at h
    rw [List.cons_append, wordsFrom, if_neg (by simp [h.1]), ih h.2]
    simp

/-- Words, each but the first behind a blank, are found again. -/
theorem words_flatMap {w : List Char} {ws : List (List Char)} (h : ∀ v ∈ w :: ws, IsWord v) :
    words (w ++ ws.flatMap (' ' :: ·)) = w :: ws := by
  induction ws generalizing w with
  | nil =>
    obtain ⟨hne, hplain⟩ := h w List.mem_cons_self
    rw [words, wordsFrom_append fun c hc => (hplain c hc).2]
    simp [wordsFrom, hne]
  | cons v ws ih =>
    rw [List.forall_mem_cons] at h
    obtain ⟨⟨hne, hplain⟩, hrest⟩ := h
    rw [words, wordsFrom_append fun c hc => (hplain c hc).2, List.flatMap_cons, List.cons_append,
      wordsFrom, if_pos (by decide), if_neg (by simp [hne])]
    exact congrArg (w :: ·) (ih hrest)

theorem intercalate_blank (w : List Char) (ws : List (List Char)) :
    [' '].intercalate (w :: ws) = w ++ ws.flatMap (' ' :: ·) := by
  induction ws generalizing w with
  | nil => simp
  | cons v ws ih =>
    rw [List.intercalate_cons_cons, ih, List.flatMap_cons]
    simp

theorem words_intercalate {ws : List (List Char)} (h : ∀ w ∈ ws, IsWord w) :
    words ([' '].intercalate ws) = ws := by
  cases ws with
  | nil => rfl
  | cons w ws => rw [intercalate_blank, words_flatMap h]

end Text
end Fieldbus
