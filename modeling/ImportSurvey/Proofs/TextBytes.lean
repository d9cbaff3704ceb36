import Mathlib.Data.List.Lex
import ImportSurvey.Catalog

namespace ImportSurvey.Text

/-- The bytes of a text in UTF-8. -/
def bytes (text : String) : List UInt8 := text.toList.flatMap String.utf8EncodeChar

theorem cons_lt_cons_byte {a b : Nat} {front back : List UInt8} (ha : a < 256) (hb : b < 256) :
    UInt8.ofNat a :: front < UInt8.ofNat b :: back ↔ a < b ∨ a = b ∧ front < back := by
  rw [List.cons_lt_cons_iff, UInt8.lt_iff_toNat_lt, ← UInt8.toNat_inj, UInt8.toNat_ofNat',
    UInt8.toNat_ofNat', Nat.mod_eq_of_lt ha, Nat.mod_eq_of_lt hb]

/-- Of two characters the smaller one has the smaller bytes, whatever comes behind: the first byte
grows with the number of bytes, and the others are the digits of the code in base 64. -/
theorem utf8EncodeChar_append_lt {c d : Char} (h : c < d) (front back : List UInt8) :
    String.utf8EncodeChar c ++ front < String.utf8EncodeChar d ++ back := by
  have hlt : c.val.toNat < d.val.toNat := h
  have hmax : d.val.toNat < 0x110000 := by
    rcases d.valid with h | h
    · omega
    · exact h.2
  simp only [String.utf8EncodeChar]
  generalize c.val.toNat = n at *
  generalize d.val.toNat = m at *
  have hn : n ≤ 127 ∨ (¬n ≤ 127 ∧ n ≤ 2047) ∨ (¬n ≤ 127 ∧ ¬n ≤ 2047 ∧ n ≤ 65535) ∨
      (¬n ≤ 127 ∧ ¬n ≤ 2047 ∧ ¬n ≤ 65535) := by omega
  have hm : m ≤ 127 ∨ (¬m ≤ 127 ∧ m ≤ 2047) ∨ (¬m ≤ 127 ∧ ¬m ≤ 2047 ∧ m ≤ 65535) ∨
      (¬m ≤ 127 ∧ ¬m ≤ 2047 ∧ ¬m ≤ 65535) := by omega
  have hdigits : ∀ k, k / 4096 = k / 64 / 64 ∧ k / 262144 = k / 64 / 64 / 64 := fun k => by omega
  rcases hn with hn | hn | hn | hn <;> rcases hm with hm | hm | hm | hm
  all_goals try omega
  all_goals
    simp only [hn, hm, if_true, if_false, List.cons_append, List.nil_append, hdigits]
    simp (disch := omega) only [cons_lt_cons_byte]
    omega

theorem flatMap_utf8EncodeChar_lt {text other : List Char} (h : text < other) :
    text.flatMap String.utf8EncodeChar < other.flatMap String.utf8EncodeChar := by
  induction text generalizing other with
  | nil =>
    cases other with
    | nil => exact absurd h (List.lt_irrefl [])
    | cons c rest =>
      obtain ⟨first, more, hbytes⟩ :=
        List.exists_cons_of_ne_nil (String.utf8EncodeChar_ne_nil (c := c))
      rw [List.flatMap_cons, hbytes]
      exact List.nil_lt_cons _ _
  | cons c rest ih =>
    cases other with
    | nil => exact absurd h (List.not_lt_nil _)
    | cons d more =>
      rw [List.flatMap_cons, List.flatMap_cons]
      rcases List.cons_lt_cons_iff.mp h with hlt | ⟨rfl, hrest⟩
      · exact utf8EncodeChar_append_lt hlt _ _
      · exact List.append_left_lt (ih hrest)

theorem bytes_lt_bytes_iff {text other : String} : bytes text < bytes other ↔ text < other := by
  have hmono : ∀ {a b : String}, a < b → bytes a < bytes b := fun h =>
    flatMap_utf8EncodeChar_lt (String.lt_iff.mp h)
  refine ⟨fun h => ?_, hmono⟩
  by_contra hnot
  by_cases heq : text = other
  · rw [heq] at h
    exact List.lt_irrefl _ h
  · exact List.lt_asymm h (hmono (Catalog.lt_of_not_lt_of_ne hnot heq))

theorem bytes_injective {text other : String} (h : bytes text = bytes other) : text = other := by
  by_contra hne
  have hsame : ∀ {a b : String}, a < b → bytes a ≠ bytes b := fun hlt heq =>
    List.lt_irrefl _ (heq ▸ bytes_lt_bytes_iff.mpr hlt)
  by_cases hlt : text < other
  · exact hsame hlt h
  · exact hsame (Catalog.lt_of_not_lt_of_ne hlt hne) h.symm

/-- Comparing names one by one is comparing their bytes name by name. -/
theorem map_bytes_lt_iff {names others : List String} :
    names.map bytes < others.map bytes ↔ names < others := by
  induction names generalizing others with
  | nil => cases others <;> simp
  | cons name rest ih =>
    cases others with
    | nil => simp
    | cons other more =>
      have heq : bytes name = bytes other ↔ name = other := ⟨bytes_injective, congrArg bytes⟩
      rw [List.map_cons, List.map_cons, List.cons_lt_cons_iff, List.cons_lt_cons_iff,
        bytes_lt_bytes_iff, heq, ih]

end ImportSurvey.Text
