import ImportSurvey.Proofs.JsonSteps
import ImportSurvey.Proofs.JsonStrings

namespace ImportSurvey.JsonValue

open JsonComments (StringItem stringText)

/-- The first text is the second one with more ends of lines, none of them in a string or a word. -/
inductive Spaced : List Char → List Char → Prop
  | nil : Spaced [] []
  | newline {s t : List Char} : Spaced s t → Spaced ('\n' :: s) t
  | string (items : List StringItem) {s t : List Char} : Spaced s t →
      Spaced ('"' :: (stringText items ++ '"' :: s)) ('"' :: (stringText items ++ '"' :: t))
  | char {c : Char} {s t : List Char} : c ≠ '"' → (inWord c → (startsWord s ↔ startsWord t)) →
      Spaced s t → Spaced (c :: s) (c :: t)

/-- Texts that differ like this, but not in front of the first token. -/
inductive Begun : List Char → List Char → Prop
  | nil : Begun [] []
  | string (items : List StringItem) {s t : List Char} : Spaced s t →
      Begun ('"' :: (stringText items ++ '"' :: s)) ('"' :: (stringText items ++ '"' :: t))
  | char {c : Char} {s t : List Char} : c ≠ '"' → (inWord c → (startsWord s ↔ startsWord t)) →
      Spaced s t → Begun (c :: s) (c :: t)

variable {s t : List Char}

theorem Begun.spaced (h : Begun s t) : Spaced s t := by
  cases h with
  | nil => exact .nil
  | string items hrest => exact .string items hrest
  | char hquote hword hrest => exact .char hquote hword hrest

theorem Begun.rest {c : Char} (h : Begun (c :: s) (c :: t)) (hquote : c ≠ '"') : Spaced s t := by
  cases h with
  | string _ _ => exact absurd rfl hquote
  | char _ _ hrest => exact hrest

theorem Spaced.begun (h : Spaced s t) : Begun (skipBlanks s) (skipBlanks t) := by
  induction h with
  | nil => exact .nil
  | newline _ ih => exact ih
  | string items hrest _ => exact .string items hrest
  | @char c s t hquote hword hrest ih =>
    by_cases hc : isBlank c
    · simpa only [skipBlanks, List.dropWhile_cons_of_pos hc] using ih
    · simp only [skipBlanks, List.dropWhile_cons_of_neg hc]
      exact .char hquote hword hrest

/-- A word at the front is the same in both texts, and so is what follows it. -/
theorem Spaced.exists_word (h : Spaced s t) (hsame : startsWord s ↔ startsWord t) :
    ∃ word s' t', s = word ++ s' ∧ t = word ++ t' ∧ ¬startsWord s' ∧ ¬startsWord t' ∧
      ∀ left, left <:+ word → Spaced (left ++ s') (left ++ t') := by
  have hnone : ∀ {s t}, Spaced s t → ∀ left, left <:+ [] → Spaced (left ++ s) (left ++ t) := by
    intro s t h left hleft
    rw [List.suffix_nil.mp hleft]
    exact h
  induction h with
  | nil => exact ⟨[], [], [], rfl, rfl, by simp [startsWord], by simp [startsWord], hnone .nil⟩
  | @newline s t h _ =>
    have hs : ¬startsWord ('\n' :: s) := by simp [startsWord, inWord, isBlank]
    exact ⟨[], _, _, rfl, rfl, hs, fun ht => hs (hsame.mpr ht), hnone h.newline⟩
  | string items h _ =>
    have hquote : ∀ text, ¬startsWord ('"' :: text) := by simp [startsWord, inWord]
    exact ⟨[], _, _, rfl, rfl, hquote _, hquote _, hnone (.string items h)⟩
  | @char c s t hquote hword h ih =>
    by_cases hc : inWord c
    · obtain ⟨word, s', t', rfl, rfl, hs, ht, hleft⟩ := ih (hword hc)
      refine ⟨c :: word, s', t', rfl, rfl, hs, ht, fun left hsuffix => ?_⟩
      rcases List.suffix_cons_iff.mp hsuffix with rfl | hsuffix
      · exact .char hquote hword (hleft word List.suffix_rfl)
      · exact hleft left hsuffix
    · have hfront : ∀ text, ¬startsWord (c :: text) := by simp [startsWord, hc]
      exact ⟨[], _, _, rfl, rfl, hfront _, hfront _, hnone (.char hquote hword h)⟩

variable {α β : Type} {m n : Nat}

/-- Two ways to read fail both, or find the same and leave texts of limited lengths that differ in
ends of lines only. -/
inductive Alike (m n : Nat) : Option (α × List Char) → Option (α × List Char) → Prop
  | none : Alike m n none none
  | some (v : α) {s t : List Char} : Spaced s t → s.length ≤ m → t.length ≤ n →
      Alike m n (some (v, s)) (some (v, t))

variable {a b : Option (α × List Char)}

theorem Alike.mono {k l : Nat} (h : Alike m n a b) (hm : m ≤ k) (hn : n ≤ l) : Alike k l a b := by
  cases h with
  | none => exact .none
  | some v h hs ht => exact .some v h (hs.trans hm) (ht.trans hn)

theorem Alike.bind {f g : α × List Char → Option (β × List Char)} (h : Alike m n a b)
    (hnext : ∀ v s t, Spaced s t → s.length ≤ m → t.length ≤ n → Alike m n (f (v, s)) (g (v, t))) :
    Alike m n (a.bind f) (b.bind g) := by
  cases h with
  | none => exact .none
  | some v h hs ht => exact hnext v _ _ h hs ht

theorem Alike.map (h : Alike m n a b) (f : α → β) :
    Alike m n (a.map fun (v, r) => (f v, r)) (b.map fun (v, r) => (f v, r)) := by
  cases h with
  | none => exact .none
  | some v h hs ht => exact .some (f v) h hs ht

theorem alike_of_staysIn {read : List Char → Option (α × List Char)}
    (hread : ∀ word, StaysIn word read) (h : Spaced s t) (hsame : startsWord s ↔ startsWord t) :
    Alike s.length t.length (read s) (read t) := by
  obtain ⟨word, s', t', rfl, rfl, hs, ht, hleft⟩ := h.exists_word hsame
  rcases hread word with hnone | ⟨v, left, hsuffix, hsome⟩
  · rw [hnone s' hs, hnone t' ht]
    exact .none
  · rw [hsome s' hs, hsome t' ht]
    have hlen := hsuffix.length_le
    simp only [List.length_append]
    refine .some v (hleft left hsuffix) ?_ ?_
    · rw [List.length_append]
      omega
    · rw [List.length_append]
      omega

theorem readString?_alike (h : Begun ('"' :: s) ('"' :: t)) :
    Alike s.length t.length (readString? s) (readString? t) := by
  cases h with
  | char hquote _ _ => exact absurd rfl hquote
  | @string items s t hrest =>
    obtain ⟨outcome, hread⟩ := readString?_stringText items
    rw [hread s, hread t]
    cases outcome with
    | none => exact .none
    | some text =>
      have hlen : ∀ r : List Char, r.length ≤ (stringText items ++ '"' :: r).length := by
        intro r
        simp only [List.length_append, List.length_cons]
        omega
      exact .some text hrest (hlen s) (hlen t)

/-- Both texts go on with the same character, if they go on. -/
theorem atNext_alike {atEnd atEnd' : Option (α × List Char)}
    {goOn goOn' : Char → List Char → Option (α × List Char)} (h : Spaced s t)
    (hend : Alike s.length t.length atEnd atEnd')
    (hgoOn : ∀ c s' t', Begun (c :: s') (c :: t') → s'.length < s.length → t'.length < t.length →
      Alike s.length t.length (goOn c s') (goOn' c t')) :
    Alike s.length t.length (atNext atEnd goOn s) (atNext atEnd' goOn' t) := by
  have hs : (skipBlanks s).length ≤ s.length := (List.dropWhile_suffix isBlank).length_le
  have ht : (skipBlanks t).length ≤ t.length := (List.dropWhile_suffix isBlank).length_le
  have hbegun := h.begun
  rw [atNext, atNext]
  generalize skipBlanks s = front at *
  generalize skipBlanks t = other at *
  cases hbegun with
  | nil => exact hend
  | string items hrest => exact hgoOn _ _ _ (.string items hrest) hs ht
  | char hquote hword hrest => exact hgoOn _ _ _ (.char hquote hword hrest) hs ht

/-- With enough steps a reader finds the same in texts that differ in ends of lines only. The steps
need not be equally many: two for each character are enough. -/
def ReadsAlike (extra : Nat) (read : Nat → List Char → Option (α × List Char)) (n : Nat) : Prop :=
  ∀ m s t, Spaced s t → 2 * s.length + extra ≤ n → 2 * t.length + extra ≤ m →
    Alike s.length t.length (read n s) (read m t)

theorem readInside_alike {close : Char} (hclose : close ≠ '"')
    {read : Nat → List Char → Option (List α × List Char)} (hread : ReadsAlike 2 read n)
    (h : Spaced s t) (hs : 2 * s.length + 2 ≤ n) (ht : 2 * t.length + 2 ≤ m) :
    Alike s.length t.length (readInside close (read n) s) (readInside close (read m) t) := by
  have hpart : ∀ s' t', Spaced s' t' → s'.length ≤ s.length → t'.length ≤ t.length →
      Alike s.length t.length (read n s') (read m t') := by
    intro s' t' h' hs' ht'
    exact (hread m s' t' h' (by omega) (by omega)).mono hs' ht'
  refine atNext_alike h (hpart [] [] .nil (Nat.zero_le _) (Nat.zero_le _)) ?_
  intro c s' t' hbegun hs' ht'
  by_cases hc : c = close
  · rw [if_pos hc, if_pos hc]
    exact .some [] (hbegun.rest (hc ▸ hclose)) hs'.le ht'.le
  · rw [if_neg hc, if_neg hc]
    exact hpart _ _ hbegun.spaced hs' ht'

theorem readOn_alike {close : Char} (hclose : close ≠ '"') (item : α)
    {read : Nat → List Char → Option (List α × List Char)} (hread : ReadsAlike 2 read n)
    (h : Spaced s t) (hs : 2 * s.length ≤ n) (ht : 2 * t.length ≤ m) :
    Alike s.length t.length (readOn close item (read n) s) (readOn close item (read m) t) := by
  refine atNext_alike h .none fun c s' t' hbegun hs' ht' => ?_
  by_cases hcomma : c = ','
  · rw [if_pos hcomma, if_pos hcomma]
    subst hcomma
    have hmore := hread m s' t' (hbegun.rest (by decide)) (by omega) (by omega)
    exact (hmore.mono hs'.le ht'.le).map (item :: ·)
  · rw [if_neg hcomma, if_neg hcomma]
    by_cases hc : c = close
    · rw [if_pos hc, if_pos hc]
      exact .some [item] (hbegun.rest (hc ▸ hclose)) hs'.le ht'.le
    · rw [if_neg hc, if_neg hc]
      exact .none

theorem readValue?_alike (hitems : ReadsAlike 2 readItems? n)
    (hfields : ReadsAlike 2 readFields? n) : ReadsAlike 1 readValue? (n + 1) := by
  intro m s t h hn hm
  obtain ⟨m, rfl⟩ := Nat.exists_eq_succ_of_ne_zero (by omega : m ≠ 0)
  rw [readValue?_succ, readValue?_succ]
  refine atNext_alike h .none fun c s' t' hbegun hs ht => ?_
  by_cases hquote : c = '"'
  · subst hquote
    exact ((readString?_alike hbegun).mono hs.le ht.le).map _
  rw [if_neg hquote, if_neg hquote]
  by_cases harray : c = '['
  · rw [if_pos harray, if_pos harray]
    have hinside : Alike s'.length t'.length (readInside ']' (readItems? n) s')
        (readInside ']' (readItems? m) t') :=
      readInside_alike (by decide) hitems (hbegun.rest hquote) (by omega) (by omega)
    exact (hinside.mono hs.le ht.le).map JsonValue.array
  rw [if_neg harray, if_neg harray]
  by_cases hobject : c = '{'
  · rw [if_pos hobject, if_pos hobject]
    have hinside : Alike s'.length t'.length (readInside '}' (readFields? n) s')
        (readInside '}' (readFields? m) t') :=
      readInside_alike (by decide) hfields (hbegun.rest hquote) (by omega) (by omega)
    exact (hinside.mono hs.le ht.le).map JsonValue.object
  rw [if_neg hobject, if_neg hobject]
  exact (alike_of_staysIn readWord?_staysIn hbegun.spaced Iff.rfl).mono hs ht

theorem readItems?_alike (hvalue : ReadsAlike 1 readValue? n) (hitems : ReadsAlike 2 readItems? n) :
    ReadsAlike 2 readItems? (n + 1) := by
  intro m s t h hn hm
  obtain ⟨m, rfl⟩ := Nat.exists_eq_succ_of_ne_zero (by omega : m ≠ 0)
  rw [readItems?_succ, readItems?_succ]
  refine (hvalue m s t h (by omega) (by omega)).bind fun v s' t' h' hs ht => ?_
  have hon := readOn_alike (by decide : ']' ≠ '"') v hitems h' (by omega) (by omega : _ ≤ m)
  exact hon.mono hs ht

theorem readFields?_alike (hvalue : ReadsAlike 1 readValue? n)
    (hfields : ReadsAlike 2 readFields? n) : ReadsAlike 2 readFields? (n + 1) := by
  intro m s t h hn hm
  obtain ⟨m, rfl⟩ := Nat.exists_eq_succ_of_ne_zero (by omega : m ≠ 0)
  rw [readFields?_succ, readFields?_succ]
  refine atNext_alike h .none fun c s₁ t₁ hbegun hs₁ ht₁ => ?_
  by_cases hquote : c = '"'
  · subst hquote
    rw [if_pos rfl, if_pos rfl]
    refine ((readString?_alike hbegun).mono hs₁.le ht₁.le).bind fun name s₂ t₂ h₂ hs₂ ht₂ => ?_
    refine Alike.mono (atNext_alike h₂ .none fun c s₃ t₃ hbegun hs₃ ht₃ => ?_) hs₂ ht₂
    by_cases hcolon : c = ':'
    · subst hcolon
      rw [if_pos rfl, if_pos rfl]
      have hread := hvalue m s₃ t₃ (hbegun.rest (by decide)) (by omega) (by omega)
      refine (hread.mono hs₃.le ht₃.le).bind fun v s₄ t₄ h₄ hs₄ ht₄ => ?_
      have hon := readOn_alike (by decide : '}' ≠ '"') (name, v) hfields h₄ (by omega)
        (by omega : _ ≤ m)
      exact hon.mono hs₄ ht₄
    · rw [if_neg hcolon, if_neg hcolon]
      exact .none
  · rw [if_neg hquote, if_neg hquote]
    exact .none

theorem readers_alike (n : Nat) : ReadsAlike 1 readValue? n ∧ ReadsAlike 2 readItems? n ∧
    ReadsAlike 2 readFields? n := by
  induction n with
  | zero =>
    refine ⟨?_, ?_, ?_⟩
    all_goals
      intro m s t _ hn _
      omega
  | succ n ih =>
    obtain ⟨hvalue, hitems, hfields⟩ := ih
    exact ⟨readValue?_alike hitems hfields, readItems?_alike hvalue hitems,
      readFields?_alike hvalue hfields⟩

/-- Ends of lines between tokens make no difference, be the text valid or not. -/
theorem ofJsonText?_eq_of_spaced (h : Spaced s t) :
    ofJsonText? (String.ofList s) = ofJsonText? (String.ofList t) := by
  simp only [ofJsonText?, String.toList_ofList]
  have hread := (readers_alike (2 * s.length + 2)).1 (2 * t.length + 2) s t h (by omega) (by omega)
  generalize readValue? (2 * s.length + 2) s = found at *
  generalize readValue? (2 * t.length + 2) t = other at *
  cases hread with
  | none => rfl
  | @some v s' t' h' _ _ =>
    have hend : (skipBlanks s').isEmpty = (skipBlanks t').isEmpty := by
      have hbegun := h'.begun
      generalize skipBlanks s' = front at *
      generalize skipBlanks t' = behind at *
      cases hbegun <;> rfl
    simp only [hend]

end ImportSurvey.JsonValue
