import Mathlib.Data.List.Infix
import ImportSurvey.Json.Reader

namespace ImportSurvey.JsonValue

/-- A character of a word, which is a number or a name: neither blank nor a quote nor a mark. -/
def inWord (c : Char) : Bool := !(isBlank c || ['{', '}', '[', ']', ',', ':', '"'].contains c)

def startsWord (text : List Char) : Bool := text.head?.any inWord

/-- Reading a text that starts with a word takes a part of the word at its front, if it succeeds,
and what follows the word makes no difference. -/
def StaysIn {α : Type} (word : List Char) (read : List Char → Option (α × List Char)) : Prop :=
  (∀ rest, ¬startsWord rest → read (word ++ rest) = none) ∨
    ∃ v left, left <:+ word ∧
      ∀ rest, ¬startsWord rest → read (word ++ rest) = some (v, left ++ rest)

variable {α β : Type} {read : List Char → Option (α × List Char)} {word : List Char}

theorem staysIn_some (v : α) (word : List Char) : StaysIn word fun text => some (v, text) :=
  .inr ⟨v, word, List.suffix_rfl, fun _ _ => rfl⟩

theorem StaysIn.congr {other : List Char → Option (α × List Char)} (h : StaysIn word read)
    (heq : ∀ rest, ¬startsWord rest → other (word ++ rest) = read (word ++ rest)) :
    StaysIn word other := by
  rcases h with hnone | ⟨v, left, hleft, hsome⟩
  · exact .inl fun rest hrest => (heq rest hrest).trans (hnone rest hrest)
  · exact .inr ⟨v, left, hleft, fun rest hrest => (heq rest hrest).trans (hsome rest hrest)⟩

theorem StaysIn.cons {c : Char} (h : StaysIn word fun text => read (c :: text)) :
    StaysIn (c :: word) read := by
  rcases h with hnone | ⟨v, left, hleft, hsome⟩
  · exact .inl hnone
  · exact .inr ⟨v, left, hleft.trans (List.suffix_cons c word), hsome⟩

theorem StaysIn.bind {next : α × List Char → Option (β × List Char)} (h : StaysIn word read)
    (hnext : ∀ v left, StaysIn left fun text => next (v, text)) :
    StaysIn word fun text => (read text).bind next := by
  rcases h with hnone | ⟨v, left, hleft, hsome⟩
  · left
    intro rest hrest
    simp only [hnone rest hrest, Option.bind_none]
  · rcases hnext v left with hnone | ⟨w, last, hlast, hlater⟩
    · left
      intro rest hrest
      simp only [hsome rest hrest, Option.bind_some, hnone rest hrest]
    · right
      refine ⟨w, last, hlast.trans hleft, fun rest hrest => ?_⟩
      simp only [hsome rest hrest, Option.bind_some, hlater rest hrest]

theorem StaysIn.map (h : StaysIn word read) (f : α → β) :
    StaysIn word fun text => (read text).map fun (v, r) => (f v, r) := by
  have hbind : StaysIn word fun text => (read text).bind fun (v, r) => some (f v, r) :=
    h.bind fun v left => staysIn_some (f v) left
  refine hbind.congr fun rest _ => ?_
  cases read (word ++ rest) <;> rfl

theorem span_append {p : Char → Bool} (hp : ∀ c, p c → inWord c) (word : List Char)
    {rest : List Char} (hrest : ¬startsWord rest) :
    (word ++ rest).takeWhile p = word.takeWhile p ∧
      (word ++ rest).dropWhile p = word.dropWhile p ++ rest := by
  induction word with
  | nil =>
    cases rest with
    | nil => simp
    | cons c rest =>
      have hc : ¬p c := fun h => hrest (hp c h)
      simp [hc]
  | cons c word ih =>
    by_cases hc : p c
    · simp [hc, ih]
    · simp [hc]

theorem inWord_of_isDigit (c : Char) (h : c.isDigit) : inWord c := by
  by_contra hnot
  have hmark : c ∈ [' ', '\t', '\n', '\r', '{', '}', '[', ']', ',', ':', '"'] := by
    simpa [inWord, isBlank, or_assoc, or_iff_not_imp_left] using hnot
  have hnone : [' ', '\t', '\n', '\r', '{', '}', '[', ']', ',', ':', '"'].all (!·.isDigit) := by
    decide
  simpa [h] using List.all_eq_true.mp hnone c hmark

theorem takeDigits?_staysIn (word : List Char) : StaysIn word takeDigits? := by
  by_cases hnone : (word.takeWhile Char.isDigit).isEmpty
  · left
    intro rest hrest
    obtain ⟨htake, _⟩ := span_append inWord_of_isDigit word hrest
    simp only [takeDigits?, htake, hnone, if_true]
  · right
    refine ⟨word.takeWhile Char.isDigit, word.dropWhile Char.isDigit, List.dropWhile_suffix _, ?_⟩
    intro rest hrest
    obtain ⟨htake, hdrop⟩ := span_append inWord_of_isDigit word hrest
    simp only [takeDigits?, htake, hdrop, hnone, Bool.false_eq_true, if_false]

/-- Takes one of some characters if it stands at the front. -/
def takeOne (marks : List Char) : List Char → List Char × List Char
  | [] => ([], [])
  | c :: rest => if c ∈ marks then ([c], rest) else ([], c :: rest)

theorem takeOne_staysIn {marks : List Char} (hmarks : marks.all inWord) (word : List Char) :
    StaysIn word fun text => some (takeOne marks text) := by
  cases word with
  | nil =>
    refine (staysIn_some [] []).congr fun rest hrest => ?_
    cases rest with
    | nil => rfl
    | cons c rest =>
      have hc : c ∉ marks := fun h => hrest (List.all_eq_true.mp hmarks c h)
      simp [takeOne, hc]
  | cons c word =>
    by_cases hc : c ∈ marks
    · refine ((staysIn_some [c] word).congr fun rest _ => ?_).cons
      simp [takeOne, hc]
    · refine (staysIn_some [] (c :: word)).congr fun rest _ => ?_
      simp [takeOne, hc]

theorem readFraction?_eq : readFraction? = fun text =>
    (some (takeOne ['.'] text)).bind fun (point, r) =>
      if point = [] then some ([], r) else (takeDigits? r).map fun (ds, r) => (point ++ ds, r) := by
  funext text
  cases text with
  | nil => rfl
  | cons c rest =>
    by_cases hc : c = '.'
    · subst hc
      rfl
    · simp [readFraction?, takeOne, hc]

theorem readExponent?_eq : readExponent? = fun text =>
    (some (takeOne ['e', 'E'] text)).bind fun (mark, r) =>
      if mark = [] then some ([], r)
      else (some (takeOne ['+', '-'] r)).bind fun (sign, r) =>
        (takeDigits? r).map fun (ds, r) => (mark ++ sign ++ ds, r) := by
  funext text
  cases text with
  | nil => rfl
  | cons c rest =>
    by_cases hc : c = 'e' ∨ c = 'E'
    · cases rest with
      | nil => simp [readExponent?, takeOne, hc]
      | cons d rest =>
        by_cases hplus : d = '+'
        · subst hplus
          simp [readExponent?, takeOne, hc]
        · by_cases hminus : d = '-'
          · subst hminus
            simp [readExponent?, takeOne, hc]
          · simp [readExponent?, takeOne, hc, hplus, hminus]
    · simp [readExponent?, takeOne, hc]

theorem readNumber?_eq : readNumber? = fun text =>
    (some (takeOne ['-'] text)).bind fun (sign, r) =>
      (takeDigits? r).bind fun (whole, r) =>
        if whole.length ≠ 1 ∧ whole.head? = some '0' then none
        else (readFraction? r).bind fun (fraction, r) =>
          (readExponent? r).bind fun (exponent, r) =>
            some (String.ofList (sign ++ whole ++ fraction ++ exponent), r) := by
  funext text
  cases text with
  | nil => rfl
  | cons c rest =>
    by_cases hc : c = '-'
    · subst hc
      rfl
    · have hsign : takeOne ['-'] (c :: rest) = ([], c :: rest) := by simp [takeOne, hc]
      rw [hsign]
      simp only [readNumber?]
      split
      next h => simp_all
      next => rfl

theorem readFraction?_staysIn (word : List Char) : StaysIn word readFraction? := by
  have hpoint : ['.'].all inWord := by decide
  rw [readFraction?_eq]
  refine (takeOne_staysIn hpoint word).bind fun point left => ?_
  by_cases hnone : point = []
  · simp only [hnone, if_true]
    exact staysIn_some [] left
  · simp only [hnone, if_false]
    exact (takeDigits?_staysIn left).map (point ++ ·)

theorem readExponent?_staysIn (word : List Char) : StaysIn word readExponent? := by
  have hmarks : ['e', 'E'].all inWord := by decide
  have hsigns : ['+', '-'].all inWord := by decide
  rw [readExponent?_eq]
  refine (takeOne_staysIn hmarks word).bind fun mark left => ?_
  by_cases hnone : mark = []
  · simp only [hnone, if_true]
    exact staysIn_some [] left
  · simp only [hnone, if_false]
    refine (takeOne_staysIn hsigns left).bind fun sign left => ?_
    exact (takeDigits?_staysIn left).map (mark ++ sign ++ ·)

theorem readNumber?_staysIn (word : List Char) : StaysIn word readNumber? := by
  have hsign : ['-'].all inWord := by decide
  rw [readNumber?_eq]
  refine (takeOne_staysIn hsign word).bind fun sign left => ?_
  refine (takeDigits?_staysIn left).bind fun whole left => ?_
  by_cases hzero : whole.length ≠ 1 ∧ whole.head? = some '0'
  · simp only [if_pos hzero]
    exact .inl fun _ _ => rfl
  · simp only [if_neg hzero]
    refine (readFraction?_staysIn left).bind fun fraction left => ?_
    dsimp only
    refine (readExponent?_staysIn left).bind fun exponent left => ?_
    exact staysIn_some (String.ofList (sign ++ whole ++ fraction ++ exponent)) left

/-- A name is found in front of a text if it is found in front of the word there. -/
theorem word?_staysIn {w : String} (hw : w.toList.all inWord) (v : JsonValue)
    (word : List Char) : StaysIn word (word? w v) := by
  have hfits : ∀ rest, ¬startsWord rest → (w.toList <+: word ++ rest ↔ w.toList <+: word) := by
    intro rest hrest
    refine ⟨fun h => ?_, fun h => h.trans (List.prefix_append word rest)⟩
    rcases List.prefix_or_prefix_of_prefix h (List.prefix_append word rest) with hfit | hlong
    · exact hfit
    · obtain ⟨more, hmore⟩ := hlong
      cases more with
      | nil => rw [← hmore, List.append_nil]
      | cons c more =>
        rw [← hmore, List.prefix_append_right_inj] at h
        obtain ⟨last, rfl⟩ := h
        exact absurd (List.all_eq_true.mp hw c (by simp [← hmore])) hrest
  by_cases hword : w.toList <+: word
  · refine .inr ⟨v, word.drop w.length, List.drop_suffix _ _, fun rest hrest => ?_⟩
    have hlen : w.length ≤ word.length := hword.length_le
    rw [word?, if_pos (by simpa [hfits rest hrest] using hword),
      List.drop_append_of_le_length hlen]
  · refine .inl fun rest hrest => ?_
    rw [word?, if_neg (by simpa [hfits rest hrest] using hword)]

/-- Reads a value that is a word. -/
def readWord? (text : List Char) : Option (JsonValue × List Char) :=
  match text with
  | 'n' :: _ => word? "null" .null text
  | 't' :: _ => word? "true" (.boolean true) text
  | 'f' :: _ => word? "false" (.boolean false) text
  | _ => (readNumber? text).map fun (s, r) => (.number s, r)

theorem readWord?_staysIn (word : List Char) : StaysIn word readWord? := by
  have hnull : "null".toList.all inWord := by decide
  have htrue : "true".toList.all inWord := by decide
  have hfalse : "false".toList.all inWord := by decide
  have hnumber := (readNumber?_staysIn word).map JsonValue.number
  cases word with
  | nil =>
    refine hnumber.congr fun rest hrest => ?_
    cases rest with
    | nil => rfl
    | cons c rest =>
      have hfirst : ∀ mark ∈ ['n', 't', 'f'], c ≠ mark := by
        have hmarks : ['n', 't', 'f'].all inWord := by decide
        rintro mark hmark rfl
        exact hrest (List.all_eq_true.mp hmarks c hmark)
      simp only [List.mem_cons, List.not_mem_nil, or_false, forall_eq_or_imp, forall_eq] at hfirst
      simp [readWord?, hfirst]
  | cons c word =>
    by_cases hn : c = 'n'
    · subst hn
      exact (word?_staysIn hnull .null ('n' :: word)).congr fun _ _ => rfl
    · by_cases ht : c = 't'
      · subst ht
        exact (word?_staysIn htrue (.boolean true) ('t' :: word)).congr fun _ _ => rfl
      · by_cases hf : c = 'f'
        · subst hf
          exact (word?_staysIn hfalse (.boolean false) ('f' :: word)).congr fun _ _ => rfl
        · exact hnumber.congr fun _ _ => by simp [readWord?, hn, ht, hf]

end ImportSurvey.JsonValue
