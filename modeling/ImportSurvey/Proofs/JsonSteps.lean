import ImportSurvey.Proofs.JsonWords

namespace ImportSurvey.JsonValue

/-- Goes on by the next character that is not blank. -/
def atNext {α : Type} (atEnd : α) (goOn : Char → List Char → α) (text : List Char) : α :=
  match skipBlanks text with
  | [] => atEnd
  | c :: rest => goOn c rest

/-- Reads what stands between brackets, of which the opening one has been read: nothing, or a list
with `read`. -/
def readInside {α : Type} (close : Char) (read : List Char → Option (List α × List Char)) :
    List Char → Option (List α × List Char) :=
  atNext (read []) fun c rest => if c = close then some ([], rest) else read (c :: rest)

/-- Reads on behind an item: behind a comma more of them with `read`, and the closing bracket. -/
def readOn {α : Type} (close : Char) (item : α) (read : List Char → Option (List α × List Char)) :
    List Char → Option (List α × List Char) :=
  atNext none fun c rest =>
    if c = ',' then (read rest).map fun (items, r) => (item :: items, r)
    else if c = close then some ([item], rest)
    else none

theorem readValue?_succ (n : Nat) : readValue? (n + 1) = atNext none fun c rest =>
    if c = '"' then (readString? rest).map fun (s, r) => (.string s, r)
    else if c = '[' then (readInside ']' (readItems? n) rest).map fun (vs, r) => (.array vs, r)
    else if c = '{' then (readInside '}' (readFields? n) rest).map fun (fs, r) => (.object fs, r)
    else readWord? (c :: rest) := by
  funext text
  rw [readValue?, atNext]
  cases skipBlanks text with
  | nil => rfl
  | cons c rest =>
    by_cases hquote : c = '"'
    · subst hquote
      rfl
    by_cases harray : c = '['
    · subst harray
      conv_lhs => simp_match
      simp only [readInside, atNext]
      cases skipBlanks rest with
      | nil => rfl
      | cons d more =>
        by_cases hclose : d = ']'
        · subst hclose
          rfl
        · simp [hclose]
    by_cases hobject : c = '{'
    · subst hobject
      conv_lhs => simp_match
      simp only [readInside, atNext]
      cases skipBlanks rest with
      | nil => rfl
      | cons d more =>
        by_cases hclose : d = '}'
        · subst hclose
          rfl
        · simp [hclose]
    by_cases hn : c = 'n'
    · subst hn
      rfl
    by_cases ht : c = 't'
    · subst ht
      rfl
    by_cases hf : c = 'f'
    · subst hf
      rfl
    simp [readWord?, hquote, harray, hobject, hn, ht, hf]

theorem readItems?_succ (n : Nat) : readItems? (n + 1) = fun text =>
    (readValue? n text).bind fun (v, rest) => readOn ']' v (readItems? n) rest := by
  funext text
  rw [readItems?]
  refine Option.bind_congr fun x _ => ?_
  simp only [readOn, atNext]
  cases skipBlanks x.2 with
  | nil => rfl
  | cons c more =>
    by_cases hcomma : c = ','
    · subst hcomma
      rfl
    · by_cases hclose : c = ']'
      · subst hclose
        rfl
      · simp [hcomma, hclose]

theorem readFields?_succ (n : Nat) : readFields? (n + 1) = atNext none fun c rest =>
    if c = '"' then (readString? rest).bind fun (name, rest) =>
      atNext none (fun c rest =>
        if c = ':' then (readValue? n rest).bind fun (v, rest) =>
          readOn '}' (name, v) (readFields? n) rest
        else none) rest
    else none := by
  funext text
  rw [readFields?, atNext]
  cases skipBlanks text with
  | nil => rfl
  | cons c rest =>
    by_cases hquote : c = '"'
    · subst hquote
      refine Option.bind_congr fun x _ => ?_
      simp only [atNext]
      cases skipBlanks x.2 with
      | nil => rfl
      | cons c rest =>
        by_cases hcolon : c = ':'
        · subst hcolon
          refine Option.bind_congr fun y _ => ?_
          simp only [readOn, atNext]
          cases skipBlanks y.2 with
          | nil => rfl
          | cons c rest =>
            by_cases hcomma : c = ','
            · subst hcomma
              rfl
            · by_cases hclose : c = '}'
              · subst hclose
                rfl
              · simp [hcomma, hclose]
        · simp [hcolon]
    · simp [hquote]

end ImportSurvey.JsonValue
