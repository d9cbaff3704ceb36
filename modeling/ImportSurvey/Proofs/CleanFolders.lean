import ImportSurvey.Alias
import ImportSurvey.Proofs.PathJoin
import ImportSurvey.Proofs.TextCuts

namespace ImportSurvey

namespace Path

theorem toList_ne_nil_of_normal {path : String} (h : Normal path) : path.toList ≠ [] :=
  mt String.toList_eq_nil_iff.mp (ne_empty_of_normal h)

/-- A path of normal form does not begin with a dot and a slash. -/
theorem not_dotSlash_of_normal {path : String} {rest : List Char} (h : Normal path) :
    path.toList ≠ '.' :: '/' :: rest := by
  intro heq
  have hpath : path = "." ++ "/" ++ String.ofList rest := by
    apply String.toList_inj.mp
    simp [heq]
  rcases h with rfl | h
  · simp [root] at heq
  · have hdot : "." ∈ segments path := by
      rw [hpath, segments_append_slash]
      exact List.mem_append_left _ (by decide)
    exact (h "." hdot).2.1 rfl

/-- A path of normal form does not end with a slash. -/
theorem not_slash_of_normal {path : String} (h : Normal path) :
    path.toList.getLast? ≠ some '/' := by
  intro hend
  obtain ⟨before, hbefore⟩ := List.getLast?_eq_some_iff.mp hend
  have hpath : path = String.ofList before ++ "/" ++ "" := by
    apply String.toList_inj.mp
    simp [hbefore]
  rcases h with rfl | h
  · simp [root] at hend
  · have hempty : "" ∈ segments path := by
      rw [hpath, segments_append_slash]
      exact List.mem_append_right _ (by decide)
    exact (h "" hempty).1 rfl

/-- A path with `./` in front of it `front` times and `back` slashes behind it. -/
def decorated (front : Nat) (path : List Char) (back : Nat) : List Char :=
  (List.replicate front ['.', '/']).flatten ++ path ++ List.replicate back '/'

theorem decorated_succ (front : Nat) (path : List Char) (back : Nat) :
    decorated (front + 1) path back = '.' :: '/' :: decorated front path back := by
  simp [decorated, List.replicate_succ]

theorem moves_decorated (front : Nat) (path : List Char) (back : Nat) :
    moves (String.ofList (decorated front path back)) = moves (String.ofList path) := by
  induction front with
  | zero =>
    induction back with
    | zero => simp [decorated]
    | succ back ih =>
      have hback : String.ofList (decorated 0 path (back + 1)) =
          String.ofList (decorated 0 path back) ++ "/" ++ "" := by
        apply String.toList_inj.mp
        simp [decorated, List.replicate_succ']
      have hempty : moves "" = [] := by decide
      rw [hback, moves_append_slash, ih, hempty, List.append_nil]
  | succ front ih =>
    have hfront : String.ofList (decorated (front + 1) path back) =
        "." ++ "/" ++ String.ofList (decorated front path back) := by
      apply String.toList_inj.mp
      simp [decorated_succ]
    have hdot : moves "." = [] := by decide
    rw [hfront, moves_append_slash, ih, hdot, List.nil_append]

end Path

namespace Text

theorem dropTrailing_eq_self {mark : Char} {text : List Char} (h : text.getLast? ≠ some mark) :
    dropTrailing mark text = text := by
  refine List.rdropWhile_eq_self_iff.mpr fun hne hlast => h ?_
  rw [List.getLast?_eq_some_getLast hne, beq_iff_eq.mp hlast]

theorem dropTrailing_append_replicate (mark : Char) (text : List Char) (n : Nat) :
    dropTrailing mark (text ++ List.replicate n mark) = dropTrailing mark text := by
  induction n with
  | zero => simp
  | succ n ih =>
    rw [List.replicate_succ', ← List.append_assoc]
    have hdrop := List.rdropWhile_concat_pos (· == mark) (text ++ List.replicate n mark) mark
      (beq_self_eq_true mark)
    exact hdrop.trans ih

theorem exists_append_replicate (mark : Char) (text : List Char) :
    ∃ n, text = dropTrailing mark text ++ List.replicate n mark := by
  have htail : text.rtakeWhile (· == mark) =
      List.replicate (text.rtakeWhile (· == mark)).length mark :=
    List.eq_replicate_iff.mpr ⟨rfl, fun c hc => by simpa using List.mem_rtakeWhile_imp hc⟩
  refine ⟨(text.rtakeWhile (· == mark)).length, ?_⟩
  rw [← htail]
  exact List.rdropWhile_append_rtakeWhile.symm

theorem getLast?_dropTrailing_ne (mark : Char) (text : List Char) :
    (dropTrailing mark text).getLast? ≠ some mark := fun hend =>
  not_of_getLast?_rdropWhile hend (beq_self_eq_true mark)

end Text

namespace Alias

theorem dropDotSlashes_eq_self {text : List Char} (h : ∀ rest, text ≠ '.' :: '/' :: rest) :
    dropDotSlashes text = text := by
  unfold dropDotSlashes
  split
  next rest => exact absurd rfl (h rest)
  next => rfl

theorem dropDotSlashes_ne (text rest : List Char) : dropDotSlashes text ≠ '.' :: '/' :: rest := by
  fun_induction dropDotSlashes text with
  | case1 _ ih => exact ih
  | case2 text hstart => exact hstart rest

theorem exists_dropDotSlashes (text : List Char) :
    ∃ n, text = (List.replicate n ['.', '/']).flatten ++ dropDotSlashes text := by
  fun_induction dropDotSlashes text with
  | case1 rest ih =>
    obtain ⟨n, hn⟩ := ih
    exact ⟨n + 1, by rw [List.replicate_succ, List.flatten_cons, List.append_assoc, ← hn]; rfl⟩
  | case2 text _ => exact ⟨0, rfl⟩

/-- Cleaning takes decorations off, and nothing else. -/
theorem exists_decorated (text : List Char) :
    ∃ front back, text = Path.decorated front (Text.dropTrailing '/' (dropDotSlashes text)) back := by
  obtain ⟨front, hfront⟩ := exists_dropDotSlashes text
  obtain ⟨back, hback⟩ := Text.exists_append_replicate '/' (dropDotSlashes text)
  exact ⟨front, back, by rw [Path.decorated, List.append_assoc, ← hback, ← hfront]⟩

/-- What cleaning takes off has no part in a join. -/
theorem moves_dropTrailing_dropDotSlashes (text : String) :
    Path.moves (String.ofList (Text.dropTrailing '/' (dropDotSlashes text.toList))) =
      Path.moves text := by
  obtain ⟨front, back, htext⟩ := exists_decorated text.toList
  rw [← Path.moves_decorated front _ back, ← htext, String.ofList_toList]

/-- A text without anything that cleaning takes off, which stands for a folder. -/
structure Clean (text : String) : Prop where
  ne_empty : text ≠ ""
  start : ∀ rest, text.toList ≠ '.' :: '/' :: rest
  ending : text.toList.getLast? ≠ some '/'

variable {text path : String}

theorem clean_of_normal (h : Path.Normal path) : Clean path :=
  ⟨Path.ne_empty_of_normal h, fun _ => Path.not_dotSlash_of_normal h, Path.not_slash_of_normal h⟩

/-- Nothing is dropped from either end of a clean text. -/
theorem dropTrailing_dropDotSlashes (h : Clean text) :
    Text.dropTrailing '/' (dropDotSlashes text.toList) = text.toList := by
  rw [dropDotSlashes_eq_self h.start]
  exact Text.dropTrailing_eq_self h.ending

/-- All decorations are taken off a path of normal form, unless it is the base folder, whose dot
would be taken with a slash behind it. -/
theorem dropTrailing_decorated (h : Path.Normal path) (hroot : path ≠ Path.root)
    (front back : Nat) :
    Text.dropTrailing '/' (dropDotSlashes (Path.decorated front path.toList back)) =
      path.toList := by
  induction front with
  | zero =>
    have hstart : ∀ rest, path.toList ++ List.replicate back '/' ≠ '.' :: '/' :: rest := by
      intro rest heq
      rcases List.append_eq_cons_iff.mp heq with ⟨hnil, _⟩ | ⟨tail, htail, hrest⟩
      · exact Path.toList_ne_nil_of_normal h hnil
      · rcases List.append_eq_cons_iff.mp hrest.symm with ⟨rfl, _⟩ | ⟨more, rfl, _⟩
        · exact hroot (String.toList_inj.mp htail)
        · exact Path.not_dotSlash_of_normal h htail
    rw [Path.decorated, List.replicate_zero, List.flatten_nil, List.nil_append,
      dropDotSlashes_eq_self hstart, Text.dropTrailing_append_replicate,
      Text.dropTrailing_eq_self (Path.not_slash_of_normal h)]
  | succ front ih => rw [Path.decorated_succ, dropDotSlashes, ih]

theorem cleanFolder_of_clean (h : Clean text) : cleanFolder text = text := by
  have hne : text.toList ≠ [] := mt String.toList_eq_nil_iff.mp h.ne_empty
  obtain ⟨c, rest, htext⟩ := List.exists_cons_of_ne_nil hne
  rw [cleanFolder, dropTrailing_dropDotSlashes h, htext]
  exact (congrArg String.ofList htext.symm).trans String.ofList_toList

theorem cleanFolder_of_normal (h : Path.Normal path) : cleanFolder path = path :=
  cleanFolder_of_clean (clean_of_normal h)

/-- Cleaning leaves what is left without decorations, or the base folder if nothing is left. -/
theorem cleanFolder_cases (text : String) :
    Text.dropTrailing '/' (dropDotSlashes text.toList) = [] ∧ cleanFolder text = Path.root ∨
      cleanFolder text ≠ "" ∧
        (cleanFolder text).toList = Text.dropTrailing '/' (dropDotSlashes text.toList) := by
  unfold cleanFolder
  cases Text.dropTrailing '/' (dropDotSlashes text.toList) with
  | nil => exact .inl ⟨rfl, rfl⟩
  | cons c rest =>
    have hne : String.ofList (c :: rest) ≠ "" := by simp
    exact .inr ⟨hne, String.toList_ofList⟩

theorem clean_cleanFolder (text : String) : Clean (cleanFolder text) := by
  rcases cleanFolder_cases text with ⟨_, hroot⟩ | ⟨hne, htext⟩
  · rw [hroot]
    exact clean_of_normal (.inl rfl)
  · refine ⟨hne, fun rest hstart => ?_, fun hend => ?_⟩
    · rw [htext] at hstart
      obtain ⟨slashes, hslashes⟩ := Text.exists_append_replicate '/' (dropDotSlashes text.toList)
      rw [hstart] at hslashes
      exact dropDotSlashes_ne text.toList _ hslashes
    · rw [htext] at hend
      exact Text.getLast?_dropTrailing_ne '/' _ hend

/-- The cleaned folder has the same part in a join as the text. -/
theorem moves_cleanFolder (text : String) : Path.moves (cleanFolder text) = Path.moves text := by
  rw [← moves_dropTrailing_dropDotSlashes text]
  rcases cleanFolder_cases text with ⟨hnil, hroot⟩ | ⟨_, htext⟩
  · rw [hnil, hroot]
    decide
  · rw [← htext, String.ofList_toList]

end Alias

end ImportSurvey
