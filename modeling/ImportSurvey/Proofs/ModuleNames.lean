import ImportSurvey.Proofs.RelativeSpelling
import Mathlib.Data.List.TakeWhile

namespace ImportSurvey

namespace Text

variable {old new mark c : Char} {pieces : List (List Char)}

theorem mem_intercalate (h : c ∈ [mark].intercalate pieces) :
    c = mark ∨ ∃ piece ∈ pieces, c ∈ piece := by
  induction pieces with
  | nil => simp at h
  | cons piece rest ih =>
    by_cases hrest : rest = []
    · rw [hrest, List.intercalate_singleton] at h
      exact .inr ⟨piece, List.mem_cons_self, h⟩
    · rw [List.intercalate_cons_of_ne_nil hrest, List.mem_append, List.mem_append] at h
      rcases h with (h | h) | h
      · exact .inr ⟨piece, List.mem_cons_self, h⟩
      · exact .inl (List.mem_singleton.mp h)
      · exact (ih h).imp_right fun ⟨p, hp, hc⟩ => ⟨p, List.mem_cons_of_mem _ hp, hc⟩

theorem replace_intercalate (h : ∀ piece ∈ pieces, old ∉ piece) :
    replace old new ([old].intercalate pieces) = [new].intercalate pieces := by
  induction pieces with
  | nil => rfl
  | cons piece rest ih =>
    have hpiece : replace old new piece = piece := replace_of_not_mem (h piece List.mem_cons_self)
    by_cases hrest : rest = []
    · rw [hrest, List.intercalate_singleton, List.intercalate_singleton, hpiece]
    · rw [List.intercalate_cons_of_ne_nil hrest, List.intercalate_cons_of_ne_nil hrest,
        ← ih fun p hp => h p (List.mem_cons_of_mem _ hp)]
      unfold replace at hpiece ⊢
      simp [hpiece]

end Text

namespace Token

/-- The token is `dots` dots and `names` behind them, with single dots in between. Names consist of
letters, digits and underscores of any script; one or two dots alone are no module name. -/
structure ModuleName (token : String) (dots : Nat) (names : List String) : Prop where
  token_eq : token = String.ofList (List.replicate dots '.') ++ ".".intercalate names
  dotted : 1 ≤ dots
  plain : ∀ name ∈ names, name ≠ "" ∧
    ∀ c ∈ name.toList, Unicode.isAlphanumeric c ∨ c = '_'
  named : 1 ≤ names.length ∨ 3 ≤ dots

/-- The number of dots at the start of a token. -/
def leadingDots (token : String) : Nat := (token.toList.takeWhile (· == '.')).length

/-- What stands behind the dots at the start. -/
def behindDots (token : String) : List Char := token.toList.dropWhile (· == '.')

/-- The path that a module name is rewritten to. -/
def modulePath (dots : Nat) (names : List String) : String :=
  if names = [] then climb dots else climb dots ++ "/" ++ Path.ofSegments names

variable {token : String} {dots : Nat} {names : List String}

theorem toList_eq_dots_append (token : String) :
    token.toList = List.replicate (leadingDots token) '.' ++ behindDots token := by
  have hdots : token.toList.takeWhile (· == '.') = List.replicate (leadingDots token) '.' :=
    List.eq_replicate_of_mem fun c hc => by simpa using List.mem_takeWhile_imp hc
  rw [← hdots, behindDots, List.takeWhile_append_dropWhile]

theorem isModuleSegment_iff {segment : List Char} : isModuleSegment segment ↔
    segment ≠ [] ∧ ∀ c ∈ segment, Unicode.isAlphanumeric c ∨ c = '_' := by
  simp [isModuleSegment]

namespace ModuleName

theorem mark_not_mem (h : ModuleName token dots names) {mark : Char}
    (hmark : mark = '.' ∨ mark = '/') {name : String} (hname : name ∈ names) :
    mark ∉ name.toList := by
  intro hmem
  have hplain := (h.plain name hname).2 mark hmem
  rcases hmark with rfl | rfl
  · exact absurd hplain (by decide)
  · exact absurd hplain (by decide)

theorem toList_token (h : ModuleName token dots names) :
    token.toList = List.replicate dots '.' ++ ['.'].intercalate (names.map String.toList) := by
  rw [h.token_eq, String.toList_append, String.toList_ofList, String.toList_intercalate]
  rfl

/-- The first name does not go on with the leading dots. -/
theorem head_names (h : ModuleName token dots names) :
    ∀ c ∈ (['.'].intercalate (names.map String.toList)).head?, c ≠ '.' := by
  cases names with
  | nil => simp
  | cons name rest =>
    obtain ⟨c, text, hc⟩ := List.exists_cons_of_ne_nil
      (mt String.toList_eq_nil_iff.mp (h.plain name List.mem_cons_self).1)
    have hdot := h.mark_not_mem (.inl rfl) (List.mem_cons_self (a := name))
    have hhead : (['.'].intercalate ((name :: rest).map String.toList)).head? = some c := by
      cases rest <;> simp [hc]
    rw [hhead]
    rintro _ ⟨⟩ rfl
    simp [hc] at hdot

/-- The dots and the names are read as they were written. -/
theorem dots_names (h : ModuleName token dots names) :
    leadingDots token = dots ∧
      behindDots token = ['.'].intercalate (names.map String.toList) := by
  have hdots : ∀ c ∈ List.replicate dots '.', (c == '.') = true := fun c hc => by
    simp [List.eq_of_mem_replicate hc]
  have hhead := h.head_names
  rw [leadingDots, behindDots, h.toList_token, List.takeWhile_append_of_pos hdots,
    List.dropWhile_append_of_pos hdots]
  cases hnames : ['.'].intercalate (names.map String.toList) with
  | nil => simp
  | cons c rest =>
    have hc : c ≠ '.' := hhead c (by simp [hnames])
    simp [hc]

theorem slash_not_mem (h : ModuleName token dots names) : '/' ∉ token.toList := by
  rw [h.toList_token, List.mem_append]
  rintro (hmem | hmem)
  · exact absurd (List.eq_of_mem_replicate hmem) (by decide)
  · rcases Text.mem_intercalate hmem with heq | ⟨piece, hpiece, hmem⟩
    · exact absurd heq (by decide)
    · obtain ⟨name, hname, rfl⟩ := List.mem_map.mp hpiece
      exact h.mark_not_mem (.inr rfl) hname hmem

theorem names_free (h : ModuleName token dots names) :
    ∀ piece ∈ names.map String.toList, '.' ∉ piece := by
  intro piece hpiece
  obtain ⟨name, hname, rfl⟩ := List.mem_map.mp hpiece
  exact h.mark_not_mem (.inl rfl) hname

theorem isModuleSegment_names (h : ModuleName token dots names) :
    ∀ piece ∈ names.map String.toList, isModuleSegment piece := by
  intro piece hpiece
  obtain ⟨name, hname, rfl⟩ := List.mem_map.mp hpiece
  obtain ⟨hne, hplain⟩ := h.plain name hname
  exact isModuleSegment_iff.mpr ⟨mt String.toList_eq_nil_iff.mp hne, hplain⟩

theorem dotted?_eq (h : ModuleName token dots names) :
    dotted? token = some (modulePath dots names) := by
  obtain ⟨hdots, hnames⟩ := h.dots_names
  have hstart : ¬(dots = 0 ∨ '/' ∈ token.toList) :=
    not_or.mpr ⟨Nat.one_le_iff_ne_zero.mp h.dotted, h.slash_not_mem⟩
  unfold leadingDots at hdots
  unfold behindDots at hnames
  unfold dotted? modulePath
  simp only [hdots, hnames, List.contains_eq_mem]
  rw [if_neg (by simpa using hstart)]
  by_cases hnil : names = []
  · have hthree : ¬dots < 3 := Nat.not_lt.mpr (h.named.resolve_left (by simp [hnil]))
    simp [hnil, hthree]
  · have hcut := List.splitOn_intercalate '.' h.names_free (by simpa using hnil)
    have hfull : ['.'].intercalate (names.map String.toList) ≠ [] := by
      intro hempty
      have hsegment : isModuleSegment [] :=
        h.isModuleSegment_names [] (by rw [← hcut, hempty]; simp)
      simp [isModuleSegment] at hsegment
    have hpath : String.ofList (Text.replace '.' '/' (['.'].intercalate (names.map String.toList))) =
        Path.ofSegments names := by
      apply String.toList_inj.mp
      rw [String.toList_ofList, Text.replace_intercalate h.names_free, Path.ofSegments_toList]
    rw [if_neg (by simpa using hfull), hcut, if_pos (List.all_eq_true.mpr h.isModuleSegment_names),
      if_neg hnil, hpath]

end ModuleName

theorem shape_of_dotted? {path : String} (h : dotted? token = some path) :
    1 ≤ leadingDots token ∧ (behindDots token = [] ∧ 3 ≤ leadingDots token ∨
      ∀ piece ∈ (behindDots token).splitOn '.', isModuleSegment piece) := by
  unfold dotted? at h
  simp only at h
  split at h
  next => simp at h
  next hstart =>
    simp only [Bool.or_eq_true, decide_eq_true_eq, not_or] at hstart
    refine ⟨Nat.one_le_iff_ne_zero.mpr hstart.1, ?_⟩
    split at h
    next hempty =>
      split at h
      next => simp at h
      next hthree => exact .inl ⟨List.isEmpty_iff.mp hempty, Nat.not_lt.mp hthree⟩
    next =>
      split at h
      next hsegments => exact .inr (List.all_eq_true.mp hsegments)
      next => simp at h

theorem exists_moduleName {path : String} (h : dotted? token = some path) :
    ∃ dots names, ModuleName token dots names := by
  have htoken : ∀ names : List String,
      behindDots token = ['.'].intercalate (names.map String.toList) →
      token = String.ofList (List.replicate (leadingDots token) '.') ++ ".".intercalate names := by
    intro names hnames
    apply String.toList_inj.mp
    rw [String.toList_append, String.toList_ofList, String.toList_intercalate]
    exact hnames ▸ toList_eq_dots_append token
  obtain ⟨hone, ⟨hempty, hthree⟩ | hsegments⟩ := shape_of_dotted? h
  · exact ⟨_, [], htoken [] (by simpa using hempty), hone, by simp, .inr hthree⟩
  · refine ⟨_, ((behindDots token).splitOn '.').map String.ofList, htoken _ ?_, hone, ?_, .inl ?_⟩
    · simp [Function.comp_def]
    · intro name hname
      obtain ⟨piece, hpiece, rfl⟩ := List.mem_map.mp hname
      simpa using isModuleSegment_iff.mp (hsegments piece hpiece)
    · simp [Nat.one_le_iff_ne_zero]

theorem segments_climb_eq_climbs (h : 1 ≤ dots) :
    Path.segments (climb dots) = climbs (dots - 1) := by
  by_cases hone : dots = 1
  · subst hone
    decide
  · rw [segments_climb (by omega), climbs, if_neg (by omega)]

namespace ModuleName

theorem segments_modulePath (h : ModuleName token dots names) :
    Path.segments (modulePath dots names) = climbs (dots - 1) ++ names := by
  unfold modulePath
  split
  next hnil => rw [segments_climb_eq_climbs h.dotted, hnil, List.append_nil]
  next hne =>
    have hfree : ∀ name ∈ names, '/' ∉ name.toList := fun _ => h.mark_not_mem (.inr rfl)
    rw [Path.segments_append_slash, segments_climb_eq_climbs h.dotted,
      Path.segments_ofSegments hne hfree]

theorem ordinary_names (h : ModuleName token dots names) : ∀ name ∈ names, Path.Ordinary name := by
  intro name hname
  have hdot := h.mark_not_mem (.inl rfl) hname
  refine ⟨(h.plain name hname).1, ?_, ?_⟩
  · rintro rfl
    exact hdot (by decide)
  · rintro rfl
    exact hdot (by decide)

theorem pathText_eq (h : ModuleName token dots names) :
    pathText token = modulePath dots names := by
  rw [pathText, h.dotted?_eq]
  rfl

theorem relative (h : ModuleName token dots names) : Relative token :=
  .inr ⟨_, h.dotted?_eq, marked_of_dotted? h.dotted?_eq⟩

variable {folder : String}

theorem foldlM_modulePath (h : ModuleName token dots names) (hfolder : Path.Normal folder) :
    Path.join? folder (modulePath dots names) =
      ((climbs (dots - 1) ++ names).foldlM Path.step? (Path.descent folder).reverse).map
        Path.ofTrail := by
  rw [Path.join?_eq_foldlM_descent hfolder, h.segments_modulePath]

/-- More dots than folders above lead out of the tree. -/
theorem join?_of_lt (h : ModuleName token dots names) (hfolder : Path.Normal folder)
    (hdepth : Path.depth folder < dots - 1) :
    Path.join? folder (modulePath dots names) = none := by
  rw [h.foldlM_modulePath hfolder, Option.map_eq_none_iff, Path.foldlM_step?_eq_none_iff]
  refine ⟨dots - 1, ?_⟩
  have hclimbs : (climbs (dots - 1) ++ names).take (dots - 1) = List.replicate (dots - 1) ".." := by
    rw [climbs, if_neg (by omega), List.take_left' List.length_replicate]
  have hclimb : ¬Path.Ordinary ".." := by decide
  rw [hclimbs, List.length_reverse, ← Path.depth_eq_length_descent, List.countP_replicate,
    List.count_replicate_self]
  simpa [hclimb] using hdepth

theorem join?_of_le (h : ModuleName token dots names) (hfolder : Path.Normal folder)
    (hdepth : dots - 1 ≤ Path.depth folder) :
    Path.join? folder (modulePath dots names) = some (Path.ofDescent
      ((Path.descent folder).take (Path.depth folder - (dots - 1)) ++ names)) := by
  obtain ⟨inner, hinner⟩ :=
    List.take_prefix (Path.depth folder - (dots - 1)) (Path.descent folder)
  have hlength : inner.length = dots - 1 := by
    have := congrArg List.length hinner
    rw [List.length_append, List.length_take, ← Path.depth_eq_length_descent] at this
    omega
  have hup := Path.foldlM_step?_climbs
    ((Path.descent folder).take (Path.depth folder - (dots - 1))) inner
  rw [hlength, hinner] at hup
  rw [h.foldlM_modulePath hfolder, List.foldlM_append, hup, Option.bind_eq_bind, Option.bind_some,
    Path.foldlM_step?_ordinary _ h.ordinary_names, ← List.reverse_append, Option.map_some,
    Path.ofTrail_eq_ofDescent, List.reverse_reverse]

end ModuleName

/-- Where a token with a number of dots and some names leads: for each dot behind the first it climbs
to the folder above, and then it goes down by the names. -/
structure LeadsByDots (r : Resolver) (token folder : String) (dots : Nat) (names : List String) :
    Prop where
  none_iff : r.resolve? token folder = none ↔ Path.depth folder < dots - 1
  some_eq : dots - 1 ≤ Path.depth folder → r.resolve? token folder = some (r.locate
    (Path.ofDescent ((Path.descent folder).take (Path.depth folder - (dots - 1)) ++ names)))
  unaliased : ∀ aliases,
    Resolver.resolve? { r with aliases := aliases } token folder = r.resolve? token folder

theorem ModuleName.leadsByDots (h : ModuleName token dots names) (r : Resolver) {folder : String}
    (hfolder : Path.Normal folder) : LeadsByDots r token folder dots names := by
  have hjoin : ∀ aliases, Resolver.resolve? { r with aliases := aliases } token folder =
      (Path.join? folder (modulePath dots names)).map r.locate := by
    intro aliases
    rw [Resolver.resolve?_of_joins (.relative h.relative), h.pathText_eq]
    rfl
  have hres : r.resolve? token folder = _ := hjoin r.aliases
  refine ⟨?_, fun hdepth => ?_, fun aliases => (hjoin aliases).trans hres.symm⟩
  · rcases Nat.lt_or_ge (Path.depth folder) (dots - 1) with hdepth | hdepth
    · simp [hres, h.join?_of_lt hfolder hdepth, hdepth]
    · simp [hres, h.join?_of_le hfolder hdepth, Nat.not_lt.mpr hdepth]
  · rw [hres, h.join?_of_le hfolder hdepth, Option.map_some]

/-- A token is rewritten exactly if it is a module name, and then it leads up by its dots and down by
its names. -/
theorem dotted?_exact (token : String) :
    ((∃ path, dotted? token = some path) ↔ ∃ dots names, ModuleName token dots names) ∧
      ∀ dots names, ModuleName token dots names → ∀ r folder, Path.Normal folder →
        LeadsByDots r token folder dots names := by
  refine ⟨⟨fun ⟨_, h⟩ => exists_moduleName h, fun ⟨dots, names, h⟩ => ⟨_, h.dotted?_eq⟩⟩, ?_⟩
  intro dots names h r folder hfolder
  exact h.leadsByDots r hfolder

/-- Two folders up and down into a module: from the lower folder to the top of the tree, from the
upper one out of it. -/
theorem dotted?_exact_climb :
    ModuleName "...pkg.mod_1" 3 ["pkg", "mod_1"] ∧ Path.Normal "a/b" ∧ Path.Normal "a" ∧
      ∀ r : Resolver, r.resolve? "...pkg.mod_1" "a/b" = some (r.locate "pkg/mod_1") ∧
        r.resolve? "...pkg.mod_1" "a" = none := by
  have hsegments : ∀ name ∈ ["pkg", "mod_1"], isModuleSegment name.toList := by decide
  have hname : ModuleName "...pkg.mod_1" 3 ["pkg", "mod_1"] :=
    ⟨by decide, by decide, fun name hname => by
      simpa using isModuleSegment_iff.mp (hsegments name hname), by decide⟩
  have hinner : Path.Normal "a/b" := by decide
  have houter : Path.Normal "a" := by decide
  have hleads := (dotted?_exact "...pkg.mod_1").2 3 _ hname
  refine ⟨hname, hinner, houter, fun r => ⟨?_, ?_⟩⟩
  · exact (hleads r "a/b" hinner).some_eq (by decide)
  · exact (hleads r "a" houter).none_iff.mpr (by decide)

end Token

end ImportSurvey
