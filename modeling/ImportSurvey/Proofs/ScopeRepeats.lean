import ImportSurvey.Proofs.Outcomes
import ImportSurvey.Proofs.RosterOrder
import ImportSurvey.Proofs.TextCuts
import ImportSurvey.Settings.Plan

namespace ImportSurvey

namespace Language

variable {l l' : Language} {name : String}

/-- The texts that call a language, up to case. -/
def calls (l : Language) : List String := l.name :: l.aliases

theorem sameName_iff {a b : String} :
    sameName a b ↔ a.toList.map Char.toLower = b.toList.map Char.toLower :=
  beq_iff_eq

theorem isCalled_iff : l.isCalled name ↔ ∃ call ∈ l.calls, sameName call name := by
  simp [isCalled, calls]

/-- No two presets have a name in common, whatever its case. -/
theorem eq_of_calls : ∀ l ∈ presets, ∀ l' ∈ presets, ∀ call ∈ l.calls, ∀ call' ∈ l'.calls,
    sameName call call' → l = l' := by
  decide +kernel

theorem eq_of_isCalled (hl : l ∈ presets) (hl' : l' ∈ presets) (h : l.isCalled name)
    (h' : l'.isCalled name) : l = l' := by
  obtain ⟨call, hcall, hsame⟩ := isCalled_iff.mp h
  obtain ⟨call', hcall', hsame'⟩ := isCalled_iff.mp h'
  have hcalls : sameName call call' :=
    sameName_iff.mpr ((sameName_iff.mp hsame).trans (sameName_iff.mp hsame').symm)
  exact eq_of_calls l hl l' hl' call hcall call' hcall' hcalls

theorem preset?_eq_some_iff : preset? name = some l ↔ l ∈ presets ∧ l.isCalled name := by
  unfold preset?
  constructor
  · intro h
    have hcalled := List.find?_some h
    exact ⟨List.mem_of_find?_eq_some h, hcalled⟩
  · rintro ⟨hl, hcalled⟩
    have hsome : (presets.find? (·.isCalled name)).isSome := List.find?_isSome.mpr ⟨l, hl, hcalled⟩
    obtain ⟨found, hfound⟩ := Option.isSome_iff_exists.mp hsome
    have hmem := List.mem_of_find?_eq_some hfound
    have hcalled' := List.find?_some hfound
    rw [hfound, eq_of_isCalled hmem hl hcalled' hcalled]

end Language

theorem ImportPattern.text_of_ofText {text : String} {pattern : ImportPattern}
    (h : ImportPattern.ofText text = .ok pattern) : pattern.text = text := by
  unfold ofText at h
  split at h
  next => simp at h
  next =>
    split at h
    next => simp at h
    next =>
      split at h
      next => simp at h
      next =>
        cases Except.ok.inj h
        rfl

namespace Settings

variable {d : Disk} {s : Settings} {p : Plan} {l : Language} {text extension : String}

/-- The language is a preset that the settings call by one of its names. -/
def Speaks (s : Settings) (l : Language) : Prop :=
  l ∈ Language.presets ∧ ∃ name ∈ s.languages, l.isCalled name

instance (s : Settings) (l : Language) : Decidable (s.Speaks l) :=
  inferInstanceAs (Decidable (_ ∧ _))

/-- The text is an extension of a language or given as one. -/
def GivesExtension (s : Settings) (text : String) : Prop :=
  (∃ l, s.Speaks l ∧ text ∈ l.extensions) ∨ text ∈ s.extensions

/-- The text is a pattern of a language or given as one. -/
def GivesPattern (s : Settings) (text : String) : Prop :=
  (∃ l, s.Speaks l ∧ text ∈ l.patterns) ∨ text ∈ s.patterns

theorem mem_presets_iff : l ∈ s.presets ↔ s.Speaks l := by
  simp only [presets, List.mem_filterMap, Language.preset?_eq_some_iff, Speaks]
  constructor
  · rintro ⟨name, hname, hl, hcalled⟩
    exact ⟨hl, name, hname, hcalled⟩
  · rintro ⟨hl, name, hname, hcalled⟩
    exact ⟨name, hname, hl, hcalled⟩

/-- Extensions as a plan has them, without those that come to nothing. -/
def cleanExtensions (texts : List String) : List String :=
  (texts.map cleanExtension).filter (!·.isEmpty)

theorem mem_cleanExtensions_iff {texts : List String} :
    extension ∈ cleanExtensions texts ↔
      extension ≠ "" ∧ ∃ text ∈ texts, cleanExtension text = extension := by
  simp only [cleanExtensions, List.mem_filter, List.mem_map, Bool.not_eq_true',
    String.isEmpty_eq_false_iff]
  exact and_comm

theorem planExtensions_eq (s : Settings) : s.planExtensions =
    (s.presets.flatMap (fun l => cleanExtensions l.extensions) ++
      cleanExtensions s.extensions).eraseDups := by
  rw [planExtensions, firstOccurrences_eq_eraseDups, List.map_append, List.filter_append,
    List.map_flatMap, List.filter_flatMap]
  rfl

theorem planPatterns_eq (s : Settings) :
    s.planPatterns = (s.presets.flatMap (·.patterns) ++ s.patterns).eraseDups :=
  firstOccurrences_eq_eraseDups _

theorem mem_planExtensions_iff : extension ∈ s.planExtensions ↔
    extension ≠ "" ∧ ∃ text, s.GivesExtension text ∧ cleanExtension text = extension := by
  simp only [planExtensions_eq, List.mem_eraseDups, List.mem_append, List.mem_flatMap,
    mem_cleanExtensions_iff, mem_presets_iff, GivesExtension]
  constructor
  · rintro (⟨l, hl, hne, text, htext, heq⟩ | ⟨hne, text, htext, heq⟩)
    · exact ⟨hne, text, .inl ⟨l, hl, htext⟩, heq⟩
    · exact ⟨hne, text, .inr htext, heq⟩
  · rintro ⟨hne, text, ⟨l, hl, htext⟩ | htext, heq⟩
    · exact .inl ⟨l, hl, hne, text, htext, heq⟩
    · exact .inr ⟨hne, text, htext, heq⟩

theorem mem_planPatterns_iff : text ∈ s.planPatterns ↔ s.GivesPattern text := by
  simp only [planPatterns_eq, List.mem_eraseDups, List.mem_append, List.mem_flatMap,
    mem_presets_iff, GivesPattern]

/-- No point is left in front of an extension. -/
theorem head?_cleanExtension (text : String) : (cleanExtension text).toList.head? ≠ some '.' := by
  intro hhead
  rw [cleanExtension, String.toList_ofList] at hhead
  exact Text.not_of_head?_dropWhile hhead (beq_self_eq_true '.')

theorem presets_append (s : Settings) (name : String) :
    { s with languages := s.languages ++ [name] }.presets =
      s.presets ++ (Language.preset? name).toList := by
  rw [presets, List.filterMap_append]
  cases h : Language.preset? name <;> simp [presets, h]

/-- What a plan takes from languages does not change with a name that calls none or repeats one. -/
theorem eraseDups_presets_append {name : String}
    (h : ∀ l ∈ Language.presets, l.isCalled name → s.Speaks l) (part : Language → List String)
    (given : List String) :
    ({ s with languages := s.languages ++ [name] }.presets.flatMap part ++ given).eraseDups =
      (s.presets.flatMap part ++ given).eraseDups := by
  have hrepeats : ∀ text ∈ (Language.preset? name).toList.flatMap part,
      text ∈ s.presets.flatMap part := by
    intro text ht
    obtain ⟨l, hl, htext⟩ := List.mem_flatMap.mp ht
    obtain ⟨hmem, hcalled⟩ := Language.preset?_eq_some_iff.mp (Option.mem_toList.mp hl)
    exact List.mem_flatMap.mpr ⟨l, mem_presets_iff.mpr (h l hmem hcalled), htext⟩
  rw [presets_append, List.flatMap_append, List.append_assoc]
  exact eraseDups_of_repeats hrepeats given

theorem planExtensions_append
    (h : cleanExtension text = "" ∨ cleanExtension text ∈ s.planExtensions) :
    { s with extensions := s.extensions ++ [text] }.planExtensions = s.planExtensions := by
  have hrepeats : ∀ extension ∈ cleanExtensions [text],
      extension ∈ s.presets.flatMap (fun l => cleanExtensions l.extensions) ++
        cleanExtensions s.extensions := by
    intro extension hmem
    obtain ⟨hne, other, hother, rfl⟩ := mem_cleanExtensions_iff.mp hmem
    rw [List.mem_singleton.mp hother] at hne ⊢
    rw [← List.mem_eraseDups, ← planExtensions_eq]
    exact h.resolve_left hne
  have hsplit : cleanExtensions (s.extensions ++ [text]) =
      cleanExtensions s.extensions ++ cleanExtensions [text] := by
    rw [cleanExtensions, List.map_append, List.filter_append]
    rfl
  have hskip := eraseDups_append_of_repeats hrepeats
  rw [List.append_assoc, ← hsplit] at hskip
  rw [planExtensions_eq, planExtensions_eq]
  exact hskip

theorem planPatterns_append (h : s.GivesPattern text) :
    { s with patterns := s.patterns ++ [text] }.planPatterns = s.planPatterns := by
  have hrepeats : ∀ pattern ∈ [text], pattern ∈ s.presets.flatMap (·.patterns) ++ s.patterns := by
    intro pattern hmem
    rw [List.mem_singleton.mp hmem, ← List.mem_eraseDups, ← planPatterns_eq]
    exact mem_planPatterns_iff.mpr h
  have hskip := eraseDups_append_of_repeats hrepeats
  rw [List.append_assoc] at hskip
  rw [planPatterns_eq, planPatterns_eq]
  exact hskip

/-- Of languages, extensions and patterns only the extensions and patterns of the plan count. -/
theorem plan_of_same_scope (languages extensions patterns : List String)
    (hextensions : { s with languages, extensions, patterns }.planExtensions = s.planExtensions)
    (hpatterns : { s with languages, extensions, patterns }.planPatterns = s.planPatterns) :
    plan d { s with languages, extensions, patterns } = plan d s := by
  unfold plan
  rw [hextensions, hpatterns]
  rfl

theorem map_text_of_readPatterns {texts : List String} {patterns : List ImportPattern}
    (h : readPatterns texts = .ok patterns) : patterns.map (·.text) = texts := by
  have hall := mapM_eq_ok_iff.mp h
  clear h
  induction hall with
  | nil => rfl
  | cons hfirst _ ih =>
    have htext := ImportPattern.text_of_ofText (mapError_eq_ok_iff.mp hfirst)
    exact List.cons_eq_cons.mpr ⟨htext, ih⟩

/-- The plan of settings that come to a single pattern. -/
theorem plan_of_pattern {pattern : ImportPattern} (htext : s.planPatterns = [text])
    (hpattern : ImportPattern.ofText text = .ok pattern) :
    s.plan d = .ok ⟨s.base, s.planExtensions, [pattern], .ofNames s.skipDirs, aliasTable d s,
      if s.strictWalk then .failFast else .bestEffort⟩ := by
  have hread : readPatterns [text] = .ok [pattern] :=
    mapM_eq_ok_iff.mpr (.cons (mapError_eq_ok_iff.mpr hpattern) .nil)
  rw [plan, htext, hread]
  rfl

theorem texts_of_plan (h : plan d s = .ok p) :
    p.extensions = s.planExtensions ∧ p.patterns.map (·.text) = s.planPatterns := by
  obtain ⟨patterns, hread, rfl⟩ := map_eq_ok_iff.mp h
  exact ⟨rfl, map_text_of_readPatterns hread⟩

/-- The plan has the extensions and patterns that the settings give, each once, and no extension is
empty or begins with a point. -/
structure Scopes (s : Settings) (p : Plan) : Prop where
  mem_extensions : ∀ extension, extension ∈ p.extensions ↔
    extension ≠ "" ∧ ∃ text, s.GivesExtension text ∧ cleanExtension text = extension
  mem_patterns : ∀ text, text ∈ p.patterns.map (·.text) ↔ s.GivesPattern text
  extensions_nodup : p.extensions.Nodup
  patterns_nodup : (p.patterns.map (·.text)).Nodup
  clean : ∀ extension ∈ p.extensions, extension ≠ "" ∧ extension.toList.head? ≠ some '.'

theorem scopes_of_plan (h : plan d s = .ok p) : s.Scopes p := by
  obtain ⟨hextensions, hpatterns⟩ := texts_of_plan h
  have hmem : ∀ extension, extension ∈ p.extensions ↔ _ := fun extension =>
    hextensions ▸ mem_planExtensions_iff
  refine ⟨hmem, fun text => hpatterns ▸ mem_planPatterns_iff, ?_, ?_, fun extension he => ?_⟩
  · rw [hextensions, planExtensions_eq]
    exact nodup_eraseDups _
  · rw [hpatterns, planPatterns_eq]
    exact nodup_eraseDups _
  · obtain ⟨hne, text, _, rfl⟩ := (hmem extension).mp he
    exact ⟨hne, head?_cleanExtension text⟩

/-- A name that calls no language or one that is called already, an extension that comes to nothing
or is there already, and a pattern that is there already do not change the plan, nor the fault if
there is none. A plan has each extension and each pattern once. -/
theorem plan_ignores_repeats (d : Disk) (s : Settings) :
    (∀ name, (∀ l ∈ Language.presets, l.isCalled name → s.Speaks l) →
        plan d { s with languages := s.languages ++ [name] } = plan d s) ∧
      (∀ text, cleanExtension text = "" ∨ cleanExtension text ∈ s.planExtensions →
        plan d { s with extensions := s.extensions ++ [text] } = plan d s) ∧
      (∀ text, s.GivesPattern text →
        plan d { s with patterns := s.patterns ++ [text] } = plan d s) ∧
      ∀ p, plan d s = .ok p → s.Scopes p := by
  refine ⟨fun name h => ?_, fun text h => ?_, fun text h => ?_, fun p => scopes_of_plan⟩
  · have hsame := eraseDups_presets_append h
    apply plan_of_same_scope (s.languages ++ [name]) s.extensions s.patterns
    · rw [planExtensions_eq, planExtensions_eq]
      exact hsame _ _
    · rw [planPatterns_eq, planPatterns_eq]
      exact hsame _ _
  · exact plan_of_same_scope s.languages _ s.patterns (planExtensions_append h) rfl
  · exact plan_of_same_scope s.languages s.extensions _ rfl (planPatterns_append h)

/-- A language under another of its names, in capitals, and an unknown one; an extension with white
space and a point, and one of points alone; a pattern of the language; and a plan of settings that
repeat themselves. -/
theorem plan_ignores_repeats_less :
    let d : Disk := ⟨.folder true [], "/"⟩
    let s : Settings := { ofBase "/" with languages := ["css"], extensions := ["sass"] }
    let twice : Settings :=
      { ofBase "/" with extensions := ["ts", " .ts", "."], patterns := ["(.+)", "(.+)"] }
    let given := "@import\\s+(?:url\\()?['\"]([^'\"]+)['\"]"
    (∀ l ∈ Language.presets, l.isCalled "LESS" → s.Speaks l) ∧
      (∀ l ∈ Language.presets, l.isCalled "sass" → s.Speaks l) ∧
      cleanExtension " .scss" ∈ s.planExtensions ∧ cleanExtension ".." = "" ∧
      s.GivesPattern given ∧
      plan d { s with languages := ["css", "LESS"] } = plan d s ∧
      plan d { s with languages := ["css", "sass"] } = plan d s ∧
      plan d { s with extensions := ["sass", " .scss"] } = plan d s ∧
      plan d { s with extensions := ["sass", ".."] } = plan d s ∧
      plan d { s with patterns := [given] } = plan d s ∧
      ∃ p, plan d twice = .ok p ∧ twice.Scopes p ∧ p.extensions = ["ts"] := by
  intro d s twice given
  have hcapital : ∀ l ∈ Language.presets, l.isCalled "LESS" → s.Speaks l := by decide
  have hunknown : ∀ l ∈ Language.presets, l.isCalled "sass" → s.Speaks l := by decide
  have hclean : cleanExtension " .scss" = "scss" := by decide
  have hnothing : cleanExtension ".." = "" := by decide
  have hthere : cleanExtension " .scss" ∈ s.planExtensions := by
    rw [hclean, planExtensions_eq]
    decide
  have hgiven : s.GivesPattern given := by
    rw [← mem_planPatterns_iff, planPatterns_eq]
    decide
  obtain ⟨p, hplan⟩ : ∃ p, plan d twice = .ok p := by
    have hpatterns : twice.planPatterns = ["(.+)"] := by
      rw [planPatterns_eq]
      decide
    have htext : (ImportPattern.ofText "(.+)").toOption.map (·.text) = some "(.+)" := by
      decide +kernel
    obtain ⟨pattern, hpattern, _⟩ := exists_ok_of_toOption htext
    exact ⟨_, plan_of_pattern hpatterns hpattern⟩
  have hextensions : p.extensions = ["ts"] := by
    rw [(texts_of_plan hplan).1, planExtensions_eq]
    decide
  obtain ⟨hname, hextension, hpattern, _⟩ := plan_ignores_repeats d s
  obtain ⟨_, _, _, hscopes⟩ := plan_ignores_repeats d twice
  exact ⟨hcapital, hunknown, hthere, hnothing, hgiven, hname "LESS" hcapital,
    hname "sass" hunknown, hextension " .scss" (.inr hthere), hextension ".." (.inl hnothing),
    hpattern given hgiven, p, hplan, hscopes p hplan, hextensions⟩

end Settings

end ImportSurvey
