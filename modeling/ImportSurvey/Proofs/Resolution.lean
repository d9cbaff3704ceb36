import ImportSurvey.Proofs.AliasStems
import ImportSurvey.Proofs.PathJoin
import ImportSurvey.Proofs.TokenMarkers
import ImportSurvey.Resolver

namespace ImportSurvey

/-- What a path means among some files: the earliest candidate that is a file, or the path itself
if no candidate is one. -/
inductive Meaning (files : Std.HashSet String) (candidates : List String) (path : String) :
    Resolution → Prop
  | file {before after : List String} {file : String} :
      candidates = before ++ file :: after → file ∈ files → (∀ c ∈ before, c ∉ files) →
      Meaning files candidates path ⟨file, .resolved⟩
  | nothing : (∀ c ∈ candidates, c ∉ files) → Meaning files candidates path ⟨path, .unresolved⟩

namespace Resolver

/-- The token is neither relative nor does an alias start it. -/
def External (r : Resolver) (token : String) : Prop :=
  ¬Token.Relative token ∧ ∀ t, r.aliases = some t → ∀ a ∈ t.entries, ¬a.Starts token

/-- The folder and the path that are joined for a token: a relative one goes on from the folder of
the importing file, another one from the folder of the alias with the longest stem. -/
inductive Joins (r : Resolver) (token folder : String) : String → String → Prop
  | relative : Token.Relative token → Joins r token folder folder (Token.pathText token)
  | aliased {t : AliasTable} {a : Alias} {rest : String} :
      ¬Token.Relative token → r.aliases = some t → t.Longest token a rest →
      Joins r token folder a.folder rest

/-- All that can be said of the answer for a token in a folder. -/
structure Answers (r : Resolver) (token folder : String) : Prop where
  /-- There is none if the token leads above the base folder, and only then. -/
  none_iff : r.resolve? token folder = none ↔
    ∃ start rel, r.Joins token folder start rel ∧
      Path.Climbs (Path.segments start ++ Path.segments rel)
  /-- External tokens, and only these, have an external answer, and they stay as they are. -/
  external_iff : ∀ target, r.resolve? token folder = some ⟨target, .external⟩ ↔
    r.External token ∧ target = token
  /-- A joined path means its earliest candidate that is a file, or itself. -/
  meaning : ∀ start rel path, r.Joins token folder start rel →
    Path.join? start rel = some path → Path.Normal path ∧
    ∃ found, r.resolve? token folder = some found ∧
      Meaning r.files
        (if path = "." then r.extensions.map fun e => "index." ++ e
        else [path] ++ (r.extensions.map fun e => path ++ "." ++ e) ++
          r.extensions.map fun e => path ++ "/index." ++ e)
        path found
  /-- What is found within the tree counts as resolved if it is a file, and only then. -/
  resolved_iff : ∀ found, r.resolve? token folder = some found → found.isInternal →
    (found.kind = .resolved ↔ found.target ∈ r.files)

theorem meaning_locate (r : Resolver) (path : String) :
    Meaning r.files (r.candidates path) path (r.locate path) := by
  unfold locate
  split
  next file h =>
    obtain ⟨hfile, before, after, hsplit, hbefore⟩ := List.find?_eq_some_iff_append.mp h
    refine .file hsplit (Std.HashSet.mem_iff_contains.mpr hfile) fun c hc hmem => ?_
    have hnot := hbefore c hc
    rw [Std.HashSet.mem_iff_contains] at hmem
    simp [hmem] at hnot
  next h =>
    refine .nothing fun c hc hmem => ?_
    have hnot := List.find?_eq_none.mp h c hc
    exact hnot (Std.HashSet.mem_iff_contains.mp hmem)

/-- A path has one meaning. -/
theorem locate_of_meaning {r : Resolver} {path : String} {found : Resolution}
    (h : Meaning r.files (r.candidates path) path found) : r.locate path = found := by
  cases h with
  | file hsplit hfile hbefore =>
    have hfind : (r.candidates path).find? r.files.contains = some _ :=
      List.find?_eq_some_iff_append.mpr ⟨Std.HashSet.mem_iff_contains.mp hfile, _, _, hsplit,
        fun c hc => by simpa using hbefore c hc⟩
    rw [locate, hfind]
  | nothing hnone =>
    have hfind : (r.candidates path).find? r.files.contains = none :=
      List.find?_eq_none.mpr fun c hc hmem => hnone c hc (Std.HashSet.mem_iff_contains.mpr hmem)
    rw [locate, hfind]

theorem external_or_joins (r : Resolver) (token folder : String) :
    r.External token ∨ ∃ start rel, r.Joins token folder start rel := by
  by_cases hr : Token.Relative token
  · exact .inr ⟨_, _, .relative hr⟩
  · cases ha : r.aliases with
    | none => exact .inl ⟨hr, by simp [ha]⟩
    | some t =>
      cases hm : t.match? token with
      | none =>
        refine .inl ⟨hr, fun t' ht' => ?_⟩
        cases Option.some.inj (ha.symm.trans ht')
        exact AliasTable.match?_eq_none_iff.mp hm
      | some found => exact .inr ⟨_, _, .aliased hr ha (AliasTable.longest_of_match? hm)⟩

theorem resolve?_of_external {r : Resolver} {token : String} (folder : String)
    (h : r.External token) : r.resolve? token folder = some ⟨token, .external⟩ := by
  have hrel : ¬Token.isRelative (Token.pathText token) := fun hh =>
    h.1 (Token.isRelative_pathText.mp hh)
  have hmatch : r.aliases.bind (·.match? token) = none := by
    cases ha : r.aliases with
    | none => rfl
    | some t => exact AliasTable.match?_eq_none_iff.mpr (h.2 t ha)
  unfold Token.pathText at hrel
  simp [resolve?, hrel, hmatch]

theorem resolve?_of_joins {r : Resolver} {token folder start rel : String}
    (h : r.Joins token folder start rel) :
    r.resolve? token folder = (Path.join? start rel).map r.locate := by
  cases h with
  | relative hr =>
    have hrel : Token.isRelative (Token.pathText token) := Token.isRelative_pathText.mpr hr
    unfold Token.pathText at hrel ⊢
    simp [resolve?, hrel]
  | aliased hr ha hl =>
    have hrel : ¬Token.isRelative (Token.pathText token) := fun hh =>
      hr (Token.isRelative_pathText.mp hh)
    have hm := AliasTable.match?_eq_some_iff.mpr hl
    unfold Token.pathText at hrel
    simp [resolve?, hrel, ha, hm]

theorem not_external_of_joins {r : Resolver} {token folder start rel : String}
    (h : r.Joins token folder start rel) : ¬r.External token := by
  intro he
  cases h with
  | relative hr => exact he.1 hr
  | aliased _ ha hl => exact he.2 _ ha _ hl.mem hl.starts

theorem locate_isInternal (r : Resolver) (path : String) : (r.locate path).isInternal := by
  unfold locate
  split <;> rfl

theorem locate_ne_external (r : Resolver) (path target : String) :
    r.locate path ≠ ⟨target, .external⟩ := by
  intro h
  have hint := r.locate_isInternal path
  simp [h, Resolution.isInternal] at hint

/-- A file other than the base folder is what its path means. -/
theorem locate_of_mem {r : Resolver} {path : String} (hne : path ≠ Path.root)
    (h : path ∈ r.files) : r.locate path = ⟨path, .resolved⟩ := by
  have hknown : r.files.contains path := Std.HashSet.mem_iff_contains.mp h
  simp [locate, candidates, hne, hknown]

/-- A relative token that leads to the path of a file resolves to this file. -/
theorem resolve?_of_file {r : Resolver} {token folder file : String} (hrel : Token.Relative token)
    (hjoin : Path.join? folder (Token.pathText token) = some file) (hne : file ≠ Path.root)
    (h : file ∈ r.files) : r.resolve? token folder = some ⟨file, .resolved⟩ := by
  rw [resolve?_of_joins (.relative hrel), hjoin, Option.map_some, locate_of_mem hne h]

theorem resolve?_of_no_file {r : Resolver} {token folder path : String}
    (hrel : Token.Relative token) (hjoin : Path.join? folder (Token.pathText token) = some path)
    (h : ∀ c ∈ r.candidates path, c ∉ r.files) :
    r.resolve? token folder = some ⟨path, .unresolved⟩ := by
  rw [resolve?_of_joins (.relative hrel), hjoin, Option.map_some, locate_of_meaning (.nothing h)]

/-- If the base folder is not itself listed as a file, a path counts as resolved exactly if what it
means is a file. -/
theorem locate_resolved_iff {r : Resolver} (hroot : Path.root ∉ r.files) (path : String) :
    (r.locate path).kind = .resolved ↔ (r.locate path).target ∈ r.files := by
  unfold locate
  split
  next file h => exact iff_of_true rfl (Std.HashSet.mem_iff_contains.mpr (List.find?_some h))
  next h =>
    refine iff_of_false (by simp) fun hmem => ?_
    by_cases hp : path = Path.root
    · exact hroot (hp ▸ hmem)
    · have hself : path ∈ r.candidates path := by simp [candidates, hp]
      exact List.find?_eq_none.mp h path hself (Std.HashSet.mem_iff_contains.mp hmem)

/-- What is found within the tree is what a joined path means. -/
theorem exists_locate {r : Resolver} {token folder : String} {found : Resolution}
    (h : r.resolve? token folder = some found) (hint : found.isInternal) :
    ∃ path, Path.Normal path ∧ found = r.locate path := by
  rcases r.external_or_joins token folder with he | ⟨start, rel, hj⟩
  · cases Option.some.inj ((resolve?_of_external folder he).symm.trans h)
    simp [Resolution.isInternal] at hint
  · obtain ⟨path, hpath, rfl⟩ := Option.map_eq_some_iff.mp ((resolve?_of_joins hj).symm.trans h)
    exact ⟨path, Path.normal_of_join? hpath, rfl⟩

theorem resolved_iff_mem {r : Resolver} {token folder : String} {found : Resolution}
    (hroot : Path.root ∉ r.files) (h : r.resolve? token folder = some found)
    (hint : found.isInternal) : found.kind = .resolved ↔ found.target ∈ r.files := by
  obtain ⟨path, _, rfl⟩ := exists_locate h hint
  exact locate_resolved_iff hroot path

/-- The target of a token that leads to no file is the joined path. -/
theorem normal_of_unresolved {r : Resolver} {token folder : String} {found : Resolution}
    (h : r.resolve? token folder = some found) (hkind : found.kind = .unresolved) :
    Path.Normal found.target := by
  obtain ⟨path, hpath, rfl⟩ := exists_locate h (by simp [Resolution.isInternal, hkind])
  have htarget : (r.locate path).target = path := by
    unfold locate at hkind ⊢
    split at hkind
    next => simp at hkind
    next => rfl
  rwa [htarget]

/-- An external token stays as it is. -/
theorem target_of_external {r : Resolver} {token folder : String} {found : Resolution}
    (h : r.resolve? token folder = some found) (hkind : found.kind = .external) :
    found.target = token := by
  rcases r.external_or_joins token folder with he | ⟨start, rel, hj⟩
  · cases Option.some.inj ((resolve?_of_external folder he).symm.trans h)
    rfl
  · obtain ⟨path, _, rfl⟩ := Option.map_eq_some_iff.mp ((resolve?_of_joins hj).symm.trans h)
    have hint := r.locate_isInternal path
    simp [Resolution.isInternal, hkind] at hint

theorem answers_of_external {r : Resolver} {token : String} (folder : String)
    (hroot : Path.root ∉ r.files) (h : r.External token) : r.Answers token folder := by
  have hres := resolve?_of_external folder h
  refine ⟨?_, ?_, ?_, fun found => resolved_iff_mem hroot⟩
  · refine iff_of_false (by simp [hres]) ?_
    rintro ⟨start, rel, hj, _⟩
    exact not_external_of_joins hj h
  · intro target
    simp [hres, h, eq_comm]
  · intro start rel path hj
    exact absurd h (not_external_of_joins hj)

theorem answers_of_joins {r : Resolver} {token folder start rel : String}
    (hroot : Path.root ∉ r.files) (h : r.Joins token folder start rel) :
    r.Answers token folder := by
  have hres := resolve?_of_joins h
  refine ⟨?_, ?_, ?_, fun found => resolved_iff_mem hroot⟩
  · constructor
    · intro hn
      exact ⟨start, rel, h, Path.join?_eq_none_iff.mp (by simpa [hres] using hn)⟩
    · rintro ⟨start', rel', hj, hc⟩
      rw [resolve?_of_joins hj, Path.join?_eq_none_iff.mpr hc]
      rfl
  · intro target
    refine iff_of_false (fun hs => ?_) (fun he => not_external_of_joins h he.1)
    obtain ⟨path, _, hloc⟩ := Option.map_eq_some_iff.mp (hres.symm.trans hs)
    exact r.locate_ne_external path target hloc
  · intro start' rel' path hj hp
    refine ⟨Path.normal_of_join? hp, r.locate path, ?_, r.meaning_locate path⟩
    rw [resolve?_of_joins hj, hp]
    rfl

/-- The whole contract of resolving, for any files, extensions, aliases, token and folder. -/
theorem resolve?_answers (r : Resolver) (token folder : String) (hroot : Path.root ∉ r.files) :
    r.Answers token folder := by
  rcases r.external_or_joins token folder with he | ⟨start, rel, hj⟩
  · exact answers_of_external folder hroot he
  · exact answers_of_joins hroot hj

/-- An aliased token with a climb in it, where the shorter stem of another alias starts it too. -/
theorem resolve?_answers_alias :
    let r : Resolver := ⟨Std.HashSet.ofList ["lib/Button.tsx", "components/Button.tsx"],
      ["ts", "tsx"], some (.ofPairs [("@/", "."), ("@/components/", "./lib/ui/")])⟩
    Path.root ∉ r.files ∧ r.Answers "@/components/../Button" "app" := by
  have hroot : Path.root ∉ Std.HashSet.ofList ["lib/Button.tsx", "components/Button.tsx"] := by
    simp [Std.HashSet.mem_ofList, Path.root]
  exact ⟨hroot, resolve?_answers _ _ _ hroot⟩

end Resolver

end ImportSurvey
