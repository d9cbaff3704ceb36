import ImportSurvey.PathMappings
import ImportSurvey.Proofs.CatalogLookup
import ImportSurvey.Proofs.PathSplitting
import ImportSurvey.Proofs.PlaceParts

namespace ImportSurvey

namespace Path

theorem last_of_join? {folder rel last path : String} {front : List String}
    (hrel : segments rel = front ++ [last]) (hlast : Ordinary last)
    (h : join? folder rel = some path) : leaf path = last := by
  obtain ⟨trail, htrail, rfl⟩ := Option.map_eq_some_iff.mp h
  have hfree : ∀ s ∈ trail, '/' ∉ s.toList := by
    intro s hs
    obtain ⟨hmem, _⟩ := (mem_of_foldlM_step? htrail hs).resolve_left (by simp)
    rcases List.mem_append.mp hmem with hmem | hmem
    · exact slash_not_mem_of_mem_segments hmem
    · exact slash_not_mem_of_mem_segments hmem
  rw [hrel, ← List.append_assoc, List.foldlM_append] at htrail
  obtain ⟨outer, _, hstep⟩ := Option.bind_eq_some_iff.mp htrail
  have hcons : trail = last :: outer := by
    rw [List.foldlM_cons, step?_ordinary outer hlast] at hstep
    exact (Option.some.inj hstep).symm
  have hsegs := segments_ofTrail (by simp [hcons]) hfree
  rw [hcons, List.reverse_cons] at hsegs
  rw [hcons]
  exact leaf_of_segments hsegs

/-- An empty segment between others makes no difference to a join. -/
theorem join?_append_slash {target : String} {front : List String}
    (h : segments target = front ++ [""]) (base rest : String) :
    join? base (target ++ "/" ++ rest) = join? base (target ++ rest) := by
  have hsame : moves (target ++ "/" ++ rest) = moves (target ++ rest) := by
    rw [moves_append_slash, moves, moves, moves, segments_append_of_open h, h]
    simp
  exact join?_congr rfl hsame

/-- The last segment is empty only where nothing stands, or nothing behind a slash. -/
theorem last_eq_empty_iff {path last : String} {front : List String}
    (h : segments path = front ++ [last]) : last = "" ↔ path = "" ∨ path.endsWith "/" := by
  rw [Place.endsWith_slash_iff]
  constructor
  · rintro rfl
    have hpath := ofSegments_segments path
    rw [h] at hpath
    by_cases hf : front = []
    · left
      rw [← hpath, hf]
      rfl
    · right
      rw [← hpath, ofSegments_append hf (List.cons_ne_nil _ _)]
      simp
  · intro hpath
    have hsegs : ∃ outer, segments path = outer ++ [""] := by
      rcases hpath with rfl | hend
      · exact ⟨[], by decide⟩
      · obtain ⟨before, hbefore⟩ := List.getLast?_eq_some_iff.mp hend
        have hcut : path = String.ofList before ++ "/" ++ "" := by
          apply String.toList_inj.mp
          simp [hbefore]
        exact ⟨segments (String.ofList before), by rw [hcut, segments_append_slash]; rfl⟩
    obtain ⟨outer, hsegs⟩ := hsegs
    exact (List.append_inj' (h.symm.trans hsegs) rfl).2 |> List.singleton_inj.mp

/-- Behind a last segment that is not empty, a name does not become a segment of its own. -/
theorem join?_name_ne {base target folder last : String} {front : List String}
    (hjoin : join? base target = some folder) (htarget : segments target = front ++ [last])
    (hne : last ≠ "") : join? folder "x" ≠ join? base (target ++ "x") := by
  intro heq
  have hx : '/' ∉ "x".toList := by decide
  have hpath : join? folder "x" = some (inFolder folder "x") :=
    join?_name (normal_of_join? hjoin) (by decide) hx
  have hend : (last ++ "x").toList.getLast? = some 'x' := by simp
  have hdiffers : ∀ text : String, text.toList.getLast? ≠ some 'x' → last ++ "x" ≠ text := by
    rintro _ htext rfl
    exact htext hend
  have hord : Ordinary (last ++ "x") :=
    ⟨hdiffers "" (by decide), hdiffers "." (by decide), hdiffers ".." (by decide)⟩
  have hleft : leaf (inFolder folder "x") = "x" := leaf_inFolder folder hx
  have hright : leaf (inFolder folder "x") = last ++ "x" :=
    last_of_join? (segments_append_name htarget hx) hord (heq ▸ hpath)
  have hlast : last.toList ++ ['x'] = ['x'] := by
    have := congrArg String.toList (hright.symm.trans hleft)
    simpa using this
  exact hne (String.toList_eq_nil_iff.mp (by simpa using hlast))

end Path

namespace PathMappings

variable {m : PathMappings} {pattern stem base target folder : String} {targets more : List String}

theorem stem?_eq_some_iff : stem? pattern = some stem ↔ pattern = stem ++ "*" := by
  rw [stem?, Option.map_eq_some_iff]
  constructor
  · rintro ⟨text, htext, rfl⟩
    apply String.toList_inj.mp
    simpa using Text.before?_eq_some_iff.mp htext
  · rintro rfl
    exact ⟨stem.toList, Text.before?_eq_some_iff.mpr (by simp), String.ofList_toList⟩

theorem aliasOf?_eq_some_iff :
    aliasOf? base pattern targets = some (stem, folder) ↔ stem ≠ "" ∧ pattern = stem ++ "*" ∧
      ∃ target more, targets = (target ++ "*") :: more ∧ Path.join? base target = some folder := by
  unfold aliasOf?
  constructor
  · intro h
    obtain ⟨front, hfront, h⟩ := Option.bind_eq_some_iff.mp h
    obtain ⟨first, hfirst, h⟩ := Option.bind_eq_some_iff.mp h
    obtain ⟨target, htarget, h⟩ := Option.bind_eq_some_iff.mp h
    obtain ⟨found, hfound, h⟩ := Option.bind_eq_some_iff.mp h
    split at h
    next => simp at h
    next hne =>
      obtain ⟨rfl, rfl⟩ := Prod.mk.inj (Option.some.inj h)
      obtain ⟨more, rfl⟩ := List.head?_eq_some_iff.mp hfirst
      have hstar := stem?_eq_some_iff.mp htarget
      exact ⟨by simpa using hne, stem?_eq_some_iff.mp hfront, target, more, by rw [hstar], hfound⟩
  · rintro ⟨hne, hpattern, target, more, rfl, hfolder⟩
    have htarget : stem? (target ++ "*") = some target := stem?_eq_some_iff.mpr rfl
    simp [stem?_eq_some_iff.mpr hpattern, htarget, hfolder, hne]

/-- The aliases are those of the patterns with a star behind a stem, of which the first target has a
star at its end and does not lie outside. -/
theorem mem_aliases_iff :
    (stem, folder) ∈ m.aliases ↔ stem ≠ "" ∧ ∃ target more,
      m.targets.get? (stem ++ "*") = some ((target ++ "*") :: more) ∧
        Path.join? m.base target = some folder := by
  rw [aliases, List.mem_filterMap]
  constructor
  · rintro ⟨⟨pattern, targets⟩, hentry, halias⟩
    obtain ⟨hne, rfl, target, more, rfl, hfolder⟩ := aliasOf?_eq_some_iff.mp halias
    exact ⟨hne, target, more, Catalog.get?_eq_some_iff.mpr hentry, hfolder⟩
  · rintro ⟨hne, target, more, hget, hfolder⟩
    refine ⟨_, Catalog.get?_eq_some_iff.mp hget, ?_⟩
    exact aliasOf?_eq_some_iff.mpr ⟨hne, rfl, target, more, rfl, hfolder⟩

theorem normal_of_mem_aliases (h : (stem, folder) ∈ m.aliases) : Path.Normal folder := by
  obtain ⟨_, _, _, _, hjoin⟩ := mem_aliases_iff.mp h
  exact Path.normal_of_join? hjoin

/-- The folder of an alias stands for the first target with the rest of a token behind it. -/
def Substitutes (base target folder : String) : Prop :=
  ∀ rest, Path.join? folder rest = Path.join? base (target ++ rest)

/-- An alias always leads into its target, taken as a folder. That is the same as putting the rest
of a token in the place of the star exactly if the star stands alone or behind a slash. -/
theorem substitutes_iff (hentry : m.targets.get? (stem ++ "*") = some ((target ++ "*") :: more))
    (halias : (stem, folder) ∈ m.aliases) :
    (∀ rest, Path.join? folder rest = Path.join? m.base (target ++ "/" ++ rest)) ∧
      (Substitutes m.base target folder ↔ target = "" ∨ target.endsWith "/") := by
  have hjoin : Path.join? m.base target = some folder := by
    obtain ⟨_, first, others, hget, hfolder⟩ := mem_aliases_iff.mp halias
    obtain ⟨hfirst, _⟩ := List.cons.inj (Option.some.inj (hget.symm.trans hentry))
    rwa [(String.append_left_inj _).mp hfirst] at hfolder
  have hfolder := Path.join?_join? hjoin
  obtain ⟨front, last, hsegs⟩ := Path.exists_segments_append target
  refine ⟨hfolder, ?_⟩
  rw [← Path.last_eq_empty_iff hsegs]
  constructor
  · intro hsame
    by_contra hne
    exact Path.join?_name_ne hjoin hsegs hne (hsame "x")
  · rintro rfl rest
    rw [hfolder, Path.join?_append_slash hsegs]

/-- With a star right behind a name, the rest of a token becomes a name of its own. -/
theorem not_substitutes_of_star_behind_name :
    let m : PathMappings := ⟨Path.root, .ofList [("lib*", ["src/lib*"])]⟩
    m.targets.get? ("lib" ++ "*") = some ["src/lib" ++ "*"] ∧ ("lib", "src/lib") ∈ m.aliases ∧
      Path.join? "src/lib" "foo" = some "src/lib/foo" ∧
      Path.join? m.base ("src/lib" ++ "foo") = some "src/libfoo" ∧
      ¬Substitutes m.base "src/lib" "src/lib" := by
  intro m
  have hentry : m.targets.get? ("lib" ++ "*") = some ["src/lib" ++ "*"] := by decide
  have halias : ("lib", "src/lib") ∈ m.aliases :=
    mem_aliases_iff.mpr ⟨by decide, "src/lib", [], hentry, by decide⟩
  refine ⟨hentry, halias, by decide, by decide, ?_⟩
  rw [(substitutes_iff hentry halias).2, Place.endsWith_slash_iff]
  decide

end PathMappings

end ImportSurvey
