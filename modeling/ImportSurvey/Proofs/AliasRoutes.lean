import ImportSurvey.Proofs.RelativeSpelling

namespace ImportSurvey

namespace Alias

/-- The path from the base folder through the folder of the alias, written as a relative token. -/
def route (a : Alias) (rest : String) : String := "./" ++ a.folder ++ "/" ++ rest

variable {a : Alias} {rest : String}

theorem segments_route : Path.segments (a.route rest) =
    "." :: (Path.segments a.folder ++ Path.segments rest) := by
  have hcut : a.route rest = "." ++ "/" ++ (a.folder ++ "/" ++ rest) := by
    simp only [route, String.append_assoc]
    rfl
  have hfree : '/' ∉ ".".toList := by decide
  rw [hcut, Path.segments_append_slash, Path.segments_append_slash, Path.segments_of_not_mem hfree]
  rfl

theorem relative_route : Token.Relative (a.route rest) :=
  .inl (.inl (by rw [segments_route]; rfl))

theorem pathText_route : Token.pathText (a.route rest) = a.route rest :=
  Token.pathText_of_slash (by simp [route])

/-- The segments of the base folder and of the marker say nothing. -/
theorem join?_route : Path.join? Path.root (a.route rest) = Path.join? a.folder rest := by
  have hsame : Path.directions Path.root (a.route rest) = Path.directions a.folder rest := by
    have hroot : Path.segments Path.root = ["."] := by decide
    simp [Path.directions, hroot, segments_route]
  rw [Path.join?_eq_directions, hsame, ← Path.join?_eq_directions]

end Alias

namespace Resolver

/-- A token that starts with an alias and is not relative leads where the relative path through the
folder of the alias leads from the base folder, whichever folder it is imported in. -/
theorem resolve?_route {r : Resolver} {t : AliasTable} {a : Alias} {token rest : String}
    (haliases : r.aliases = some t) (hmatch : t.match? token = some (a, rest))
    (hrelative : ¬Token.isRelative token) (hdotted : Token.dotted? token = none) :
    (∀ folder, r.resolve? token folder = r.resolve? (a.route rest) Path.root) ∧
      ∀ folder other, r.resolve? token folder = r.resolve? token other := by
  have hplain : ¬Token.Relative token := by
    rw [← Token.isRelative_pathText, Token.pathText, hdotted]
    exact hrelative
  have hroute : ∀ folder, r.resolve? token folder = r.resolve? (a.route rest) Path.root := by
    intro folder
    have hjoins : r.Joins token folder a.folder rest :=
      .aliased hplain haliases (AliasTable.longest_of_match? hmatch)
    rw [resolve?_of_joins hjoins, resolve?_of_joins (.relative Alias.relative_route),
      Alias.pathText_route, Alias.join?_route]
  exact ⟨hroute, fun folder other => (hroute folder).trans (hroute other).symm⟩

/-- Nothing behind the alias, a slash or a climb out of the tree behind it, and the base folder as
its folder. -/
theorem resolve?_route_corners :
    let t : AliasTable := .ofPairs [("~", "./src/"), ("@/", ".")]
    let r : Resolver := ⟨.ofList ["src/index.ts", "index.ts"], ["ts"], some t⟩
    ∀ token a rest, (token, a, rest) ∈ [("~", (⟨"~", "src"⟩ : Alias), ""),
        ("~/index", ⟨"~", "src"⟩, "/index"), ("~/../..", ⟨"~", "src"⟩, "/../.."),
        ("@/", ⟨"@/", "."⟩, "")] →
      t.match? token = some (a, rest) ∧ ¬Token.isRelative token ∧ Token.dotted? token = none ∧
        ∀ folder, r.resolve? token folder = r.resolve? (a.route rest) Path.root := by
  intro t r token a rest hmem
  have hall : ∀ entry ∈ [("~", (⟨"~", "src"⟩ : Alias), ""), ("~/index", ⟨"~", "src"⟩, "/index"),
      ("~/../..", ⟨"~", "src"⟩, "/../.."), ("@/", ⟨"@/", "."⟩, "")],
      t.match? entry.1 = some entry.2 ∧ ¬Token.isRelative entry.1 ∧
        Token.dotted? entry.1 = none := by decide
  obtain ⟨hmatch, hrelative, hdotted⟩ := hall _ hmem
  exact ⟨hmatch, hrelative, hdotted, (resolve?_route rfl hmatch hrelative hdotted).1⟩

end Resolver

end ImportSurvey
