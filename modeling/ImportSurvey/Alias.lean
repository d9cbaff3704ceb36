import ImportSurvey.Path.Basic

namespace ImportSurvey

/-- A token that starts with the stem means what follows the stem, taken from the folder. -/
structure Alias where
  stem : String
  folder : String
deriving DecidableEq, Repr

/-- Aliases with distinct stems that are not empty, longer stems first. -/
structure AliasTable where
  entries : List Alias
  stem_ne : ∀ a ∈ entries, a.stem ≠ ""
  distinct : entries.Pairwise fun a b => a.stem ≠ b.stem
  sorted : entries.Pairwise fun a b => b.stem.utf8ByteSize ≤ a.stem.utf8ByteSize
deriving DecidableEq, Repr

namespace Alias

/-- Drops every `./` from the front. -/
def dropDotSlashes : List Char → List Char
  | '.' :: '/' :: rest => dropDotSlashes rest
  | text => text

/-- A folder as aliases keep it: without `./` in front and slashes behind, and the base folder if
nothing is left. -/
def cleanFolder (text : String) : String :=
  match Text.dropTrailing '/' (dropDotSlashes text.toList) with
  | [] => Path.root
  | c :: rest => String.ofList (c :: rest)

end Alias

namespace AliasTable

def empty : AliasTable := ⟨[], by simp, .nil, .nil⟩

instance : Inhabited AliasTable := ⟨empty⟩

/-- Puts an alias behind all others whose stem is at least as long. -/
def place (a : Alias) : List Alias → List Alias
  | [] => [a]
  | b :: rest =>
    if b.stem.utf8ByteSize < a.stem.utf8ByteSize then a :: b :: rest else b :: place a rest

theorem place_perm (a : Alias) (entries : List Alias) : (place a entries).Perm (a :: entries) := by
  induction entries with
  | nil => exact .refl _
  | cons b rest ih =>
    simp only [place]
    split
    · exact .refl _
    · exact (ih.cons b).trans (.swap a b rest)

theorem sorted_place {a : Alias} {entries : List Alias}
    (h : entries.Pairwise fun a b => b.stem.utf8ByteSize ≤ a.stem.utf8ByteSize) :
    (place a entries).Pairwise fun a b => b.stem.utf8ByteSize ≤ a.stem.utf8ByteSize := by
  induction entries with
  | nil => exact List.pairwise_singleton _ _
  | cons b rest ih =>
    obtain ⟨hb, hrest⟩ := List.pairwise_cons.mp h
    simp only [place]
    split
    next hlt =>
      refine List.pairwise_cons.mpr ⟨fun c hc => ?_, h⟩
      rcases List.mem_cons.mp hc with rfl | hc
      · omega
      · have := hb c hc
        omega
    next hge =>
      refine List.pairwise_cons.mpr ⟨fun c hc => ?_, ih hrest⟩
      rcases List.mem_cons.mp ((place_perm a rest).mem_iff.mp hc) with rfl | hc
      · omega
      · exact hb c hc

/-- Enters an alias, unless its stem is empty or already there. -/
def enter (t : AliasTable) (stem folder : String) : AliasTable :=
  if h : stem.isEmpty || t.entries.any (·.stem == stem) then t
  else
    have new : stem ≠ "" ∧ ∀ a ∈ t.entries, stem ≠ a.stem := by
      simp only [Bool.or_eq_true, String.isEmpty_iff, List.any_eq_true, beq_iff_eq, not_or,
        not_exists, not_and] at h
      exact ⟨h.1, fun a ha => Ne.symm (h.2 a ha)⟩
    have perm := place_perm ⟨stem, Alias.cleanFolder folder⟩ t.entries
    ⟨place ⟨stem, Alias.cleanFolder folder⟩ t.entries,
      fun a ha => (List.mem_cons.mp (perm.mem_iff.mp ha)).elim (· ▸ new.1) (t.stem_ne a),
      (perm.pairwise_iff (fun hne => Ne.symm hne)).mpr (List.pairwise_cons.mpr ⟨new.2, t.distinct⟩),
      sorted_place t.sorted⟩

/-- Enters pairs of stem and folder one after the other. -/
def enterAll (t : AliasTable) (pairs : List (String × String)) : AliasTable :=
  pairs.foldl (fun t pair => t.enter pair.1 pair.2) t

def ofPairs (pairs : List (String × String)) : AliasTable := empty.enterAll pairs

/-- The first alias whose stem starts the token, and what follows the stem. -/
def match? (t : AliasTable) (token : String) : Option (Alias × String) :=
  t.entries.findSome? fun a =>
    (Text.after? a.stem.toList token.toList).map fun rest => (a, String.ofList rest)

end AliasTable

end ImportSurvey
