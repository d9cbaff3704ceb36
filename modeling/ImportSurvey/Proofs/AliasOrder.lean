import Mathlib.Data.List.Induction
import ImportSurvey.Proofs.AliasPairs
import ImportSurvey.Proofs.StableSorts

namespace ImportSurvey

theorem eraseDupsBy_loop_append {α : Type} (same : α → α → Bool) (list more kept : List α) :
    List.eraseDupsBy.loop same (list ++ more) kept =
      List.eraseDupsBy.loop same more (List.eraseDupsBy.loop same list kept).reverse := by
  induction list generalizing kept with
  | nil => simp [List.eraseDupsBy.loop]
  | cons a list ih =>
    simp only [List.cons_append, List.eraseDupsBy.loop]
    split
    next => exact ih kept
    next => exact ih (a :: kept)

/-- The last member is kept unless one that is kept has the same. -/
theorem eraseDupsBy_concat {α : Type} (same : α → α → Bool) (list : List α) (a : α) :
    (list ++ [a]).eraseDupsBy same =
      if (list.eraseDupsBy same).any (same a) then list.eraseDupsBy same
      else list.eraseDupsBy same ++ [a] := by
  have hlast : (list ++ [a]).eraseDupsBy same =
      List.eraseDupsBy.loop same [a] (list.eraseDupsBy same).reverse :=
    eraseDupsBy_loop_append same list [a] []
  rw [hlast]
  by_cases h : (list.eraseDupsBy same).any (same a)
  · simp [List.eraseDupsBy.loop, h]
  · simp [List.eraseDupsBy.loop, h]

namespace Alias

/-- The number of bytes of the stem. -/
def size (a : Alias) : Nat := a.stem.utf8ByteSize

def ofPair (pair : String × String) : Alias := ⟨pair.1, cleanFolder pair.2⟩

/-- The aliases of the pairs that have a stem and are the first with their stem. -/
def firsts (pairs : List (String × String)) : List Alias :=
  ((pairs.filter (·.1 ≠ "")).eraseDupsBy (·.1 == ·.1)).map ofPair

theorem firsts_concat (pairs : List (String × String)) (pair : String × String) :
    firsts (pairs ++ [pair]) =
      if pair.1 = "" ∨ pair.1 ∈ (firsts pairs).map stem then firsts pairs
      else firsts pairs ++ [ofPair pair] := by
  by_cases hempty : pair.1 = ""
  · simp [firsts, hempty]
  · have hstem : pair.1 ∈ (firsts pairs).map stem ↔
        ((pairs.filter (·.1 ≠ "")).eraseDupsBy (·.1 == ·.1)).any (pair.1 == ·.1) := by
      simp only [firsts, List.map_map, List.mem_map, List.any_eq_true, beq_iff_eq]
      exact exists_congr fun other => and_congr_right fun _ => eq_comm
    have hkept : (pairs ++ [pair]).filter (·.1 ≠ "") = pairs.filter (·.1 ≠ "") ++ [pair] := by
      simp [hempty]
    rw [firsts, hkept, eraseDupsBy_concat, apply_ite (List.map ofPair), List.map_append]
    simp only [hempty, false_or, hstem]
    rfl

end Alias

namespace AliasTable

variable {a : Alias} {entries : List Alias}

/-- An alias is placed where a stable sort puts it if it stands behind all others. -/
theorem stablySorts_place (h : Descending Alias.size entries) :
    StablySorts Alias.size (entries ++ [a]) (place a entries) := by
  refine ⟨sorted_place h, fun n => ?_⟩
  induction entries with
  | nil => rfl
  | cons b rest ih =>
    simp only [place]
    split
    next hlt =>
      have hshorter : b.size < a.size := hlt
      by_cases hn : a.size = n
      · have hnone : (b :: rest).filter (·.size == n) = [] := by
          refine h.filter_eq_nil fun c hc => ?_
          have hsize : c.size = n := beq_iff_eq.mp hc
          omega
        have hkept : ∀ more, (a :: more).filter (·.size == n) = a :: more.filter (·.size == n) :=
          fun more => List.filter_cons_of_pos (beq_iff_eq.mpr hn)
        rw [List.filter_append, hnone, hkept, hkept, hnone]
        rfl
      · simp [List.filter_cons, hn]
    next => simp only [List.cons_append, List.filter_cons, ih (List.Pairwise.of_cons h)]

theorem place_eq_mergeSort (h : Descending Alias.size entries) :
    place a entries = (entries ++ [a]).mergeSort (largerFirst Alias.size) :=
  stablySorts_iff.mp (stablySorts_place h)

theorem sublist_place (a : Alias) (entries : List Alias) : entries.Sublist (place a entries) := by
  induction entries with
  | nil => exact List.nil_sublist _
  | cons b rest ih =>
    simp only [place]
    split
    next => exact List.sublist_cons_self a _
    next => exact ih.cons_cons b

/-- Entering an alias puts it behind the others and sorts them again. -/
theorem entries_enter_eq_mergeSort (t : AliasTable) (stem folder : String) :
    (t.enter stem folder).entries =
      if stem = "" ∨ stem ∈ t.entries.map Alias.stem then t.entries
      else (t.entries ++ [Alias.ofPair (stem, folder)]).mergeSort (largerFirst Alias.size) := by
  rw [entries_enter, place_eq_mergeSort t.sorted]
  rfl

theorem sublist_enterAll (t : AliasTable) (pairs : List (String × String)) :
    t.entries.Sublist (t.enterAll pairs).entries := by
  induction pairs generalizing t with
  | nil => exact List.Sublist.refl _
  | cons pair rest ih =>
    refine List.Sublist.trans ?_ (ih (t.enter pair.1 pair.2))
    rw [entries_enter]
    split
    next => exact List.Sublist.refl _
    next => exact sublist_place _ _

theorem ofPairs_append (pairs more : List (String × String)) :
    ofPairs (pairs ++ more) = (ofPairs pairs).enterAll more :=
  List.foldl_append

theorem ofPairs_concat (pairs : List (String × String)) (pair : String × String) :
    ofPairs (pairs ++ [pair]) = (ofPairs pairs).enter pair.1 pair.2 :=
  ofPairs_append pairs [pair]

theorem entries_ofPairs_eq_mergeSort (pairs : List (String × String)) :
    (ofPairs pairs).entries = (Alias.firsts pairs).mergeSort (largerFirst Alias.size) := by
  induction pairs using List.reverseRecOn with
  | nil => simp [ofPairs, enterAll, empty, Alias.firsts]
  | append_singleton pairs pair ih =>
    have hstems : pair.1 ∈ (ofPairs pairs).entries.map Alias.stem ↔
        pair.1 ∈ (Alias.firsts pairs).map Alias.stem := by
      simp only [ih, List.mem_map, List.mem_mergeSort]
    rw [ofPairs_concat, entries_enter_eq_mergeSort, Alias.firsts_concat]
    simp only [hstems]
    split
    next => exact ih
    next => rw [ih, mergeSort_mergeSort_append]

/-- The table is sorted again behind each alias that is entered, but what it holds in the end is one
stable sort of the first pairs of all stems. Whatever is entered later, an alias stays as it is, and
before those that it stood before. -/
theorem ofPairs_sorts_once (pairs : List (String × String)) :
    (ofPairs pairs).entries = (Alias.firsts pairs).mergeSort (largerFirst Alias.size) ∧
      (∀ stem folder, (ofPairs (pairs ++ [(stem, folder)])).entries =
        if stem = "" ∨ stem ∈ (ofPairs pairs).entries.map Alias.stem then (ofPairs pairs).entries
        else ((ofPairs pairs).entries ++ [Alias.ofPair (stem, folder)]).mergeSort
          (largerFirst Alias.size)) ∧
      ((ofPairs pairs).entries.map Alias.stem).Nodup ∧
      "" ∉ (ofPairs pairs).entries.map Alias.stem ∧
      StablySorts Alias.size (Alias.firsts pairs) (ofPairs pairs).entries ∧
      ∀ more, (ofPairs pairs).entries.Sublist (ofPairs (pairs ++ more)).entries := by
  have hsort := entries_ofPairs_eq_mergeSort pairs
  refine ⟨hsort, fun stem folder => ?_, ?_, fun hempty => ?_, stablySorts_iff.mpr hsort,
    fun more => ?_⟩
  · rw [ofPairs_concat]
    exact entries_enter_eq_mergeSort _ stem folder
  · exact List.pairwise_map.mpr (ofPairs pairs).distinct
  · obtain ⟨a, ha, hstem⟩ := List.mem_map.mp hempty
    exact (ofPairs pairs).stem_ne a ha hstem
  · rw [ofPairs_append]
    exact sublist_enterAll _ more

/-- Of stems with equally many bytes the one that was entered first comes first. -/
example : (ofPairs [("@", "a"), ("~/", "./b/"), ("", "c"), ("é", "d"), ("~/", "e"),
    ("@ui", "./")]).entries = [⟨"@ui", "."⟩, ⟨"~/", "b"⟩, ⟨"é", "d"⟩, ⟨"@", "a"⟩] := by
  decide

end AliasTable

end ImportSurvey
