import ImportSurvey.Proofs.PathJoin
import Mathlib.Data.List.Induction
import Mathlib.Logic.Function.Basic
import Mathlib.Order.Bounds.Basic

namespace ImportSurvey.Path

/-- At `i`, before `n`, stands an ordinary segment with which no climb before `n` is matched. -/
def Unmatched (segs : List String) (partner : Nat → Option Nat) (n i : Nat) : Prop :=
  i < n ∧ (∃ s ∈ segs[i]?, Ordinary s) ∧ ∀ j < n, partner j ≠ some i

instance (segs : List String) (partner : Nat → Option Nat) (n i : Nat) :
    Decidable (Unmatched segs partner n i) := inferInstanceAs (Decidable (_ ∧ _ ∧ _))

/-- The partner of every climb is the nearest ordinary segment before it that is unmatched when the
climb is reached. -/
structure Matching (segs : List String) (partner : Nat → Option Nat) : Prop where
  paired_iff : ∀ j, (∃ i, partner j = some i) ↔ segs[j]? = some ".."
  nearest : ∀ j i, partner j = some i → IsGreatest {i | Unmatched segs partner j i} i

/-- The positions that are unmatched before `n`. -/
def survivors (segs : List String) (partner : Nat → Option Nat) (n : Nat) : List Nat :=
  (List.range n).filter fun i => Unmatched segs partner n i

/-- The segments that are unmatched before `n`. -/
def kept (segs : List String) (partner : Nat → Option Nat) (n : Nat) : List String :=
  (survivors segs partner n).filterMap fun i => segs[i]?

/-- The segments that stay unmatched. -/
def remaining (segs : List String) (partner : Nat → Option Nat) : List String :=
  kept segs partner segs.length

variable {segs : List String} {partner other : Nat → Option Nat} {n : Nat}

theorem mem_survivors_iff {i : Nat} :
    i ∈ survivors segs partner n ↔ Unmatched segs partner n i := by
  simp only [survivors, List.mem_filter, List.mem_range, decide_eq_true_eq]
  exact and_iff_right_of_imp fun h => h.1

/-- The survivor that stands last is the nearest one. -/
theorem isGreatest_of_survivors {front : List Nat} {last : Nat}
    (h : survivors segs partner n = front ++ [last]) :
    IsGreatest {i | Unmatched segs partner n i} last ∧ ∀ i ∈ front, i < last := by
  have hsorted : (survivors segs partner n).Pairwise (· < ·) := List.pairwise_lt_range.filter _
  rw [h] at hsorted
  have hbelow : ∀ i ∈ front, i < last := fun i hi =>
    (List.pairwise_append.mp hsorted).2.2 i hi last (List.mem_singleton_self last)
  refine ⟨⟨mem_survivors_iff.mp (by simp [h]), fun i hi => ?_⟩, hbelow⟩
  have hmem := mem_survivors_iff.mpr hi
  rw [h] at hmem
  rcases List.mem_append.mp hmem with hi | hi
  · exact Nat.le_of_lt (hbelow i hi)
  · exact Nat.le_of_eq (List.mem_singleton.mp hi)

theorem unmatched_succ_iff {i : Nat} (hi : i < n) :
    Unmatched segs partner (n + 1) i ↔ Unmatched segs partner n i ∧ partner n ≠ some i := by
  simp only [Unmatched, Nat.forall_lt_succ_right, hi, Nat.lt_succ_of_lt hi, true_and, and_assoc]

theorem survivors_succ : survivors segs partner (n + 1) =
    (survivors segs partner n).filter (fun i => partner n ≠ some i) ++
      [n].filter fun i => Unmatched segs partner (n + 1) i := by
  rw [survivors, List.range_succ, List.filter_append, survivors, List.filter_filter]
  congr 1
  refine List.filter_congr fun i hi => ?_
  simp [unmatched_succ_iff (List.mem_range.mp hi), and_comm]

theorem unmatched_congr {segs' : List String} {i : Nat} (hsegs : ∀ i < n, segs[i]? = segs'[i]?)
    (hpartner : ∀ j < n, partner j = other j) :
    Unmatched segs partner n i ↔ Unmatched segs' other n i := by
  unfold Unmatched
  refine and_congr_right fun hi => ?_
  rw [hsegs i hi]
  refine and_congr_right fun _ => forall₂_congr fun j hj => ?_
  rw [hpartner j hj]

namespace Matching

theorem partner_eq_none (h : Matching segs partner) (hn : segs[n]? ≠ some "..") :
    partner n = none :=
  Option.eq_none_iff_forall_ne_some.mpr fun i hi => hn ((h.paired_iff n).mp ⟨i, hi⟩)

theorem lt_of_partner {i j : Nat} (h : Matching segs partner) (hj : partner j = some i) : i < j :=
  (h.nearest j i hj).1.1

/-- An ordinary segment stays, and nothing before it is cancelled. -/
theorem survivors_ordinary {s : String} (h : Matching segs partner) (hs : segs[n]? = some s)
    (hord : Ordinary s) : survivors segs partner (n + 1) = survivors segs partner n ++ [n] := by
  have hnone : partner n = none := h.partner_eq_none (by simp [hs, hord.2.2])
  have hnew : Unmatched segs partner (n + 1) n := by
    refine ⟨Nat.lt_succ_self n, ⟨s, hs, hord⟩, fun j hj hp => ?_⟩
    have := h.lt_of_partner hp
    omega
  simp [survivors_succ, hnone, hnew]

/-- A climb cancels the last segment that is left. -/
theorem survivors_climb (h : Matching segs partner) (hs : segs[n]? = some "..") :
    ∃ front last, survivors segs partner n = front ++ [last] ∧
      survivors segs partner (n + 1) = front := by
  obtain ⟨i, hi⟩ := (h.paired_iff n).mpr hs
  have hnearest := h.nearest n i hi
  rcases List.eq_nil_or_concat (survivors segs partner n) with hnil | ⟨front, last, hlast⟩
  · have hmem : i ∈ survivors segs partner n := mem_survivors_iff.mpr hnearest.1
    simp [hnil] at hmem
  rw [List.concat_eq_append] at hlast
  obtain ⟨hgreatest, hbelow⟩ := isGreatest_of_survivors hlast
  have heq : i = last := hnearest.unique hgreatest
  have hnew : ¬Unmatched segs partner (n + 1) n := by
    rintro ⟨_, ⟨s, hmem, hord⟩, _⟩
    exact hord.2.2 (Option.some.inj (hmem.symm.trans hs))
  have hkeep : front.filter (fun k => partner n ≠ some k) = front :=
    List.filter_eq_self.mpr fun k hk => by
      have := hbelow k hk
      simp [hi, heq]
      omega
  refine ⟨front, last, hlast, ?_⟩
  rw [survivors_succ, hlast, List.filter_append, hkeep]
  simp [hi, heq, hnew]

/-- After `n` segments the trail leads through the segments that are unmatched there. -/
theorem foldlM_take (h : Matching segs partner) (hidle : ∀ s ∈ segs, ¬(s = "" ∨ s = "."))
    (hn : n ≤ segs.length) :
    (segs.take n).foldlM step? [] = some (kept segs partner n).reverse := by
  induction n with
  | zero => rfl
  | succ n ih =>
    have hlt : n < segs.length := hn
    have hget : segs[n]? = some segs[n] := List.getElem?_eq_getElem hlt
    rw [List.take_succ_eq_append_getElem hlt, List.foldlM_append, ih (Nat.le_of_lt hlt)]
    rcases segment_cases segs[n] with hs | hs | hs
    · exact absurd hs (hidle _ (List.getElem_mem hlt))
    · obtain ⟨front, last, hbefore, hafter⟩ := h.survivors_climb (hget.trans (congrArg some hs))
      have hmem : last ∈ survivors segs partner n := by simp [hbefore]
      obtain ⟨_, ⟨s, hlast, _⟩, _⟩ := mem_survivors_iff.mp hmem
      have hlast : segs[last]? = some s := hlast
      simp [hs, kept, hbefore, hafter, hlast]
    · simp [kept, h.survivors_ordinary hget hs, hget, step?_ordinary _ hs]

/-- No two matchings differ: the first climb with two partners would have two nearest ones. -/
theorem unique (h : Matching segs partner) (h' : Matching segs other) : partner = other := by
  funext j
  induction j using Nat.strong_induction_on with
  | _ j ih =>
    by_cases hj : segs[j]? = some ".."
    · obtain ⟨i, hi⟩ := (h.paired_iff j).mpr hj
      obtain ⟨k, hk⟩ := (h'.paired_iff j).mpr hj
      have hset : {i | Unmatched segs partner j i} = {i | Unmatched segs other j i} :=
        Set.ext fun _ => unmatched_congr (fun _ _ => rfl) ih
      have hgreatest := h.nearest j i hi
      rw [hset] at hgreatest
      rw [hi, hk, hgreatest.unique (h'.nearest j k hk)]
    · rw [h.partner_eq_none hj, h'.partner_eq_none hj]

theorem concat {s : String} (h : Matching segs partner) (last : Option Nat)
    (hlast : (∃ i, last = some i) ↔ s = "..")
    (hnearest : ∀ i, last = some i → IsGreatest {i | Unmatched segs partner segs.length i} i) :
    Matching (segs ++ [s]) (Function.update partner segs.length last) := by
  have hbefore : ∀ j < segs.length, Function.update partner segs.length last j = partner j :=
    fun j hj => Function.update_of_ne (Nat.ne_of_lt hj) _ _
  have hbehind : ∀ j > segs.length, Function.update partner segs.length last j = none := by
    intro j hj
    rw [Function.update_of_ne (Nat.ne_of_gt hj)]
    exact h.partner_eq_none (by simp [Nat.le_of_lt hj])
  have hset : ∀ j ≤ segs.length, {i | Unmatched (segs ++ [s])
      (Function.update partner segs.length last) j i} = {i | Unmatched segs partner j i} :=
    fun j hj => Set.ext fun _ => unmatched_congr
      (fun i hi => List.getElem?_append_left (by omega)) fun k hk => hbefore k (by omega)
  constructor
  · intro j
    rcases Nat.lt_trichotomy j segs.length with hj | rfl | hj
    · rw [hbefore j hj, h.paired_iff, List.getElem?_append_left hj]
    · simp [hlast]
    · have hout : (segs ++ [s])[j]? = none := List.getElem?_eq_none (by simp; omega)
      simp [hbehind j hj, hout]
  · intro j i hi
    rcases Nat.lt_trichotomy j segs.length with hj | rfl | hj
    · rw [hset j (Nat.le_of_lt hj)]
      exact h.nearest j i (hbefore j hj ▸ hi)
    · rw [hset _ (Nat.le_refl _)]
      exact hnearest i (by simpa using hi)
    · simp [hbehind j hj] at hi

end Matching

theorem exists_matching (hidle : ∀ s ∈ segs, ¬(s = "" ∨ s = "."))
    (h : segs.foldlM step? [] ≠ none) : ∃ partner, Matching segs partner := by
  induction segs using List.reverseRecOn with
  | nil => exact ⟨fun _ => none, by simp, by simp⟩
  | append_singleton segs s ih =>
    rw [List.foldlM_append] at h
    have hfront : ∀ t ∈ segs, ¬(t = "" ∨ t = ".") := fun t ht =>
      hidle t (List.mem_append_left _ ht)
    obtain ⟨partner, hpartner⟩ := ih hfront fun hn => by simp [hn] at h
    have hfold := hpartner.foldlM_take hfront (Nat.le_refl _)
    rw [List.take_length] at hfold
    rcases segment_cases s with hs | rfl | hs
    · exact absurd hs (hidle s (by simp))
    · rcases List.eq_nil_or_concat (survivors segs partner segs.length) with hnil | ⟨front, i, hi⟩
      · simp [hfold, kept, hnil] at h
      rw [List.concat_eq_append] at hi
      refine ⟨_, hpartner.concat (some i) (by simp) fun k hk => ?_⟩
      cases hk
      exact (isGreatest_of_survivors hi).1
    · exact ⟨_, hpartner.concat none (by simp [hs.2.2]) (by simp)⟩

theorem mem_of_mem_kept {s : String} (h : s ∈ kept segs partner n) : s ∈ segs ∧ Ordinary s := by
  obtain ⟨i, hi, hs⟩ := List.mem_filterMap.mp h
  obtain ⟨_, ⟨t, ht, hord⟩, _⟩ := mem_survivors_iff.mp hi
  obtain rfl : t = s := Option.some.inj (ht.symm.trans hs)
  exact ⟨List.mem_of_getElem? hs, hord⟩

variable {folder rel : String}

theorem slash_not_mem_of_mem_directions {s : String} (h : s ∈ directions folder rel) :
    '/' ∉ s.toList := by
  rcases List.mem_append.mp (List.mem_filter.mp h).1 with h | h
  · exact slash_not_mem_of_mem_segments h
  · exact slash_not_mem_of_mem_segments h

theorem not_idle_of_mem_directions {s : String} (h : s ∈ directions folder rel) :
    ¬(s = "" ∨ s = ".") := by
  simpa using (List.mem_filter.mp h).2

/-- Joining fails exactly if a beginning of the directions climbs more often than it leads down.
Otherwise the climbs have one matching, and the joined path consists of what it leaves. -/
theorem join?_keeps_unmatched (folder rel : String) :
    (join? folder rel = none ↔ Climbs (directions folder rel)) ∧
      (¬Climbs (directions folder rel) → ∃! partner, Matching (directions folder rel) partner) ∧
      ∀ partner, Matching (directions folder rel) partner →
        (∀ s ∈ remaining (directions folder rel) partner, Ordinary s ∧ '/' ∉ s.toList) ∧
          join? folder rel = some (ofDescent (remaining (directions folder rel) partner)) := by
  have hidle : ∀ s ∈ directions folder rel, ¬(s = "" ∨ s = ".") := fun s =>
    not_idle_of_mem_directions
  have hnone : (directions folder rel).foldlM step? [] = none ↔ Climbs (directions folder rel) := by
    simp [foldlM_step?_eq_none_iff, Climbs]
  refine ⟨?_, ?_, ?_⟩
  · rw [join?_eq_directions, Option.map_eq_none_iff, hnone]
  · intro hstays
    obtain ⟨partner, hpartner⟩ := exists_matching hidle (mt hnone.mp hstays)
    exact ⟨partner, hpartner, fun _ h => h.unique hpartner⟩
  · intro partner hpartner
    constructor
    · intro s hs
      obtain ⟨hmem, hord⟩ := mem_of_mem_kept hs
      exact ⟨hord, slash_not_mem_of_mem_directions hmem⟩
    · have hfold := hpartner.foldlM_take hidle (Nat.le_refl _)
      rw [List.take_length] at hfold
      rw [join?_eq_directions, hfold, Option.map_some, ofTrail_eq_ofDescent, List.reverse_reverse,
        remaining]

/-- A path with idle segments that climbs four times, once behind a climb. -/
theorem join?_keeps_unmatched_detour :
    let segs := directions "a/./b//c" "../x/../../d/y/.."
    let partner := fun j => [(3, 2), (5, 4), (6, 1), (9, 8)].lookup j
    segs = ["a", "b", "c", "..", "x", "..", "..", "d", "y", ".."] ∧ Matching segs partner ∧
      remaining segs partner = ["a", "d"] ∧
      join? "a/./b//c" "../x/../../d/y/.." = some (ofDescent ["a", "d"]) := by
  intro segs partner
  have hsegs : segs = ["a", "b", "c", "..", "x", "..", "..", "d", "y", ".."] := by decide
  have hout : ∀ j, 10 ≤ j → partner j = none := by
    intro j hj
    have hne : j ≠ 3 ∧ j ≠ 5 ∧ j ≠ 6 ∧ j ≠ 9 := by omega
    simpa [partner, List.lookup_eq_none_iff] using hne
  have hmatching : Matching segs partner := by
    rw [hsegs]
    constructor
    · intro j
      rw [← Option.isSome_iff_exists]
      rcases Nat.lt_or_ge j 10 with hj | hj
      · revert j
        decide
      · simp [hout j hj, hj]
    · intro j i hi
      have hj : j < 10 := Nat.lt_of_not_le fun hj => by simp [hout j hj] at hi
      have hnear : ∀ j < 10, ∀ i ∈ partner j, Unmatched segs partner j i ∧
          ∀ k < j, Unmatched segs partner j k → k ≤ i := by decide
      obtain ⟨hfree, hmax⟩ := hnear j hj i hi
      exact ⟨hfree, fun k hk => hmax k hk.1 hk⟩
  have hremaining : remaining segs partner = ["a", "d"] := by decide
  exact ⟨hsegs, hmatching, hremaining,
    hremaining ▸ ((join?_keeps_unmatched _ _).2.2 partner hmatching).2⟩

end ImportSurvey.Path
