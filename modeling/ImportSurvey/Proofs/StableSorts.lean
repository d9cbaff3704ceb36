import Mathlib.Data.List.Pairwise

namespace ImportSurvey

variable {α : Type} {size : α → Nat} {list sorted : List α}

/-- Larger members come first. -/
def Descending (size : α → Nat) (list : List α) : Prop :=
  list.Pairwise fun a b => size b ≤ size a

/-- The members of the list with the larger ones first, and those of one size in the order that they
have in the list. -/
structure StablySorts (size : α → Nat) (list sorted : List α) : Prop where
  descending : Descending size sorted
  ties : ∀ n, sorted.filter (size · == n) = list.filter (size · == n)

theorem Descending.le_head {a b : α} (h : Descending size (a :: list)) (hb : b ∈ a :: list) :
    size b ≤ size a := by
  rcases List.mem_cons.mp hb with rfl | hb
  · exact Nat.le_refl _
  · exact (List.pairwise_cons.mp h).1 b hb

/-- Where the first member is too small, all are. -/
theorem Descending.filter_eq_nil {a : α} {p : α → Bool} (h : Descending size (a :: list))
    (hp : ∀ b, p b → size a < size b) : (a :: list).filter p = [] := by
  refine List.filter_eq_nil_iff.mpr fun b hb hpb => ?_
  have hle := h.le_head hb
  have hlt := hp b hpb
  omega

theorem mem_iff_of_ties {first second : List α}
    (h : ∀ n, first.filter (size · == n) = second.filter (size · == n)) (a : α) :
    a ∈ first ↔ a ∈ second := by
  have hfilter : a ∈ first.filter (size · == size a) ↔ a ∈ second.filter (size · == size a) := by
    rw [h]
  simpa using hfilter

theorem eq_of_ties {first second : List α} (hfirst : Descending size first)
    (hsecond : Descending size second)
    (h : ∀ n, first.filter (size · == n) = second.filter (size · == n)) : first = second := by
  induction first generalizing second with
  | nil =>
    refine (List.eq_nil_iff_forall_not_mem.mpr fun a ha => ?_).symm
    simpa using (mem_iff_of_ties h a).mpr ha
  | cons a first ih =>
    cases second with
    | nil => simpa using (mem_iff_of_ties h a).mp List.mem_cons_self
    | cons b second =>
      have hle := hsecond.le_head ((mem_iff_of_ties h a).mp List.mem_cons_self)
      have hge := hfirst.le_head ((mem_iff_of_ties h b).mpr List.mem_cons_self)
      have hsize : size b = size a := Nat.le_antisymm hge hle
      have hheads := h (size a)
      simp only [List.filter_cons, hsize, beq_self_eq_true, if_true, List.cons.injEq] at hheads
      obtain ⟨rfl, _⟩ := hheads
      have hrest := ih (List.Pairwise.of_cons hfirst) (List.Pairwise.of_cons hsecond)
      refine congrArg (a :: ·) (hrest fun n => ?_)
      have hn := h n
      simp only [List.filter_cons] at hn
      split at hn
      next => exact (List.cons.inj hn).2
      next => exact hn

theorem StablySorts.unique {other : List α} (h : StablySorts size list sorted)
    (h' : StablySorts size list other) : sorted = other :=
  eq_of_ties h.descending h'.descending fun n => (h.ties n).trans (h'.ties n).symm

/-- An order of the list is left between members of one size. -/
theorem StablySorts.pairwise {R : α → α → Prop} (h : StablySorts size list sorted)
    (hlist : list.Pairwise R) :
    sorted.Pairwise fun a b => size b < size a ∨ size a = size b ∧ R a b := by
  refine List.pairwise_iff_forall_sublist.mpr fun {a b} hab => ?_
  rcases Nat.lt_or_eq_of_le (List.pairwise_iff_forall_sublist.mp h.descending hab) with hlt | heq
  · exact .inl hlt
  · have hties : (sorted.filter (size · == size a)).Pairwise R := by
      rw [h.ties]
      exact hlist.filter _
    have hR := List.pairwise_iff_forall_sublist.mp (List.pairwise_filter.mp hties) hab
    exact .inr ⟨heq.symm, hR (by simp) (by simp [heq])⟩

/-- Whether `a` may stand before `b` where larger members come first. -/
def largerFirst (size : α → Nat) (a b : α) : Bool := size b ≤ size a

theorem stablySorts_mergeSort (size : α → Nat) (list : List α) :
    StablySorts size list (list.mergeSort (largerFirst size)) := by
  have trans : ∀ a b c, largerFirst size a b → largerFirst size b c → largerFirst size a c := by
    simp only [largerFirst, decide_eq_true_eq]
    omega
  have total : ∀ a b, largerFirst size a b || largerFirst size b a := by
    simp only [largerFirst, Bool.or_eq_true, decide_eq_true_eq]
    omega
  refine ⟨?_, fun n => ?_⟩
  · simpa only [Descending, largerFirst, decide_eq_true_eq] using
      List.pairwise_mergeSort trans total list
  · have hties : (list.filter (size · == n)).Pairwise fun a b => largerFirst size a b := by
      refine List.pairwise_of_forall_mem_list fun a ha b hb => ?_
      simp only [List.mem_filter, beq_iff_eq] at ha hb
      simp [largerFirst, ha.2, hb.2]
    have hsublist := List.sublist_mergeSort trans total hties List.filter_sublist
    have hkept := hsublist.filter (size · == n)
    simp only [List.filter_filter, Bool.and_self] at hkept
    have hperm := (List.mergeSort_perm list (largerFirst size)).filter (size · == n)
    exact (hkept.eq_of_length hperm.length_eq.symm).symm

theorem stablySorts_iff :
    StablySorts size list sorted ↔ sorted = list.mergeSort (largerFirst size) :=
  ⟨fun h => h.unique (stablySorts_mergeSort size list),
    fun h => h ▸ stablySorts_mergeSort size list⟩

/-- Sorting what stands in front beforehand makes no difference. -/
theorem mergeSort_mergeSort_append (size : α → Nat) (list more : List α) :
    (list.mergeSort (largerFirst size) ++ more).mergeSort (largerFirst size) =
      (list ++ more).mergeSort (largerFirst size) := by
  obtain ⟨hdescending, hties⟩ :=
    stablySorts_mergeSort size (list.mergeSort (largerFirst size) ++ more)
  refine stablySorts_iff.mp ⟨hdescending, fun n => ?_⟩
  rw [hties, List.filter_append, List.filter_append, (stablySorts_mergeSort size list).ties]

end ImportSurvey
