import Mathlib.Data.List.Induction
import Mathlib.Data.List.Sort
import ImportSurvey.Catalog
import ImportSurvey.Proofs.Folds

namespace ImportSurvey.Catalog

variable {α : Type}

theorem lookup_cons (key : String) (e : String × α) (rest : List (String × α)) :
    (e :: rest).lookup key = if key = e.1 then some e.2 else rest.lookup key := by
  obtain ⟨name, value⟩ := e
  rw [List.lookup_cons]
  by_cases h : key = name
  · simp [h]
  · simp [h, beq_eq_false_iff_ne.mpr h]

/-- Where each key has one value only, looking it up finds every entry. -/
theorem lookup_eq_some_iff_mem {entries : List (String × α)}
    (single : ∀ key value other, (key, value) ∈ entries → (key, other) ∈ entries → value = other)
    {key : String} {value : α} : entries.lookup key = some value ↔ (key, value) ∈ entries := by
  have hfound : ∀ {other}, entries.lookup key = some other → (key, other) ∈ entries := by
    intro other hother
    obtain ⟨before, after, rfl, _⟩ := List.lookup_eq_some_iff.mp hother
    simp
  refine ⟨hfound, fun h => ?_⟩
  cases hlook : entries.lookup key with
  | none =>
    have habsent := List.lookup_eq_none_iff.mp hlook _ h
    simp at habsent
  | some other => exact congrArg some (single key other value (hfound hlook) h)

theorem lookup_alterEntries {key other : String} {change : Option α → α}
    {entries : List (String × α)} (sorted : entries.Pairwise (fun a b => a.1 < b.1)) :
    (alterEntries key change entries).lookup other =
      if other = key then some (change (entries.lookup key)) else entries.lookup other := by
  induction entries with
  | nil => simp [alterEntries, lookup_cons]
  | cons entry rest ih =>
    obtain ⟨hhead, htail⟩ := List.pairwise_cons.mp sorted
    simp only [alterEntries]
    split
    next hlt =>
      have habsent : (entry :: rest).lookup key = none := by
        refine List.lookup_eq_none_iff.mpr fun e he => ?_
        rcases List.mem_cons.mp he with rfl | he
        · simpa using String.ne_of_lt hlt
        · simpa using String.ne_of_lt (String.lt_trans hlt (hhead e he))
      rw [lookup_cons, habsent]
    next =>
      split
      next heq =>
        simp only [lookup_cons, heq, if_true]
        split <;> rfl
      next hne =>
        simp only [lookup_cons, ih htail, hne, if_false]
        by_cases h : other = entry.1
        · simp [h, Ne.symm hne]
        · simp [h]

@[simp]
theorem get?_empty (key : String) : (empty : Catalog α).get? key = none := rfl

theorem get?_alter (c : Catalog α) (key other : String) (change : Option α → α) :
    (c.alter key change).get? other =
      if other = key then some (change (c.get? key)) else c.get? other :=
  lookup_alterEntries c.sorted

theorem get?_insert (c : Catalog α) (key other : String) (value : α) :
    (c.insert key value).get? other = if other = key then some value else c.get? other :=
  get?_alter c key other _

theorem keys_pairwise (c : Catalog α) : c.keys.Pairwise (· < ·) :=
  List.pairwise_map.mpr c.sorted

theorem keys_nodup (c : Catalog α) : c.keys.Nodup :=
  c.keys_pairwise.imp String.ne_of_lt

theorem get?_eq_some_iff {c : Catalog α} {key : String} {value : α} :
    c.get? key = some value ↔ (key, value) ∈ c.entries := by
  obtain ⟨entries, sorted⟩ := c
  simp only [get?]
  induction entries with
  | nil => simp
  | cons entry rest ih =>
    obtain ⟨hhead, htail⟩ := List.pairwise_cons.mp sorted
    rw [lookup_cons, List.mem_cons, Prod.ext_iff]
    by_cases h : key = entry.1
    · have habsent : (key, value) ∉ rest := fun hm => String.ne_of_lt (hhead _ hm) h.symm
      simp [h, eq_comm, h ▸ habsent]
    · simp [h, ih htail]

/-- A catalog is determined by what it holds under each name. -/
theorem ext_get? {a b : Catalog α} (h : ∀ key, a.get? key = b.get? key) : a = b := by
  have asymm : Std.Asymm fun x y : String × α => x.1 < y.1 := ⟨fun _ _ => String.lt_asymm⟩
  refine ext (a.sorted.eq_of_mem_iff b.sorted fun e => ?_)
  rw [← get?_eq_some_iff, ← get?_eq_some_iff, h]

theorem mem_keys_iff {c : Catalog α} {key : String} :
    key ∈ c.keys ↔ ∃ value, c.get? key = some value := by
  simp [keys, get?_eq_some_iff]

theorem contains_iff {c : Catalog α} {key : String} : c.contains key ↔ key ∈ c.keys := by
  simp [contains, keys]

theorem keys_alter {c : Catalog α} {key other : String} {change : Option α → α} :
    other ∈ (c.alter key change).keys ↔ other = key ∨ other ∈ c.keys := by
  simp only [mem_keys_iff, get?_alter]
  by_cases h : other = key <;> simp [h]

theorem keys_insert (c : Catalog α) (key other : String) (value : α) :
    other ∈ (c.insert key value).keys ↔ other ∈ c.keys ∨ other = key :=
  keys_alter.trans or_comm

theorem get?_filterKeys (c : Catalog α) (keep : String → Bool) (key : String) :
    (c.filterKeys keep).get? key = if keep key then c.get? key else none := by
  ext value
  rw [get?_eq_some_iff, filterKeys, List.mem_filter, ← get?_eq_some_iff]
  by_cases h : keep key <;> simp [h]

@[simp]
theorem keys_filterKeys (c : Catalog α) (keep : String → Bool) :
    (c.filterKeys keep).keys = c.keys.filter keep := by
  simp [keys, filterKeys, List.filter_map, Function.comp_def]

theorem filterKeys_filterKeys (c : Catalog α) (first second : String → Bool) :
    (c.filterKeys first).filterKeys second = c.filterKeys fun key => first key && second key :=
  ext_get? fun key => by
    simp only [get?_filterKeys]
    by_cases h : first key
    · simp [h]
    · simp [h]

/-- Two choices keep the same members of a list exactly if they agree on all of them. -/
theorem filter_eq_filter_iff {β : Type} {list : List β} {first second : β → Bool} :
    list.filter first = list.filter second ↔ ∀ b ∈ list, first b = second b := by
  constructor
  · intro h b hb
    have hmem : b ∈ list.filter first ↔ b ∈ list.filter second := by rw [h]
    simpa [List.mem_filter, hb, ← Bool.eq_iff_iff] using hmem
  · exact List.filter_congr

theorem filterKeys_eq_iff {c : Catalog α} {first second : String → Bool} :
    c.filterKeys first = c.filterKeys second ↔ ∀ key ∈ c.keys, first key = second key := by
  rw [keys, List.forall_mem_map, ← filter_eq_filter_iff]
  exact ⟨congrArg entries, fun h => ext h⟩

/-- Of the entries under one key the last one counts. -/
theorem get?_foldl_insert (entries : List (String × α)) (c : Catalog α) (key : String) :
    (entries.foldl (fun c e => c.insert e.1 e.2) c).get? key =
      (entries.reverse.lookup key).or (c.get? key) := by
  induction entries using List.reverseRecOn with
  | nil => rfl
  | append_singleton entries e ih =>
    rw [List.foldl_concat, get?_insert, ih, List.reverse_append, List.reverse_singleton,
      List.singleton_append, lookup_cons]
    split
    next => rfl
    next => rfl

/-- Everything in a catalog made from a list comes from the list. -/
theorem mem_of_mem_ofList {entries : List (String × α)} {e : String × α}
    (h : e ∈ (ofList entries).entries) : e ∈ entries := by
  have hget := get?_eq_some_iff.mpr h
  rw [ofList, get?_foldl_insert, get?_empty, Option.or_none] at hget
  obtain ⟨before, after, hentries, _⟩ := List.lookup_eq_some_iff.mp hget
  rw [← List.mem_reverse, hentries]
  simp

theorem mem_keys_ofList {entries : List (String × α)} {key : String} :
    key ∈ (ofList entries).keys ↔ key ∈ entries.map Prod.fst := by
  refine (foldl_iff (P := fun c : Catalog α => key ∈ c.keys)
    (fun c e => keys_insert c e.1 key e.2) empty entries).trans ?_
  simp [keys, empty, eq_comm]

end ImportSurvey.Catalog

namespace ImportSurvey.NameSet

end ImportSurvey.NameSet
