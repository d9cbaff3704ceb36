import Std.Data.HashSet

namespace ImportSurvey

/-- Distinct names in the order of their first entry. -/
structure Roster where
  order : Array String
  seen : Std.HashSet String
  mem_seen : ∀ name, name ∈ seen ↔ name ∈ order.toList

namespace Roster

def empty : Roster := ⟨#[], {}, by simp⟩

instance : Inhabited Roster := ⟨empty⟩

def contains (r : Roster) (name : String) : Bool := r.seen.contains name

/-- Enters a name behind the others, unless it is there already. -/
def enter (r : Roster) (name : String) : Roster :=
  if r.contains name then r
  else ⟨r.order.push name, r.seen.insert name, fun other => by
    rw [Std.HashSet.mem_insert, Array.toList_push, List.mem_append, List.mem_singleton,
      r.mem_seen other, beq_iff_eq]
    exact ⟨fun h => h.elim (fun e => .inr e.symm) .inl, fun h => h.elim .inr (fun e => .inl e.symm)⟩⟩

def toList (r : Roster) : List String := r.order.toList

def ofList (names : List String) : Roster := names.foldl enter empty

end Roster

/-- The first occurrence of each name of a list, in order. -/
def firstOccurrences (names : List String) : List String := (Roster.ofList names).toList

end ImportSurvey
