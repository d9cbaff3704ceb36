import Mathlib.Data.List.TakeWhile
import ImportSurvey.PathMappings
import ImportSurvey.Proofs.JsonSpacing

namespace ImportSurvey.JsonComments

namespace Piece

def isComment : Piece → Bool
  | .line _ _ => true
  | .block _ _ => true
  | _ => false

/-- Whether the piece belongs to a number or a name. -/
def inWord : Piece → Bool
  | .char c _ _ => JsonValue.inWord c
  | _ => false

theorem not_isComment_of_inWord {p : Piece} (h : p.inWord) : ¬p.isComment := by
  cases p with
  | char _ _ _ => exact Bool.false_ne_true
  | string _ | line _ _ | block _ _ => exact absurd h Bool.false_ne_true

end Piece

/-- No comment tears a word apart: if there are only comments between two characters of words, there
is nothing between them. -/
def BetweenTokens (pieces : List Piece) : Prop :=
  ∀ (first next : Piece) (comments : List Piece), first :: (comments ++ [next]) <:+: pieces →
    first.inWord → next.inWord → (∀ p ∈ comments, p.isComment) → comments = []

def withoutComments (pieces : List Piece) : List Piece := pieces.filter fun p => !p.isComment

/-- Whether a word comes next, behind comments if there are any. -/
def wordAhead (pieces : List Piece) : Bool :=
  (pieces.dropWhile Piece.isComment).head?.any Piece.inWord

theorem betweenTokens_nil : BetweenTokens [] := fun _ _ _ hpart => by
  simp at hpart

theorem betweenTokens_cons_iff {p : Piece} {pieces : List Piece} :
    BetweenTokens (p :: pieces) ↔
      (p.inWord → wordAhead pieces → pieces.takeWhile Piece.isComment = []) ∧
        BetweenTokens pieces := by
  constructor
  · intro h
    refine ⟨fun hp hahead => ?_, fun first next comments hpart =>
      h first next comments (hpart.trans (List.suffix_cons p pieces).isInfix)⟩
    have hsplit := List.takeWhile_append_dropWhile (p := Piece.isComment) (l := pieces)
    cases hdrop : pieces.dropWhile Piece.isComment with
    | nil => simp [wordAhead, hdrop] at hahead
    | cons next more =>
      have hnext : next.inWord := by simpa [wordAhead, hdrop] using hahead
      rw [hdrop] at hsplit
      refine h p next _ ⟨[], more, ?_⟩ hp hnext fun _ => List.mem_takeWhile_imp
      rw [List.nil_append, List.cons_append, List.append_assoc, List.singleton_append, hsplit]
  · rintro ⟨hfront, hrest⟩ first next comments hpart hfirst hnext hcomments
    rcases List.infix_cons_iff.mp hpart with ⟨more, heq⟩ | hpart
    · obtain ⟨rfl, rfl⟩ : first = p ∧ comments ++ next :: more = pieces := by simpa using heq
      have hnot := Piece.not_isComment_of_inWord hnext
      have hnone : (comments ++ next :: more).takeWhile Piece.isComment = [] := by
        apply hfront hfirst
        rw [wordAhead, List.dropWhile_append_of_pos hcomments, List.dropWhile_cons_of_neg hnot]
        exact hnext
      rw [List.takeWhile_append_of_pos hcomments] at hnone
      exact (List.append_eq_nil_iff.mp hnone).1
    · exact hrest first next comments hpart hfirst hnext hcomments

/-- Whether comments stand between tokens can be checked piece by piece. -/
def decideBetweenTokens : (pieces : List Piece) → Decidable (BetweenTokens pieces)
  | [] => .isTrue betweenTokens_nil
  | _ :: pieces =>
    letI : Decidable (BetweenTokens pieces) := decideBetweenTokens pieces
    letI : Decidable (pieces.takeWhile Piece.isComment = []) :=
      decidable_of_iff _ List.isEmpty_iff
    decidable_of_iff _ betweenTokens_cons_iff.symm

instance : DecidablePred BetweenTokens := decideBetweenTokens

open JsonValue (startsWord Spaced)

theorem wordAhead_of_startsWord {pieces : List Piece}
    (h : startsWord ((withoutComments pieces).flatMap Piece.kept)) : wordAhead pieces := by
  induction pieces with
  | nil => exact h
  | cons p pieces ih =>
    cases p with
    | char _ _ _ | string _ => exact h
    | line _ _ | block _ _ => exact ih h

/-- Without comments in front of it a word is what a text starts with. -/
theorem startsWord_of_wordAhead {pieces : List Piece} (h : wordAhead pieces)
    (hnone : pieces.takeWhile Piece.isComment = []) : startsWord (pieces.flatMap Piece.kept) := by
  cases pieces with
  | nil => exact h
  | cons p pieces =>
    cases p with
    | char _ _ _ | string _ => exact h
    | line _ _ | block _ _ => cases hnone

theorem startsWord_withoutComments {pieces : List Piece}
    (h : startsWord (pieces.flatMap Piece.kept)) :
    startsWord ((withoutComments pieces).flatMap Piece.kept) := by
  induction pieces with
  | nil => exact h
  | cons p pieces ih =>
    cases p with
    | char _ _ _ | string _ => exact h
    | line _ _ => exact absurd h Bool.false_ne_true
    | block _ _ => exact ih h

theorem spaced_withoutComments {pieces : List Piece} (h : BetweenTokens pieces) :
    Spaced (pieces.flatMap Piece.kept) ((withoutComments pieces).flatMap Piece.kept) := by
  induction pieces with
  | nil => exact .nil
  | cons p pieces ih =>
    obtain ⟨hfront, hrest⟩ := betweenTokens_cons_iff.mp h
    cases p with
    | line _ _ => exact .newline (ih hrest)
    | block _ _ => exact ih hrest
    | string items =>
      have htext : ∀ rest, Piece.kept (.string items) ++ rest =
          '"' :: (stringText items ++ '"' :: rest) := by simp [Piece.kept, Piece.text]
      have hstring := Spaced.string items (ih hrest)
      rwa [← htext, ← htext] at hstring
    | char c hquote hslash =>
      refine .char hquote (fun hc => ⟨startsWord_withoutComments, fun hword => ?_⟩) (ih hrest)
      have hahead := wordAhead_of_startsWord hword
      exact startsWord_of_wordAhead hahead (hfront hc hahead)

/-- Of a text that consists of strings, comments and other characters the comments are removed and
nothing else. So comments between the tokens of a JSON text do not change the mappings in it. -/
theorem strip_removes_comments (pieces : List Piece) :
    strip (ofPieces pieces) = String.ofList (pieces.flatMap Piece.kept) ∧
      (BetweenTokens pieces →
        PathMappings.ofText? (ofPieces pieces) =
          PathMappings.ofText? (ofPieces (withoutComments pieces))) := by
  refine ⟨strip_ofPieces pieces, fun h => ?_⟩
  rw [PathMappings.ofText?, PathMappings.ofText?, strip_ofPieces, strip_ofPieces,
    JsonValue.ofJsonText?_eq_of_spaced (spaced_withoutComments h)]

/-- A quote and a star in a comment, marks of comments in a string, and a comment behind a word. -/
theorem strip_removes_comments_array :
    let pieces : List Piece := [.char '[' (by decide) (by decide),
      .block ['"', '*'] (by decide), .char '[' (by decide) (by decide),
      .string [.plain '/' (by decide) (by decide), .plain '/' (by decide) (by decide)],
      .char ',' (by decide) (by decide), .line ['/', '*'] (by decide),
      .char 'n' (by decide) (by decide), .char 'u' (by decide) (by decide),
      .char 'l' (by decide) (by decide), .char 'l' (by decide) (by decide), .line [] (by decide),
      .char ']' (by decide) (by decide), .char ']' (by decide) (by decide)]
    BetweenTokens pieces ∧ PathMappings.ofText? (ofPieces pieces) = some ⟨"//", .empty⟩ := by
  intro pieces
  have hbetween : BetweenTokens pieces := by decide
  have hbare : PathMappings.ofText? (ofPieces (withoutComments pieces)) = some ⟨"//", .empty⟩ := by
    decide +kernel
  exact ⟨hbetween, ((strip_removes_comments pieces).2 hbetween).trans hbare⟩

end ImportSurvey.JsonComments
