import ImportSurvey.Proofs.CommentParts

namespace ImportSurvey.JsonComments

/-- What stands between the quotes of a string: a character alone, or one behind a backslash. -/
inductive StringItem where
  | plain (c : Char) (hquote : c ≠ '"') (hslash : c ≠ '\\')
  | escaped (c : Char)

/-- What stands between the quotes of a string as a whole. -/
def stringText : List StringItem → List Char
  | [] => []
  | .plain c _ _ :: items => c :: stringText items
  | .escaped c :: items => '\\' :: c :: stringText items

/-- A character outside strings and comments, or a whole string or comment. -/
inductive Piece where
  | char (c : Char) (hquote : c ≠ '"') (hslash : c ≠ '/')
  | string (items : List StringItem)
  | line (body : List Char) (hend : '\n' ∉ body)
  | block (body : List Char) (hend : ¬['*', '/'] <:+: body)

namespace Piece

def text : Piece → List Char
  | .char c _ _ => [c]
  | .string items => '"' :: (stringText items ++ ['"'])
  | .line body _ => '/' :: '/' :: (body ++ ['\n'])
  | .block body _ => '/' :: '*' :: (body ++ ['*', '/'])

/-- What is left of a piece once comments are gone: of a line comment the end of the line, and of a
block comment nothing. -/
def kept : Piece → List Char
  | .line _ _ => ['\n']
  | .block _ _ => []
  | p => p.text

end Piece

theorem stripFrom_string_cons {c : Char} (hquote : c ≠ '"') (hslash : c ≠ '\\')
    (rest : List Char) : stripFrom .string (c :: rest) = c :: stripFrom .string rest := by
  rw [stripFrom]
  · exact fun _ _ h _ => hslash h
  · exact hquote

theorem stripFrom_string (items : List StringItem) (rest : List Char) :
    stripFrom .string (stringText items ++ '"' :: rest) =
      stringText items ++ '"' :: stripFrom .plain rest := by
  induction items with
  | nil => rfl
  | cons item items ih =>
    cases item with
    | plain c hquote hslash =>
      simp only [stringText, List.cons_append]
      rw [stripFrom_string_cons hquote hslash, ih]
    | escaped c =>
      simp only [stringText, List.cons_append]
      rw [stripFrom, ih]

theorem stripFrom_line {body : List Char} (hend : '\n' ∉ body) (rest : List Char) :
    stripFrom .line (body ++ '\n' :: rest) = '\n' :: stripFrom .plain rest := by
  induction body with
  | nil => rfl
  | cons c body ih =>
    obtain ⟨hc, hbody⟩ := List.ne_and_not_mem_of_not_mem_cons hend
    rw [List.cons_append, stripFrom, ih hbody]
    exact fun h => hc h.symm

/-- The first end of a block comment is its end, even if stars or a slash stand before it. -/
theorem stripFrom_block {body : List Char} (hend : ¬['*', '/'] <:+: body) (rest : List Char) :
    stripFrom .block (body ++ '*' :: '/' :: rest) = stripFrom .plain rest := by
  induction body with
  | nil => rfl
  | cons c body ih =>
    have hbody : ¬['*', '/'] <:+: body := fun h => hend (List.infix_cons h)
    rw [List.cons_append, stripFrom, ih hbody]
    rintro more rfl hmore
    cases body with
    | nil => cases hmore
    | cons next body =>
      cases hmore
      exact hend (List.prefix_append ['*', '/'] body).isInfix

theorem stripFrom_piece (p : Piece) (rest : List Char) :
    stripFrom .plain (p.text ++ rest) = p.kept ++ stripFrom .plain rest := by
  cases p with
  | char c hquote hslash => exact stripFrom_plain_cons hquote fun hstart => hslash hstart.1
  | string items =>
    simp only [Piece.kept, Piece.text, List.cons_append, List.append_assoc, List.nil_append]
    rw [stripFrom, stripFrom_string]
  | line body hend =>
    simp only [Piece.kept, Piece.text, List.cons_append, List.append_assoc, List.nil_append]
    rw [stripFrom, stripFrom_line hend]
  | block body hend =>
    simp only [Piece.kept, Piece.text, List.cons_append, List.append_assoc, List.nil_append]
    rw [stripFrom, stripFrom_block hend]

theorem stripFrom_pieces (pieces : List Piece) :
    stripFrom .plain (pieces.flatMap Piece.text) = pieces.flatMap Piece.kept := by
  induction pieces with
  | nil => rfl
  | cons p pieces ih => rw [List.flatMap_cons, stripFrom_piece, ih, List.flatMap_cons]

/-- The text of pieces. -/
def ofPieces (pieces : List Piece) : String := String.ofList (pieces.flatMap Piece.text)

theorem strip_ofPieces (pieces : List Piece) :
    strip (ofPieces pieces) = String.ofList (pieces.flatMap Piece.kept) := by
  rw [strip, ofPieces, String.toList_ofList, stripFrom_pieces]

end ImportSurvey.JsonComments
