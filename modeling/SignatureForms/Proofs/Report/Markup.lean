import SignatureForms.Proofs.Entities
import SignatureForms.Report.Html

/-!
# Markup of pages

A page is a sequence of tags with text between them. Texts of a report are escaped before they are
put into a page, so that they hold no tag, and the entities can be undone when the page is read.

The module introduces:

* `Html.pageEntities` — the entities of a page;
* `Html.pieces` — a page cut into its tags and the characters between them.

## Main results

* `Html.decode_escape`, `Html.bracket_notMem_escape`: what is escaped is read back, and holds no
  tag;
* `Html.pieces_text`, `Html.pieces_tag`: a page is cut from its start on.
-/

namespace SignatureForms.Html

/-! ## Texts -/

/-- The entities of a page. -/
def pageEntities : Entities where
  names := [('&', "amp;".toList), ('<', "lt;".toList), ('>', "gt;".toList),
    ('"', "quot;".toList), ('\'', "#x27;".toList)]
  ampersand := rfl
  apart := by decide

theorem escapeChar_eq_encodeChar (c : Char) : escapeChar c = pageEntities.encodeChar c := by
  unfold escapeChar
  split
  case h_6 hamp hlt hgt hquote hapostrophe =>
    exact (Entities.encodeChar_eq_self
      (by simpa [pageEntities] using ⟨hamp, hlt, hgt, hquote, hapostrophe⟩)).symm
  all_goals rfl

theorem toList_escape (s : String) :
    (escape s).toList = s.toList.flatMap pageEntities.encodeChar := by
  rw [escape, String.toList_ofList, funext escapeChar_eq_encodeChar]

/-- What is escaped is read back. -/
theorem decode_escape (s : String) : pageEntities.decode (escape s).toList = s.toList := by
  rw [toList_escape, Entities.decode_flatMap_encodeChar]

/-- What is escaped holds no tag. -/
theorem bracket_notMem_escape (s : String) : '<' ∉ (escape s).toList := by
  rw [toList_escape]
  exact Entities.notMem_flatMap_encodeChar rfl (by decide) (by decide) s.toList

/-! ## Tags -/

/-- A piece of a page. -/
inductive Piece where
  /-- A tag, without its brackets. -/
  | tag (markup : List Char)
  /-- A character between tags. -/
  | char (c : Char)
deriving DecidableEq, Repr

/-- The pieces of a page that goes on in a tag, of which the characters so far are given last one
first, or between tags. -/
def piecesFrom : Option (List Char) → List Char → List Piece
  | _, [] => []
  | none, c :: rest =>
    if c = '<' then piecesFrom (some []) rest else .char c :: piecesFrom none rest
  | some markup, c :: rest =>
    if c = '>' then .tag markup.reverse :: piecesFrom none rest
    else piecesFrom (some (c :: markup)) rest

/-- A page cut into its tags and the characters between them. -/
def pieces (cs : List Char) : List Piece := piecesFrom none cs

/-- A text that holds no tag is cut into its characters. -/
theorem pieces_text {text : List Char} (h : '<' ∉ text) (rest : List Char) :
    pieces (text ++ rest) = text.map .char ++ pieces rest := by
  induction text with
  | nil => rfl
  | cons c text ih =>
    rw [List.mem_cons, not_or] at h
    rw [List.cons_append, pieces, piecesFrom, if_neg (Ne.symm h.1), ← pieces, ih h.2]
    rfl

/-- A tag is cut off as one piece. -/
theorem pieces_tag {markup : List Char} (h : '>' ∉ markup) (rest : List Char) :
    pieces ('<' :: (markup ++ '>' :: rest)) = .tag markup :: pieces rest := by
  -- on what is left of the tag, of which some characters have been met
  have hopen : ∀ met, piecesFrom (some met) (markup ++ '>' :: rest) =
      .tag (met.reverse ++ markup) :: pieces rest := by
    induction markup with
    | nil =>
      intro met
      rw [List.nil_append, piecesFrom, if_pos rfl, List.append_nil]
      rfl
    | cons c markup ih =>
      intro met
      rw [List.mem_cons, not_or] at h
      rw [List.cons_append, piecesFrom, if_neg (Ne.symm h.1), ih h.2, List.reverse_cons,
        List.append_assoc]
      rfl
  rw [pieces, piecesFrom, if_pos rfl, hopen]
  rfl

example : pieces "<b>&lt;</b>".toList =
    [.tag ['b'], .char '&', .char 'l', .char 't', .char ';', .tag ['/', 'b']] := by decide

end SignatureForms.Html
