import Mathlib.Data.List.Forall2
import SignatureForms.Proofs.Report.Sections

/-!
# Outlines of pages

The texts of a report come from a descriptor document, which may hold anything. On a page they are
all escaped, so that they cannot change its markup: its tags are decided by how many operations each
client has of either sort, and by which clients have the same name. This module compares the pages
of two reports that agree in this, line by line.

The module introduces:

* `Html.tags` — the tags of a page, in order;
* `Html.Closed` — a text that does not end in a tag;
* `Html.SameTags` — two such texts with the same tags;
* `SameOutline` — reports that agree in all that decides the tags.

## Main results

* `Html.piecesFrom_append`: a page may be cut in two parts, one after the other;
* `Html.sameTags_clientSection`: sections have the same tags if their rows have the same statuses;
* `tags_html_eq`: reports with one outline have pages with the same tags.
-/

namespace SignatureForms

namespace Html

/-! ## Tags -/

/-- The tag that a piece is, if it is one. -/
def Piece.tag? : Piece → Option (List Char)
  | .tag markup => some markup
  | .char _ => none

/-- The tags of a page in order, each without its brackets: what stands from a `<` to the next
`>`. -/
def tags (page : List Char) : List (List Char) := (pieces page).filterMap Piece.tag?

/-- The tag in which a text ends, last character first, if it ends in one. The text may begin in a
tag itself. -/
def openTag : Option (List Char) → List Char → Option (List Char)
  | markup, [] => markup
  | none, c :: rest => openTag (if c = '<' then some [] else none) rest
  | some markup, c :: rest => openTag (if c = '>' then none else some (c :: markup)) rest

/-- The second part of a page is cut from where the first one ends. -/
theorem piecesFrom_append (markup : Option (List Char)) (first second : List Char) :
    piecesFrom markup (first ++ second) =
      piecesFrom markup first ++ piecesFrom (openTag markup first) second := by
  induction first generalizing markup with
  | nil => cases markup <;> rfl
  | cons c rest ih =>
    cases markup with
    | none =>
      rw [List.cons_append, piecesFrom, piecesFrom, openTag, ih, ih]
      split
      · rfl
      · rfl
    | some markup =>
      rw [List.cons_append, piecesFrom, piecesFrom, openTag, ih, ih]
      split
      · rfl
      · rfl

theorem openTag_append (markup : Option (List Char)) (first second : List Char) :
    openTag markup (first ++ second) = openTag (openTag markup first) second := by
  induction first generalizing markup with
  | nil => cases markup <;> rfl
  | cons c rest ih =>
    cases markup with
    | none => exact ih _
    | some markup => exact ih _

/-- A text that does not end in a tag. -/
def Closed (text : String) : Prop := openTag none text.toList = none

instance (text : String) : Decidable (Closed text) := inferInstanceAs (Decidable (_ = _))

theorem Closed.append {text more : String} (h : Closed text) (hmore : Closed more) :
    Closed (text ++ more) := by
  rw [Closed, String.toList_append, openTag_append, h, hmore]

/-- The tags behind a closed text are what they are without it. -/
theorem Closed.tags_append {text : String} (h : Closed text) (rest : List Char) :
    tags (text.toList ++ rest) = tags text.toList ++ tags rest := by
  rw [tags, pieces, piecesFrom_append, h, List.filterMap_append]
  rfl

/-- A text without an opening bracket has no tags. -/
theorem tags_of_notMem {text : List Char} (h : '<' ∉ text) : tags text = [] := by
  have hpieces : pieces text = text.map .char := by
    have hrest : pieces [] = [] := rfl
    rw [← List.append_nil text, pieces_text h, hrest, List.append_nil, List.append_nil]
  rw [tags, hpieces, List.filterMap_map]
  exact List.filterMap_eq_nil_iff.2 fun c _ => rfl

theorem openTag_of_notMem {text : List Char} (h : '<' ∉ text) : openTag none text = none := by
  induction text with
  | nil => rfl
  | cons c rest ih =>
    rw [List.mem_cons, not_or] at h
    rw [openTag, if_neg (Ne.symm h.1), ih h.2]

theorem Closed.ofText {text : String} (h : '<' ∉ text.toList) : Closed text := openTag_of_notMem h

/-! ## Texts with the same tags -/

/-- Two closed texts with the same tags. -/
structure SameTags (text other : String) : Prop where
  /-- The first text does not end in a tag. -/
  closed : Closed text
  /-- The second text does not end in a tag. -/
  other_closed : Closed other
  /-- The texts have the same tags. -/
  tags_eq : tags text.toList = tags other.toList

namespace SameTags

variable {a b c d : String}

theorem refl (h : Closed a) : SameTags a a := ⟨h, h, rfl⟩

theorem append (h : SameTags a b) (hmore : SameTags c d) : SameTags (a ++ c) (b ++ d) := by
  refine ⟨h.closed.append hmore.closed, h.other_closed.append hmore.other_closed, ?_⟩
  rw [String.toList_append, String.toList_append, h.closed.tags_append,
    h.other_closed.tags_append, h.tags_eq, hmore.tags_eq]

/-- Texts without tags have the same ones. -/
theorem ofText (ha : '<' ∉ a.toList) (hb : '<' ∉ b.toList) : SameTags a b :=
  ⟨.ofText ha, .ofText hb, by rw [tags_of_notMem ha, tags_of_notMem hb]⟩

/-- Elements around texts without tags have the same ones. -/
theorem element {opening closing : String} (hopening : Closed opening) (hclosing : Closed closing)
    (ha : '<' ∉ a.toList) (hb : '<' ∉ b.toList) :
    SameTags (opening ++ a ++ closing) (opening ++ b ++ closing) :=
  ((refl hopening).append (ofText ha hb)).append (refl hclosing)

/-- Elements around escaped texts have the same tags, whatever the texts are. -/
theorem escaped {opening closing : String} (hopening : Closed opening) (hclosing : Closed closing)
    (a b : String) :
    SameTags (opening ++ escape a ++ closing) (opening ++ escape b ++ closing) :=
  element hopening hclosing (bracket_notMem_escape a) (bracket_notMem_escape b)

end SameTags

/-- Lines with the same tags, one by one, have the same tags together. -/
theorem tags_linesChars {lines others : List String} (h : List.Forall₂ SameTags lines others)
    {rest other : List Char} (hrest : tags rest = tags other) :
    tags (linesChars lines rest) = tags (linesChars others other) := by
  induction h with
  | nil => exact hrest
  | cons hline _ ih =>
    rw [linesChars_cons, linesChars_cons, hline.closed.tags_append,
      hline.other_closed.tags_append, hline.tags_eq]
    -- the line end is no tag
    exact congrArg (tags _ ++ ·) ih

theorem sameTags_self {lines : List String} (h : ∀ line ∈ lines, Closed line) :
    List.Forall₂ SameTags lines lines :=
  List.forall₂_same.2 fun line hline => .refl (h line hline)

/-! ## Rows and sections -/

/-- Escaped cells make up lines with the same tags, if there are as many of them. -/
theorem sameTags_cells {opening closing : String} (hopening : Closed opening)
    (hclosing : Closed closing) {cells others : List String} (h : cells.length = others.length) :
    List.Forall₂ SameTags (cells.map fun cell => opening ++ escape cell ++ closing)
      (others.map fun cell => opening ++ escape cell ++ closing) := by
  rw [List.forall₂_map_left_iff, List.forall₂_map_right_iff]
  exact List.forall₂_iff_zip.2 ⟨h, fun _ => .escaped hopening hclosing _ _⟩

/-- Of a row only the status decides the tags. -/
theorem sameTags_row {r s : ReportRow} (h : r.status = s.status) :
    List.Forall₂ SameTags (row r) (row s) := by
  have hopening : Closed ("            <tr" ++
      (if r.status = "skipped" then " class='skipped'" else "") ++ ">") := by
    split <;> decide
  have hcells := sameTags_cells (show Closed "                <td>" by decide)
    (show Closed "</td>" by decide)
    (show [r.status, r.operation, r.resolvedName, r.kind, r.reason].length =
      [s.status, s.operation, s.resolvedName, s.kind, s.reason].length from rfl)
  have hend : ∀ line ∈ ["            </tr>"], Closed line := by decide
  -- the class of the row and its first cell show the status
  rw [row, row, ← h]
  rw [← h] at hcells
  exact List.rel_append (List.rel_append (.cons (.refl hopening) .nil) hcells) (sameTags_self hend)

/-- Sections have the same tags if their rows have the same statuses, whatever the texts in them
and the numbers below their headings are. -/
theorem sameTags_clientSection {rows others : List ReportRow} {c d : ClientReport}
    (h : List.Forall₂ (fun r s => r.status = s.status)
      (rows.filter fun row => row.client == c.client)
      (others.filter fun row => row.client == d.client)) :
    List.Forall₂ SameTags (clientSection rows c) (clientSection others d) := by
  have hheading : SameTags ("        <h2>" ++ escape c.client ++ "</h2>")
      ("        <h2>" ++ escape d.client ++ "</h2>") := .escaped (by decide) (by decide) _ _
  have hcounts : SameTags
      s!"        <p>{c.included.length} included, {c.skipped.length} skipped</p>"
      s!"        <p>{d.included.length} included, {d.skipped.length} skipped</p>" := by
    rw [countsLine_eq, countsLine_eq]
    exact .element (by decide) (by decide) (plain_counts _ _).1 (plain_counts _ _).1
  have htable : ∀ line ∈ ["        <table>", "            <tr>"], Closed line := by decide
  have hcolumns := sameTags_cells (show Closed "                <th>" by decide)
    (show Closed "</th>" by decide) (rfl : columns.length = columns.length)
  have hline : ∀ line ∈ ["            </tr>"], Closed line := by decide
  have hrows := List.rel_flatMap h fun _ _ => sameTags_row
  have hend : ∀ line ∈ ["        </table>", "    </div>"], Closed line := by decide
  refine List.rel_append (List.rel_append (List.rel_append (List.rel_append ?_ hcolumns)
    (sameTags_self hline)) hrows) (sameTags_self hend)
  exact .cons (.refl (by decide)) (.cons hheading (.cons hcounts (sameTags_self htable)))

/-- The title does not change the tags of the head of a page. -/
theorem sameTags_head (title other : String) :
    List.Forall₂ SameTags (head title) (head other) := by
  have htitle : SameTags ("    <title>" ++ escape title ++ "</title>")
      ("    <title>" ++ escape other ++ "</title>") := .escaped (by decide) (by decide) _ _
  have hbefore : ∀ line ∈ ["<!DOCTYPE html>", "<html>", "<head>"], Closed line := by decide
  have hstyle : ∀ line ∈ ["    <meta charset='utf-8'>", "    <style>"], Closed line := by decide
  have hlines : ∀ line ∈ styleLines, Closed line :=
    fun line hline => .ofText (bracket_notMem_styleLines line hline)
  have hafter : ∀ line ∈ ["    </style>", "</head>"], Closed line := by decide
  rw [head_eq, head_eq]
  refine List.rel_append (List.rel_append ?_ (sameTags_self hlines)) (sameTags_self hafter)
  exact List.rel_append (sameTags_self hbefore) (.cons htitle (sameTags_self hstyle))

end Html

/-! ## Outlines -/

/-- The two reports agree in the numbers of operations that each client has of either sort, and in
which of their clients have the same name. -/
structure SameOutline (r s : GenerationReport) : Prop where
  /-- The numbers of operations agree, client by client. -/
  sizes : r.clients.map (fun c => (c.included.length, c.skipped.length)) =
    s.clients.map fun c => (c.included.length, c.skipped.length)
  /-- Two clients of the one have the same name just if those in their places in the other do. -/
  names : ∀ p ∈ r.clients.zip s.clients, ∀ q ∈ r.clients.zip s.clients,
    p.1.client = q.1.client ↔ p.2.client = q.2.client

section Outlines

variable {clients others : List ClientReport} {c d : ClientReport} {name other : String}

/-- The statuses of the rows of a client are decided by the numbers of its operations. -/
theorem forall₂_status_rows
    (h : (c.included.length, c.skipped.length) = (d.included.length, d.skipped.length)) :
    List.Forall₂ (fun r s => r.status = s.status) c.rows d.rows := by
  rw [Prod.mk.injEq] at h
  refine List.rel_append ?_ ?_
  · rw [List.forall₂_map_left_iff, List.forall₂_map_right_iff]
    exact List.forall₂_iff_zip.2 ⟨h.1, fun _ => rfl⟩
  · rw [List.forall₂_map_left_iff, List.forall₂_map_right_iff]
    exact List.forall₂_iff_zip.2 ⟨h.2, fun _ => rfl⟩

/-- The rows of a name have the statuses of those of another one, if the clients of the one stand in
the places of the clients of the other. -/
theorem forall₂_status_rowsNamed
    (h : List.Forall₂ (fun c d =>
      (c.included.length, c.skipped.length) = (d.included.length, d.skipped.length) ∧
        (c.client = name ↔ d.client = other)) clients others) :
    List.Forall₂ (fun r s => r.status = s.status) (rowsNamed clients name)
      (rowsNamed others other) := by
  induction h with
  | nil => exact .nil
  | @cons c d _ _ hpair _ ih =>
    obtain ⟨hsizes, hname⟩ := hpair
    by_cases hc : c.client = name
    · rw [rowsNamed_cons_of_eq hc, rowsNamed_cons_of_eq (hname.1 hc)]
      exact List.rel_append (forall₂_status_rows hsizes) ih
    · rw [rowsNamed_cons_of_ne hc, rowsNamed_cons_of_ne (mt hname.2 hc)]
      exact ih

end Outlines

namespace SameOutline

variable {r s : GenerationReport} (h : SameOutline r s)

include h

/-- The clients stand in the same places. -/
theorem length_eq : r.clients.length = s.clients.length := by
  simpa using congrArg List.length h.sizes

/-- Clients in the same places have as many operations of either sort. -/
theorem sizes_eq {p : ClientReport × ClientReport} (hp : p ∈ r.clients.zip s.clients) :
    (p.1.included.length, p.1.skipped.length) = (p.2.included.length, p.2.skipped.length) := by
  have hsizes := h.sizes
  rw [← List.forall₂_eq_eq_eq, List.forall₂_map_left_iff, List.forall₂_map_right_iff] at hsizes
  exact (List.forall₂_iff_zip.1 hsizes).2 hp

/-- Clients in the same places have sections with the same tags. -/
theorem sameTags_sections : List.Forall₂ Html.SameTags
    (r.clients.flatMap (Html.clientSection r.rows))
    (s.clients.flatMap (Html.clientSection s.rows)) := by
  have hsection : ∀ p ∈ r.clients.zip s.clients, List.Forall₂ Html.SameTags
      (Html.clientSection r.rows p.1) (Html.clientSection s.rows p.2) := by
    intro p hp
    refine Html.sameTags_clientSection ?_
    -- the section holds the rows of all clients of its name, so that all places count
    rw [GenerationReport.rows, GenerationReport.rows, filter_rows_eq, filter_rows_eq]
    exact forall₂_status_rowsNamed (List.forall₂_iff_zip.2
      ⟨h.length_eq, fun hq => ⟨h.sizes_eq hq, h.names _ hq p hp⟩⟩)
  -- equal sections, client by client, make up equal lines
  have hsections : List.Forall₂ (fun c d => List.Forall₂ Html.SameTags
      (Html.clientSection r.rows c) (Html.clientSection s.rows d)) r.clients s.clients :=
    List.forall₂_iff_zip.2 ⟨h.length_eq, hsection _⟩
  exact List.rel_flatMap hsections fun _ _ hlines => hlines

end SameOutline

/-- Two reports with one outline, whatever their texts and their titles are and whenever their pages
are made, have pages with the same tags. -/
theorem tags_html_eq {r s : GenerationReport} (h : SameOutline r s) (title other : String)
    {made madeOther : String} (hmade : Html.IsTimestamp made)
    (hmadeOther : Html.IsTimestamp madeOther) :
    Html.tags (r.html title made).toList = Html.tags (s.html other madeOther).toList := by
  have hbody : Html.SameTags "<body>" "<body>" := .refl (by decide)
  have hheading : Html.SameTags ("    <h1>" ++ Html.escape title ++ "</h1>")
      ("    <h1>" ++ Html.escape other ++ "</h1>") := .escaped (by decide) (by decide) _ _
  have hname : Html.SameTags ("    <p>" ++ Html.escape r.title ++ "</p>")
      ("    <p>" ++ Html.escape s.title ++ "</p>") := .escaped (by decide) (by decide) _ _
  have hplain {time : String} (htime : Html.IsTimestamp time) :
      '<' ∉ ("Generated on " ++ time).toList :=
    (Html.Plain.append (show Html.Plain "Generated on " by decide) htime.plain).1
  have htime : Html.SameTags ("    <p>" ++ ("Generated on " ++ made) ++ "</p>")
      ("    <p>" ++ ("Generated on " ++ madeOther) ++ "</p>") :=
    .element (by decide) (by decide) (hplain hmade) (hplain hmadeOther)
  have hnumbers (report : GenerationReport) : '<' ∉ report.totals.toList := by
    rw [report.totals_eq]
    exact (Html.Plain.append (show Html.Plain "Total: " by decide) (Html.plain_counts _ _)).1
  have htotals : Html.SameTags ("    <p>" ++ r.totals ++ "</p>") ("    <p>" ++ s.totals ++ "</p>") :=
    .element (by decide) (by decide) (hnumbers r) (hnumbers s)
  have hend : Html.SameTags "</body>" "</body>" := .refl (by decide)
  -- the last line is the same on both pages
  rw [r.toList_html, s.toList_html]
  refine Html.tags_linesChars ?_ rfl
  refine List.rel_append (List.rel_append (List.rel_append (Html.sameTags_head title other) ?_)
    h.sameTags_sections) (.cons htotals (.cons hend .nil))
  exact .cons hbody (.cons hheading (.cons hname (.cons htime .nil)))

/-- A report on two clients with different names, whose texts are full of markup. -/
def markupReport : GenerationReport :=
  ⟨"<b>", "</p>", "\"><script>",
    [⟨"<h2>", some "<!--", [⟨"</td>", "<td>", "<tr>"⟩], [⟨"<table>", "</table>", "</html>"⟩]⟩,
      ⟨"'><div class='section'>", none, [⟨"&lt;", "<", ">"⟩], []⟩]⟩

theorem tags_html_eq_markupReport :
    SameOutline mailAndUsers markupReport ∧ Html.IsTimestamp "2024-05-01 12:00:00" ∧
      Html.tags (mailAndUsers.html "Report" "2024-05-01 12:00:00").toList =
        Html.tags (markupReport.html "</title>" "2024-05-01 12:00:00").toList := by
  have houtline : SameOutline mailAndUsers markupReport := ⟨by decide, by decide⟩
  have htime : Html.IsTimestamp "2024-05-01 12:00:00" := by decide
  exact ⟨houtline, htime, tags_html_eq houtline "Report" "</title>" htime htime⟩

end SignatureForms
