import SignatureForms.Proofs.Naming.Numerals
import SignatureForms.Proofs.Report.Markup

/-!
# Pages read back

What a reader of a page sees: its paragraphs, and its sections with their rows. A page is read from
its tags and the texts behind them alone, without any knowledge of how it was made, so that what is
said about the reading is said about the page.

The module introduces:

* `Html.Reading` — what is read from the end of a page, `Html.read` — the reading of a page;
* `Html.Silent` — lines that add nothing to a reading;
* `Html.IsTimestamp` — the form of the times that pages show.

## Main results

* `Html.read_row`, `Html.read_clientSection`: a row is read with its cells, a section with its
  heading and its rows, whatever texts are in them;
* `GenerationReport.read_html`: what is read from the page of a report.
-/

namespace SignatureForms

/-- The cells that a page shows of a row. -/
def ReportRow.cells (r : ReportRow) : List String :=
  [r.status, r.operation, r.resolvedName, r.kind, r.reason]

namespace Html

/-! ## Reading pages -/

/-- A section of a page. -/
structure Section where
  /-- The heading. -/
  heading : String
  /-- The cells of the rows that have any. -/
  rows : List (List String)
deriving DecidableEq, Repr

/-- What is read from the end of a page up to some place: what belongs to a row or a section that
begins before that place, and the paragraphs and the sections that begin after it. -/
structure Reading where
  /-- The cells of a row that begins before. -/
  cells : List String
  /-- The rows of a section that begins before. -/
  rows : List (List String)
  /-- The heading of a section that begins before. -/
  heading : String
  /-- The paragraphs. -/
  paragraphs : List String
  /-- The sections. -/
  sections : List Section
deriving DecidableEq, Repr

/-- What is read when a row begins. Rows without cells are left out. -/
def Reading.addRow (r : Reading) : Reading :=
  { r with cells := [], rows := if r.cells.isEmpty then r.rows else r.cells :: r.rows }

/-- What is read when a section begins. -/
def Reading.addSection (r : Reading) : Reading :=
  { r with heading := "", rows := [], sections := ⟨r.heading, r.rows⟩ :: r.sections }

/-- What is read from one tag more and the text behind it. -/
def Reading.addTag (r : Reading) (markup text : String) : Reading :=
  match markup with
  | "td" => { r with cells := text :: r.cells }
  | "tr" | "tr class='skipped'" => r.addRow
  | "h2" => { r with heading := text }
  | "p" => { r with paragraphs := text :: r.paragraphs }
  | "div class='section'" => r.addSection
  | _ => r

/-- The tags that say something. -/
def readTags : List String :=
  ["td", "tr", "tr class='skipped'", "h2", "p", "div class='section'"]

/-- A tag that says nothing adds nothing to a reading. -/
theorem Reading.addTag_eq_self {markup : String} (h : markup ∉ readTags) (text : String)
    (r : Reading) : r.addTag markup text = r := by
  unfold Reading.addTag
  split <;> simp_all [readTags]

/-- The characters up to the next tag. -/
def textOf : List Piece → List Char
  | .char c :: rest => c :: textOf rest
  | _ => []

/-- What is read from the pieces of a page. -/
def readPieces : List Piece → Reading
  | [] => ⟨[], [], "", [], []⟩
  | .char _ :: rest => readPieces rest
  | .tag markup :: rest =>
    (readPieces rest).addTag (String.ofList markup)
      (String.ofList (pageEntities.decode (textOf rest)))

/-- What is read from a page. -/
def read (page : List Char) : Reading := readPieces (pieces page)

/-- Text before the first tag belongs to nothing. -/
theorem read_text {text : List Char} (h : '<' ∉ text) (rest : List Char) :
    read (text ++ rest) = read rest := by
  rw [read, pieces_text h]
  induction text with
  | nil => rfl
  | cons c text ih => exact ih fun hmem => h (List.mem_cons_of_mem c hmem)

theorem textOf_pieces {text : List Char} (h : '<' ∉ text) {markup : List Char}
    (hmarkup : '>' ∉ markup) (rest : List Char) :
    textOf (pieces (text ++ '<' :: (markup ++ '>' :: rest))) = text := by
  rw [pieces_text h, pieces_tag hmarkup]
  induction text with
  | nil => rfl
  | cons c text ih => exact congrArg (c :: ·) (ih fun hmem => h (List.mem_cons_of_mem c hmem))

theorem read_tag {markup : String} (h : '>' ∉ markup.toList) (rest : List Char) :
    read ('<' :: (markup.toList ++ '>' :: rest)) =
      (read rest).addTag markup (String.ofList (pageEntities.decode (textOf (pieces rest)))) := by
  rw [read, pieces_tag h, readPieces, String.ofList_toList]
  rfl

/-! ## Lines -/

/-- Lines, each with its end, and what follows them. -/
def linesChars (lines : List String) (rest : List Char) : List Char :=
  lines.foldr (fun line after => line.toList ++ '\n' :: after) rest

@[simp]
theorem linesChars_nil (rest : List Char) : linesChars [] rest = rest := rfl

@[simp]
theorem linesChars_cons (line : String) (lines : List String) (rest : List Char) :
    linesChars (line :: lines) rest = line.toList ++ '\n' :: linesChars lines rest := rfl

@[simp]
theorem linesChars_append (lines more : List String) (rest : List Char) :
    linesChars (lines ++ more) rest = linesChars lines (linesChars more rest) :=
  List.foldr_append

/-- The text is a tag, with other text before it. -/
def EndsInTag (text before tag : String) : Prop :=
  text.toList = before.toList ++ '<' :: (tag.toList ++ ['>']) ∧ '<' ∉ before.toList ∧
    '>' ∉ tag.toList

instance (text before tag : String) : Decidable (EndsInTag text before tag) :=
  inferInstanceAs (Decidable (_ ∧ _ ∧ _))

section Lines

variable {line opening closing text : String}

/-- A line that ends in a tag adds it; what it adds does not hang on the text behind it. -/
theorem read_tagLine (indent tag : String) (f : Reading → Reading)
    (hline : EndsInTag line indent tag) (hadd : ∀ text r, Reading.addTag r tag text = f r)
    (rest : List Char) : read (line.toList ++ '\n' :: rest) = f (read rest) := by
  obtain ⟨hchars, hindent, htag⟩ := hline
  rw [hchars, List.append_assoc, List.cons_append, List.append_assoc, read_text hindent,
    List.singleton_append, read_tag htag, hadd]
  rfl

/-- A line that holds an element adds its tag with the text that it stands for. -/
theorem read_elementLine (indent tag close : String) (hopening : EndsInTag opening indent tag)
    (hclosing : EndsInTag closing "" close) (hclose : close ∉ readTags)
    (htext : '<' ∉ text.toList) (rest : List Char) :
    read ((opening ++ text ++ closing).toList ++ '\n' :: rest) =
      (read rest).addTag tag (String.ofList (pageEntities.decode text.toList)) := by
  obtain ⟨hchars, hindent, htag⟩ := hopening
  obtain ⟨hcharsClose, -, htagClose⟩ := hclosing
  simp only [String.toList_append, hchars, hcharsClose, String.toList_empty, List.append_assoc,
    List.cons_append, List.nil_append]
  rw [read_text hindent, read_tag htag, textOf_pieces htext htagClose, read_text htext,
    read_tag htagClose, Reading.addTag_eq_self hclose]
  rfl

/-- A line that holds an escaped text in an element adds the tag of this with the text. -/
theorem read_escapedLine (indent tag close : String) (hopening : EndsInTag opening indent tag)
    (hclosing : EndsInTag closing "" close) (hclose : close ∉ readTags) (rest : List Char) :
    read ((opening ++ escape text ++ closing).toList ++ '\n' :: rest) =
      (read rest).addTag tag text := by
  rw [read_elementLine indent tag close hopening hclosing hclose (bracket_notMem_escape text),
    decode_escape, String.ofList_toList]

/-- A line that adds nothing, wherever it stands. -/
def Silent (line : String) : Prop :=
  ∀ rest, read (line.toList ++ '\n' :: rest) = read rest

theorem Silent.ofText (h : '<' ∉ line.toList) : Silent line := by
  intro rest
  rw [read_text h]
  rfl

theorem Silent.ofTag (indent tag : String) (hline : EndsInTag line indent tag)
    (htag : tag ∉ readTags) : Silent line :=
  read_tagLine indent tag id hline fun text r => Reading.addTag_eq_self htag text r

theorem Silent.ofEscaped (indent tag close : String) (hopening : EndsInTag opening indent tag)
    (hclosing : EndsInTag closing "" close) (htags : tag ∉ readTags ∧ close ∉ readTags) :
    Silent (opening ++ escape text ++ closing) := by
  intro rest
  rw [read_escapedLine indent tag close hopening hclosing htags.2,
    Reading.addTag_eq_self htags.1]

/-- Lines that add nothing are read over. -/
theorem read_silentLines {lines : List String} (h : ∀ line ∈ lines, Silent line)
    (rest : List Char) : read (linesChars lines rest) = read rest := by
  induction lines with
  | nil => rfl
  | cons line lines ih =>
    rw [List.forall_mem_cons] at h
    rw [linesChars_cons, h.1, ih h.2]

end Lines

/-! ## Plain texts -/

/-- A text without tags and entities. -/
def Plain (text : String) : Prop := '<' ∉ text.toList ∧ '&' ∉ text.toList

instance (text : String) : Decidable (Plain text) := inferInstanceAs (Decidable (_ ∧ _))

theorem Plain.append {s t : String} (hs : Plain s) (ht : Plain t) : Plain (s ++ t) := by
  simp only [Plain, String.toList_append, List.mem_append, not_or]
  exact ⟨⟨hs.1, ht.1⟩, hs.2, ht.2⟩

/-- Numbers hold digits only. -/
theorem plain_toString (n : Nat) : Plain (toString n) := by
  have hdigit {c : Char} (h : c ∈ (toString n).toList) : c.isDigit := by
    rw [Naming.toList_toString] at h
    exact Nat.isDigit_of_mem_toDigits (by decide) (by decide) h
  exact ⟨fun h => absurd (hdigit h) (by decide), fun h => absurd (hdigit h) (by decide)⟩

/-- The number of operations that are offered and that are not, in words. -/
def counts (included skipped : Nat) : String :=
  toString included ++ " included, " ++ toString skipped ++ " skipped"

theorem plain_counts (included skipped : Nat) : Plain (counts included skipped) :=
  .append (.append (.append (plain_toString included) (by decide)) (plain_toString skipped))
    (by decide)

/-- The line that counts the operations of a client holds the two numbers in a paragraph. -/
theorem countsLine_eq (included skipped : Nat) :
    s!"        <p>{included} included, {skipped} skipped</p>" =
      "        <p>" ++ counts included skipped ++ "</p>" := by
  simp only [counts, String.append_assoc]
  rfl

/-- A time as a page shows it: the digits of a date and of a time of the day. -/
def IsTimestamp (text : String) : Prop :=
  ∀ c ∈ text.toList, c.isDigit ∨ c ∈ ['-', ' ', ':']

instance (text : String) : Decidable (IsTimestamp text) :=
  List.decidableBAll _ text.toList

theorem IsTimestamp.plain {text : String} (h : IsTimestamp text) : Plain text :=
  ⟨fun hmem => absurd (h _ hmem) (by decide), fun hmem => absurd (h _ hmem) (by decide)⟩

/-- A paragraph is read with its text. -/
theorem read_paragraphLine (indent : String) {opening text : String}
    (hopening : EndsInTag opening indent "p") (htext : Plain text) (rest : List Char) :
    read ((opening ++ text ++ "</p>").toList ++ '\n' :: rest) =
      { read rest with paragraphs := text :: (read rest).paragraphs } := by
  rw [read_elementLine indent "p" "/p" hopening (by decide) (by decide) htext.1,
    Entities.decode_eq_self htext.2, String.ofList_toList]
  simp [Reading.addTag]

/-! ## Rows and sections -/

/-- Cells are read with the texts that were escaped. -/
theorem read_cellLines (cells : List String) (rest : List Char) :
    read (linesChars (cells.map fun cell => "                <td>" ++ escape cell ++ "</td>")
      rest) = { read rest with cells := cells ++ (read rest).cells } := by
  induction cells with
  | nil => rfl
  | cons cell cells ih =>
    rw [List.map_cons, linesChars_cons,
      read_escapedLine "                " "td" "/td" (by decide) (by decide) (by decide), ih]
    simp [Reading.addTag]

/-- The end of a row adds nothing. -/
theorem silent_rowEnd : Silent "            </tr>" :=
  .ofTag "            " "/tr" (by decide) (by decide)

section Rows

variable {rest : List Char}

/-- A row is read with its cells. -/
theorem read_row (r : ReportRow) (h : (read rest).cells = []) :
    read (linesChars (row r) rest) = { read rest with rows := r.cells :: (read rest).rows } := by
  have hclose : read (linesChars ["            </tr>"] rest) = read rest := silent_rowEnd rest
  have hcells := read_cellLines r.cells (linesChars ["            </tr>"] rest)
  rw [hclose, h, List.append_nil] at hcells
  have hopen : ∀ after, read (linesChars
      ["            <tr" ++ (if r.status = "skipped" then " class='skipped'" else "") ++ ">"]
      after) = (read after).addRow := by
    intro after
    by_cases hskipped : r.status = "skipped"
    · rw [if_pos hskipped]
      exact read_tagLine "            " "tr class='skipped'" Reading.addRow (by decide)
        (fun _ _ => by simp [Reading.addTag]) after
    · rw [if_neg hskipped]
      exact read_tagLine "            " "tr" Reading.addRow (by decide)
        (fun _ _ => by simp [Reading.addTag]) after
  -- a page is read from its end, so the cells are there when the row begins
  rw [row, linesChars_append, linesChars_append, hopen]
  exact (congrArg Reading.addRow hcells).trans (by simp [Reading.addRow, ReportRow.cells, h])

/-- Rows are read one after the other. -/
theorem read_rows (rows : List ReportRow) (h : (read rest).cells = []) :
    read (linesChars (rows.flatMap row) rest) =
      { read rest with rows := rows.map ReportRow.cells ++ (read rest).rows } := by
  induction rows with
  | nil => rfl
  | cons r rows ih =>
    have hcells : (read (linesChars (rows.flatMap row) rest)).cells = [] := by rw [ih, h]
    rw [List.flatMap_cons, linesChars_append, read_row r hcells, ih]
    rfl

/-- A section is read with its heading, its paragraph and its rows. -/
theorem read_clientSection (rows : List ReportRow) (r : ClientReport)
    (hcells : (read rest).cells = []) (hrows : (read rest).rows = []) :
    read (linesChars (clientSection rows r) rest) =
      ⟨[], [], "", counts r.included.length r.skipped.length :: (read rest).paragraphs,
        ⟨r.client, (rows.filter fun row => row.client == r.client).map ReportRow.cells⟩ ::
          (read rest).sections⟩ := by
  have hsection := read_tagLine "    " "div class='section'" Reading.addSection
    (show EndsInTag "    <div class='section'>" _ _ by decide) fun _ _ => by simp [Reading.addTag]
  have hheading : ∀ after, read (("        <h2>" ++ escape r.client ++ "</h2>").toList ++
      '\n' :: after) = { read after with heading := r.client } := by
    intro after
    rw [read_escapedLine "        " "h2" "/h2" (by decide) (by decide) (by decide)]
    simp [Reading.addTag]
  have hcounts := read_paragraphLine "        " (show EndsInTag "        <p>" _ _ by decide)
    (plain_counts r.included.length r.skipped.length)
  have htable : Silent "        <table>" := .ofTag "        " "table" (by decide) (by decide)
  have hopen := read_tagLine "            " "tr" Reading.addRow
    (show EndsInTag "            <tr>" _ _ by decide) fun _ _ => by simp [Reading.addTag]
  have hcolumns : ∀ line ∈ columns.map fun heading =>
      "                <th>" ++ escape heading ++ "</th>", Silent line :=
    List.forall_mem_map.2 fun _ _ =>
      .ofEscaped "                " "th" "/th" (by decide) (by decide) (by decide)
  have hend : ∀ line ∈ ["        </table>", "    </div>"], Silent line := by
    rw [List.forall_mem_cons, List.forall_mem_singleton]
    exact ⟨.ofTag "        " "/table" (by decide) (by decide),
      .ofTag "    " "/div" (by decide) (by decide)⟩
  have hbody := read_rows (rows.filter fun row => row.client == r.client)
    ((congrArg Reading.cells (read_silentLines hend rest)).trans hcells)
  rw [read_silentLines hend, hrows, List.append_nil] at hbody
  -- line by line from the first one on, which adds what the others have read
  simp only [clientSection, linesChars_append, linesChars_cons, linesChars_nil] at hbody ⊢
  rw [hsection, hheading, countsLine_eq, hcounts, htable, hopen, read_silentLines hcolumns, silent_rowEnd,
    hbody]
  simp [Reading.addSection, Reading.addRow, hcells]

/-- Sections are read one after the other. -/
theorem read_clientSections (rows : List ReportRow) (clients : List ClientReport)
    {paragraphs : List String} {sections : List Section}
    (h : read rest = ⟨[], [], "", paragraphs, sections⟩) :
    read (linesChars (clients.flatMap (clientSection rows)) rest) =
      ⟨[], [], "", clients.map (fun r => counts r.included.length r.skipped.length) ++ paragraphs,
        clients.map (fun r => ⟨r.client,
          (rows.filter fun row => row.client == r.client).map ReportRow.cells⟩) ++ sections⟩ := by
  induction clients with
  | nil => exact h
  | cons r clients ih =>
    rw [List.flatMap_cons, linesChars_append,
      read_clientSection rows r (by rw [ih]) (by rw [ih]), ih]
    rfl

end Rows

/-! ## Pages -/

/-- The lines of the style sheet in the head of a page. -/
def styleLines : List String := ((head "").drop 6).take 6

theorem head_eq (title : String) : head title =
    ["<!DOCTYPE html>", "<html>", "<head>", "    <title>" ++ escape title ++ "</title>",
      "    <meta charset='utf-8'>", "    <style>"] ++ styleLines ++ ["    </style>", "</head>"] := rfl

theorem bracket_notMem_ofList {cs : List Char} (h : '<' ∉ cs) : '<' ∉ (String.ofList cs).toList := by
  rwa [String.toList_ofList]

/-- The style sheet holds no tags. -/
theorem bracket_notMem_styleLines : ∀ line ∈ styleLines, '<' ∉ line.toList := by
  simp only [styleLines, head, List.drop_succ_cons, List.drop_zero, List.take_succ_cons,
    List.take_zero, List.forall_mem_cons, String.toList_append, List.mem_append, not_or]
  -- each literal is taken as the list of its characters, which need not be decoded then
  exact ⟨⟨bracket_notMem_ofList (by decide), bracket_notMem_ofList (by decide)⟩,
    ⟨bracket_notMem_ofList (by decide), bracket_notMem_ofList (by decide)⟩,
    bracket_notMem_ofList (by decide), bracket_notMem_ofList (by decide),
    bracket_notMem_ofList (by decide), bracket_notMem_ofList (by decide), List.forall_mem_nil _⟩

/-- The head of a page adds nothing. -/
theorem silent_head (title : String) : ∀ line ∈ head title, Silent line := by
  rw [head_eq, List.forall_mem_append, List.forall_mem_append]
  refine ⟨⟨?_, fun line hline => .ofText (bracket_notMem_styleLines line hline)⟩, ?_⟩
  · simp only [List.forall_mem_cons]
    exact ⟨.ofTag "" "!DOCTYPE html" (by decide) (by decide),
      .ofTag "" "html" (by decide) (by decide), .ofTag "" "head" (by decide) (by decide),
      .ofEscaped "    " "title" "/title" (by decide) (by decide) (by decide),
      .ofTag "    " "meta charset='utf-8'" (by decide) (by decide),
      .ofTag "    " "style" (by decide) (by decide), List.forall_mem_nil _⟩
  · simp only [List.forall_mem_cons]
    exact ⟨.ofTag "    " "/style" (by decide) (by decide), .ofTag "" "/head" (by decide) (by decide),
      List.forall_mem_nil _⟩

/-- Lines that are joined have the characters of the lines, each with its end but for the last
one. -/
theorem toList_intercalate (lines : List String) (last : String) :
    ("\n".intercalate (lines ++ [last])).toList = linesChars lines last.toList := by
  rw [String.toList_intercalate]
  induction lines with
  | nil => exact List.intercalate_singleton
  | cons line lines ih =>
    obtain ⟨second, rest, hrest⟩ := List.exists_cons_of_ne_nil
      (List.append_ne_nil_of_right_ne_nil lines (List.cons_ne_nil last []))
    rw [linesChars_cons, ← ih, List.cons_append, hrest, List.map_cons, List.map_cons,
      List.intercalate_cons_cons, List.append_assoc]
    rfl

end Html

/-- The totals of a report count its operations as the line of a client does. -/
theorem GenerationReport.totals_eq (r : GenerationReport) :
    r.totals = "Total: " ++ Html.counts r.includedCount r.skippedCount := by
  simp only [GenerationReport.totals, Html.counts, String.append_assoc]
  rfl

/-- The page of a report is written line by line. -/
theorem GenerationReport.toList_html (r : GenerationReport) (title generatedOn : String) :
    (r.html title generatedOn).toList = Html.linesChars (Html.head title
      ++ ["<body>", "    <h1>" ++ Html.escape title ++ "</h1>",
        "    <p>" ++ Html.escape r.title ++ "</p>",
        "    <p>" ++ ("Generated on " ++ generatedOn) ++ "</p>"]
      ++ r.clients.flatMap (Html.clientSection r.rows)
      ++ ["    <p>" ++ r.totals ++ "</p>", "</body>"]) "</html>".toList := by
  have htime : "    <p>Generated on " ++ generatedOn ++ "</p>" =
      "    <p>" ++ ("Generated on " ++ generatedOn) ++ "</p>" := by
    simp only [String.append_assoc]
    rfl
  rw [← Html.toList_intercalate, GenerationReport.html, htime]
  simp only [List.append_assoc, List.cons_append, List.nil_append]

/-- The page of a report is read with its title, its time, the counts of its clients and its totals
as paragraphs, and with a section for each client. -/
theorem GenerationReport.read_html (r : GenerationReport) (title : String) {generatedOn : String}
    (h : Html.IsTimestamp generatedOn) :
    Html.read (r.html title generatedOn).toList =
      ⟨[], [], "",
        [r.title, "Generated on " ++ generatedOn] ++
          r.clients.map (fun c => Html.counts c.included.length c.skipped.length) ++ [r.totals],
        r.clients.map fun c => ⟨c.client,
          (r.rows.filter fun row => row.client == c.client).map ReportRow.cells⟩⟩ := by
  have hbody : Html.Silent "<body>" := .ofTag "" "body" (by decide) (by decide)
  have hheading : Html.Silent ("    <h1>" ++ Html.escape title ++ "</h1>") :=
    .ofEscaped "    " "h1" "/h1" (by decide) (by decide) (by decide)
  have hopening : Html.EndsInTag "    <p>" "    " "p" := by decide
  have hname : ∀ after, Html.read (("    <p>" ++ Html.escape r.title ++ "</p>").toList ++
      '\n' :: after) =
      { Html.read after with paragraphs := r.title :: (Html.read after).paragraphs } := by
    intro after
    rw [Html.read_escapedLine "    " "p" "/p" hopening (by decide) (by decide)]
    simp [Html.Reading.addTag]
  have htime := Html.read_paragraphLine "    " hopening
    (.append (show Html.Plain "Generated on " by decide) h.plain)
  have htotals := Html.read_paragraphLine "    " hopening
    (show Html.Plain r.totals from r.totals_eq ▸ .append (by decide) (Html.plain_counts _ _))
  -- the page is read from its end, so that each line has the reading of what follows it
  have hend : Html.read (Html.linesChars ["    <p>" ++ r.totals ++ "</p>", "</body>"]
      "</html>".toList) = ⟨[], [], "", [r.totals], []⟩ := by
    have hbody : Html.Silent "</body>" := .ofTag "" "/body" (by decide) (by decide)
    have hhtml : Html.read "</html>".toList = ⟨[], [], "", [], []⟩ :=
      (Html.read_tag (show '>' ∉ "/html".toList by decide) []).trans
        (Html.Reading.addTag_eq_self (by decide) _ _)
    rw [Html.linesChars_cons, htotals, Html.linesChars_cons, hbody, Html.linesChars_nil, hhtml]
  rw [r.toList_html, Html.linesChars_append, Html.linesChars_append, Html.linesChars_append,
    Html.read_silentLines (Html.silent_head title), Html.linesChars_cons, hbody,
    Html.linesChars_cons, hheading, Html.linesChars_cons, hname, Html.linesChars_cons, htime,
    Html.linesChars_nil, Html.read_clientSections _ _ hend, List.append_nil]
  rfl

end SignatureForms
