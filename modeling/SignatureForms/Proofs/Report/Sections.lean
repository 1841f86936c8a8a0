import Mathlib.Algebra.Order.BigOperators.Group.List
import Mathlib.Algebra.Order.Group.Nat
import Mathlib.Data.List.Flatten
import SignatureForms.Proofs.Report.Reading

/-!
# Sections of a page

The rows of a page are made for the whole report and shared out to the sections by the names of the
clients, while the totals are those of the clients themselves. Clients of one name get the rows of
one another.

The module introduces:

* `rowsNamed clients name` — the rows of all clients of a name;
* `NamesApart clients` — clients of one name have no operations;
* `ClientReport.ownSection` — the section that a client should have.

## Main results

* `filter_rows_eq`: the rows that carry a name are those of the clients of the name;
* `forall_rowsNamed_eq_iff`, `length_rowsNamed_eq_iff`: when each client has its own rows alone, and
  when the rows of the sections are as many as there are;
* `html_ownSections_iff`: both, for the page of a report.
-/

namespace SignatureForms

/-! ## Clients of one name -/

section Clients

variable {clients : List ClientReport} {c : ClientReport} {name : String}

/-- The rows of all clients of a name. -/
def rowsNamed (clients : List ClientReport) (name : String) : List ReportRow :=
  (clients.filter (·.client == name)).flatMap ClientReport.rows

theorem rowsNamed_cons_of_eq (h : c.client = name) (rest : List ClientReport) :
    rowsNamed (c :: rest) name = c.rows ++ rowsNamed rest name := by
  rw [rowsNamed, List.filter_cons, if_pos (beq_iff_eq.2 h), List.flatMap_cons, rowsNamed]

theorem rowsNamed_cons_of_ne (h : c.client ≠ name) (rest : List ClientReport) :
    rowsNamed (c :: rest) name = rowsNamed rest name := by
  rw [rowsNamed, List.filter_cons, if_neg (mt beq_iff_eq.1 h), rowsNamed]

theorem rowsNamed_append (before after : List ClientReport) (name : String) :
    rowsNamed (before ++ after) name = rowsNamed before name ++ rowsNamed after name := by
  rw [rowsNamed, List.filter_append, List.flatMap_append, rowsNamed, rowsNamed]

/-- Clients of a name without operations add no rows to those of the name. -/
theorem rowsNamed_eq_nil (h : ∀ d ∈ clients, name = d.client → d.rows = []) :
    rowsNamed clients name = [] := by
  refine List.flatMap_eq_nil_iff.2 fun d hd => ?_
  rw [List.mem_filter, beq_iff_eq] at hd
  exact h d hd.1 hd.2.symm

/-- A row carries the name of its client. -/
theorem ClientReport.client_of_mem_rows {row : ReportRow} (h : row ∈ c.rows) :
    row.client = c.client := by
  rw [ClientReport.rows, List.mem_append, List.mem_map, List.mem_map] at h
  obtain ⟨op, -, rfl⟩ | ⟨op, -, rfl⟩ := h
  · rfl
  · rfl

/-- The rows that carry a name are those of the clients of that name. -/
theorem filter_rows_eq (clients : List ClientReport) (name : String) :
    (clients.flatMap ClientReport.rows).filter (·.client == name) = rowsNamed clients name := by
  induction clients with
  | nil => rfl
  | cons c rest ih =>
    rw [List.flatMap_cons, List.filter_append, ih]
    by_cases hname : c.client = name
    · rw [rowsNamed_cons_of_eq hname, List.filter_eq_self.2]
      intro row hrow
      rw [ClientReport.client_of_mem_rows hrow, hname, beq_self_eq_true]
    · rw [rowsNamed_cons_of_ne hname, List.filter_eq_nil_iff.2, List.nil_append]
      intro row hrow
      rwa [ClientReport.client_of_mem_rows hrow, beq_iff_eq]

/-- The rows of a client are among those of its name. -/
theorem rows_sublist_rowsNamed (h : c ∈ clients) :
    c.rows.Sublist (rowsNamed clients c.client) :=
  List.sublist_flatten_of_mem
    (List.mem_map_of_mem (List.mem_filter.2 ⟨h, beq_self_eq_true c.client⟩))

theorem rowsNamed_eq_of_length (h : c ∈ clients)
    (hlength : (rowsNamed clients c.client).length = c.rows.length) :
    rowsNamed clients c.client = c.rows :=
  ((rows_sublist_rowsNamed h).eq_of_length hlength.symm).symm

/-- Clients of one name have no operations. -/
def NamesApart (clients : List ClientReport) : Prop :=
  clients.Pairwise fun c d => c.client = d.client → c.rows = [] ∧ d.rows = []

instance (clients : List ClientReport) : Decidable (NamesApart clients) :=
  inferInstanceAs (Decidable (List.Pairwise _ _))

/-- Each client has all rows of its name exactly if clients of one name have no operations. -/
theorem forall_rowsNamed_eq_iff :
    (∀ c ∈ clients, rowsNamed clients c.client = c.rows) ↔ NamesApart clients := by
  constructor
  · intro h
    refine List.pairwise_iff_forall_sublist.2 fun {c d} hpair hname => ?_
    -- both clients are of the name, so its rows are those of both and of each
    have hboth : (c.rows ++ d.rows).length ≤ (rowsNamed clients c.client).length := by
      have hrows : rowsNamed [c, d] c.client = c.rows ++ d.rows := by
        rw [rowsNamed_cons_of_eq rfl, rowsNamed_cons_of_eq hname.symm]
        exact congrArg (c.rows ++ ·) (List.append_nil d.rows)
      rw [← hrows]
      exact ((hpair.filter _).flatMap ClientReport.rows).length_le
    have hc := congrArg List.length (h c (hpair.subset List.mem_cons_self))
    have hd := congrArg List.length (h d (hpair.subset (List.mem_cons_of_mem c List.mem_cons_self)))
    rw [← hname] at hd
    rw [List.length_append] at hboth
    exact ⟨List.length_eq_zero_iff.1 (by omega), List.length_eq_zero_iff.1 (by omega)⟩
  · intro h c hc
    obtain ⟨before, after, rfl⟩ := List.append_of_mem hc
    obtain ⟨-, hafter, hbefore⟩ := List.pairwise_append.1 h
    rw [rowsNamed_append, rowsNamed_cons_of_eq rfl,
      rowsNamed_eq_nil fun d hd hname => (hbefore d hd c List.mem_cons_self hname.symm).1,
      rowsNamed_eq_nil fun d hd hname => ((List.pairwise_cons.1 hafter).1 d hd hname).2,
      List.nil_append, List.append_nil]

/-- The rows that all clients have of their names are as many as the rows of all clients exactly if
clients of one name have no operations. -/
theorem length_rowsNamed_eq_iff :
    (clients.flatMap fun c => rowsNamed clients c.client).length =
        (clients.flatMap ClientReport.rows).length ↔ NamesApart clients := by
  rw [← forall_rowsNamed_eq_iff, List.length_flatMap, List.length_flatMap]
  constructor
  · intro hsum c hc
    have hle : ∀ d ∈ clients, d.rows.length ≤ (rowsNamed clients d.client).length :=
      fun d hd => (rows_sublist_rowsNamed hd).length_le
    by_contra hne
    have hlt : c.rows.length < (rowsNamed clients c.client).length :=
      (hle c hc).lt_of_ne fun hlength => hne (rowsNamed_eq_of_length hc hlength.symm)
    exact (List.sum_lt_sum _ _ hle ⟨c, hc, hlt⟩).ne' hsum
  · intro h
    rw [List.map_congr_left fun c hc => congrArg List.length (h c hc)]

end Clients

/-- The section that holds the rows of one client alone. -/
def ClientReport.ownSection (c : ClientReport) : Html.Section :=
  ⟨c.client, c.rows.map ReportRow.cells⟩

/-- The number of rows of a page, in and outside of its sections. -/
def Html.Reading.rowCount (page : Html.Reading) : Nat :=
  page.rows.length + (page.sections.flatMap Html.Section.rows).length

/-- A page has a section for each client, with the rows of all clients of that name, and ends in the
totals of the report. The sections hold the rows of their own clients exactly if clients of one name
have no operations, and just then the page has as many rows as its totals say. -/
theorem html_ownSections_iff (r : GenerationReport) (title : String) {generatedOn : String}
    (h : Html.IsTimestamp generatedOn) :
    let page := Html.read (r.html title generatedOn).toList
    page.sections = r.clients.map (fun c =>
        ⟨c.client, (rowsNamed r.clients c.client).map ReportRow.cells⟩) ∧
      page.paragraphs.getLast? =
        some s!"Total: {r.includedCount} included, {r.skippedCount} skipped" ∧
      (page.sections = r.clients.map ClientReport.ownSection ↔ NamesApart r.clients) ∧
      (page.rowCount = r.includedCount + r.skippedCount ↔ NamesApart r.clients) := by
  have hread := r.read_html title h
  simp only [GenerationReport.rows, filter_rows_eq] at hread
  rw [hread]
  refine ⟨rfl, List.getLast?_concat, ?_, ?_⟩
  · rw [List.map_inj_left, ← forall_rowsNamed_eq_iff]
    refine forall₂_congr fun c hc => ⟨fun hsection => ?_, fun hrows => ?_⟩
    · have hlength := congrArg (fun s => s.rows.length) hsection
      simp only [ClientReport.ownSection, List.length_map] at hlength
      exact rowsNamed_eq_of_length hc hlength
    · rw [hrows, ClientReport.ownSection]
  · rw [← r.length_rows, GenerationReport.rows, ← length_rowsNamed_eq_iff]
    simp [Html.Reading.rowCount, List.flatMap_map, ← List.map_flatMap]

/-- A report on two clients with different names. -/
def mailAndUsers : GenerationReport :=
  ⟨"mail", "org", "1.0.0",
    [⟨"Mail", none, [⟨"read", "read", "remote"⟩], [⟨"watch", "unsupported parameter type", ""⟩]⟩,
      ⟨"Users", none, [⟨"list", "list", "remote"⟩], []⟩]⟩

theorem html_ownSections_iff_mailAndUsers :
    Html.IsTimestamp "2024-05-01 12:00:00" ∧ NamesApart mailAndUsers.clients ∧
      (Html.read (mailAndUsers.html "Report" "2024-05-01 12:00:00").toList).sections =
        mailAndUsers.clients.map ClientReport.ownSection ∧
      (Html.read (mailAndUsers.html "Report" "2024-05-01 12:00:00").toList).rowCount = 3 := by
  have htime : Html.IsTimestamp "2024-05-01 12:00:00" := by decide
  have hapart : NamesApart mailAndUsers.clients := by decide
  obtain ⟨-, -, hsections, hcount⟩ := html_ownSections_iff mailAndUsers "Report" htime
  exact ⟨htime, hapart, hsections.2 hapart, hcount.2 hapart⟩

/-- A report on two clients of one name, one with an operation that is offered and one with an
operation that is skipped. -/
def mailTwice : GenerationReport :=
  ⟨"mail", "org", "1.0.0",
    [⟨"Mail", none, [⟨"read", "read", "remote"⟩], []⟩,
      ⟨"Mail", none, [], [⟨"watch", "unsupported parameter type", ""⟩]⟩]⟩

/-- Each of the two sections holds both rows, so that the page has four where its totals say two. -/
theorem html_ownSections_mailTwice :
    let page := Html.read (mailTwice.html "Report" "2024-05-01 12:00:00").toList
    page.sections ≠ mailTwice.clients.map ClientReport.ownSection ∧ page.rowCount = 4 ∧
      mailTwice.includedCount + mailTwice.skippedCount = 2 := by
  rw [mailTwice.read_html "Report" (by decide)]
  decide

end SignatureForms
