import NotebookLayout.Command.Run
import NotebookLayout.Proofs.Result
import NotebookLayout.Proofs.Text.Quoted

/-!
# Printed reports can be read back

A row is one line, and the line shows the row: its numbers and names end where a space, a sign or a
dot comes, and its quoted text ends at the first quote that does not follow a backslash. So the
lines of a report show its rows, and the empty line between cells and leaves shows where the cells
end, since no row begins with a line feed.

Main statement: `Report.rows_of_printed`.
-/

namespace NotebookLayout

open Text

/-! ## Lines -/

/-- Rows of which each is a single line that shows the row. -/
structure Printable {ρ : Type} (render : ρ → Text) : Prop where
  /-- Different rows have different lines. -/
  injective : Function.Injective render
  /-- There is no line feed within a row. -/
  newline_notMem : ∀ row, '\n' ∉ render row
  /-- No line is empty. -/
  ne_nil : ∀ row, render row ≠ []

namespace Printable

variable {ρ : Type} {render : ρ → Text}

/-- The end of a line shows where its row ends. -/
theorem selfDelimiting (h : Printable render) :
    SelfDelimiting fun row => render row ++ ['\n'] := by
  intro row other a b heq
  simp only [List.append_assoc, List.cons_append, List.nil_append] at heq
  obtain ⟨hrow, hab⟩ :=
    append_cons_inj_of_notMem (h.newline_notMem row) (h.newline_notMem other) heq
  exact ⟨h.injective hrow, hab⟩

/-- An empty line is no row. -/
theorem newline_cons_ne (h : Printable render) (a : Text) (row : ρ) (u : Text) :
    '\n' :: a ≠ render row ++ ['\n'] ++ u := by
  intro heq
  have hfeed := h.newline_notMem row
  cases hline : render row with
  | nil => exact h.ne_nil row hline
  | cons c line =>
    rw [hline] at heq hfeed
    exact hfeed (by rw [(List.cons.inj heq).1]; exact List.mem_cons_self)

/-- The rows in front of an empty line, and what comes after it. -/
theorem renderRows_newline_inj (h : Printable render) {rows others : List ρ} {a b : Text}
    (heq : renderRows render rows ++ '\n' :: a = renderRows render others ++ '\n' :: b) :
    rows = others ∧ a = b := by
  obtain ⟨hrows, hrest⟩ :=
    h.selfDelimiting.flatMap_append_inj (h.newline_cons_ne a) (h.newline_cons_ne b) heq
  exact ⟨hrows, (List.cons.inj hrest).2⟩

/-- Different rows give different lines. -/
theorem renderRows_injective (h : Printable render) :
    Function.Injective (renderRows render) := by
  intro rows others heq
  exact (h.renderRows_newline_inj (a := []) (b := []) (by rw [heq])).1

/-- There is a line for each row. -/
theorem count_renderRows (h : Printable render) (rows : List ρ) :
    (renderRows render rows).count '\n' = rows.length := by
  induction rows with
  | nil => rfl
  | cons row rows ih =>
    have hrow : (render row).count '\n' = 0 := List.count_eq_zero.2 (h.newline_notMem row)
    have hcons : renderRows render (row :: rows) = render row ++ ['\n'] ++ renderRows render rows :=
      List.flatMap_cons
    rw [hcons, List.count_append, List.count_append, hrow, ih, List.length_cons]
    simp [Nat.add_comm]

end Printable

/-! ## Rows -/

/-- The name of a kind is one word. -/
theorem CellKind.notMem_name (kind : CellKind) : ' ' ∉ kind.name ∧ '\n' ∉ kind.name := by
  cases kind <;> decide

namespace CellRow

/-- What a row says after its numbers. -/
def remarks (marker : Bool) (title : Option Text) : Text :=
  (if marker then " marker".toList else []) ++
    match title with
    | some title => ' ' :: quote title
    | none => []

/-- A row is its numbers, one behind the other, and its remarks. -/
theorem render_eq (row : CellRow) :
    row.render = '#' :: (decimal row.ordinal ++ ' ' :: (row.kind.name ++ ' ' ::
      (decimal row.start ++ '.' :: '.' ::
        (decimal row.stop ++ remarks row.marker row.title)))) := by
  have hrender : row.render = '#' :: decimal row.ordinal ++ ' ' :: row.kind.name ++
      ' ' :: decimal row.start ++ '.' :: '.' :: decimal row.stop ++
        remarks row.marker row.title := List.append_assoc _ _ _
  rw [hrender]
  simp only [List.append_assoc, List.cons_append]

/-- Remarks do not begin with a digit. -/
theorem isDigit_head_remarks (marker : Bool) (title : Option Text) :
    ∀ c ∈ (remarks marker title).head?, c.isDigit = false := by
  cases marker <;> cases title <;> simp [remarks]

/-- The next word is bare or quoted. -/
theorem remarks_inj {m n : Bool} {s t : Option Text} (h : remarks m s = remarks n t) :
    m = n ∧ s = t := by
  have hquote : ∀ {u v : Text}, quote u = quote v → u = v := fun {u v} huv =>
    (selfDelimiting_quote (congrArg (· ++ ([] : Text)) huv)).1
  cases m <;> cases n <;> cases s <;> cases t <;> simp [remarks] at h ⊢
  case false.false.some.some => exact hquote h
  case true.true.some.some => exact hquote h
  all_goals simp [quote] at h

theorem printable : Printable render where
  injective := by
    rintro ⟨ordinal, kind, start, stop, marker, title⟩
      ⟨ordinal', kind', start', stop', marker', title'⟩ h
    simp only [render_eq, List.cons.injEq, true_and] at h
    obtain ⟨hordinal, hkind⟩ := decimal_append_inj (by simp) (by simp) h
    obtain ⟨hkind, hstart⟩ := append_cons_inj_of_notMem kind.notMem_name.1 kind'.notMem_name.1
      (List.cons.inj hkind).2
    obtain ⟨hstart, hstop⟩ := decimal_append_inj (by simp) (by simp) hstart
    simp only [List.cons.injEq, true_and] at hstop
    obtain ⟨hstop, hremarks⟩ :=
      decimal_append_inj (isDigit_head_remarks _ _) (isDigit_head_remarks _ _) hstop
    obtain ⟨hmarker, htitle⟩ := remarks_inj hremarks
    rw [hordinal, CellKind.name_injective hkind, hstart, hstop, hmarker, htitle]
  newline_notMem row := by
    cases hmarker : row.marker <;> cases htitle : row.title <;>
      simp [render, hmarker, htitle, newline_notMem_decimal, newline_notMem_quote,
        row.kind.notMem_name.2]
  ne_nil row := by
    rw [render_eq]
    exact List.cons_ne_nil _ _

end CellRow

namespace LeafRow

theorem printable : Printable render where
  injective := by
    rintro ⟨line, text, width, indentSpaces, spaces, readOnly⟩
      ⟨line', text', width', indentSpaces', spaces', readOnly'⟩ h
    simp only [render, List.append_assoc, List.cons_append, List.cons.injEq, true_and] at h
    obtain ⟨hline, hindent⟩ := decimal_append_inj (by simp) (by simp) h
    obtain ⟨hindent, hspaces⟩ := decimal_append_inj (by simp) (by simp) (List.cons.inj hindent).2
    obtain ⟨hspaces, hwidth⟩ := decimal_append_inj (by simp) (by simp) (List.cons.inj hspaces).2
    simp only [List.cons.injEq, true_and] at hwidth
    obtain ⟨hwidth, htext⟩ := decimal_append_inj (by simp) (by simp) hwidth
    obtain ⟨htext, hro⟩ := selfDelimiting_quote (List.cons.inj htext).2
    have hro : readOnly = readOnly' := by
      cases readOnly <;> cases readOnly' <;> simp at hro ⊢
    rw [hline, hindent, hspaces, hwidth, htext, hro]
  newline_notMem row := by
    cases hro : row.readOnly <;>
      simp [render, hro, newline_notMem_decimal, newline_notMem_quote]
  ne_nil row := by simp [render]

end LeafRow

/-! ## Runs -/

/-- A run reports this: on the text of its file, with the settings that it loads. -/
def Arguments.Reports (args : Arguments) (arith : Arithmetic) (defaultPath : Text)
    (read : Text → FileContent) (report : Report) : Prop :=
  ∃ settings content, args.loadSettings defaultPath read = .ok settings ∧
    read args.file = .text content ∧ Report.ofText arith content settings args.indent = .ok report

/-- A run reports one thing only. -/
theorem Arguments.Reports.unique {args : Arguments} {arith : Arithmetic} {defaultPath : Text}
    {read : Text → FileContent} {report other : Report}
    (h : args.Reports arith defaultPath read report)
    (hother : args.Reports arith defaultPath read other) : report = other := by
  obtain ⟨settings, content, hsettings, hcontent, hreport⟩ := h
  obtain ⟨settings', content', hsettings', hcontent', hother⟩ := hother
  obtain rfl := Except.ok.inj (hsettings.symm.trans hsettings')
  obtain rfl := FileContent.text.inj (hcontent.symm.trans hcontent')
  exact Except.ok.inj (hreport.symm.trans hother)

/-- What a run prints is its report. -/
theorem Arguments.exists_reports_of_run {args : Arguments} {arith : Arithmetic} {defaultPath : Text}
    {read : Text → FileContent} {out : Text} (h : args.run arith defaultPath read = .ok out) :
    ∃ report, args.Reports arith defaultPath read report ∧
      out = if args.toml then report.toToml else report.render args.indent := by
  obtain ⟨settings, hsettings, h⟩ := bind_eq_ok.1 h
  cases hcontent : read args.file with
  | text content =>
    rw [hcontent] at h
    obtain ⟨report, hreport, hout⟩ := bind_eq_ok.1 h
    exact ⟨report, ⟨settings, content, hsettings, hcontent, mapError_eq_ok.1 hreport⟩,
      pure_eq_ok.1 hout⟩
  | _ =>
    rw [hcontent] at h
    exact absurd h throw_ne_ok

namespace Report

/-- Reports that list their leaves are told apart by their lines. -/
theorem render_injective : Function.Injective fun report : Report => report.render true := by
  rintro ⟨cells, leaves⟩ ⟨cells', leaves'⟩ h
  obtain ⟨rfl, hleaves⟩ := CellRow.printable.renderRows_newline_inj h
  obtain rfl := LeafRow.printable.renderRows_injective hleaves
  rfl

/-- Rows are told apart by their lines, of which every row is one, and two runs that list the leaves
and print the same report the same cells and leaves, with whatever arithmetic. -/
theorem rows_of_printed :
    Function.Injective (renderRows CellRow.render) ∧
      Function.Injective (renderRows LeafRow.render) ∧
      (∀ rows, (renderRows CellRow.render rows).count '\n' = rows.length) ∧
      (∀ rows, (renderRows LeafRow.render rows).count '\n' = rows.length) ∧
      ∀ (args other : Arguments) (arith otherArith : Arithmetic) (path otherPath : Text)
        (read otherRead : Text → FileContent) (out : Text), args.indent = true →
        args.toml = false → other.indent = true → other.toml = false →
        args.run arith path read = .ok out → other.run otherArith otherPath otherRead = .ok out →
        ∃ report, (∀ r, args.Reports arith path read r ↔ r = report) ∧
          ∀ r, other.Reports otherArith otherPath otherRead r ↔ r = report := by
  refine ⟨CellRow.printable.renderRows_injective, LeafRow.printable.renderRows_injective,
    CellRow.printable.count_renderRows, LeafRow.printable.count_renderRows, ?_⟩
  intro args other arith otherArith path otherPath read otherRead out
    hindent htoml hindent' htoml' hrun hrun'
  obtain ⟨report, hreport, hout⟩ := Arguments.exists_reports_of_run hrun
  obtain ⟨report', hreport', hout'⟩ := Arguments.exists_reports_of_run hrun'
  simp only [hindent, htoml, Bool.false_eq_true, if_false] at hout
  simp only [hindent', htoml', Bool.false_eq_true, if_false] at hout'
  obtain rfl : report = report' := render_injective (hout.symm.trans hout')
  exact ⟨report, fun r => ⟨fun h => h.unique hreport, fun h => h ▸ hreport⟩,
    fun r => ⟨fun h => h.unique hreport', fun h => h ▸ hreport'⟩⟩

/-- A title that looks like the rest of a row, and a file that looks like a report: once with a
settings file and once without, and with other blanks at the end. -/
theorem rows_of_printed_quotes :
    let args : Arguments :=
      { file := "a".toList, config := some "c".toList, indent := true, toml := false }
    let other : Arguments := { file := "b".toList, config := none, indent := true, toml := false }
    let read : Text → FileContent := fun path =>
      if path = "c".toList then .text "tab_size = 4\n".toList
      else .text "# %% x\" marker \"\n#0".toList
    let otherRead : Text → FileContent := fun path =>
      if path = "b".toList then .text "# %% x\" marker \"\n#0 \t".toList
      else .missing
    let out := ("#0 code 0..2 marker \"x\\\" marker \\\"\"\n\n" ++
      "L0 0+0 w1 \"#\"\nL0 0+2 w2 \"%%\"\nL0 0+5 w1 \"x\"\n" ++
      "L0 0+6 w10 \"\\\" marker \\\"\"\nL1 0+0 w2 \"#0\"\n").toList
    args.run .wrapping [] read = .ok out ∧ other.run .checked [] otherRead = .ok out ∧
      ∃ report, args.Reports .wrapping [] read report ∧
        other.Reports .checked [] otherRead report := by
  intro args other read otherRead out
  have hrun : args.run .wrapping [] read = .ok out := by decide +kernel
  have hrun' : other.run .checked [] otherRead = .ok out := by decide +kernel
  obtain ⟨-, -, -, -, hruns⟩ := rows_of_printed
  obtain ⟨report, hreport, hreport'⟩ :=
    hruns args other .wrapping .checked [] [] read otherRead out rfl rfl rfl rfl hrun hrun'
  exact ⟨hrun, hrun', report, (hreport report).2 rfl, (hreport' report).2 rfl⟩

end Report

end NotebookLayout
