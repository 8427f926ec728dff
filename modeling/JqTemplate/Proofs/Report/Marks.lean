import JqTemplate.Proofs.Report

namespace JqTemplate.Report

/-- The first line of a text, without the feed that ends it and a carriage return in front of that.
-/
def headLine (part : List Char) : List Char :=
  if '\n' ∈ part then dropReturn (firstLine part) else part

section Marks

variable {source : Source} {label : Label} {s : Statement}

theorem headLine_of_directive (directive : IsDirective source.text s) (located : label.span = s.span) :
    headLine (label.span.text source.text) = shownPart source.text label.span := by
  unfold headLine shownPart
  split
  · rfl
  · next plain =>
    obtain ⟨pre, body, post, whole, _, rfl⟩ := directive.split
    rw [located, whole, Span.text_between] at plain ⊢
    exact (shown_of_plain plain).symm

theorem ofOffset_codePoint (text : List Char) (offset : Int) :
    Position.ofOffset .codePoint text offset =
      ⟨(text.take offset.toNat).count '\n',
        ((text.take offset.toNat).rtakeWhile fun c => c ≠ '\n').length⟩ := by
  rw [Position.ofOffset, Position.after_eq, ColumnUnit.measure_codePoint]

theorem caretCount_eq (directive : IsDirective source.text s) (located : label.span = s.span) :
    let start := Position.ofOffset .codePoint source.text label.span.start
    let stop := Position.ofOffset .codePoint source.text label.span.stop
    let line := lineAt source.text start.line
    let head := headLine (label.span.text source.text)
    caretCount start stop line = head.length ∧ head ≠ [] ∧
      slice line start.column (start.column + head.length) = head := by
  obtain ⟨front, column, line, nonempty, ⟨behind, split⟩, count⟩ := exists_front directive located
  simp only [headLine_of_directive directive located]
  refine ⟨count, nonempty, ?_⟩
  rw [line, ← column, ← split]
  exact slice_between _ _ _

end Marks

/-- The rows of any label of a reported diagnostic, behind those of the labels before it. -/
theorem carets_mark_head_line (config : CheckConfig) (source : Source) {d : Diagnostic}
    (found : d ∈ (check config source.text).diagnostics) {earlier later : List Label}
    {label : Label} (labels : d.labels = earlier ++ label :: later) :
    let front := source.text.take label.span.start.toNat
    let line := front.count '\n'
    let column := (front.rtakeWhile fun c => c ≠ '\n').length
    let head := headLine (label.span.text source.text)
    (∃ after, render false source d = String.intercalate "\n"
      (header false d :: earlier.flatMap (labelLines false d.severity source) ++
        [placeRow source.name ⟨line, column⟩, barRow, sourceRow line (lineAt source.text line),
          caretRow column head.length] ++ after)) ∧
      1 ≤ head.length ∧
      slice (lineAt source.text line) column (column + head.length) = head := by
  intro front line column head
  obtain ⟨s, directive, located⟩ := label_at_directive found (labels ▸ List.mem_append_cons_self)
  obtain ⟨count, nonempty, same⟩ := caretCount_eq directive located
  obtain ⟨after, rows⟩ := lines_of_labels false source labels
  have block := labelLines_plain d.severity source label
  have start : Position.ofOffset .codePoint source.text label.span.start = ⟨line, column⟩ :=
    ofOffset_codePoint source.text label.span.start
  simp only [start] at count same block
  refine ⟨⟨messageRows label.message ++ after, ?_⟩, List.length_pos_of_ne_nil nonempty, same⟩
  rw [render, rows, block, count]
  simp only [List.cons_append, List.append_assoc, List.nil_append, head]

theorem carets_mark_broken_directive :
    let source : Source := ⟨"a.jqtpl", ("x\r\n " ++ marked "if a\r\n").toList⟩
    let label : Label := ⟨⟨4, 14⟩, "opened here", .primary⟩
    ∃ d ∈ (check {} source.text).diagnostics, d.labels = [label] ∧
      ∃ after, render false source d = String.intercalate "\n"
        ([header false d, "  --> a.jqtpl:2:2", "     |", "     2 |  \x7b\x7bif a",
          "     |  ^^^^^^"] ++ after) := by
  intro source label
  have found : ∃ d ∈ (check {} source.text).diagnostics, d.labels = [label] := by decide
  obtain ⟨d, reported, labels⟩ := found
  obtain ⟨⟨after, rows⟩, _, _⟩ := carets_mark_head_line {} source reported
    (show d.labels = [] ++ label :: [] from labels)
  have line : (source.text.take label.span.start.toNat).count '\n' = 1 := by decide
  have column :
      ((source.text.take label.span.start.toNat).rtakeWhile fun c => c ≠ '\n').length = 1 := by
    decide
  have long : (headLine (label.span.text source.text)).length = 6 := by decide
  have place : placeRow source.name ⟨1, 1⟩ = "  --> a.jqtpl:2:2" := by decide
  have code : sourceRow 1 (lineAt source.text (1 : Nat)) = "     2 |  \x7b\x7bif a" := by decide
  have carets : caretRow 1 6 = "     |  ^^^^^^" := by decide
  rw [line, column, long, place, code, carets] at rows
  exact ⟨d, reported, labels, after, rows⟩

end JqTemplate.Report
