import JqTemplate.Proofs.Alike
import JqTemplate.Proofs.Composition

namespace JqTemplate

def Diagnostic.startsBefore (d : Diagnostic) (place : Int) : Bool :=
  d.span?.any fun span => decide (span.start < place)

theorem Diagnostic.Alike.eq {meets : Statement → Statement → Prop}
    (kept : ∀ {s s'}, meets s s' → s' = s) {d d' : Diagnostic} (alike : d.Alike meets Eq d') :
    d' = d := by
  have labels : d.labels = d'.labels := by
    apply List.forall₂_eq_eq_eq ▸ alike.labels.imp
    rintro ⟨span, message, style⟩ ⟨span', message', style'⟩ ⟨⟨s, s', met, here, there⟩, told, look⟩
    obtain rfl := kept met
    simp only at here there told look
    rw [here, there, told, look]
  have suggestions : d.suggestions = d'.suggestions := by
    apply List.forall₂_eq_eq_eq ▸ alike.suggestions.imp
    rintro ⟨message, replacement⟩ ⟨message', replacement'⟩ ⟨told, replaces⟩
    simp only at told replaces
    rw [told, replaces]
  have notes : d.notes = d'.notes := List.forall₂_eq_eq_eq ▸ alike.notes
  have severity := alike.severity
  have code := alike.code
  have message := alike.message
  cases d
  cases d'
  simp_all

section Texts

variable {a b : List Char} {s s' : Statement} {config : CheckConfig}

def Kept (a : List Char) (s s' : Statement) : Prop := IsDirective a s ∧ s' = s

theorem IsDirective.inner_append (h : IsDirective a s) :
    s.span.inner (a ++ b) = s.span.inner a := by
  obtain ⟨start, close, span, _, first, _⟩ := h
  have inside := first.2.1.lt_length
  rw [span, inner_append_left (by omega)]

theorem kept_corresponds (config : CheckConfig) (a b : List Char) :
    Corresponds (Kept a) Eq config a (a ++ b) where
  mark := by
    rintro s _ ⟨_, rfl⟩
    rfl
  long := by
    rintro s _ ⟨directive, rfl⟩
    exact ⟨directive.long, directive.long⟩
  order := by
    rintro s _ t _ ⟨_, rfl⟩ ⟨_, rfl⟩
    rfl
  plain := by
    rintro s _ ⟨directive, rfl⟩ _
    rw [Nesting.isPlainElse, Nesting.isPlainElse, directive.inner_append]
  unknown := by
    rintro s _ ⟨directive, rfl⟩
    exact unknownFinding?_alike (fun _ => rfl) ⟨directive, rfl⟩ rfl
  fixed _ _ := rfl

theorem kept_paired (text : List Char) :
    List.Forall₂ (Kept text) (readDirectives text) (readDirectives text) :=
  List.forall₂_same.mpr fun _ read => ⟨isDirective_of_mem_readDirectives read, rfl⟩

/-- The statements of a text are judged by that text, whatever stands behind it. -/
theorem found_append (config : CheckConfig) (a b : List Char) :
    (checkNesting config (a ++ b) (parse a)).found = (checkNesting config a (parse a)).found := by
  have alike := (checkNesting_alike (kept_corresponds config a b) (kept_paired a)).found
  rw [checkNesting_directives config (a ++ b), checkNesting_directives config a]
  have equal : List.Forall₂ Eq _ _ :=
    alike.imp fun _ _ same => (same.eq fun kept => kept.2).symm
  exact (List.forall₂_eq_eq_eq ▸ equal : _ = _).symm

end Texts

theorem findings_filter_closed (config : CheckConfig) (source : List Char)
    (statements : List Statement) :
    (findings config source statements).filter (fun d => !d.code.isUnclosed) =
      (checkNesting config source statements).found := by
  rw [findings_filter config source statements (by simp [unclosed_code])]
  apply List.filter_eq_self.mpr
  intro d member
  simp [(Nesting.mem_found member).2]

theorem diagnostics_filter_closed (config : CheckConfig) (text : List Char) :
    (check config text).diagnostics.filter (fun d => !d.code.isUnclosed) =
      sortByKey Diagnostic.sortKey (checkNesting config text (parse text)).found := by
  rw [check, checkStatements, sortByKey, (Ranks.of_key Diagnostic.sortKey).filter_stableSort,
    findings_filter_closed, sortByKey]

section Starts

variable {a b : List Char} {d : Diagnostic}

theorem startsBefore_of_found (config : CheckConfig) (text : List Char)
    (member : d ∈ (checkNesting config text (parse text)).found) :
    d.startsBefore text.length = true := by
  obtain ⟨s, read, span⟩ := Nesting.span_of_mem_found member
  have tiles := (parse_divides text).tiles
  have long := tiles.inOrder.1 s read
  have inside := tiles.stop_le_of_mem read
  simp only [Diagnostic.startsBefore, span, Option.any_some, decide_eq_true_eq]
  omega

theorem not_startsBefore_of_shifted {s : Statement}
    (moved : s ∈ (parse b).map fun s => s.shift a.length) (span : d.span? = some s.span) :
    d.startsBefore a.length = false := by
  obtain ⟨t, read, rfl⟩ := List.mem_map.mp moved
  have positive := (parse_divides b).tiles.start_le_of_mem read
  simp only [Diagnostic.startsBefore, span, Option.any_some, Statement.shift, Span.shift,
    decide_eq_false_iff_not]
  omega

end Starts

/-- Text behind a complete directive changes no finding in front of it, except on blocks that are
not closed. -/
theorem findings_before_stay (config : CheckConfig) {a b : List Char}
    (complete : a = [] ∨ ∃ d ∈ (parse a).getLast?, d.isContent = false) :
    (check config (a ++ b)).diagnostics.filter
        (fun d => d.startsBefore a.length && !d.code.isUnclosed) =
      (check config a).diagnostics.filter fun d => !d.code.isUnclosed := by
  obtain ⟨new, found, behind⟩ := Nesting.run_adds config (a ++ b)
    ((parse b).map fun s => s.shift a.length) (checkNesting config (a ++ b) (parse a))
  have whole : (checkNesting config (a ++ b) (parse (a ++ b))).found =
      (checkNesting config a (parse a)).found ++ new := by
    rw [parse_append complete, ← found_append config a b, ← found, checkNesting, checkNesting,
      List.foldl_append]
  have old : (checkNesting config a (parse a)).found.filter (fun d => d.startsBefore a.length) =
      (checkNesting config a (parse a)).found :=
    List.filter_eq_self.mpr fun d member => startsBefore_of_found config a member
  have late : new.filter (fun d => d.startsBefore a.length) = [] := by
    apply List.filter_eq_nil_iff.mpr
    intro d member
    obtain ⟨⟨s, moved, span⟩, _⟩ := behind d member
    simp [not_startsBefore_of_shifted moved span]
  calc
    _ = ((check config (a ++ b)).diagnostics.filter fun d => !d.code.isUnclosed).filter
          fun d => d.startsBefore a.length := by rw [List.filter_filter]
    _ = (sortByKey Diagnostic.sortKey ((checkNesting config a (parse a)).found ++ new)).filter
          fun d => d.startsBefore a.length := by rw [diagnostics_filter_closed, whole]
    _ = sortByKey Diagnostic.sortKey (checkNesting config a (parse a)).found := by
      rw [sortByKey, (Ranks.of_key Diagnostic.sortKey).filter_stableSort, List.filter_append, old, late,
        List.append_nil, sortByKey]
    _ = (check config a).diagnostics.filter fun d => !d.code.isUnclosed :=
      (diagnostics_filter_closed config a).symm

theorem findings_before_closing_stay :
    let a := (marked "if x" ++ marked "#").toList
    let b := (marked "/if" ++ marked "/each").toList
    (∃ d ∈ (parse a).getLast?, d.isContent = false) ∧
      (check {} a).diagnostics.map (fun d => d.code) = [.unclosedIf, .unknownDirective] ∧
      (check {} (a ++ b)).diagnostics.map (fun d => d.code) =
        [.unknownDirective, .unmatchedCloseEach] ∧
      (check {} (a ++ b)).diagnostics.filter
          (fun d => d.startsBefore a.length && !d.code.isUnclosed) =
        (check {} a).diagnostics.filter fun d => !d.code.isUnclosed := by
  intro a b
  have complete : ∃ d ∈ (parse a).getLast?, d.isContent = false := by decide
  exact ⟨complete, by decide, by decide, findings_before_stay {} (.inr complete)⟩

end JqTemplate
