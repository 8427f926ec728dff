import JqTemplate.Proofs.Alike
import JqTemplate.Proofs.Enclosed
import JqTemplate.Proofs.Parse

namespace JqTemplate

def directiveTexts (text : List Char) : List (List Char) :=
  (readDirectives text).map fun s => s.span.text text

def Counterparts (text text' : List Char) (s s' : Statement) : Prop :=
  ∃ i : Nat, (readDirectives text)[i]? = some s ∧ (readDirectives text')[i]? = some s'

theorem enclosed_injective {body body' : List Char} (same : enclosed body = enclosed body') :
    body = body' :=
  List.append_cancel_right (List.append_cancel_left same)

section Directives

variable {text : List Char} {s t : Statement}

theorem readDirectives_inOrder (text : List Char) : InOrder (readDirectives text) :=
  (parse_inOrder text).sublist List.filter_sublist

theorem IsDirective.text_eq (h : IsDirective text s) :
    s.span.text text = enclosed (s.span.inner text) := by
  obtain ⟨pre, body, post, rfl, _, rfl⟩ := h.split
  simp only [Span.text_between, Span.inner_enclosed]

theorem IsDirective.form_eq (h : IsDirective text s) :
    s.form = Form.ofBody (s.span.inner text) := by
  obtain ⟨_, _, _, _, _, form⟩ := h
  exact form

end Directives

namespace Counterparts

variable {text text' : List Char} {s s' t t' : Statement}

theorem directive (met : Counterparts text text' s s') :
    IsDirective text s ∧ IsDirective text' s' := by
  obtain ⟨i, here, there⟩ := met
  exact ⟨isDirective_of_mem_readDirectives (List.mem_of_getElem? here),
    isDirective_of_mem_readDirectives (List.mem_of_getElem? there)⟩

theorem start_lt_iff (first : Counterparts text text' s s') (second : Counterparts text text' t t') :
    s'.span.start < t'.span.start ↔ s.span.start < t.span.start := by
  obtain ⟨i, hs, hs'⟩ := first
  obtain ⟨j, ht, ht'⟩ := second
  rw [(readDirectives_inOrder text').start_lt_iff hs' ht',
    (readDirectives_inOrder text).start_lt_iff hs ht]

theorem inner_eq (same : directiveTexts text = directiveTexts text')
    (met : Counterparts text text' s s') : s'.span.inner text' = s.span.inner text := by
  obtain ⟨is, is'⟩ := met.directive
  obtain ⟨i, here, there⟩ := met
  have wording : (directiveTexts text)[i]? = (directiveTexts text')[i]? := by rw [same]
  simp only [directiveTexts, List.getElem?_map, here, there, Option.map_some,
    Option.some.injEq] at wording
  rw [is.text_eq, is'.text_eq] at wording
  exact (enclosed_injective wording).symm

theorem form_eq (same : directiveTexts text = directiveTexts text')
    (met : Counterparts text text' s s') : s'.form = s.form := by
  obtain ⟨is, is'⟩ := met.directive
  rw [is.form_eq, is'.form_eq, met.inner_eq same]

theorem corresponds (config : CheckConfig) (same : directiveTexts text = directiveTexts text') :
    Corresponds (Counterparts text text') Eq config text text' where
  mark met := by rw [Statement.mark?, Statement.mark?, Statement.keyword?, Statement.keyword?,
    met.form_eq same]
  long met := ⟨met.directive.1.long, met.directive.2.long⟩
  order first second := first.start_lt_iff second
  plain met _ := by rw [Nesting.isPlainElse, Nesting.isPlainElse, met.inner_eq same]
  unknown met := unknownFinding?_alike (fun _ => rfl) met (met.form_eq same)
  fixed _ _ := rfl

end Counterparts

theorem readDirectives_paired {text text' : List Char}
    (same : directiveTexts text = directiveTexts text') :
    List.Forall₂ (Counterparts text text') (readDirectives text) (readDirectives text') := by
  apply List.forall₂_iff_get.mpr
  constructor
  · have long := congrArg List.length same
    simpa [directiveTexts] using long
  · intro i here there
    exact ⟨i, by simp [here], by simp [there]⟩

/-- Texts with the same directives are reported on alike, and have the same blocks. -/
theorem check_counterparts (config : CheckConfig) {text text' : List Char}
    (same : directiveTexts text = directiveTexts text') :
    List.Forall₂ (Diagnostic.Alike (Counterparts text text') Eq)
        (check config text).diagnostics (check config text').diagnostics ∧
      List.Forall₂ (Block.Alike (Counterparts text text'))
        (check config text).blocks (check config text').blocks := by
  unfold check
  rw [checkStatements_directives config text, checkStatements_directives config text']
  exact checkStatements_alike (Counterparts.corresponds config same) (readDirectives_paired same)

theorem check_counterparts_spaced :
    let text := (marked "if a" ++ marked "/each" ++ marked "else" ++ marked "else").toList
    let spaced := ("\x7d" ++ marked "if a" ++ "\n\x7b " ++ marked "/each" ++ closeMark ++
      marked "else" ++ marked "else" ++ openMark).toList
    directiveTexts text = directiveTexts spaced ∧
      (check {} text).diagnostics.map (fun d => (d.code, d.sortKey)) =
        [(.unclosedIf, 0), (.mismatchedClose, 8), (.unreachableElse, 25)] ∧
      (check {} spaced).diagnostics.map (fun d => (d.code, d.sortKey)) =
        [(.unclosedIf, 1), (.mismatchedClose, 12), (.unreachableElse, 31)] ∧
      List.Forall₂ (Diagnostic.Alike (Counterparts text spaced) Eq)
        (check {} text).diagnostics (check {} spaced).diagnostics ∧
      List.Forall₂ (Block.Alike (Counterparts text spaced))
        (check {} text).blocks (check {} spaced).blocks := by
  intro text spaced
  have same : directiveTexts text = directiveTexts spaced := by decide
  exact ⟨same, by decide, by decide, check_counterparts {} same⟩

end JqTemplate
