import JqTemplate.Proofs.Accounting
import JqTemplate.Proofs.Effect

namespace JqTemplate

/-- E200, E201, E204 and E205: the statement has no part in the blocks. -/
def Code.isRejection (c : Code) : Bool := c.isRejectedCloser || c = .strayElse

def Diagnostic.rejects (d : Diagnostic) (s : Statement) : Bool :=
  d.code.isRejection && d.isAt s.span

def CheckResult.rejects (r : CheckResult) (s : Statement) : Bool :=
  r.diagnostics.any fun d => d.rejects s

theorem Diagnostic.rejects_eq_false {d : Diagnostic} {s t : Statement}
    (located : d.span? = some t.span) (other : t.span ≠ s.span) : d.rejects s = false := by
  simp [rejects, isAt, located, other]

namespace Nesting

/-- A statement that was read is reported as having no part in the blocks. -/
def rejects (n : Nesting) (s : Statement) : Bool := n.found.any fun d => d.rejects s

def withoutRejections (n : Nesting) : Nesting :=
  { n with found := n.found.filter fun d => !d.code.isRejection }

section Step

variable {config : CheckConfig} {source : List Char} {s t : Statement} {n n' : Nesting}

/-- A step reports that its statement is rejected and does nothing else, or rejects nothing. -/
theorem Step.rejects_or (step : Step config source s n n') :
    (∃ d, n' = n.report d ∧ d.rejects s = true) ∨
      ∃ new, n'.found = n.found ++ new ∧ ∀ d ∈ new, d.code.isRejection = false := by
  cases step with
  | passed mark known => exact .inr ⟨[], by simp, by simp⟩
  | @unknown body mark form =>
    have unknown := diagnose_code config.unknown s.span body
    have other : (Unknown.diagnose config.unknown s.span body).code.isRejection = false := by
      simp [Code.isRejection, Code.not_rejected_of_unknown unknown,
        Code.not_stray_of_unknown unknown]
    exact .inr ⟨_, rfl, by simpa using other⟩
  | opened mark => exact .inr ⟨[], by simp [openWith], by simp⟩
  | closed stack mark => exact .inr ⟨[], by simp [finish], by simp⟩
  | @closeRejected kind mark other =>
    refine .inl ⟨_, rfl, ?_⟩
    simp [Diagnostic.rejects, Code.isRejection, rejection_code, Diagnostic.isAt, rejection_span]
  | @branched innermost outer stack conditional mark =>
    refine .inr ⟨_, rfl, fun d member => ?_⟩
    rw [(unreachable_of_mem s innermost member).1]
    rfl
  | branchRejected mark other =>
    refine .inl ⟨_, rfl, ?_⟩
    simp [Diagnostic.rejects, Code.isRejection, strayElse, Diagnostic.isAt, Diagnostic.span?]

theorem rejects_of_added {new : List Diagnostic} (found : n'.found = n.found ++ new)
    (silent : ∀ d ∈ new, d.rejects t = false) : n'.rejects t = n.rejects t := by
  have absent : (new.any fun d => d.rejects t) = false := by simpa using silent
  rw [rejects, found, List.any_append, absent, Bool.or_false, rejects]

theorem rejects_later (other : s.span ≠ t.span) :
    (checkStep config source n s).rejects t = n.rejects t := by
  obtain ⟨new, found, added⟩ := checkStep_adds config source s n
  refine rejects_of_added found fun d member => ?_
  obtain ⟨⟨u, here, located⟩, _⟩ := added d member
  obtain rfl := List.mem_singleton.mp here
  exact Diagnostic.rejects_eq_false located other

/-- What was found before decides neither what a step does to the blocks nor what it finds. -/
theorem checkStep_withoutRejections {new : List Diagnostic}
    (found : (checkStep config source n s).found = n.found ++ new)
    (accepted : ∀ d ∈ new, d.code.isRejection = false) :
    checkStep config source n.withoutRejections s =
      (checkStep config source n s).withoutRejections := by
  have same : SameBlocks n.withoutRejections n := ⟨rfl, rfl⟩
  obtain ⟨stack, roots⟩ := same.checkStep config config source source s
  have kept : new.filter (fun d => !d.code.isRejection) = new :=
    List.filter_eq_self.mpr fun d member => by simp [accepted d member]
  have new_eq : new = news config source n.stack s :=
    List.append_cancel_left (found.symm.trans (checkStep_found config source n s))
  have findings : (checkStep config source n.withoutRejections s).found =
      (checkStep config source n s).withoutRejections.found := by
    rw [checkStep_found, withoutRejections, withoutRejections, found, List.filter_append, kept,
      new_eq]
  cases here : checkStep config source n.withoutRejections s
  cases there : checkStep config source n s
  simp_all [withoutRejections]

end Step

section Runs

variable {config : CheckConfig} {source : List Char} {statements done : List Statement}
  {s : Statement}

theorem not_rejects_unread (order : InOrder (done ++ [s])) :
    (checkNesting config source done).rejects s = false := by
  simp only [rejects, List.any_eq_false, Bool.not_eq_true]
  intro d member
  obtain ⟨t, read, located⟩ := span_of_mem_found member
  exact Diagnostic.rejects_eq_false located (order.span_ne_last read)

theorem checkNesting_accepted (structural : config.structural = true) (source : List Char)
    (order : InOrder statements) :
    checkNesting config source
        (statements.filter fun s => !(checkNesting config source statements).rejects s) =
      (checkNesting config source statements).withoutRejections := by
  induction statements using List.reverseRecOn with
  | nil => rfl
  | append_singleton done s ih =>
    have before := ih (order.sublist (List.sublist_append_left done [s]))
    rw [checkNesting_append, List.foldl_cons, List.foldl_nil]
    generalize reached : checkNesting config source done = n at before
    have fresh : n.rejects s = false := reached ▸ not_rejects_unread order
    have read : done.filter (fun t => !(checkStep config source n s).rejects t) =
        done.filter fun t => !n.rejects t := by
      refine List.filter_congr fun t member => ?_
      rw [rejects_later (order.span_ne_last member).symm]
    rw [List.filter_append, read, checkNesting_append, before]
    rcases (checkStep_step (s := s) (n := n) structural).rejects_or with
      ⟨d, only, refused⟩ | ⟨new, found, accepted⟩
    · have dropped : [s].filter (fun t => !(n.report d).rejects t) = [] := by
        simp [rejects, report, refused]
      have code : d.code.isRejection = true := (Bool.and_eq_true_iff.mp refused).1
      rw [only, dropped]
      simp [withoutRejections, report, code]
    · have silent : ∀ d ∈ new, d.rejects s = false := fun d member => by
        simp [Diagnostic.rejects, accepted d member]
      have kept : [s].filter (fun t => !(checkStep config source n s).rejects t) = [s] := by
        simp [rejects_of_added found silent, fresh]
      rw [kept, List.foldl_cons, List.foldl_nil]
      exact checkStep_withoutRejections found accepted

end Runs

end Nesting

theorem not_rejection_of_unclosed {c : Code} (h : c.isUnclosed = true) : c.isRejection = false := by
  cases c with
  | unclosedIf => rfl
  | unclosedEach => rfl
  | _ => contradiction

theorem unclosed_without_rejections (stack : List OpenBlock) :
    (stack.map Nesting.unclosed).filter (fun d => !d.code.isRejection) =
      stack.map Nesting.unclosed :=
  filter_unclosed_eq_self stack fun o => by simp [not_rejection_of_unclosed (unclosed_code o)]

theorem checkStatements_rejects (config : CheckConfig) (source : List Char)
    (statements : List Statement) (s : Statement) :
    (checkStatements config source statements).rejects s =
      (checkNesting config source statements).rejects s := by
  have left : ∀ stack : List OpenBlock,
      ((stack.map Nesting.unclosed).any fun d => d.rejects s) = false := by
    intro stack
    simp [Diagnostic.rejects, not_rejection_of_unclosed (unclosed_code _)]
  rw [CheckResult.rejects, (diagnostics_perm config source statements).any_eq, findings]
  cases config.structural with
  | false => rfl
  | true => simp [Nesting.findings, Nesting.rejects, left]

/-- Rejected statements are ignored: without them the blocks of a text are the same, and so are the
diagnostics but for the rejections themselves. -/
theorem check_without_rejected (config : CheckConfig) (structural : config.structural = true)
    (text : List Char) :
    let result := check config text
    let accepted := (parse text).filter fun s => !result.rejects s
    (checkStatements config text accepted).blocks = result.blocks ∧
      (checkStatements config text accepted).diagnostics =
        result.diagnostics.filter fun d => !d.code.isRejection := by
  intro result accepted
  have kept : accepted = (parse text).filter fun s =>
      !(checkNesting config text (parse text)).rejects s := by
    refine List.filter_congr fun s _ => ?_
    rw [← checkStatements_rejects]
    rfl
  have run : checkNesting config text accepted =
      (checkNesting config text (parse text)).withoutRejections := by
    rw [kept]
    exact Nesting.checkNesting_accepted structural text (parse_inOrder text)
  have found : findings config text accepted =
      (findings config text (parse text)).filter fun d => !d.code.isRejection := by
    simp only [findings, structural, if_true, Nesting.findings, run, List.filter_append,
      unclosed_without_rejections, Nesting.withoutRejections]
  constructor
  · simp only [checkStatements, run]
    rfl
  · simp only [checkStatements, found, sortByKey]
    exact ((Ranks.of_key Diagnostic.sortKey).filter_stableSort _ _).symm

theorem crossing_statements_ignored :
    let text := (marked "if a" ++ marked "/each" ++ marked "else" ++ marked "else" ++
      marked "each b" ++ marked "else" ++ marked "/if").toList
    let accepted := (parse text).filter fun s => !(check {} text).rejects s
    ({} : CheckConfig).structural = true ∧
      (check {} text).diagnostics.map (fun d => d.code) =
        [.unclosedIf, .mismatchedClose, .unreachableElse, .unclosedEach, .strayElse,
          .mismatchedClose] ∧
      (checkStatements {} text accepted).blocks = (check {} text).blocks ∧
      (checkStatements {} text accepted).diagnostics.map (fun d => d.code) =
        [.unclosedIf, .unreachableElse, .unclosedEach] := by
  intro text accepted
  obtain ⟨blocks, diagnostics⟩ := check_without_rejected {} rfl text
  refine ⟨rfl, by decide, blocks, ?_⟩
  rw [diagnostics]
  decide

end JqTemplate
