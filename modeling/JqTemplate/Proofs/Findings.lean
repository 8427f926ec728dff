import JqTemplate.Proofs.Nesting
import JqTemplate.Proofs.Order

namespace JqTemplate

theorem diagnostics_perm (config : CheckConfig) (source : List Char)
    (statements : List Statement) :
    (checkStatements config source statements).diagnostics.Perm
      (findings config source statements) :=
  stableSort_perm _ _

namespace Code

/-- E200, E201 and E205: a closer that closes nothing. -/
def isRejectedCloser : Code → Bool
  | .unmatchedCloseIf | .unmatchedCloseEach | .mismatchedClose => true
  | _ => false

/-- E202 and E203: a block that is still open at the end. -/
def isUnclosed : Code → Bool
  | .unclosedIf | .unclosedEach => true
  | _ => false

def isMisnesting (c : Code) : Bool := c.isRejectedCloser || c.isUnclosed || c = .strayElse

def isUnknown : Code → Bool
  | .unknownDirective | .missingExpression => true
  | _ => false

theorem isMisnesting_of_rejected {c : Code} (h : c.isRejectedCloser = true) :
    c.isMisnesting = true := by
  simp [isMisnesting, h]

theorem isMisnesting_of_unclosed {c : Code} (h : c.isUnclosed = true) :
    c.isMisnesting = true := by
  simp [isMisnesting, h]

theorem not_misnesting_of_unknown {c : Code} (h : c.isUnknown = true) :
    c.isMisnesting = false := by
  cases c with
  | unknownDirective => rfl
  | missingExpression => rfl
  | _ => contradiction

theorem not_rejected_of_unknown {c : Code} (h : c.isUnknown = true) :
    c.isRejectedCloser = false := by
  cases c with
  | unknownDirective => rfl
  | missingExpression => rfl
  | _ => contradiction

theorem not_unknown_of_rejected {c : Code} (h : c.isRejectedCloser = true) :
    c.isUnknown = false :=
  Bool.eq_false_iff.mpr fun unknown => by simp [not_rejected_of_unknown unknown] at h

theorem not_unknown_of_unclosed {c : Code} (h : c.isUnclosed = true) : c.isUnknown = false := by
  cases c with
  | unclosedIf => rfl
  | unclosedEach => rfl
  | _ => contradiction

theorem not_unclosed_of_unknown {c : Code} (h : c.isUnknown = true) : c.isUnclosed = false :=
  Bool.eq_false_iff.mpr fun unclosed => by simp [not_unknown_of_unclosed unclosed] at h

theorem not_unclosed_of_rejected {c : Code} (h : c.isRejectedCloser = true) :
    c.isUnclosed = false := by
  cases c with
  | unclosedIf => contradiction
  | unclosedEach => contradiction
  | _ => rfl

theorem not_stray_of_unknown {c : Code} (h : c.isUnknown = true) : c ≠ .strayElse := by
  rintro rfl
  contradiction

theorem not_stray_of_rejected {c : Code} (h : c.isRejectedCloser = true) : c ≠ .strayElse := by
  rintro rfl
  contradiction

end Code

section Codes

variable (kind : BlockKind) (s : Statement) (o : OpenBlock) (stack : List OpenBlock)
  (severity : Severity) (span : Span) (body : List Char)

theorem rejection_code : (Nesting.rejection kind stack s).code.isRejectedCloser = true := by
  cases stack with
  | nil => cases kind <;> rfl
  | cons innermost outer => rfl

theorem rejection_span : (Nesting.rejection kind stack s).span? = some s.span := by
  cases stack <;> rfl

theorem unclosed_code : (Nesting.unclosed o).code.isUnclosed = true := by
  unfold Nesting.unclosed
  cases o.kind <;> rfl

theorem diagnose_code : (Unknown.diagnose severity span body).code.isUnknown = true := by
  unfold Unknown.diagnose
  repeat' split
  all_goals rfl

theorem diagnose_span : (Unknown.diagnose severity span body).span? = some span := by
  unfold Unknown.diagnose
  repeat' split
  all_goals rfl

theorem filter_unclosed_eq_nil {p : Diagnostic → Bool}
    (drops : ∀ o, p (Nesting.unclosed o) = false) : (stack.map Nesting.unclosed).filter p = [] := by
  refine List.filter_eq_nil_iff.mpr fun d member => ?_
  obtain ⟨o, _, rfl⟩ := List.mem_map.mp member
  simp [drops o]

theorem filter_unclosed_eq_self {p : Diagnostic → Bool}
    (keeps : ∀ o, p (Nesting.unclosed o) = true) :
    (stack.map Nesting.unclosed).filter p = stack.map Nesting.unclosed := by
  refine List.filter_eq_self.mpr fun d member => ?_
  obtain ⟨o, _, rfl⟩ := List.mem_map.mp member
  exact keeps o

theorem diagnose_anywhere :
    ∃ code message label suggestions notes, ∀ span, Unknown.diagnose severity span body =
      ⟨severity, code, message, [⟨span, label, .primary⟩], suggestions, notes⟩ := by
  unfold Unknown.diagnose
  cases Unknown.head? body with
  | none => exact ⟨_, _, _, _, _, fun _ => rfl⟩
  | some word =>
    dsimp only
    split
    · exact ⟨_, _, _, _, _, fun _ => rfl⟩
    · split
      · exact ⟨_, _, _, _, _, fun _ => rfl⟩
      · cases Text.closest word Unknown.wordKeywords <;> exact ⟨_, _, _, _, _, fun _ => rfl⟩

theorem unreachable_of_mem {source : List Char} {d : Diagnostic}
    (h : d ∈ Nesting.unreachable source o s) :
    d.code = .unreachableElse ∧ d.span? = some s.span := by
  unfold Nesting.unreachable at h
  split at h
  · obtain ⟨first, _, rfl⟩ := List.mem_map.mp h
    exact ⟨rfl, rfl⟩
  · contradiction

end Codes

namespace Nesting

structure Grounded (done : List Statement) (n : Nesting) : Prop where
  found : ∀ d ∈ n.found, ∃ s ∈ done, d.span? = some s.span
  openers : ∀ o ∈ n.stack, o.opener ∈ done

theorem attach_map {α : Type} (f : OpenBlock → α)
    (keeps : ∀ o children, f { o with children := children } = f o)
    (stack : List OpenBlock) (roots : List Block) (b : Block) :
    (attach stack roots b).1.map f = stack.map f := by
  cases stack with
  | nil => rfl
  | cons o outer => simp [attach, keeps]

theorem Grounded.later {done : List Statement} {n n' : Nesting} {s : Statement}
    (h : Grounded done n) (found : ∀ d ∈ n'.found, d ∈ n.found ∨ d.span? = some s.span)
    (openers : ∀ o ∈ n'.stack, o.opener ∈ done ++ [s]) : Grounded (done ++ [s]) n' := by
  refine ⟨fun d member => ?_, openers⟩
  rcases found d member with old | new
  · obtain ⟨t, before, located⟩ := h.found d old
    exact ⟨t, List.mem_append_left _ before, located⟩
  · exact ⟨s, by simp, new⟩

theorem Grounded.report {done : List Statement} {n : Nesting} {s : Statement} {d : Diagnostic}
    (h : Grounded done n) (span : d.span? = some s.span) :
    Grounded (done ++ [s]) (n.report d) := by
  refine h.later (fun d' member => ?_) fun o isOpen => List.mem_append_left _ (h.openers o isOpen)
  rcases List.mem_append.mp member with old | new
  · exact .inl old
  · exact .inr (List.mem_singleton.mp new ▸ span)

theorem Step.grounded {config : CheckConfig} {source : List Char} {done : List Statement}
    {s : Statement} {n n' : Nesting} (h : Grounded done n) (step : Step config source s n n') :
    Grounded (done ++ [s]) n' := by
  have kept : ∀ o ∈ n.stack, o.opener ∈ done ++ [s] :=
    fun o isOpen => List.mem_append_left _ (h.openers o isOpen)
  cases step with
  | passed mark => exact h.later (fun d => .inl) kept
  | unknown mark form => exact h.report (diagnose_span _ _ _)
  | opened mark =>
    refine h.later (fun d => .inl) fun o isOpen => ?_
    rcases List.mem_cons.mp isOpen with rfl | before
    · simp
    · exact kept o before
  | @closed innermost outer stack mark =>
    refine h.later (fun d => .inl) fun o isOpen => ?_
    have openers := attach_map OpenBlock.opener (fun _ _ => rfl) outer n.roots
      (innermost.sealed (some s))
    have before : o.opener ∈ outer.map OpenBlock.opener := openers ▸ List.mem_map_of_mem isOpen
    obtain ⟨o', outside, same⟩ := List.mem_map.mp before
    exact same ▸ kept o' (stack ▸ List.mem_cons_of_mem _ outside)
  | closeRejected mark other => exact h.report (rejection_span _ _ _)
  | @branched innermost outer stack conditional mark =>
    refine h.later (fun d member => ?_) fun o isOpen => ?_
    · rcases List.mem_append.mp member with old | new
      · exact .inl old
      · exact .inr (unreachable_of_mem _ _ new).2
    · rcases List.mem_cons.mp isOpen with rfl | outside
      · exact kept innermost (stack ▸ List.mem_cons_self)
      · exact kept o (stack ▸ List.mem_cons_of_mem _ outside)
  | branchRejected mark other => exact h.report rfl

section Additions

variable {config : CheckConfig} {source : List Char} {s : Statement} {n n' : Nesting}

/-- New findings point at a statement that was read, and none of them is on an unclosed block. -/
def Adds (done : List Statement) (n n' : Nesting) : Prop :=
  ∃ new, n'.found = n.found ++ new ∧
    ∀ d ∈ new, (∃ s ∈ done, d.span? = some s.span) ∧ d.code.isUnclosed = false

theorem Adds.nothing {done : List Statement} (same : n'.found = n.found) : Adds done n n' :=
  ⟨[], by simp [same], by simp⟩

theorem Adds.report {d : Diagnostic} (span : d.span? = some s.span)
    (code : d.code.isUnclosed = false) : Adds [s] n (n.report d) :=
  ⟨[d], rfl, by simp [span, code]⟩

theorem Step.adds (step : Step config source s n n') : Adds [s] n n' := by
  cases step with
  | passed mark known => exact .nothing rfl
  | unknown mark form =>
    exact .report (diagnose_span _ _ _) (Code.not_unclosed_of_unknown (diagnose_code _ _ _))
  | opened mark => exact .nothing rfl
  | closed stack mark => exact .nothing rfl
  | closeRejected mark other =>
    exact .report (rejection_span _ _ _) (Code.not_unclosed_of_rejected (rejection_code _ _ _))
  | branched stack conditional mark =>
    refine ⟨_, rfl, fun d member => ?_⟩
    obtain ⟨code, span⟩ := unreachable_of_mem _ _ member
    exact ⟨⟨s, by simp, span⟩, by rw [code]; rfl⟩
  | branchRejected mark other => exact .report rfl rfl

theorem checkStep_adds (config : CheckConfig) (source : List Char) (s : Statement) (n : Nesting) :
    Adds [s] n (checkStep config source n s) := by
  cases structural : config.structural with
  | true => exact (checkStep_step structural).adds
  | false =>
    unfold checkStep
    cases finding : unknownFinding? config s with
    | some d =>
      obtain ⟨body, _, rfl⟩ := unknownFinding?_eq_some_iff.mp finding
      exact .report (diagnose_span _ _ _) (Code.not_unclosed_of_unknown (diagnose_code _ _ _))
    | none => exact .nothing (by simp [structural])

theorem run_adds (config : CheckConfig) (source : List Char) (statements : List Statement)
    (n : Nesting) : Adds statements n (statements.foldl (checkStep config source) n) := by
  induction statements generalizing n with
  | nil => exact .nothing rfl
  | cons s rest ih =>
    obtain ⟨first, found, here⟩ := checkStep_adds config source s n
    obtain ⟨later, found', behind⟩ := ih (checkStep config source n s)
    refine ⟨first ++ later, by rw [List.foldl_cons, found', found, List.append_assoc], ?_⟩
    intro d member
    rcases List.mem_append.mp member with early | late
    · obtain ⟨⟨t, located, span⟩, code⟩ := here d early
      exact ⟨⟨t, by simp [List.mem_singleton.mp located], span⟩, code⟩
    · obtain ⟨⟨t, located, span⟩, code⟩ := behind d late
      exact ⟨⟨t, List.mem_cons_of_mem s located, span⟩, code⟩

theorem checkNesting_append (config : CheckConfig) (source : List Char) (xs ys : List Statement) :
    checkNesting config source (xs ++ ys) =
      ys.foldl (checkStep config source) (checkNesting config source xs) :=
  List.foldl_append

theorem mem_found {statements : List Statement} {d : Diagnostic}
    (member : d ∈ (checkNesting config source statements).found) :
    (∃ s ∈ statements, d.span? = some s.span) ∧ d.code.isUnclosed = false := by
  obtain ⟨new, found, added⟩ := run_adds config source statements empty
  rw [checkNesting, found] at member
  exact added d (by simpa [empty] using member)

theorem span_of_mem_found {statements : List Statement} {d : Diagnostic}
    (member : d ∈ (checkNesting config source statements).found) :
    ∃ s ∈ statements, d.span? = some s.span :=
  (mem_found member).1

end Additions

section Unknown

variable {config : CheckConfig} {source : List Char} {s : Statement} {n n' : Nesting}

theorem isUnknown_of_finding {d : Diagnostic} (h : unknownFinding? config s = some d) :
    d.code.isUnknown = true := by
  obtain ⟨body, _, rfl⟩ := unknownFinding?_eq_some_iff.mp h
  exact diagnose_code _ _ _

theorem unknownFinding?_of_mark {m : Mark} (mark : s.mark? = some m) :
    unknownFinding? config s = none := by
  obtain ⟨k, form, _⟩ := Statement.keyword?_of_mark mark
  simp [unknownFinding?, form]

theorem Step.unknown_found (step : Step config source s n n') :
    n'.found.filter (fun d => d.code.isUnknown) =
      n.found.filter (fun d => d.code.isUnknown) ++ (unknownFinding? config s).toList := by
  cases step with
  | passed mark known => simp [known]
  | unknown mark form =>
    have finding : unknownFinding? config s = some _ :=
      unknownFinding?_eq_some_iff.mpr ⟨_, form, rfl⟩
    simp [report, finding, diagnose_code]
  | opened mark => simp [unknownFinding?_of_mark mark, openWith]
  | closed stack mark => simp [unknownFinding?_of_mark mark, finish]
  | @closeRejected kind mark other =>
    have code := Code.not_unknown_of_rejected (rejection_code kind s n.stack)
    simp [unknownFinding?_of_mark mark, report, code]
  | @branched innermost outer stack conditional mark =>
    have late : (unreachable source innermost s).filter (fun d => d.code.isUnknown) = [] := by
      refine List.filter_eq_nil_iff.mpr fun d member => ?_
      simp [(unreachable_of_mem s innermost member).1, Code.isUnknown]
    simp [unknownFinding?_of_mark mark, extend, late]
  | branchRejected mark other =>
    simp [unknownFinding?_of_mark mark, report, strayElse, Code.isUnknown]

theorem checkStep_unknown (config : CheckConfig) (source : List Char) (n : Nesting)
    (s : Statement) :
    (checkStep config source n s).found.filter (fun d => d.code.isUnknown) =
      n.found.filter (fun d => d.code.isUnknown) ++ (unknownFinding? config s).toList := by
  cases structural : config.structural with
  | true => exact (checkStep_step structural).unknown_found
  | false =>
    unfold checkStep
    cases finding : unknownFinding? config s with
    | some d => simp [report, isUnknown_of_finding finding]
    | none => simp [structural]

theorem checkNesting_unknown (config : CheckConfig) (source : List Char)
    (statements : List Statement) :
    (checkNesting config source statements).found.filter (fun d => d.code.isUnknown) =
      statements.filterMap (unknownFinding? config) := by
  have run (n : Nesting) : (statements.foldl (checkStep config source) n).found.filter
      (fun d => d.code.isUnknown) =
        n.found.filter (fun d => d.code.isUnknown) ++
          statements.filterMap (unknownFinding? config) := by
    induction statements generalizing n with
    | nil => simp
    | cons s rest ih =>
      rw [List.foldl_cons, ih, checkStep_unknown, List.append_assoc]
      cases finding : unknownFinding? config s <;> simp [finding]
  exact run empty

end Unknown

end Nesting

theorem span_of_mem_findings (config : CheckConfig) (source : List Char)
    (statements : List Statement) :
    ∀ d ∈ findings config source statements, ∃ s ∈ statements, d.span? = some s.span := by
  intro d member
  unfold findings at member
  cases structural : config.structural with
  | false =>
    simp only [structural] at member
    exact Nesting.span_of_mem_found member
  | true =>
    have grounded : Nesting.Grounded statements (checkNesting config source statements) :=
      Nesting.run_induction structural ⟨by simp [Nesting.empty], by simp [Nesting.empty]⟩
        (fun done s n n' h step => step.grounded h) statements
    simp only [structural, if_true, Nesting.findings] at member
    rcases List.mem_append.mp member with found | left
    · exact grounded.found d found
    · obtain ⟨o, isOpen, rfl⟩ := List.mem_map.mp left
      exact ⟨o.opener, grounded.openers o (List.mem_reverse.mp isOpen), rfl⟩

theorem mem_found_of_diagnostic {config : CheckConfig} {source : List Char}
    {statements : List Statement} {d : Diagnostic}
    (member : d ∈ (checkStatements config source statements).diagnostics)
    (closed : d.code.isUnclosed = false) : d ∈ (checkNesting config source statements).found := by
  have among := (diagnostics_perm config source statements).mem_iff.mp member
  unfold findings at among
  cases structural : config.structural with
  | false => simpa [structural] using among
  | true =>
    simp only [structural, if_true, Nesting.findings] at among
    rcases List.mem_append.mp among with found | left
    · exact found
    · obtain ⟨o, _, rfl⟩ := List.mem_map.mp left
      rw [unclosed_code o] at closed
      contradiction

theorem findings_filter (config : CheckConfig) (source : List Char) (statements : List Statement)
    {p : Diagnostic → Bool} (drops : ∀ o, p (Nesting.unclosed o) = false) :
    (findings config source statements).filter p =
      (checkNesting config source statements).found.filter p := by
  have left := fun stack => filter_unclosed_eq_nil stack drops
  unfold findings
  cases config.structural <;> simp [Nesting.findings, left]

/-- Which unknown directives are reported, and how, depends on each statement alone. -/
theorem findings_unknown (config : CheckConfig) (source : List Char)
    (statements : List Statement) :
    (findings config source statements).filter (fun d => d.code.isUnknown) =
      statements.filterMap (unknownFinding? config) := by
  have drops : ∀ o, (Nesting.unclosed o).code.isUnknown = false :=
    fun o => Code.not_unknown_of_unclosed (unclosed_code o)
  rw [findings_filter config source statements drops,
    Nesting.checkNesting_unknown config source statements]

theorem mem_diagnostics_unknown_iff {config : CheckConfig} {source : List Char}
    {statements : List Statement} {d : Diagnostic} :
    (d ∈ (checkStatements config source statements).diagnostics ∧ d.code.isUnknown = true) ↔
      ∃ s ∈ statements, unknownFinding? config s = some d := by
  rw [(diagnostics_perm config source statements).mem_iff]
  have read := findings_unknown config source statements
  exact (List.mem_filter.symm.trans (by rw [read])).trans List.mem_filterMap

theorem length?_of_nonneg {span : Span} (nonneg : 0 ≤ span.size) :
    span.length? = .ok span.size.toNat ∨
      (span.length? = .error .tooLarge ∧ Span.lengthLimit < span.size) := by
  have positive : ¬ span.size < 0 := by omega
  unfold Span.length?
  rw [if_neg positive]
  split
  · rename_i large
    exact .inr ⟨rfl, large⟩
  · exact .inl rfl

theorem exists_length {span : Span} (nonneg : 0 ≤ span.size) (short : span.size ≤ Span.lengthLimit) :
    ∃ n, span.length? = .ok n := by
  rcases length?_of_nonneg nonneg with length | ⟨_, beyond⟩
  · exact ⟨_, length⟩
  · exact absurd short beyond.not_ge

section Lengths

variable {config : CheckConfig} {source : List Char} {statements : List Statement}

theorem span_of_refused {fault : Span.LengthFault}
    (refused : checkStatements? config source statements = .error fault) :
    ∃ s ∈ statements, s.span.length? = .error fault := by
  unfold checkStatements? at refused
  cases faulty : (findings config source statements).findSome? Diagnostic.lengthFault? with
  | none => simp [faulty] at refused
  | some other =>
    obtain ⟨d, member, own⟩ := List.exists_of_findSome?_eq_some faulty
    obtain ⟨s, read, span⟩ := span_of_mem_findings config source statements d member
    rw [faulty] at refused
    cases refused
    refine ⟨s, read, ?_⟩
    cases length : s.span.length? with
    | ok n => simp [Diagnostic.lengthFault?, span, length] at own
    | error cause => simpa [Diagnostic.lengthFault?, span, length] using own

theorem checkStatements?_eq_ok_iff {r : CheckResult} :
    checkStatements? config source statements = .ok r ↔
      (∀ d ∈ findings config source statements, d.lengthFault? = none) ∧
        checkStatements config source statements = r := by
  unfold checkStatements?
  cases faulty : (findings config source statements).findSome? Diagnostic.lengthFault? with
  | none =>
    have lengths := List.findSome?_eq_none_iff.mp faulty
    exact ⟨fun ok => ⟨lengths, Except.ok.inj ok⟩, fun both => congrArg Except.ok both.2⟩
  | some fault =>
    obtain ⟨d, member, own⟩ := List.exists_of_findSome?_eq_some faulty
    simp only [reduceCtorEq, false_iff, not_and]
    intro lengths
    simp [lengths d member] at own

theorem checkStatements?_of_lengths (config : CheckConfig) (source : List Char)
    (lengths : ∀ s ∈ statements, ∃ n, s.span.length? = .ok n) :
    checkStatements? config source statements = .ok (checkStatements config source statements) := by
  cases outcome : checkStatements? config source statements with
  | ok r => rw [(checkStatements?_eq_ok_iff.mp outcome).2]
  | error fault =>
    obtain ⟨s, member, refused⟩ := span_of_refused outcome
    obtain ⟨n, short⟩ := lengths s member
    exact nomatch refused.symm.trans short

/-- Where no span is reversed, only one that is longer than a length can be is refused. -/
theorem tooLarge_of_refused (nonneg : ∀ s ∈ statements, 0 ≤ s.span.size) {fault : Span.LengthFault}
    (refused : checkStatements? config source statements = .error fault) :
    fault = .tooLarge ∧ ∃ s ∈ statements, Span.lengthLimit < s.span.size := by
  obtain ⟨s, member, own⟩ := span_of_refused refused
  rcases length?_of_nonneg (nonneg s member) with short | ⟨long, beyond⟩
  · exact nomatch own.symm.trans short
  · cases own.symm.trans long
    exact ⟨rfl, s, member, beyond⟩

end Lengths

end JqTemplate
