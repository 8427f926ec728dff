import JqTemplate.Proofs.Findings

/-! Well nested documents. The grammar says which sequences of marks are nested; the kinds of
the open blocks are a stack machine for it; and the checker, with its blocks and findings left
out, is that machine. Where the machine stops, the checker reports and goes on. -/
namespace JqTemplate

def BlockKind.branching : BlockKind → Bool
  | .conditional => true
  | .loop => false

/-- The grammar of nested marks. `Nested false` are documents and what loops enclose, sequences
of blocks; `Nested true` is what conditionals enclose, sequences of blocks and branches. -/
inductive Nested : (branching : Bool) → List Mark → Prop where
  | empty {b : Bool} : Nested b []
  | branch {rest : List Mark} (tail : Nested true rest) : Nested true (.branches :: rest)
  | block {b : Bool} (kind : BlockKind) {body rest : List Mark}
      (inside : Nested kind.branching body) (tail : Nested b rest) :
      Nested b (.opens kind :: body ++ .closes kind :: rest)

/-- What a mark does to the kinds of the open blocks, innermost first. There is no answer where
the mark is out of place. -/
def Mark.apply : Mark → List BlockKind → Option (List BlockKind)
  | .opens kind, outer => some (kind :: outer)
  | .closes kind, innermost :: outer => if innermost = kind then some outer else none
  | .branches, .conditional :: outer => some (.conditional :: outer)
  | _, _ => none

def applyAll : List Mark → List BlockKind → Option (List BlockKind)
  | [], stack => some stack
  | m :: rest, stack => (m.apply stack).bind (applyAll rest)

theorem applyAll_append (xs ys : List Mark) (stack : List BlockKind) :
    applyAll (xs ++ ys) stack = (applyAll xs stack).bind (applyAll ys) := by
  induction xs generalizing stack with
  | nil => rfl
  | cons m rest ih =>
    simp only [List.cons_append, applyAll]
    cases m.apply stack with
    | none => rfl
    | some next => exact ih next

theorem Nested.applyAll_eq {b : Bool} {word : List Mark} (h : Nested b word)
    (stack : List BlockKind) (room : b = true → ∃ outer, stack = .conditional :: outer) :
    applyAll word stack = some stack := by
  induction h generalizing stack with
  | empty => rfl
  | branch _ ih =>
    obtain ⟨outer, rfl⟩ := room rfl
    exact ih _ room
  | @block b kind body rest _ _ inside tail =>
    have within := inside (kind :: stack) (by cases kind <;> simp [BlockKind.branching])
    simp only [List.cons_append, applyAll, Mark.apply, Option.bind_some, applyAll_append, within,
      if_true]
    exact tail stack room

/-- What is left to read while the blocks of the stack are open: for each the rest of its body
and its closer, and after the outermost one the rest of a document. -/
def Completes : List BlockKind → List Mark → Prop
  | [], word => Nested false word
  | kind :: outer, word =>
    ∃ body rest, word = body ++ .closes kind :: rest ∧ Nested kind.branching body ∧
      Completes outer rest

theorem Completes.block {kind : BlockKind} {body rest : List Mark} {stack : List BlockKind}
    (inside : Nested kind.branching body) (h : Completes stack rest) :
    Completes stack (.opens kind :: body ++ .closes kind :: rest) := by
  cases stack with
  | nil => exact Nested.block kind inside h
  | cons outerKind outer =>
    obtain ⟨body', rest', rfl, within, tail⟩ := h
    exact ⟨_, rest', by simp, Nested.block kind inside within, tail⟩

theorem completes_of_applyAll {word : List Mark} {stack : List BlockKind}
    (accepted : applyAll word stack = some []) : Completes stack word := by
  induction word generalizing stack with
  | nil =>
    obtain rfl : stack = [] := Option.some.inj accepted
    exact .empty
  | cons m rest ih =>
    simp only [applyAll, Option.bind_eq_some_iff] at accepted
    obtain ⟨next, applied, tail⟩ := accepted
    -- what the rest completes is the stack after the mark, so the mark is put in front of it
    have h := ih tail
    unfold Mark.apply at applied
    split at applied
    · obtain rfl := Option.some.inj applied
      obtain ⟨body, rest', rfl, inside, outside⟩ := h
      exact Completes.block inside outside
    · split at applied
      · rename_i same
        obtain rfl := Option.some.inj applied
        exact ⟨[], rest, by rw [same]; rfl, .empty, h⟩
      · contradiction
    · obtain rfl := Option.some.inj applied
      obtain ⟨body, rest', rfl, inside, outside⟩ := h
      exact ⟨_, rest', rfl, .branch inside, outside⟩
    · contradiction

theorem applyAll_iff_nested (word : List Mark) :
    applyAll word [] = some [] ↔ Nested false word :=
  ⟨completes_of_applyAll, fun h => h.applyAll_eq [] (by simp)⟩

namespace Nesting

def kinds (n : Nesting) : List BlockKind := n.stack.map OpenBlock.kind

def Clean (n : Nesting) : Prop := ∀ d ∈ n.found, d.code.isMisnesting = false

theorem clean_report {n : Nesting} {d : Diagnostic} (h : d.code.isMisnesting = false) :
    (n.report d).Clean ↔ n.Clean := by
  simp [Clean, report, or_imp, forall_and, h]

theorem not_clean_report {n : Nesting} {d : Diagnostic} (h : d.code.isMisnesting = true) :
    ¬ (n.report d).Clean := by
  intro clean
  have := clean d (by simp [report])
  simp [h] at this

theorem clean_extend (source : List Char) (innermost : OpenBlock) (outer : List OpenBlock)
    (s : Statement) (n : Nesting) : (extend source innermost outer s n).Clean ↔ n.Clean := by
  have harmless : ∀ d ∈ unreachable source innermost s, d.code.isMisnesting = false := by
    intro d member
    rw [(unreachable_of_mem _ _ member).1]
    rfl
  simp only [Clean, extend, List.mem_append, or_imp, forall_and]
  exact and_iff_left harmless

theorem apply_closes_of_other {kind : BlockKind} {n : Nesting}
    (other : ∀ o ∈ n.stack.head?, o.kind ≠ kind) : (Mark.closes kind).apply n.kinds = none := by
  unfold kinds
  cases stack : n.stack with
  | nil => rfl
  | cons innermost outer => simpa [Mark.apply, stack] using other

theorem apply_branches_of_other {n : Nesting}
    (other : ∀ o ∈ n.stack.head?, o.kind ≠ .conditional) :
    Mark.branches.apply n.kinds = none := by
  unfold kinds
  cases stack : n.stack with
  | nil => rfl
  | cons innermost outer =>
    have loop : innermost.kind = .loop := by
      cases kind : innermost.kind with
      | conditional => simp [stack, kind] at other
      | loop => rfl
    simp [loop, Mark.apply]

/-- One step of the checker is one step of the machine, as long as nothing is reported. -/
theorem Step.clean_iff {config : CheckConfig} {source : List Char} {s : Statement}
    {n n' : Nesting} (step : Step config source s n n') (stack : List BlockKind) :
    n'.Clean ∧ n'.kinds = stack ↔
      n.Clean ∧ applyAll s.mark?.toList n.kinds = some stack := by
  cases step with
  | passed mark => simp [mark, applyAll]
  | @unknown body mark form =>
    have harmless := Code.not_misnesting_of_unknown (diagnose_code config.unknown s.span body)
    rw [clean_report harmless]
    simp [mark, applyAll, kinds, report]
  | opened mark => simp [mark, applyAll, Mark.apply, kinds, openWith, Clean]
  | @closed innermost outer isOpen mark =>
    have outside := attach_map OpenBlock.kind (fun _ _ => rfl) outer n.roots
      (innermost.sealed (some s))
    simp [mark, applyAll, Mark.apply, kinds, finish, Clean, isOpen, outside]
  | @closeRejected kind mark other =>
    have refused := apply_closes_of_other other
    have reported : ¬ (n.report (rejection kind n.stack s)).Clean :=
      not_clean_report (Code.isMisnesting_of_rejected (rejection_code kind s n.stack))
    simp [mark, applyAll, refused, reported]
  | @branched innermost outer isOpen conditional mark =>
    rw [clean_extend]
    simp [mark, applyAll, Mark.apply, kinds, extend, isOpen, conditional]
  | branchRejected mark other =>
    have refused := apply_branches_of_other other
    have reported : ¬ (n.report (strayElse s)).Clean := not_clean_report rfl
    simp [mark, applyAll, refused, reported]

end Nesting

theorem marks_append_singleton (statements : List Statement) (s : Statement) :
    marks (statements ++ [s]) = marks statements ++ s.mark?.toList := by
  unfold marks
  cases mark : s.mark? <;> simp [mark]

theorem checkNesting_clean_iff {config : CheckConfig} (structural : config.structural = true)
    (source : List Char) (statements : List Statement) (stack : List BlockKind) :
    (checkNesting config source statements).Clean ∧
        (checkNesting config source statements).kinds = stack ↔
      applyAll (marks statements) [] = some stack := by
  refine Nesting.run_induction structural
    (P := fun done n => ∀ stack, n.Clean ∧ n.kinds = stack ↔ applyAll (marks done) [] = some stack)
    ?_ ?_ statements stack
  · intro stack
    simp [Nesting.Clean, Nesting.kinds, Nesting.empty, marks, applyAll]
  · intro done s n n' h step stack
    rw [step.clean_iff, marks_append_singleton, applyAll_append]
    constructor
    · rintro ⟨clean, applied⟩
      rw [(h n.kinds).mp ⟨clean, rfl⟩]
      exact applied
    · intro applied
      obtain ⟨kinds, before, now⟩ := Option.bind_eq_some_iff.mp applied
      obtain ⟨clean, rfl⟩ := (h kinds).mpr before
      exact ⟨clean, now⟩

theorem findings_clean_iff_nested {config : CheckConfig} (structural : config.structural = true)
    (source : List Char) (statements : List Statement) :
    (∀ d ∈ findings config source statements, d.code.isMisnesting = false) ↔
      Nested false (marks statements) := by
  rw [← applyAll_iff_nested, ← checkNesting_clean_iff structural source]
  have unclosed : ∀ o, (Nesting.unclosed o).code.isMisnesting = true :=
    fun o => Code.isMisnesting_of_unclosed (unclosed_code o)
  simp only [findings, structural, if_true, Nesting.findings, List.mem_append, or_imp, forall_and]
  refine and_congr_right fun _ => ?_
  simp [Nesting.kinds, unclosed, List.eq_nil_iff_forall_not_mem]

theorem diagnostics_clean_iff_nested {config : CheckConfig}
    (structural : config.structural = true) (source : List Char) (statements : List Statement) :
    (∀ d ∈ (checkStatements config source statements).diagnostics,
        d.code.isMisnesting = false) ↔ Nested false (marks statements) := by
  rw [← findings_clean_iff_nested structural source]
  exact ⟨fun h d member => h d ((diagnostics_perm config source statements).mem_iff.mpr member),
    fun h d member => h d ((diagnostics_perm config source statements).mem_iff.mp member)⟩

/-- With structure checks on, none of E200 to E205 is reported exactly when the marks form a
nested document. This holds for texts, and for all statement lists whose spans have a length. Of the
lists with longer spans some are refused; what is not refused is judged alike. -/
theorem no_misnesting_iff_nested (config : CheckConfig) (structural : config.structural = true) :
    (∀ text, (∀ d ∈ (check config text).diagnostics, d.code.isMisnesting = false) ↔
      Nested false (marks (parse text))) ∧
    (∀ source statements, (∀ s ∈ statements, ∃ n, s.span.length? = .ok n) →
      ∃ r, checkStatements? config source statements = .ok r ∧
        ((∀ d ∈ r.diagnostics, d.code.isMisnesting = false) ↔ Nested false (marks statements))) ∧
    (∀ source statements, (∀ s ∈ statements, 0 ≤ s.span.size) →
      (∀ r, checkStatements? config source statements = .ok r →
        ((∀ d ∈ r.diagnostics, d.code.isMisnesting = false) ↔ Nested false (marks statements))) ∧
      ∀ fault, checkStatements? config source statements = .error fault →
        fault = .tooLarge ∧ ∃ s ∈ statements, Span.lengthLimit < s.span.size) := by
  refine ⟨fun text => ?_, fun source statements lengths => ?_, fun source statements nonneg =>
    ⟨fun r ok => ?_, fun fault => tooLarge_of_refused nonneg⟩⟩
  · exact diagnostics_clean_iff_nested structural text (parse text)
  · exact ⟨_, checkStatements?_of_lengths config source lengths,
      diagnostics_clean_iff_nested structural source statements⟩
  · obtain ⟨_, rfl⟩ := checkStatements?_eq_ok_iff.mp ok
    exact diagnostics_clean_iff_nested structural source statements

theorem branch_in_loop_reported :
    ({} : CheckConfig).structural = true ∧
      ¬ Nested false (marks (parse (marked "each xs" ++ marked "else" ++ marked "/each").toList)) ∧
      ∃ r, checkStatements? {} [] [⟨.directive .openIf, ⟨4, 4⟩⟩, ⟨.directive .elseBranch, ⟨0, 7⟩⟩,
          ⟨.directive .closeIf, ⟨2, 2⟩⟩] = .ok r ∧
        ∀ d ∈ r.diagnostics, d.code.isMisnesting = false := by
  obtain ⟨texts, lists, _⟩ := no_misnesting_iff_nested {} rfl
  refine ⟨rfl, ?_, ?_⟩
  · intro nested
    have clean := (texts _).mpr nested
    revert clean
    decide
  · have sizes : ∀ s ∈ [Statement.mk (.directive .openIf) ⟨4, 4⟩, ⟨.directive .elseBranch, ⟨0, 7⟩⟩,
        ⟨.directive .closeIf, ⟨2, 2⟩⟩], 0 ≤ s.span.size ∧ s.span.size ≤ Span.lengthLimit := by
      decide
    obtain ⟨r, ok, clean⟩ := lists [] _ fun s member =>
      exists_length (sizes s member).1 (sizes s member).2
    exact ⟨r, ok, clean.mpr ((applyAll_iff_nested _).mp (by decide))⟩

end JqTemplate
