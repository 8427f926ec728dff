import JqTemplate.Proofs.Findings
import Mathlib.Data.List.Forall2

/-! Two runs of the checker, over statements that answer to one another. If each pair plays one
part in the nesting, and what it is reported for on its own is alike, then so is all that the two
runs find, in one order, and so are the blocks. Content plays no part in either run. -/
namespace JqTemplate

section Notions

variable (meets : Statement → Statement → Prop) (reads : String → String → Prop)

structure Label.Alike (l l' : Label) : Prop where
  place : ∃ s s', meets s s' ∧ l.span = s.span ∧ l'.span = s'.span
  message : reads l.message l'.message
  style : l'.style = l.style

structure Suggestion.Alike (x x' : Suggestion) : Prop where
  message : reads x.message x'.message
  replacement : reads x.replacement x'.replacement

structure Diagnostic.Alike (d d' : Diagnostic) : Prop where
  severity : d'.severity = d.severity
  code : d'.code = d.code
  message : reads d.message d'.message
  placed : d.labels ≠ []
  labels : List.Forall₂ (Label.Alike meets reads) d.labels d'.labels
  suggestions : List.Forall₂ (Suggestion.Alike reads) d.suggestions d'.suggestions
  notes : List.Forall₂ reads d.notes d'.notes

inductive Block.Alike : Block → Block → Prop where
  | mk {kind : BlockKind} {opener opener' : Statement} {closer closer' : Option Statement}
      {branches branches' : List Statement} {children children' : List Block}
      (opens : meets opener opener') (closes : Option.Rel meets closer closer')
      (branched : List.Forall₂ meets branches branches')
      (inside : List.Forall₂ Block.Alike children children') :
      Block.Alike ⟨kind, opener, closer, branches, children⟩
        ⟨kind, opener', closer', branches', children'⟩

/-- What has to hold of the pairs. The messages that the nesting makes are fixed texts. -/
structure Corresponds (config : CheckConfig) (source source' : List Char) : Prop where
  mark : ∀ {s s'}, meets s s' → s'.mark? = s.mark?
  long : ∀ {s s'}, meets s s' → s.span.start < s.span.stop ∧ s'.span.start < s'.span.stop
  order : ∀ {s s' t t'}, meets s s' → meets t t' →
    (s'.span.start < t'.span.start ↔ s.span.start < t.span.start)
  plain : ∀ {s s'}, meets s s' → s.mark? = some .branches →
    Nesting.isPlainElse source' s' = Nesting.isPlainElse source s
  unknown : ∀ {s s'}, meets s s' → Option.Rel (Diagnostic.Alike meets reads)
    (unknownFinding? config s) (unknownFinding? config s')
  fixed : ∀ m : String, '\r' ∉ m.toList → reads m m

end Notions

section States

variable (meets : Statement → Statement → Prop) (reads : String → String → Prop)
  (source source' : List Char)

def BranchAlike (s s' : Statement) : Prop :=
  meets s s' ∧ Nesting.isPlainElse source' s' = Nesting.isPlainElse source s

structure OpenBlock.Alike (o o' : OpenBlock) : Prop where
  kind : o'.kind = o.kind
  opener : meets o.opener o'.opener
  branches : List.Forall₂ (BranchAlike meets source source') o.branches o'.branches
  children : List.Forall₂ (Block.Alike meets) o.children o'.children

structure Nesting.Alike (n n' : Nesting) : Prop where
  stack : List.Forall₂ (OpenBlock.Alike meets source source') n.stack n'.stack
  roots : List.Forall₂ (Block.Alike meets) n.roots n'.roots
  found : List.Forall₂ (Diagnostic.Alike meets reads) n.found n'.found

end States

variable {meets : Statement → Statement → Prop} {reads : String → String → Prop}
  {config : CheckConfig} {source source' : List Char} {s s' : Statement}

section Findings

variable {o o' : OpenBlock}

theorem Label.Alike.of_meets (met : meets s s') {message : String} (style : LabelStyle)
    (fixed : reads message message) :
    Label.Alike meets reads ⟨s.span, message, style⟩ ⟨s'.span, message, style⟩ :=
  ⟨⟨s, s', met, rfl, rfl⟩, fixed, rfl⟩

theorem Diagnostic.Alike.of_labels {severity : Severity} {code : Code} {message : String}
    {l l' : Label} {more more' : List Label} (fixed : reads message message)
    (first : Label.Alike meets reads l l')
    (rest : List.Forall₂ (Label.Alike meets reads) more more') :
    Diagnostic.Alike meets reads ⟨severity, code, message, l :: more, [], []⟩
      ⟨severity, code, message, l' :: more', [], []⟩ :=
  ⟨rfl, rfl, fixed, List.cons_ne_nil l more, .cons first rest, .nil, .nil⟩

namespace Nesting

theorem unmatchedClose_alike (h : Corresponds meets reads config source source')
    (met : meets s s') (kind : BlockKind) :
    Diagnostic.Alike meets reads (unmatchedClose kind s) (unmatchedClose kind s') := by
  apply Diagnostic.Alike.of_labels
  · exact h.fixed _ (by cases kind <;> decide)
  · exact .of_meets met _ (h.fixed _ (by decide))
  · exact .nil

theorem mismatchedClose_alike (h : Corresponds meets reads config source source')
    (met : meets s s') (alike : OpenBlock.Alike meets source source' o o') (kind : BlockKind) :
    Diagnostic.Alike meets reads (mismatchedClose kind o s) (mismatchedClose kind o' s') := by
  unfold mismatchedClose
  rw [alike.kind]
  apply Diagnostic.Alike.of_labels
  · exact h.fixed _ (by cases kind <;> cases o.kind <;> decide)
  · exact .of_meets met _ (h.fixed _ (by cases o.kind <;> decide))
  · exact .cons (.of_meets alike.opener _ (h.fixed _ (by decide))) .nil

theorem strayElse_alike (h : Corresponds meets reads config source source') (met : meets s s') :
    Diagnostic.Alike meets reads (strayElse s) (strayElse s') := by
  apply Diagnostic.Alike.of_labels
  · exact h.fixed _ (by decide)
  · exact .of_meets met _ (h.fixed _ (by decide))
  · exact .nil

theorem unreachableElse_alike (h : Corresponds meets reads config source source')
    (met : meets s s') {first first' : Statement} (before : meets first first') :
    Diagnostic.Alike meets reads (unreachableElse first s) (unreachableElse first' s') := by
  apply Diagnostic.Alike.of_labels
  · exact h.fixed _ (by decide)
  · exact .of_meets met _ (h.fixed _ (by decide))
  · exact .cons (.of_meets before _ (h.fixed _ (by decide))) .nil

theorem unclosed_alike (h : Corresponds meets reads config source source')
    (alike : OpenBlock.Alike meets source source' o o') :
    Diagnostic.Alike meets reads (unclosed o) (unclosed o') := by
  unfold unclosed
  rw [alike.kind]
  constructor
  · rfl
  · rfl
  · exact h.fixed (cited o.kind.opener.spelling ++ " is never closed") (by cases o.kind <;> decide)
  · exact List.cons_ne_nil _ _
  · exact .cons (.of_meets alike.opener _ (h.fixed _ (by decide))) .nil
  · have message : reads _ _ := h.fixed ("add " ++ cited o.kind.closer.spelling)
      (by cases o.kind <;> decide)
    exact .cons ⟨message, h.fixed _ (by cases o.kind <;> decide)⟩ .nil
  · exact .nil

end Nesting

theorem unknownFinding?_alike (fixed : ∀ m, reads m m) (met : meets s s')
    (form : s'.form = s.form) :
    Option.Rel (Diagnostic.Alike meets reads) (unknownFinding? config s)
      (unknownFinding? config s') := by
  unfold unknownFinding?
  rw [form]
  cases s.form with
  | content => exact .none
  | directive k => exact .none
  | unknown body =>
    obtain ⟨code, message, label, suggestions, notes, anywhere⟩ :=
      diagnose_anywhere config.unknown body
    simp only [anywhere]
    apply Option.Rel.some
    constructor
    · rfl
    · rfl
    · exact fixed message
    · exact List.cons_ne_nil _ _
    · exact .cons (.of_meets met _ (fixed label)) .nil
    · exact List.forall₂_same.mpr fun x _ => ⟨fixed x.message, fixed x.replacement⟩
    · exact List.forall₂_same.mpr fun note _ => fixed note

end Findings

namespace Nesting

variable {n n' : Nesting} {innermost innermost' : OpenBlock} {outer outer' : List OpenBlock}

theorem Alike.report (alike : Alike meets reads source source' n n') {d d' : Diagnostic}
    (same : Diagnostic.Alike meets reads d d') :
    Alike meets reads source source' (n.report d) (n'.report d') :=
  ⟨alike.stack, alike.roots, List.rel_append alike.found (.cons same .nil)⟩

theorem sealed_alike (alike : OpenBlock.Alike meets source source' innermost innermost')
    {closer closer' : Option Statement} (closes : Option.Rel meets closer closer') :
    Block.Alike meets (innermost.sealed closer) (innermost'.sealed closer') := by
  unfold OpenBlock.sealed
  rw [alike.kind]
  exact .mk alike.opener closes (alike.branches.imp fun _ _ both => both.1) alike.children

theorem Alike.finish (alike : Alike meets reads source source' n n')
    (top : OpenBlock.Alike meets source source' innermost innermost')
    (below : List.Forall₂ (OpenBlock.Alike meets source source') outer outer')
    (met : meets s s') :
    Alike meets reads source source' (finish innermost outer s n)
      (Nesting.finish innermost' outer' s' n') := by
  have block := sealed_alike top (.some met)
  cases below with
  | nil => exact ⟨.nil, List.rel_append alike.roots (.cons block .nil), alike.found⟩
  | cons next further =>
    have inside := List.rel_append next.children (.cons block .nil)
    exact ⟨.cons ⟨next.kind, next.opener, next.branches, inside⟩ further, alike.roots,
      alike.found⟩

theorem closeWith_alike (h : Corresponds meets reads config source source')
    (alike : Alike meets reads source source' n n') (met : meets s s') (kind : BlockKind) :
    Alike meets reads source source' (closeWith kind s n) (closeWith kind s' n') := by
  obtain ⟨stack, roots, found⟩ := n
  obtain ⟨stack', roots', found'⟩ := n'
  cases alike.stack with
  | nil => exact alike.report (unmatchedClose_alike h met kind)
  | @cons innermost innermost' outer outer' top below =>
    by_cases same : innermost.kind = kind
    · have same' : innermost'.kind = kind := top.kind.trans same
      simp only [closeWith, if_pos same, if_pos same']
      exact alike.finish top below met
    · have other : innermost'.kind ≠ kind := fun same' => same (top.kind.symm.trans same')
      simp only [closeWith, if_neg same, if_neg other]
      exact alike.report (mismatchedClose_alike h met top kind)

theorem find_alike {branches branches' : List Statement}
    (alike : List.Forall₂ (BranchAlike meets source source') branches branches') :
    Option.Rel meets (branches.find? (isPlainElse source))
      (branches'.find? (isPlainElse source')) := by
  induction alike with
  | nil => exact .none
  | @cons b b' rest rest' both _ ih =>
    rw [List.find?_cons, List.find?_cons, both.2]
    cases isPlainElse source b with
    | true => exact .some both.1
    | false => exact ih

theorem unreachable_alike (h : Corresponds meets reads config source source')
    (top : OpenBlock.Alike meets source source' innermost innermost')
    (branch : BranchAlike meets source source' s s') :
    List.Forall₂ (Diagnostic.Alike meets reads) (unreachable source innermost s)
      (unreachable source' innermost' s') := by
  unfold unreachable
  rw [branch.2]
  split
  · have earlier := find_alike top.branches
    generalize innermost.branches.find? (isPlainElse source) = first at earlier
    generalize innermost'.branches.find? (isPlainElse source') = first' at earlier
    cases earlier with
    | none => exact .nil
    | some before => exact .cons (unreachableElse_alike h branch.1 before) .nil
  · exact .nil

theorem branchWith_alike (h : Corresponds meets reads config source source')
    (alike : Alike meets reads source source' n n')
    (branch : BranchAlike meets source source' s s') :
    Alike meets reads source source' (branchWith source s n) (branchWith source' s' n') := by
  obtain ⟨stack, roots, found⟩ := n
  obtain ⟨stack', roots', found'⟩ := n'
  cases alike.stack with
  | nil => exact alike.report (strayElse_alike h branch.1)
  | @cons innermost innermost' outer outer' top below =>
    by_cases conditional : innermost.kind = .conditional
    · rw [branchWith_eq rfl conditional, branchWith_eq rfl (top.kind.trans conditional)]
      have branches := List.rel_append top.branches (.cons branch .nil)
      have found := List.rel_append alike.found (unreachable_alike h top branch)
      exact ⟨.cons ⟨top.kind, top.opener, branches, top.children⟩ below, alike.roots, found⟩
    · have other : innermost'.kind ≠ .conditional :=
        fun same => conditional (top.kind.symm.trans same)
      simp only [branchWith, if_neg conditional, if_neg other]
      exact alike.report (strayElse_alike h branch.1)

theorem step_alike (h : Corresponds meets reads config source source')
    (alike : Alike meets reads source source' n n') (met : meets s s') :
    Alike meets reads source source' (n.step source s) (n'.step source' s') := by
  rw [step_eq, step_eq, h.mark met]
  cases mark : s.mark? with
  | none => exact alike
  | some m =>
    cases m with
    | opens kind => exact ⟨.cons ⟨rfl, met, .nil, .nil⟩ alike.stack, alike.roots, alike.found⟩
    | closes kind => exact closeWith_alike h alike met kind
    | branches => exact branchWith_alike h alike ⟨met, h.plain met mark⟩

theorem checkStep_alike (h : Corresponds meets reads config source source')
    (alike : Alike meets reads source source' n n') (met : meets s s') :
    Alike meets reads source source' (checkStep config source n s)
      (checkStep config source' n' s') := by
  have own := h.unknown met
  unfold checkStep
  generalize unknownFinding? config s = finding at own
  generalize unknownFinding? config s' = finding' at own
  cases own with
  | some same => exact alike.report same
  | none =>
    have next := step_alike h alike met
    cases config.structural with
    | true => exact next
    | false => exact ⟨next.stack, next.roots, alike.found⟩

theorem unwind_alike {roots roots' inner inner' : List Block} {stack stack' : List OpenBlock}
    (alike : List.Forall₂ (OpenBlock.Alike meets source source') stack stack')
    (outside : List.Forall₂ (Block.Alike meets) roots roots')
    (inside : List.Forall₂ (Block.Alike meets) inner inner') :
    List.Forall₂ (Block.Alike meets) (unwind roots inner stack) (unwind roots' inner' stack') := by
  induction alike generalizing inner inner' with
  | nil => exact List.rel_append outside inside
  | @cons o o' outer outer' top below ih =>
    have whole : OpenBlock.Alike meets source source'
        { o with children := o.children ++ inner } { o' with children := o'.children ++ inner' } :=
      ⟨top.kind, top.opener, top.branches, List.rel_append top.children inside⟩
    exact ih (.cons (sealed_alike whole .none) .nil)

end Nesting

section Runs

variable {statements statements' : List Statement}

theorem checkNesting_alike (h : Corresponds meets reads config source source')
    (paired : List.Forall₂ meets statements statements') :
    Nesting.Alike meets reads source source' (checkNesting config source statements)
      (checkNesting config source' statements') := by
  apply List.rel_foldl
  · intro n n' alike s s' met
    exact Nesting.checkStep_alike h alike met
  · exact ⟨.nil, .nil, .nil⟩
  · exact paired

theorem findings_alike (h : Corresponds meets reads config source source')
    (paired : List.Forall₂ meets statements statements') :
    List.Forall₂ (Diagnostic.Alike meets reads) (findings config source statements)
      (findings config source' statements') := by
  have alike := checkNesting_alike h paired
  unfold findings
  cases config.structural with
  | false => exact alike.found
  | true =>
    apply List.rel_append alike.found
    apply List.rel_map (R := OpenBlock.Alike meets source source')
    · exact fun o o' same => Nesting.unclosed_alike h same
    · exact List.forall₂_reverse_iff.mpr alike.stack

theorem Diagnostic.Alike.sortKey (h : Corresponds meets reads config source source')
    {d d' : Diagnostic} (alike : Diagnostic.Alike meets reads d d') :
    ∃ s s', meets s s' ∧ d.sortKey = s.span.start ∧ d'.sortKey = s'.span.start := by
  obtain ⟨severity, code, message, labels, suggestions, notes⟩ := d
  obtain ⟨severity', code', message', labels', suggestions', notes'⟩ := d'
  cases alike.labels with
  | nil => exact absurd rfl alike.placed
  | cons first rest =>
    obtain ⟨s, s', met, span, span'⟩ := first.place
    obtain ⟨long, long'⟩ := h.long met
    have filled : s.span.size ≠ 0 := by
      unfold Span.size
      omega
    have filled' : s'.span.size ≠ 0 := by
      unfold Span.size
      omega
    refine ⟨s, s', met, ?_, ?_⟩
    · simp [Diagnostic.sortKey, Diagnostic.span?, span, filled]
    · simp [Diagnostic.sortKey, Diagnostic.span?, span', filled']

/-- The findings keep their order, because the statements that they point at do. -/
theorem checkStatements_alike (h : Corresponds meets reads config source source')
    (paired : List.Forall₂ meets statements statements') :
    List.Forall₂ (Diagnostic.Alike meets reads)
        (checkStatements config source statements).diagnostics
        (checkStatements config source' statements').diagnostics ∧
      List.Forall₂ (Block.Alike meets) (checkStatements config source statements).blocks
        (checkStatements config source' statements').blocks := by
  constructor
  · apply stableSort_forall₂ _ (findings_alike h paired)
    intro d d' e e' first second
    obtain ⟨s, s', met, here, here'⟩ := first.sortKey h
    obtain ⟨t, t', met', there, there'⟩ := second.sortKey h
    simp only [here, here', there, there', h.order met met']
  · have alike := checkNesting_alike h paired
    exact Nesting.unwind_alike alike.stack alike.roots .nil

end Runs

/-- Content plays no part in a run. -/
theorem checkNesting_directives (config : CheckConfig) (source : List Char)
    (statements : List Statement) :
    checkNesting config source statements =
      checkNesting config source (statements.filter fun s => !s.isContent) := by
  unfold checkNesting
  rw [List.foldl_filter]
  congr 1
  funext n s
  cases content : s.isContent with
  | false => rfl
  | true =>
    have form : s.form = .content := by simpa [Statement.isContent] using content
    have still : Nesting.step source n s = n := by
      simp [Nesting.step, Statement.keyword?, form]
    simp [checkStep, unknownFinding?, form, still]

theorem checkStatements_directives (config : CheckConfig) (source : List Char)
    (statements : List Statement) :
    checkStatements config source statements =
      checkStatements config source (statements.filter fun s => !s.isContent) := by
  simp only [checkStatements, findings, checkNesting_directives config source statements]

end JqTemplate
