import JqTemplate.Proofs.Innermost
import JqTemplate.Proofs.Parse

/-! Every structural statement is accounted for once. A run keeps three balances, each by place:
openers against frames, closers against closed frames and rejections, branches against frames
and stray ones. A step moves each balance by what its statement brings in, on one side only. -/
namespace JqTemplate

def Mark.isOpener : Mark → Bool
  | .opens _ => true
  | _ => false

def Mark.isCloser : Mark → Bool
  | .closes _ => true
  | _ => false

namespace Statement

def isOpener (s : Statement) : Bool := s.mark?.any Mark.isOpener

def isCloser (s : Statement) : Bool := s.mark?.any Mark.isCloser

def isBranch (s : Statement) : Bool := s.mark? = some .branches

theorem isOpener_of_mark {s : Statement} {m : Mark} (mark : s.mark? = some m) :
    s.isOpener = m.isOpener := by
  simp [isOpener, mark]

end Statement

/-- The first label of the finding marks the span. -/
def Diagnostic.isAt (d : Diagnostic) (p : Span) : Bool := d.span? = some p

/-- What the finding says of its place, where it speaks of block structure. The frames are those
of the blocks, for the findings that are made at the end. -/
def Diagnostic.Founded (statements : List Statement) (blocks : List Frame) (d : Diagnostic) :
    Prop :=
  match d.code with
  | .unknownDirective | .missingExpression | .unreachableElse => True
  | .unmatchedCloseIf =>
    ∃ s ∈ statements, s.mark? = some (.closes .conditional) ∧ d.span? = some s.span
  | .unmatchedCloseEach =>
    ∃ s ∈ statements, s.mark? = some (.closes .loop) ∧ d.span? = some s.span
  | .mismatchedClose => ∃ s ∈ statements, s.isCloser = true ∧ d.span? = some s.span
  | .strayElse => ∃ s ∈ statements, s.mark? = some .branches ∧ d.span? = some s.span
  | .unclosedIf =>
    ∃ f ∈ blocks, f.closer = none ∧ f.kind = .conditional ∧ d.span? = some f.opener.span
  | .unclosedEach =>
    ∃ f ∈ blocks, f.closer = none ∧ f.kind = .loop ∧ d.span? = some f.opener.span
  | .other _ => False

theorem Diagnostic.Founded.mono {xs ys : List Statement} {fs gs : List Frame} {d : Diagnostic}
    (h : d.Founded xs fs) (statements : ∀ s ∈ xs, s ∈ ys) (blocks : ∀ f ∈ fs, f ∈ gs) :
    d.Founded ys gs := by
  have read : ∀ {p : Statement → Prop}, (∃ s ∈ xs, p s) → ∃ s ∈ ys, p s :=
    fun ⟨s, member, holds⟩ => ⟨s, statements s member, holds⟩
  have block : ∀ {p : Frame → Prop}, (∃ f ∈ fs, p f) → ∃ f ∈ gs, p f :=
    fun ⟨f, member, holds⟩ => ⟨f, blocks f member, holds⟩
  unfold Founded at h ⊢
  cases code : d.code with
  | unknownDirective => trivial
  | missingExpression => trivial
  | unreachableElse => trivial
  | unclosedIf => simp only [code] at h; exact block h
  | unclosedEach => simp only [code] at h; exact block h
  | other text => simp only [code] at h
  | _ => simp only [code] at h; exact read h

theorem Diagnostic.founded_of_unknown {statements : List Statement} {blocks : List Frame}
    {d : Diagnostic} (h : d.code.isUnknown = true) : d.Founded statements blocks := by
  unfold Founded
  cases code : d.code with
  | unknownDirective => trivial
  | missingExpression => trivial
  | _ => simp [code, Code.isUnknown] at h

namespace Nesting

/-- The closers at `p` that close a frame or are rejected. -/
def closersAt (n : Nesting) (p : Span) : Nat :=
  n.frames.countP (fun f => f.closer.any (fun c => c.span = p)) +
    n.found.countP (fun d => d.code.isRejectedCloser && d.isAt p)

def branchesAt (n : Nesting) (p : Span) : Nat :=
  (n.frames.flatMap Frame.branches).countP (fun b => b.span = p) +
    n.found.countP (fun d => d.code = .strayElse && d.isAt p)

section Steps

variable {config : CheckConfig} {source : List Char} {s : Statement} {n n' : Nesting}

theorem Step.openers (step : Step config source s n n') :
    n'.frames.map Frame.opener = n.frames.map Frame.opener ++ [s].filter Statement.isOpener := by
  cases step with
  | passed mark => simp [Statement.isOpener, mark]
  | unknown mark form => simp [Statement.isOpener, mark, frames, report]
  | opened mark => simp [frames_openWith, Statement.isOpener, mark, Mark.isOpener]
  | closed stack mark =>
    simp [frames_finish, frames_of_stack stack, Statement.isOpener, mark, Mark.isOpener]
  | closeRejected mark other =>
    simp [Statement.isOpener, mark, Mark.isOpener, frames, report]
  | branched stack conditional mark =>
    simp [frames_extend, frames_of_stack stack, Statement.isOpener, mark, Mark.isOpener]
  | branchRejected mark other =>
    simp [Statement.isOpener, mark, Mark.isOpener, frames, report]

theorem closersAt_report {d : Diagnostic} (p : Span) :
    (n.report d).closersAt p =
      n.closersAt p + if d.code.isRejectedCloser && d.isAt p then 1 else 0 := by
  simp [closersAt, report, frames, List.countP_append, List.countP_singleton, Nat.add_assoc]

theorem branchesAt_report {d : Diagnostic} (p : Span) :
    (n.report d).branchesAt p =
      n.branchesAt p + if d.code = .strayElse && d.isAt p then 1 else 0 := by
  simp [branchesAt, report, frames, List.countP_append, List.countP_singleton, Nat.add_assoc]

theorem extend_found_countP (source : List Char) (innermost : OpenBlock)
    (outer : List OpenBlock) (s : Statement) (n : Nesting) (p : Diagnostic → Bool)
    (other : ∀ d, d.code = .unreachableElse → p d = false) :
    (extend source innermost outer s n).found.countP p = n.found.countP p := by
  have absent : (unreachable source innermost s).countP p = 0 := by
    refine List.countP_eq_zero.mpr fun d member => ?_
    simp [other d (unreachable_of_mem s innermost member).1]
  simp [extend, List.countP_append, absent]

theorem Step.closersAt (step : Step config source s n n') (p : Span) :
    n'.closersAt p = n.closersAt p + [s].countP (fun t => t.isCloser && t.span = p) := by
  cases step with
  | passed mark => simp [Statement.isCloser, mark]
  | @unknown body mark form =>
    have code := Code.not_rejected_of_unknown (diagnose_code config.unknown s.span body)
    simp [closersAt_report, code, Statement.isCloser, mark]
  | opened mark =>
    simp only [Nesting.closersAt, frames_openWith]
    simp [openWith, Statement.isCloser, mark, Mark.isCloser]
  | @closed innermost outer stack mark =>
    simp only [Nesting.closersAt, frames_finish, frames_of_stack stack]
    simp [OpenBlock.frame, finish, Statement.isCloser, mark, Mark.isCloser,
      List.countP_append, List.countP_cons]
    omega
  | @closeRejected kind mark other =>
    have code := rejection_code kind s n.stack
    have span := rejection_span kind s n.stack
    simp [closersAt_report, code, Diagnostic.isAt, span, Statement.isCloser, mark, Mark.isCloser,
      List.countP_singleton]
  | @branched innermost outer stack conditional mark =>
    have found := extend_found_countP source innermost outer s n
      (fun d => d.code.isRejectedCloser && d.isAt p) (by simp +contextual [Code.isRejectedCloser])
    simp only [Nesting.closersAt, frames_extend, frames_of_stack stack, found]
    simp [OpenBlock.frame, Statement.isCloser, mark, Mark.isCloser, List.countP_append]
  | branchRejected mark other =>
    simp [closersAt_report, strayElse, Code.isRejectedCloser, Statement.isCloser, mark,
      Mark.isCloser]

theorem Step.branchesAt (step : Step config source s n n') (p : Span) :
    n'.branchesAt p = n.branchesAt p + [s].countP (fun t => t.isBranch && t.span = p) := by
  cases step with
  | passed mark => simp [Statement.isBranch, mark]
  | @unknown body mark form =>
    have code := Code.not_stray_of_unknown (diagnose_code config.unknown s.span body)
    simp [branchesAt_report, code, Statement.isBranch, mark]
  | opened mark =>
    simp only [Nesting.branchesAt, frames_openWith]
    simp [openWith, Statement.isBranch, mark]
  | @closed innermost outer stack mark =>
    simp only [Nesting.branchesAt, frames_finish, frames_of_stack stack]
    simp [OpenBlock.frame, finish, Statement.isBranch, mark]
  | @closeRejected kind mark other =>
    have code := Code.not_stray_of_rejected (rejection_code kind s n.stack)
    simp [branchesAt_report, code, Statement.isBranch, mark]
  | @branched innermost outer stack conditional mark =>
    have found := extend_found_countP source innermost outer s n
      (fun d => d.code = .strayElse && d.isAt p) (by simp +contextual)
    simp only [Nesting.branchesAt, frames_extend, frames_of_stack stack, found]
    simp [OpenBlock.frame, Statement.isBranch, mark, List.countP_append, List.countP_cons]
    omega
  | branchRejected mark other =>
    simp [branchesAt_report, strayElse, Diagnostic.isAt, Diagnostic.span?, Statement.isBranch,
      mark, List.countP_singleton]

theorem Step.founded {done : List Statement} (h : ∀ d ∈ n.found, d.Founded done [])
    (step : Step config source s n n') : ∀ d ∈ n'.found, d.Founded (done ++ [s]) [] := by
  have kept : ∀ d ∈ n.found, d.Founded (done ++ [s]) [] :=
    fun d member => (h d member).mono (fun _ => List.mem_append_left _) fun _ => id
  have reported : ∀ d, d.Founded (done ++ [s]) [] →
      ∀ d' ∈ (n.report d).found, d'.Founded (done ++ [s]) [] := by
    intro d founded d' member
    rcases List.mem_append.mp member with old | new
    · exact kept d' old
    · exact List.mem_singleton.mp new ▸ founded
  cases step with
  | passed mark => exact kept
  | unknown mark form => exact reported _ (Diagnostic.founded_of_unknown (diagnose_code _ _ _))
  | opened mark => exact kept
  | closed stack mark => exact kept
  | @closeRejected kind mark other =>
    refine reported _ ?_
    have here : s ∈ done ++ [s] := by simp
    cases stack : n.stack with
    | nil => cases kind <;> exact ⟨s, here, mark, rfl⟩
    | cons innermost outer =>
      exact ⟨s, here, by simp [Statement.isCloser, mark, Mark.isCloser], rfl⟩
  | @branched innermost outer stack conditional mark =>
    intro d member
    rcases List.mem_append.mp member with old | new
    · exact kept d old
    · simp [Diagnostic.Founded, (unreachable_of_mem s innermost new).1]
  | branchRejected mark other => exact reported _ ⟨s, by simp, mark, rfl⟩

end Steps

/-- What a run keeps: nothing that was read is lost, and nothing is counted twice. -/
structure Balanced (done : List Statement) (n : Nesting) : Prop where
  openers : n.frames.map Frame.opener = done.filter Statement.isOpener
  closers : ∀ p, n.closersAt p = done.countP (fun t => t.isCloser && t.span = p)
  branches : ∀ p, n.branchesAt p = done.countP (fun t => t.isBranch && t.span = p)
  composed : ∀ f ∈ n.frames, f.Composed done
  founded : ∀ d ∈ n.found, d.Founded done []
  settled : Settled n
  innermost : InOrder done → BranchesInnermost n.frames

theorem Step.balanced {config : CheckConfig} {source : List Char} {done : List Statement}
    {s : Statement} {n n' : Nesting} (h : Balanced done n) (step : Step config source s n n') :
    Balanced (done ++ [s]) n' where
  openers := by rw [step.openers, h.openers, List.filter_append]
  closers p := by rw [step.closersAt, h.closers, List.countP_append]
  branches p := by rw [step.branchesAt, h.branches, List.countP_append]
  composed f member := (step.grown f member).composed h.composed
  founded := step.founded h.founded
  settled := step.settled h.settled
  innermost order := by
    have before := order.sublist (List.sublist_append_left done [s])
    have openers : InOrder (n.frames.map Frame.opener) :=
      h.openers ▸ before.sublist List.filter_sublist
    exact step.branches_innermost order h.composed h.settled openers (h.innermost before)

theorem empty_balanced : Balanced [] empty where
  openers := by simp [frames, empty, openFrames]
  closers := by simp [closersAt, frames, empty, openFrames]
  branches := by simp [branchesAt, frames, empty, openFrames]
  composed := by simp [frames, empty, openFrames]
  founded := by simp [empty]
  settled := ⟨by simp [empty], by simp [empty]⟩
  innermost := by simp [BranchesInnermost, frames, empty, openFrames]

end Nesting

theorem checkNesting_balanced {config : CheckConfig} (structural : config.structural = true)
    (source : List Char) (statements : List Statement) :
    (checkNesting config source statements).Balanced statements :=
  Nesting.run_induction structural Nesting.empty_balanced
    (fun _ _ _ _ h step => step.balanced h) statements

end JqTemplate
