import JqTemplate.Check

/-! What one step of the checker can do, by the part that a statement plays in the nesting of
blocks. Every later result about a run takes its cases from here. -/
namespace JqTemplate

inductive Mark where
  | opens (kind : BlockKind)
  | closes (kind : BlockKind)
  | branches
  deriving DecidableEq, Repr

def Keyword.mark? : Keyword → Option Mark
  | .openIf => some (.opens .conditional)
  | .openEach => some (.opens .loop)
  | .closeIf => some (.closes .conditional)
  | .closeEach => some (.closes .loop)
  | .elseBranch => some .branches
  | _ => none

def Statement.mark? (s : Statement) : Option Mark := s.keyword?.bind Keyword.mark?

/-- The marks of a statement list, in order: openers, closers and branches, and nothing else. -/
def marks (statements : List Statement) : List Mark := statements.filterMap Statement.mark?

theorem Statement.keyword?_of_mark {s : Statement} {m : Mark} (h : s.mark? = some m) :
    ∃ k, s.form = .directive k ∧ k.mark? = some m := by
  unfold mark? keyword? at h
  split at h
  · rename_i k form
    exact ⟨k, form, h⟩
  · contradiction

theorem unknownFinding?_eq_some_iff {config : CheckConfig} {s : Statement}
    {d : Diagnostic} :
    unknownFinding? config s = some d ↔
      ∃ body, s.form = .unknown body ∧ Unknown.diagnose config.unknown s.span body = d := by
  unfold unknownFinding?
  cases s.form <;> simp

namespace Nesting

theorem step_eq (source : List Char) (n : Nesting) (s : Statement) :
    n.step source s = match s.mark? with
      | some (.opens kind) => openWith kind s n
      | some (.closes kind) => closeWith kind s n
      | some .branches => branchWith source s n
      | none => n := by
  unfold step Statement.mark?
  cases s.keyword? with
  | none => rfl
  | some k => cases k <;> rfl

def rejection (kind : BlockKind) (stack : List OpenBlock) (s : Statement) : Diagnostic :=
  match stack with
  | [] => unmatchedClose kind s
  | innermost :: _ => mismatchedClose kind innermost s

/-- What a branch of the block is reported for: a plain one after a plain one. -/
def unreachable (source : List Char) (o : OpenBlock) (s : Statement) : List Diagnostic :=
  if isPlainElse source s then
    (o.branches.find? (isPlainElse source)).toList.map (fun first => unreachableElse first s)
  else []

def finish (innermost : OpenBlock) (outer : List OpenBlock) (s : Statement) (n : Nesting) :
    Nesting :=
  { n with
    stack := (attach outer n.roots (innermost.sealed (some s))).1
    roots := (attach outer n.roots (innermost.sealed (some s))).2 }

def extend (source : List Char) (innermost : OpenBlock) (outer : List OpenBlock) (s : Statement)
    (n : Nesting) : Nesting :=
  { n with
    stack := { innermost with branches := innermost.branches ++ [s] } :: outer
    found := n.found ++ unreachable source innermost s }

/-- All that reading the statement `s` can do to the checker. -/
inductive Step (config : CheckConfig) (source : List Char) (s : Statement) (n : Nesting) :
    Nesting → Prop where
  | passed (mark : s.mark? = none) (known : unknownFinding? config s = none) :
      Step config source s n n
  | unknown {body : List Char} (mark : s.mark? = none) (form : s.form = .unknown body) :
      Step config source s n (n.report (Unknown.diagnose config.unknown s.span body))
  | opened {kind : BlockKind} (mark : s.mark? = some (.opens kind)) :
      Step config source s n (openWith kind s n)
  | closed {innermost : OpenBlock} {outer : List OpenBlock} (stack : n.stack = innermost :: outer)
      (mark : s.mark? = some (.closes innermost.kind)) :
      Step config source s n (finish innermost outer s n)
  | closeRejected {kind : BlockKind} (mark : s.mark? = some (.closes kind))
      (other : ∀ o ∈ n.stack.head?, o.kind ≠ kind) :
      Step config source s n (n.report (rejection kind n.stack s))
  | branched {innermost : OpenBlock} {outer : List OpenBlock}
      (stack : n.stack = innermost :: outer) (conditional : innermost.kind = .conditional)
      (mark : s.mark? = some .branches) :
      Step config source s n (extend source innermost outer s n)
  | branchRejected (mark : s.mark? = some .branches)
      (other : ∀ o ∈ n.stack.head?, o.kind ≠ .conditional) :
      Step config source s n (n.report (strayElse s))

section Step

variable {config : CheckConfig} {source : List Char} {s : Statement} {n : Nesting}

theorem closeWith_step {kind : BlockKind} (mark : s.mark? = some (.closes kind)) :
    Step config source s n (closeWith kind s n) := by
  unfold closeWith
  split
  · rename_i empty
    have step : Step config source s n _ := .closeRejected mark (by simp [empty])
    simpa [rejection, empty] using step
  · rename_i innermost outer stack
    split
    · rename_i same
      subst same
      exact Step.closed stack mark
    · rename_i other
      have step : Step config source s n _ := .closeRejected mark (by simp [stack, other])
      simpa [rejection, stack] using step

theorem branchWith_eq {innermost : OpenBlock} {outer : List OpenBlock}
    (stack : n.stack = innermost :: outer) (conditional : innermost.kind = .conditional) :
    branchWith source s n = extend source innermost outer s n := by
  unfold branchWith extend unreachable
  simp only [stack, conditional, if_true]
  cases innermost.branches.find? (isPlainElse source) with
  | none => simp
  | some first => cases plain : isPlainElse source s <;> simp [report]

theorem branchWith_step (mark : s.mark? = some .branches) :
    Step config source s n (branchWith source s n) := by
  cases stack : n.stack with
  | nil =>
    have rejected : branchWith source s n = n.report (strayElse s) := by simp [branchWith, stack]
    rw [rejected]
    exact .branchRejected mark (by simp [stack])
  | cons innermost outer =>
    by_cases conditional : innermost.kind = .conditional
    · rw [branchWith_eq stack conditional]
      exact .branched stack conditional mark
    · have rejected : branchWith source s n = n.report (strayElse s) := by
        simp [branchWith, stack, conditional]
      rw [rejected]
      exact .branchRejected mark (by simpa [stack] using conditional)

theorem checkStep_of_mark (structural : config.structural = true) {m : Mark}
    (mark : s.mark? = some m) : checkStep config source n s = n.step source s := by
  obtain ⟨k, form, _⟩ := Statement.keyword?_of_mark mark
  simp [checkStep, unknownFinding?, form, structural]

theorem checkStep_step (structural : config.structural = true) :
    Step config source s n (checkStep config source n s) := by
  cases mark : s.mark? with
  | none =>
    unfold checkStep
    cases finding : unknownFinding? config s with
    | some d =>
      obtain ⟨body, form, rfl⟩ := unknownFinding?_eq_some_iff.mp finding
      exact .unknown mark form
    | none => simpa [step_eq, mark, structural] using Step.passed mark finding
  | some m =>
    rw [checkStep_of_mark structural mark, step_eq, mark]
    cases m with
    | opens kind => exact .opened mark
    | closes kind => exact closeWith_step mark
    | branches => exact branchWith_step mark

end Step

/-- What a whole run keeps, from what one step keeps. The statements already read are part of
the property. -/
theorem run_induction {config : CheckConfig} {source : List Char}
    {P : List Statement → Nesting → Prop} (structural : config.structural = true)
    (start : P [] empty)
    (step : ∀ done s n n', P done n → Step config source s n n' → P (done ++ [s]) n')
    (statements : List Statement) : P statements (checkNesting config source statements) := by
  have run : ∀ rest done n, P done n →
      P (done ++ rest) (rest.foldl (checkStep config source) n) := by
    intro rest
    induction rest with
    | nil => intro done n h; simpa using h
    | cons s rest ih =>
      intro done n h
      simpa using ih (done ++ [s]) _ (step done s n _ h (checkStep_step structural))
  exact run statements [] empty start

end Nesting

end JqTemplate
