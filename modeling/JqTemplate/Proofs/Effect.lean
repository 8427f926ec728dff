import JqTemplate.Proofs.Layout

namespace JqTemplate

namespace Nesting

def objections (source : List Char) (stack : List OpenBlock) (s : Statement) : List Diagnostic :=
  match s.mark? with
  | some (.closes kind) =>
    if stack.head?.any fun o => o.kind = kind then [] else [rejection kind stack s]
  | some .branches =>
    match stack with
    | [] => [strayElse s]
    | innermost :: _ =>
      if innermost.kind = .conditional then unreachable source innermost s else [strayElse s]
  | _ => []

/-- What is found when the statement is read while the blocks of the stack are open. -/
def news (config : CheckConfig) (source : List Char) (stack : List OpenBlock) (s : Statement) :
    List Diagnostic :=
  (unknownFinding? config s).toList ++ if config.structural then objections source stack s else []

section Step

variable {config : CheckConfig} {source : List Char} {s : Statement} {n n' : Nesting}

theorem Step.found_eq (structural : config.structural = true)
    (step : Step config source s n n') :
    n'.found = n.found ++ news config source n.stack s := by
  have silent {m : Mark} (mark : s.mark? = some m) :
      news config source n.stack s = objections source n.stack s := by
    simp [news, unknownFinding?_of_mark mark, structural]
  cases step with
  | passed mark known => simp [news, known, structural, objections, mark]
  | unknown mark form =>
    have finding : unknownFinding? config s = some _ :=
      unknownFinding?_eq_some_iff.mpr ⟨_, form, rfl⟩
    simp [news, finding, structural, objections, mark, report]
  | opened mark =>
    rw [silent mark]
    simp [objections, mark, openWith]
  | closed stack mark =>
    rw [silent mark]
    simp [objections, mark, finish, stack]
  | @closeRejected kind mark other =>
    have refused : n.stack.head?.any (fun o => o.kind = kind) = false := by
      cases top : n.stack.head? with
      | none => rfl
      | some o => simpa using other o top
    rw [silent mark]
    simp [objections, mark, refused, report]
  | branched stack conditional mark =>
    rw [silent mark]
    simp [objections, mark, extend, stack, conditional]
  | branchRejected mark other =>
    rw [silent mark]
    cases stack : n.stack with
    | nil => simp [objections, mark, report]
    | cons innermost outer =>
      have loop : innermost.kind ≠ .conditional := other innermost (by simp [stack])
      simp [objections, mark, report, loop]

theorem checkStep_found (config : CheckConfig) (source : List Char) (n : Nesting)
    (s : Statement) :
    (checkStep config source n s).found = n.found ++ news config source n.stack s := by
  cases structural : config.structural with
  | true => exact (checkStep_step structural).found_eq structural
  | false =>
    unfold checkStep
    cases finding : unknownFinding? config s <;> simp [news, finding, structural, report]

end Step

end Nesting

end JqTemplate
