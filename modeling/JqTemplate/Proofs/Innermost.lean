import JqTemplate.Proofs.Forest
import JqTemplate.Proofs.Division

namespace JqTemplate

def Frame.OpenAt (f : Frame) (s : Statement) : Prop :=
  f.opener.span.stop ≤ s.span.start ∧ ∀ c, f.closer = some c → s.span.stop ≤ c.span.start

/-- Of the blocks that are open at the statement, the one that was opened last. -/
def Frame.InnermostAt (f : Frame) (blocks : List Frame) (s : Statement) : Prop :=
  f.OpenAt s ∧ ∀ g ∈ blocks, g.OpenAt s → g.opener.span.start ≤ f.opener.span.start

structure Frame.Composed (f : Frame) (done : List Statement) : Prop where
  opener : f.opener ∈ done ∧ f.opener.mark? = some (.opens f.kind)
  closer : ∀ c, f.closer = some c → c ∈ done ∧ c.mark? = some (.closes f.kind)
  branches : ∀ b ∈ f.branches, b ∈ done ∧ b.mark? = some .branches ∧ f.kind = .conditional

theorem Frame.Composed.later {f : Frame} {done : List Statement} (h : f.Composed done)
    (s : Statement) : f.Composed (done ++ [s]) where
  opener := ⟨List.mem_append_left _ h.opener.1, h.opener.2⟩
  closer c closed := ⟨List.mem_append_left _ (h.closer c closed).1, (h.closer c closed).2⟩
  branches b holds := ⟨List.mem_append_left _ (h.branches b holds).1, (h.branches b holds).2⟩

namespace Nesting

variable {done : List Statement} {s t : Statement} {n : Nesting} {f : Frame}

theorem Grown.composed (h : ∀ g ∈ n.frames, g.Composed done) (grown : Grown s n f) :
    f.Composed (done ++ [s]) := by
  cases grown with
  | kept before => exact (h f before).later s
  | opened mark => exact ⟨⟨by simp, mark⟩, by simp, by simp⟩
  | closed stack mark =>
    have was := (h _ (innermost_mem_frames stack)).later s
    refine ⟨was.opener, fun c closed => ?_, was.branches⟩
    obtain rfl := Option.some.inj closed
    exact ⟨by simp, mark⟩
  | branched stack conditional mark =>
    have was := (h _ (innermost_mem_frames stack)).later s
    refine ⟨was.opener, was.closer, fun b holds => ?_⟩
    rcases List.mem_append.mp holds with old | new
    · exact was.branches b old
    · rw [List.mem_singleton.mp new]
      exact ⟨by simp, mark, conditional⟩

theorem Grown.was_open (order : InOrder (done ++ [s])) (read : t ∈ done) (grown : Grown s n f)
    (isOpen : f.OpenAt t) : ∃ g ∈ n.frames, g.opener = f.opener ∧ g.OpenAt t := by
  cases grown with
  | kept before => exact ⟨f, before, rfl, isOpen⟩
  | opened mark =>
    have before := order.before_last read
    have behind := isOpen.1
    have long := order.1 t (by simp [read])
    have long' := order.1 s (by simp)
    simp only at behind
    omega
  | closed stack mark =>
    exact ⟨_, innermost_mem_frames stack, rfl, isOpen.1, by simp [OpenBlock.frame]⟩
  | branched stack conditional mark => exact ⟨_, innermost_mem_frames stack, rfl, isOpen⟩

theorem Settled.open_openers (settled : Settled n) :
    (n.stack.reverse.map OpenBlock.opener).Sublist (n.frames.map Frame.opener) := by
  have filtered := (List.filter_sublist (p := fun f => f.closer = none) (l := n.frames)).map
    Frame.opener
  rw [settled.open_frames, List.map_map] at filtered
  exact filtered

theorem opened_before_innermost {innermost : OpenBlock} {outer : List OpenBlock}
    (settled : Settled n) (order : InOrder (n.frames.map Frame.opener))
    (stack : n.stack = innermost :: outer) {g : Frame} (member : g ∈ n.frames)
    (isOpen : g.closer = none) : g.opener.span.start ≤ innermost.opener.span.start := by
  have found : g ∈ n.frames.filter (fun f => f.closer = none) :=
    List.mem_filter.mpr ⟨member, by simpa using isOpen⟩
  rw [settled.open_frames] at found
  obtain ⟨o, among, rfl⟩ := List.mem_map.mp found
  have ranked := order.sublist settled.open_openers
  rw [stack, List.reverse_cons, List.map_append] at ranked
  rw [stack, List.mem_reverse] at among
  rcases List.mem_cons.mp among with rfl | outside
  · exact Int.le_refl _
  · have outerOpener := List.mem_map_of_mem (f := OpenBlock.opener) (List.mem_reverse.mpr outside)
    have before := ranked.before_last outerOpener
    have long := ranked.1 o.opener (List.mem_append_left _ outerOpener)
    simp only [OpenBlock.frame]
    omega

theorem unclosed_of_openAt (order : InOrder (done ++ [s])) (composed : f.Composed (done ++ [s]))
    (isOpen : f.OpenAt s) : f.closer = none := by
  cases closer : f.closer with
  | none => rfl
  | some c =>
    have behind := isOpen.2 c closer
    have member := (composed.closer c closer).1
    have long := order.1 c member
    have long' := order.1 s (by simp)
    rcases List.mem_append.mp member with read | last
    · have before := order.before_last read
      omega
    · obtain rfl := List.mem_singleton.mp last
      omega

theorem innermost_at_branch {config : CheckConfig} {source : List Char} {n' : Nesting}
    {innermost : OpenBlock} {outer : List OpenBlock} (order : InOrder (done ++ [s]))
    (composed : ∀ g ∈ n.frames, g.Composed done) (settled : Settled n)
    (openers : InOrder (n.frames.map Frame.opener)) (step : Step config source s n n')
    (stack : n.stack = innermost :: outer) (mark : s.mark? = some .branches) :
    { innermost.frame with branches := innermost.branches ++ [s] : Frame }.InnermostAt
      n'.frames s := by
  have opener := (composed _ (innermost_mem_frames stack)).opener.1
  refine ⟨⟨order.before_last opener, by simp [OpenBlock.frame]⟩, fun g member isOpen => ?_⟩
  have grown := step.grown g member
  have unclosed := unclosed_of_openAt order (grown.composed composed) isOpen
  cases grown with
  | kept before => exact opened_before_innermost settled openers stack before unclosed
  | opened other => simp [mark] at other
  | closed stack' other => simp [mark] at other
  | branched stack' conditional _ =>
    obtain ⟨rfl, _⟩ := List.cons.inj (stack'.symm.trans stack)
    exact Int.le_refl _

def BranchesInnermost (blocks : List Frame) : Prop :=
  ∀ f ∈ blocks, ∀ b ∈ f.branches, f.InnermostAt blocks b

theorem Step.branches_innermost {config : CheckConfig} {source : List Char} {n' : Nesting}
    (order : InOrder (done ++ [s])) (composed : ∀ g ∈ n.frames, g.Composed done)
    (settled : Settled n) (openers : InOrder (n.frames.map Frame.opener))
    (h : BranchesInnermost n.frames) (step : Step config source s n n') :
    BranchesInnermost n'.frames := by
  intro f member b holds
  -- a branch that was there before keeps its block, whose opener no step changes
  have old : ∀ g ∈ n.frames, b ∈ g.branches → g.opener = f.opener →
      (g.OpenAt b → f.OpenAt b) → f.InnermostAt n'.frames b := by
    intro g before held same still
    have read := ((composed g before).branches b held).1
    refine ⟨still (h g before b held).1, fun f' member' isOpen => ?_⟩
    obtain ⟨g', before', same', open'⟩ := (step.grown f' member').was_open order read isOpen
    rw [← same, ← same']
    exact (h g before b held).2 g' before' open'
  cases step.grown f member with
  | kept before => exact old f before holds rfl id
  | opened mark => contradiction
  | @closed innermost outer stack mark =>
    have read := ((composed _ (innermost_mem_frames stack)).branches b holds).1
    refine old _ (innermost_mem_frames stack) holds rfl fun isOpen => ⟨isOpen.1, fun c closed => ?_⟩
    obtain rfl := Option.some.inj closed
    exact order.before_last read
  | @branched innermost outer stack conditional mark =>
    rcases List.mem_append.mp holds with held | new
    · exact old _ (innermost_mem_frames stack) held rfl id
    · rw [List.mem_singleton.mp new]
      exact innermost_at_branch order composed settled openers step stack mark

end Nesting

end JqTemplate
