import JqTemplate.Proofs.Findings

/-! The block forest as a flat list: the frames of its blocks in the order of the openers, each
without what it encloses. An unfinished forest, with its stack of open blocks, has the same list
as the forest that comes out at the end, and a step changes at most one frame of it. -/
namespace JqTemplate

/-- A block without the blocks inside it. -/
structure Frame where
  kind : BlockKind
  opener : Statement
  closer : Option Statement
  branches : List Statement
  deriving DecidableEq, Repr

def Block.frame (b : Block) : Frame := ⟨b.kind, b.opener, b.closer, b.branches⟩

def OpenBlock.frame (o : OpenBlock) : Frame := ⟨o.kind, o.opener, none, o.branches⟩

def forestFrames (forest : List Block) : List Frame :=
  (Block.forestPreorder forest).map Block.frame

theorem forestPreorder_append (xs ys : List Block) :
    Block.forestPreorder (xs ++ ys) = Block.forestPreorder xs ++ Block.forestPreorder ys := by
  induction xs with
  | nil => simp [Block.forestPreorder]
  | cons b rest ih => simp [Block.forestPreorder, ih]

@[simp] theorem forestFrames_nil : forestFrames [] = [] := by
  simp [forestFrames, Block.forestPreorder]

@[simp] theorem forestFrames_append (xs ys : List Block) :
    forestFrames (xs ++ ys) = forestFrames xs ++ forestFrames ys := by
  simp [forestFrames, forestPreorder_append]

theorem forestFrames_singleton (b : Block) :
    forestFrames [b] = b.frame :: forestFrames b.children := by
  cases b
  simp [forestFrames, Block.forestPreorder, Block.preorder]

/-- The frames of open blocks and of what they enclose so far; the innermost block, first in the
stack, was opened last. -/
def openFrames : List OpenBlock → List Frame
  | [] => []
  | o :: outer => openFrames outer ++ o.frame :: forestFrames o.children

namespace Nesting

def frames (n : Nesting) : List Frame := forestFrames n.roots ++ openFrames n.stack

theorem frames_unwind (roots inner : List Block) (stack : List OpenBlock) :
    forestFrames (unwind roots inner stack) =
      forestFrames roots ++ openFrames stack ++ forestFrames inner := by
  induction stack generalizing inner with
  | nil => simp [unwind, openFrames]
  | cons o outer ih =>
    rw [unwind, ih, forestFrames_singleton]
    simp [openFrames, OpenBlock.sealed, OpenBlock.frame, Block.frame]

theorem frames_forest (n : Nesting) : forestFrames n.forest = n.frames := by
  simp [forest, frames_unwind, frames]

def framesBefore (n : Nesting) (outer : List OpenBlock) : List Frame :=
  forestFrames n.roots ++ openFrames outer

section Steps

variable {n : Nesting} {innermost : OpenBlock} {outer : List OpenBlock} {s : Statement}

theorem frames_of_stack (stack : n.stack = innermost :: outer) :
    n.frames = n.framesBefore outer ++ innermost.frame :: forestFrames innermost.children := by
  simp [frames, framesBefore, stack, openFrames]

/-- Where only the frame of the innermost open block changes, all the others were there before. -/
theorem mem_of_changed (stack : n.stack = innermost :: outer) {changed f : Frame}
    (member : f ∈ n.framesBefore outer ++ changed :: forestFrames innermost.children) :
    f = changed ∨ f ∈ n.frames := by
  rw [frames_of_stack stack]
  rcases List.mem_append.mp member with before | behind
  · exact .inr (List.mem_append_left _ before)
  · rcases List.mem_cons.mp behind with rfl | below
    · exact .inl rfl
    · exact .inr (List.mem_append_right _ (List.mem_cons_of_mem _ below))

theorem exists_of_changed (stack : n.stack = innermost :: outer) {f : Frame}
    (member : f ∈ n.frames) :
    f = innermost.frame ∨
      ∀ changed, f ∈ n.framesBefore outer ++ changed :: forestFrames innermost.children := by
  rw [frames_of_stack stack] at member
  rcases List.mem_append.mp member with before | behind
  · exact .inr fun _ => List.mem_append_left _ before
  · rcases List.mem_cons.mp behind with rfl | below
    · exact .inl rfl
    · exact .inr fun _ => List.mem_append_right _ (List.mem_cons_of_mem _ below)

theorem frames_openWith (kind : BlockKind) :
    (openWith kind s n).frames = n.frames ++ [⟨kind, s, none, []⟩] := by
  simp [frames, openWith, openFrames, OpenBlock.frame]

theorem frames_finish :
    (finish innermost outer s n).frames = n.framesBefore outer ++
      { innermost.frame with closer := some s } :: forestFrames innermost.children := by
  cases outer with
  | nil =>
    simp [frames, framesBefore, finish, attach, openFrames, forestFrames_singleton,
      OpenBlock.sealed, OpenBlock.frame, Block.frame]
  | cons o outer =>
    simp [frames, framesBefore, finish, attach, openFrames, forestFrames_singleton,
      OpenBlock.sealed, OpenBlock.frame, Block.frame]

theorem frames_extend (source : List Char) :
    (extend source innermost outer s n).frames = n.framesBefore outer ++
      { innermost.frame with branches := innermost.branches ++ [s] } ::
        forestFrames innermost.children := by
  simp [frames, framesBefore, extend, openFrames, OpenBlock.frame]

end Steps

theorem innermost_mem_frames {n : Nesting} {innermost : OpenBlock} {outer : List OpenBlock}
    (stack : n.stack = innermost :: outer) : innermost.frame ∈ n.frames := by
  simp [frames_of_stack stack]

/-- How a frame comes out of a step that reads `s`: as it was, or new, or as that of the
innermost open block, which got its closer or a further branch. -/
inductive Grown (s : Statement) (n : Nesting) : Frame → Prop where
  | kept {f : Frame} (before : f ∈ n.frames) : Grown s n f
  | opened {kind : BlockKind} (mark : s.mark? = some (.opens kind)) :
      Grown s n ⟨kind, s, none, []⟩
  | closed {innermost : OpenBlock} {outer : List OpenBlock} (stack : n.stack = innermost :: outer)
      (mark : s.mark? = some (.closes innermost.kind)) :
      Grown s n { innermost.frame with closer := some s }
  | branched {innermost : OpenBlock} {outer : List OpenBlock}
      (stack : n.stack = innermost :: outer) (conditional : innermost.kind = .conditional)
      (mark : s.mark? = some .branches) :
      Grown s n { innermost.frame with branches := innermost.branches ++ [s] }

theorem Step.grown {config : CheckConfig} {source : List Char} {s : Statement} {n n' : Nesting}
    (step : Step config source s n n') : ∀ f ∈ n'.frames, Grown s n f := by
  intro f member
  cases step with
  | passed mark => exact .kept member
  | unknown mark form => exact .kept member
  | opened mark =>
    rw [frames_openWith] at member
    rcases List.mem_append.mp member with before | new
    · exact .kept before
    · rw [List.mem_singleton.mp new]
      exact .opened mark
  | closed stack mark =>
    rw [frames_finish] at member
    rcases mem_of_changed stack member with rfl | before
    · exact .closed stack mark
    · exact .kept before
  | closeRejected mark other => exact .kept member
  | branched stack conditional mark =>
    rw [frames_extend] at member
    rcases mem_of_changed stack member with rfl | before
    · exact .branched stack conditional mark
    · exact .kept before
  | branchRejected mark other => exact .kept member

/-- Finished blocks are closed, those inside open ones and those outside. -/
structure Settled (n : Nesting) : Prop where
  roots : ∀ f ∈ forestFrames n.roots, f.closer ≠ none
  children : ∀ o ∈ n.stack, ∀ f ∈ forestFrames o.children, f.closer ≠ none

theorem Settled.of_finished {b : Block} (closed : b.closer ≠ none)
    (inside : ∀ f ∈ forestFrames b.children, f.closer ≠ none) :
    ∀ f ∈ forestFrames [b], f.closer ≠ none := by
  intro f member
  rw [forestFrames_singleton] at member
  rcases List.mem_cons.mp member with rfl | below
  · exact closed
  · exact inside f below

theorem Settled.finish {n : Nesting} {innermost : OpenBlock} {outer : List OpenBlock}
    {s : Statement} (h : Settled n) (stack : n.stack = innermost :: outer) :
    Settled (finish innermost outer s n) := by
  have inside := h.children innermost (stack ▸ List.mem_cons_self)
  have block := of_finished (b := innermost.sealed (some s)) (by simp [OpenBlock.sealed]) inside
  have outside : ∀ o ∈ outer, ∀ f ∈ forestFrames o.children, f.closer ≠ none :=
    fun o isOpen => h.children o (stack ▸ List.mem_cons_of_mem _ isOpen)
  cases outer with
  | nil =>
    refine ⟨fun f member => ?_, by simp [Nesting.finish, attach]⟩
    simp only [Nesting.finish, attach, forestFrames_append] at member
    exact (List.mem_append.mp member).elim (h.roots f) (block f)
  | cons o outer =>
    refine ⟨h.roots, fun o' isOpen f member => ?_⟩
    rcases List.mem_cons.mp isOpen with rfl | above
    · simp only [forestFrames_append] at member
      exact (List.mem_append.mp member).elim (outside o List.mem_cons_self f) (block f)
    · exact outside o' (List.mem_cons_of_mem _ above) f member

theorem Step.settled {config : CheckConfig} {source : List Char} {s : Statement}
    {n n' : Nesting} (h : Settled n) (step : Step config source s n n') : Settled n' := by
  cases step with
  | passed mark => exact h
  | unknown mark form => exact ⟨h.roots, h.children⟩
  | opened mark =>
    refine ⟨h.roots, fun o isOpen => ?_⟩
    rcases List.mem_cons.mp isOpen with rfl | before
    · simp
    · exact h.children o before
  | closed stack mark => exact h.finish stack
  | closeRejected mark other => exact ⟨h.roots, h.children⟩
  | @branched innermost outer stack conditional mark =>
    refine ⟨h.roots, fun o isOpen => ?_⟩
    rcases List.mem_cons.mp isOpen with rfl | outside
    · exact h.children innermost (stack ▸ List.mem_cons_self)
    · exact h.children o (stack ▸ List.mem_cons_of_mem _ outside)
  | branchRejected mark other => exact ⟨h.roots, h.children⟩

theorem Settled.open_frames {n : Nesting} (h : Settled n) :
    n.frames.filter (fun f => f.closer = none) = n.stack.reverse.map OpenBlock.frame := by
  have inner : ∀ stack : List OpenBlock,
      (∀ o ∈ stack, ∀ f ∈ forestFrames o.children, f.closer ≠ none) →
      (openFrames stack).filter (fun f => f.closer = none) =
        stack.reverse.map OpenBlock.frame := by
    intro stack
    induction stack with
    | nil => exact fun _ => rfl
    | cons o outer ih =>
      intro closed
      have below : (forestFrames o.children).filter (fun f => f.closer = none) = [] := by
        simpa using closed o List.mem_cons_self
      rw [openFrames, List.filter_append,
        ih fun o' isOpen => closed o' (List.mem_cons_of_mem _ isOpen)]
      simp [OpenBlock.frame, below]
  have finished : (forestFrames n.roots).filter (fun f => f.closer = none) = [] := by
    simpa using h.roots
  rw [frames, List.filter_append, finished, inner n.stack h.children, List.nil_append]

end Nesting

end JqTemplate
