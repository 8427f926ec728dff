import JqTemplate.Proofs.Layout

/-! What lies where in a closed block, and what is left open. Children and branches lie between the
opener and the closer, apart from one another. The unclosed blocks hang on the right edge of the
forest, one under the other. -/
namespace JqTemplate

/-- What a closed block holds lies between its two directives, and all of it is closed. -/
structure Block.Encloses (b : Block) (closer : Statement) : Prop where
  children : ∀ c ∈ b.children,
    b.opener.span.stop ≤ c.span.start ∧ c.span.stop ≤ closer.span.start
  branches : ∀ s ∈ b.branches,
    b.opener.span.stop ≤ s.span.start ∧ s.span.stop ≤ closer.span.start
  apart : ∀ s ∈ b.branches, ∀ c ∈ b.children,
    s.span.stop ≤ c.span.start ∨ c.span.stop ≤ s.span.start
  outside : ∀ s ∈ b.branches, ∀ c ∈ b.children, c.span.contains s.span = false
  closed : ∀ c ∈ forestPreorder b.children, c.isClosed = true

def unclosedBlocks (forest : List Block) : List Block :=
  (Block.forestPreorder forest).filter fun b => !b.isClosed

/-- Each of them is the last child of the one before it, and the first is the last of the row. -/
def HangsFrom (row unclosed : List Block) : Prop :=
  (∀ b ∈ unclosed.head?, row.getLast? = some b) ∧
    unclosed.IsChain fun b c => b.children.getLast? = some c

section Rows

variable {low high : Int} {row : List Block}

theorem Sealed.all_closed (h : Sealed low high row) : unclosedBlocks row = [] := by
  apply List.filter_eq_nil_iff.mpr
  intro b member
  simp [(h.bounds b member).1]

theorem Sealed.before_closer (h : Sealed low high row) :
    ∀ b ∈ Block.forestPreorder row, ∀ s, b.closer = some s →
      ∀ c ∈ Block.forestPreorder b.children, c.span.stop ≤ s.span.start := by
  induction h with
  | nil order => simp [Block.forestPreorder]
  | cons begins opens inside closes behind ihInside ihBehind =>
    intro b member
    rcases mem_forestPreorder_cons.mp member with rfl | below | later
    · intro s closer c under
      cases closer
      exact (inside.bounds c under).2.2
    · exact ihInside b below
    · exact ihBehind b later

theorem Trailing.before_closer (h : Trailing low row) :
    ∀ b ∈ Block.forestPreorder row, ∀ s, b.closer = some s →
      ∀ c ∈ Block.forestPreorder b.children, c.span.stop ≤ s.span.start := by
  induction h with
  | closed all => exact all.before_closer
  | unclosed before begins opens inside ih =>
    intro b member
    rw [forestPreorder_append] at member
    rcases List.mem_append.mp member with front | last
    · exact before.before_closer b front
    · rcases mem_forestPreorder_cons.mp last with rfl | below | absent
      · simp
      · exact ih b below
      · simp [Block.forestPreorder] at absent

theorem Trailing.hangs (h : Trailing low row) : HangsFrom row (unclosedBlocks row) := by
  induction h with
  | closed all =>
    rw [all.all_closed]
    exact ⟨by simp, .nil⟩
  | @unclosed low middle row children kind opener branches before begins opens inside ih =>
    have split : unclosedBlocks (row ++ [⟨kind, opener, none, branches, children⟩]) =
        ⟨kind, opener, none, branches, children⟩ :: unclosedBlocks children := by
      have front : unclosedBlocks row = [] := before.all_closed
      simp only [unclosedBlocks, forestPreorder_append, List.filter_append] at front ⊢
      rw [front]
      simp [Block.forestPreorder, Block.preorder, Block.isClosed]
    rw [split]
    exact ⟨by simp, List.isChain_cons.mpr ih⟩

end Rows

section Blocks

variable {config : CheckConfig} {text : List Char} {b c : Block} {s : Statement}

/-- A branch stands in front of a child or behind it: were it inside, the child would be open there
and not the block itself be innermost. -/
theorem branch_apart (member : b ∈ Block.forestPreorder (check config text).blocks)
    (branch : s ∈ b.branches) (inside : c ∈ Block.forestPreorder b.children)
    (closed : c.isClosed = true) : s.span.stop ≤ c.span.start ∨ c.span.stop ≤ s.span.start := by
  have order := parse_inOrder text
  have balanced : (checkNesting {} text (parse text)).Balanced (parse text) :=
    checkNesting_balanced rfl text (parse text)
  have among := mem_forestPreorder_of_inside member inside
  have composed := check_composed among
  obtain ⟨read, mark, _⟩ := (check_composed member).branches s branch
  obtain ⟨t, closer⟩ := Option.isSome_iff_exists.mp closed
  obtain ⟨readCloser, closes⟩ := composed.closer t closer
  have ends : c.span.stop = t.span.stop := by simp [Block.span, closer]
  have notOpener : s ≠ c.opener := by
    rintro rfl
    cases mark.symm.trans composed.opener.2
  have notCloser : s ≠ t := by
    rintro rfl
    cases mark.symm.trans closes
  rcases order.apart read composed.opener.1 notOpener with front | behind
  · exact .inl front
  · rcases order.apart read readCloser notCloser with held | after
    · -- The child would have to open no later than its parent.
      have isOpen : c.frame.OpenAt s := ⟨behind, fun t' same => by
        obtain rfl := Option.some.inj (closer.symm.trans same)
        exact held⟩
      have least := (balanced.innermost order b.frame (check_frame member) s branch).2 c.frame
        (check_frame among) isOpen
      have placed := (check_placed config text).blocks b member
      have opens := placed.opens
      have later := placed.inside c inside
      simp only [Block.frame, Block.span] at least later
      omega
    · exact .inr (ends ▸ after)

theorem check_encloses (member : b ∈ Block.forestPreorder (check config text).blocks)
    {closer : Statement} (closes : b.closer = some closer) : b.Encloses closer := by
  have order := parse_inOrder text
  have balanced : (checkNesting {} text (parse text)).Balanced (parse text) :=
    checkNesting_balanced rfl text (parse text)
  have placed := (check_placed config text).blocks b member
  have before := (check_trailing config text).before_closer b member closer closes
  have innermost := balanced.innermost order b.frame (check_frame member)
  have closed : ∀ c ∈ Block.forestPreorder b.children, c.isClosed = true :=
    fun c inside => (placed.closed (by simp [Block.isClosed, closes]) c inside).1
  constructor
  · intro c child
    have inside := mem_forestPreorder_of_mem child
    exact ⟨placed.inside c inside, before c inside⟩
  · intro s branch
    obtain ⟨opened, unclosed⟩ := (innermost s branch).1
    exact ⟨opened, unclosed closer closes⟩
  · intro s branch c child
    have inside := mem_forestPreorder_of_mem child
    exact branch_apart member branch inside (closed c inside)
  · intro s branch c child
    have inside := mem_forestPreorder_of_mem child
    have long := order.1 s ((check_composed member).branches s branch).1
    have apart := branch_apart member branch inside (closed c inside)
    simp only [Span.contains, Bool.and_eq_false_iff, decide_eq_false_iff_not]
    omega
  · exact closed

end Blocks

/-- The blocks of a text lie as they were written. What a closed block holds is inside it, and its
branches are not inside its children; blocks side by side follow one another at every level; and
the unclosed ones are the last root, its last child, and so on. -/
theorem check_geometry (config : CheckConfig) (text : List Char) :
    let forest := (check config text).blocks
    (∀ b ∈ Block.forestPreorder forest, ∀ closer, b.closer = some closer → b.Encloses closer) ∧
    Successive forest ∧ (∀ b ∈ Block.forestPreorder forest, Successive b.children) ∧
    HangsFrom forest (unclosedBlocks forest) := by
  have placed := check_placed config text
  exact ⟨fun b member closer closes => check_encloses member closes, placed.row,
    fun b member => (placed.blocks b member).row, (check_trailing config text).hangs⟩

def branchedBlock : Block :=
  ⟨.conditional, ⟨.directive .openIf, ⟨10, 18⟩⟩, some ⟨.directive .closeIf, ⟨45, 52⟩⟩,
    [⟨.directive .elseBranch, ⟨18, 26⟩⟩],
    [⟨.loop, ⟨.directive .openEach, ⟨26, 36⟩⟩, some ⟨.directive .closeEach, ⟨36, 45⟩⟩, [], []⟩]⟩

def unclosedLoop : Block := ⟨.loop, ⟨.directive .openEach, ⟨0, 10⟩⟩, none, [], [branchedBlock]⟩

theorem branched_block_in_unclosed_loop :
    (check {} (marked "each a" ++ marked "if b" ++ marked "else" ++ marked "each c" ++
        marked "/each" ++ marked "/if").toList).blocks = [unclosedLoop] ∧
    branchedBlock.Encloses ⟨.directive .closeIf, ⟨45, 52⟩⟩ ∧
    HangsFrom [unclosedLoop] [unclosedLoop] := by
  have blocks : (check {} (marked "each a" ++ marked "if b" ++ marked "else" ++ marked "each c" ++
      marked "/each" ++ marked "/if").toList).blocks = [unclosedLoop] := rfl
  obtain ⟨encloses, _, _, hangs⟩ := check_geometry {} (marked "each a" ++ marked "if b" ++
    marked "else" ++ marked "each c" ++ marked "/each" ++ marked "/if").toList
  rw [blocks] at encloses hangs
  have unclosed : unclosedBlocks [unclosedLoop] = [unclosedLoop] := by
    simp [unclosedBlocks, Block.forestPreorder, Block.preorder, unclosedLoop, branchedBlock,
      Block.isClosed]
  rw [unclosed] at hangs
  have inside : branchedBlock ∈ Block.forestPreorder [unclosedLoop] := by
    simp [Block.forestPreorder, Block.preorder, unclosedLoop, branchedBlock]
  exact ⟨blocks, encloses branchedBlock inside _ rfl, hangs⟩

end JqTemplate
