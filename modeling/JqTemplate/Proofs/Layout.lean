import JqTemplate.Proofs.Balance
import JqTemplate.Proofs.Splice

/-! Where the blocks of a forest lie in the text. Blocks side by side follow one another, and a
closed block holds all its descendants, which are closed too. Only the last block of a row can be
unclosed, and only where every block around it is. The open blocks of an unfinished forest are laid
out in the same way, each up to the opener of the next. -/
namespace JqTemplate

@[elab_as_elim]
theorem forest_induction {motive : List Block → Prop} (nil : motive [])
    (cons : ∀ b rest, motive b.children → motive rest → motive (b :: rest)) :
    ∀ row, motive row
  | [] => nil
  | ⟨_, _, _, _, children⟩ :: rest =>
    cons _ rest (forest_induction nil cons children) (forest_induction nil cons rest)

theorem preorder_eq (b : Block) : b.preorder = b :: Block.forestPreorder b.children := by
  cases b
  simp [Block.preorder]

theorem mem_forestPreorder_cons {b c : Block} {rest : List Block} :
    c ∈ Block.forestPreorder (b :: rest) ↔
      c = b ∨ c ∈ Block.forestPreorder b.children ∨ c ∈ Block.forestPreorder rest := by
  simp [Block.forestPreorder, preorder_eq]

theorem mem_forestPreorder_of_mem {b : Block} {row : List Block} (member : b ∈ row) :
    b ∈ Block.forestPreorder row := by
  induction row with
  | nil => contradiction
  | cons c rest ih =>
    rw [mem_forestPreorder_cons]
    rcases List.mem_cons.mp member with rfl | behind
    · exact .inl rfl
    · exact .inr (.inr (ih behind))

theorem exists_root_of_mem_forestPreorder {b : Block} {row : List Block}
    (member : b ∈ Block.forestPreorder row) : ∃ root ∈ row, b ∈ root.preorder := by
  induction row with
  | nil => simp [Block.forestPreorder] at member
  | cons c rest ih =>
    rw [Block.forestPreorder] at member
    rcases List.mem_append.mp member with here | behind
    · exact ⟨c, List.mem_cons_self, here⟩
    · obtain ⟨root, among, inside⟩ := ih behind
      exact ⟨root, List.mem_cons_of_mem c among, inside⟩

theorem mem_forestPreorder_of_inside {b c : Block} {row : List Block}
    (member : b ∈ Block.forestPreorder row) (inside : c ∈ Block.forestPreorder b.children) :
    c ∈ Block.forestPreorder row := by
  induction row using forest_induction with
  | nil => simp [Block.forestPreorder] at member
  | cons first rest ihInside ihBehind =>
    rw [mem_forestPreorder_cons] at member ⊢
    rcases member with rfl | below | behind
    · exact .inr (.inl inside)
    · exact .inr (.inl (ihInside below))
    · exact .inr (.inr (ihBehind behind))

/-- A row of closed blocks with closed blocks inside, between two places. -/
inductive Sealed : Int → Int → List Block → Prop where
  | nil {low high : Int} (order : low ≤ high) : Sealed low high []
  | cons {low high : Int} {kind : BlockKind} {opener closer : Statement}
      {branches : List Statement} {children rest : List Block}
      (begins : low ≤ opener.span.start) (opens : opener.span.start < opener.span.stop)
      (inside : Sealed opener.span.stop closer.span.start children)
      (closes : closer.span.start < closer.span.stop)
      (behind : Sealed closer.span.stop high rest) :
      Sealed low high (⟨kind, opener, some closer, branches, children⟩ :: rest)

/-- A row that may end in an unclosed block, whose own row may end so too. -/
inductive Trailing : Int → List Block → Prop where
  | closed {low high : Int} {row : List Block} (all : Sealed low high row) : Trailing low row
  | unclosed {low middle : Int} {row children : List Block} {kind : BlockKind}
      {opener : Statement} {branches : List Statement} (before : Sealed low middle row)
      (begins : middle ≤ opener.span.start) (opens : opener.span.start < opener.span.stop)
      (inside : Trailing opener.span.stop children) :
      Trailing low (row ++ [⟨kind, opener, none, branches, children⟩])

namespace Sealed

variable {low middle high : Int} {row xs ys : List Block}

theorem le (h : Sealed low high row) : low ≤ high := by
  induction h with
  | nil order => exact order
  | cons begins opens inside closes behind ihInside ihBehind => omega

theorem later {further : Int} (h : Sealed low high row) (order : high ≤ further) :
    Sealed low further row := by
  induction h with
  | nil order' => exact .nil (Int.le_trans order' order)
  | cons begins opens inside closes behind ihInside ihBehind =>
    exact .cons begins opens inside closes (ihBehind order)

theorem append (hx : Sealed low middle xs) (hy : Sealed middle high ys) :
    Sealed low high (xs ++ ys) := by
  induction hx with
  | @nil low middle order =>
    cases hy with
    | nil order' => exact .nil (Int.le_trans order order')
    | cons begins opens inside closes behind =>
      exact .cons (Int.le_trans order begins) opens inside closes behind
  | cons begins opens inside closes behind ihInside ihBehind =>
    exact .cons begins opens inside closes (ihBehind hy)

theorem trailing (hx : Sealed low middle xs) (hy : Trailing middle ys) :
    Trailing low (xs ++ ys) := by
  cases hy with
  | closed all => exact .closed (hx.append all)
  | unclosed before begins opens inside =>
    rw [← List.append_assoc]
    exact .unclosed (hx.append before) begins opens inside

end Sealed

/-- The blocks of a row follow one another, and those with a block behind them are closed. -/
def Successive (row : List Block) : Prop :=
  row.Pairwise fun b c => b.isClosed = true ∧ b.span.stop ≤ c.span.start

/-- What the place of a block says of the blocks inside it. -/
structure Block.Placed (b : Block) : Prop where
  opens : b.opener.span.start < b.opener.span.stop
  long : b.span.start < b.span.stop
  row : Successive b.children
  inside : ∀ c ∈ forestPreorder b.children, b.opener.span.stop ≤ c.span.start
  closed : b.isClosed = true →
    ∀ c ∈ forestPreorder b.children, c.isClosed = true ∧ c.span.stop ≤ b.span.stop

structure Placed (forest : List Block) : Prop where
  row : Successive forest
  blocks : ∀ b ∈ Block.forestPreorder forest, b.Placed

theorem Placed.inside {b : Block} {rest : List Block} (h : Placed (b :: rest)) :
    Placed b.children where
  row := (h.blocks b (mem_forestPreorder_cons.mpr (.inl rfl))).row
  blocks c member := h.blocks c (mem_forestPreorder_cons.mpr (.inr (.inl member)))

theorem Placed.behind {b : Block} {rest : List Block} (h : Placed (b :: rest)) : Placed rest where
  row := (List.pairwise_cons.mp h.row).2
  blocks c member := h.blocks c (mem_forestPreorder_cons.mpr (.inr (.inr member)))

theorem Placed.below {b : Block} {row : List Block} (h : Placed row)
    (member : b ∈ Block.forestPreorder row) : Placed b.children where
  row := (h.blocks b member).row
  blocks c inside := h.blocks c (mem_forestPreorder_of_inside member inside)

namespace Sealed

variable {low high : Int} {row : List Block}

theorem bounds (h : Sealed low high row) :
    ∀ b ∈ Block.forestPreorder row,
      b.isClosed = true ∧ low ≤ b.span.start ∧ b.span.stop ≤ high := by
  induction h with
  | nil order => simp [Block.forestPreorder]
  | cons begins opens inside closes behind ihInside ihBehind =>
    have order := inside.le
    have order' := behind.le
    intro b member
    rcases mem_forestPreorder_cons.mp member with rfl | below | later
    · exact ⟨rfl, begins, order'⟩
    · obtain ⟨closed, first, last⟩ := ihInside b below
      exact ⟨closed, by omega, by omega⟩
    · obtain ⟨closed, first, last⟩ := ihBehind b later
      exact ⟨closed, by omega, last⟩

theorem placed (h : Sealed low high row) : Placed row := by
  induction h with
  | nil order => exact ⟨.nil, by simp [Block.forestPreorder]⟩
  | @cons low high kind opener closer branches children rest begins opens inside closes behind
      ihInside ihBehind =>
    have order := inside.le
    have long : opener.span.start < closer.span.stop := by omega
    refine ⟨.cons (fun c member => ?_) ihBehind.row, fun b member => ?_⟩
    · exact ⟨rfl, (behind.bounds c (mem_forestPreorder_of_mem member)).2.1⟩
    · rcases mem_forestPreorder_cons.mp member with rfl | below | later
      · refine ⟨opens, long, ihInside.row, fun c below => (inside.bounds c below).2.1, ?_⟩
        intro _ c below
        obtain ⟨closed, _, last⟩ := inside.bounds c below
        exact ⟨closed, Int.le_trans last (Int.le_of_lt closes)⟩
      · exact ihInside.blocks b below
      · exact ihBehind.blocks b later

end Sealed

namespace Trailing

variable {low : Int} {row : List Block}

theorem bounds (h : Trailing low row) : ∀ b ∈ Block.forestPreorder row, low ≤ b.span.start := by
  induction h with
  | closed all => exact fun b member => (all.bounds b member).2.1
  | unclosed before begins opens inside ih =>
    have order := before.le
    intro b member
    rw [forestPreorder_append] at member
    rcases List.mem_append.mp member with front | last
    · exact (before.bounds b front).2.1
    · rcases mem_forestPreorder_cons.mp last with rfl | below | nothing
      · exact Int.le_trans order begins
      · have first := ih b below
        omega
      · simp [Block.forestPreorder] at nothing

theorem placed (h : Trailing low row) : Placed row := by
  induction h with
  | closed all => exact all.placed
  | unclosed before begins opens inside ih =>
    refine ⟨List.pairwise_append.mpr ⟨before.placed.row, List.pairwise_singleton _ _, ?_⟩, ?_⟩
    · intro b front c last
      obtain ⟨closed, _, stops⟩ := before.bounds b (mem_forestPreorder_of_mem front)
      rw [List.mem_singleton.mp last]
      exact ⟨closed, Int.le_trans stops begins⟩
    · intro b member
      rw [forestPreorder_append] at member
      rcases List.mem_append.mp member with front | last
      · exact before.placed.blocks b front
      · rcases mem_forestPreorder_cons.mp last with rfl | below | nothing
        · exact ⟨opens, opens, ih.row, inside.bounds, by simp [Block.isClosed]⟩
        · exact ih.blocks b below
        · simp [Block.forestPreorder] at nothing

end Trailing

namespace Nesting

/-- The finished blocks and the open ones with what they hold so far, up to the place `high`. -/
def Layered (roots : List Block) : List OpenBlock → Int → Prop
  | [], high => Sealed 0 high roots
  | o :: outer, high =>
    Layered roots outer o.opener.span.start ∧ o.opener.span.start < o.opener.span.stop ∧
      Sealed o.opener.span.stop high o.children

section Steps

variable {roots : List Block} {stack : List OpenBlock} {high further : Int}

theorem Layered.later (h : Layered roots stack high) (order : high ≤ further) :
    Layered roots stack further := by
  cases stack with
  | nil => exact Sealed.later h order
  | cons o outer => exact ⟨h.1, h.2.1, h.2.2.later order⟩

theorem Layered.finish {n : Nesting} {innermost : OpenBlock} {outer : List OpenBlock}
    {s : Statement} (h : Layered n.roots (innermost :: outer) s.span.start)
    (long : s.span.start < s.span.stop) :
    Layered (Nesting.finish innermost outer s n).roots (Nesting.finish innermost outer s n).stack
      s.span.stop := by
  obtain ⟨around, opens, inside⟩ := h
  have block : Sealed innermost.opener.span.start s.span.stop [innermost.sealed (some s)] :=
    .cons (Int.le_refl _) opens inside long (.nil (Int.le_refl _))
  cases outer with
  | nil => exact Sealed.append around block
  | cons o outer => exact ⟨around.1, around.2.1, around.2.2.append block⟩

theorem Step.layered {config : CheckConfig} {source : List Char} {s : Statement} {n n' : Nesting}
    (h : Layered n.roots n.stack s.span.start) (long : s.span.start < s.span.stop)
    (step : Step config source s n n') : Layered n'.roots n'.stack s.span.stop := by
  have unchanged := h.later (Int.le_of_lt long)
  cases step with
  | passed mark => exact unchanged
  | unknown mark form => exact unchanged
  | opened mark => exact ⟨h, long, .nil (Int.le_refl _)⟩
  | closed stack mark =>
    rw [stack] at h
    exact Layered.finish h long
  | closeRejected mark other => exact unchanged
  | branched stack conditional mark =>
    rw [stack] at unchanged
    exact ⟨unchanged.1, unchanged.2.1, unchanged.2.2⟩
  | branchRejected mark other => exact unchanged

theorem unwind_trailing (inner : List Block) (layered : Layered roots stack high)
    (trailing : Trailing high inner) : Trailing 0 (unwind roots inner stack) := by
  induction stack generalizing inner high with
  | nil => exact Sealed.trailing layered trailing
  | cons o outer ih =>
    obtain ⟨around, opens, inside⟩ := layered
    refine ih _ around ?_
    exact .unclosed (.nil (Int.le_refl _)) (Int.le_refl _) opens (inside.trailing trailing)

end Steps

/-- Blocks come from the stack and the roots alone. -/
def SameBlocks (n n' : Nesting) : Prop := n.stack = n'.stack ∧ n.roots = n'.roots

theorem SameBlocks.step {n n' : Nesting} (same : SameBlocks n n') (source source' : List Char)
    (s : Statement) : SameBlocks (n.step source s) (n'.step source' s) := by
  obtain ⟨stack, roots, found⟩ := n
  obtain ⟨stack', roots', found'⟩ := n'
  obtain ⟨rfl, rfl⟩ : stack = stack' ∧ roots = roots' := same
  rw [step_eq, step_eq]
  split
  · exact ⟨rfl, rfl⟩
  · cases stack with
    | nil => exact ⟨rfl, rfl⟩
    | cons innermost outer =>
      simp only [closeWith]
      split <;> exact ⟨rfl, rfl⟩
  · cases stack with
    | nil => exact ⟨rfl, rfl⟩
    | cons innermost outer =>
      by_cases conditional : innermost.kind = .conditional
      · rw [branchWith_eq rfl conditional, branchWith_eq rfl conditional]
        exact ⟨rfl, rfl⟩
      · simp only [branchWith, if_neg conditional]
        exact ⟨rfl, rfl⟩
  · exact ⟨rfl, rfl⟩

theorem SameBlocks.checkStep {n n' : Nesting} (same : SameBlocks n n')
    (config config' : CheckConfig) (source source' : List Char) (s : Statement) :
    SameBlocks (checkStep config source n s) (JqTemplate.checkStep config' source' n' s) := by
  have read := same.step source source' s
  cases form : s.form with
  | unknown body =>
    simp only [JqTemplate.checkStep, unknownFinding?, form]
    exact same
  | _ =>
    simp only [JqTemplate.checkStep, unknownFinding?, form]
    split <;> split <;> exact read

theorem checkNesting_sameBlocks (config config' : CheckConfig) (source source' : List Char)
    (statements : List Statement) :
    SameBlocks (checkNesting config source statements)
      (checkNesting config' source' statements) := by
  have run : ∀ n n' : Nesting, SameBlocks n n' →
      SameBlocks (statements.foldl (JqTemplate.checkStep config source) n)
        (statements.foldl (JqTemplate.checkStep config' source') n') := by
    induction statements with
    | nil => exact fun _ _ same => same
    | cons s rest ih =>
      exact fun n n' same => ih _ _ (same.checkStep config config' source source' s)
  exact run empty empty ⟨rfl, rfl⟩

theorem SameBlocks.forest_eq {n n' : Nesting} (same : SameBlocks n n') : n.forest = n'.forest := by
  simp only [forest, same.1, same.2]

end Nesting

theorem check_blocks_eq (config config' : CheckConfig) (text : List Char) :
    (check config text).blocks = (check config' text).blocks :=
  (Nesting.checkNesting_sameBlocks config config' text text (parse text)).forest_eq

theorem check_frame {config : CheckConfig} {text : List Char} {b : Block}
    (member : b ∈ Block.forestPreorder (check config text).blocks) :
    b.frame ∈ (checkNesting {} text (parse text)).frames := by
  rw [check_blocks_eq config {} text] at member
  rw [← Nesting.frames_forest]
  exact List.mem_map_of_mem member

theorem check_composed {config : CheckConfig} {text : List Char} {b : Block}
    (member : b ∈ Block.forestPreorder (check config text).blocks) :
    b.frame.Composed (parse text) := by
  have balanced : (checkNesting {} text (parse text)).Balanced (parse text) :=
    checkNesting_balanced rfl text (parse text)
  exact balanced.composed _ (check_frame member)

theorem check_opener_mark {config : CheckConfig} {text : List Char} {b : Block}
    (member : b ∈ Block.forestPreorder (check config text).blocks) :
    b.opener ∈ parse text ∧ b.opener.mark? = some (.opens b.kind) :=
  (check_composed member).opener

theorem check_closer_mark {config : CheckConfig} {text : List Char} {b : Block}
    (member : b ∈ Block.forestPreorder (check config text).blocks) {closer : Statement}
    (closes : b.closer = some closer) :
    closer ∈ parse text ∧ closer.mark? = some (.closes b.kind) :=
  (check_composed member).closer closer closes

theorem check_openers (config : CheckConfig) (text : List Char) :
    (Block.forestPreorder (check config text).blocks).map Block.opener =
      (parse text).filter Statement.isOpener := by
  have balanced : (checkNesting {} text (parse text)).Balanced (parse text) :=
    checkNesting_balanced rfl text (parse text)
  have openers := balanced.openers
  rw [← Nesting.frames_forest, forestFrames, List.map_map] at openers
  rw [check_blocks_eq config {} text]
  exact openers

theorem check_trailing (config : CheckConfig) (text : List Char) :
    Trailing 0 (check config text).blocks := by
  rw [check_blocks_eq config {} text]
  have layered : ∀ high, Tiles 0 high (parse text) →
      Nesting.Layered (checkNesting {} text (parse text)).roots
        (checkNesting {} text (parse text)).stack high := by
    refine @Nesting.run_induction {} text
      (fun done n => ∀ high, Tiles 0 high done → Nesting.Layered n.roots n.stack high) rfl
      ?_ ?_ (parse text)
    · exact fun high order => Sealed.nil (Int.le_of_eq order)
    · intro done s n n' before step high tiles
      obtain ⟨middle, front, begins, long, stops⟩ := tiles_append.mp tiles
      subst begins stops
      exact step.layered (before _ front) long
  exact Nesting.unwind_trailing [] (layered _ (parse_divides text).tiles)
    (.closed (.nil (Int.le_refl _)))

theorem check_placed (config : CheckConfig) (text : List Char) :
    Placed (check config text).blocks :=
  (check_trailing config text).placed

end JqTemplate
