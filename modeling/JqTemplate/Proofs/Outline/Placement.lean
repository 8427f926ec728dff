import JqTemplate.Proofs.Around
import JqTemplate.Proofs.Outline.Listing

/-! Where the bindings and templates of a text stand in its outline. Those inside a block go to the
innermost block around them when the root block above it is closed. A root block that is never
closed encloses nothing, so it hands nothing down, and what stands inside its descendants stays at
the root. -/
namespace JqTemplate

namespace Editor

variable {text : List Char}

structure Symbol.Shows (text : List Char) (b : Block) (s : Symbol) : Prop where
  entry : s.entry = blockEntry text b
  range : s.range = Range.ofSpan text b.span

/-- No closed root block has a block around the place, itself included. -/
def isLoose (forest : List Block) (place : Span) : Bool :=
  forest.all fun root => !(root.isClosed && root.preorder.any fun b => b.span.contains place)

section Symbols

def below (row : List Symbol) : List Symbol := row.flatMap fun s => Symbol.rowPreorder s.children

theorem entries_split (row : List Symbol) :
    (entries row).Perm (row.map Symbol.entry ++ (below row).map Symbol.entry) := by
  induction row with
  | nil => simp [entries, Symbol.rowPreorder, below]
  | cons s rest ih =>
    rw [entries_cons, List.map_cons, List.cons_append]
    refine List.Perm.cons _ ((ih.append_left _).trans ?_)
    simp only [below, List.flatMap_cons, List.map_append, entries]
    exact List.perm_append_comm_assoc _ _ _

theorem mem_rowPreorder_of_below {s : Symbol} {row : List Symbol} (member : s ∈ below row) :
    s ∈ Symbol.rowPreorder row := by
  obtain ⟨parent, among, inside⟩ := List.mem_flatMap.mp member
  rw [rowPreorder_eq_flatMap, List.mem_flatMap]
  exact ⟨parent, among, by simp [Symbol.preorder_eq, inside]⟩

theorem child_below {parent s : Symbol} (row : List Symbol) (among : parent ∈ Symbol.rowPreorder row)
    (child : s ∈ parent.children) : s ∈ below row := by
  induction row using symbol_induction with
  | nil => simp [Symbol.rowPreorder] at among
  | cons first rest inside behind =>
    rw [Symbol.rowPreorder, Symbol.preorder_eq] at among
    rw [below, List.flatMap_cons, List.mem_append]
    rcases List.mem_append.mp among with here | later
    · rcases List.mem_cons.mp here with rfl | nested
      · exact .inl (mem_rowPreorder_of_mem child)
      · exact .inl (mem_rowPreorder_of_below (inside nested))
    · exact .inr (behind later)

theorem not_child_of_mem {row : List Symbol} (once : (entries row).Nodup) {s parent : Symbol}
    (top : s ∈ row) (among : parent ∈ Symbol.rowPreorder row) : s ∉ parent.children := by
  intro child
  have split := (entries_split row).nodup_iff.mp once
  exact (List.nodup_append.mp split).2.2 _ (List.mem_map_of_mem top) _
    (List.mem_map_of_mem (child_below row among child)) rfl

end Symbols

/-- Under a closed root block each leaf is handed down to the innermost block around it. -/
theorem child_of_innermost (row : List Block) (placed : Placed row) (candidates : List Leaf)
    {leaf : Leaf} (candidate : leaf ∈ candidates) {root b : Block} (among : root ∈ row)
    (closed : root.isClosed = true) (member : b ∈ root.preorder)
    (holds : b.span.contains leaf.statement.span = true)
    (noneThere : ∀ c ∈ Block.forestPreorder b.children,
      c.span.contains leaf.statement.span ≠ true) :
    ∃ parent ∈ Symbol.rowPreorder (rowSymbols text candidates row),
      parent.Shows text b ∧ leafSymbol text leaf ∈ parent.children := by
  induction row using forest_induction generalizing candidates root with
  | nil => contradiction
  | cons first rest inside behind =>
    rw [rowSymbols, Symbol.rowPreorder, Symbol.preorder_eq]
    rcases List.mem_cons.mp among with rfl | later
    · have chosen : leaf ∈ candidates.filter (within root.span) :=
        List.mem_filter.mpr
          ⟨candidate, placed.holds_of_inside List.mem_cons_self closed member holds⟩
      rw [preorder_eq] at member
      rcases List.mem_cons.mp member with rfl | below
      · refine ⟨_, List.mem_append_left _ List.mem_cons_self, ?_, ?_⟩
        · rw [blockSymbol_eq]
          exact ⟨rfl, rfl⟩
        · rw [blockSymbol_eq]
          refine (byStart_perm _).mem_iff.mpr (List.mem_append_right _ ?_)
          refine List.mem_map_of_mem (List.mem_filter.mpr ⟨chosen, ?_⟩)
          have unheld : ∀ c ∈ b.children, within c.span leaf = false := fun c child =>
            Bool.eq_false_iff.mpr (noneThere c (mem_forestPreorder_of_mem child))
          simpa using unheld
      · obtain ⟨next, child, nested⟩ := exists_root_of_mem_forestPreorder below
        have own := placed.blocks root (mem_forestPreorder_cons.mpr (.inl rfl))
        have shut := (own.closed closed next (mem_forestPreorder_of_mem child)).1
        obtain ⟨parent, found, showing, holding⟩ :=
          inside placed.inside _ chosen child shut nested
        refine ⟨parent, List.mem_append_left _ (List.mem_cons_of_mem _ ?_), showing, holding⟩
        rw [blockSymbol_eq]
        exact mem_rowOutline.mpr (.inl found)
    · obtain ⟨parent, found, others⟩ := behind placed.behind candidates candidate later closed member
      exact ⟨parent, List.mem_append_right _ found, others⟩

section Text

variable {config : CheckConfig} {leaf : Leaf} {root : Block}

theorem isClosed_of_holds (member : root ∈ Block.forestPreorder (check config text).blocks)
    (read : leaf ∈ leaves (parse text))
    (holds : root.span.contains leaf.statement.span = true) : root.isClosed = true := by
  cases closer : root.closer with
  | some s => simp [Block.isClosed, closer]
  | none =>
    obtain ⟨opener, opening⟩ := check_opener_mark member
    have apart := apart_of_mark opener opening read
    have long := (parse_inOrder text).1 _ (mem_leaves.mp read).1
    have ends : root.span = root.opener.span := by simp [Block.span, closer]
    rw [ends, contains_iff] at holds
    omega

theorem isLoose_iff (read : leaf ∈ leaves (parse text)) :
    isLoose (check config text).blocks leaf.statement.span = true ↔
      ∀ root ∈ (check config text).blocks, root.span.contains leaf.statement.span ≠ true := by
  simp only [isLoose, List.all_eq_true, Bool.not_eq_true', Bool.and_eq_false_iff,
    List.any_eq_false]
  constructor
  · intro loose root among holds
    have closed := isClosed_of_holds (mem_forestPreorder_of_mem among) read holds
    rcases loose root among with unclosed | noneThere
    · rw [closed] at unclosed
      contradiction
    · exact noneThere root (by simp [preorder_eq]) holds
  · intro noneThere root among
    cases closed : root.isClosed with
    | false => exact .inl rfl
    | true =>
      refine .inr fun b inside holds => noneThere root among ?_
      exact (check_placed config text).holds_of_inside among closed inside holds

theorem outlineOf_entries (config : CheckConfig) (text : List Char) :
    ((outlineOf config text).map Symbol.entry).Perm
      ((check config text).blocks.map (blockEntry text) ++
        (unclaimed (check config text).blocks (leaves (parse text))).map (leafEntry text)) := by
  refine ((byStart_perm _).map _).trans (List.Perm.of_eq ?_)
  rw [List.map_append, rowSymbols_eq_map, List.map_map, List.map_map]
  congr 1
  refine List.map_congr_left fun b _ => ?_
  simp only [Function.comp_apply, blockSymbol_eq]
  rfl

/-- A binding or template inside a block stands directly under the innermost block around it if
the root block above that one is closed, and at the root of the outline if not. Besides such, the
root holds the root blocks and what lies inside no block. -/
theorem leaf_under_innermost_iff_closed (config : CheckConfig) (text : List Char) :
    (∀ leaf ∈ leaves (parse text),
      (∃ b ∈ Block.forestPreorder (check config text).blocks,
        b.span.contains leaf.statement.span = true) →
      ∃ b, InnermostAround (check config text).blocks leaf.statement.span b) ∧
    (∀ leaf ∈ leaves (parse text), ∀ b,
      InnermostAround (check config text).blocks leaf.statement.span b →
      ((∃ parent ∈ Symbol.rowPreorder (outlineOf config text),
          parent.Shows text b ∧ leafSymbol text leaf ∈ parent.children) ↔
        ∃ root ∈ (check config text).blocks, b ∈ root.preorder ∧ root.isClosed = true)) ∧
    ((outlineOf config text).map Symbol.entry).Perm
      ((check config text).blocks.map (blockEntry text) ++
        ((leaves (parse text)).filter fun leaf =>
          isLoose (check config text).blocks leaf.statement.span).map (leafEntry text)) := by
  have placed := check_placed config text
  refine ⟨?_, ?_, ?_⟩
  · intro leaf read held
    exact placed.exists_innermost ((parse_inOrder text).1 _ (mem_leaves.mp read).1) held
  · intro leaf read b innermost
    constructor
    · rintro ⟨parent, among, _, child⟩
      by_contra noneThere
      -- without a closed root block above it the leaf stands at the root, and so nowhere else
      have free : ∀ root ∈ (check config text).blocks,
          root.span.contains leaf.statement.span ≠ true := by
        intro root top holds
        have member := mem_forestPreorder_of_mem top
        have around := innermost.least root member holds
        exact noneThere ⟨root, top, placed.mem_preorder_of_contains top innermost.among around,
          isClosed_of_holds member read holds⟩
      have top : leafSymbol text leaf ∈ outlineOf config text := by
        refine (byStart_perm _).mem_iff.mpr (List.mem_append_right _ ?_)
        exact List.mem_map_of_mem (List.mem_filter.mpr ⟨read, by simpa [within] using free⟩)
      have once : (entries (outlineOf config text)).Nodup :=
        (entries_outlineOf config text).nodup_iff.mpr (selections_nodup text).of_map
      exact not_child_of_mem once top among child
    · rintro ⟨root, top, inside, closed⟩
      obtain ⟨parent, found, holding⟩ :
          ∃ parent ∈ Symbol.rowPreorder
            (rowSymbols text (leaves (parse text)) (check config text).blocks),
            parent.Shows text b ∧ leafSymbol text leaf ∈ parent.children :=
        child_of_innermost _ placed _ read top closed inside innermost.holds
          fun c below => innermost.none_inside placed below
      exact ⟨parent, mem_rowOutline.mpr (.inl found), holding⟩
  · have same : ((leaves (parse text)).filter fun leaf =>
        isLoose (check config text).blocks leaf.statement.span) =
          unclaimed (check config text).blocks (leaves (parse text)) := by
      refine List.filter_congr fun leaf read => ?_
      rw [Bool.eq_iff_iff, isLoose_iff read]
      simp [within]
    rw [same]
    exact outlineOf_entries config text

def bindingInLoop (rest : String) : List Char :=
  (marked "if a" ++ marked "each b" ++ marked "var x" ++ marked "/each" ++ rest).toList

def loopBlock : Block :=
  ⟨.loop, ⟨.directive .openEach, ⟨8, 18⟩⟩, some ⟨.directive .closeEach, ⟨27, 36⟩⟩, [], []⟩

def bindingLeaf : Leaf := ⟨⟨.directive .binding, ⟨18, 27⟩⟩, .binding⟩

theorem binding_under_closed_blocks :
    ∃ parent ∈ Symbol.rowPreorder (outlineOf {} (bindingInLoop (marked "/if"))),
      parent.Shows (bindingInLoop (marked "/if")) loopBlock ∧
      leafSymbol (bindingInLoop (marked "/if")) bindingLeaf ∈ parent.children := by
  have blocks : (check {} (bindingInLoop (marked "/if"))).blocks =
      [⟨.conditional, ⟨.directive .openIf, ⟨0, 8⟩⟩, some ⟨.directive .closeIf, ⟨36, 43⟩⟩, [],
        [loopBlock]⟩] := rfl
  refine ((leaf_under_innermost_iff_closed {} _).2.1 _ (by decide) _ ?_).mpr ?_
  · rw [blocks]
    exact ⟨by simp [Block.forestPreorder, Block.preorder, loopBlock], rfl, by decide⟩
  · rw [blocks]
    exact ⟨_, List.mem_cons_self, by simp [Block.forestPreorder, Block.preorder, loopBlock], rfl⟩

/-- With the outer block unclosed the same binding stands beside it, and not in the closed loop
around it. -/
theorem binding_under_unclosed_block_left_outside :
    ¬ ∀ (config : CheckConfig) (text : List Char),
      (∀ leaf ∈ leaves (parse text), ∀ b,
        InnermostAround (check config text).blocks leaf.statement.span b →
        ∃ parent ∈ Symbol.rowPreorder (outlineOf config text),
          parent.Shows text b ∧ leafSymbol text leaf ∈ parent.children) ∧
      ((outlineOf config text).map Symbol.entry).Perm
        ((check config text).blocks.map (blockEntry text) ++
          ((leaves (parse text)).filter fun leaf =>
            (Block.forestPreorder (check config text).blocks).all fun b =>
              !b.span.contains leaf.statement.span).map (leafEntry text)) := by
  intro nested
  have absent : ∀ parent ∈ Symbol.rowPreorder (outlineOf {} (bindingInLoop "")),
      leafEntry (bindingInLoop "") bindingLeaf ∉ parent.children.map Symbol.entry := by
    decide +kernel
  have blocks : (check {} (bindingInLoop "")).blocks =
      [⟨.conditional, ⟨.directive .openIf, ⟨0, 8⟩⟩, none, [], [loopBlock]⟩] := rfl
  have innermost :
      InnermostAround (check {} (bindingInLoop "")).blocks bindingLeaf.statement.span loopBlock := by
    rw [blocks]
    exact ⟨by simp [Block.forestPreorder, Block.preorder, loopBlock], rfl, by decide⟩
  obtain ⟨parent, among, _, child⟩ := (nested {} _).1 bindingLeaf (by decide) _ innermost
  have listed := List.mem_map_of_mem (f := Symbol.entry) child
  rw [leafSymbol_entry] at listed
  exact absent parent among listed

end Text

end Editor

end JqTemplate
