import JqTemplate.Editor.Folding
import JqTemplate.Proofs.Around
import JqTemplate.Proofs.Geometry
import JqTemplate.Proofs.Lines

/-! Folds in the order of the text. The forest is walked from its end, and the folds are sorted by
the line on which they start and by nothing else. Of two blocks that start on one line and reach
beyond it, the later one lies inside the earlier, and the walk meets the outer one first, so that
the order of the openers comes back. -/
namespace JqTemplate

/-- The block is closed in front of the other one. -/
def Block.Ahead (b c : Block) : Prop := b.isClosed = true ∧ b.span.stop ≤ c.span.start

section Walks

variable {row : List Block}

theorem lastFirst_eq (b : Block) : b.lastFirst = b :: Block.forestLastFirst b.children := by
  cases b
  simp [Block.lastFirst]

theorem forestLastFirst_perm (row : List Block) :
    (Block.forestLastFirst row).Perm (Block.forestPreorder row) := by
  induction row using forest_induction with
  | nil => simp [Block.forestLastFirst, Block.forestPreorder]
  | cons b rest inside behind =>
    rw [Block.forestLastFirst, Block.forestPreorder, lastFirst_eq, preorder_eq]
    exact List.perm_append_comm.trans ((inside.cons b).append behind)

theorem Placed.preorder_pairwise (placed : Placed row) :
    (Block.forestPreorder row).Pairwise fun b c =>
      c ∈ Block.forestPreorder b.children ∨ b.Ahead c := by
  induction row using forest_induction with
  | nil => simp [Block.forestPreorder]
  | cons b rest inside behind =>
    rw [Block.forestPreorder, preorder_eq, List.cons_append, List.pairwise_cons,
      List.pairwise_append]
    refine ⟨?_, inside placed.inside, behind placed.behind, ?_⟩
    · intro c member
      rcases List.mem_append.mp member with below | later
      · exact .inl below
      · exact .inr (placed.before_behind later)
    · intro c below d later
      obtain ⟨closed, order⟩ := placed.before_behind later
      have own := placed.blocks b (mem_forestPreorder_cons.mpr (.inl rfl))
      obtain ⟨closed', last⟩ := own.closed closed c below
      exact .inr ⟨closed', Int.le_trans last order⟩

/-- The walk from the end meets blocks side by side in turn, but never an inner block before the one
around it. -/
theorem Placed.lastFirst_pairwise (placed : Placed row) :
    (Block.forestLastFirst row).Pairwise fun b c =>
      c ∈ Block.forestPreorder b.children ∨ c.Ahead b := by
  induction row using forest_induction with
  | nil => simp [Block.forestLastFirst]
  | cons b rest inside behind =>
    rw [Block.forestLastFirst, lastFirst_eq, List.pairwise_append, List.pairwise_cons]
    refine ⟨behind placed.behind, ⟨?_, inside placed.inside⟩, ?_⟩
    · intro c member
      exact .inl ((forestLastFirst_perm b.children).mem_iff.mp member)
    · intro c later d member
      obtain ⟨closed, order⟩ :=
        placed.before_behind ((forestLastFirst_perm rest).mem_iff.mp later)
      have own := placed.blocks b (mem_forestPreorder_cons.mpr (.inl rfl))
      rcases List.mem_cons.mp member with rfl | below
      · exact .inr ⟨closed, order⟩
      · obtain ⟨closed', last⟩ :=
          own.closed closed d ((forestLastFirst_perm b.children).mem_iff.mp below)
        exact .inr ⟨closed', Int.le_trans last order⟩

end Walks

namespace Editor

/-- The block is closed on a later line than it was opened on. -/
def crossesLines (text : List Char) (b : Block) : Bool :=
  b.closer.any fun closer => lineOf text b.opener.span.start < lineOf text closer.span.start

def markLines (text : List Char) (b : Block) : Fold :=
  ⟨lineOf text b.opener.span.start, lineOf text (b.closer.getD b.opener).span.start⟩

section Lines

variable {text : List Char} {i j : Int}

theorem lineOf_mono (order : i ≤ j) : lineOf text i ≤ lineOf text j := by
  have within : text.take i.toNat <+: text.take j.toNat :=
    List.take_prefix_take_left (Int.toNat_le_toNat order)
  simp only [lineOf, Position.ofOffset, Position.after_eq]
  exact within.sublist.count_le '\n'

theorem lt_of_lineOf_lt (less : lineOf text i < lineOf text j) : i < j := by
  by_contra order
  have lines : lineOf text j ≤ lineOf text i := lineOf_mono (Int.not_lt.mp order)
  omega

theorem filterMap_foldOf (blocks : List Block) :
    blocks.filterMap (foldOf? text) = (blocks.filter (crossesLines text)).map (markLines text) := by
  rw [← List.filterMap_eq_map, List.filterMap_filter]
  refine List.filterMap_congr fun b _ => ?_
  cases closes : b.closer with
  | none => simp [foldOf?, crossesLines, closes]
  | some closer => simp [foldOf?, crossesLines, markLines, closes]

end Lines

section Text

variable {config : CheckConfig} {text : List Char} {b c : Block}

theorem exists_of_crossesLines (crosses : crossesLines text b = true) :
    ∃ closer, b.closer = some closer ∧ markLines text b =
        ⟨lineOf text b.opener.span.start, lineOf text closer.span.start⟩ ∧
      lineOf text b.opener.span.start < lineOf text closer.span.start := by
  unfold crossesLines markLines at *
  cases closes : b.closer with
  | none => simp [closes] at crosses
  | some closer => exact ⟨closer, rfl, rfl, by simpa [closes] using crosses⟩

theorem stopLine_le_of_ahead (member : b ∈ Block.forestPreorder (check config text).blocks)
    (crosses : crossesLines text b = true) (ahead : b.Ahead c) :
    (markLines text b).stopLine ≤ (markLines text c).startLine := by
  obtain ⟨closer, closes, lines, _⟩ := exists_of_crossesLines crosses
  have read := (check_closer_mark member closes).1
  have long := (parse_inOrder text).1 closer read
  have stops : b.span.stop = closer.span.stop := by simp [Block.span, closes]
  have order := ahead.2
  rw [lines]
  apply lineOf_mono
  change closer.span.start ≤ c.span.start
  omega

theorem stopLine_le_of_inside (member : b ∈ Block.forestPreorder (check config text).blocks)
    (crosses : crossesLines text b = true) (crosses' : crossesLines text c = true)
    (inside : c ∈ Block.forestPreorder b.children) :
    (markLines text c).stopLine ≤ (markLines text b).stopLine := by
  obtain ⟨closer, closes, lines, _⟩ := exists_of_crossesLines crosses
  obtain ⟨closer', closes', lines', _⟩ := exists_of_crossesLines crosses'
  have among := mem_forestPreorder_of_inside member inside
  have long := (parse_inOrder text).1 closer' (check_closer_mark among closes').1
  have stops : c.span.stop = closer'.span.stop := by simp [Block.span, closes']
  have within := (check_trailing config text).before_closer b member closer closes c inside
  rw [lines, lines']
  apply lineOf_mono
  omega

theorem check_opener_starts (config : CheckConfig) (text : List Char) :
    (Block.forestPreorder (check config text).blocks).Pairwise fun b c =>
      b.opener.span.start < c.opener.span.start := by
  have order := (parse_inOrder text).sublist
    (List.filter_sublist (p := Statement.isOpener))
  rw [← check_openers config text] at order
  refine (List.pairwise_map.mp order.2).imp_of_mem fun {b c} member _ behind => ?_
  have long := order.1 b.opener (List.mem_map_of_mem member)
  omega

/-- Where the walk does not go back to an earlier line, it goes on in the order of the openers. -/
theorem walk_ascends (config : CheckConfig) (text : List Char) :
    ((Block.forestLastFirst (check config text).blocks).filter (crossesLines text)).Pairwise
      fun b c => (markLines text b).startLine ≤ (markLines text c).startLine →
        b.opener.span.start < c.opener.span.start := by
  have placed := check_placed config text
  have walked := forestLastFirst_perm (check config text).blocks
  refine (placed.lastFirst_pairwise.filter _).imp_of_mem fun {b c} hb hc order lines => ?_
  obtain ⟨member, _⟩ := List.mem_filter.mp hb
  obtain ⟨member', crosses⟩ := List.mem_filter.mp hc
  rcases order with inside | ahead
  · have own := placed.blocks b (walked.mem_iff.mp member)
    exact Int.lt_of_lt_of_le own.opens (own.inside c inside)
  · obtain ⟨closer, _, marks, less⟩ := exists_of_crossesLines crosses
    have stop := stopLine_le_of_ahead (walked.mem_iff.mp member') crosses ahead
    rw [marks] at stop lines
    simp only at stop lines
    omega

/-- Sorting by the first line alone brings the order of the openers back. -/
theorem folds_eq (config : CheckConfig) (text : List Char) :
    folds text (check config text).blocks =
      ((Block.forestPreorder (check config text).blocks).filter (crossesLines text)).map
        (markLines text) := by
  have ranks : Ranks fun c b : Block =>
      decide (((markLines text c).startLine : Int) < (markLines text b).startLine) :=
    Ranks.of_key fun b => ((markLines text b).startLine : Int)
  have ties := ranks.stableSort_ties ((walk_ascends config text).imp
    fun {b c} ascends _ notBefore => ascends (by simpa using notBefore))
  have walked := (forestLastFirst_perm (check config text).blocks).filter (crossesLines text)
  rw [folds, filterMap_foldOf, sortByKey, stableSort_map]
  congr 1
  refine ((stableSort_perm _ _).trans walked).eq_of_pairwise ?_ ?_
    ((check_opener_starts config text).filter _)
  · intro b c _ _ first second
    omega
  · refine ties.imp fun {b c} tie => ?_
    cases earlier : decide (((markLines text b).startLine : Int) < (markLines text c).startLine)
    · exact tie earlier
    · exact lt_of_lineOf_lt (Int.ofNat_lt.mp (of_decide_eq_true earlier))

theorem folds_nested (config : CheckConfig) (text : List Char) :
    (folds text (check config text).blocks).Pairwise fun f g =>
      f.startLine ≤ g.startLine ∧ (g.stopLine ≤ f.stopLine ∨ f.stopLine ≤ g.startLine) := by
  rw [folds_eq, List.pairwise_map]
  have order := (check_opener_starts config text).and (check_placed config text).preorder_pairwise
  refine (order.filter _).imp_of_mem fun {b c} hb hc ⟨starts, lies⟩ => ?_
  obtain ⟨member, crosses⟩ := List.mem_filter.mp hb
  obtain ⟨_, crosses'⟩ := List.mem_filter.mp hc
  refine ⟨lineOf_mono (Int.le_of_lt starts), ?_⟩
  rcases lies with inside | ahead
  · exact .inl (stopLine_le_of_inside member crosses crosses' inside)
  · exact .inr (stopLine_le_of_ahead member crosses ahead)

theorem not_inside_earlier (member : c ∈ Block.forestPreorder (check config text).blocks)
    (starts : b.opener.span.start < c.opener.span.start) :
    b ∉ Block.forestPreorder c.children := by
  intro inside
  have own := (check_placed config text).blocks c member
  have opens := own.opens
  have later := own.inside b inside
  have begins : b.span.start = b.opener.span.start := rfl
  omega

/-- There is one fold for each closed block that ends on a later line. They stand in the order of
the openers, a block in front of those inside it, and any two of them are nested or lie one behind
the other. -/
theorem folds_in_document_order (config : CheckConfig) (text : List Char) :
    folds text (check config text).blocks =
        ((Block.forestPreorder (check config text).blocks).filter (crossesLines text)).map
          (markLines text) ∧
      ((Block.forestPreorder (check config text).blocks).Pairwise fun b c =>
        b.opener.span.start < c.opener.span.start ∧ b ∉ Block.forestPreorder c.children) ∧
      (folds text (check config text).blocks).Pairwise fun f g =>
        f.startLine ≤ g.startLine ∧ (g.stopLine ≤ f.stopLine ∨ f.stopLine ≤ g.startLine) := by
  refine ⟨folds_eq config text, ?_, folds_nested config text⟩
  refine (check_opener_starts config text).imp_of_mem fun _ member starts => ?_
  exact ⟨starts, not_inside_earlier member starts⟩

example :
    let text := (marked "if a" ++ marked "if b" ++ marked "each c" ++ "\n" ++ marked "/each" ++
      "\n" ++ marked "/if").toList
    folds text (check {} text).blocks = [⟨0, 2⟩, ⟨0, 1⟩] := by cbv

end Text

end Editor

end JqTemplate
