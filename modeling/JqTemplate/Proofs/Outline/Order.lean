import JqTemplate.Proofs.Around
import JqTemplate.Proofs.Geometry
import JqTemplate.Proofs.Outline.Listing

namespace JqTemplate.Editor

def Range.Within (inner outer : Range) : Prop :=
  inner.start.before outer.start = false ∧ outer.stop.before inner.stop = false

def Succeeding (row : List Symbol) : Prop :=
  row.Pairwise fun a b => b.range.start.before a.range.stop = false

/-- The symbol holds its selection and, behind it, its children, one after the other. -/
structure Symbol.Orderly (s : Symbol) : Prop where
  long : s.selection.start.before s.selection.stop = true
  selection : s.selection.Within s.range
  inside : ∀ c ∈ s.children, c.range.Within s.range
  behind : ∀ c ∈ s.children, c.range.start.before s.selection.stop = false
  row : Succeeding s.children

section Trees

variable {r r' r'' : Range}

theorem Range.Within.refl (r : Range) : r.Within r :=
  ⟨Position.before_irrefl _, Position.before_irrefl _⟩

theorem Range.Within.trans (first : r.Within r') (second : r'.Within r'') : r.Within r'' :=
  ⟨Position.before_ranks.trans _ _ _ second.1 first.1,
    Position.before_ranks.trans _ _ _ first.2 second.2⟩

theorem exists_top (row : List Symbol) (orderly : ∀ s ∈ Symbol.rowPreorder row, s.Orderly) :
    ∀ s ∈ Symbol.rowPreorder row, ∃ top ∈ row, s.range.Within top.range := by
  induction row using symbol_induction with
  | nil => simp [Symbol.rowPreorder]
  | cons first rest inside behind =>
    rw [Symbol.rowPreorder, Symbol.preorder_eq] at orderly ⊢
    intro s member
    rcases List.mem_append.mp member with here | later
    · rcases List.mem_cons.mp here with rfl | below
      · exact ⟨s, List.mem_cons_self, .refl _⟩
      · have own := orderly first (List.mem_append_left _ List.mem_cons_self)
        obtain ⟨child, among, held⟩ :=
          inside (fun t under => orderly t (List.mem_append_left _ (.tail _ under))) s below
        exact ⟨first, List.mem_cons_self, held.trans (own.inside child among)⟩
    · obtain ⟨top, among, held⟩ :=
        behind (fun t after => orderly t (List.mem_append_right _ after)) s later
      exact ⟨top, List.mem_cons_of_mem _ among, held⟩

theorem Symbol.Orderly.holds {s : Symbol} (own : s.Orderly)
    (below : ∀ t ∈ Symbol.rowPreorder s.children, t.Orderly) :
    ∀ t ∈ Symbol.rowPreorder s.children,
      t.range.Within s.range ∧ t.range.start.before s.selection.stop = false := by
  intro t under
  obtain ⟨child, among, held⟩ := exists_top s.children below t under
  exact ⟨held.trans (own.inside child among),
    Position.before_ranks.trans _ _ _ (own.behind child among) held.1⟩

theorem preorder_ascends (row : List Symbol) (succeeding : Succeeding row)
    (orderly : ∀ s ∈ Symbol.rowPreorder row, s.Orderly) :
    (Symbol.rowPreorder row).Pairwise fun a b =>
      a.selection.start.before b.selection.start = true := by
  induction row using symbol_induction with
  | nil => simp [Symbol.rowPreorder]
  | cons first rest inside behind =>
    rw [Symbol.rowPreorder, Symbol.preorder_eq] at orderly ⊢
    have own := orderly first (List.mem_append_left _ List.mem_cons_self)
    have below : ∀ s ∈ Symbol.rowPreorder first.children, s.Orderly :=
      fun s under => orderly s (List.mem_append_left _ (.tail _ under))
    have later : ∀ s ∈ Symbol.rowPreorder rest, s.Orderly :=
      fun s after => orderly s (List.mem_append_right _ after)
    obtain ⟨front, tail⟩ := List.pairwise_cons.mp succeeding
    refine List.pairwise_append.mpr
      ⟨List.pairwise_cons.mpr ⟨?_, inside own.row below⟩, behind tail later, ?_⟩
    · intro s under
      have starts := (own.holds below s under).2
      have selects := Position.before_ranks.trans _ _ _ starts (below s under).selection.1
      exact Position.before_of_before_of_not own.long selects
    · intro s here t after
      have among : s.Orderly ∧ s.range.Within first.range := by
        rcases List.mem_cons.mp here with rfl | under
        · exact ⟨own, .refl _⟩
        · exact ⟨below s under, (own.holds below s under).1⟩
      have stops : s.selection.start.before first.range.stop = true :=
        Position.before_of_before_of_not
          (Position.before_of_before_of_not among.1.long among.1.selection.2) among.2.2
      obtain ⟨top, child, held⟩ := exists_top rest later t after
      have starts := Position.before_ranks.trans _ _ _ (front top child) held.1
      have selects := Position.before_ranks.trans _ _ _ starts (later t after).selection.1
      exact Position.before_of_before_of_not stops selects

end Trees

section Rows

variable {config : CheckConfig} {text : List Char} {candidates : List Leaf} {row : List Block}
  {b : Block} {leaf : Leaf} {x y : Span}

theorem ofSpan_within (starts : y.start ≤ x.start) (stops : x.stop ≤ y.stop) :
    (Range.ofSpan text x).Within (Range.ofSpan text y) :=
  ⟨Position.ofOffset_mono starts, Position.ofOffset_mono stops⟩

/-- A leaf that a block does not take lies in front of it or behind it: it stands neither across one
of the block's directives nor between them. -/
theorem leaf_apart (member : b ∈ Block.forestPreorder (check config text).blocks)
    (read : leaf ∈ leaves (parse text)) (outside : within b.span leaf = false) :
    b.span.stop ≤ leaf.statement.span.start ∨ leaf.statement.span.stop ≤ b.span.start := by
  obtain ⟨opener, opening⟩ := check_opener_mark member
  have first := apart_of_mark opener opening read
  have long := (parse_inOrder text).1 _ (mem_leaves.mp read).1
  have opens := ((check_placed config text).blocks b member).opens
  have unheld : ¬ (b.span.start ≤ leaf.statement.span.start ∧
      leaf.statement.span.stop ≤ b.span.stop) := by
    rw [← contains_iff]
    exact Bool.eq_false_iff.mp outside
  cases closes : b.closer with
  | none => simpa [Block.span, closes] using first
  | some t =>
    obtain ⟨closer, closing⟩ := check_closer_mark member closes
    have last := apart_of_mark closer closing read
    have wide := (parse_inOrder text).1 t closer
    have starts : b.span.start = b.opener.span.start := rfl
    have stops : b.span.stop = t.span.stop := by simp [Block.span, closes]
    omega

theorem leaf_behind (member : b ∈ Block.forestPreorder (check config text).blocks)
    (read : leaf ∈ leaves (parse text)) (inside : within b.span leaf = true) :
    b.opener.span.stop ≤ leaf.statement.span.start := by
  obtain ⟨opener, opening⟩ := check_opener_mark member
  have first := apart_of_mark opener opening read
  have long := (parse_inOrder text).1 _ (mem_leaves.mp read).1
  have starts : b.span.start = b.opener.span.start := rfl
  have holds := (contains_iff.mp inside).1
  omega

theorem starts_behind (long : y.start < y.stop) (apart : x.stop ≤ y.start ∨ y.stop ≤ x.start)
    (starts : (Range.ofSpan text x).start.before (Range.ofSpan text y).start = true) :
    (Range.ofSpan text y).start.before (Range.ofSpan text x).stop = false := by
  rcases apart with front | behind
  · exact Position.ofOffset_mono front
  · have later : (Range.ofSpan text x).start.before (Range.ofSpan text y).start = false :=
      Position.ofOffset_mono (Int.le_trans (Int.le_of_lt long) behind)
    simp [later] at starts

/-- Whichever of the two starts first, the other starts no earlier than that one ends. -/
def Symbol.Clear (a b : Symbol) : Prop :=
  (a.range.start.before b.range.start = true → b.range.start.before a.range.stop = false) ∧
    (b.range.start.before a.range.start = true → a.range.start.before b.range.stop = false)

theorem clear_of_apart {s t : Symbol} (hs : s.range = Range.ofSpan text x)
    (ht : t.range = Range.ofSpan text y) (longX : x.start < x.stop) (longY : y.start < y.stop)
    (apart : x.stop ≤ y.start ∨ y.stop ≤ x.start) : s.Clear t := by
  rw [Symbol.Clear, hs, ht]
  exact ⟨starts_behind longY apart, starts_behind longX apart.symm⟩

theorem blockSymbol_range (text : List Char) (candidates : List Leaf) (b : Block) :
    (blockSymbol text candidates b).range = Range.ofSpan text b.span := by
  rw [blockSymbol_eq]

theorem rowOutline_succeeding (placed : Placed row)
    (among : ∀ b ∈ row, b ∈ Block.forestPreorder (check config text).blocks)
    (drawn : Drawn text row candidates) (read : ∀ leaf ∈ candidates, leaf ∈ leaves (parse text)) :
    Succeeding (rowOutline text candidates row) := by
  obtain ⟨statements, once⟩ := drawn.unclaimed
  have longBlock : ∀ b ∈ row, b.span.start < b.span.stop :=
    fun b member => (placed.blocks b (mem_forestPreorder_of_mem member)).long
  have longLeaf : ∀ leaf ∈ unclaimed row candidates,
      leaf.statement.span.start < leaf.statement.span.stop :=
    fun leaf left => (parse_inOrder text).1 _ (statements leaf left).1
  have clear : (rowSymbols text candidates row ++
      (unclaimed row candidates).map (leafSymbol text)).Pairwise Symbol.Clear := by
    refine pairwise_row ?_ ?_ ?_
    · refine placed.row.imp_of_mem fun {b c} hb hc order => ?_
      exact clear_of_apart (blockSymbol_range ..) (blockSymbol_range ..) (longBlock b hb)
        (longBlock c hc) (.inl order.2)
    · refine once.imp_of_mem fun {a b} ha hb other => ?_
      exact clear_of_apart rfl rfl (longLeaf a ha) (longLeaf b hb)
        ((parse_inOrder text).apart (statements a ha).1 (statements b hb).1 other)
    · intro b member leaf left
      obtain ⟨candidate, unheld⟩ := List.mem_filter.mp left
      have outside : ∀ c ∈ row, within c.span leaf = false := by simpa using unheld
      exact clear_of_apart (blockSymbol_range ..) rfl (longBlock b member) (longLeaf leaf left)
        (leaf_apart (among b member) (read leaf candidate) (outside b member))
  have sorted := ((byStart_perm _).pairwise_iff fun {_ _} h => ⟨h.2, h.1⟩).mpr clear
  exact (sorted.and (rowOutline_ascending placed drawn)).imp fun h => h.1.1 h.2

theorem opener_stop_le (member : b ∈ Block.forestPreorder (check config text).blocks) :
    b.opener.span.stop ≤ b.span.stop := by
  cases closes : b.closer with
  | none => simp [Block.span, closes]
  | some t =>
    have opener := check_opener_mark member
    have closer := check_closer_mark member closes
    have other : b.opener ≠ t := by
      intro same
      simp [same, closer] at opener
    have apart := (parse_inOrder text).apart opener.1 closer.1 other
    have wide := (parse_inOrder text).1 t closer.1
    have long := ((check_placed config text).blocks b member).long
    have starts : b.span.start = b.opener.span.start := rfl
    have stops : b.span.stop = t.span.stop := by simp [Block.span, closes]
    omega

theorem exists_span_of_child (member : b ∈ Block.forestPreorder (check config text).blocks)
    (closed : b.isClosed = true) (read : ∀ leaf ∈ candidates, leaf ∈ leaves (parse text)) :
    ∀ s ∈ rowOutline text (candidates.filter (within b.span)) b.children,
      ∃ span, s.range = Range.ofSpan text span ∧ b.opener.span.stop ≤ span.start ∧
        span.stop ≤ b.span.stop := by
  intro s child
  rw [rowOutline, (byStart_perm _).mem_iff, rowSymbols_eq_map] at child
  rcases List.mem_append.mp child with block | single
  · obtain ⟨c, among, rfl⟩ := List.mem_map.mp block
    have below := mem_forestPreorder_of_mem among
    have own := (check_placed config text).blocks b member
    exact ⟨c.span, blockSymbol_range .., own.inside c below, (own.closed closed c below).2⟩
  · obtain ⟨leaf, left, rfl⟩ := List.mem_map.mp single
    obtain ⟨candidate, inside⟩ := List.mem_filter.mp (List.mem_filter.mp left).1
    exact ⟨leaf.statement.span, rfl, leaf_behind member (read leaf candidate) inside,
      (contains_iff.mp inside).2⟩

theorem ofSpan_long {s : Statement} (read : s ∈ parse text) :
    (Range.ofSpan text s.span).start.before (Range.ofSpan text s.span).stop = true := by
  obtain ⟨i, j, span, less, inside⟩ := parse_between read
  rw [span]
  exact Position.ofOffset_before less inside

theorem leafSymbol_orderly (read : leaf ∈ leaves (parse text)) :
    (leafSymbol text leaf).Orderly where
  long := ofSpan_long (mem_leaves.mp read).1
  selection := .refl _
  inside := by simp [leafSymbol]
  behind := by simp [leafSymbol]
  row := .nil

theorem blockSymbol_orderly (member : b ∈ Block.forestPreorder (check config text).blocks)
    (closed : b.isClosed = true) (among : candidates.Sublist (leaves (parse text))) :
    (blockSymbol text candidates b).Orderly := by
  have placed := check_placed config text
  have opens := (placed.blocks b member).opens
  have starts : b.span.start = b.opener.span.start := rfl
  have chosen : (candidates.filter (within b.span)).Sublist (leaves (parse text)) :=
    List.filter_sublist.trans among
  have children := exists_span_of_child member closed fun leaf candidate => among.subset candidate
  rw [blockSymbol_eq]
  constructor
  · exact ofSpan_long (check_opener_mark member).1
  · exact ofSpan_within (Int.le_refl _) (opener_stop_le member)
  · intro s child
    obtain ⟨span, range, first, last⟩ := children s child
    rw [range]
    exact ofSpan_within (by omega) last
  · intro s child
    obtain ⟨span, range, first, _⟩ := children s child
    rw [range]
    exact Position.ofOffset_mono first
  · have held : ∀ c ∈ b.children, c ∈ Block.forestPreorder (check config text).blocks :=
      fun c child => mem_forestPreorder_of_inside member (mem_forestPreorder_of_mem child)
    exact rowOutline_succeeding (placed.below member) held
      ((check_drawn config text).below member chosen) chosen.subset

end Rows

section Text

variable {config : CheckConfig} {text : List Char}

theorem outline_succeeding (config : CheckConfig) (text : List Char) :
    Succeeding (outlineOf config text) :=
  rowOutline_succeeding (check_placed config text) (fun _ member => mem_forestPreorder_of_mem member)
    (check_drawn config text) fun _ read => read

theorem outline_orderly (closed : unclosedBlocks (check config text).blocks = []) :
    ∀ s ∈ Symbol.rowPreorder (outlineOf config text), s.Orderly := by
  intro s member
  rcases mem_rowOutline.mp member with nested | ⟨leaf, left, rfl⟩
  · rcases cases_of_mem_rowSymbols _ _ s nested with
      ⟨b, below, inner, among, rfl⟩ | ⟨leaf, read, rfl⟩
    · have shut : b.isClosed = true := by
        simpa using List.filter_eq_nil_iff.mp closed b below
      exact blockSymbol_orderly below shut among
    · exact leafSymbol_orderly read
  · exact leafSymbol_orderly (List.mem_filter.mp left).1

theorem statements_ascend (text : List Char) :
    ((parse text).filterMap (entryOf? text)).Pairwise fun e e' =>
      e.selection.start.before e'.selection.start = true := by
  rw [List.pairwise_filterMap]
  refine (parse_inOrder text).2.imp_of_mem fun {s t} hs ht behind e he e' he' => ?_
  obtain ⟨_, _, rfl⟩ := Option.map_eq_some_iff.mp he
  obtain ⟨_, _, rfl⟩ := Option.map_eq_some_iff.mp he'
  exact Position.before_of_before_of_not (ofSpan_long hs) (Position.ofOffset_mono behind)

/-- Where no block is left open, a walk over the outline lists the openers, bindings and templates
as the text has them, symbols side by side do not overlap, and each holds its selection and, behind
it, its children. -/
theorem outline_in_document_order (config : CheckConfig) (text : List Char)
    (closed : unclosedBlocks (check config text).blocks = []) :
    entries (outlineOf config text) = (parse text).filterMap (entryOf? text) ∧
      Succeeding (outlineOf config text) ∧
      ∀ s ∈ Symbol.rowPreorder (outlineOf config text), s.Orderly := by
  have orderly := outline_orderly closed
  have succeeding := outline_succeeding config text
  refine ⟨(entries_outlineOf config text).eq_of_pairwise ?_ ?_ (statements_ascend text), succeeding,
    orderly⟩
  · intro e e' _ _ first second
    simp [Position.before_ranks.asymm _ _ first] at second
  · rw [entries, List.pairwise_map]
    exact preorder_ascends _ succeeding orderly

def bindingBeforeBlock : List Char :=
  (marked "var x" ++ marked "if a" ++ marked "tmpl b" ++ marked "each c" ++ marked "/each" ++
    marked "/if").toList

theorem outline_of_binding_before_block :
    unclosedBlocks (check {} bindingBeforeBlock).blocks = [] ∧
      entries (outlineOf {} bindingBeforeBlock) =
        [⟨⟨⟨0, 0⟩, ⟨0, 9⟩⟩, .binding, "var x".toList⟩,
          ⟨⟨⟨0, 9⟩, ⟨0, 17⟩⟩, .conditional, "if a".toList⟩,
          ⟨⟨⟨0, 17⟩, ⟨0, 27⟩⟩, .template, "tmpl b".toList⟩,
          ⟨⟨⟨0, 27⟩, ⟨0, 37⟩⟩, .loop, "each c".toList⟩] ∧
      Succeeding (outlineOf {} bindingBeforeBlock) ∧
      ∀ s ∈ Symbol.rowPreorder (outlineOf {} bindingBeforeBlock), s.Orderly := by
  have blocks : (check {} bindingBeforeBlock).blocks =
      [⟨.conditional, ⟨.directive .openIf, ⟨9, 17⟩⟩, some ⟨.directive .closeIf, ⟨46, 53⟩⟩, [],
        [⟨.loop, ⟨.directive .openEach, ⟨27, 37⟩⟩, some ⟨.directive .closeEach, ⟨37, 46⟩⟩, [],
          []⟩]⟩] := rfl
  have closed : unclosedBlocks (check {} bindingBeforeBlock).blocks = [] := by
    simp [blocks, unclosedBlocks, Block.forestPreorder, Block.preorder, Block.isClosed]
  obtain ⟨listed, ordered⟩ := outline_in_document_order {} bindingBeforeBlock closed
  exact ⟨closed, listed.trans (by decide), ordered⟩

end Text

end JqTemplate.Editor
