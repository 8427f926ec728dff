import JqTemplate.Proofs.Outline

namespace JqTemplate.Editor

open scoped List

section Statements

variable {text : List Char} {s t : Statement}

theorem keyword_of_opens {kind : BlockKind} (mark : s.mark? = some (.opens kind)) :
    s.keyword? = some kind.opener := by
  obtain ⟨k, form, opens⟩ := Statement.keyword?_of_mark mark
  have keyword : s.keyword? = some k := by simp [Statement.keyword?, form]
  cases k with
  | openIf =>
    cases opens
    exact keyword
  | openEach =>
    cases opens
    exact keyword
  | _ => cases opens

theorem entryOf?_opener {b : Block} (mark : b.opener.mark? = some (.opens b.kind)) :
    entryOf? text b.opener = some (blockEntry text b) := by
  have keyword := keyword_of_opens mark
  unfold entryOf? blockEntry SymbolKind.of?
  rw [keyword]
  cases b.kind <;> rfl

theorem ofLeaf?_eq (s : Statement) :
    SymbolKind.ofLeaf? s = if s.isOpener then none else SymbolKind.of? s := by
  unfold SymbolKind.ofLeaf? SymbolKind.of? Statement.isOpener Statement.mark?
  cases s.keyword? with
  | none => rfl
  | some k => cases k <;> rfl

theorem mem_leaves {statements : List Statement} {leaf : Leaf} :
    leaf ∈ leaves statements ↔
      leaf.statement ∈ statements ∧ SymbolKind.ofLeaf? leaf.statement = some leaf.kind := by
  simp only [leaves, List.mem_filterMap, Option.map_eq_some_iff]
  constructor
  · rintro ⟨s, member, kind, found, rfl⟩
    exact ⟨member, found⟩
  · exact fun ⟨member, found⟩ => ⟨leaf.statement, member, leaf.kind, found, rfl⟩

theorem mark_of_leaf {kind : SymbolKind} (h : SymbolKind.ofLeaf? s = some kind) :
    s.mark? = none := by
  unfold SymbolKind.ofLeaf? at h
  unfold Statement.mark?
  cases keyword : s.keyword? with
  | none => rfl
  | some k => cases k <;> simp_all [Keyword.mark?]

theorem not_opener_of_leaf {kind : SymbolKind} (h : SymbolKind.ofLeaf? s = some kind) :
    s.isOpener = false := by
  simp [Statement.isOpener, mark_of_leaf h]

theorem leafEntries_eq (statements : List Statement) :
    (leaves statements).map (leafEntry text) =
      (statements.filter fun s => !s.isOpener).filterMap (entryOf? text) := by
  rw [leaves, List.map_filterMap, List.filterMap_filter]
  refine List.filterMap_congr fun s _ => ?_
  rw [ofLeaf?_eq, entryOf?]
  cases s.isOpener <;> simp [leafEntry, Function.comp_def]

theorem nodup_leaves {statements : List Statement} (nodup : statements.Nodup) :
    ((leaves statements).map Leaf.statement).Nodup := by
  have kept : (leaves statements).map Leaf.statement =
      statements.filter fun s => (SymbolKind.ofLeaf? s).isSome := by
    rw [leaves, List.map_filterMap, ← List.filterMap_eq_filter]
    refine List.filterMap_congr fun s _ => ?_
    cases found : SymbolKind.ofLeaf? s <;> simp [Option.guard, found]
  rw [kept]
  exact nodup.filter _

theorem parse_nodup (text : List Char) : (parse text).Nodup :=
  (parse_inOrder text).nodup_starts.of_map _

theorem parse_between (read : s ∈ parse text) :
    ∃ i j : Nat, s.span = ⟨i, j⟩ ∧ i < j ∧ j ≤ text.length := by
  have tiles := (parse_divides text).tiles
  have first := tiles.start_le_of_mem read
  have last := tiles.stop_le_of_mem read
  have long := (parse_inOrder text).1 s read
  obtain ⟨form, start, stop⟩ := s
  obtain ⟨i, rfl⟩ := Int.eq_ofNat_of_zero_le first
  obtain ⟨j, rfl⟩ := Int.eq_ofNat_of_zero_le (Int.le_trans first (Int.le_of_lt long))
  exact ⟨i, j, rfl, Int.ofNat_lt.mp long, Int.ofNat_le.mp last⟩

theorem start_ne (hs : s ∈ parse text) (ht : t ∈ parse text) (other : s ≠ t) :
    editorPosition text s.span.start ≠ editorPosition text t.span.start := by
  obtain ⟨i, _, spanS, _, _⟩ := parse_between hs
  obtain ⟨j, _, spanT, _, _⟩ := parse_between ht
  rw [spanS, spanT]
  refine Position.ofOffset_ne (fun same => other ?_) (by omega) (by omega)
  exact (parse_inOrder text).eq_of_start hs ht (by rw [spanS, spanT, same])

end Statements

section Rows

variable {text : List Char} {candidates : List Leaf} {row : List Block}

/-- A row and the leaves for it are made of different statements of the text. -/
structure Drawn (text : List Char) (row : List Block) (candidates : List Leaf) : Prop where
  openers : ∀ b ∈ Block.forestPreorder row, b.opener ∈ parse text ∧ b.opener.isOpener = true
  leaves : ∀ leaf ∈ candidates, leaf.statement ∈ parse text ∧ leaf.statement.isOpener = false
  once : (candidates.map Leaf.statement).Nodup

theorem Drawn.below {inner : List Leaf} {b : Block} (h : Drawn text row candidates)
    (member : b ∈ Block.forestPreorder row) (among : inner.Sublist candidates) :
    Drawn text b.children inner where
  openers c inside := h.openers c (mem_forestPreorder_of_inside member inside)
  leaves leaf chosen := h.leaves leaf (among.subset chosen)
  once := h.once.sublist (among.map _)

theorem check_drawn (config : CheckConfig) (text : List Char) :
    Drawn text (check config text).blocks (leaves (parse text)) where
  openers b member := by
    obtain ⟨read, mark⟩ := check_opener_mark member
    exact ⟨read, Statement.isOpener_of_mark mark⟩
  leaves leaf member := ⟨(mem_leaves.mp member).1, not_opener_of_leaf (mem_leaves.mp member).2⟩
  once := nodup_leaves (parse_nodup text)

theorem blockSymbol_start (b : Block) :
    (blockSymbol text candidates b).range.start = editorPosition text b.opener.span.start := by
  rw [blockSymbol_eq]
  rfl

theorem Drawn.unclaimed (h : Drawn text row candidates) :
    (∀ leaf ∈ unclaimed row candidates,
      leaf.statement ∈ parse text ∧ leaf.statement.isOpener = false) ∧
      (unclaimed row candidates).Pairwise fun a b => a.statement ≠ b.statement :=
  ⟨fun leaf left => h.leaves leaf (List.mem_filter.mp left).1,
    List.pairwise_map.mp (h.once.sublist (List.filter_sublist.map _))⟩

theorem pairwise_row {R : Symbol → Symbol → Prop}
    (blocks : row.Pairwise fun b c =>
      R (blockSymbol text candidates b) (blockSymbol text candidates c))
    (leaves : (unclaimed row candidates).Pairwise fun a b =>
      R (leafSymbol text a) (leafSymbol text b))
    (across : ∀ b ∈ row, ∀ leaf ∈ unclaimed row candidates,
      R (blockSymbol text candidates b) (leafSymbol text leaf)) :
    (rowSymbols text candidates row ++
      (unclaimed row candidates).map (leafSymbol text)).Pairwise R := by
  rw [rowSymbols_eq_map]
  refine List.pairwise_append.mpr ⟨List.pairwise_map.mpr blocks, List.pairwise_map.mpr leaves, ?_⟩
  intro s hs t ht
  obtain ⟨b, among, rfl⟩ := List.mem_map.mp hs
  obtain ⟨leaf, left, rfl⟩ := List.mem_map.mp ht
  exact across b among leaf left

theorem rowOutline_ascending (placed : Placed row) (drawn : Drawn text row candidates) :
    Ascending (rowOutline text candidates row) := by
  have opener : ∀ b ∈ row, b.opener ∈ parse text ∧ b.opener.isOpener = true :=
    fun b member => drawn.openers b (mem_forestPreorder_of_mem member)
  obtain ⟨read, once⟩ := drawn.unclaimed
  refine byStart_ascending (pairwise_row ?_ ?_ ?_)
  · refine placed.row.imp_of_mem fun {b c} hb hc order => ?_
    rw [blockSymbol_start, blockSymbol_start]
    refine start_ne (opener b hb).1 (opener c hc).1 fun same => ?_
    have long := (placed.blocks b (mem_forestPreorder_of_mem hb)).long
    have starts : b.span.start = c.span.start := congrArg (fun s => s.span.start) same
    have stops := order.2
    omega
  · exact once.imp_of_mem fun {a b} ha hb other => start_ne (read a ha).1 (read b hb).1 other
  · intro b among leaf left
    rw [blockSymbol_start]
    refine start_ne (opener b among).1 (read leaf left).1 fun same => ?_
    have plain := (read leaf left).2
    rw [← same, (opener b among).2] at plain
    contradiction

theorem mem_rowOutline {s : Symbol} :
    s ∈ Symbol.rowPreorder (rowOutline text candidates row) ↔
      s ∈ Symbol.rowPreorder (rowSymbols text candidates row) ∨
        ∃ leaf ∈ unclaimed row candidates, s = leafSymbol text leaf := by
  have leaves : ∀ xs : List Leaf,
      Symbol.rowPreorder (xs.map (leafSymbol text)) = xs.map (leafSymbol text) := by
    intro xs
    induction xs with
    | nil => simp [Symbol.rowPreorder]
    | cons leaf rest ih =>
      simp [Symbol.rowPreorder, Symbol.preorder_eq, ih, leafSymbol]
  rw [rowOutline, rowPreorder_eq_flatMap, ((byStart_perm _).flatMap_right _).mem_iff,
    ← rowPreorder_eq_flatMap, rowPreorder_append, List.mem_append, leaves, List.mem_map]
  simp only [eq_comm]

theorem cases_of_mem_rowSymbols (row : List Block) (candidates : List Leaf) :
    ∀ s ∈ Symbol.rowPreorder (rowSymbols text candidates row),
      (∃ b ∈ Block.forestPreorder row, ∃ inner, inner.Sublist candidates ∧
        s = blockSymbol text inner b) ∨ ∃ leaf ∈ candidates, s = leafSymbol text leaf := by
  induction row using forest_induction generalizing candidates with
  | nil => simp [rowSymbols, Symbol.rowPreorder]
  | cons b rest inside behind =>
    intro s member
    rw [rowSymbols, Symbol.rowPreorder, Symbol.preorder_eq, blockSymbol_eq] at member
    rcases List.mem_append.mp member with here | later
    · rcases List.mem_cons.mp here with rfl | below
      · refine .inl ⟨b, mem_forestPreorder_cons.mpr (.inl rfl), candidates, .refl _, ?_⟩
        rw [blockSymbol_eq]
      · have chosen : (candidates.filter (within b.span)).Sublist candidates := List.filter_sublist
        rcases mem_rowOutline.mp below with nested | ⟨leaf, left, rfl⟩
        · rcases inside _ s nested with ⟨c, under, inner, among, same⟩ | ⟨leaf, among, same⟩
          · exact .inl ⟨c, mem_forestPreorder_cons.mpr (.inr (.inl under)), inner,
              among.trans chosen, same⟩
          · exact .inr ⟨leaf, chosen.subset among, same⟩
        · exact .inr ⟨leaf, chosen.subset (List.mem_filter.mp left).1, rfl⟩
    · rcases behind candidates s later with ⟨c, under, others⟩ | leaf
      · exact .inl ⟨c, mem_forestPreorder_cons.mpr (.inr (.inr under)), others⟩
      · exact .inr leaf

theorem rows_ascending (row : List Block) (placed : Placed row) (candidates : List Leaf)
    (drawn : Drawn text row candidates) :
    ∀ s ∈ Symbol.rowPreorder (rowSymbols text candidates row), Ascending s.children := by
  intro s member
  rcases cases_of_mem_rowSymbols row candidates s member with
    ⟨b, below, inner, among, rfl⟩ | ⟨leaf, _, rfl⟩
  · rw [blockSymbol_eq]
    apply rowOutline_ascending (placed.below below)
    exact drawn.below below (List.filter_sublist.trans among)
  · exact .nil

end Rows

/-- A statement with a mark is no leaf, so it lies in front of every leaf or behind it. -/
theorem apart_of_mark {text : List Char} {s : Statement} {m : Mark} {leaf : Leaf}
    (among : s ∈ parse text) (mark : s.mark? = some m) (read : leaf ∈ leaves (parse text)) :
    s.span.stop ≤ leaf.statement.span.start ∨ leaf.statement.span.stop ≤ s.span.start := by
  obtain ⟨own, kind⟩ := mem_leaves.mp read
  refine (parse_inOrder text).apart among own fun same => ?_
  simp [same, mark_of_leaf kind] at mark

theorem entries_outlineOf (config : CheckConfig) (text : List Char) :
    (entries (outlineOf config text)).Perm ((parse text).filterMap (entryOf? text)) := by
  have long : ∀ leaf ∈ leaves (parse text),
      leaf.statement.span.start < leaf.statement.span.stop :=
    fun leaf member => (parse_inOrder text).1 _ (mem_leaves.mp member).1
  have blocks : (Block.forestPreorder (check config text).blocks).map (blockEntry text) =
      ((parse text).filter Statement.isOpener).filterMap (entryOf? text) := by
    rw [← check_openers config text, List.filterMap_map, ← List.filterMap_eq_map]
    refine List.filterMap_congr fun b member => ?_
    exact (entryOf?_opener (check_opener_mark member).2).symm
  calc entries (outlineOf config text)
    _ ~ (Block.forestPreorder (check config text).blocks).map (blockEntry text) ++
          (leaves (parse text)).map (leafEntry text) :=
      rowOutline_entries (rowSymbols_entries _ (check_placed config text) _ long)
    _ = ((parse text).filter Statement.isOpener ++
          (parse text).filter fun s => !s.isOpener).filterMap (entryOf? text) := by
      rw [blocks, leafEntries_eq, List.filterMap_append]
    _ ~ (parse text).filterMap (entryOf? text) := (List.filter_append_perm _ _).filterMap _

theorem selections_nodup (text : List Char) :
    (((parse text).filterMap (entryOf? text)).map Entry.selection).Nodup := by
  rw [List.Nodup, List.pairwise_map, List.pairwise_filterMap]
  refine (parse_nodup text).imp_of_mem fun {s t} hs ht other => ?_
  intro e he e' he' same
  obtain ⟨_, _, rfl⟩ := Option.map_eq_some_iff.mp he
  obtain ⟨_, _, rfl⟩ := Option.map_eq_some_iff.mp he'
  exact start_ne hs ht other (congrArg Range.start same)

/-- An outline lists the openers, bindings and templates of the text, each exactly once under its
own selection, and nothing else, and at every level the symbols start one after another. -/
theorem outline_lists_each_once (config : CheckConfig) (text : List Char) :
    (entries (outlineOf config text)).Perm ((parse text).filterMap (entryOf? text)) ∧
      (((parse text).filterMap (entryOf? text)).map Entry.selection).Nodup ∧
      Ascending (outlineOf config text) ∧
      ∀ s ∈ Symbol.rowPreorder (outlineOf config text), Ascending s.children := by
  have placed := check_placed config text
  have drawn := check_drawn config text
  refine ⟨entries_outlineOf config text, selections_nodup text, rowOutline_ascending placed drawn,
    fun s member => ?_⟩
  rcases mem_rowOutline.mp member with nested | ⟨leaf, _, rfl⟩
  · exact rows_ascending _ placed _ drawn s nested
  · exact .nil

end JqTemplate.Editor
