import JqTemplate.Editor.Outline
import JqTemplate.Proofs.Balance
import JqTemplate.Proofs.Layout
import JqTemplate.Proofs.Position

/-! The outline as a flat list. Each row hands the statements inside a block's span down to the
block and keeps the others, and blocks of a row do not overlap, so that at every level nothing is
lost and nothing is handed down twice. Rows are sorted by positions that are all different. -/
namespace JqTemplate

open scoped List

namespace Editor

mutual

def Symbol.preorder : Symbol → List Symbol
  | ⟨name, kind, range, selection, children⟩ =>
    ⟨name, kind, range, selection, children⟩ :: Symbol.rowPreorder children

def Symbol.rowPreorder : List Symbol → List Symbol
  | [] => []
  | s :: rest => Symbol.preorder s ++ Symbol.rowPreorder rest

end

/-- What a symbol tells of the statement that it stands for. -/
structure Entry where
  selection : Range
  kind : SymbolKind
  name : List Char
  deriving DecidableEq, Repr

def Symbol.entry (s : Symbol) : Entry := ⟨s.selection, s.kind, s.name⟩

def entries (symbols : List Symbol) : List Entry := (Symbol.rowPreorder symbols).map Symbol.entry

def SymbolKind.of? (s : Statement) : Option SymbolKind :=
  match s.keyword? with
  | some .openIf => some .conditional
  | some .openEach => some .loop
  | some .binding => some .binding
  | some .template => some .template
  | _ => none

def entryOf? (text : List Char) (s : Statement) : Option Entry :=
  (SymbolKind.of? s).map fun kind => ⟨Range.ofSpan text s.span, kind, symbolName text s⟩

def outlineOf (config : CheckConfig) (text : List Char) : List Symbol :=
  outline text (parse text) (check config text).blocks

def Ascending (row : List Symbol) : Prop :=
  row.Pairwise fun a b => a.range.start.before b.range.start = true

def blockEntry (text : List Char) (b : Block) : Entry :=
  ⟨Range.ofSpan text b.opener.span, SymbolKind.ofBlock b.kind, symbolName text b.opener⟩

def leafEntry (text : List Char) (leaf : Leaf) : Entry :=
  ⟨Range.ofSpan text leaf.statement.span, leaf.kind, symbolName text leaf.statement⟩

section Flat

variable {xs ys : List Symbol} {s : Symbol}

theorem rowPreorder_eq_flatMap (symbols : List Symbol) :
    Symbol.rowPreorder symbols = symbols.flatMap Symbol.preorder := by
  induction symbols with
  | nil => simp [Symbol.rowPreorder]
  | cons s rest ih => simp [Symbol.rowPreorder, ih]

theorem Symbol.preorder_eq (s : Symbol) : s.preorder = s :: rowPreorder s.children := by
  cases s
  simp [preorder]

theorem mem_rowPreorder_of_mem {s : Symbol} {row : List Symbol} (member : s ∈ row) :
    s ∈ Symbol.rowPreorder row := by
  rw [rowPreorder_eq_flatMap, List.mem_flatMap]
  exact ⟨s, member, by simp [Symbol.preorder_eq]⟩

theorem symbol_induction {motive : List Symbol → Prop} (nil : motive [])
    (cons : ∀ s rest, motive s.children → motive rest → motive (s :: rest)) :
    ∀ row, motive row
  | [] => nil
  | ⟨_, _, _, _, children⟩ :: rest =>
    cons _ rest (symbol_induction nil cons children) (symbol_induction nil cons rest)

theorem entries_cons (s : Symbol) (rest : List Symbol) :
    entries (s :: rest) = s.entry :: (entries s.children ++ entries rest) := by
  simp [entries, Symbol.rowPreorder, Symbol.preorder_eq]

theorem rowPreorder_append (xs ys : List Symbol) :
    Symbol.rowPreorder (xs ++ ys) = Symbol.rowPreorder xs ++ Symbol.rowPreorder ys := by
  simp [rowPreorder_eq_flatMap]

theorem entries_append (xs ys : List Symbol) : entries (xs ++ ys) = entries xs ++ entries ys := by
  simp [entries, rowPreorder_append]

theorem entries_perm (same : xs.Perm ys) : (entries xs).Perm (entries ys) := by
  simp only [entries, rowPreorder_eq_flatMap]
  exact (same.flatMap_right _).map _

theorem byStart_perm (symbols : List Symbol) : (byStart symbols).Perm symbols := stableSort_perm _ _

theorem byStart_ascending
    (distinct : xs.Pairwise fun a b => a.range.start ≠ b.range.start) :
    Ascending (byStart xs) := by
  have ranks : Ranks fun a b : Symbol => a.range.start.before b.range.start :=
    ⟨fun a b => Position.before_ranks.asymm _ _, fun a b c => Position.before_ranks.trans _ _ _⟩
  have ranked := ranks.stableSort_ranked xs
  have different := ((byStart_perm xs).pairwise_iff (fun {_ _} other => Ne.symm other)).mpr distinct
  exact (ranked.and different).imp fun h => Position.before_of_ne h.2 h.1

end Flat

section Rows

variable {text : List Char} {candidates : List Leaf} {row : List Block} {b : Block}

def rowOutline (text : List Char) (candidates : List Leaf) (row : List Block) : List Symbol :=
  byStart (rowSymbols text candidates row ++ (unclaimed row candidates).map (leafSymbol text))

def claimed (row : List Block) (candidates : List Leaf) : List Leaf :=
  candidates.filter fun leaf => row.any fun b => within b.span leaf

theorem rowSymbols_eq_map : rowSymbols text candidates row = row.map (blockSymbol text candidates) := by
  induction row with
  | nil => simp [rowSymbols]
  | cons b rest ih => simp [rowSymbols, ih]

theorem blockSymbol_eq (text : List Char) (candidates : List Leaf) (b : Block) :
    blockSymbol text candidates b =
      { name := symbolName text b.opener
        kind := SymbolKind.ofBlock b.kind
        range := Range.ofSpan text b.span
        selection := Range.ofSpan text b.opener.span
        children := rowOutline text (candidates.filter (within b.span)) b.children } := by
  cases b
  simp [blockSymbol, rowOutline]

theorem leafSymbol_entry (text : List Char) (leaf : Leaf) :
    (leafSymbol text leaf).entry = leafEntry text leaf := rfl

theorem entries_leafSymbols (leaves : List Leaf) :
    entries (leaves.map (leafSymbol text)) = leaves.map (leafEntry text) := by
  induction leaves with
  | nil => simp [entries, Symbol.rowPreorder]
  | cons leaf rest ih =>
    rw [List.map_cons, entries_cons, ih]
    simp [leafSymbol, Symbol.entry, leafEntry, entries, Symbol.rowPreorder]

/-- Spans that follow one another have no leaf in common. -/
theorem claimed_cons {rest : List Block} (successive : Successive (b :: rest))
    (long : ∀ leaf ∈ candidates, leaf.statement.span.start < leaf.statement.span.stop) :
    (claimed (b :: rest) candidates).Perm
      (candidates.filter (within b.span) ++ claimed rest candidates) := by
  have apart : ∀ leaf ∈ candidates, within b.span leaf = true →
      (rest.any fun c => within c.span leaf) = false := by
    intro leaf among here
    rw [List.any_eq_false]
    intro c behind there
    have order := ((List.pairwise_cons.mp successive).1 c behind).2
    have wide := long leaf among
    simp only [within, Span.contains, Bool.and_eq_true, decide_eq_true_eq] at here there
    omega
  clear successive long
  induction candidates with
  | nil => exact .refl _
  | cons leaf others ih =>
    have tail := ih fun l among => apart l (List.mem_cons_of_mem leaf among)
    have head := apart leaf List.mem_cons_self
    simp only [claimed, List.filter_cons, List.any_cons] at tail ⊢
    cases here : within b.span leaf with
    | true => simpa [head here] using tail.cons leaf
    | false =>
      cases there : rest.any fun c => within c.span leaf with
      | true => simpa using (tail.cons leaf).trans List.perm_middle.symm
      | false => simpa using tail

theorem rowOutline_entries
    (blocks : (entries (rowSymbols text candidates row)).Perm
      ((Block.forestPreorder row).map (blockEntry text) ++
        (claimed row candidates).map (leafEntry text))) :
    (entries (rowOutline text candidates row)).Perm
      ((Block.forestPreorder row).map (blockEntry text) ++ candidates.map (leafEntry text)) := by
  have split : (claimed row candidates ++ unclaimed row candidates).Perm candidates :=
    List.filter_append_perm _ _
  calc entries (rowOutline text candidates row)
    _ ~ entries (rowSymbols text candidates row) ++
          (unclaimed row candidates).map (leafEntry text) := by
      rw [← entries_leafSymbols, ← entries_append]
      exact entries_perm (byStart_perm _)
    _ ~ (Block.forestPreorder row).map (blockEntry text) ++
          ((claimed row candidates).map (leafEntry text) ++
            (unclaimed row candidates).map (leafEntry text)) := by
      rw [← List.append_assoc]
      exact blocks.append_right _
    _ ~ (Block.forestPreorder row).map (blockEntry text) ++ candidates.map (leafEntry text) := by
      rw [← List.map_append]
      exact (split.map _).append_left _

theorem rowSymbols_entries (row : List Block) (placed : Placed row) (candidates : List Leaf)
    (long : ∀ leaf ∈ candidates, leaf.statement.span.start < leaf.statement.span.stop) :
    (entries (rowSymbols text candidates row)).Perm
      ((Block.forestPreorder row).map (blockEntry text) ++
        (claimed row candidates).map (leafEntry text)) := by
  induction row using forest_induction generalizing candidates with
  | nil => simp [rowSymbols, entries, Symbol.rowPreorder, Block.forestPreorder, claimed]
  | cons b rest inside behind =>
    have chosen : ∀ leaf ∈ candidates.filter (within b.span),
        leaf.statement.span.start < leaf.statement.span.stop :=
      fun leaf member => long leaf (List.mem_filter.mp member).1
    have below := rowOutline_entries (inside placed.inside _ chosen)
    have later := behind placed.behind candidates long
    calc entries (rowSymbols text candidates (b :: rest))
      _ = blockEntry text b ::
            (entries (rowOutline text (candidates.filter (within b.span)) b.children) ++
              entries (rowSymbols text candidates rest)) := by
        rw [rowSymbols, entries_cons, blockSymbol_eq]
        rfl
      _ ~ blockEntry text b ::
            (((Block.forestPreorder b.children).map (blockEntry text) ++
                (candidates.filter (within b.span)).map (leafEntry text)) ++
              ((Block.forestPreorder rest).map (blockEntry text) ++
                (claimed rest candidates).map (leafEntry text))) :=
        (below.append later).cons _
      _ ~ (Block.forestPreorder (b :: rest)).map (blockEntry text) ++
            (candidates.filter (within b.span) ++ claimed rest candidates).map
              (leafEntry text) := by
        rw [Block.forestPreorder, preorder_eq]
        simp only [List.map_append, List.map_cons, List.cons_append, List.append_assoc]
        exact ((List.perm_append_comm_assoc _ _ _).append_left _).cons _
      _ ~ (Block.forestPreorder (b :: rest)).map (blockEntry text) ++
            (claimed (b :: rest) candidates).map (leafEntry text) :=
        ((claimed_cons placed.row long).symm.map _).append_left _

end Rows

end Editor

end JqTemplate
