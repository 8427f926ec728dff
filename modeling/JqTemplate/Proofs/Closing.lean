import JqTemplate.Proofs.Continuation
import JqTemplate.Proofs.Enclosed
import JqTemplate.Proofs.Grammar
import JqTemplate.Proofs.Layout
import JqTemplate.Proofs.Places

/-! Closing what is left open. The closers that are suggested for unclosed blocks, put behind the
text from the last block to the first, are read as closers and close the open blocks from the inside
out. Nothing else that is said of the text changes. -/
namespace JqTemplate

/-- The text ends with a directive, or with literal text in which no opening waits for its
terminator and whose last character cannot begin one. -/
def EndsPlain (text : List Char) : Prop :=
  ∀ s ∈ (parse text).getLast?, s.isContent = true →
    ¬ ['{', '{'] <:+: s.span.text text ∧ (s.span.text text).getLast? ≠ some '{'

/-- What is suggested for blocks that are left open, the last of them first. -/
def CheckResult.missingClosers (r : CheckResult) : List Char :=
  (r.diagnostics.filter fun d => d.code.isUnclosed).reverse.flatMap fun d =>
    d.suggestions.flatMap fun x => x.replacement.toList

def closersOf (kinds : List BlockKind) : List Char :=
  kinds.flatMap fun kind => (marked kind.closer.spelling).toList

def ClosersFor (kinds : List BlockKind) (closers : List Statement) : Prop :=
  List.Forall₂ (fun kind s => s.mark? = some (.closes kind)) kinds closers

section Seam

variable {a b tail : List Char} {s : Statement} {xs : List Statement}

theorem not_pairAt_of_plain (whole : ¬ ['{', '{'] <:+: tail) (ends : tail.getLast? ≠ some '{')
    {i : Nat} (inside : i < tail.length) : ¬ PairAt '{' (tail ++ b) i := by
  intro pair
  by_cases within : i + 2 ≤ tail.length
  · obtain ⟨before, behind, split, _⟩ := ((pairAt_append_left within).mp pair).split
    exact whole ⟨before, behind, by simp [split]⟩
  · have last : tail.length - 1 = i := by omega
    apply ends
    rw [List.getLast?_eq_getElem?, last, ← List.getElem?_append_left inside]
    exact pair.1

theorem Divides.split_last (h : Divides a (xs ++ [s])) :
    ∃ front, a = front ++ s.span.text a ∧ s.span.start = front.length ∧
      s.span.stop = a.length := by
  have begins := h.tiles.start_le_of_mem (s := s) (by simp)
  have long := h.tiles.inOrder.1 s (by simp)
  have stops : s.span.stop = a.length := by
    obtain ⟨_, _, _, _, ends⟩ := tiles_append.mp h.tiles
    exact ends
  have order : s.span.start ≤ a.length := by omega
  refine ⟨(⟨0, s.span.start⟩ : Span).text a, ?_, ?_, stops⟩
  · calc a
      _ = (⟨0, a.length⟩ : Span).text a := Span.text_whole.symm
      _ = (⟨0, s.span.start⟩ : Span).text a ++ (⟨s.span.start, a.length⟩ : Span).text a :=
        (Span.text_append (Int.le_refl 0) begins order).symm
      _ = (⟨0, s.span.start⟩ : Span).text a ++ s.span.text a := by rw [← stops]
  · rw [Span.text_length (Int.le_refl 0) begins order]
    omega

theorem EndsPlain.noOpening (plain : EndsPlain a) (last : s ∈ (parse a).getLast?)
    (content : s.isContent = true) : NoOpening (a ++ b) s.span := by
  obtain ⟨xs, parsed⟩ := List.getLast?_eq_some_iff.mp last
  obtain ⟨whole, ends⟩ := plain s last content
  obtain ⟨front, split, begins, stops⟩ := Divides.split_last (parsed ▸ parse_divides a)
  generalize s.span.text a = tail at whole ends split
  subst split
  intro i after before
  rw [stops, List.length_append] at before
  obtain ⟨j, rfl⟩ := Nat.exists_eq_add_of_le (show front.length ≤ i by omega)
  rw [List.append_assoc, pairAt_append_right]
  exact not_pairAt_of_plain whole ends (by omega)

end Seam

section Closers

theorem parse_closer (kind : BlockKind) :
    parse (marked kind.closer.spelling).toList =
      [⟨.directive kind.closer, ⟨0, (marked kind.closer.spelling).toList.length⟩⟩] := by
  cases kind <;> decide

theorem parse_closersOf (kinds : List BlockKind) :
    ClosersFor kinds (parse (closersOf kinds)) := by
  induction kinds with
  | nil => exact parse_nil ▸ .nil
  | cons kind rest ih =>
    have complete : ∃ d ∈ (parse (marked kind.closer.spelling).toList).getLast?,
        d.isContent = false := by simp [parse_closer, Statement.isContent]
    have whole : parse (closersOf (kind :: rest)) = _ :=
      parse_append (b := closersOf rest) (.inr complete)
    rw [whole, parse_closer]
    apply List.Forall₂.cons
    · cases kind <;> rfl
    · exact List.forall₂_map_right_iff.mpr ih

theorem parse_append_closersOf {text : List Char} (plain : EndsPlain text)
    (kinds : List BlockKind) :
    ∃ closers, ClosersFor kinds closers ∧
      parse (text ++ closersOf kinds) = parse text ++ closers := by
  have read := parse_closersOf kinds
  refine ⟨(parse (closersOf kinds)).map fun s => s.shift text.length, ?_, parse_join ?_ ?_⟩
  · exact List.forall₂_map_right_iff.mpr read
  · exact fun s last content => plain.noOpening last content
  · -- the first closer is a directive, so no two literal runs meet
    intro s _ t first both
    generalize parse (closersOf kinds) = closers at first read
    cases read with
    | nil => contradiction
    | cons mark _ =>
      obtain rfl := Option.some.inj first
      obtain ⟨k, form, _⟩ := Statement.keyword?_of_mark mark
      simp [Statement.isContent, form] at both

end Closers

namespace Nesting

variable {config : CheckConfig} {source : List Char} {n : Nesting} {kind : BlockKind}
  {kinds : List BlockKind} {s : Statement} {closers : List Statement}

theorem closeWith_kinds (isOpen : n.kinds = kind :: kinds) :
    (closeWith kind s n).kinds = kinds ∧ (closeWith kind s n).found = n.found := by
  obtain ⟨innermost, outer, stack, same, outside⟩ := List.map_eq_cons_iff.mp isOpen
  have below := attach_map OpenBlock.kind (fun _ _ => rfl) outer n.roots
    (innermost.sealed (some s))
  simp [closeWith, stack, same, Nesting.kinds, below, outside]

/-- Closers in the order of the open blocks close them all, and nothing is said. -/
theorem run_closers (structural : config.structural = true)
    (matching : ClosersFor kinds closers) (isOpen : n.kinds = kinds) :
    (closers.foldl (checkStep config source) n).kinds = [] ∧
      (closers.foldl (checkStep config source) n).found = n.found := by
  induction matching generalizing n with
  | nil => exact ⟨isOpen, rfl⟩
  | @cons kind s kinds closers mark _ ih =>
    have step : checkStep config source n s = closeWith kind s n := by
      rw [checkStep_of_mark structural mark, step_eq, mark]
    obtain ⟨closed, silent⟩ := closeWith_kinds (s := s) isOpen
    rw [List.foldl_cons, step, ← silent]
    exact ih closed

end Nesting

section Completion

variable {config : CheckConfig} {source : List Char} {statements : List Statement}

theorem diagnostics_filter_unclosed (structural : config.structural = true)
    (order : InOrder statements) :
    (checkStatements config source statements).diagnostics.filter (fun d => d.code.isUnclosed) =
      (checkNesting config source statements).stack.reverse.map Nesting.unclosed := by
  have balanced : (checkNesting config source statements).Balanced statements :=
    checkNesting_balanced structural source statements
  have run : (checkNesting config source statements).found.filter (fun d => d.code.isUnclosed) =
      [] := by
    apply List.filter_eq_nil_iff.mpr
    intro d member
    simp [(Nesting.mem_found member).2]
  have left := fun stack => filter_unclosed_eq_self stack (p := fun d => d.code.isUnclosed)
    unclosed_code
  have found : (findings config source statements).filter (fun d => d.code.isUnclosed) =
      (checkNesting config source statements).stack.reverse.map Nesting.unclosed := by
    simp only [findings, structural, if_true, Nesting.findings, List.filter_append, run, left,
      List.nil_append]
  rw [checkStatements, sortByKey, (Ranks.of_key Diagnostic.sortKey).filter_stableSort, found]
  exact stableSort_eq_self (balanced.unclosed_ranked order)

theorem missingClosers_eq (structural : config.structural = true) (text : List Char) :
    (check config text).missingClosers =
      closersOf (checkNesting config text (parse text)).kinds := by
  rw [CheckResult.missingClosers, check, diagnostics_filter_unclosed structural
    (parse_inOrder text), ← List.map_reverse, List.reverse_reverse]
  simp [closersOf, Nesting.kinds, List.flatMap_map, Nesting.unclosed]

theorem closed_of_kinds (structural : config.structural = true)
    (closed : (checkNesting config source statements).kinds = []) :
    (checkStatements config source statements).diagnostics =
        sortByKey Diagnostic.sortKey (checkNesting config source statements).found ∧
      ∀ b ∈ Block.forestPreorder (checkStatements config source statements).blocks,
        b.isClosed = true := by
  have stack : (checkNesting config source statements).stack = [] := List.map_eq_nil_iff.mp closed
  constructor
  · simp [checkStatements, findings, structural, Nesting.findings, stack]
  · intro b member
    have balanced : (checkNesting config source statements).Balanced statements :=
      checkNesting_balanced structural source statements
    have isOpen := balanced.settled.open_frames
    rw [stack] at isOpen
    have frame : b.frame ∈ (checkNesting config source statements).frames :=
      Nesting.frames_forest _ ▸ List.mem_map_of_mem member
    have closer : ¬ b.frame.closer = none := by
      simpa using List.filter_eq_nil_iff.mp isOpen b.frame frame
    exact Option.isSome_iff_ne_none.mpr closer

theorem run_completed (structural : config.structural = true) {text : List Char}
    (plain : EndsPlain text) {kinds : List BlockKind}
    (isOpen : (checkNesting config text (parse text)).kinds = kinds) :
    let completed := text ++ closersOf kinds
    (checkNesting config completed (parse completed)).kinds = [] ∧
      (checkNesting config completed (parse completed)).found =
        (checkNesting config text (parse text)).found := by
  intro completed
  -- which blocks are open is told by the statements, whatever text they are read against
  have same := Nesting.checkNesting_sameBlocks config config completed text (parse text)
  have before : (checkNesting config completed (parse text)).kinds = kinds := by
    rw [Nesting.kinds, same.1]
    exact isOpen
  obtain ⟨closers, matching, parsed⟩ := parse_append_closersOf plain kinds
  rw [parsed, Nesting.checkNesting_append, ← found_append config text (closersOf kinds)]
  exact Nesting.run_closers structural matching before

/-- The suggested closers put behind a text close its blocks, and what else is said of it stays. -/
theorem check_completed (config : CheckConfig) (structural : config.structural = true)
    (text : List Char) (plain : EndsPlain text) :
    let result := check config text
    let completed := check config (text ++ result.missingClosers)
    completed.diagnostics = result.diagnostics.filter (fun d => !d.code.isUnclosed) ∧
      ∀ b ∈ Block.forestPreorder completed.blocks, b.isClosed = true := by
  intro result completed
  have added : result.missingClosers = _ := missingClosers_eq structural text
  obtain ⟨closed, found⟩ := run_completed structural plain rfl
  rw [← added] at closed found
  obtain ⟨diagnostics, blocks⟩ := closed_of_kinds structural closed
  refine ⟨?_, blocks⟩
  calc completed.diagnostics
    _ = sortByKey Diagnostic.sortKey (checkNesting config text (parse text)).found :=
      found ▸ diagnostics
    _ = result.diagnostics.filter fun d => !d.code.isUnclosed :=
      (diagnostics_filter_closed config text).symm

theorem loop_in_conditional_completed :
    let text := (marked "if a" ++ marked "each b" ++ marked "/if" ++ "c \x7d").toList
    let completed := check {} (text ++ (check {} text).missingClosers)
    ({} : CheckConfig).structural = true ∧ EndsPlain text ∧
      (check {} text).missingClosers = (marked "/each" ++ marked "/if").toList ∧
      (check {} text).diagnostics.map (fun d => d.code) =
        [.unclosedIf, .unclosedEach, .mismatchedClose] ∧
      completed.diagnostics.map (fun d => d.code) = [.mismatchedClose] ∧
      ∀ b ∈ Block.forestPreorder completed.blocks, b.isClosed = true := by
  intro text completed
  have plain : EndsPlain text := by
    intro s last _
    have literal : (parse text).getLast? = some ⟨.content, ⟨25, 28⟩⟩ := by decide
    obtain rfl := Option.mem_unique last literal
    have own : (⟨25, 28⟩ : Span).text text = ['c', ' ', '}'] := by decide
    rw [own]
    decide
  obtain ⟨diagnostics, closed⟩ := check_completed {} rfl text plain
  refine ⟨rfl, plain, by decide, by decide, ?_, closed⟩
  rw [diagnostics]
  decide

/-- A brace at the end of the text takes the first brace of the closer. -/
example : let text := (marked "if a" ++ "\x7b").toList
    (check {} (text ++ (check {} text).missingClosers)).diagnostics.map (fun d => d.code) =
      [.unclosedIf, .unknownDirective] := by
  decide

end Completion

end JqTemplate
