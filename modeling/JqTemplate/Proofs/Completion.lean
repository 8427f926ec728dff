import JqTemplate.Editor.Completion
import JqTemplate.Proofs.Offsets
import JqTemplate.Proofs.Span

namespace JqTemplate

def leadingRun (c : Char) (text : List Char) : Nat := (text.takeWhile fun d => d = c).length

def trailingRun (c : Char) (text : List Char) : Nat := (text.rtakeWhile fun d => d = c).length

section Runs

variable {c : Char} {k : Nat} {text front back : List Char}

theorem prefix_of_le_leadingRun (short : k ≤ leadingRun c text) : List.replicate k c <+: text := by
  have run : text.takeWhile (fun d => d = c) = List.replicate (leadingRun c text) c := by
    apply List.eq_replicate_of_mem
    intro d member
    simpa using List.mem_takeWhile_imp member
  have part : List.replicate k c <+: List.replicate (leadingRun c text) c := by
    rw [List.prefix_replicate_iff, List.length_replicate]
    exact ⟨short, rfl⟩
  rw [← run] at part
  exact part.trans (List.takeWhile_prefix _)

theorem leadingRun_reverse (c : Char) (text : List Char) :
    leadingRun c text.reverse = trailingRun c text := by
  simp [leadingRun, trailingRun, List.rtakeWhile]

theorem suffix_of_le_trailingRun (short : k ≤ trailingRun c text) :
    List.replicate k c <:+ text := by
  rw [← leadingRun_reverse] at short
  have part := prefix_of_le_leadingRun short
  rwa [← List.reverse_replicate, List.reverse_prefix] at part

theorem braceRun_eq (brace : Char) (text : List Char) :
    braceRun brace text = min 2 (leadingRun brace text) := by
  rw [braceRun, leadingRun, ← List.take_takeWhile, List.length_take]

theorem replacementRange_append (front back : List Char) :
    replacementRange (front ++ back) (front.length : Int) =
      (front.length - min 2 (trailingRun '{' front),
        front.length + min 2 (leadingRun '}' back)) := by
  have clamped : clampColumn (front ++ back) (front.length : Int) = front.length := by
    simp [clampColumn]
  simp only [replacementRange, braceContext, clamped, List.take_left, List.drop_left, braceRun_eq,
    leadingRun_reverse]

end Runs

namespace Editor

/-- Line `n` is shown as `front ++ back`, and the cursor stands between the two. The range holds the
cursor, stays on the line, and takes in the braces that meet at the cursor. -/
structure TakesBraces (text : List Char) (n : Nat) (front back : List Char) (range : Range) :
    Prop where
  lines : range.start.line = n ∧ range.stop.line = n
  around : range.start.column ≤ ColumnUnit.utf16.measure front ∧
    ColumnUnit.utf16.measure front ≤ range.stop.column
  shown : range.stop.column ≤ ColumnUnit.utf16.measure (front ++ back)
  before : offsetOf .utf16 text range.start.line range.start.column +
    min 2 (trailingRun '{' front) = offsetOf .utf16 text n (ColumnUnit.utf16.measure front)
  behind : offsetOf .utf16 text range.stop.line range.stop.column =
    offsetOf .utf16 text n (ColumnUnit.utf16.measure front) + min 2 (leadingRun '}' back)
  taken : slice text (offsetOf .utf16 text range.start.line range.start.column)
      (offsetOf .utf16 text range.stop.line range.stop.column) =
    List.replicate (min 2 (trailingRun '{' front)) '{' ++
      List.replicate (min 2 (leadingRun '}' back)) '}'

section Cursor

variable {text above line below : List Char} {n : Nat} {column : Int}

theorem completionRange_before {number : Int} (before : number < 0) :
    completionRange text number column = Range.origin := by
  rw [completionRange, offsetOf_before before, offsetOf_before before,
    lineAt_outside (.inl before)]
  rfl

theorem completionRange_beyond {number : Int} (beyond : lineCount text ≤ number) :
    completionRange text number column =
      ⟨editorPosition text text.length, editorPosition text text.length⟩ := by
  rw [completionRange, offsetOf_beyond beyond, offsetOf_beyond beyond,
    lineAt_outside (.inr beyond), Int.sub_self]
  rfl

theorem completionRange_cut {front back : List Char} (here : IsLine '\n' n above line below)
    (shown : dropReturn line = front ++ back)
    (cursor : boundaryAt .utf16 column (dropReturn line) = front.length) :
    completionRange (above ++ (line ++ below)) n column =
      ⟨editorPosition (above ++ (line ++ below))
          ((above.length + (front.length - min 2 (trailingRun '{' front)) : Nat) : Int),
        editorPosition (above ++ (line ++ below))
          ((above.length + (front.length + min 2 (leadingRun '}' back)) : Nat) : Int)⟩ := by
  have start : boundaryAt .codePoint 0 (dropReturn line) = 0 := by
    cases dropReturn line <;> rfl
  have reach : ((above.length + front.length : Nat) : Int) - above.length = front.length := by
    omega
  rw [completionRange, here.offsetOf_eq, here.offsetOf_eq, here.lineAt_eq, cursor, start,
    Nat.add_zero, reach, shown, replacementRange_append]

theorem slice_line {front part : List Char} (within : front ++ part <+: line) :
    slice (above ++ (line ++ below)) ((above.length + front.length : Nat) : Int)
      ((above.length + (front ++ part).length : Nat) : Int) = part := by
  obtain ⟨rest, rfl⟩ := within
  have text : above ++ (front ++ part ++ rest ++ below) =
      (above ++ front) ++ (part ++ (rest ++ below)) := by simp only [List.append_assoc]
  have stop : above.length + (front ++ part).length = (above ++ front).length + part.length := by
    simp only [List.length_append, Nat.add_assoc]
  rw [text, stop, ← List.length_append, Int.natCast_add, slice_between]

theorem takesBraces_of_parts {left right : List Char} {b a : Nat}
    (here : IsLine '\n' n above line below)
    (shown : dropReturn line = (left ++ List.replicate b '{') ++ (List.replicate a '}' ++ right))
    (cursor : boundaryAt .utf16 column (dropReturn line) = (left ++ List.replicate b '{').length)
    (before : min 2 (trailingRun '{' (left ++ List.replicate b '{')) = b)
    (behind : min 2 (leadingRun '}' (List.replicate a '}' ++ right)) = a) :
    TakesBraces (above ++ (line ++ below)) n (left ++ List.replicate b '{')
      (List.replicate a '}' ++ right) (completionRange (above ++ (line ++ below)) n column) := by
  have inLine := dropReturn_isPrefix line
  have upToFirst : left <+: dropReturn line := ⟨_, by rw [shown, List.append_assoc]⟩
  have upToCursor : left ++ List.replicate b '{' <+: dropReturn line := ⟨_, shown.symm⟩
  have upToLast : left ++ (List.replicate b '{' ++ List.replicate a '}') <+: dropReturn line :=
    ⟨right, by simp only [shown, List.append_assoc]⟩
  have first : (left ++ List.replicate b '{').length - b = left.length := by simp
  have last : (left ++ List.replicate b '{').length + a =
      (left ++ (List.replicate b '{' ++ List.replicate a '}')).length := by
    simp [Nat.add_assoc]
  have range : completionRange (above ++ (line ++ below)) n column =
      ⟨⟨n, ColumnUnit.utf16.measure left⟩, ⟨n, ColumnUnit.utf16.measure
        (left ++ (List.replicate b '{' ++ List.replicate a '}'))⟩⟩ := by
    rw [completionRange_cut here shown cursor, before, behind, first, last, editorPosition,
      editorPosition, Int.natCast_add, Int.natCast_add, here.ofOffset_eq (upToFirst.trans inLine),
      here.ofOffset_eq (upToLast.trans inLine)]
  rw [range]
  constructor
  · exact ⟨rfl, rfl⟩
  · constructor
    · exact measure_le_of_isPrefix _ (List.prefix_append _ _)
    · rw [← List.append_assoc]
      exact measure_le_of_isPrefix _ (List.prefix_append _ _)
  · rw [← shown]
    exact measure_le_of_isPrefix _ upToLast
  · rw [before, here.offsetOf_measure upToFirst, here.offsetOf_measure upToCursor,
      List.length_append, List.length_replicate, Nat.add_assoc]
  · rw [behind, here.offsetOf_measure upToLast, here.offsetOf_measure upToCursor, ← last,
      Nat.add_assoc]
  · rw [before, behind, here.offsetOf_measure upToFirst, here.offsetOf_measure upToLast]
    exact slice_line (upToLast.trans inLine)

theorem exists_takesBraces (here : IsLine '\n' n above line below) (column : Int) :
    ∃ front back, dropReturn line = front ++ back ∧
      SnapsTo .utf16 (dropReturn line) column (ColumnUnit.utf16.measure front) ∧
      TakesBraces (above ++ (line ++ below)) n front back
        (completionRange (above ++ (line ++ below)) n column) := by
  obtain ⟨front, atCursor⟩ : ∃ front,
      front = (dropReturn line).take (boundaryAt .utf16 column (dropReturn line)) := ⟨_, rfl⟩
  obtain ⟨back, shown⟩ : ∃ back, dropReturn line = front ++ back :=
    ⟨_, by rw [atCursor, List.take_append_drop]⟩
  have cursor : boundaryAt .utf16 column (dropReturn line) = front.length := by
    rw [atCursor, List.length_take, Nat.min_eq_left boundaryAt_le_length]
  have snaps := snapsTo_boundaryAt .utf16 (dropReturn line) column
  rw [← atCursor] at snaps
  refine ⟨front, back, shown, snaps, ?_⟩
  obtain ⟨left, opened⟩ := suffix_of_le_trailingRun (Nat.min_le_right 2 (trailingRun '{' front))
  obtain ⟨right, closed⟩ := prefix_of_le_leadingRun (Nat.min_le_right 2 (leadingRun '}' back))
  generalize before : min 2 (trailingRun '{' front) = b at opened
  generalize behind : min 2 (leadingRun '}' back) = a at closed
  subst opened closed
  exact takesBraces_of_parts here shown cursor before behind

end Cursor

/-- All completions at a place replace one range. On a line of the text it takes in the braces that
meet at the cursor, which is the given column moved to the next boundary that is shown; elsewhere it
is empty, at the nearer end of the text. -/
theorem completion_takes_braces (text : List Char) (line column : Int) :
    ∃ range, (completionItems text line column).map CompletionItem.range =
        List.replicate Snippet.catalog.length range ∧
      (line < 0 → range = Range.origin) ∧
      (lineCount text ≤ line →
        range = ⟨editorPosition text text.length, editorPosition text text.length⟩) ∧
      ∀ n : Nat, line = n → n < lineCount text →
        ∃ front back, lineAt text n = front ++ back ∧
          SnapsTo .utf16 (lineAt text n) column (ColumnUnit.utf16.measure front) ∧
          TakesBraces text n front back range := by
  refine ⟨completionRange text line column, ?_, completionRange_before, completionRange_beyond, ?_⟩
  · rw [completionItems, List.map_map, ← List.length_zipIdx (i := 0)]
    exact List.map_const
  · rintro n rfl inside
    obtain ⟨above, line, below, rfl, here⟩ := exists_isLine_of_lt_lineCount inside
    rw [here.lineAt_eq]
    exact exists_takesBraces here column

theorem braces_behind_pair_taken :
    let text := ['😀', '{', '{', '{', '}', '\r', '\n', 'x']
    let edits := fun line column => (completionItems text line column).map CompletionItem.range
    (-1 : Int) < 0 ∧ edits (-1) 5 = List.replicate 9 Range.origin ∧
      (lineCount text : Int) ≤ 2 ∧ edits 2 5 = List.replicate 9 ⟨⟨1, 1⟩, ⟨1, 1⟩⟩ ∧
      0 < lineCount text ∧ edits 0 5 = List.replicate 9 ⟨⟨0, 3⟩, ⟨0, 6⟩⟩ ∧
      ∃ front back, ['😀', '{', '{', '{', '}'] = front ++ back ∧
        SnapsTo .utf16 ['😀', '{', '{', '{', '}'] 5 (ColumnUnit.utf16.measure front) ∧
        TakesBraces text 0 front back ⟨⟨0, 3⟩, ⟨0, 6⟩⟩ := by
  intro text edits
  obtain ⟨first, sameFirst, before, _, _⟩ := completion_takes_braces text (-1) 5
  obtain ⟨last, sameLast, _, beyond, _⟩ := completion_takes_braces text 2 5
  obtain ⟨range, same, _, _, onLine⟩ := completion_takes_braces text 0 5
  have outside : (lineCount text : Int) ≤ 2 := by decide
  have inside : 0 < lineCount text := by decide
  have shown : lineAt text 0 = ['😀', '{', '{', '{', '}'] := by decide
  have edited : edits 0 5 = List.replicate 9 ⟨⟨0, 3⟩, ⟨0, 6⟩⟩ := by decide
  rw [before (by decide)] at sameFirst
  rw [beyond outside] at sameLast
  obtain rfl : (⟨⟨0, 3⟩, ⟨0, 6⟩⟩ : Range) = range :=
    (List.replicate_inj.mp (edited.symm.trans same)).2.resolve_left (by decide)
  obtain ⟨front, back, cut, snaps, taken⟩ := onLine 0 rfl inside
  rw [Int.natCast_zero, shown] at cut snaps
  exact ⟨by decide, sameFirst, outside, sameLast, inside, edited, front, back, cut, snaps, taken⟩

end Editor

end JqTemplate
