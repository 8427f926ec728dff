import JqTemplate.Proofs.Lines
import Mathlib.Order.Bounds.Basic

/-! Offsets from lines and columns, and back. The offset of a position is the offset that it was the
position of, apart from the one behind a carriage return that ends its line: the line is shown
without it. The position of an offset made from any line and column has the column moved up to the
next character boundary that is shown. -/
namespace JqTemplate

section Boundaries

variable {unit : ColumnUnit} {line front back : List Char} {c d : Int} {i : Nat}

theorem boundaryAt_le_iff :
    boundaryAt unit c line ≤ i ↔ c ≤ unit.measure (line.take i) ∨ line.length ≤ i := by
  -- every character passed takes its width off the column
  induction line generalizing c i with
  | nil => simp [boundaryAt]
  | cons x rest ih =>
    unfold boundaryAt
    by_cases front : c ≤ 0
    · have reached : c ≤ unit.measure ((x :: rest).take i) := by omega
      simp [front, reached]
    · rw [if_neg front]
      cases i with
      | zero =>
        have absent : unit.measure ((x :: rest).take 0) = 0 := rfl
        rw [absent, List.length_cons]
        omega
      | succ i =>
        rw [List.take_succ_cons, ColumnUnit.measure_cons, List.length_cons, Nat.add_le_add_iff_right,
          ih]
        omega

theorem boundaryAt_le_length : boundaryAt unit c line ≤ line.length :=
  boundaryAt_le_iff.mpr (.inr (Nat.le_refl _))

theorem boundaryAt_mono (order : c ≤ d) : boundaryAt unit c line ≤ boundaryAt unit d line := by
  rcases boundaryAt_le_iff.mp (Nat.le_refl (boundaryAt unit d line)) with reached | whole
  · exact boundaryAt_le_iff.mpr (.inl (Int.le_trans order reached))
  · exact boundaryAt_le_iff.mpr (.inr whole)

theorem measure_take_lt (unit : ColumnUnit) (less : i < front.length) :
    unit.measure (front.take i) < unit.measure front := by
  have split := unit.measure_append (front.take i) (front.drop i)
  have long := unit.length_le_measure (front.drop i)
  rw [List.take_append_drop] at split
  rw [List.length_drop] at long
  omega

theorem measure_le_of_isPrefix (unit : ColumnUnit) (within : front <+: line) :
    unit.measure front ≤ unit.measure line := by
  obtain ⟨rest, rfl⟩ := within
  rw [ColumnUnit.measure_append]
  exact Nat.le_add_right _ _

theorem length_le_boundaryAt (behind : unit.measure front ≤ c) :
    front.length ≤ boundaryAt unit c (front ++ back) := by
  by_contra less
  rw [Nat.not_le] at less
  rcases boundaryAt_le_iff.mp (Nat.le_refl (boundaryAt unit c (front ++ back))) with reached | whole
  · have short := measure_take_lt unit less
    rw [List.take_append_of_le_length (Nat.le_of_lt less)] at reached
    omega
  · rw [List.length_append] at whole
    omega

theorem boundaryAt_measure (unit : ColumnUnit) (front back : List Char) :
    boundaryAt unit (unit.measure front) (front ++ back) = front.length := by
  apply Nat.le_antisymm
  · apply boundaryAt_le_iff.mpr
    rw [List.take_left]
    exact .inl (Int.le_refl _)
  · exact length_le_boundaryAt (Int.le_refl _)

theorem boundaryAt_behind (behind : unit.measure line ≤ c) :
    boundaryAt unit c line = line.length := by
  have long : line.length ≤ boundaryAt unit c (line ++ []) := length_le_boundaryAt behind
  rw [List.append_nil] at long
  exact Nat.le_antisymm boundaryAt_le_length long

end Boundaries

section There

variable {unit : ColumnUnit} {n : Nat} {above line below : List Char}

theorem IsLine.offsetOf_eq (h : IsLine '\n' n above line below) (column : Int) :
    offsetOf unit (above ++ (line ++ below)) n column =
      above.length + boundaryAt unit column (dropReturn line) := by
  have inside := h.lt_lineCount
  rw [offsetOf, if_neg (by omega), if_neg (by omega), Int.toNat_natCast, h.lineStart_eq, h.lineAt_eq]

/-- Behind the carriage return that ends a line. -/
def BehindReturn (text : List Char) (offset : Nat) : Prop :=
  0 < offset ∧ text[offset - 1]? = some '\r' ∧ (text[offset]? = some '\n' ∨ offset = text.length)

instance (text : List Char) (offset : Nat) : Decidable (BehindReturn text offset) :=
  inferInstanceAs (Decidable (_ ∧ _))

theorem behindReturn_append_iff (pre rest : List Char) :
    BehindReturn (pre ++ rest) pre.length ↔
      pre.getLast? = some '\r' ∧ ∀ c ∈ rest.head?, c = '\n' := by
  have next : (pre ++ rest)[pre.length]? = rest.head? := by
    rw [List.getElem?_append_right (Nat.le_refl _), Nat.sub_self, List.head?_eq_getElem?]
  have atEnd : rest.head? = some '\n' ∨ pre.length = (pre ++ rest).length ↔
      ∀ c ∈ rest.head?, c = '\n' := by
    cases rest <;> simp
  rw [BehindReturn, next, atEnd, List.getLast?_eq_getElem?]
  by_cases nonempty : 0 < pre.length
  · rw [List.getElem?_append_left (by omega)]
    simp [nonempty]
  · rw [List.getElem?_eq_none (by omega : pre.length ≤ pre.length - 1)]
    simp [nonempty]

theorem IsLine.behindReturn_iff {front back : List Char}
    (h : IsLine '\n' n above (front ++ back) below) :
    BehindReturn (above ++ front ++ (back ++ below)) (above ++ front).length ↔
      back = [] ∧ front.getLast? = some '\r' := by
  have last : (above ++ front).getLast? = some '\r' ↔ front.getLast? = some '\r' := by
    cases last : front.getLast? with
    | some c => simp [List.getLast?_append, last]
    | none =>
      rw [List.getLast?_append, last, Option.none_or]
      constructor
      · intro isReturn
        exact absurd (h.above_ends _ isReturn) (by decide)
      · nofun
  have next : (∀ c ∈ (back ++ below).head?, c = '\n') ↔ back = [] := by
    cases back with
    | nil => exact ⟨fun _ => rfl, fun _ => h.ends⟩
    | cons c back =>
      have plain := h.plain
      constructor
      · intro ends
        obtain rfl : c = '\n' := ends c rfl
        simp at plain
      · nofun
  rw [behindReturn_append_iff, last, next, and_comm]

/-- A part of a line is reached where it ends, but for a return that the whole line ends in. -/
theorem boundaryAt_dropReturn (unit : ColumnUnit) (front back : List Char) :
    boundaryAt unit (unit.measure front) (dropReturn (front ++ back)) =
      if back = [] ∧ front.getLast? = some '\r' then front.length - 1 else front.length := by
  by_cases more : back = []
  · subst more
    rw [List.append_nil]
    by_cases isReturn : front.getLast? = some '\r'
    · have short := measure_le_of_isPrefix unit front.dropLast_prefix
      rw [if_pos ⟨rfl, isReturn⟩, dropReturn, if_pos isReturn,
        boundaryAt_behind (Int.ofNat_le.mpr short), List.length_dropLast]
    · have whole := boundaryAt_measure unit front []
      rw [List.append_nil] at whole
      rw [if_neg (fun both => isReturn both.2), dropReturn, if_neg isReturn, whole]
  · rw [if_neg (fun both => more both.1), dropReturn_append more, boundaryAt_measure]

/-- A position leads back to the offset it belongs to, and to the offset in front of the carriage
return when it stands behind one that ends its line. -/
theorem offsetOf_ofOffset (unit : ColumnUnit) (text : List Char) {offset : Nat}
    (inside : offset ≤ text.length) :
    let place := Position.ofOffset unit text offset
    offsetOf unit text place.line place.column =
      if BehindReturn text offset then offset - 1 else offset := by
  intro place
  obtain ⟨pre, rest, rfl, rfl⟩ : ∃ pre rest, text = pre ++ rest ∧ offset = pre.length :=
    ⟨text.take offset, text.drop offset, by simp, by simp [inside]⟩
  obtain ⟨n, above, front, back, below, rfl, rfl, line⟩ := exists_isLine '\n' pre rest
  have placed : place = ⟨n, unit.measure front⟩ := by
    rw [← line.after_append (List.prefix_append front back)]
    exact Position.ofOffset_append unit _ _
  have there : offsetOf unit (above ++ front ++ (back ++ below)) n (unit.measure front) =
      above.length + boundaryAt unit (unit.measure front) (dropReturn (front ++ back)) := by
    have whole : above ++ front ++ (back ++ below) = above ++ ((front ++ back) ++ below) := by simp
    rw [whole, line.offsetOf_eq]
  rw [placed, there, boundaryAt_dropReturn]
  by_cases exception : back = [] ∧ front.getLast? = some '\r'
  · have nonempty : 0 < front.length := by
      apply List.length_pos_of_ne_nil
      rintro rfl
      cases exception.2
    rw [if_pos exception, if_pos (line.behindReturn_iff.mpr exception), List.length_append]
    omega
  · rw [if_neg exception, if_neg (mt line.behindReturn_iff.mp exception), List.length_append]

theorem offsets_around_return :
    let text := ['a', '\r', '\n', '😀']
    2 ≤ text.length ∧ 4 ≤ text.length ∧ BehindReturn text 2 ∧ ¬ BehindReturn text 4 ∧
      Position.ofOffset .utf16 text 2 = ⟨0, 2⟩ ∧ offsetOf .utf16 text 0 2 = 1 ∧
      Position.ofOffset .utf16 text 4 = ⟨1, 2⟩ ∧ offsetOf .utf16 text 1 2 = 4 := by
  intro text
  have short := offsetOf_ofOffset .utf16 text (by decide : 2 ≤ text.length)
  have back := offsetOf_ofOffset .utf16 text (by decide : 4 ≤ text.length)
  have exception : BehindReturn text 2 := by decide
  have rule : ¬ BehindReturn text 4 := by decide
  rw [if_pos exception] at short
  rw [if_neg rule] at back
  exact ⟨by decide, by decide, exception, rule, by decide, short, by decide, back⟩

end There

section Back

variable {unit : ColumnUnit} {text line front : List Char} {n : Nat} {above below : List Char}

/-- A column at which a character of the line begins, or at which the line ends. -/
def IsBoundary (unit : ColumnUnit) (line : List Char) (column : Nat) : Prop :=
  ∃ front, front <+: line ∧ unit.measure front = column

/-- The least boundary of a line at or beyond a column, or else the width of the line. -/
def SnapsTo (unit : ColumnUnit) (line : List Char) (column : Int) (boundary : Nat) : Prop :=
  IsLeast {k : Nat | IsBoundary unit line k ∧ column ≤ k} boundary ∨
    (∀ k, IsBoundary unit line k → (k : Int) < column) ∧ boundary = unit.measure line

theorem snapsTo_boundaryAt (unit : ColumnUnit) (line : List Char) (column : Int) :
    SnapsTo unit line column (unit.measure (line.take (boundaryAt unit column line))) := by
  by_cases reached : column ≤ unit.measure (line.take (boundaryAt unit column line))
  · refine .inl ⟨⟨⟨_, List.take_prefix _ _, rfl⟩, reached⟩, ?_⟩
    -- a boundary behind the column is cut off no earlier, so it is no less wide
    rintro _ ⟨⟨front, within, rfl⟩, behind⟩
    have cut := List.prefix_iff_eq_take.mp within
    have early : boundaryAt unit column line ≤ front.length := by
      apply boundaryAt_le_iff.mpr
      rw [← cut]
      exact .inl behind
    apply measure_le_of_isPrefix
    rw [cut]
    exact List.take_prefix_take_left early
  · -- the column lies beyond the whole line
    rcases boundaryAt_le_iff.mp (Nat.le_refl (boundaryAt unit column line)) with reached' | whole
    · contradiction
    · rw [List.take_of_length_le whole] at reached ⊢
      refine .inr ⟨?_, rfl⟩
      rintro _ ⟨front, within, rfl⟩
      have short := measure_le_of_isPrefix unit within
      omega

theorem IsLine.ofOffset_eq (h : IsLine '\n' n above line below) (within : front <+: line) :
    Position.ofOffset unit (above ++ (line ++ below)) (above.length + front.length) =
      ⟨n, unit.measure front⟩ := by
  obtain ⟨rest, split⟩ := within
  have whole : above ++ (line ++ below) = (above ++ front) ++ (rest ++ below) := by
    rw [List.append_assoc, ← List.append_assoc front, split]
  rw [whole, ← Int.natCast_add, ← List.length_append, Position.ofOffset_append]
  exact h.after_append ⟨rest, split⟩

theorem IsLine.offsetOf_measure (h : IsLine '\n' n above line below)
    (within : front <+: dropReturn line) :
    offsetOf unit (above ++ (line ++ below)) n (unit.measure front) =
      above.length + front.length := by
  obtain ⟨rest, split⟩ := within
  rw [h.offsetOf_eq, ← split, boundaryAt_measure]

theorem IsLine.ofOffset_offsetOf (h : IsLine '\n' n above line below) (column : Int) :
    Position.ofOffset unit (above ++ (line ++ below))
        (offsetOf unit (above ++ (line ++ below)) n column) =
      ⟨n, unit.measure ((dropReturn line).take (boundaryAt unit column (dropReturn line)))⟩ := by
  have short : boundaryAt unit column (dropReturn line) ≤ (dropReturn line).length :=
    boundaryAt_le_length
  have reach : ((dropReturn line).take (boundaryAt unit column (dropReturn line))).length =
      boundaryAt unit column (dropReturn line) := by
    rw [List.length_take, Nat.min_eq_left short]
  have within := (List.take_prefix (boundaryAt unit column (dropReturn line)) _).trans
    (dropReturn_isPrefix line)
  rw [h.offsetOf_eq, ← h.ofOffset_eq within, reach, Int.natCast_add]

theorem ofOffset_offsetOf (unit : ColumnUnit) {text : List Char} {n : Nat}
    (inside : n < lineCount text) (column : Int) :
    ∃ k, Position.ofOffset unit text (offsetOf unit text n column) = ⟨n, k⟩ ∧
      SnapsTo unit (lineAt text n) column k := by
  obtain ⟨above, line, below, rfl, here⟩ := exists_isLine_of_lt_lineCount inside
  rw [here.lineAt_eq]
  exact ⟨_, here.ofOffset_offsetOf column, snapsTo_boundaryAt unit _ column⟩

theorem IsLine.offsetOf_le (h : IsLine '\n' n above line below) (unit : ColumnUnit)
    (column : Int) :
    offsetOf unit (above ++ (line ++ below)) n column ≤ above.length + line.length := by
  have shown := (dropReturn_isPrefix line).length_le
  have short : boundaryAt unit column (dropReturn line) ≤ (dropReturn line).length :=
    boundaryAt_le_length
  rw [h.offsetOf_eq]
  omega

theorem offsetOf_before {line column : Int} (before : line < 0) :
    offsetOf unit text line column = 0 := if_pos before

theorem offsetOf_beyond {line column : Int} (beyond : lineCount text ≤ line) :
    offsetOf unit text line column = text.length := by
  have notBefore : ¬ line < 0 := by omega
  rw [offsetOf, if_neg notBefore, if_pos beyond]

theorem offsetOf_le_length (line column : Int) : offsetOf unit text line column ≤ text.length := by
  rcases Int.lt_or_le line 0 with before | number
  · rw [offsetOf_before before]
    exact Nat.zero_le _
  · rcases Int.lt_or_le line (lineCount text) with inside | beyond
    · obtain ⟨n, rfl⟩ := Int.eq_ofNat_of_zero_le number
      obtain ⟨above, line, below, rfl, here⟩ :=
        exists_isLine_of_lt_lineCount (Int.ofNat_lt.mp inside)
      have within := here.offsetOf_le unit column
      simp only [List.length_append]
      omega
    · rw [offsetOf_beyond beyond]

theorem offsetOf_mono_column {line column column' : Int} (order : column ≤ column') :
    offsetOf unit text line column ≤ offsetOf unit text line column' := by
  unfold offsetOf
  split
  · exact Nat.le_refl _
  · split
    · exact Nat.le_refl _
    · exact Nat.add_le_add_left (boundaryAt_mono order) _

theorem offsetOf_mono_line {line line' : Int} (less : line < line') (column column' : Int) :
    offsetOf unit text line column ≤ offsetOf unit text line' column' := by
  rcases Int.lt_or_le line 0 with before | number
  · rw [offsetOf_before before]
    exact Nat.zero_le _
  · rcases Int.lt_or_le line' (lineCount text) with inside | beyond
    · obtain ⟨n, rfl⟩ := Int.eq_ofNat_of_zero_le number
      obtain ⟨m, rfl⟩ := Int.eq_ofNat_of_zero_le (by omega : 0 ≤ line')
      have later : n < m := Int.ofNat_lt.mp less
      obtain ⟨above, line, below, rfl, here⟩ :=
        exists_isLine_of_lt_lineCount (by omega : n < lineCount text)
      have start : lineStart (above ++ (line ++ below)) m ≤
          offsetOf unit (above ++ (line ++ below)) m column' := by
        rw [offsetOf, if_neg (by omega), if_neg (by omega), Int.toNat_natCast]
        exact Nat.le_add_right _ _
      calc offsetOf unit (above ++ (line ++ below)) n column
          ≤ above.length + line.length := here.offsetOf_le unit column
        _ ≤ lineStart (above ++ (line ++ below)) m := Nat.le_of_lt (here.lt_lineStart later)
        _ ≤ offsetOf unit (above ++ (line ++ below)) m column' := start
    · rw [offsetOf_beyond beyond]
      exact offsetOf_le_length line column

/-- Any column of a line leads to the next boundary that is shown, or to the end of what is shown,
and offsets grow with lines and columns, whether the text has them or not. -/
theorem offsetOf_snaps_and_ascends (unit : ColumnUnit) (text : List Char) :
    (∀ (n : Nat) (column : Int), n < lineCount text →
      ∃ k, Position.ofOffset unit text (offsetOf unit text n column) = ⟨n, k⟩ ∧
        SnapsTo unit (lineAt text n) column k) ∧
    ∀ line column line' column' : Int, line < line' ∨ (line = line' ∧ column ≤ column') →
      offsetOf unit text line column ≤ offsetOf unit text line' column' := by
  refine ⟨fun n column inside => ofOffset_offsetOf unit inside column, ?_⟩
  intro line column line' column' order
  rcases order with earlier | ⟨rfl, order⟩
  · exact offsetOf_mono_line earlier column column'
  · exact offsetOf_mono_column order

theorem column_within_pair_snaps :
    let text := ['😀', '\r', '\n', 'x']
    0 < lineCount text ∧ lineAt text 0 = ['😀'] ∧
      Position.ofOffset .utf16 text (offsetOf .utf16 text 0 1) = ⟨0, 2⟩ ∧
      SnapsTo .utf16 ['😀'] 1 2 ∧ offsetOf .utf16 text (-1) 99 ≤ offsetOf .utf16 text 0 1 := by
  intro text
  obtain ⟨snaps, ascends⟩ := offsetOf_snaps_and_ascends .utf16 text
  have inside : 0 < lineCount text := by decide
  have shown : lineAt text 0 = ['😀'] := by decide
  obtain ⟨k, place, snapped⟩ := snaps 0 1 inside
  have placed : Position.ofOffset .utf16 text (offsetOf .utf16 text 0 1) = ⟨0, 2⟩ := by decide
  obtain rfl : k = 2 := congrArg Position.column (place.symm.trans placed)
  exact ⟨inside, shown, placed, shown ▸ snapped, ascends (-1) 99 0 1 (.inl (by decide))⟩

end Back

end JqTemplate
