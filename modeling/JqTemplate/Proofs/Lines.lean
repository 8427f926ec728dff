import JqTemplate.Proofs.Position
import Mathlib.Data.List.DropRight
import Mathlib.Data.List.Induction

/-! Lines in their text. A line stands behind the lines above it and reaches to the next feed, and
every cut of a text falls into one line of it. From where a line stands follow its number, its
start, the line that is shown, and the positions in it. -/
namespace JqTemplate

def firstLine (text : List Char) : List Char := text.takeWhile fun c => c ≠ '\n'

/-- Line `n` of the text `above ++ (line ++ below)`, whose lines end at `feed`. -/
inductive IsLine {α : Type} (feed : α) : (n : Nat) → (above line below : List α) → Prop where
  | first {line below : List α} (plain : feed ∉ line) (ends : ∀ c ∈ below.head?, c = feed) :
      IsLine feed 0 [] line below
  | next {n : Nat} {head above line below : List α} (plain : feed ∉ head)
      (behind : IsLine feed n above line below) :
      IsLine feed (n + 1) (head ++ feed :: above) line below

/-- What lines take up in a text, each with the feed behind it. -/
def extent {α : Type} (lines : List (List α)) : Nat :=
  lines.foldr (fun line total => line.length + 1 + total) 0

theorem extent_cons {α : Type} (line : List α) (lines : List (List α)) :
    extent (line :: lines) = line.length + 1 + extent lines := rfl

theorem extent_append {α : Type} (xs ys : List (List α)) :
    extent (xs ++ ys) = extent xs + extent ys := by
  induction xs with
  | nil => exact (Nat.zero_add _).symm
  | cons line rest ih =>
    rw [List.cons_append, extent_cons, extent_cons, ih]
    omega

section Cuts

variable {α : Type} {feed : α}

theorem exists_first_line (feed : α) (text : List α) :
    ∃ line below, text = line ++ below ∧ feed ∉ line ∧ ∀ c ∈ below.head?, c = feed := by
  by_cases member : feed ∈ text
  · obtain ⟨line, more, rfl, plain⟩ := List.eq_append_cons_of_mem member
    exact ⟨line, feed :: more, rfl, plain, by simp⟩
  · exact ⟨text, [], by simp, member, by simp⟩

theorem exists_isLine (feed : α) (pre rest : List α) :
    ∃ n above front back below, pre = above ++ front ∧ rest = back ++ below ∧
      IsLine feed n above (front ++ back) below := by
  -- a character in front joins the first line, or is the feed of a line put before it
  induction pre with
  | nil =>
    obtain ⟨line, below, rfl, plain, ends⟩ := exists_first_line feed rest
    exact ⟨0, [], [], line, below, rfl, rfl, .first plain ends⟩
  | cons c pre ih =>
    obtain ⟨n, above, front, back, below, rfl, rfl, line⟩ := ih
    by_cases same : c = feed
    · subst same
      exact ⟨n + 1, c :: above, front, back, below, rfl, rfl, .next List.not_mem_nil line⟩
    · cases line with
      | first plain ends =>
        refine ⟨0, [], c :: front, back, below, rfl, rfl, .first ?_ ends⟩
        exact List.not_mem_cons_of_ne_of_not_mem (Ne.symm same) plain
      | @next n head above _ _ plain behind =>
        refine ⟨n + 1, c :: head ++ feed :: above, front, back, below, rfl, rfl, .next ?_ behind⟩
        exact List.not_mem_cons_of_ne_of_not_mem (Ne.symm same) plain

variable [BEq α] [LawfulBEq α]

theorem exists_isLine_of_lt {n : Nat} {text : List α} (inside : n < (text.splitOn feed).length) :
    ∃ above line below, text = above ++ (line ++ below) ∧ IsLine feed n above line below := by
  induction n generalizing text with
  | zero =>
    obtain ⟨line, below, rfl, plain, ends⟩ := exists_first_line feed text
    exact ⟨[], line, below, rfl, .first plain ends⟩
  | succ n ih =>
    have nonempty : feed ∈ text := by
      by_contra plain
      rw [List.splitOn_eq_singleton plain, List.length_singleton] at inside
      omega
    obtain ⟨head, more, rfl, plain⟩ := List.eq_append_cons_of_mem nonempty
    rw [List.splitOn_append_cons_self_of_not_mem plain, List.length_cons] at inside
    obtain ⟨above, line, below, rfl, behind⟩ := ih (Nat.lt_of_succ_lt_succ inside)
    exact ⟨head ++ feed :: above, line, below, by simp, .next plain behind⟩

end Cuts

namespace IsLine

variable {α : Type} {feed : α} {n : Nat} {above line below : List α}

theorem plain (h : IsLine feed n above line below) : feed ∉ line := by
  induction h with
  | first plain _ => exact plain
  | next _ _ ih => exact ih

theorem ends (h : IsLine feed n above line below) : ∀ c ∈ below.head?, c = feed := by
  induction h with
  | first _ ends => exact ends
  | next _ _ ih => exact ih

theorem above_ends (h : IsLine feed n above line below) : ∀ c ∈ above.getLast?, c = feed := by
  induction h with
  | first => simp
  | @next n head above line below _ _ ih =>
    rw [List.getLast?_append_of_ne_nil head (List.cons_ne_nil feed above)]
    cases last : above.getLast? with
    | none => simp [List.getLast?_cons, last]
    | some c => simpa [List.getLast?_cons, last] using ih

variable [BEq α] [LawfulBEq α]

theorem splitOn_eq (h : IsLine feed n above line below) :
    ∃ earlier later, (above ++ (line ++ below)).splitOn feed = earlier ++ line :: later ∧
      earlier.length = n ∧ extent earlier = above.length := by
  induction h with
  | @first line below plain ends =>
    refine ⟨[], ?_⟩
    cases below with
    | nil => exact ⟨[], by simp [List.splitOn_eq_singleton plain], rfl, rfl⟩
    | cons c rest =>
      obtain rfl : c = feed := ends c rfl
      exact ⟨rest.splitOn c, List.splitOn_append_cons_self_of_not_mem plain rest, rfl, rfl⟩
  | @next n head above line below plain _ ih =>
    obtain ⟨earlier, later, lines, number, long⟩ := ih
    refine ⟨head :: earlier, later, ?_, by simp [number], ?_⟩
    · rw [List.append_assoc, List.cons_append, List.splitOn_append_cons_self_of_not_mem plain,
        lines, List.cons_append]
    · rw [extent_cons, long, List.length_append, List.length_cons]
      omega

theorem getElem?_splitOn (h : IsLine feed n above line below) :
    ((above ++ (line ++ below)).splitOn feed)[n]? = some line := by
  obtain ⟨earlier, later, lines, number, _⟩ := h.splitOn_eq
  rw [lines, ← number, List.getElem?_append_right (Nat.le_refl _), Nat.sub_self,
    List.getElem?_cons_zero]

theorem extent_take (h : IsLine feed n above line below) :
    extent (((above ++ (line ++ below)).splitOn feed).take n) = above.length := by
  obtain ⟨earlier, later, lines, number, long⟩ := h.splitOn_eq
  rw [lines, ← number, List.take_left, long]

end IsLine

theorem firstLine_append_of_plain {m : List Char} (plain : '\n' ∉ m) (post : List Char) :
    firstLine (m ++ post) = m ++ firstLine post := by
  apply List.takeWhile_append_of_pos
  intro c member
  simpa using fun same : c = '\n' => plain (same ▸ member)

theorem firstLine_of_ends {below : List Char} (ends : ∀ c ∈ below.head?, c = '\n') :
    firstLine below = [] := by
  cases below with
  | nil => rfl
  | cons c rest =>
    obtain rfl : c = '\n' := ends c rfl
    rfl

theorem splitLines_eq_splitOn (text : List Char) : splitLines text = text.splitOn '\n' := by
  induction text with
  | nil => rfl
  | cons c rest ih =>
    unfold splitLines at ih ⊢
    rw [Text.splitOn, ih, List.splitOn_cons_eq_if_modifyHead]
    by_cases feed : c = '\n'
    · simp [feed]
    · cases lines : rest.splitOn '\n' with
      | nil => exact absurd lines (List.splitOn_ne_nil '\n' rest)
      | cons first more => simp [feed]

theorem dropReturn_isPrefix (line : List Char) : dropReturn line <+: line := by
  unfold dropReturn
  split
  · exact List.dropLast_prefix line
  · exact List.prefix_refl line

theorem dropReturn_append {front rest : List Char} (more : rest ≠ []) :
    dropReturn (front ++ rest) = front ++ dropReturn rest := by
  unfold dropReturn
  have last : (front ++ rest).getLast? = rest.getLast? := by
    rw [List.getLast?_append, List.getLast?_eq_some_getLast more, Option.some_or]
  rw [last]
  split
  · exact List.dropLast_append_of_ne_nil more
  · rfl

namespace Position

variable {p : Position} {m : List Char} {unit : ColumnUnit}

theorem advance_plain {c : Char} (other : c ≠ '\n') :
    p.advance unit c = ⟨p.line, p.column + unit.width c⟩ := by
  rw [advance, if_neg other]

theorem foldl_advance_plain (plain : '\n' ∉ m) :
    m.foldl (advance unit) p = ⟨p.line, p.column + unit.measure m⟩ := by
  induction m generalizing p with
  | nil => rfl
  | cons c rest ih =>
    rw [List.mem_cons, not_or] at plain
    rw [List.foldl_cons, ih plain.2, advance_plain (Ne.symm plain.1), ColumnUnit.measure_cons,
      Nat.add_assoc]

theorem line_le_foldl_advance : p.line ≤ (m.foldl (advance unit) p).line := by
  induction m generalizing p with
  | nil => exact Nat.le_refl _
  | cons c rest ih =>
    have step : p.line ≤ (p.advance unit c).line := by
      unfold advance
      split
      · exact Nat.le_succ _
      · exact Nat.le_refl _
    exact Nat.le_trans step ih

theorem line_lt_foldl_advance (feed : '\n' ∈ m) :
    p.line < (m.foldl (advance unit) p).line := by
  induction m generalizing p with
  | nil => contradiction
  | cons c rest ih =>
    rcases List.mem_cons.mp feed with rfl | later
    · have below : (p.advance unit '\n').line ≤ (rest.foldl (advance unit) _).line :=
        line_le_foldl_advance
      exact Nat.lt_of_lt_of_le (Nat.lt_succ_self p.line) below
    · have step : p.line ≤ (p.advance unit c).line := line_le_foldl_advance (m := [c])
      exact Nat.lt_of_le_of_lt step (ih later)

theorem ofOffset_append (unit : ColumnUnit) (pre rest : List Char) :
    ofOffset unit (pre ++ rest) pre.length = after unit pre := by
  rw [ofOffset, Int.toNat_natCast, List.take_left]

/-- A position as it is counted from the text in front of it: the feeds, and what has been written
since the last of them. -/
theorem after_eq (unit : ColumnUnit) (pre : List Char) :
    after unit pre = ⟨pre.count '\n', unit.measure (pre.rtakeWhile fun c => c ≠ '\n')⟩ := by
  induction pre using List.reverseRecOn with
  | nil => rfl
  | append_singleton pre c ih =>
    have step : after unit (pre ++ [c]) = (after unit pre).advance unit c := by
      rw [after, List.foldl_append]
      rfl
    rw [step, ih, List.rtakeWhile_concat, List.count_append]
    by_cases feed : c = '\n'
    · subst feed
      rfl
    · rw [advance_plain feed, if_pos (by simpa using feed), ColumnUnit.measure_append,
        List.count_singleton, if_neg (by simpa using feed)]
      rfl

end Position

namespace IsLine

variable {n : Nat} {above line below : List Char}

theorem foldl_advance (h : IsLine '\n' n above line below) (unit : ColumnUnit) (k : Nat) :
    above.foldl (Position.advance unit) ⟨k, 0⟩ = ⟨k + n, 0⟩ := by
  induction h generalizing k with
  | first => rfl
  | @next n head above _ _ plain _ ih =>
    have feed : (⟨k, unit.measure head⟩ : Position).advance unit '\n' = ⟨k + 1, 0⟩ := rfl
    rw [List.foldl_append, Position.foldl_advance_plain plain, List.foldl_cons, Nat.zero_add, feed,
      ih, Nat.add_assoc, Nat.add_comm 1 n]

theorem after_append {unit : ColumnUnit} {front : List Char} (h : IsLine '\n' n above line below)
    (within : front <+: line) :
    Position.after unit (above ++ front) = ⟨n, unit.measure front⟩ := by
  have plain : '\n' ∉ front := fun feed => h.plain (within.subset feed)
  have start := h.foldl_advance unit 0
  rw [Nat.zero_add] at start
  rw [Position.after, List.foldl_append, Position.zero, start, Position.foldl_advance_plain plain,
    Nat.zero_add]

theorem lt_lineCount (h : IsLine '\n' n above line below) :
    n < lineCount (above ++ (line ++ below)) := by
  obtain ⟨inside, _⟩ := List.getElem?_eq_some_iff.mp h.getElem?_splitOn
  rw [lineCount, splitLines_eq_splitOn]
  exact inside

theorem lineStart_eq (h : IsLine '\n' n above line below) :
    lineStart (above ++ (line ++ below)) n = above.length := by
  rw [lineStart, splitLines_eq_splitOn]
  exact h.extent_take

theorem lt_lineStart {m : Nat} (h : IsLine '\n' n above line below) (less : n < m) :
    above.length + line.length < lineStart (above ++ (line ++ below)) m := by
  obtain ⟨earlier, later, lines, number, long⟩ := h.splitOn_eq
  obtain ⟨more, rfl⟩ := Nat.exists_eq_add_of_lt less
  have reach : n + more + 1 = earlier.length + (more + 1) := by omega
  have start : lineStart (above ++ (line ++ below)) (n + more + 1) =
      extent (earlier ++ line :: later.take more) := by
    rw [lineStart, splitLines_eq_splitOn, lines, reach, List.take_length_add_append,
      List.take_succ_cons]
    rfl
  rw [start, extent_append, long, extent_cons]
  omega

theorem lineAt_eq (h : IsLine '\n' n above line below) :
    lineAt (above ++ (line ++ below)) n = dropReturn line := by
  rw [lineAt, if_neg (Int.not_lt.mpr (Int.natCast_nonneg n)), Int.toNat_natCast,
    splitLines_eq_splitOn, h.getElem?_splitOn, Option.getD_some]

end IsLine

theorem exists_isLine_of_lt_lineCount {text : List Char} {n : Nat} (inside : n < lineCount text) :
    ∃ above line below, text = above ++ (line ++ below) ∧ IsLine '\n' n above line below := by
  rw [lineCount, splitLines_eq_splitOn] at inside
  exact exists_isLine_of_lt inside

theorem exists_lineAt (pre : List Char) {rest : List Char} (more : firstLine rest ≠ []) :
    ∃ front : List Char, front.length = (Position.after .codePoint pre).column ∧
      lineAt (pre ++ rest) (Position.after .codePoint pre).line =
        front ++ dropReturn (firstLine rest) := by
  obtain ⟨n, above, front, back, below, rfl, rfl, line⟩ := exists_isLine '\n' pre rest
  have plain : '\n' ∉ back := fun feed => line.plain (List.mem_append_right front feed)
  have behind : firstLine (back ++ below) = back := by
    rw [firstLine_append_of_plain plain, firstLine_of_ends line.ends, List.append_nil]
  refine ⟨front, ?_, ?_⟩
  · rw [line.after_append (List.prefix_append front back), ColumnUnit.measure_codePoint]
  · rw [behind] at more ⊢
    rw [line.after_append (List.prefix_append front back), List.append_assoc,
      ← List.append_assoc front, line.lineAt_eq, dropReturn_append more]

theorem lineAt_outside {text : List Char} {n : Int} (outside : n < 0 ∨ lineCount text ≤ n) :
    lineAt text n = [] := by
  unfold lineAt
  split
  · rfl
  · have beyond : (splitLines text).length ≤ n.toNat := by
      unfold lineCount at outside
      omega
    rw [List.getElem?_eq_none beyond]
    rfl

/-- What is shown of a line is the beginning of a part of the text without line feeds. -/
theorem exists_lineAt_isPrefix (text : List Char) (n : Int) :
    ∃ line, '\n' ∉ line ∧ line <:+: text ∧ lineAt text n <+: line := by
  by_cases inside : 0 ≤ n ∧ n.toNat < lineCount text
  · obtain ⟨number, less⟩ := inside
    obtain ⟨n, rfl⟩ := Int.eq_ofNat_of_zero_le number
    obtain ⟨above, line, below, rfl, here⟩ := exists_isLine_of_lt_lineCount less
    have shown := here.lineAt_eq
    rw [Int.toNat_natCast] at shown
    rw [shown]
    exact ⟨line, here.plain, ⟨above, below, List.append_assoc above line below⟩,
      dropReturn_isPrefix line⟩
  · rw [lineAt_outside (by omega)]
    exact ⟨[], List.not_mem_nil, List.nil_infix, List.prefix_rfl⟩

theorem feed_not_mem_lineAt (text : List Char) (n : Int) : '\n' ∉ lineAt text n := by
  obtain ⟨line, plain, _, begins⟩ := exists_lineAt_isPrefix text n
  exact fun feed => plain (begins.subset feed)

theorem lineAt_subset (text : List Char) (n : Int) : lineAt text n ⊆ text := by
  obtain ⟨line, _, part, begins⟩ := exists_lineAt_isPrefix text n
  exact fun _ member => part.subset (begins.subset member)

end JqTemplate
