import JqTemplate.Diagnostic.Report
import JqTemplate.Proofs.Continuation
import JqTemplate.Proofs.Enclosed
import JqTemplate.Proofs.Lines
import Mathlib.Data.List.TakeWhile

/-! The rows of a label without colors. The row with the source has a wider gutter than the rows
with the bar, the carets and the message: these stand to the left of it, by two columns up to line
9999 and by more beyond. So the carets are as many as the characters that they mark, but never
stand under them. -/
namespace JqTemplate

section Labels

variable {config : CheckConfig} {text : List Char} {d : Diagnostic} {label : Label}

theorem diagnostic_self_alike (found : d ∈ (check config text).diagnostics) :
    Diagnostic.Alike (Kept text) Eq d d := by
  have corresponds : Corresponds (Kept text) Eq config text text := by
    simpa using kept_corresponds config text []
  have alike := (checkStatements_alike corresponds (kept_paired text)).1
  rw [readDirectives, ← checkStatements_directives] at alike
  exact List.forall₂_same.mp alike d found

theorem label_at_directive (found : d ∈ (check config text).diagnostics)
    (among : label ∈ d.labels) : ∃ s, IsDirective text s ∧ label.span = s.span := by
  obtain ⟨s, _, ⟨directive, _⟩, here, _⟩ :=
    (List.forall₂_same.mp (diagnostic_self_alike found).labels label among).place
  exact ⟨s, directive, here⟩

end Labels

namespace Report

def columnOf? (c : Char) (row : String) : Option Nat := row.toList.findIdx? fun d => d = c

def restOfLine (text : List Char) (offset : Int) : List Char :=
  dropReturn (firstLine (text.drop offset.toNat))

/-- What there is of a span on the line that is shown for it. -/
def shownPart (text : List Char) (span : Span) : List Char :=
  dropReturn (firstLine (span.text text))

/-- How much the gutter of a source row is wider than the blanks in the other rows. -/
def setback (line : Nat) : Nat := (gutter line).length - 2

/-- The rows that stand for `span`: those with bars and carets keep to the columns 5 and `column`,
the row of the source stands `back` columns to the right of them. -/
structure SetBack (text : List Char) (span : Span) (column back : Nat) (bar code carets : String)
    (message : List String) : Prop where
  bars : ∀ row ∈ bar :: carets :: message, columnOf? '|' row = some 5
  codeBar : columnOf? '|' code = some (5 + back)
  codeText : code.toList.drop (column + back) = restOfLine text span.start
  shown : shownPart text span ≠ [] ∧ shownPart text span <+: restOfLine text span.start
  firstCaret : columnOf? '^' carets = some column
  allCarets : carets.toList.drop column = List.replicate (shownPart text span).length '^'

section Shown

variable {body front post : List Char}

theorem firstLine_append_of_feed {m : List Char} (feed : '\n' ∈ m) (post : List Char) :
    firstLine (m ++ post) = firstLine m := by
  unfold firstLine
  rw [List.takeWhile_append, if_neg]
  intro long
  have whole := (List.takeWhile_prefix _).eq_of_length long
  rw [← whole] at feed
  simpa using List.mem_takeWhile_imp feed

theorem dropReturn_enclosed (body post : List Char) :
    dropReturn (enclosed body ++ post) = enclosed body ++ dropReturn post := by
  cases post with
  | nil =>
    have last : (enclosed body).getLast? = some '}' := by
      have front : enclosed body = (['{', '{'] ++ body ++ ['}']) ++ ['}'] := by simp [enclosed]
      rw [front, List.getLast?_concat]
    simp [dropReturn, last]
  | cons c rest => exact dropReturn_append (List.cons_ne_nil c rest)

theorem shown_of_plain (plain : '\n' ∉ enclosed body) :
    dropReturn (firstLine (enclosed body)) = enclosed body := by
  have alone := firstLine_append_of_plain plain []
  have whole := dropReturn_enclosed body []
  have nothing : dropReturn [] = [] := rfl
  rw [List.append_nil] at alone whole
  rw [alone, dropReturn_enclosed, firstLine, List.takeWhile_nil, nothing, List.append_nil]

theorem shown_enclosed (body post : List Char) :
    dropReturn (firstLine (enclosed body)) ≠ [] ∧
      dropReturn (firstLine (enclosed body)) <+: dropReturn (firstLine (enclosed body ++ post)) := by
  constructor
  · have begins : firstLine (enclosed body) =
        ['{'] ++ ('{' :: firstLine (body ++ ['}', '}'])) := by
      simp [firstLine, enclosed]
    rw [begins, dropReturn_append (List.cons_ne_nil _ _)]
    exact List.cons_ne_nil _ _
  · by_cases feed : '\n' ∈ enclosed body
    · have same := congrArg dropReturn (firstLine_append_of_feed feed post)
      exact ⟨[], by rw [same, List.append_nil]⟩
    · rw [shown_of_plain feed, firstLine_append_of_plain feed, dropReturn_enclosed]
      exact List.prefix_append _ _

theorem caretCount_enclosed (pre : List Char)
    (column : front.length = (Position.after .codePoint pre).column) :
    caretCount (Position.after .codePoint pre) (Position.after .codePoint (pre ++ enclosed body))
        (front ++ dropReturn (firstLine (enclosed body ++ post))) =
      (dropReturn (firstLine (enclosed body))).length := by
  have nonempty := List.length_pos_of_ne_nil (shown_enclosed body post).1
  have stop : Position.after .codePoint (pre ++ enclosed body) =
      (enclosed body).foldl (Position.advance .codePoint) (Position.after .codePoint pre) := by
    rw [Position.after, List.foldl_append]
    rfl
  unfold caretCount
  rw [stop]
  by_cases feed : '\n' ∈ enclosed body
  · have later : (Position.after .codePoint pre).line < ((enclosed body).foldl
        (Position.advance .codePoint) (Position.after .codePoint pre)).line :=
      Position.line_lt_foldl_advance feed
    rw [if_neg (by omega), firstLine_append_of_feed feed, List.length_append, column]
    omega
  · rw [shown_of_plain feed] at nonempty ⊢
    rw [Position.foldl_advance_plain feed, ColumnUnit.measure_codePoint, if_pos rfl]
    simp only
    omega

end Shown

section Columns

variable {c : Char} {row : String} {a b : List Char}

theorem columnOf?_of_split (split : row.toList = a ++ c :: b) (first : c ∉ a) :
    columnOf? c row = some a.length := by
  have absent : a.findIdx? (fun d => d = c) = none := by
    apply List.findIdx?_eq_none_iff.mpr
    intro d member
    simpa using fun same : d = c => first (same ▸ member)
  simp [columnOf?, split, List.findIdx?_append, List.findIdx?_cons, absent]

theorem mem_gutter {line : Nat} (member : c ∈ (gutter line).toList) :
    c = ' ' ∨ c.isDigit = true := by
  simp only [gutter, repeated, String.toList_append, String.toList_ofList,
    Nat.toString_eq_ofList_toDigits] at member
  rcases List.mem_append.mp member with blank | digit
  · exact .inl (List.eq_of_mem_replicate blank)
  · exact .inr (Nat.isDigit_of_mem_toDigits (by decide) (by decide) digit)

theorem gutter_length (line : Nat) :
    (gutter line).toList.length = max 4 (toString (line + 1)).length := by
  simp only [gutter, repeated, String.toList_append, String.toList_ofList, List.length_append,
    List.length_replicate, String.length_toList]
  omega

theorem setback_eq_two_iff (line : Nat) : setback line = 2 ↔ line < 9999 := by
  have digits : (toString (line + 1)).length ≤ 4 ↔ line + 1 < 10 ^ 4 :=
    Nat.length_repr_le_iff (by decide)
  have long := gutter_length line
  rw [String.length_toList] at long
  unfold setback
  omega

theorem two_le_setback (line : Nat) : 2 ≤ setback line := by
  have long := gutter_length line
  rw [String.length_toList] at long
  unfold setback
  omega

end Columns

section Rows

variable {source : Source} {label : Label} {s : Statement}

def placeRow (name : String) (start : Position) : String :=
  "  " ++ "-->" ++ " " ++ s!"{name}:{start.line + 1}:{start.column + 1}"

def barRow : String := "     |"

def sourceRow (line : Nat) (shown : List Char) : String :=
  "  " ++ (gutter line ++ " |") ++ " " ++ String.ofList shown

def caretRow (column count : Nat) : String :=
  barRow ++ " " ++ repeated column ' ' ++ repeated count '^'

def messageRows (message : String) : List String :=
  if message.isEmpty then [] else [barRow ++ "   " ++ message]

theorem barRow_split (behind : String) :
    (barRow ++ behind).toList = [' ', ' ', ' ', ' ', ' '] ++ '|' :: behind.toList := by
  simp [barRow]

theorem columnOf?_barRow (behind : String) : columnOf? '|' (barRow ++ behind) = some 5 :=
  columnOf?_of_split (barRow_split behind) (by decide)

theorem sourceRow_split (line : Nat) (shown : List Char) :
    ∃ front : List Char, front.length = 5 + setback line ∧ (∀ c ∈ front, c = ' ' ∨ c.isDigit) ∧
      (sourceRow line shown).toList = front ++ '|' :: ' ' :: shown := by
  refine ⟨[' ', ' '] ++ (gutter line).toList ++ [' '], ?_, ?_, by simp [sourceRow]⟩
  · have wide := two_le_setback line
    unfold setback at wide ⊢
    rw [List.length_append, List.length_append, String.length_toList]
    simp only [List.length_cons, List.length_nil]
    omega
  · intro c member
    simp only [List.mem_append, List.mem_cons, List.not_mem_nil, or_false] at member
    rcases member with (blank | gutter) | blank
    · exact .inl (blank.elim id id)
    · exact mem_gutter gutter
    · exact .inl blank

theorem columnOf?_sourceRow (line : Nat) (shown : List Char) :
    columnOf? '|' (sourceRow line shown) = some (5 + setback line) := by
  obtain ⟨front, long, chars, split⟩ := sourceRow_split line shown
  rw [columnOf?_of_split split, long]
  intro member
  rcases chars '|' member with blank | digit
  · exact absurd blank (by decide)
  · exact absurd digit (by decide)

theorem drop_sourceRow (line : Nat) (front behind : List Char) :
    (sourceRow line (front ++ behind)).toList.drop (front.length + 7 + setback line) = behind := by
  obtain ⟨gutter, long, _, split⟩ := sourceRow_split line (front ++ behind)
  have cut : gutter ++ '|' :: ' ' :: (front ++ behind) = (gutter ++ ['|', ' '] ++ front) ++ behind := by
    simp
  have reach : front.length + 7 + setback line = (gutter ++ ['|', ' '] ++ front).length := by
    simp only [List.length_append, List.length_cons, List.length_nil, long]
    omega
  rw [split, cut, reach, List.drop_left]

theorem feed_not_mem_sourceRow (line : Nat) {shown : List Char} (plain : '\n' ∉ shown) :
    '\n' ∉ (sourceRow line shown).toList := by
  obtain ⟨front, _, chars, split⟩ := sourceRow_split line shown
  rw [split]
  intro member
  rcases List.mem_append.mp member with inFront | behind
  · rcases chars '\n' inFront with blank | digit
    · exact absurd blank (by decide)
    · exact absurd digit (by decide)
  · simp [plain] at behind

theorem caretRow_split (column count : Nat) :
    (caretRow column count).toList =
      ([' ', ' ', ' ', ' ', ' ', '|', ' '] ++ List.replicate column ' ') ++
        List.replicate count '^' := by
  simp [caretRow, barRow, repeated]

theorem columnOf?_caretRow (column : Nat) {count : Nat} (nonempty : 0 < count) :
    columnOf? '^' (caretRow column count) = some (column + 7) := by
  obtain ⟨more, rfl⟩ := Nat.exists_eq_succ_of_ne_zero (Nat.ne_of_gt nonempty)
  have split := caretRow_split column (more + 1)
  rw [List.replicate_succ] at split
  rw [columnOf?_of_split split]
  · rw [List.length_append, List.length_replicate, Nat.add_comm]
    rfl
  · simp [List.mem_replicate]

theorem drop_caretRow (column count : Nat) :
    (caretRow column count).toList.drop (column + 7) = List.replicate count '^' := by
  have reach : column + 7 =
      ([' ', ' ', ' ', ' ', ' ', '|', ' '] ++ List.replicate column ' ').length := by
    rw [List.length_append, List.length_replicate, Nat.add_comm]
    rfl
  rw [caretRow_split, reach, List.drop_left]

theorem columnOf?_bar_caretRow (column count : Nat) :
    columnOf? '|' (caretRow column count) = some 5 := by
  rw [caretRow, String.append_assoc, String.append_assoc]
  exact columnOf?_barRow _

theorem columnOf?_messageRows {message row : String} (member : row ∈ messageRows message) :
    columnOf? '|' row = some 5 := by
  unfold messageRows at member
  split at member
  · contradiction
  · rw [List.mem_singleton.mp member, String.append_assoc]
    exact columnOf?_barRow _

theorem feed_not_mem_caretRow (column count : Nat) :
    '\n' ∉ (caretRow column count).toList := by
  rw [caretRow_split]
  simp [List.mem_replicate]

theorem labelLines_plain (severity : Severity) (source : Source) (label : Label) :
    let start := Position.ofOffset .codePoint source.text label.span.start
    let stop := Position.ofOffset .codePoint source.text label.span.stop
    let line := lineAt source.text start.line
    labelLines false severity source label =
      placeRow source.name start :: barRow :: sourceRow start.line line ::
        caretRow start.column (caretCount start stop line) :: messageRows label.message := by
  intro start stop line
  unfold labelLines messageRows
  simp only [paint, Bool.false_eq_true, if_false]
  split
  · rfl
  · rfl

theorem exists_front (directive : IsDirective source.text s) (located : label.span = s.span) :
    let start := Position.ofOffset .codePoint source.text label.span.start
    let stop := Position.ofOffset .codePoint source.text label.span.stop
    let line := lineAt source.text start.line
    ∃ front : List Char, front.length = start.column ∧
      line = front ++ restOfLine source.text label.span.start ∧
      shownPart source.text label.span ≠ [] ∧
      shownPart source.text label.span <+: restOfLine source.text label.span.start ∧
      caretCount start stop line = (shownPart source.text label.span).length := by
  obtain ⟨pre, body, post, whole, _, rfl⟩ := directive.split
  simp only [located, whole]
  have nonempty : firstLine (enclosed body ++ post) ≠ [] := by
    simp [firstLine, enclosed]
  obtain ⟨front, column, line⟩ := exists_lineAt pre nonempty
  have part : shownPart (pre ++ (enclosed body ++ post))
      ⟨pre.length, pre.length + (enclosed body).length⟩ =
        dropReturn (firstLine (enclosed body)) := by
    rw [shownPart, Span.text_between]
  have rest : restOfLine (pre ++ (enclosed body ++ post)) pre.length =
      dropReturn (firstLine (enclosed body ++ post)) := by
    rw [restOfLine, Int.toNat_natCast, List.drop_left]
  have stop : Position.ofOffset .codePoint (pre ++ (enclosed body ++ post))
      (pre.length + (enclosed body).length) =
        Position.after .codePoint (pre ++ enclosed body) := by
    rw [← List.append_assoc, ← Int.natCast_add, ← List.length_append,
      Position.ofOffset_append]
  have shown := shown_enclosed body post
  rw [stop, Position.ofOffset_append, line, caretCount_enclosed pre column, part, rest]
  exact ⟨front, column, rfl, shown.1, shown.2, rfl⟩

theorem setBack_labelLines (directive : IsDirective source.text s) (located : label.span = s.span)
    (severity : Severity) :
    let start := Position.ofOffset .codePoint source.text label.span.start
    ∃ place bar code carets message,
      labelLines false severity source label = place :: bar :: code :: carets :: message ∧
      (∀ row ∈ [bar, code, carets], '\n' ∉ row.toList) ∧
      SetBack source.text label.span (start.column + 7) (setback start.line) bar code carets
        message := by
  intro start
  refine ⟨_, _, _, _, _, labelLines_plain severity source label, ?_, ?_⟩
  · intro row member
    simp only [List.mem_cons, List.not_mem_nil, or_false] at member
    rcases member with rfl | rfl | rfl
    · decide
    · exact feed_not_mem_sourceRow _ (feed_not_mem_lineAt _ _)
    · exact feed_not_mem_caretRow _ _
  · obtain ⟨front, column, line, nonempty, begins, count⟩ := exists_front directive located
    rw [count, line]
    constructor
    · intro row member
      rcases List.mem_cons.mp member with rfl | member
      · exact columnOf?_barRow ""
      · rcases List.mem_cons.mp member with rfl | message
        · exact columnOf?_bar_caretRow _ _
        · exact columnOf?_messageRows message
    · exact columnOf?_sourceRow _ _
    · rw [← column]
      exact drop_sourceRow _ front _
    · exact ⟨nonempty, begins⟩
    · exact columnOf?_caretRow _ (List.length_pos_of_ne_nil nonempty)
    · exact drop_caretRow _ _

end Rows

theorem lines_of_labels (color : Bool) (source : Source) {d : Diagnostic}
    {earlier later : List Label} {label : Label} (labels : d.labels = earlier ++ label :: later) :
    ∃ after, lines color source d =
      header color d :: earlier.flatMap (labelLines color d.severity source) ++
        labelLines color d.severity source label ++ after := by
  have blocks : d.labels.flatMap (labelLines color d.severity source) =
      earlier.flatMap (labelLines color d.severity source) ++
        labelLines color d.severity source label ++
          later.flatMap (labelLines color d.severity source) := by
    rw [labels, List.flatMap_append, List.flatMap_cons, List.append_assoc]
  unfold lines
  rw [blocks]
  simp only [List.cons_append, List.append_assoc]
  exact ⟨_, rfl⟩

theorem lines_around_label (color : Bool) (source : Source) {d : Diagnostic} {label : Label}
    (among : label ∈ d.labels) :
    ∃ before after, lines color source d =
      before ++ labelLines color d.severity source label ++ after := by
  obtain ⟨earlier, later, labels⟩ := List.append_of_mem among
  exact ⟨_, lines_of_labels color source labels⟩

/-- The rows of every label of a reported text: the carets stand to the left of the code they mark,
by as many columns as the bars stand to the left of the bar in the source row. -/
theorem carets_set_back (config : CheckConfig) (source : Source) {d : Diagnostic}
    (found : d ∈ (check config source.text).diagnostics) {label : Label}
    (among : label ∈ d.labels) :
    let start := Position.ofOffset .codePoint source.text label.span.start
    ∃ before place bar code carets message after,
      render false source d =
        String.intercalate "\n" (before ++ (place :: bar :: code :: carets :: message) ++ after) ∧
      (∀ row ∈ [bar, code, carets], '\n' ∉ row.toList) ∧
      SetBack source.text label.span (start.column + 7) (setback start.line) bar code carets
        message ∧
      2 ≤ setback start.line ∧ (setback start.line = 2 ↔ start.line < 9999) := by
  intro start
  obtain ⟨s, directive, located⟩ := label_at_directive found among
  obtain ⟨place, bar, code, carets, message, rows, plain, places⟩ :=
    setBack_labelLines directive located d.severity
  obtain ⟨before, after, whole⟩ := lines_around_label false source among
  refine ⟨before, place, bar, code, carets, message, after, ?_, plain, places,
    two_le_setback _, setback_eq_two_iff _⟩
  rw [render, whole, rows]

theorem carets_set_back_second_line :
    let source : Source :=
      ⟨"a.jqtpl", (marked "if a" ++ "\n " ++ marked "else" ++ marked "else").toList⟩
    let earlier : Label := ⟨⟨10, 18⟩, "first " ++ cited "else" ++ " here", .secondary⟩
    ∃ d ∈ (check {} source.text).diagnostics, earlier ∈ d.labels ∧
      Position.ofOffset .codePoint source.text earlier.span.start = ⟨1, 1⟩ ∧ setback 1 = 2 ∧
      ∃ before place bar code carets message after,
        render false source d =
          String.intercalate "\n" (before ++ (place :: bar :: code :: carets :: message) ++ after) ∧
        SetBack source.text earlier.span 8 2 bar code carets message := by
  intro source earlier
  have found : ∃ d ∈ (check {} source.text).diagnostics, earlier ∈ d.labels := by decide
  obtain ⟨d, reported, among⟩ := found
  obtain ⟨before, place, bar, code, carets, message, after, rows, _, places, _⟩ :=
    carets_set_back {} source reported among
  refine ⟨d, reported, among, by decide, by decide, before, place, bar, code, carets, message,
    after, rows, ?_⟩
  have start : Position.ofOffset .codePoint source.text earlier.span.start = ⟨1, 1⟩ := by decide
  have back : setback 1 = 2 := by decide
  rw [start, back] at places
  exact places

/-- A single directive: the carets begin in column 7, the directive above them in column 9. -/
theorem carets_not_under_code :
    ¬ ∀ (source : Source), ∀ d ∈ (check {} source.text).diagnostics, ∀ label ∈ d.labels,
      ∀ place bar code carets message,
        labelLines false d.severity source label = place :: bar :: code :: carets :: message →
        (∃ column, columnOf? '^' carets = some column ∧
          code.toList.drop column = restOfLine source.text label.span.start) ∧
        columnOf? '|' carets = columnOf? '|' code := by
  intro all
  have bars := (all ⟨"<stdin>", (marked "#").toList⟩ (Unknown.withoutHead .error ⟨0, 5⟩ ['#'])
    (by decide) ⟨⟨0, 5⟩, "not a directive keyword", .primary⟩ (by decide) _ _ _ _ _ rfl).2
  exact absurd bars (by decide)

end Report

end JqTemplate
