import JqTemplate.Proofs.Report
import JqTemplate.Text.Escape

namespace JqTemplate.Report

open Text (escapeChar sequenceRest? withoutSequences withoutSequencesWithin)

/-- The first text is the second one with color sequences put in anywhere. There is no escape
character in the second. -/
inductive Colored : List Char → List Char → Prop
  | nil : Colored [] []
  | char {c : Char} {colored bare : List Char} (plain : c ≠ escapeChar)
      (rest : Colored colored bare) : Colored (c :: colored) (c :: bare)
  | sequence {colored bare : List Char} (style : Style) (rest : Colored colored bare) :
      Colored (style.sequence.toList ++ colored) bare

section Sequences

theorem sequenceRest?_plain {c : Char} (plain : c ≠ escapeChar) (text : List Char) :
    sequenceRest? (c :: text) = none := by
  unfold sequenceRest?
  split
  · next same => simp_all
  · rfl

theorem sequenceRest?_sequence (style : Style) (rest : List Char) :
    sequenceRest? (style.sequence.toList ++ rest) = some rest := by
  cases style with
  | severity s => cases s <;> rfl
  | _ => rfl

theorem exists_sequence_eq_cons (style : Style) :
    ∃ behind, style.sequence.toList = escapeChar :: behind := by
  cases style with
  | severity s => cases s <;> exact ⟨_, rfl⟩
  | _ => exact ⟨_, rfl⟩

end Sequences

section Strings

variable {a b : String}

theorem escape_not_mem_append (first : escapeChar ∉ a.toList) (second : escapeChar ∉ b.toList) :
    escapeChar ∉ (a ++ b).toList := by
  rw [String.toList_append, List.mem_append]
  exact fun member => member.elim first second

theorem escape_not_mem_toString (n : Nat) : escapeChar ∉ (toString n).toList := by
  intro member
  rw [Nat.toString_eq_ofList_toDigits, String.toList_ofList] at member
  exact absurd (Nat.isDigit_of_mem_toDigits (by decide) (by decide) member) (by decide)

theorem escape_not_mem_gutter (line : Nat) : escapeChar ∉ (gutter line).toList := by
  intro member
  rcases mem_gutter member with blank | digit
  · exact absurd blank (by decide)
  · exact absurd digit (by decide)

theorem escape_not_mem_repeated (n : Nat) {c : Char} (plain : c ≠ escapeChar) :
    escapeChar ∉ (repeated n c).toList := by
  rw [repeated, String.toList_ofList]
  exact fun member => plain (List.eq_of_mem_replicate member).symm

end Strings

namespace Colored

variable {colored bare colored' bare' : List Char} {a b a' b' : String}

/-- Every step takes a whole sequence or one character of the text, so steps do not run out. -/
theorem withoutSequencesWithin_eq (h : Colored colored bare) {steps : Nat}
    (enough : colored.length ≤ steps) : withoutSequencesWithin steps colored = bare := by
  induction h generalizing steps with
  | nil => cases steps <;> rfl
  | @char c colored bare plain _ ih =>
    cases steps with
    | zero => cases enough
    | succ steps =>
      rw [withoutSequencesWithin, sequenceRest?_plain plain]
      exact congrArg (c :: ·) (ih (Nat.le_of_succ_le_succ enough))
  | @sequence colored bare style _ ih =>
    have taken := sequenceRest?_sequence style colored
    obtain ⟨behind, begins⟩ := exists_sequence_eq_cons style
    rw [begins, List.cons_append] at enough taken ⊢
    cases steps with
    | zero => cases enough
    | succ steps =>
      rw [withoutSequencesWithin, taken]
      rw [List.length_cons, List.length_append] at enough
      exact ih (by omega)

theorem withoutSequences_eq (h : Colored colored bare) : withoutSequences colored = bare :=
  h.withoutSequencesWithin_eq (Nat.le_refl _)

theorem of_plain {text : List Char} (plain : escapeChar ∉ text) : Colored text text := by
  induction text with
  | nil => exact .nil
  | cons c rest ih =>
    rw [List.mem_cons, not_or] at plain
    exact .char (Ne.symm plain.1) (ih plain.2)

theorem append (h : Colored colored bare) (h' : Colored colored' bare') :
    Colored (colored ++ colored') (bare ++ bare') := by
  induction h with
  | nil => exact h'
  | char plain _ ih => exact .char plain ih
  | sequence style _ ih =>
    rw [List.append_assoc]
    exact .sequence style ih

theorem joined (h : Colored a.toList a'.toList) (h' : Colored b.toList b'.toList) :
    Colored (a ++ b).toList (a' ++ b').toList := by
  rw [String.toList_append, String.toList_append]
  exact h.append h'

theorem painted (style : Style) {part : String} (plain : escapeChar ∉ part.toList) :
    Colored (paint true style part).toList (paint false style part).toList := by
  have ended : Colored Style.plain.sequence.toList [] := by
    simpa using Colored.sequence .plain .nil
  have whole := Colored.sequence style ((of_plain plain).append ended)
  simpa [paint] using whole

end Colored

abbrev ColoredLines : List String → List String → Prop :=
  List.Forall₂ fun colored bare => Colored colored.toList bare.toList

theorem intercalate_colored {xs ys : List String} (lines : ColoredLines xs ys) :
    Colored (String.intercalate "\n" xs).toList (String.intercalate "\n" ys).toList := by
  have feed : Colored "\n".toList "\n".toList := .of_plain (by decide)
  rw [String.toList_intercalate, String.toList_intercalate]
  induction lines with
  | nil => exact .nil
  | @cons x y xs ys here later ih =>
    cases later with
    | nil => simpa using here
    | cons next behind =>
      simp only [List.map_cons, List.intercalate_cons_cons] at ih ⊢
      exact (here.append feed).append ih

theorem map_colored {α : Type} {xs : List α} {f g : α → String}
    (each : ∀ x ∈ xs, Colored (f x).toList (g x).toList) : ColoredLines (xs.map f) (xs.map g) := by
  unfold ColoredLines
  rw [List.forall₂_map_left_iff, List.forall₂_map_right_iff, List.forall₂_same]
  exact each

theorem flatMap_colored {α : Type} {xs : List α} {f g : α → List String}
    (each : ∀ x ∈ xs, ColoredLines (f x) (g x)) :
    ColoredLines (xs.flatMap f) (xs.flatMap g) := by
  induction xs with
  | nil => exact .nil
  | cons x rest ih =>
    rw [List.flatMap_cons, List.flatMap_cons]
    exact List.rel_append (each x List.mem_cons_self)
      (ih fun y later => each y (List.mem_cons_of_mem x later))

/-- No text that is shown has an escape character. What a suggestion says besides its replacement is
not shown. -/
structure Unescaped (source : Source) (d : Diagnostic) : Prop where
  name : escapeChar ∉ source.name.toList
  text : escapeChar ∉ source.text
  code : escapeChar ∉ d.code.text.toList
  message : escapeChar ∉ d.message.toList
  labels : ∀ label ∈ d.labels, escapeChar ∉ label.message.toList
  notes : ∀ note ∈ d.notes, escapeChar ∉ note.toList
  replacements : ∀ s ∈ d.suggestions, escapeChar ∉ s.replacement.toList

section Rows

variable {source : Source} {d : Diagnostic} {label : Label}

theorem header_colored (code : escapeChar ∉ d.code.text.toList)
    (message : escapeChar ∉ d.message.toList) :
    Colored (header true d).toList (header false d).toList := by
  have severity : escapeChar ∉ d.severity.text.toList := by
    cases d.severity <;> decide
  have opened : escapeChar ∉ (d.severity.text ++ "[").toList :=
    escape_not_mem_append severity (by decide)
  have bracketed : escapeChar ∉ (d.severity.text ++ "[" ++ d.code.text ++ "]").toList :=
    escape_not_mem_append (escape_not_mem_append opened code) (by decide)
  exact (Colored.painted _ bracketed).joined
    (.painted _ (escape_not_mem_append (by decide) message))

theorem escape_not_mem_place (plain : escapeChar ∉ source.name.toList) (p : Position) :
    escapeChar ∉ s!"{source.name}:{p.line + 1}:{p.column + 1}".toList := by
  have colon : escapeChar ∉ ":".toList := by decide
  have line := escape_not_mem_append (escape_not_mem_append plain colon)
    (escape_not_mem_toString (p.line + 1))
  exact escape_not_mem_append (escape_not_mem_append line colon)
    (escape_not_mem_toString (p.column + 1))

theorem framed_colored {part : String} (plain : escapeChar ∉ part.toList) :
    Colored ("  " ++ paint true .frame part).toList ("  " ++ paint false .frame part).toList :=
  (Colored.of_plain (by decide)).joined (.painted .frame plain)

theorem labelLines_colored (name : escapeChar ∉ source.name.toList)
    (text : escapeChar ∉ source.text) (message : escapeChar ∉ label.message.toList)
    (severity : Severity) :
    ColoredLines (labelLines true severity source label)
      (labelLines false severity source label) := by
  unfold labelLines
  dsimp only
  generalize Position.ofOffset .codePoint source.text label.span.start = start
  generalize Position.ofOffset .codePoint source.text label.span.stop = stop
  have blank : Colored " ".toList " ".toList := .of_plain (by decide)
  have shown : escapeChar ∉ (String.ofList (lineAt source.text start.line)).toList := by
    rw [String.toList_ofList]
    exact fun member => text (lineAt_subset _ _ member)
  have arrow := framed_colored (show escapeChar ∉ "-->".toList by decide)
  have bar := framed_colored (show escapeChar ∉ "   |".toList by decide)
  have number := framed_colored
    (escape_not_mem_append (escape_not_mem_gutter start.line)
      (show escapeChar ∉ " |".toList by decide))
  have place := (arrow.joined blank).joined (.of_plain (escape_not_mem_place name start))
  have code := (number.joined blank).joined (.of_plain shown)
  have padding := Colored.of_plain
    (escape_not_mem_repeated start.column (show ' ' ≠ escapeChar by decide))
  have carets := ((bar.joined blank).joined padding).joined
    (.painted (.severity severity) (escape_not_mem_repeated
      (caretCount start stop (lineAt source.text start.line))
        (show '^' ≠ escapeChar by decide)))
  have last := (bar.joined (.of_plain (show escapeChar ∉ "   ".toList by decide))).joined
    (.painted (.severity severity) message)
  split
  · exact .cons place (.cons bar (.cons code (.cons carets .nil)))
  · simp only [List.cons_append, List.nil_append]
    exact .cons place (.cons bar (.cons code (.cons carets (.cons last .nil))))

theorem lines_colored (plain : Unescaped source d) :
    ColoredLines (lines true source d) (lines false source d) := by
  refine List.rel_append (List.rel_append ?_ (map_colored ?_)) (map_colored ?_)
  · refine .cons (header_colored plain.code plain.message) (flatMap_colored ?_)
    intro label among
    exact labelLines_colored plain.name plain.text (plain.labels label among) d.severity
  · intro note among
    exact ((framed_colored (by decide)).joined (.of_plain (by decide))).joined
      (.of_plain (plain.notes note among))
  · intro s among
    exact ((framed_colored (by decide)).joined (.of_plain (by decide))).joined
      (.of_plain (plain.replacements s among))

end Rows

theorem severity_sequence_isPrefix (source : Source) (d : Diagnostic) :
    (Style.severity d.severity).sequence.toList <+: (render true source d).toList := by
  have front : header true d = (Style.severity d.severity).sequence ++
      (d.severity.text ++ "[" ++ d.code.text ++ "]" ++ Style.plain.sequence ++
        paint true .bold (": " ++ d.message)) := by
    simp only [header, paint, if_true, String.append_assoc]
  unfold render lines
  rw [front, List.cons_append, List.cons_append, String.intercalate_cons_append,
    String.toList_append]
  exact List.prefix_append _ _

/-- The report with colors is the one without them, with color sequences put in. So all that is
taken out of it as an escape sequence is a color sequence, and what is left is the other report. -/
theorem render_colors_erasable (source : Source) (d : Diagnostic) (plain : Unescaped source d) :
    String.ofList (withoutSequences (render true source d).toList) = render false source d ∧
      Colored (render true source d).toList (render false source d).toList ∧
      (Style.severity d.severity).sequence.toList <+: (render true source d).toList := by
  have colored : Colored (render true source d).toList (render false source d).toList :=
    intercalate_colored (lines_colored plain)
  refine ⟨?_, colored, severity_sequence_isPrefix source d⟩
  rw [colored.withoutSequences_eq, String.ofList_toList]

theorem bracketed_texts_kept :
    let source : Source := ⟨"[0m.jqtpl", "a[1;31m\r\n[K \n[m".toList⟩
    let d : Diagnostic :=
      { severity := .warning, code := .other "[1m", message := "first\n[1;34m--> second"
        labels := [⟨⟨2, 12⟩, "[0m", .primary⟩, ⟨⟨-3, 40⟩, "", .secondary⟩,
          ⟨⟨9, 4⟩, "x\n", .primary⟩]
        suggestions := [⟨"", "\x7b\x7b[0m\x7d\x7d"⟩], notes := ["[2J", ""] }
    Unescaped source d ∧
      String.ofList (withoutSequences (render true source d).toList) = render false source d := by
  intro source d
  have plain : Unescaped source d := by
    constructor <;> decide
  exact ⟨plain, (render_colors_erasable source d plain).1⟩

end JqTemplate.Report
