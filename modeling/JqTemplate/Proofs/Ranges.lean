import JqTemplate.Block.Nesting
import JqTemplate.Editor.Range
import JqTemplate.Proofs.Lines
import JqTemplate.Proofs.Parse

namespace JqTemplate

/-- The UTF-16 units of a character: itself, or beyond the first plane a pair of surrogates. -/
def utf16Units (c : Char) : List UInt16 :=
  if c.toNat ≤ 0xffff then [UInt16.ofNat c.toNat]
  else
    [UInt16.ofNat (0xd800 + (c.toNat - 0x10000) / 0x400),
      UInt16.ofNat (0xdc00 + (c.toNat - 0x10000) % 0x400)]

def utf16Encode (text : List Char) : List UInt16 := text.flatMap utf16Units

def feedUnit : UInt16 := 0x0a

section Units

variable {text above line below : List Char} {n : Nat} {c : Char}

theorem utf16Encode_cons (c : Char) (rest : List Char) :
    utf16Encode (c :: rest) = utf16Units c ++ utf16Encode rest := rfl

theorem utf16Encode_append (a b : List Char) :
    utf16Encode (a ++ b) = utf16Encode a ++ utf16Encode b := List.flatMap_append

theorem utf16Encode_length (text : List Char) :
    (utf16Encode text).length = ColumnUnit.utf16.measure text := by
  induction text with
  | nil => rfl
  | cons c rest ih =>
    rw [utf16Encode_cons, List.length_append, ih, ColumnUnit.measure_cons, utf16Units,
      ColumnUnit.width]
    by_cases plane : c.toNat ≤ 0xffff
    · rw [if_pos plane, if_neg (by omega)]
      rfl
    · rw [if_neg plane, if_pos (by omega)]
      rfl

example : utf16Encode ['a', '😀'] = [0x61, 0xd83d, 0xde00] := by decide

theorem feedUnit_mem_utf16Units : feedUnit ∈ utf16Units c ↔ c = '\n' := by
  have bound := Text.toNat_lt c
  have feed : c = '\n' ↔ c.toNat = 10 := by
    rw [← Char.toNat_inj]
    rfl
  have unit (k : Nat) (small : k < 65536) : feedUnit = UInt16.ofNat k ↔ k = 10 := by
    rw [← UInt16.toNat_inj, UInt16.toNat_ofNat_of_lt' small]
    exact eq_comm
  rw [feed, utf16Units]
  split
  · rw [List.mem_singleton, unit _ (by omega)]
  · -- surrogates are too great to be the feed
    simp only [List.mem_cons, List.not_mem_nil, or_false]
    rw [unit _ (by omega), unit _ (by omega)]
    omega

theorem feedUnit_mem_utf16Encode : feedUnit ∈ utf16Encode text ↔ '\n' ∈ text := by
  rw [utf16Encode, List.mem_flatMap]
  constructor
  · rintro ⟨c, member, feed⟩
    exact feedUnit_mem_utf16Units.mp feed ▸ member
  · exact fun member => ⟨'\n', member, feedUnit_mem_utf16Units.mpr rfl⟩

/-- A line is encoded where the encodings of the lines above it end. -/
theorem IsLine.encoded (h : IsLine '\n' n above line below) :
    IsLine feedUnit n (utf16Encode above) (utf16Encode line) (utf16Encode below) := by
  induction h with
  | @first line below plain ends =>
    refine .first (fun feed => plain (feedUnit_mem_utf16Encode.mp feed)) ?_
    cases below with
    | nil => simp [utf16Encode]
    | cons c rest =>
      obtain rfl : c = '\n' := ends c rfl
      intro unit head
      exact (Option.some.inj head).symm
  | @next n head above line below plain _ ih =>
    rw [utf16Encode_append, utf16Encode_cons]
    exact .next (fun feed => plain (feedUnit_mem_utf16Encode.mp feed)) ih

end Units

namespace Editor

/-- The unit at which a position stands for a reader of the document whose lines end at feeds only.
A position behind the last line, or behind the end of its line, stands nowhere. -/
def unitIndex? (units : List UInt16) (p : Position) : Option Nat :=
  let lines := units.splitOn feedUnit
  (lines[p.line]?).bind fun line =>
    if p.column ≤ line.length then some (extent (lines.take p.line) + p.column) else none

def unitsIn? (units : List UInt16) (range : Range) : Option (List UInt16) :=
  (unitIndex? units range.start).bind fun start : Nat =>
    (unitIndex? units range.stop).map fun stop : Nat => slice units start stop

/-- Ranges that are not empty and follow each other without a gap from `first` to `last`. -/
def Joined (first last : Position) : List Range → Prop
  | [] => first = last
  | r :: rest => r.start = first ∧ r.start.before r.stop = true ∧ Joined r.stop last rest

def clampTo (text : List Char) (offset : Int) : Int := max 0 (min offset text.length)

section Reader

variable {text : List Char}

theorem unitIndex?_after (pre rest : List Char) :
    unitIndex? (utf16Encode (pre ++ rest)) (Position.after .utf16 pre) =
      some (utf16Encode pre).length := by
  obtain ⟨n, above, front, back, below, rfl, rfl, line⟩ := exists_isLine '\n' pre rest
  have whole : utf16Encode (above ++ front ++ (back ++ below)) =
      utf16Encode above ++ (utf16Encode (front ++ back) ++ utf16Encode below) := by
    simp only [utf16Encode_append, List.append_assoc]
  have within : ColumnUnit.utf16.measure front ≤ (utf16Encode (front ++ back)).length := by
    rw [utf16Encode_length, ColumnUnit.measure_append]
    exact Nat.le_add_right _ _
  rw [line.after_append (List.prefix_append front back), unitIndex?, whole]
  simp only [line.encoded.getElem?_splitOn, line.encoded.extent_take]
  rw [Option.bind_some, if_pos within, utf16Encode_append, List.length_append,
    utf16Encode_length front]

theorem unitIndex?_editorPosition (text : List Char) (offset : Int) :
    unitIndex? (utf16Encode text) (editorPosition text offset) =
      some (utf16Encode (text.take offset.toNat)).length := by
  have cut := unitIndex?_after (text.take offset.toNat) (text.drop offset.toNat)
  rw [List.take_append_drop] at cut
  exact cut

theorem slice_clampTo (a b : Int) :
    slice text (clampTo text a) (clampTo text b) =
      (text.drop a.toNat).take (b.toNat - a.toNat) := by
  have first : (clampTo text a).toNat = min a.toNat text.length := by
    unfold clampTo
    omega
  have long : (clampTo text b - clampTo text a).toNat =
      min b.toNat text.length - min a.toNat text.length := by
    unfold clampTo
    omega
  have inside : 0 ≤ clampTo text a ∧ 0 ≤ clampTo text b := by
    unfold clampTo
    omega
  rw [slice_of_nonneg _ inside.1 inside.2, first, long]
  rcases Nat.le_or_le a.toNat text.length with within | beyond
  · rw [Nat.min_eq_left within, List.take_eq_take_iff, List.length_drop]
    omega
  · rw [Nat.min_eq_right beyond, List.drop_eq_nil_of_le beyond, List.drop_length, List.take_nil,
      List.take_nil]

theorem unitsIn?_ofSpan {a b : Int} (order : a ≤ b) :
    unitsIn? (utf16Encode text) (Range.ofSpan text ⟨a, b⟩) =
      some (utf16Encode (slice text (clampTo text a) (clampTo text b))) := by
  have later : b.toNat = a.toNat + (b.toNat - a.toNat) := by omega
  have upTo : text.take b.toNat =
      text.take a.toNat ++ (text.drop a.toNat).take (b.toNat - a.toNat) := by
    rw [later, List.take_add, ← later]
  have whole : utf16Encode text = utf16Encode (text.take a.toNat) ++
      (utf16Encode ((text.drop a.toNat).take (b.toNat - a.toNat)) ++
        utf16Encode (text.drop b.toNat)) := by
    rw [← List.append_assoc, ← utf16Encode_append, ← upTo, ← utf16Encode_append,
      List.take_append_drop]
  have first : unitIndex? (utf16Encode text) (Range.ofSpan text ⟨a, b⟩).start =
      some (utf16Encode (text.take a.toNat)).length := unitIndex?_editorPosition text a
  have last : unitIndex? (utf16Encode text) (Range.ofSpan text ⟨a, b⟩).stop =
      some (utf16Encode (text.take b.toNat)).length := unitIndex?_editorPosition text b
  rw [unitsIn?, first, last, Option.bind_some, Option.map_some, slice_clampTo, upTo,
    utf16Encode_append, List.length_append]
  conv_lhs => rw [whole]
  rw [Int.natCast_add, slice_between]

theorem joined_of_tiles {start stop : Int} {statements : List Statement} (number : 0 ≤ start)
    (tiles : Tiles start stop statements) (inside : stop ≤ text.length) :
    Joined (editorPosition text start) (editorPosition text stop)
      (statements.map fun s => Range.ofSpan text s.span) := by
  induction statements generalizing start with
  | nil => exact congrArg (editorPosition text) tiles
  | cons s rest ih =>
    obtain ⟨begins, nonempty, tail⟩ := tiles
    have reach := tail.start_le
    have further : (editorPosition text s.span.start).before (editorPosition text s.span.stop) =
        true := by
      obtain ⟨i, first⟩ := Int.eq_ofNat_of_zero_le number
      obtain ⟨j, last⟩ := Int.eq_ofNat_of_zero_le (by omega : 0 ≤ s.span.stop)
      rw [begins, first, last]
      exact Position.ofOffset_before (by omega) (by omega)
    exact ⟨congrArg (editorPosition text) begins, further, ih (by omega) tail⟩

end Reader

/-- What an editor finds in a range is what the offsets cut out, later offsets have later positions,
and the statements of a text share it out among their ranges, from the origin to the end. -/
theorem ranges_exact (text : List Char) :
    (∀ a b : Int, a ≤ b → unitsIn? (utf16Encode text) (Range.ofSpan text ⟨a, b⟩) =
      some (utf16Encode (slice text (clampTo text a) (clampTo text b)))) ∧
    (∀ i j : Nat, i < j → j ≤ text.length →
      (editorPosition text i).before (editorPosition text j) = true) ∧
    ∃ last, unitIndex? (utf16Encode text) last = some (utf16Encode text).length ∧
      Joined Position.zero last ((parse text).map fun s => Range.ofSpan text s.span) := by
  refine ⟨fun a b order => unitsIn?_ofSpan order, fun i j less inside => ?_,
    editorPosition text text.length, ?_, ?_⟩
  · exact Position.ofOffset_before less inside
  · rw [unitIndex?_editorPosition, Int.toNat_natCast, List.take_length]
  · exact joined_of_tiles (Int.le_refl 0) (parse_divides text).tiles (Int.le_refl _)

theorem range_behind_pair :
    let text := ("😀\n" ++ marked "= x").toList
    (1 : Int) ≤ 99 ∧ Range.ofSpan text ⟨1, 99⟩ = ⟨⟨0, 2⟩, ⟨1, 7⟩⟩ ∧
      unitsIn? (utf16Encode text) ⟨⟨0, 2⟩, ⟨1, 7⟩⟩ = some (utf16Encode (text.drop 1)) ∧
      (editorPosition text 1).before (editorPosition text 2) = true ∧
      ∃ last, unitIndex? (utf16Encode text) last = some 10 ∧
        Joined Position.zero last [⟨⟨0, 0⟩, ⟨1, 0⟩⟩, ⟨⟨1, 0⟩, ⟨1, 7⟩⟩] := by
  intro text
  obtain ⟨exactly, ascends, last, atEnd, joined⟩ := ranges_exact text
  have range : Range.ofSpan text ⟨1, 99⟩ = ⟨⟨0, 2⟩, ⟨1, 7⟩⟩ := by decide
  have cut : slice text (clampTo text 1) (clampTo text 99) = text.drop 1 := by decide
  have units := exactly 1 99 (by decide)
  rw [range, cut] at units
  exact ⟨by decide, range, units, ascends 1 2 (by decide) (by decide), last, atEnd, joined⟩

end Editor

end JqTemplate
