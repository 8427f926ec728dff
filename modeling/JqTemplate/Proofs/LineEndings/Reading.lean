import JqTemplate.Proofs.Enclosed
import JqTemplate.Proofs.Head
import JqTemplate.Proofs.LineEndings

namespace JqTemplate

def Form.thin : Form → Form
  | .unknown body => .unknown (withoutReturns body)
  | form => form

def Span.thin (text : List Char) (s : Span) : Span :=
  ⟨thinned text s.start.toNat, thinned text s.stop.toNat⟩

def Statement.thin (text : List Char) (s : Statement) : Statement :=
  ⟨s.form.thin, s.span.thin text⟩

section Bodies

variable {body rest word : List Char} {k : Keyword}

/-- A test of the first character that the two characters of a line ending pass alike. -/
theorem head?_any_withoutReturns (paired : PairedReturns rest) {p : Char → Bool}
    (same : p '\r' = p '\n') : (withoutReturns rest).head?.any p = rest.head?.any p := by
  induction rest, paired using PairedReturns.induction with
  | nil => rfl
  | pair rest paired _ =>
    rw [withoutReturns_return, withoutReturns_feed]
    exact same.symm
  | other c rest kept paired _ =>
    rw [withoutReturns_cons kept]
    rfl

theorem isEmpty_withoutReturns (paired : PairedReturns rest) :
    (withoutReturns rest).isEmpty = rest.isEmpty := by
  induction rest, paired using PairedReturns.induction with
  | nil => rfl
  | pair rest paired _ => simp
  | other c rest kept paired _ => simp [withoutReturns_cons kept]

theorem exists_of_withoutReturns_append (paired : PairedReturns body) (plain : '\n' ∉ word)
    (thin : withoutReturns body = word ++ rest) :
    ∃ behind, body = word ++ behind ∧ PairedReturns behind ∧ withoutReturns behind = rest := by
  induction word generalizing body with
  | nil => exact ⟨body, rfl, paired, thin⟩
  | cons c word ih =>
    rw [List.mem_cons, not_or] at plain
    obtain ⟨behind, rfl, paired, thin⟩ :=
      exists_of_withoutReturns_cons paired (Ne.symm plain.1) thin
    obtain ⟨behind, rfl, paired, thin⟩ := ih paired plain.2 thin
    exact ⟨behind, rfl, paired, thin⟩

theorem letters_one_line (k : Keyword) : '\r' ∉ k.letters ∧ '\n' ∉ k.letters := by
  cases k <;> decide

theorem acceptsRest_withoutReturns (paired : PairedReturns rest) :
    k.acceptsRest (withoutReturns rest) = k.acceptsRest rest := by
  have boundary : (withoutReturns rest).head?.any Text.isWordChar =
      rest.head?.any Text.isWordChar := head?_any_withoutReturns paired (by decide)
  rw [Keyword.acceptsRest, boundary, isEmpty_withoutReturns paired, Keyword.acceptsRest]

theorem fits_withoutReturns (paired : PairedReturns body) :
    k.fits (withoutReturns body) = k.fits body := by
  obtain ⟨noReturn, noFeed⟩ := letters_one_line k
  rw [Bool.eq_iff_iff, Keyword.fits_iff, Keyword.fits_iff]
  constructor
  · rintro ⟨rest, thin, accepts⟩
    obtain ⟨behind, rfl, pairedBehind, rfl⟩ := exists_of_withoutReturns_append paired noFeed thin
    exact ⟨behind, rfl, (acceptsRest_withoutReturns pairedBehind).symm.trans accepts⟩
  · rintro ⟨rest, rfl, accepts⟩
    refine ⟨withoutReturns rest, ?_, (acceptsRest_withoutReturns paired.right).trans accepts⟩
    rw [withoutReturns_append, withoutReturns_of_not_mem noReturn]

theorem ofBody_withoutReturns (paired : PairedReturns body) :
    Form.ofBody (withoutReturns body) = (Form.ofBody body).thin := by
  have same : recognize (withoutReturns body) = recognize body := by
    simp only [recognize, recognizeIn, fits_withoutReturns paired]
  unfold Form.ofBody
  rw [same]
  cases recognize body with
  | none => rfl
  | some k => rfl

theorem withoutReturns_enclosed (body : List Char) :
    withoutReturns (enclosed body) = enclosed (withoutReturns body) := by
  simp only [enclosed, withoutReturns_append]
  rfl

theorem IsBody.thin (is : IsBody body) (paired : PairedReturns body) :
    IsBody (withoutReturns body) := by
  have closed : withoutReturns (body ++ ['}', '}']) = withoutReturns body ++ ['}', '}'] := by
    rw [withoutReturns_append]
    rfl
  refine ⟨Nat.zero_le _, ?_, fun j _ pair => ?_⟩
  · exact pairAt_append_right (i := 0).mpr ⟨rfl, rfl⟩
  · rw [← closed] at pair
    obtain ⟨i, rfl, before⟩ := exists_pairAt (paired.append (.of_not_mem (by decide))) (by decide) pair
    rw [← thinned_append body ['}', '}']]
    exact thinned_mono (is.2.2 i (Nat.zero_le i) before)

end Bodies

theorem enclosed_paired (paired : PairedReturns body) : PairedReturns (enclosed body) :=
  (PairedReturns.of_not_mem (by decide)).append (paired.append (.of_not_mem (by decide)))

section Statements

variable {text : List Char} {s : Statement} {statements rest : List Statement} {start stop : Int}

theorem IsDirective.split_paired (h : IsDirective text s) (paired : PairedReturns text) :
    ∃ pre body post, text = pre ++ (enclosed body ++ post) ∧ IsBody body ∧
      s = ⟨Form.ofBody body, ⟨pre.length, pre.length + (enclosed body).length⟩⟩ ∧
      PairedReturns pre ∧ PairedReturns body := by
  obtain ⟨pre, body, post, rfl, is, place⟩ := h.split
  have shape : enclosed body ++ post = ['{', '{'] ++ (body ++ (['}', '}'] ++ post)) := by
    simp [enclosed]
  have behind : PairedReturns (['{', '{'] ++ (body ++ (['}', '}'] ++ post))) := shape ▸ paired.right
  exact ⟨pre, body, post, rfl, is, place, paired.left (by simp [enclosed]),
    behind.right.left (by simp)⟩

theorem thin_place (pre body post : List Char) :
    (⟨pre.length, pre.length + (enclosed body).length⟩ : Span).thin
        (pre ++ (enclosed body ++ post)) =
      ⟨(withoutReturns pre).length,
        (withoutReturns pre).length + (enclosed (withoutReturns body)).length⟩ := by
  have begins := thinned_append pre (enclosed body ++ post)
  have ends := thinned_append (pre ++ enclosed body) post
  rw [List.length_append, List.append_assoc, withoutReturns_append, withoutReturns_enclosed,
    List.length_append] at ends
  have whole : ((pre.length : Int) + (enclosed body).length).toNat =
      pre.length + (enclosed body).length := by omega
  simp only [Span.thin, Int.toNat_natCast, whole, begins, ends]
  rfl

theorem IsDirective.thin (h : IsDirective text s) (paired : PairedReturns text) :
    IsDirective (withoutReturns text) (s.thin text) := by
  obtain ⟨pre, body, post, rfl, is, rfl, before, inside⟩ := h.split_paired paired
  have moved := (is.thin inside).isDirective.append_left (b := withoutReturns post)
  have placed := moved.shift (a := withoutReturns pre)
  rw [Statement.thin, thin_place, ← ofBody_withoutReturns inside, withoutReturns_append,
    withoutReturns_append, withoutReturns_enclosed]
  simpa [Statement.shift, Span.shift, Int.add_comm] using placed

/-- A terminated opening that is left without the returns was one with them. -/
theorem IsLiteral.thin {span : Span} (h : IsLiteral text span) (paired : PairedReturns text)
    (front : 0 ≤ span.start) (order : span.start ≤ span.stop) :
    IsLiteral (withoutReturns text) (span.thin text) := by
  rintro j after before ⟨opening, j', apart, closing⟩
  obtain ⟨i, rfl, opens⟩ := exists_pairAt paired (by decide) opening
  obtain ⟨i', rfl, closes⟩ := exists_pairAt paired (by decide) closing
  simp only [Span.thin] at after before
  refine h i ?_ ?_ ⟨opens, i', ?_, closes⟩
  · by_contra early
    have less : thinned text i < thinned text span.start.toNat :=
      thinned_lt opens.1 (by decide) (by omega)
    omega
  · by_contra late
    have more : thinned text span.stop.toNat ≤ thinned text i := thinned_mono (by omega)
    omega
  · by_contra near
    have step := thinned_succ opens.1 (by decide)
    have less : thinned text i' ≤ thinned text (i + 1) := thinned_mono (by omega)
    omega

theorem feed_behind_return (paired : PairedReturns text) {i : Nat} (here : text[i]? = some '\r') :
    text[i + 1]? = some '\n' := by
  induction text, paired using PairedReturns.induction generalizing i with
  | nil => contradiction
  | pair rest paired ih =>
    match i with
    | 0 => rfl
    | 1 => exact absurd here (by simp)
    | i + 2 => exact ih here
  | other c rest kept paired ih =>
    cases i with
    | zero => exact absurd (Option.some.inj here) kept
    | succ i => exact ih here

/-- No statement consists of returns alone: the one behind a return would begin with its line
feed. -/
theorem thinned_long (divides : DividesFrom text start (s :: rest)) (front : 0 ≤ start)
    (paired : PairedReturns text) :
    thinned text s.span.start.toNat < thinned text s.span.stop.toNat := by
  obtain ⟨begins, long, tail⟩ := divides.tiles
  have bound := tail.start_le
  obtain ⟨i, first⟩ := Int.eq_ofNat_of_zero_le (begins.symm ▸ front : 0 ≤ s.span.start)
  obtain ⟨j, last⟩ := Int.eq_ofNat_of_zero_le (show 0 ≤ s.span.stop by omega)
  have inside : i < text.length := by omega
  have here : text[i]? = some text[i] := List.getElem?_eq_getElem inside
  rw [first, last, Int.toNat_natCast, Int.toNat_natCast]
  by_cases kept : text[i] = '\r'
  · rw [kept] at here
    have feed := feed_behind_return paired here
    -- A line feed opens no directive, and ends no run of content either.
    have held : i + 1 < j := by
      by_contra short
      obtain rfl : j = i + 1 := by omega
      have more := (List.getElem?_eq_some_iff.mp feed).1
      cases content : s.isContent with
      | false =>
        have opens := ((divides.directives s List.mem_cons_self content).terminated first).1.1
        rw [here] at opens
        contradiction
      | true =>
        have opens := (divides.terminated_after_literal content last more).1.1
        rw [feed] at opens
        contradiction
    have step : thinned text i ≤ thinned text (i + 1) := thinned_mono (Nat.le_succ i)
    exact Nat.lt_of_le_of_lt step (thinned_lt feed (by decide) held)
  · exact thinned_lt here kept (by omega)

theorem DividesFrom.thin_tiles (divides : DividesFrom text start statements) (front : 0 ≤ start)
    (paired : PairedReturns text) :
    Tiles (thinned text start.toNat) (withoutReturns text).length
      (statements.map (Statement.thin text)) := by
  induction statements generalizing start with
  | nil =>
    obtain rfl : start = text.length := divides.tiles
    rw [Int.toNat_natCast, thinned_length]
    rfl
  | cons s rest ih =>
    obtain ⟨begins, long, _⟩ := divides.tiles
    have later := ih divides.tail (by omega)
    subst begins
    exact ⟨rfl, Int.ofNat_lt.mpr (thinned_long divides front paired), later⟩

theorem isContent_thin (text : List Char) (s : Statement) :
    (s.thin text).isContent = s.isContent := by
  obtain ⟨form, span⟩ := s
  cases form <;> rfl

theorem Divides.thin (divides : Divides text statements) (paired : PairedReturns text) :
    Divides (withoutReturns text) (statements.map (Statement.thin text)) where
  tiles := DividesFrom.thin_tiles divides (Int.le_refl 0) paired
  directives := by
    intro t member directive
    obtain ⟨s, read, rfl⟩ := List.mem_map.mp member
    rw [isContent_thin] at directive
    exact (divides.directives s read directive).thin paired
  literals := by
    intro t member content
    obtain ⟨s, read, rfl⟩ := List.mem_map.mp member
    rw [isContent_thin] at content
    have long := divides.tiles.inOrder.1 s read
    exact (divides.literals s read content).thin paired (divides.tiles.start_le_of_mem read)
      (Int.le_of_lt long)
  apart := by
    apply (List.isChain_map (Statement.thin text)).mpr
    apply divides.apart.imp
    intro s t apart
    rwa [Apart, isContent_thin, isContent_thin]

theorem parse_withoutReturns (paired : PairedReturns text) :
    parse (withoutReturns text) = (parse text).map (Statement.thin text) :=
  (eq_parse_of_divides ((parse_divides text).thin paired)).symm

end Statements

end JqTemplate
