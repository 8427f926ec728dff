import JqTemplate.Block.Nesting
import JqTemplate.Proofs.Splice

namespace JqTemplate

theorem Terminated.append_left {a b : List Char} {i : Nat} (h : Terminated a i) :
    Terminated (a ++ b) i := by
  obtain ⟨opens, j, after, closes⟩ := h
  exact ⟨(pairAt_append_left opens.lt_length).mpr opens, j, after,
    (pairAt_append_left closes.lt_length).mpr closes⟩

theorem Tiles.behind {start border stop : Int} {xs ys : List Statement}
    (h : Tiles start stop (xs ++ ys)) (front : Tiles start border xs) : Tiles border stop ys := by
  induction xs generalizing start with
  | nil =>
    obtain rfl : start = border := front
    exact h
  | cons s rest ih => exact ih h.2.2 front.2.2

section Cut

variable {text a b : List Char} {border : Int} {xs ys : List Statement}

theorem DividesBetween.of_append (h : DividesBetween (a ++ b) 0 a.length xs) : Divides a xs where
  tiles := h.tiles
  directives := by
    intro s member directive
    exact (h.directives s member directive).of_append (h.tiles.stop_le_of_mem member)
  literals := by
    -- the half has no terminators that the whole does not have
    intro s member content i after before terminated
    exact h.literals s member content i after before terminated.append_left
  apart := h.apart

theorem DividesFrom.of_append (h : DividesFrom (a ++ b) a.length ys) :
    Divides b (ys.map fun s => s.shift (-a.length)) := by
  simpa [Divides] using h.behind_exchange (c := [])

theorem Divides.cut (h : Divides text (xs ++ ys)) (front : Tiles 0 border xs) :
    Divides (text.take border.toNat) xs ∧
      Divides (text.drop border.toNat) (ys.map fun s => s.shift (-border)) := by
  have behind := h.tiles.behind front
  have length : border = (text.take border.toNat).length := by
    have below := front.start_le
    have above := behind.start_le
    rw [List.length_take]
    omega
  have whole := (List.take_append_drop border.toNat text).symm
  generalize text.take border.toNat = a, text.drop border.toNat = b at length whole
  subst length whole
  exact ⟨(DividesBetween.front h front).of_append,
    DividesFrom.of_append (DividesBetween.back h behind)⟩

end Cut

section Join

variable {a b : List Char} {xs ys : List Statement} {s t : Statement}

/-- No pair of opening braces begins in the span, terminated or not. -/
def NoOpening (text : List Char) (span : Span) : Prop :=
  ∀ i : Nat, span.start ≤ i → i < span.stop → ¬ PairAt '{' text i

theorem Divides.directive_behind (h : Divides a (xs ++ s :: t :: ys))
    (content : s.isContent = true) : t.isContent = false := by
  have neighbours := (List.isChain_append.mp h.apart).2.1
  have both : Apart s t := (List.isChain_cons_cons.mp neighbours).1
  cases next : t.isContent with
  | false => rfl
  | true => exact absurd ⟨content, next⟩ both

theorem Divides.followed (h : Divides a xs)
    (quiet : ∀ s ∈ xs.getLast?, s.isContent = true → NoOpening (a ++ b) s.span) :
    DividesBetween (a ++ b) 0 a.length xs where
  tiles := h.tiles
  directives s member own := (h.directives s member own).append_left
  literals := by
    intro s member content i after before
    rintro ⟨opens, _⟩
    obtain ⟨front, behind, rfl⟩ := List.append_of_mem member
    cases behind with
    | nil => exact quiet s (by simp) content i after before opens
    | cons t further =>
      -- the pair stands in `a` too, in front of a directive
      have split : Divides a ((front ++ [s]) ++ t :: further) := by simpa using h
      have inside : i + 2 ≤ a.length := by
        have order := (List.pairwise_append.mp split.tiles.inOrder.2).2.2 s (by simp) t (by simp)
        have long := h.tiles.inOrder.1 t (by simp)
        have bound := h.tiles.stop_le_of_mem (s := t) (by simp)
        omega
      exact not_pairAt_before_directive split (h.directive_behind content) (by simp) content after
        before ((pairAt_append_left inside).mp opens)
  apart := h.apart

theorem Divides.join (ha : Divides a xs)
    (quiet : ∀ s ∈ xs.getLast?, s.isContent = true → NoOpening (a ++ b) s.span)
    (hb : Divides b ys) (apart : ∀ s ∈ xs.getLast?, ∀ t ∈ ys.head?, Apart s t) :
    Divides (a ++ b) (xs ++ ys.map fun s => s.shift a.length) := by
  have behind : DividesFrom (a ++ b) a.length (ys.map fun s => s.shift a.length) := by
    simpa using DividesFrom.behind_exchange (a := []) (c := a) hb
  refine (ha.followed quiet).append behind fun s last t moved => ?_
  rw [List.head?_map] at moved
  obtain ⟨u, first, rfl⟩ := Option.map_eq_some_iff.mp moved
  exact apart s last u first

end Join

theorem parse_nil : parse [] = [] := by
  decide

theorem parse_join {a b : List Char}
    (quiet : ∀ s ∈ (parse a).getLast?, s.isContent = true → NoOpening (a ++ b) s.span)
    (apart : ∀ s ∈ (parse a).getLast?, ∀ t ∈ (parse b).head?, Apart s t) :
    parse (a ++ b) = parse a ++ (parse b).map fun s => s.shift a.length :=
  (eq_parse_of_divides ((parse_divides a).join quiet (parse_divides b) apart)).symm

theorem parse_append {a b : List Char}
    (complete : a = [] ∨ ∃ d ∈ (parse a).getLast?, d.isContent = false) :
    parse (a ++ b) = parse a ++ (parse b).map fun s => s.shift a.length := by
  have directive : ∀ s ∈ (parse a).getLast?, s.isContent = false := by
    rcases complete with rfl | ⟨d, last, directive⟩
    · simp [parse_nil]
    · intro s member
      obtain rfl := Option.mem_unique member last
      exact directive
  apply parse_join
  · intro s last content
    simp [directive s last] at content
  · intro s last t _ both
    simp [directive s last] at both

section Statements

variable {text : List Char} {before after : List Statement} {s : Statement}

theorem parse_cut (parsed : parse text = before ++ s :: after) :
    parse (text.take s.span.stop.toNat) = before ++ [s] ∧
      parse (text.drop s.span.stop.toNat) = after.map fun t => t.shift (-s.span.stop) := by
  have divides : Divides text ((before ++ [s]) ++ after) := by
    rw [List.append_assoc, List.singleton_append, ← parsed]
    exact parse_divides text
  obtain ⟨border, front, _⟩ := tiles_append.mp divides.tiles
  obtain ⟨_, _, _, _, ends⟩ := tiles_append.mp front
  obtain rfl : s.span.stop = border := ends
  obtain ⟨left, right⟩ := divides.cut front
  exact ⟨(eq_parse_of_divides left).symm, (eq_parse_of_divides right).symm⟩

theorem parse_own_text (parsed : parse text = before ++ s :: after) :
    parse (s.span.text text) = [s.shift (-s.span.start)] := by
  -- its text lies between two cuts
  have divides := parse_divides text
  rw [parsed] at divides
  obtain ⟨border, front, begins, long, _⟩ := tiles_append.mp divides.tiles
  obtain rfl : s.span.start = border := begins
  have behind := (divides.cut front).2
  have alone : Tiles 0 (s.span.stop - s.span.start) [s.shift (-s.span.start)] := by
    refine ⟨Int.add_right_neg _, ?_, rfl⟩
    simp only [Statement.shift, Span.shift]
    omega
  have own : Divides ((text.drop s.span.start.toNat).take (s.span.stop - s.span.start).toNat)
      [s.shift (-s.span.start)] := (Divides.cut behind alone).1
  have positive := front.start_le
  rw [Span.text, slice_of_nonneg text positive (by omega)]
  exact (eq_parse_of_divides own).symm

end Statements

/-- Reading goes piece by piece: a text that is empty or ends with a directive is read apart from
what follows it, a text can be cut where a statement ends, and each statement is read from its own
text. -/
theorem parse_piecewise :
    (∀ a b, (a = [] ∨ ∃ d ∈ (parse a).getLast?, d.isContent = false) →
      parse (a ++ b) = parse a ++ (parse b).map fun s => s.shift a.length) ∧
    (∀ text before s after, parse text = before ++ s :: after →
      parse (text.take s.span.stop.toNat) = before ++ [s] ∧
      parse (text.drop s.span.stop.toNat) = after.map fun t => t.shift (-s.span.stop)) ∧
    ∀ text, ∀ s ∈ parse text, parse (s.span.text text) = [s.shift (-s.span.start)] := by
  refine ⟨fun a b => parse_append, fun text before s after parsed => parse_cut parsed, ?_⟩
  intro text s read
  obtain ⟨before, after, parsed⟩ := List.append_of_mem read
  exact parse_own_text parsed

/-- A third brace behind a directive is not taken into its marks. -/
theorem brace_behind_directive :
    (∃ d ∈ (parse (marked "=x").toList).getLast?, d.isContent = false) ∧
    parse ((marked "=x").toList ++ ('}' :: (marked "/if").toList)) =
      [⟨.directive .print, ⟨0, 6⟩⟩, ⟨.content, ⟨6, 7⟩⟩, ⟨.directive .closeIf, ⟨7, 14⟩⟩] ∧
    parse ((marked "=x").toList ++ ['}']) =
      [⟨.directive .print, ⟨0, 6⟩⟩, ⟨.content, ⟨6, 7⟩⟩] ∧
    parse ['}'] = [⟨.content, ⟨0, 1⟩⟩] := by
  have directive : ∃ d ∈ (parse (marked "=x").toList).getLast?, d.isContent = false := by decide
  have joined := parse_piecewise.1 _ ('}' :: (marked "/if").toList) (.inr directive)
  have whole : parse ((marked "=x").toList ++ ('}' :: (marked "/if").toList)) =
      [⟨.directive .print, ⟨0, 6⟩⟩, ⟨.content, ⟨6, 7⟩⟩, ⟨.directive .closeIf, ⟨7, 14⟩⟩] :=
    joined.trans (by decide)
  have before := (parse_piecewise.2.1 _ [_] _ [_] whole).1
  have alone := parse_piecewise.2.2 ((marked "=x").toList ++ ('}' :: (marked "/if").toList))
    ⟨.content, ⟨6, 7⟩⟩ (by rw [whole]; decide)
  exact ⟨directive, whole, before, alone⟩

end JqTemplate
