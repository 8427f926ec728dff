import JqTemplate.Proofs.Parse

namespace JqTemplate

section Places

variable {a b : List Char} {mark : Char} {i start close : Nat}

theorem pairAt_append_left (inside : i + 2 ≤ a.length) :
    PairAt mark (a ++ b) i ↔ PairAt mark a i := by
  unfold PairAt
  rw [List.getElem?_append_left (by omega), List.getElem?_append_left (by omega)]

theorem pairAt_append_right : PairAt mark (a ++ b) (a.length + i) ↔ PairAt mark b i := by
  unfold PairAt
  rw [List.getElem?_append_right (by omega), List.getElem?_append_right (by omega)]
  simp [Nat.add_assoc]

theorem FirstCloseAt.append_left (h : FirstCloseAt a start close) :
    FirstCloseAt (a ++ b) start close := by
  have inside := h.2.1.lt_length
  refine ⟨h.1, (pairAt_append_left inside).mpr h.2.1, fun j after pair => ?_⟩
  by_cases within : j + 2 ≤ a.length
  · exact h.2.2 j after ((pairAt_append_left within).mp pair)
  · omega

theorem FirstCloseAt.of_append (h : FirstCloseAt (a ++ b) start close)
    (inside : close + 2 ≤ a.length) : FirstCloseAt a start close := by
  refine ⟨h.1, (pairAt_append_left inside).mp h.2.1, fun j after pair => ?_⟩
  exact h.2.2 j after ((pairAt_append_left pair.lt_length).mpr pair)

theorem firstCloseAt_append_right :
    FirstCloseAt (a ++ b) (a.length + start) (a.length + close) ↔ FirstCloseAt b start close := by
  constructor
  · intro h
    refine ⟨by have := h.1; omega, pairAt_append_right.mp h.2.1, fun j after pair => ?_⟩
    have := h.2.2 (a.length + j) (by omega) (pairAt_append_right.mpr pair)
    omega
  · intro h
    refine ⟨by have := h.1; omega, pairAt_append_right.mpr h.2.1, fun j after pair => ?_⟩
    obtain ⟨k, rfl⟩ := Nat.exists_eq_add_of_le (show a.length ≤ j by omega)
    have := h.2.2 k (by omega) (pairAt_append_right.mp pair)
    omega

theorem terminated_append_right : Terminated (a ++ b) (a.length + i) ↔ Terminated b i := by
  constructor
  · rintro ⟨opens, j, after, closes⟩
    obtain ⟨k, rfl⟩ := Nat.exists_eq_add_of_le (show a.length ≤ j by omega)
    exact ⟨pairAt_append_right.mp opens, k, by omega, pairAt_append_right.mp closes⟩
  · rintro ⟨opens, j, after, closes⟩
    exact ⟨pairAt_append_right.mpr opens, a.length + j, by omega, pairAt_append_right.mpr closes⟩

theorem inner_append_left (inside : close ≤ a.length) :
    (⟨start, close + 2⟩ : Span).inner (a ++ b) = (⟨start, close + 2⟩ : Span).inner a := by
  rw [Span.inner_nat, Span.inner_nat, List.take_drop, List.take_drop]
  by_cases order : start + 2 ≤ close
  · rw [List.take_append_of_le_length (by omega)]
  · rw [List.drop_eq_nil_of_le, List.drop_eq_nil_of_le] <;> simp <;> omega

theorem inner_append_right :
    (⟨(a.length + start : Nat), (a.length + close : Nat) + 2⟩ : Span).inner (a ++ b) =
      (⟨start, close + 2⟩ : Span).inner b := by
  have drops : a.length + start + 2 = a.length + (start + 2) := by omega
  have length : a.length + close - (a.length + (start + 2)) = close - (start + 2) := by omega
  rw [Span.inner_nat, Span.inner_nat, drops, length, List.drop_append,
    List.drop_eq_nil_of_le (by omega), List.nil_append, Nat.add_sub_cancel_left]

end Places

section Statements

variable {a b : List Char} {s : Statement}

theorem IsDirective.append_left (h : IsDirective a s) : IsDirective (a ++ b) s := by
  obtain ⟨start, close, span, opens, first, form⟩ := h
  have inside := first.2.1.lt_length
  refine ⟨start, close, span, (pairAt_append_left opens.lt_length).mpr opens, first.append_left, ?_⟩
  rw [form, span, inner_append_left (by omega)]

theorem IsDirective.of_append (h : IsDirective (a ++ b) s) (inside : s.span.stop ≤ a.length) :
    IsDirective a s := by
  obtain ⟨start, close, span, opens, first, form⟩ := h
  have order := first.1
  have within : close + 2 ≤ a.length := by
    simp only [span] at inside
    omega
  refine ⟨start, close, span, (pairAt_append_left (by omega)).mp opens, first.of_append within, ?_⟩
  rw [form, span, inner_append_left (by omega)]

theorem IsDirective.shift (h : IsDirective b s) : IsDirective (a ++ b) (s.shift a.length) := by
  obtain ⟨start, close, span, opens, first, form⟩ := h
  have moved : (s.shift a.length).span =
      ⟨(a.length + start : Nat), (a.length + close : Nat) + 2⟩ := by
    simp only [Statement.shift, Span.shift, span, Span.mk.injEq]
    omega
  refine ⟨a.length + start, a.length + close, moved, pairAt_append_right.mpr opens,
    firstCloseAt_append_right.mpr first, ?_⟩
  rw [moved, inner_append_right, ← span]
  exact form

theorem IsDirective.unshift (h : IsDirective (a ++ b) (s.shift a.length))
    (front : 0 ≤ s.span.start) : IsDirective b s := by
  obtain ⟨start, close, span, opens, first, form⟩ := h
  have order := first.1
  simp only [Statement.shift, Span.shift, Span.mk.injEq] at span
  obtain ⟨start, rfl⟩ := Nat.exists_eq_add_of_le (show a.length ≤ start by omega)
  obtain ⟨close, rfl⟩ := Nat.exists_eq_add_of_le (show a.length ≤ close by omega)
  have place : s.span = ⟨start, close + 2⟩ := by
    cases here : s.span
    simp only [here, Span.mk.injEq] at span ⊢
    omega
  have moved : (s.shift a.length).span =
      ⟨(a.length + start : Nat), (a.length + close : Nat) + 2⟩ := by
    simp only [Statement.shift, Span.shift, place, Span.mk.injEq]
    omega
  refine ⟨start, close, place, pairAt_append_right.mp opens, firstCloseAt_append_right.mp first, ?_⟩
  rw [moved, inner_append_right, ← place] at form
  exact form

theorem isLiteral_shift_iff {span : Span} (front : 0 ≤ span.start) :
    IsLiteral (a ++ b) (span.shift a.length) ↔ IsLiteral b span := by
  constructor
  · intro h i after before terminated
    refine h (a.length + i) ?_ ?_ (terminated_append_right.mpr terminated)
    · simp only [Span.shift]
      omega
    · simp only [Span.shift]
      omega
  · intro h i after before terminated
    simp only [Span.shift] at after before
    obtain ⟨k, rfl⟩ := Nat.exists_eq_add_of_le (show a.length ≤ i by omega)
    exact h k (by omega) (by omega) (terminated_append_right.mp terminated)

end Statements

theorem Tiles.shift {start stop : Int} {statements : List Statement}
    (h : Tiles start stop statements) (steps : Int) :
    Tiles (start + steps) (stop + steps) (statements.map (fun s => s.shift steps)) := by
  induction statements generalizing start with
  | nil => exact congrArg (· + steps) h
  | cons s rest ih =>
    obtain ⟨begins, nonempty, tail⟩ := h
    refine ⟨?_, ?_, ih tail⟩
    · simp [Statement.shift, Span.shift, begins]
    · simp only [Statement.shift, Span.shift]
      omega

theorem tiles_append {start stop : Int} {xs ys : List Statement} :
    Tiles start stop (xs ++ ys) ↔ ∃ middle, Tiles start middle xs ∧ Tiles middle stop ys := by
  induction xs generalizing start with
  | nil => simp [Tiles]
  | cons s rest ih =>
    simp only [List.cons_append, Tiles, ih]
    constructor
    · rintro ⟨begins, nonempty, middle, before, behind⟩
      exact ⟨middle, ⟨begins, nonempty, before⟩, behind⟩
    · rintro ⟨middle, ⟨begins, nonempty, before⟩, behind⟩
      exact ⟨begins, nonempty, middle, before, behind⟩

theorem Statement.isContent_shift (s : Statement) (steps : Int) :
    (s.shift steps).isContent = s.isContent := rfl

theorem Statement.shift_shift (s : Statement) (x y : Int) :
    (s.shift x).shift y = s.shift (x + y) := by
  simp [shift, Span.shift, Int.add_assoc]

theorem Statement.shift_zero (s : Statement) : s.shift 0 = s := by
  simp [shift, Span.shift]

namespace DividesBetween

variable {text a b : List Char} {start middle stop : Int} {xs ys : List Statement}

theorem front (h : DividesBetween text start stop (xs ++ ys)) (tiles : Tiles start middle xs) :
    DividesBetween text start middle xs where
  tiles := tiles
  directives s member := h.directives s (List.mem_append_left _ member)
  literals s member := h.literals s (List.mem_append_left _ member)
  apart := (List.isChain_append.mp h.apart).1

theorem back (h : DividesBetween text start stop (xs ++ ys)) (tiles : Tiles middle stop ys) :
    DividesBetween text middle stop ys where
  tiles := tiles
  directives s member := h.directives s (List.mem_append_right _ member)
  literals s member := h.literals s (List.mem_append_right _ member)
  apart := (List.isChain_append.mp h.apart).2.1

theorem append (hx : DividesBetween text start middle xs)
    (hy : DividesBetween text middle stop ys)
    (apart : ∀ s ∈ xs.getLast?, ∀ t ∈ ys.head?, Apart s t) :
    DividesBetween text start stop (xs ++ ys) where
  tiles := tiles_append.mpr ⟨middle, hx.tiles, hy.tiles⟩
  directives s member :=
    (List.mem_append.mp member).elim (hx.directives s) (hy.directives s)
  literals s member := (List.mem_append.mp member).elim (hx.literals s) (hy.literals s)
  apart := List.isChain_append.mpr ⟨hx.apart, hy.apart, apart⟩

/-- What stands behind `a` divides as it does on its own. -/
theorem shift_iff (front : 0 ≤ start) :
    DividesBetween (a ++ b) (start + a.length) (stop + a.length)
        (xs.map (fun s => s.shift a.length)) ↔
      DividesBetween b start stop xs := by
  have back : ∀ s : Statement, (s.shift a.length).shift (-a.length) = s := fun s => by
    rw [Statement.shift_shift, Int.add_right_neg, Statement.shift_zero]
  constructor
  · intro h
    have tiles : Tiles start stop xs := by
      have moved := h.tiles.shift (-a.length)
      simpa [List.map_map, Function.comp_def, back, Int.add_assoc, Int.add_right_neg] using moved
    have begins : ∀ s ∈ xs, 0 ≤ s.span.start := fun s member =>
      Int.le_trans front (tiles.start_le_of_mem member)
    refine ⟨tiles, fun s member directive => ?_, fun s member content => ?_,
      (List.isChain_map (fun s : Statement => s.shift a.length)).mp h.apart⟩
    · exact (h.directives _ (List.mem_map_of_mem member) directive).unshift (begins s member)
    · exact (isLiteral_shift_iff (begins s member)).mp
        (h.literals _ (List.mem_map_of_mem member) content)
  · intro h
    refine ⟨h.tiles.shift a.length, fun s member directive => ?_, fun s member content => ?_,
      (List.isChain_map (fun s : Statement => s.shift a.length)).mpr h.apart⟩
    · obtain ⟨t, among, rfl⟩ := List.mem_map.mp member
      exact (h.directives t among directive).shift
    · obtain ⟨t, among, rfl⟩ := List.mem_map.mp member
      exact (isLiteral_shift_iff (Int.le_trans front (h.tiles.start_le_of_mem among))).mpr
        (h.literals t among content)

end DividesBetween

theorem PairAt.exchange {pre x y : List Char} {mark : Char} {i : Nat}
    (h : PairAt mark (pre ++ x) i) (inside : i < pre.length) (same : x.head? = y.head?) :
    PairAt mark (pre ++ y) i := by
  have next : (pre ++ x)[i + 1]? = (pre ++ y)[i + 1]? := by
    rw [List.getElem?_append, List.getElem?_append]
    split
    · rfl
    · have border : i + 1 - pre.length = 0 := by omega
      rw [border, ← List.head?_eq_getElem?, ← List.head?_eq_getElem?, same]
  unfold PairAt at h ⊢
  rw [List.getElem?_append_left inside] at h ⊢
  exact ⟨h.1, next ▸ h.2⟩

/-- A pair of opening braces inside a literal run has no terminator behind it, so before a
directive there is none. -/
theorem not_pairAt_before_directive {text : List Char} {xs ys : List Statement} {d : Statement}
    (h : Divides text (xs ++ d :: ys)) (directive : d.isContent = false) {s : Statement}
    (member : s ∈ xs) (content : s.isContent = true) {i : Nat} (after : s.span.start ≤ i)
    (before : i < s.span.stop) : ¬ PairAt '{' text i := by
  intro opens
  obtain ⟨start, close, span, _, first, _⟩ := h.directives d (by simp) directive
  have order := (List.pairwise_append.mp h.tiles.inOrder.2).2.2 s member d List.mem_cons_self
  have behind := first.1
  simp only [span] at order
  exact h.literals s (List.mem_append_left _ member) content i after before
    ⟨opens, close, by omega, first.2.1⟩

section Exchange

variable {pre d r post : List Char} {before after : List Statement} {s t : Statement}

theorem DividesBetween.before_exchange
    (h : Divides (pre ++ (d ++ post)) (before ++ s :: after)) (directive : s.isContent = false)
    (begins : s.span.start = pre.length) (same : (d ++ post).head? = (r ++ post).head?) :
    DividesBetween (pre ++ (r ++ post)) 0 pre.length before := by
  obtain ⟨middle, tiles, rest⟩ := tiles_append.mp h.tiles
  obtain rfl : (pre.length : Int) = middle := begins ▸ rest.1
  have inside : ∀ u ∈ before, u.span.stop ≤ pre.length := fun u member =>
    begins ▸ (List.pairwise_append.mp h.tiles.inOrder.2).2.2 u member s List.mem_cons_self
  have front := DividesBetween.front h tiles
  refine ⟨tiles, fun u member directs => ?_, fun u member content i later early => ?_,
    front.apart⟩
  · exact ((front.directives u member directs).of_append (inside u member)).append_left
  · rintro ⟨opens, _⟩
    have bound := inside u member
    exact not_pairAt_before_directive h directive member content later early
      (opens.exchange (by omega) same.symm)

theorem head?_of_pairAt {text : List Char} {mark : Char} (h : PairAt mark text 0) (x : List Char) :
    (text ++ x).head? = some mark := by
  rw [List.head?_append, List.head?_eq_getElem?, h.1]
  rfl

theorem DividesFrom.behind_exchange {a c b : List Char} {ys : List Statement}
    (h : DividesFrom (a ++ b) a.length ys) :
    DividesFrom (c ++ b) c.length (ys.map (fun u => u.shift (c.length - a.length))) := by
  have home : DividesBetween b 0 b.length (ys.map (fun u => u.shift (-a.length))) := by
    refine (DividesBetween.shift_iff (a := a) (Int.le_refl 0)).mp ?_
    have back : ∀ u : Statement, (u.shift (-a.length)).shift a.length = u := fun u => by
      rw [Statement.shift_shift, Int.add_left_neg, Statement.shift_zero]
    simpa [DividesFrom, List.map_map, Function.comp_def, back, Int.add_comm] using h
  have away := (DividesBetween.shift_iff (a := c) (Int.le_refl 0)).mpr home
  have moved : ∀ u : Statement, (u.shift (-a.length)).shift c.length =
      u.shift (c.length - a.length) := fun u => by
    rw [Statement.shift_shift, Int.sub_eq_add_neg, Int.add_comm]
  simpa [DividesFrom, List.map_map, Function.comp_def, moved, Int.add_comm] using away

theorem Divides.behind {a b : List Char} (h : Divides (a ++ b) (before ++ s :: after))
    (ends : s.span.stop = a.length) : DividesFrom (a ++ b) a.length after := by
  obtain ⟨_, _, rest⟩ := tiles_append.mp h.tiles
  exact ends ▸ DividesFrom.tail (DividesBetween.back h rest)

theorem IsDirective.opens_at {text : List Char} {i : Nat} (h : IsDirective text s)
    (begins : s.span.start = i) : PairAt '{' text i := by
  obtain ⟨start, _, span, opens, _, _⟩ := h
  obtain rfl : start = i := by
    simp only [span] at begins
    omega
  exact opens

/-- A directive is exchanged for another one: the statements before it stay, and those behind it
move with the text. -/
theorem Divides.exchange (h : Divides (pre ++ (d ++ post)) (before ++ s :: after))
    (directive : s.isContent = false) (place : s.span = ⟨pre.length, pre.length + d.length⟩)
    (new : IsDirective r t) (whole : t.span = ⟨0, r.length⟩) :
    Divides (pre ++ (r ++ post)) (before ++ t.shift pre.length ::
      after.map (fun u => u.shift (r.length - d.length))) := by
  have begins : s.span.start = pre.length := by rw [place]
  -- Both directives begin with a brace, so the text before them ends in the same pairs.
  have same : (d ++ post).head? = (r ++ post).head? := by
    have old : PairAt '{' (d ++ post) 0 :=
      pairAt_append_right.mp ((h.directives s (by simp) directive).opens_at begins)
    have opens : PairAt '{' r 0 := new.opens_at (by rw [whole]; rfl)
    rw [head?_of_pairAt opens, ← List.append_nil (d ++ post), head?_of_pairAt old]
  have front := DividesBetween.before_exchange h directive begins same
  have behind : DividesFrom (pre ++ (r ++ post)) (pre ++ r).length
      (after.map (fun u => u.shift (r.length - d.length))) := by
    have distance : ((pre ++ r).length : Int) - (pre ++ d).length = r.length - d.length := by
      simp only [List.length_append]
      omega
    rw [← List.append_assoc] at h
    have old := Divides.behind h (by rw [place]; simp)
    rw [← distance, ← List.append_assoc]
    exact old.behind_exchange
  have moved : (t.shift pre.length).span = ⟨pre.length, (pre ++ r).length⟩ := by
    simp [Statement.shift, Span.shift, whole, Int.add_comm]
  rw [show ((pre ++ r).length : Int) = (t.shift pre.length).span.stop by rw [moved]] at behind
  have tail := DividesFrom.directive new.append_left.shift behind
  rw [moved] at tail
  refine front.append tail fun u _ v first ⟨_, content⟩ => ?_
  obtain rfl : t.shift pre.length = v := by simpa using first
  rw [Statement.isContent_shift, new.not_content] at content
  contradiction

end Exchange

end JqTemplate
