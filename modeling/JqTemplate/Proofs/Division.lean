import JqTemplate.Proofs.Terminator
import Mathlib.Data.List.Chain
import Mathlib.Data.List.Nodup

/-! What the statement list of a text is, said without the scanner: a division of the text
into directives that reach to their first terminator and literal runs without a terminated
opening, where two literal runs never meet. A text has one division, the one that `parse`
returns. -/
namespace JqTemplate

/-- The spans are not empty and follow each other without a gap from `start` to `stop`. -/
def Tiles (start stop : Int) : List Statement → Prop
  | [] => start = stop
  | s :: rest => s.span.start = start ∧ start < s.span.stop ∧ Tiles s.span.stop stop rest

/-- A span from a pair of opening braces to the end of the first terminator after it, with the
form that the text in between is recognized as. -/
def IsDirective (text : List Char) (s : Statement) : Prop :=
  ∃ start close : Nat, s.span = ⟨start, close + 2⟩ ∧ PairAt '{' text start ∧
    FirstCloseAt text (start + 2) close ∧ s.form = Form.ofBody (s.span.inner text)

/-- No terminated opening begins in the span, not even at its last character. -/
def IsLiteral (text : List Char) (span : Span) : Prop :=
  ∀ i : Nat, span.start ≤ i → i < span.stop → ¬ Terminated text i

def Apart (s t : Statement) : Prop := ¬ (s.isContent = true ∧ t.isContent = true)

/-- A division of the part of the text from `start` to `stop`. What the part means depends on the
text behind it too. -/
structure DividesBetween (text : List Char) (start stop : Int) (statements : List Statement) :
    Prop where
  tiles : Tiles start stop statements
  directives : ∀ s ∈ statements, s.isContent = false → IsDirective text s
  literals : ∀ s ∈ statements, s.isContent = true → IsLiteral text s.span
  apart : statements.IsChain Apart

def DividesFrom (text : List Char) (start : Int) (statements : List Statement) : Prop :=
  DividesBetween text start text.length statements

def Divides (text : List Char) (statements : List Statement) : Prop :=
  DividesFrom text 0 statements

theorem Tiles.start_le {start stop : Int} {statements : List Statement}
    (h : Tiles start stop statements) : start ≤ stop := by
  induction statements generalizing start with
  | nil => exact Int.le_of_eq h
  | cons s rest ih =>
    obtain ⟨_, nonempty, tail⟩ := h
    exact Int.le_trans (Int.le_of_lt nonempty) (ih tail)

/-- One statement behind the other, and none of them empty. -/
def InOrder (statements : List Statement) : Prop :=
  (∀ s ∈ statements, s.span.start < s.span.stop) ∧
    statements.Pairwise (fun s t => s.span.stop ≤ t.span.start)

theorem Tiles.start_le_of_mem {start stop : Int} {statements : List Statement}
    (h : Tiles start stop statements) {s : Statement} (member : s ∈ statements) :
    start ≤ s.span.start := by
  induction statements generalizing start with
  | nil => contradiction
  | cons t rest ih =>
    obtain ⟨begins, nonempty, tail⟩ := h
    rcases List.mem_cons.mp member with rfl | behind
    · exact Int.le_of_eq begins.symm
    · exact Int.le_trans (Int.le_of_lt nonempty) (ih tail behind)

theorem Tiles.stop_le_of_mem {start stop : Int} {statements : List Statement}
    (h : Tiles start stop statements) {s : Statement} (member : s ∈ statements) :
    s.span.stop ≤ stop := by
  induction statements generalizing start with
  | nil => contradiction
  | cons t rest ih =>
    obtain ⟨_, _, tail⟩ := h
    rcases List.mem_cons.mp member with rfl | behind
    · exact tail.start_le
    · exact ih tail behind

theorem Tiles.inOrder {start stop : Int} {statements : List Statement}
    (h : Tiles start stop statements) : InOrder statements := by
  induction statements generalizing start with
  | nil => exact ⟨by simp, .nil⟩
  | cons s rest ih =>
    obtain ⟨begins, nonempty, tail⟩ := h
    obtain ⟨longer, behind⟩ := ih tail
    refine ⟨?_, .cons (fun t member => tail.start_le_of_mem member) behind⟩
    intro t member
    rcases List.mem_cons.mp member with rfl | later
    · exact begins ▸ nonempty
    · exact longer t later

theorem InOrder.sublist {xs ys : List Statement} (h : InOrder ys) (sub : xs.Sublist ys) :
    InOrder xs :=
  ⟨fun s member => h.1 s (sub.subset member), h.2.sublist sub⟩

theorem InOrder.before_last {done : List Statement} {s t : Statement}
    (h : InOrder (done ++ [s])) (member : t ∈ done) : t.span.stop ≤ s.span.start :=
  (List.pairwise_append.mp h.2).2.2 t member s (List.mem_singleton_self s)

theorem InOrder.span_ne_last {done : List Statement} {s t : Statement}
    (h : InOrder (done ++ [s])) (member : t ∈ done) : t.span ≠ s.span := by
  intro same
  have behind := h.before_last member
  have long := h.1 t (List.mem_append_left _ member)
  rw [← same] at behind
  omega

theorem InOrder.nodup_spans {statements : List Statement} (h : InOrder statements) :
    (statements.map Statement.span).Nodup := by
  rw [List.Nodup, List.pairwise_map]
  refine h.2.imp_of_mem fun {s t} hs _ before same => ?_
  have long := h.1 s hs
  rw [← same] at before
  omega

theorem InOrder.eq_of_span {statements : List Statement} (h : InOrder statements)
    {s t : Statement} (hs : s ∈ statements) (ht : t ∈ statements) (same : s.span = t.span) :
    s = t :=
  List.inj_on_of_nodup_map h.nodup_spans hs ht same

theorem InOrder.nodup_starts {statements : List Statement} (h : InOrder statements) :
    (statements.map fun s => s.span.start).Nodup := by
  rw [List.Nodup, List.pairwise_map]
  refine h.2.imp_of_mem fun {s t} member _ before => ?_
  have long := h.1 s member
  omega

theorem InOrder.eq_of_start {statements : List Statement} (h : InOrder statements)
    {s t : Statement} (hs : s ∈ statements) (ht : t ∈ statements)
    (same : s.span.start = t.span.start) : s = t :=
  List.inj_on_of_nodup_map h.nodup_starts hs ht same

theorem InOrder.apart {statements : List Statement} (h : InOrder statements) {s t : Statement}
    (hs : s ∈ statements) (ht : t ∈ statements) (other : s ≠ t) :
    s.span.stop ≤ t.span.start ∨ t.span.stop ≤ s.span.start := by
  have either : statements.Pairwise fun s t =>
      s.span.stop ≤ t.span.start ∨ t.span.stop ≤ s.span.start := h.2.imp Or.inl
  have : Std.Symm fun s t : Statement =>
      s.span.stop ≤ t.span.start ∨ t.span.stop ≤ s.span.start := ⟨fun _ _ => Or.symm⟩
  exact either.forall hs ht other

theorem InOrder.start_lt_iff {statements : List Statement} (h : InOrder statements) {i j : Nat}
    {s t : Statement} (hs : statements[i]? = some s) (ht : statements[j]? = some t) :
    s.span.start < t.span.start ↔ i < j := by
  have rising {i j : Nat} {s t : Statement} (hs : statements[i]? = some s)
      (ht : statements[j]? = some t) (less : i < j) : s.span.start < t.span.start := by
    obtain ⟨hi, rfl⟩ := List.getElem?_eq_some_iff.mp hs
    obtain ⟨hj, rfl⟩ := List.getElem?_eq_some_iff.mp ht
    have long := h.1 _ (List.getElem_mem hi)
    have behind := List.pairwise_iff_getElem.mp h.2 i j hi hj less
    omega
  constructor
  · intro earlier
    by_contra order
    rcases Nat.lt_or_eq_of_le (Nat.not_lt.mp order) with less | same
    · have later := rising ht hs less
      omega
    · rw [same, hs] at ht
      cases ht
      omega
  · exact rising hs ht

theorem Form.ofBody_ne_content (body : List Char) : Form.ofBody body ≠ .content := by
  unfold Form.ofBody
  split <;> simp

theorem isContent_iff {s : Statement} : s.isContent = true ↔ s.form = .content := by
  simp [Statement.isContent]

theorem IsDirective.not_content {text : List Char} {s : Statement} (h : IsDirective text s) :
    s.isContent = false := by
  obtain ⟨_, _, _, _, _, form⟩ := h
  simp [Statement.isContent, form, Form.ofBody_ne_content]

theorem IsDirective.long {text : List Char} {s : Statement} (h : IsDirective text s) :
    s.span.start < s.span.stop := by
  obtain ⟨start, close, span, _, first, _⟩ := h
  have order := first.1
  rw [span]
  simp only
  omega

theorem IsDirective.terminated {text : List Char} {s : Statement} {start : Nat}
    (h : IsDirective text s) (startsHere : s.span.start = start) : Terminated text start := by
  obtain ⟨start', close, span, opens, first, _⟩ := h
  rw [span] at startsHere
  obtain rfl : start' = start := Int.ofNat.inj startsHere
  exact first.terminated opens

theorem IsDirective.unique {text : List Char} {s t : Statement} (hs : IsDirective text s)
    (ht : IsDirective text t) (same : s.span.start = t.span.start) : s = t := by
  obtain ⟨start, close, spanS, _, firstS, formS⟩ := hs
  obtain ⟨start', close', spanT, _, firstT, formT⟩ := ht
  have starts : (start : Int) = start' := by simpa [spanS, spanT] using same
  obtain rfl : start = start' := Int.ofNat.inj starts
  have spans : s.span = t.span := by rw [spanS, spanT, firstS.unique firstT]
  cases s
  cases t
  simp_all

namespace DividesFrom

variable {text : List Char} {start : Int}

theorem tail {s : Statement} {rest : List Statement} (h : DividesFrom text start (s :: rest)) :
    DividesFrom text s.span.stop rest :=
  ⟨h.tiles.2.2, fun t ht => h.directives t (List.mem_cons_of_mem s ht),
    fun t ht => h.literals t (List.mem_cons_of_mem s ht), h.apart.tail⟩

theorem nil : DividesFrom text text.length [] :=
  ⟨rfl, by simp, by simp, .nil⟩

theorem directive {d : Statement} {rest : List Statement} (hd : IsDirective text d)
    (h : DividesFrom text d.span.stop rest) : DividesFrom text d.span.start (d :: rest) := by
  obtain ⟨start, close, span, _, first, _⟩ := id hd
  refine ⟨⟨rfl, ?_, h.tiles⟩, ?_, ?_, ?_⟩
  · have := first.1
    simp only [span]
    omega
  · intro s hs
    rcases List.mem_cons.mp hs with rfl | hs
    · exact fun _ => hd
    · exact h.directives s hs
  · intro s hs content
    rcases List.mem_cons.mp hs with rfl | hs
    · rw [hd.not_content] at content
      contradiction
    · exact h.literals s hs content
  · exact List.isChain_cons.mpr ⟨fun t _ both => by simp [hd.not_content] at both, h.apart⟩

theorem literal {stop : Int} {rest : List Statement} (nonempty : start < stop)
    (plain : IsLiteral text ⟨start, stop⟩) (next : ∀ s ∈ rest.head?, s.isContent = false)
    (h : DividesFrom text stop rest) :
    DividesFrom text start (⟨.content, ⟨start, stop⟩⟩ :: rest) := by
  refine ⟨⟨rfl, nonempty, h.tiles⟩, ?_, ?_, ?_⟩
  · intro s hs directive
    rcases List.mem_cons.mp hs with rfl | hs
    · simp [Statement.isContent] at directive
    · exact h.directives s hs directive
  · intro s hs content
    rcases List.mem_cons.mp hs with rfl | hs
    · exact plain
    · exact h.literals s hs content
  · refine List.isChain_cons.mpr ⟨fun t ht both => ?_, h.apart⟩
    simp [next t ht] at both

/-- Where a division goes on, it goes on with a directive if the statement before is literal,
so a terminated opening stands there. -/
theorem terminated_after_literal {i : Nat} {s : Statement} {rest : List Statement}
    (h : DividesFrom text start (s :: rest)) (content : s.isContent = true)
    (stop : s.span.stop = i) (more : i < text.length) : Terminated text i := by
  cases rest with
  | nil =>
    have last : s.span.stop = text.length := h.tiles.2.2
    omega
  | cons t rest =>
    have next : t.isContent = false := by
      have := List.isChain_cons_cons.mp h.apart
      simpa [Apart, content] using this.1
    have directive := h.directives t (by simp) next
    exact directive.terminated (h.tiles.2.2.1.trans stop)

/-- Two literal runs with one start also end at one place: the longer one would hold the
opening that ends the shorter one. -/
theorem literal_stop_le {p : Nat} {s t : Statement} {rest rest' : List Statement}
    (hs : DividesFrom text p (s :: rest)) (ht : DividesFrom text p (t :: rest'))
    (contentS : s.isContent = true) (contentT : t.isContent = true) :
    t.span.stop ≤ s.span.stop := by
  by_contra longer
  have below := hs.tiles.2.1
  obtain ⟨i, hi⟩ := Int.eq_ofNat_of_zero_le (a := s.span.stop) (by omega)
  have bound := ht.tail.tiles.start_le
  have opening := hs.terminated_after_literal contentS hi (by omega)
  exact ht.literals t (by simp) contentT i (by rw [ht.tiles.1]; omega) (by omega) opening

theorem head_unique {p : Nat} {s t : Statement} {rest rest' : List Statement}
    (hs : DividesFrom text p (s :: rest)) (ht : DividesFrom text p (t :: rest')) : s = t := by
  have startS : s.span.start = p := hs.tiles.1
  have startT : t.span.start = p := ht.tiles.1
  have longS := hs.tiles.2.1
  have longT := ht.tiles.2.1
  cases contentS : s.isContent with
  | false =>
    have directiveS := hs.directives s (by simp) contentS
    cases contentT : t.isContent with
    | false =>
      exact directiveS.unique (ht.directives t (by simp) contentT) (startS.trans startT.symm)
    | true =>
      -- a literal run in the place of a directive would hold its opening
      exact absurd (directiveS.terminated startS)
        (ht.literals t (by simp) contentT p (by omega) (by omega))
  | true =>
    cases contentT : t.isContent with
    | false =>
      exact absurd ((ht.directives t (by simp) contentT).terminated startT)
        (hs.literals s (by simp) contentS p (by omega) (by omega))
    | true =>
      have stops : s.span.stop = t.span.stop :=
        Int.le_antisymm (ht.literal_stop_le hs contentT contentS)
          (hs.literal_stop_le ht contentS contentT)
      have forms : s.form = t.form := by rw [isContent_iff.mp contentS, isContent_iff.mp contentT]
      obtain ⟨formS, startS', stopS⟩ := s
      obtain ⟨formT, startT', stopT⟩ := t
      simp_all

theorem unique {p : Nat} {xs ys : List Statement} (hx : DividesFrom text p xs)
    (hy : DividesFrom text p ys) : xs = ys := by
  induction xs generalizing p ys with
  | nil =>
    cases ys with
    | nil => rfl
    | cons t rest' =>
      have whole : (p : Int) = text.length := hx.tiles
      have more := hy.tiles.2.1
      have bound := hy.tail.tiles.start_le
      omega
  | cons s rest ih =>
    cases ys with
    | nil =>
      have whole : (p : Int) = text.length := hy.tiles
      have more := hx.tiles.2.1
      have bound := hx.tail.tiles.start_le
      omega
    | cons t rest' =>
      -- one head, and with it one place from which both tails go on
      obtain rfl := hx.head_unique hy
      have above := hx.tiles.2.1
      obtain ⟨q, hq⟩ := Int.eq_ofNat_of_zero_le (a := s.span.stop) (by omega)
      have tailX := hx.tail
      have tailY := hy.tail
      rw [hq] at tailX tailY
      rw [ih tailX tailY]

end DividesFrom

end JqTemplate
