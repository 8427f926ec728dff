import JqTemplate.Statement.Stream

/-! Pairs of braces in a text, and the search for the terminator of a directive. The search
is said here by places in the whole text; the program sees only the part that is left, and
keeps its last answer. A kept answer is right for every question that comes later, and where it
does not settle one, all that was looked at for it lies behind. -/
namespace JqTemplate

/-- Two of the same mark stand side by side at `i`. -/
def PairAt (mark : Char) (text : List Char) (i : Nat) : Prop :=
  text[i]? = some mark ∧ text[i + 1]? = some mark

/-- The first pair of closing braces at or after `start`. -/
def FirstCloseAt (text : List Char) (start close : Nat) : Prop :=
  start ≤ close ∧ PairAt '}' text close ∧ ∀ j, start ≤ j → PairAt '}' text j → close ≤ j

/-- A pair of opening braces with a pair of closing ones somewhere after it. -/
def Terminated (text : List Char) (i : Nat) : Prop :=
  PairAt '{' text i ∧ ∃ j, i + 2 ≤ j ∧ PairAt '}' text j

theorem PairAt.lt_length {mark : Char} {text : List Char} {i : Nat} (h : PairAt mark text i) :
    i + 2 ≤ text.length := by
  have second := (List.getElem?_eq_some_iff.mp h.2).1
  omega

theorem FirstCloseAt.unique {text : List Char} {start close close' : Nat}
    (h : FirstCloseAt text start close) (h' : FirstCloseAt text start close') : close = close' :=
  Nat.le_antisymm (h.2.2 close' h'.1 h'.2.1) (h'.2.2 close h.1 h.2.1)

theorem FirstCloseAt.terminated {text : List Char} {i close : Nat} (opens : PairAt '{' text i)
    (h : FirstCloseAt text (i + 2) close) : Terminated text i :=
  ⟨opens, close, h.1, h.2.1⟩

theorem FirstCloseAt.later {text : List Char} {start close start' : Nat}
    (h : FirstCloseAt text start close) (after : start ≤ start') (before : start' ≤ close) :
    FirstCloseAt text start' close :=
  ⟨before, h.2.1, fun j hj => h.2.2 j (Nat.le_trans after hj)⟩

theorem drop_eq_cons {text rest : List Char} {c : Char} {i : Nat}
    (h : text.drop i = c :: rest) : text[i]? = some c ∧ text.drop (i + 1) = rest := by
  constructor
  · have head := List.head?_drop (l := text) (i := i)
    rw [h] at head
    exact head.symm
  · rw [← List.tail_drop, h, List.tail_cons]

theorem pairAt_iff {text rest : List Char} {c mark : Char} {i : Nat}
    (h : text.drop i = c :: rest) :
    PairAt mark text i ↔ c = mark ∧ rest.head? = some mark := by
  obtain ⟨here, next⟩ := drop_eq_cons h
  rw [PairAt, here, ← next, List.head?_drop, Option.some.injEq]

theorem opensHere_iff {text rest : List Char} {c : Char} {i : Nat}
    (h : text.drop i = c :: rest) : opensHere c rest = true ↔ PairAt '{' text i := by
  rw [pairAt_iff h]
  simp [opensHere]

theorem not_pairAt_of_drop_nil {mark : Char} {text : List Char} {i j : Nat}
    (h : text.drop i = []) (after : i ≤ j) : ¬ PairAt mark text j := by
  intro pair
  have bound := pair.lt_length
  have short := List.drop_eq_nil_iff.mp h
  omega

theorem firstClose_cases (text rest : List Char) (offset : Nat) (h : text.drop offset = rest) :
    (∃ close, firstClose offset rest = some close ∧ FirstCloseAt text offset close) ∨
    (firstClose offset rest = none ∧ ∀ j, offset ≤ j → ¬ PairAt '}' text j) := by
  induction rest generalizing offset with
  | nil => exact .inr ⟨rfl, fun j hj => not_pairAt_of_drop_nil h hj⟩
  | cons c rest ih =>
    have here : PairAt '}' text offset ↔ _ := pairAt_iff h
    unfold firstClose
    split
    · rename_i closes
      exact .inl ⟨offset, rfl, Nat.le_refl offset, here.mpr closes, fun j hj _ => hj⟩
    · rename_i isOpen
      have skip : ∀ j, offset ≤ j → PairAt '}' text j → offset + 1 ≤ j := by
        intro j hj pair
        have apart : offset ≠ j := by rintro rfl; exact isOpen (here.mp pair)
        omega
      rcases ih (offset + 1) (drop_eq_cons h).2 with ⟨close, found, first⟩ | ⟨nothing, absent⟩
      · exact .inl ⟨close, found, by have := first.1; omega, first.2.1,
          fun j hj pair => first.2.2 j (skip j hj pair) pair⟩
      · exact .inr ⟨nothing, fun j hj pair => absent j (skip j hj pair) pair⟩

theorem firstClose_eq_some {text : List Char} {start close : Nat}
    (h : FirstCloseAt text start close) : firstClose start (text.drop start) = some close := by
  rcases firstClose_cases text _ start rfl with ⟨found, eq, first⟩ | ⟨_, absent⟩
  · rw [eq, first.unique h]
  · exact absurd h.2.1 (absent close h.1)

theorem firstClose_eq_none {text : List Char} {start : Nat}
    (absent : ∀ j, start ≤ j → ¬ PairAt '}' text j) :
    firstClose start (text.drop start) = none := by
  rcases firstClose_cases text _ start rfl with ⟨close, _, first⟩ | ⟨eq, _⟩
  · exact absurd first.2.1 (absent close first.1)
  · exact eq

namespace LastClose

/-- Every question at or after `start` that the kept answer settles, it settles rightly. -/
def Right (last : LastClose) (text : List Char) (start : Nat) : Prop :=
  ∀ later, start ≤ later → last.settles later = true →
    last.join = firstClose later (text.drop later)

theorem right_before_questions (text : List Char) (start : Nat) :
    Right none text start := by
  intro later _ settled
  simp [settles] at settled

theorem right_of_found {text : List Char} {start close : Nat}
    (first : FirstCloseAt text start close) : Right (some (some close)) text start := by
  intro later after settled
  have before : later ≤ close := by simpa [settles] using settled
  exact (firstClose_eq_some (first.later after before)).symm

theorem right_of_absent {text : List Char} {start : Nat}
    (absent : ∀ j, start ≤ j → ¬ PairAt '}' text j) : Right (some none) text start := by
  intro later after _
  exact (firstClose_eq_none fun j hj => absent j (Nat.le_trans after hj)).symm

theorem Right.later {last : LastClose} {text : List Char} {start start' : Nat}
    (h : Right last text start) (after : start ≤ start') : Right last text start' :=
  fun later hl => h later (Nat.le_trans after hl)

theorem Right.next_eq {last : LastClose} {text : List Char} {start : Nat}
    (h : Right last text start) :
    last.next start (text.drop start) = firstClose start (text.drop start) := by
  unfold next
  split
  · rename_i settled
    exact h start (Nat.le_refl start) settled
  · rfl

theorem Right.ask_cases {last : LastClose} {text : List Char} {start : Nat}
    (h : Right last text start) :
    (∃ close, (last.ask start (text.drop start)).answer = some close ∧
      FirstCloseAt text start close) ∨
    ((last.ask start (text.drop start)).answer = none ∧
      ∀ j, start ≤ j → ¬ PairAt '}' text j) := by
  have answer : (last.ask start (text.drop start)).answer = firstClose start (text.drop start) :=
    h.next_eq
  rw [answer]
  exact firstClose_cases text _ start rfl

/-- All that was looked at for the last answer lies in front of `start`. An answer that there is no
terminator has seen the whole rest of the text. -/
def Behind (last : LastClose) (start : Nat) : Prop :=
  ∀ answer, last = some answer → ∃ close, answer = some close ∧ close + 2 ≤ start

end LastClose

def Question.IsRight (text : List Char) (q : Question) : Prop :=
  q.answer = firstClose q.start (text.drop q.start)

/-- Questions from one last answer on to another. They are answered rightly, either by the last
answer itself or by a search that begins behind it. -/
inductive Asked (text : List Char) : LastClose → List Question → LastClose → Prop
  | nil {last : LastClose} : Asked text last [] last
  | cons {last last' : LastClose} {q : Question} {later : List Question}
      (right : q.IsRight text) (kept : q.searched = false → last = some q.answer)
      (searched : q.searched = true → last.Behind q.start)
      (rest : Asked text (some q.answer) later last') : Asked text last (q :: later) last'

namespace Asked

variable {text : List Char} {last last' last'' : LastClose} {xs ys : List Question} {start : Nat}

theorem append (h : Asked text last xs last') (h' : Asked text last' ys last'') :
    Asked text last (xs ++ ys) last'' := by
  induction h with
  | nil => exact h'
  | cons right kept searched _ ih => exact .cons right kept searched (ih h')

theorem ask (right : last.Right text start)
    (behind : last.settles start = false → last.Behind start) :
    Asked text last [last.ask start (text.drop start)]
      (some (last.ask start (text.drop start)).answer) := by
  refine .cons right.next_eq (fun kept => ?_) (fun searched => ?_) .nil
  · have settled : last.settles start = true := by simpa [LastClose.ask] using kept
    rw [LastClose.ask, LastClose.next, if_pos settled]
    cases last with
    | none => simp [LastClose.settles] at settled
    | some answer => rfl
  · exact behind (by simpa [LastClose.ask] using searched)

end Asked

def AskedAt (qs : List Question) (i : Nat) : Prop := ∃ q ∈ qs, q.start = i + 2

namespace AskedAt

variable {qs : List Question} {i : Nat}

theorem before (h : AskedAt qs i) (later : List Question) : AskedAt (qs ++ later) i :=
  h.imp fun _ asked => ⟨List.mem_append_left _ asked.1, asked.2⟩

theorem behind (h : AskedAt qs i) (earlier : List Question) : AskedAt (earlier ++ qs) i :=
  h.imp fun _ asked => ⟨List.mem_append_right _ asked.1, asked.2⟩

end AskedAt

end JqTemplate
