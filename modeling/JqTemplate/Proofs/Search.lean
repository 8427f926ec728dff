import JqTemplate.Proofs.Parse

namespace JqTemplate

/-- The offsets of the characters that a search looks at. The character behind a closing brace is
looked at with it, and again for itself if the search goes on. -/
def lookedAt : (offset : Nat) → List Char → List Nat
  | offset, c :: d :: rest =>
    if c = '}' then
      if d = '}' then [offset, offset + 1]
      else offset :: (offset + 1) :: lookedAt (offset + 1) (d :: rest)
    else offset :: lookedAt (offset + 1) (d :: rest)
  | _, [_] => []
  | _, [] => []

/-- Nothing is looked at for a question that the last answer settles. -/
def Question.lookedAt (text : List Char) (q : Question) : List Nat :=
  if q.searched then JqTemplate.lookedAt q.start (text.drop q.start) else []

def IsNextClose (text : List Char) (start : Nat) : Option Nat → Prop
  | some close => FirstCloseAt text start close
  | none => ∀ j, start ≤ j → ¬ PairAt '}' text j

section Stretch

variable {text : List Char} {offset close i : Nat}

theorem firstClose_ge (found : firstClose offset text = some close) : offset ≤ close := by
  induction text generalizing offset with
  | nil => cases found
  | cons c rest ih =>
    rw [firstClose] at found
    split at found
    · cases found
      exact le_rfl
    · exact Nat.le_of_succ_le (ih found)

theorem lookedAt_ge (member : i ∈ lookedAt offset text) : offset ≤ i := by
  induction text generalizing offset with
  | nil => contradiction
  | cons c rest ih =>
    cases rest with
    | nil => contradiction
    | cons d rest =>
      rw [lookedAt] at member
      split at member
      · split at member
        · simp only [List.mem_cons, List.not_mem_nil, or_false] at member
          omega
        · rcases List.mem_cons.mp member with rfl | member
          · exact le_rfl
          · rcases List.mem_cons.mp member with rfl | behind
            · exact Nat.le_succ offset
            · exact Nat.le_of_succ_le (ih behind)
      · rcases List.mem_cons.mp member with rfl | behind
        · exact le_rfl
        · exact Nat.le_of_succ_le (ih behind)

theorem mem_lookedAt_iff (found : firstClose offset text = some close) :
    i ∈ lookedAt offset text ↔ offset ≤ i ∧ i ≤ close + 1 := by
  induction text generalizing offset with
  | nil => cases found
  | cons c rest ih =>
    cases rest with
    | nil => simp [firstClose] at found
    | cons d rest =>
      rw [firstClose] at found
      split at found
      · next pair =>
        obtain ⟨rfl, rfl⟩ : c = '}' ∧ d = '}' := by simpa using pair
        cases found
        rw [lookedAt, if_pos rfl, if_pos rfl]
        simp only [List.mem_cons, List.not_mem_nil, or_false]
        omega
      · next single =>
        have beyond : offset + 1 ≤ close := firstClose_ge found
        have behind := ih found
        rw [lookedAt]
        split
        · next brace =>
          have other : d ≠ '}' := fun same => single ⟨brace, by simp [same]⟩
          rw [if_neg other, List.mem_cons, List.mem_cons, behind]
          omega
        · rw [List.mem_cons, behind]
          omega

theorem isNextClose_firstClose (text : List Char) (start : Nat) :
    IsNextClose text start (firstClose start (text.drop start)) := by
  rcases firstClose_cases text _ start rfl with ⟨close, found, first⟩ | ⟨noneThere, absent⟩
  · rw [found]
    exact first
  · rw [noneThere]
    exact absent

end Stretch

section Questions

variable {text : List Char} {p q : Question} {i : Nat}

theorem Question.searched_of_mem_lookedAt (member : i ∈ q.lookedAt text) :
    q.searched = true ∧ i ∈ JqTemplate.lookedAt q.start (text.drop q.start) := by
  unfold Question.lookedAt at member
  split at member
  · next searched => exact ⟨searched, member⟩
  · cases member

theorem Question.IsRight.lookedAt_lt {start : Nat} (right : p.IsRight text)
    (behind : LastClose.Behind (some p.answer) start) (member : i ∈ p.lookedAt text) :
    i < start := by
  obtain ⟨close, answer, before⟩ := behind _ rfl
  have found := right.symm.trans answer
  have last := ((mem_lookedAt_iff found).mp (Question.searched_of_mem_lookedAt member).2).2
  omega

theorem LastClose.Behind.later {last : LastClose} {start start' : Nat} (h : last.Behind start)
    (after : start ≤ start') : last.Behind start' := by
  intro answer known
  obtain ⟨close, found, before⟩ := h answer known
  exact ⟨close, found, Nat.le_trans before after⟩

end Questions

namespace Asked

variable {text : List Char} {last last' : LastClose} {qs : List Question}

theorem right (h : Asked text last qs last') : ∀ q ∈ qs, q.IsRight text := by
  induction h with
  | nil => simp
  | cons right _ _ _ ih => exact List.forall_mem_cons.mpr ⟨right, ih⟩

theorem behind (h : Asked text last qs last') :
    ∀ q ∈ qs, q.searched = true → last.Behind q.start := by
  induction h with
  | nil => simp
  | @cons last _ q later right kept searched _ ih =>
    refine List.forall_mem_cons.mpr ⟨searched, fun q' among search => ?_⟩
    have passed := ih q' among search
    -- without a search the last answer stays the same one, with a search the start only grows
    cases here : q.searched with
    | false => exact kept here ▸ passed
    | true =>
      obtain ⟨close, answer, before⟩ := passed _ rfl
      have order : q.start ≤ close := firstClose_ge (right.symm.trans answer)
      exact (searched here).later (by omega)

theorem first_searched (h : Asked text none qs last') :
    ∀ q ∈ qs.head?, q.searched = true := by
  cases h with
  | nil => simp
  | @cons _ _ q _ _ kept _ _ =>
    have known : q.searched = true := by
      by_contra unsearched
      cases kept (Bool.eq_false_iff.mpr unsearched)
    simpa using known

theorem repeats (h : Asked text last qs last') :
    qs.IsChain fun p q => q.searched = false → q.answer = p.answer := by
  induction h with
  | nil => exact .nil
  | cons _ _ _ rest ih =>
    refine List.isChain_cons.mpr ⟨fun q next unsearched => ?_, ih⟩
    cases rest with
    | nil => cases next
    | cons _ kept _ _ =>
      obtain rfl := Option.some.inj next
      exact (Option.some.inj (kept unsearched)).symm

theorem apart (h : Asked text last qs last') :
    qs.Pairwise fun p q => q.searched = true → ∀ i ∈ p.lookedAt text, i < q.start := by
  induction h with
  | nil => exact .nil
  | cons right _ _ rest ih =>
    refine .cons (fun q among search i member => ?_) ih
    exact right.lookedAt_lt (rest.behind q among search) member

end Asked

/-- Each pair of opening braces is asked about, unless it stands within a directive. Whatever is
asked, the answer is the first terminator at or after the start, as a search from there finds it.
The first question is searched for, and an answer that is not searched for is the one given last. A
search that is made begins beyond all that the questions before it have looked at, so no two of them
look at the same place. -/
theorem answers_exact_and_searches_apart (text : List Char) :
    (∀ i, PairAt '{' text i → AskedAt (questions text) i ∨
      ∃ s ∈ readDirectives text, s.span.start < i ∧ i < s.span.stop) ∧
    (∀ q ∈ questions text, q.answer = firstClose q.start (text.drop q.start) ∧
      IsNextClose text q.start q.answer) ∧
    (∀ q ∈ (questions text).head?, q.searched = true) ∧
    ((questions text).IsChain fun p q => q.searched = false → q.answer = p.answer) ∧
    ((questions text).Pairwise fun p q =>
      q.searched = true → ∀ i ∈ p.lookedAt text, i < q.start) ∧
    (questions text).Pairwise fun p q => (p.lookedAt text).Disjoint (q.lookedAt text) := by
  have reads := reading_reads text
  obtain ⟨_, asked⟩ := reads.asked
  refine ⟨fun i opens => ?_, fun q among => ?_, asked.first_searched, asked.repeats, asked.apart,
    asked.apart.imp fun before i first second => ?_⟩
  · refine (reads.openings i (Nat.zero_le i) opens).imp_right ?_
    rintro ⟨s, among, directive, inside⟩
    exact ⟨s, List.mem_filter.mpr ⟨among, by simpa using directive⟩, inside⟩
  · have right : q.answer = firstClose q.start (text.drop q.start) := asked.right q among
    exact ⟨right, right ▸ isNextClose_firstClose text q.start⟩
  · obtain ⟨search, member⟩ := Question.searched_of_mem_lookedAt second
    have beyond := before search i first
    have inside := lookedAt_ge member
    omega

/-- The scanner's question and the driver's one take a single search, and so do all openings that
have no terminator. -/
example : questions "a\x7b\x7bb\x7d\x7d \x7b\x7b \x7b\x7b".toList =
    [⟨3, some 4, true⟩, ⟨3, some 4, false⟩, ⟨9, none, true⟩, ⟨12, none, false⟩] := by decide

end JqTemplate
