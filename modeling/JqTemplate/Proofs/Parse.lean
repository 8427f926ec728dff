import JqTemplate.Proofs.Division
import JqTemplate.Proofs.Span

/-! Reading divides the text. The scanner is followed to the end of a run of content, then the
driver from one statement to the next. The last answer is right wherever they stand, and the stretch
for which it was searched is either behind them or about to be taken as a directive. -/
namespace JqTemplate

structure Driving (text : List Char) (last : LastClose) (offset : Nat) : Prop where
  right : last.Right text (offset + 2)
  inside : offset ≤ text.length
  used : ∀ close, last = some (some close) →
    close + 2 ≤ offset ∨ PairAt '{' text offset ∧ offset + 2 ≤ close

structure Scanning (text : List Char) (last : LastClose) (offset : Nat) : Prop where
  right : last.Right text (offset + 2)
  inside : offset ≤ text.length
  used : ∀ close, last = some (some close) → close + 2 ≤ offset

section Standing

variable {text : List Char} {last : LastClose} {offset close : Nat}

theorem Driving.initial (text : List Char) : Driving text none 0 where
  right := LastClose.right_before_questions text _
  inside := Nat.zero_le _
  used := by simp

theorem Driving.behind (h : Driving text last offset) (isOpen : last.settles (offset + 2) = false) :
    last.Behind (offset + 2) := by
  rintro answer rfl
  cases answer with
  | none => simp [LastClose.settles] at isOpen
  | some close =>
    have before : close < offset + 2 := by simpa [LastClose.settles] using isOpen
    rcases h.used close rfl with passed | ⟨_, ahead⟩
    · exact ⟨close, rfl, by omega⟩
    · omega

/-- Where no directive can be taken, the driver hands over to the scanner one character on. -/
theorem Driving.scanning (h : Driving text last offset) (quiet : ¬ PairAt '{' text offset)
    (more : offset < text.length) : Scanning text last (offset + 1) where
  right := h.right.later (by omega)
  inside := more
  used close known := by
    rcases h.used close known with passed | ⟨opens, _⟩
    · omega
    · exact absurd opens quiet

theorem Driving.past_directive (first : FirstCloseAt text (offset + 2) close) :
    Driving text (some (some close)) (close + 2) where
  right := (LastClose.right_of_found first).later (by have := first.1; omega)
  inside := first.2.1.lt_length
  used _ known := by
    cases known
    exact .inl (Nat.le_refl _)

theorem Driving.at_opening (opens : PairAt '{' text offset)
    (first : FirstCloseAt text (offset + 2) close) :
    Driving text (some (some close)) offset where
  right := LastClose.right_of_found first
  inside := by have := opens.lt_length; omega
  used _ known := by
    cases known
    exact .inr ⟨opens, first.1⟩

theorem Scanning.driving (h : Scanning text last offset) : Driving text last offset where
  right := h.right
  inside := h.inside
  used close known := .inl (h.used close known)

theorem Scanning.next (h : Scanning text last offset) (more : offset < text.length) :
    Scanning text last (offset + 1) where
  right := h.right.later (by omega)
  inside := more
  used close known := by have := h.used close known; omega

theorem Scanning.without_terminator (absent : ∀ j, offset + 2 ≤ j → ¬ PairAt '}' text j)
    (more : offset < text.length) : Scanning text (some none) (offset + 1) where
  right := (LastClose.right_of_absent absent).later (by omega)
  inside := more
  used close known := by cases known

end Standing

/-- How the scanner leaves a run of content that begins at `offset` or earlier: at the end of the
text, or at an opening that has a terminator. -/
structure EndsContent (text : List Char) (last : LastClose) (offset : Nat) (run : ContentRun) :
    Prop where
  asked : Asked text last run.asked run.last
  openings : ∀ i, offset ≤ i → i < run.stop → PairAt '{' text i → AskedAt run.asked i
  order : offset ≤ run.stop
  driving : Driving text run.last run.stop
  plain : ∀ i, offset ≤ i → i < run.stop → ¬ Terminated text i
  stops : run.stop < text.length → Terminated text run.stop

section Content

variable {text rest : List Char} {last next : LastClose} {offset : Nat} {run : ContentRun}

theorem EndsContent.at_once {asked : List Question} (questions : Asked text last asked next)
    (driving : Driving text next offset) (stops : offset < text.length → Terminated text offset) :
    EndsContent text last offset ⟨offset, asked, next⟩ where
  asked := questions
  openings _ after before := absurd before (Nat.not_lt.mpr after)
  order := Nat.le_refl _
  driving := driving
  plain _ after before := absurd before (Nat.not_lt.mpr after)
  stops := stops

theorem EndsContent.further (h : EndsContent text next (offset + 1) run)
    (nothing : ¬ Terminated text offset) {asked : List Question}
    (first : Asked text last asked next) (own : PairAt '{' text offset → AskedAt asked offset) :
    EndsContent text last offset { run with asked := asked ++ run.asked } where
  asked := first.append h.asked
  openings i after before opens := by
    by_cases here : i = offset
    · obtain rfl := here
      exact (own opens).before _
    · exact (h.openings i (by omega) before opens).behind _
  order := Nat.le_of_succ_le h.order
  driving := h.driving
  plain i after before := by
    by_cases here : i = offset
    · exact here ▸ nothing
    · exact h.plain i (by omega) before
  stops := h.stops

theorem scanContent_ends (here : text.drop offset = rest) (h : Scanning text last offset) :
    EndsContent text last offset (scanContent last offset rest) := by
  induction rest generalizing last offset with
  | nil =>
    have long := List.drop_eq_nil_iff.mp here
    rw [scanContent]
    exact .at_once .nil h.driving fun more => absurd more (Nat.not_lt.mpr long)
  | cons c rest ih =>
    obtain ⟨first, next⟩ := drop_eq_cons here
    have more := (List.getElem?_eq_some_iff.mp first).1
    cases opens : opensHere c rest with
    | false =>
      have quiet : ¬ PairAt '{' text offset := fun pair => by
        simp [(opensHere_iff here).mpr pair] at opens
      rw [scanContent, if_neg (by simp [opens])]
      exact (ih next (h.next more)).further (fun terminated => quiet terminated.1) .nil
        fun pair => absurd pair quiet
    | true =>
      have pair := (opensHere_iff here).mp opens
      have inner : rest.tail = text.drop (offset + 2) := by rw [← next, List.tail_drop]
      have asked := Asked.ask h.right h.driving.behind
      rw [scanContent, if_pos opens, inner]
      rcases h.right.ask_cases with ⟨close, found, first⟩ | ⟨absent, never⟩
      · rw [found] at asked
        simp only [found]
        exact .at_once asked (.at_opening pair first) fun _ => first.terminated pair
      · rw [absent] at asked
        simp only [absent]
        refine (ih next (.without_terminator never more)).further ?_ asked
          fun _ => ⟨_, List.mem_singleton_self _, rfl⟩
        rintro ⟨_, j, after, closes⟩
        exact never j after closes

end Content

structure Reads (text : List Char) (last : LastClose) (position : Nat) (events : List ReadEvent) :
    Prop where
  divides : DividesFrom text position (events.filterMap ReadEvent.statement?)
  asked : ∃ last', Asked text last (events.filterMap ReadEvent.question?) last'
  openings : ∀ i, position ≤ i → PairAt '{' text i →
    AskedAt (events.filterMap ReadEvent.question?) i ∨
      ∃ s ∈ events.filterMap ReadEvent.statement?, s.isContent = false ∧
        s.span.start < i ∧ i < s.span.stop

section Events

variable (asked : List Question) (events : List ReadEvent)

@[simp] theorem filterMap_statement?_asked :
    (asked.map ReadEvent.asked ++ events).filterMap ReadEvent.statement? =
      events.filterMap ReadEvent.statement? := by
  simp [List.filterMap_append, List.filterMap_map, Function.comp_def, ReadEvent.statement?]

@[simp] theorem filterMap_question?_asked :
    (asked.map ReadEvent.asked ++ events).filterMap ReadEvent.question? =
      asked ++ events.filterMap ReadEvent.question? := by
  simp [List.filterMap_append, List.filterMap_map, Function.comp_def, ReadEvent.question?]

end Events

theorem isDirective_of_firstCloseAt {text : List Char} {offset close : Nat}
    (opens : PairAt '{' text offset) (first : FirstCloseAt text (offset + 2) close) :
    IsDirective text
      ⟨Form.ofBody ((text.drop (offset + 2)).take (close - (offset + 2))),
        ⟨offset, close + 2⟩⟩ :=
  ⟨offset, close, rfl, opens, first, by rw [Span.inner_nat]⟩

theorem body_length {text : List Char} {start close : Nat}
    (first : FirstCloseAt text start close) :
    ((text.drop start).take (close - start)).length = close - start := by
  have bound := first.2.1.lt_length
  rw [List.length_take, List.length_drop]
  omega

theorem DividesFrom.head_of_terminated {text : List Char} {position : Nat}
    {statements : List Statement} (h : DividesFrom text position statements)
    (terminated : position < text.length → Terminated text position) :
    ∀ s ∈ statements.head?, s.isContent = false := by
  cases statements with
  | nil => simp
  | cons s rest =>
    intro _ member
    obtain rfl := Option.some.inj member
    have begins := h.tiles.1
    have long := h.tiles.2.1
    have bound := h.tiles.stop_le_of_mem List.mem_cons_self
    cases content : s.isContent with
    | false => rfl
    | true =>
      exact absurd (terminated (by omega))
        (h.literals s List.mem_cons_self content position (by omega) (by omega))

namespace Reads

variable {text : List Char} {last next : LastClose} {offset close : Nat}
  {asked : List Question} {events : List ReadEvent} {run : ContentRun}

theorem directive (opens : PairAt '{' text offset) (first : FirstCloseAt text (offset + 2) close)
    (questions : Asked text last asked next) (own : AskedAt asked offset)
    (later : Reads text next (close + 2) events) :
    Reads text last offset (asked.map .asked ++
      .read ⟨Form.ofBody ((text.drop (offset + 2)).take (close - (offset + 2))),
        ⟨offset, close + 2⟩⟩ :: events) where
  divides := by
    rw [filterMap_statement?_asked]
    exact DividesFrom.directive (isDirective_of_firstCloseAt opens first) later.divides
  asked := by
    rw [filterMap_question?_asked]
    obtain ⟨last', behind⟩ := later.asked
    exact ⟨last', questions.append behind⟩
  openings i after pair := by
    have directive := isDirective_of_firstCloseAt opens first
    rw [filterMap_question?_asked, filterMap_statement?_asked]
    by_cases here : i = offset
    · obtain rfl := here
      exact .inl (own.before _)
    by_cases inside : i < close + 2
    · exact .inr ⟨_, List.mem_cons_self, directive.not_content, by simp only; omega,
        by simp only; omega⟩
    · exact (later.openings i (by omega) pair).imp (·.behind _)
        fun ⟨s, among, found⟩ => ⟨s, List.mem_cons_of_mem _ among, found⟩

theorem content (nothing : ¬ Terminated text offset) (questions : Asked text last asked next)
    (own : PairAt '{' text offset → AskedAt asked offset)
    (ends : EndsContent text next (offset + 1) run) (later : Reads text run.last run.stop events) :
    Reads text last offset (asked.map .asked ++
      (run.asked.map .asked ++ .read ⟨.content, ⟨offset, run.stop⟩⟩ :: events)) where
  divides := by
    have order := ends.order
    have plain : IsLiteral text ⟨offset, run.stop⟩ := by
      intro i after before
      simp only [Int.ofNat_le, Int.ofNat_lt] at after before
      exact (ends.further nothing questions own).plain i after before
    rw [filterMap_statement?_asked, filterMap_statement?_asked]
    exact DividesFrom.literal (by omega) plain (later.divides.head_of_terminated ends.stops)
      later.divides
  asked := by
    rw [filterMap_question?_asked, filterMap_question?_asked]
    obtain ⟨last', behind⟩ := later.asked
    exact ⟨last', questions.append (ends.asked.append behind)⟩
  openings i after pair := by
    have whole := ends.further nothing questions own
    rw [filterMap_question?_asked, filterMap_question?_asked, filterMap_statement?_asked,
      filterMap_statement?_asked, ← List.append_assoc]
    by_cases inside : i < run.stop
    · exact .inl ((whole.openings i after inside pair).before _)
    · exact (later.openings i (by omega) pair).imp (·.behind _)
        fun ⟨s, among, found⟩ => ⟨s, List.mem_cons_of_mem _ among, found⟩

end Reads

theorem drive_reads {text rest : List Char} {last : LastClose} {skip offset : Nat}
    (here : text.drop offset = rest) (h : Driving text last (offset + skip)) :
    Reads text last (offset + skip) (drive last skip offset rest) := by
  induction rest generalizing last skip offset with
  | nil =>
    have long := List.drop_eq_nil_iff.mp here
    have inside := h.inside
    obtain rfl : skip = 0 := by omega
    obtain rfl : offset = text.length := by omega
    exact ⟨DividesFrom.nil, ⟨last, .nil⟩, fun i after pair => by
      have bound := pair.lt_length
      omega⟩
  | cons c rest ih =>
    obtain ⟨first, next⟩ := drop_eq_cons here
    have more := (List.getElem?_eq_some_iff.mp first).1
    cases skip with
    | succ skip =>
      have same : offset + (skip + 1) = offset + 1 + skip := by omega
      rw [same] at h ⊢
      exact ih next h
    | zero =>
      -- whatever is asked here, what is not taken as a directive begins a run of content
      have goes_on (asked : Option Question) (nothing : ¬ Terminated text offset)
          (questions : Asked text last asked.toList (last.after asked))
          (own : PairAt '{' text offset → AskedAt asked.toList offset)
          (scanning : Scanning text (last.after asked) (offset + 1)) :
          let run := scanContent (last.after asked) (offset + 1) rest
          Reads text last offset (asked.toList.map .asked ++ (run.asked.map .asked ++
            .read ⟨.content, ⟨offset, run.stop⟩⟩ ::
              drive run.last (run.stop - (offset + 1)) (offset + 1) rest)) := by
        intro run
        have ends : EndsContent text (last.after asked) (offset + 1) run :=
          scanContent_ends next scanning
        have stop : offset + 1 + (run.stop - (offset + 1)) = run.stop :=
          Nat.add_sub_cancel' ends.order
        have later := ih next (stop.symm ▸ ends.driving)
        rw [stop] at later
        exact .content nothing questions own ends later
      cases opens : opensHere c rest with
      | false =>
        have quiet : ¬ PairAt '{' text offset := fun pair => by
          simp [(opensHere_iff here).mpr pair] at opens
        have silent : questionAt? last offset c rest = none := by simp [questionAt?, opens]
        simp only [drive, silent, Option.bind_none]
        exact goes_on none (fun terminated => quiet terminated.1) .nil
          (fun pair => absurd pair quiet) (h.scanning quiet more)
      | true =>
        have pair := (opensHere_iff here).mp opens
        have inner : rest.tail = text.drop (offset + 2) := by rw [← next, List.tail_drop]
        have asks : questionAt? last offset c rest =
            some (last.ask (offset + 2) (text.drop (offset + 2))) := by
          rw [questionAt?, if_pos opens, inner]
        have asked := Asked.ask h.right h.behind
        rcases h.right.ask_cases with ⟨close, found, first⟩ | ⟨absent, never⟩
        · have after : offset + 1 + (close - (offset + 2) + 3) = close + 2 := by
            have := first.1
            omega
          rw [found] at asked
          simp only [drive, asks, Option.bind_some, found, inner, body_length first]
          have later := ih next (after.symm ▸ Driving.past_directive first)
          rw [after] at later
          exact .directive pair first asked ⟨_, List.mem_singleton_self _, rfl⟩ later
        · simp only [drive, asks, Option.bind_some, absent]
          refine goes_on (some _) ?_ asked (fun _ => ⟨_, List.mem_singleton_self _, rfl⟩) ?_
          · rintro ⟨_, j, after, closes⟩
            exact never j after closes
          · rw [LastClose.after, absent]
            exact .without_terminator never more

theorem reading_reads (text : List Char) : Reads text none 0 (reading text) :=
  have initial : Driving text none (0 + 0) := Driving.initial text
  drive_reads (List.drop_zero : text.drop 0 = text) initial

theorem parse_divides (text : List Char) : Divides text (parse text) :=
  (reading_reads text).divides

theorem parse_inOrder (text : List Char) : InOrder (parse text) :=
  (parse_divides text).tiles.inOrder

def readDirectives (text : List Char) : List Statement :=
  (parse text).filter fun s => !s.isContent

theorem isDirective_of_mem_readDirectives {text : List Char} {s : Statement}
    (read : s ∈ readDirectives text) : IsDirective text s := by
  obtain ⟨among, directive⟩ := List.mem_filter.mp read
  exact (parse_divides text).directives s among (by simpa using directive)

theorem eq_parse_of_divides {text : List Char} {statements : List Statement}
    (h : Divides text statements) : statements = parse text :=
  DividesFrom.unique (p := 0) h (parse_divides text)

/-- A text has exactly one division into statements, and parsing finds it. -/
theorem parse_eq_iff_divides (text : List Char) (statements : List Statement) :
    parse text = statements ↔ Divides text statements := by
  constructor
  · rintro rfl
    exact parse_divides text
  · exact fun h => (eq_parse_of_divides h).symm

end JqTemplate
