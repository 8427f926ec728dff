import JqTemplate.Proofs.Repair

/-! Following suggestions until the directive is recognized. A body can have three flaws: the word
at its head is misspelt, blanks stand in front of the word, and nothing stands behind it. Each
suggestion mends one of them, and as long as the directive is unknown there is another one. -/
namespace JqTemplate

namespace Unknown

def flaws (body : List Char) : Nat :=
  match head? body with
  | none => 0
  | some word =>
    (!isKeyword word).toNat + (!(Text.leadingBlanks body).isEmpty).toNat +
      ((Text.trimStart body).drop word.length).isEmpty.toNat

/-- How a suggestion changes the body of an unknown directive, a keyword without its expression
included. -/
inductive Follows : List Char → List Char → Prop where
  | mended {body mended : List Char} (h : Mends body mended) : Follows body mended
  | completed {k : Keyword} (needs : k.needsBody = true) :
      Follows k.letters (k.letters ++ [' ', '.', '.', '.'])

section Bodies

variable {k : Keyword} {word blanks rest body mended : List Char} {severity : Severity}
  {span : Span}

theorem flaws_append (blank : ∀ c ∈ blanks, Text.isBlank c = true) (is : IsWord word)
    (ends : Ends word rest) :
    flaws (blanks ++ (word ++ rest)) =
      (!isKeyword word).toNat + (!blanks.isEmpty).toNat + rest.isEmpty.toNat := by
  have head := head?_eq_some_iff.mpr ⟨blanks, rest, rfl, blank, is, ends⟩
  simp only [flaws, head, leadingBlanks_append blank is, trimStart_append blank is, List.drop_left]

theorem flaws_word (is : IsWord word) (ends : Ends word rest) :
    flaws (word ++ rest) = (!isKeyword word).toNat + rest.isEmpty.toNat := by
  have plain : flaws ([] ++ (word ++ rest)) = _ := flaws_append (by simp) is ends
  simpa using plain

theorem flaws_le_three (body : List Char) : flaws body ≤ 3 := by
  unfold flaws
  cases head? body with
  | none => exact Nat.zero_le 3
  | some word =>
    have misspelt := Bool.toNat_le (!isKeyword word)
    have behind := Bool.toNat_le (!(Text.leadingBlanks body).isEmpty)
    have bare := Bool.toNat_le ((Text.trimStart body).drop word.length).isEmpty
    dsimp only
    omega

theorem follows_of_suggestion {suggestion : Suggestion} (unknown : recognize body = none)
    (suggested : suggestion ∈ (diagnose severity span body).suggestions) :
    ∃ mended, suggestion.replacement.toList = enclosed mended ∧ Follows body mended := by
  cases keyword : isBodyKeyword body with
  | true =>
    obtain ⟨k, needs, rfl⟩ := isBodyKeyword_iff.mp keyword
    rw [diagnose_lacking keyword] at suggested
    obtain rfl := List.mem_singleton.mp suggested
    refine ⟨_, ?_, .completed needs⟩
    simp [marked, enclosed, openMark, closeMark]
  | false =>
    have reported := isReported_iff.mpr ⟨unknown, keyword⟩
    obtain ⟨mended, replacement, mends⟩ := mends_of_suggestion reported suggested
    exact ⟨mended, replacement ▸ marked_toList mended, .mended mends⟩

namespace Follows

theorem isBody (h : Follows body mended) (is : IsBody body) : IsBody mended := by
  cases h with
  | mended mends => exact mends.isBody is
  | @completed k needs =>
    apply IsBody.of_plain
    simpa using k.letters_plain.2

/-- Whatever is suggested, one flaw goes and none comes. -/
theorem flaws_lt (h : Follows body mended) : flaws mended < flaws body := by
  cases h with
  | mended mends =>
    cases mends with
    | @trimmed k blanks rest nonempty blank ends =>
      have is := isWord_letters k
      have front : blanks.isEmpty = false := List.isEmpty_eq_false_iff.mpr nonempty
      rw [flaws_append blank is ends, flaws_word is ends, front]
      simp
    | @respelt k word blanks rest blank is other stop =>
      have keyword : isKeyword k.letters = true := isKeyword_iff.mpr ⟨k, rfl⟩
      rw [flaws_append blank is (.inr (.inr stop)),
        flaws_append blank (isWord_letters k) (.inr (.inr stop)), keyword, other]
      simp only [Bool.not_true, Bool.not_false, Bool.toNat_true, Bool.toNat_false]
      omega
  | @completed k needs =>
    have is := isWord_letters k
    have bare : flaws (k.letters ++ []) = _ := flaws_word is (.inr (.inr rfl))
    rw [List.append_nil] at bare
    rw [bare, flaws_word is (.inr (.inr (by decide)))]
    simp

theorem head_keyword (h : Follows body mended) : ∃ k : Keyword, head? mended = some k.letters := by
  cases h with
  | mended mends =>
    cases mends with
    | @trimmed k blanks rest nonempty blank ends =>
      exact ⟨k, head?_eq_some_iff.mpr ⟨[], rest, rfl, by simp, isWord_letters k, ends⟩⟩
    | @respelt k word blanks rest blank is other stop =>
      exact ⟨k, head?_eq_some_iff.mpr
        ⟨blanks, rest, rfl, blank, isWord_letters k, .inr (.inr stop)⟩⟩
  | @completed k needs =>
    exact ⟨k, head?_eq_some_iff.mpr
      ⟨[], _, rfl, by simp, isWord_letters k, .inr (.inr (by decide))⟩⟩

end Follows

theorem suggestions_of_keyword (head : head? body = some k.letters)
    (unknown : recognize body = none) : (diagnose severity span body).suggestions ≠ [] := by
  cases keyword : isBodyKeyword body with
  | true =>
    rw [diagnose_lacking keyword]
    exact List.cons_ne_nil _ _
  | false =>
    obtain ⟨blanks, rest, rfl, blank, _, ends⟩ := head?_eq_some_iff.mp head
    have reported := isReported_iff.mpr ⟨unknown, keyword⟩
    rw [(diagnose_behind_blanks blank ends reported).2]
    exact List.cons_ne_nil _ _

end Bodies

end Unknown

section Places

variable {config : CheckConfig} {text body : List Char} {span : Span}

theorem unknown_diagnostic_iff (read : ⟨.unknown body, span⟩ ∈ parse text) {d : Diagnostic} :
    (d ∈ (check config text).diagnostics ∧ d.code.isUnknown = true ∧ d.span? = some span) ↔
      d = Unknown.diagnose config.unknown span body := by
  constructor
  · rintro ⟨reported, code, place⟩
    obtain ⟨s, taken, found⟩ := mem_diagnostics_unknown_iff.mp ⟨reported, code⟩
    obtain ⟨body', form, rfl⟩ := unknownFinding?_eq_some_iff.mp found
    have same : s.span = span := Option.some.inj ((diagnose_span _ _ _).symm.trans place)
    obtain rfl := (parse_inOrder text).eq_of_span taken read same
    obtain rfl : body = body' := Form.unknown.inj form
    rfl
  · rintro rfl
    have found : unknownFinding? config ⟨.unknown body, span⟩ =
        some (Unknown.diagnose config.unknown span body) := rfl
    obtain ⟨reported, code⟩ := mem_diagnostics_unknown_iff.mpr ⟨_, read, found⟩
    exact ⟨reported, code, diagnose_span _ _ _⟩

variable (config text span)

/-- What the checker suggests to put in the place of the directive at `span`. -/
def Suggests (replacement : List Char) : Prop :=
  ∃ d ∈ (check config text).diagnostics, d.code.isUnknown = true ∧ d.span? = some span ∧
    ∃ suggestion ∈ d.suggestions, suggestion.replacement.toList = replacement

def RecognizedAt : Prop := ∃ k, ⟨.directive k, span⟩ ∈ parse text

/-- The directive at `span` is recognized, or there is a suggestion for it; and whatever is
suggested, its text reads as one directive, which needs one round less. -/
def RecoversWithin : Nat → List Char → Span → Prop
  | 0, text, span => RecognizedAt text span
  | rounds + 1, text, span => RecognizedAt text span ∨
    (∃ replacement, Suggests config text span replacement) ∧
    ∀ replacement, Suggests config text span replacement →
      ∃ repaired, Repair text span replacement repaired ∧
        RecoversWithin rounds (span.replaceIn text replacement) repaired.span

variable {config text span}

theorem suggests_iff (read : ⟨.unknown body, span⟩ ∈ parse text) {replacement : List Char} :
    Suggests config text span replacement ↔
      ∃ suggestion ∈ (Unknown.diagnose config.unknown span body).suggestions,
        suggestion.replacement.toList = replacement := by
  constructor
  · rintro ⟨d, reported, code, place, offered⟩
    obtain rfl := (unknown_diagnostic_iff read).mp ⟨reported, code, place⟩
    exact offered
  · intro offered
    obtain ⟨reported, code, place⟩ := (unknown_diagnostic_iff read).mpr rfl
    exact ⟨_, reported, code, place, offered⟩

theorem recognized_or_unknown (read : ⟨Form.ofBody body, span⟩ ∈ parse text) :
    RecognizedAt text span ∨ recognize body = none := by
  cases unknown : recognize body with
  | some k => exact .inl ⟨k, by simpa [Form.ofBody, unknown] using read⟩
  | none => exact .inr rfl

theorem not_recognized (read : ⟨.unknown body, span⟩ ∈ parse text) : ¬ RecognizedAt text span := by
  rintro ⟨k, recognized⟩
  have same := (parse_inOrder text).eq_of_span read recognized rfl
  cases same

theorem recovers_of_flaws {rounds : Nat} (read : ⟨Form.ofBody body, span⟩ ∈ parse text)
    (is : IsBody body) (few : Unknown.flaws body ≤ rounds)
    (offered : recognize body = none →
      (Unknown.diagnose config.unknown span body).suggestions ≠ []) :
    RecoversWithin config rounds text span := by
  -- a round needs a suggestion, and each suggestion takes a flaw away
  induction rounds generalizing text span body with
  | zero =>
    rcases recognized_or_unknown read with recognized | unknown
    · exact recognized
    · obtain ⟨suggestion, member⟩ := List.exists_mem_of_ne_nil _ (offered unknown)
      obtain ⟨mended, _, follows⟩ := Unknown.follows_of_suggestion unknown member
      have fewer := follows.flaws_lt
      omega
  | succ rounds ih =>
    rcases recognized_or_unknown read with recognized | unknown
    · exact .inl recognized
    rw [Form.ofBody_eq_unknown_iff.mpr ⟨unknown, rfl⟩] at read
    refine .inr ⟨?_, ?_⟩
    · obtain ⟨suggestion, member⟩ := List.exists_mem_of_ne_nil _ (offered unknown)
      exact ⟨_, (suggests_iff read).mpr ⟨suggestion, member, rfl⟩⟩
    · intro replacement suggests
      obtain ⟨suggestion, member, rfl⟩ := (suggests_iff read).mp suggests
      obtain ⟨mended, replacement, follows⟩ := Unknown.follows_of_suggestion unknown member
      rw [replacement]
      have repair := repair_of_isBody read rfl (follows.isBody is)
      have fewer := follows.flaws_lt
      -- the new body has a keyword at its head, so the next round does not get stuck
      obtain ⟨k, head⟩ := follows.head_keyword
      exact ⟨_, repair, ih repair.read (follows.isBody is) (by omega)
        (Unknown.suggestions_of_keyword head)⟩

theorem unknown_body {s : Statement} (read : s ∈ parse text) (form : s.form = .unknown body) :
    recognize body = none ∧ IsBody body := by
  have directive : s.isContent = false := by simp [Statement.isContent, form]
  obtain ⟨_, own, _, _, is, rfl⟩ := ((parse_divides text).directives s read directive).split
  obtain ⟨unknown, rfl⟩ := Form.ofBody_eq_unknown_iff.mp form
  exact ⟨unknown, is⟩

/-- An unknown directive for which there is a suggestion is recognized after three rounds at most,
whatever is suggested on the way. -/
theorem recovers_within_three (config : CheckConfig) (text : List Char) {d : Diagnostic}
    (reported : d ∈ (check config text).diagnostics) (code : d.code.isUnknown = true)
    (offered : d.suggestions ≠ []) :
    ∃ span body, d.span? = some span ∧ ⟨.unknown body, span⟩ ∈ parse text ∧
      RecoversWithin config 3 text span := by
  obtain ⟨s, read, found⟩ := mem_diagnostics_unknown_iff.mp ⟨reported, code⟩
  obtain ⟨body, form, rfl⟩ := unknownFinding?_eq_some_iff.mp found
  obtain ⟨unknown, is⟩ := unknown_body read form
  have whole : (⟨Form.ofBody body, s.span⟩ : Statement) ∈ parse text := by
    rw [Form.ofBody_eq_unknown_iff.mpr ⟨unknown, rfl⟩, ← form]
    exact read
  refine ⟨s.span, body, diagnose_span _ _ _, form ▸ read, ?_⟩
  exact recovers_of_flaws whole is (Unknown.flaws_le_three body) fun _ => offered

theorem needs_another_round {rounds : Nat} {replacement : List Char}
    (read : ⟨.unknown body, span⟩ ∈ parse text)
    (suggests : Suggests config text span replacement)
    (later : ¬ RecoversWithin config rounds (span.replaceIn text replacement)
      ⟨span.start, span.start + replacement.length⟩) :
    ¬ RecoversWithin config (rounds + 1) text span := by
  rintro (recognized | ⟨_, next⟩)
  · exact not_recognized read recognized
  · obtain ⟨repaired, repair, inside⟩ := next replacement suggests
    exact later (repair.place ▸ inside)

theorem bare_misspelling_takes_three :
    Unknown.diagnose .error ⟨0, 8⟩ " iff".toList ∈ (check {} (marked " iff").toList).diagnostics ∧
    RecoversWithin {} 3 (marked " iff").toList ⟨0, 8⟩ ∧
    ¬ RecoversWithin {} 2 (marked " iff").toList ⟨0, 8⟩ := by
  have reported : Unknown.diagnose .error ⟨0, 8⟩ " iff".toList ∈
      (check {} (marked " iff").toList).diagnostics := by decide
  refine ⟨reported, ?_, ?_⟩
  · obtain ⟨span, body, place, _, inside⟩ :=
      recovers_within_three {} (marked " iff").toList reported (by decide) (by decide)
    obtain rfl : ⟨0, 8⟩ = span := by simpa [diagnose_span] using place
    exact inside
  · have first : (⟨.unknown " iff".toList, ⟨0, 8⟩⟩ : Statement) ∈ parse (marked " iff").toList := by
      decide
    have second : (⟨.unknown " if".toList, ⟨0, 7⟩⟩ : Statement) ∈ parse (marked " if").toList := by
      decide
    have third : (⟨.unknown "if".toList, ⟨0, 6⟩⟩ : Statement) ∈ parse (marked "if").toList := by
      decide
    have blanked : Suggests {} (marked " iff").toList ⟨0, 8⟩ (marked " if").toList :=
      (suggests_iff first).mpr (by decide)
    have bare : Suggests {} (marked " if").toList ⟨0, 7⟩ (marked "if").toList :=
      (suggests_iff second).mpr (by decide)
    exact needs_another_round first blanked
      (needs_another_round second bare (not_recognized third))

end Places

end JqTemplate
