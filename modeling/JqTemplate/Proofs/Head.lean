import JqTemplate.Check
import Mathlib.Data.List.Basic
import Mathlib.Data.List.TakeWhile

/-! The word at the head of a body as the checker reads it, and the keyword as the recognizer
reads it. The two agree: a body whose head word is a keyword is recognized, unless blanks stand
in front of the word or nothing behind it. -/
namespace JqTemplate

namespace Keyword

theorem mem_table (k : Keyword) : k ∈ table := by
  cases k <;> decide

theorem fits_iff {k : Keyword} {body : List Char} :
    k.fits body = true ↔ ∃ rest, body = k.letters ++ rest ∧ k.acceptsRest rest = true := by
  unfold fits rest?
  constructor
  · intro fits
    split at fits
    · rename_i begins
      obtain ⟨rest, rfl⟩ := List.isPrefixOf_iff_prefix.mp begins
      exact ⟨rest, rfl, by simpa using fits⟩
    · contradiction
  · rintro ⟨rest, rfl, accepts⟩
    have begins : k.letters.isPrefixOf (k.letters ++ rest) = true :=
      List.isPrefixOf_iff_prefix.mpr (List.prefix_append _ _)
    simpa [begins] using accepts

theorem letters_plain (k : Keyword) :
    k.letters.head?.any Text.isBlank = false ∧ '}' ∉ k.letters := by
  cases k <;> decide

theorem letters_ne_nil (k : Keyword) : k.letters ≠ [] := by
  cases k <;> decide

end Keyword

theorem recognize_eq_none_iff {body : List Char} :
    recognize body = none ↔ ∀ k : Keyword, k.fits body = false := by
  simp [recognize, recognizeIn, Keyword.mem_table]

theorem rest_of_recognized {k : Keyword} {body : List Char}
    (known : recognize body = some k) :
    body = k.letters ++ body.drop k.letters.length := by
  have fits := List.find?_some known
  obtain ⟨rest, rfl, _⟩ := Keyword.fits_iff.mp fits
  rw [List.drop_left]

theorem recognize_of_blank {body : List Char} (blank : body.head?.any Text.isBlank = true) :
    recognize body = none := by
  refine recognize_eq_none_iff.mpr fun k => Bool.eq_false_iff.mpr fun fits => ?_
  obtain ⟨rest, rfl, _⟩ := Keyword.fits_iff.mp fits
  rw [List.head?_append_of_ne_nil _ k.letters_ne_nil, k.letters_plain.1] at blank
  contradiction

namespace Unknown

/-- The words a body can have at its head: a symbol, or a name with or without a slash. -/
inductive IsWord : List Char → Prop where
  | symbol {c : Char} (symbol : c = '=' ∨ c = '!') : IsWord [c]
  | name {first : Char} {tail : List Char} (start : isNameStart first = true)
      (goes : ∀ c ∈ tail, Text.isWordChar c = true) : IsWord (first :: tail)
  | slashed {first : Char} {tail : List Char} (start : isNameStart first = true)
      (goes : ∀ c ∈ tail, Text.isWordChar c = true) : IsWord ('/' :: first :: tail)

/-- A name ends where no word character follows; the two symbols end by themselves. -/
def Ends (word rest : List Char) : Prop :=
  word = ['='] ∨ word = ['!'] ∨ rest.head?.any Text.isWordChar = false

section Words

variable {p : Char → Bool} {c first : Char} {tail blanks rest body word : List Char}

theorem takeWhile_append_of_stop (all : ∀ c ∈ tail, p c = true)
    (stop : rest.head?.any p = false) : (tail ++ rest).takeWhile p = tail := by
  have absent : rest.takeWhile p = [] := by
    cases rest with
    | nil => rfl
    | cons c more => exact List.takeWhile_cons_of_neg (by simpa using stop)
  rw [List.takeWhile_append_of_pos all, absent, List.append_nil]

theorem head?_dropWhile_any (p : Char → Bool) (text : List Char) :
    (text.dropWhile p).head?.any p = false := by
  have stop := List.head?_dropWhile_not p text
  cases head : (text.dropWhile p).head? with
  | none => rfl
  | some c => simpa [head] using stop

theorem dropWhile_of_stop {text : List Char} (stop : text.head?.any p = false) :
    text.dropWhile p = text := by
  cases text with
  | nil => rfl
  | cons c more => exact List.dropWhile_cons_of_neg (by simpa using stop)

theorem headOf_symbol (symbol : c = '=' ∨ c = '!') : headOf (c :: rest) = some [c] := by
  simp [headOf, symbol]

theorem isNameStart_ne (start : isNameStart c = true) : ¬ (c = '=' ∨ c = '!') ∧ c ≠ '/' := by
  refine ⟨?_, ?_⟩
  · rintro (rfl | rfl) <;> contradiction
  · rintro rfl
    contradiction

theorem headOf_name (start : isNameStart first = true) :
    headOf (first :: rest) = some (first :: rest.takeWhile Text.isWordChar) := by
  simp [headOf, start, isNameStart_ne start]

theorem headOf_slashed (start : isNameStart first = true) :
    headOf ('/' :: first :: rest) = some ('/' :: first :: rest.takeWhile Text.isWordChar) := by
  simp [headOf, start]

theorem headOf_append (is : IsWord word) (ends : Ends word rest) :
    headOf (word ++ rest) = some word := by
  have stop (name : word ≠ ['='] ∧ word ≠ ['!']) : rest.head?.any Text.isWordChar = false :=
    (ends.resolve_left name.1).resolve_left name.2
  cases is with
  | symbol symbol => exact headOf_symbol symbol
  | name start goes =>
    have other := (isNameStart_ne start).1
    have name := stop ⟨fun same => other (.inl (List.cons.inj same).1),
      fun same => other (.inr (List.cons.inj same).1)⟩
    rw [List.cons_append, headOf_name start, takeWhile_append_of_stop goes name]
  | slashed start goes =>
    rw [List.cons_append, List.cons_append, headOf_slashed start,
      takeWhile_append_of_stop goes (stop (by simp))]

theorem headOf_eq_some_iff :
    headOf body = some word ↔ ∃ rest, body = word ++ rest ∧ IsWord word ∧ Ends word rest := by
  have goes (text : List Char) : ∀ c ∈ text.takeWhile Text.isWordChar, Text.isWordChar c = true :=
    fun c member => List.mem_takeWhile_imp member
  have parts (text : List Char) : text =
      text.takeWhile Text.isWordChar ++ text.dropWhile Text.isWordChar :=
    List.takeWhile_append_dropWhile.symm
  constructor
  · intro head
    fun_cases headOf body with
    | case1 => contradiction
    | case2 c rest symbol =>
      obtain rfl := Option.some.inj ((headOf_symbol symbol).symm.trans head)
      exact ⟨rest, rfl, .symbol symbol, by simpa [Ends, ← or_assoc] using Or.inl symbol⟩
    | case3 first more start =>
      obtain rfl := Option.some.inj ((headOf_slashed start).symm.trans head)
      refine ⟨_, ?_, .slashed start (goes more), .inr (.inr (head?_dropWhile_any _ more))⟩
      rw [List.cons_append, List.cons_append, ← parts]
    | case6 first more _ _ start =>
      obtain rfl := Option.some.inj ((headOf_name start).symm.trans head)
      refine ⟨_, ?_, .name start (goes more), .inr (.inr (head?_dropWhile_any _ more))⟩
      rw [List.cons_append, ← parts]
    | case4 first more start => simp [headOf, start] at head
    | case5 => simp [headOf] at head
    | case7 c more symbol slash start => simp [headOf, symbol, slash, start] at head
  · rintro ⟨rest, rfl, is, ends⟩
    exact headOf_append is ends

theorem isWord_letters (k : Keyword) : IsWord k.letters := by
  have own : headOf k.letters = some k.letters := by cases k <;> decide
  obtain ⟨_, _, is, _⟩ := headOf_eq_some_iff.mp own
  exact is

theorem not_blank_of_isNameStart (start : isNameStart c = true) : Text.isBlank c = false := by
  have range : ((65 ≤ c.toNat ∧ c.toNat ≤ 90) ∨ (97 ≤ c.toNat ∧ c.toNat ≤ 122)) ∨ c = '_' := by
    rcases Bool.or_eq_true_iff.mp start with letter | underscore
    · rcases Bool.or_eq_true_iff.mp letter with upper | lower
      · exact .inl (.inl (of_decide_eq_true upper))
      · obtain ⟨least, greatest⟩ := Bool.and_eq_true_iff.mp lower
        exact .inl (.inr ⟨of_decide_eq_true least, of_decide_eq_true greatest⟩)
    · exact .inr (of_decide_eq_true underscore)
  rcases range with letter | rfl
  · simp only [Text.isBlank, Text.CharRange.covers, Text.CharRange.holds, Text.blankRanges,
      List.any_cons, List.any_nil, Bool.or_eq_false_iff, Bool.and_eq_false_iff,
      decide_eq_false_iff_not, Bool.or_false]
    omega
  · decide

theorem IsWord.not_blank (is : IsWord word) : word.head?.any Text.isBlank = false := by
  cases is with
  | symbol symbol => rcases symbol with rfl | rfl <;> decide
  | name start _ => simpa using not_blank_of_isNameStart start
  | slashed _ _ => exact (by decide : Text.isBlank '/' = false)

theorem IsWord.ne_nil (is : IsWord word) : word ≠ [] := by
  cases is <;> simp

theorem trimStart_append (blank : ∀ c ∈ blanks, Text.isBlank c = true) (is : IsWord word) :
    Text.trimStart (blanks ++ (word ++ rest)) = word ++ rest := by
  rw [Text.trimStart, List.dropWhile_append_of_pos blank]
  exact dropWhile_of_stop (by rw [List.head?_append_of_ne_nil _ is.ne_nil, is.not_blank])

theorem leadingBlanks_append (blank : ∀ c ∈ blanks, Text.isBlank c = true) (is : IsWord word) :
    Text.leadingBlanks (blanks ++ (word ++ rest)) = blanks :=
  takeWhile_append_of_stop blank (by rw [List.head?_append_of_ne_nil _ is.ne_nil, is.not_blank])

theorem head?_eq_some_iff :
    head? body = some word ↔ ∃ blanks rest, body = blanks ++ (word ++ rest) ∧
      (∀ c ∈ blanks, Text.isBlank c = true) ∧ IsWord word ∧ Ends word rest := by
  unfold head?
  rw [headOf_eq_some_iff]
  constructor
  · rintro ⟨rest, trimmed, is, ends⟩
    refine ⟨Text.leadingBlanks body, rest, ?_, fun c => List.mem_takeWhile_imp, is, ends⟩
    rw [← trimmed, Text.leadingBlanks_append_trimStart]
  · rintro ⟨blanks, rest, rfl, blank, is, ends⟩
    exact ⟨rest, trimStart_append blank is, is, ends⟩

theorem isBodyKeyword_iff :
    isBodyKeyword word = true ↔ ∃ k : Keyword, k.needsBody = true ∧ k.letters = word := by
  simp [isBodyKeyword, Keyword.mem_table]

theorem isKeyword_iff : isKeyword word = true ↔ ∃ k : Keyword, k.letters = word := by
  simp [isKeyword, Keyword.mem_table]

end Words

/-- Whether a directive with this body is reported as unknown. -/
def isReported (body : List Char) : Bool := (recognize body).isNone && !isBodyKeyword body

theorem isReported_iff {body : List Char} :
    isReported body = true ↔ recognize body = none ∧ isBodyKeyword body = false := by
  simp [isReported]

theorem acceptsRest_of_ends {k : Keyword} {rest : List Char} (ends : Ends k.letters rest)
    (expression : k.needsBody = true → rest ≠ []) : k.acceptsRest rest = true := by
  have boundary : (k.needsBoundary && rest.head?.any Text.isWordChar) = false := by
    rcases ends with symbol | symbol | stop
    · simp only [Keyword.needsBoundary, symbol]
      rfl
    · simp only [Keyword.needsBoundary, symbol]
      rfl
    · rw [stop, Bool.and_false]
  have body : (k.needsBody && rest.isEmpty) = false := by
    simpa using expression
  rw [Keyword.acceptsRest, boundary, body]
  rfl

/-- A body with a keyword at its head is reported when blanks stand in front, and only then. -/
theorem isReported_keyword {k : Keyword} {blanks rest : List Char} (ends : Ends k.letters rest)
    (blank : ∀ c ∈ blanks, Text.isBlank c = true) :
    isReported (blanks ++ (k.letters ++ rest)) = !blanks.isEmpty := by
  cases blanks with
  | nil =>
    -- a keyword without its expression is not recognized, but has a report of its own
    by_cases bare : k.needsBody = true ∧ rest = []
    · obtain ⟨needs, rfl⟩ := bare
      have keyword : isBodyKeyword k.letters = true := isBodyKeyword_iff.mpr ⟨k, needs, rfl⟩
      simp [isReported, keyword]
    · have accepts := acceptsRest_of_ends ends fun needs empty => bare ⟨needs, empty⟩
      have fits : k.fits (k.letters ++ rest) = true := Keyword.fits_iff.mpr ⟨rest, rfl, accepts⟩
      have recognized : recognize (k.letters ++ rest) ≠ none := fun absent =>
        Bool.eq_false_iff.mp (recognize_eq_none_iff.mp absent k) fits
      simp [isReported, recognized]
  | cons c more =>
    have first : Text.isBlank c = true := blank c List.mem_cons_self
    have unrecognized : recognize (c :: more ++ (k.letters ++ rest)) = none :=
      recognize_of_blank (by simpa using first)
    have other : isBodyKeyword (c :: more ++ (k.letters ++ rest)) = false := by
      refine Bool.eq_false_iff.mpr fun keyword => ?_
      obtain ⟨k', _, same⟩ := isBodyKeyword_iff.mp keyword
      have plain := k'.letters_plain.1
      simp [same, first] at plain
    rw [isReported, unrecognized, other]
    rfl

end Unknown

end JqTemplate
