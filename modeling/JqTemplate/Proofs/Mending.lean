import JqTemplate.Proofs.Findings
import JqTemplate.Proofs.Head

namespace JqTemplate

theorem Text.mem_of_closest {word near : List Char} {candidates : List (List Char)}
    (h : closest word candidates = some near) : near ∈ candidates := by
  induction candidates with
  | nil => contradiction
  | cons x rest ih =>
    simp only [closest] at h
    split at h
    · split at h
      · exact Option.some.inj h ▸ List.mem_cons_self
      · rename_i later
        split at h
        · exact Option.some.inj h ▸ List.mem_cons_self
        · exact List.mem_cons_of_mem _ (ih (later.trans h))
    · exact List.mem_cons_of_mem _ (ih h)

namespace Unknown

theorem mem_wordKeywords {word : List Char} (h : word ∈ wordKeywords) :
    ∃ k : Keyword, k.letters = word := by
  obtain ⟨k, _, letters⟩ := List.mem_map.mp h
  exact ⟨k, letters⟩

section Codes

variable {severity : Severity} {span : Span} {body : List Char}

theorem head?_of_isBodyKeyword (h : isBodyKeyword body = true) : head? body = some body := by
  obtain ⟨k, _, rfl⟩ := isBodyKeyword_iff.mp h
  refine head?_eq_some_iff.mpr ⟨[], [], by simp, by simp, isWord_letters k, .inr (.inr rfl)⟩

theorem not_lacking (other : isBodyKeyword body = false) (word : List Char) :
    (isBodyKeyword word && decide (body = word)) = false := by
  refine Bool.eq_false_iff.mpr fun lacking => ?_
  obtain ⟨keyword, same⟩ := Bool.and_eq_true_iff.mp lacking
  rw [of_decide_eq_true same, keyword] at other
  contradiction

theorem diagnose_lacking (h : isBodyKeyword body = true) :
    diagnose severity span body = withoutExpression severity span (String.ofList body) := by
  simp [diagnose, head?_of_isBodyKeyword h, h]

theorem diagnose_blank {word : List Char} (other : isBodyKeyword body = false)
    (head : head? body = some word) (keyword : isKeyword word = true)
    (blank : body.head?.any Text.isBlank = true) :
    diagnose severity span body = withHead severity span (String.ofList word)
      [⟨"remove the leading whitespace", marked (String.ofList (Text.trimStart body))⟩]
      ["directive keywords must directly follow '" ++ openMark ++ "'"] := by
  simp only [diagnose, head, not_lacking other, keyword, blank, Bool.and_self, if_true,
    Bool.false_eq_true, if_false]

theorem diagnose_misspelt {word : List Char} (other : isBodyKeyword body = false)
    (head : head? body = some word) (keyword : isKeyword word = false) :
    diagnose severity span body =
      withHead severity span (String.ofList word)
        (((Text.closest word wordKeywords).map fun near =>
          ⟨"did you mean '" ++ String.ofList near ++ "'?",
            marked (String.ofList (replaceHead body word near))⟩).toList) [] := by
  simp only [diagnose, head, not_lacking other, keyword, Bool.false_and, Bool.false_eq_true,
    if_false]
  cases Text.closest word wordKeywords <;> rfl

/-- Only a body that is a keyword without its expression is not reported as unknown. -/
theorem diagnose_code_iff :
    (diagnose severity span body).code = .unknownDirective ↔ isBodyKeyword body = false := by
  constructor
  · intro code
    refine Bool.eq_false_iff.mpr fun keyword => ?_
    rw [diagnose_lacking keyword] at code
    contradiction
  · intro other
    unfold diagnose
    cases head? body with
    | none => rfl
    | some word =>
      simp only [not_lacking other word]
      repeat' split
      all_goals first | rfl | contradiction

end Codes

/-- How a suggestion changes the body of an unknown directive. -/
inductive Mends : List Char → List Char → Prop where
  | trimmed {k : Keyword} {blanks rest : List Char} (nonempty : blanks ≠ [])
      (blank : ∀ c ∈ blanks, Text.isBlank c = true) (ends : Ends k.letters rest) :
      Mends (blanks ++ (k.letters ++ rest)) (k.letters ++ rest)
  | respelt {k : Keyword} {word blanks rest : List Char}
      (blank : ∀ c ∈ blanks, Text.isBlank c = true) (is : IsWord word)
      (other : isKeyword word = false) (stop : rest.head?.any Text.isWordChar = false) :
      Mends (blanks ++ (word ++ rest)) (blanks ++ (k.letters ++ rest))

theorem stop_of_not_keyword {word rest : List Char} (other : isKeyword word = false)
    (ends : Ends word rest) : rest.head?.any Text.isWordChar = false := by
  rcases ends with rfl | rfl | stop
  · exact absurd other (by decide)
  · exact absurd other (by decide)
  · exact stop

section Suggestions

variable {severity : Severity} {span : Span} {suggestion : Suggestion}
  {body word blanks rest : List Char}

theorem diagnose_behind_blanks {k : Keyword} (blank : ∀ c ∈ blanks, Text.isBlank c = true)
    (ends : Ends k.letters rest) (reported : isReported (blanks ++ (k.letters ++ rest)) = true) :
    blanks ≠ [] ∧ diagnose severity span (blanks ++ (k.letters ++ rest)) =
      withHead severity span (String.ofList k.letters)
        [⟨"remove the leading whitespace", marked (String.ofList (k.letters ++ rest))⟩]
        ["directive keywords must directly follow '" ++ openMark ++ "'"] := by
  have is := isWord_letters k
  have nonempty : blanks ≠ [] := by
    rintro rfl
    rw [isReported_keyword ends blank] at reported
    exact Bool.false_ne_true reported
  have front : (blanks ++ (k.letters ++ rest)).head?.any Text.isBlank = true := by
    rw [List.head?_append_of_ne_nil _ nonempty, List.head?_eq_some_head nonempty]
    exact blank _ (List.head_mem nonempty)
  have head := head?_eq_some_iff.mpr ⟨blanks, rest, rfl, blank, is, ends⟩
  refine ⟨nonempty, ?_⟩
  rw [diagnose_blank (isReported_iff.mp reported).2 head (isKeyword_iff.mpr ⟨k, rfl⟩) front,
    trimStart_append blank is]

theorem mends_of_keyword {k : Keyword} (blank : ∀ c ∈ blanks, Text.isBlank c = true)
    (ends : Ends k.letters rest) (reported : isReported (blanks ++ (k.letters ++ rest)) = true)
    (suggested :
      suggestion ∈ (diagnose severity span (blanks ++ (k.letters ++ rest))).suggestions) :
    suggestion.replacement = marked (String.ofList (k.letters ++ rest)) ∧
      Mends (blanks ++ (k.letters ++ rest)) (k.letters ++ rest) := by
  obtain ⟨nonempty, diagnosis⟩ := @diagnose_behind_blanks severity span _ _ _ blank ends reported
  rw [diagnosis] at suggested
  obtain rfl := List.mem_singleton.mp suggested
  exact ⟨rfl, .trimmed nonempty blank ends⟩

theorem mends_of_misspelling (blank : ∀ c ∈ blanks, Text.isBlank c = true) (is : IsWord word)
    (ends : Ends word rest) (other : isKeyword word = false)
    (reported : isReported (blanks ++ (word ++ rest)) = true)
    (suggested : suggestion ∈ (diagnose severity span (blanks ++ (word ++ rest))).suggestions) :
    ∃ k : Keyword,
      suggestion.replacement = marked (String.ofList (blanks ++ (k.letters ++ rest))) ∧
      Mends (blanks ++ (word ++ rest)) (blanks ++ (k.letters ++ rest)) := by
  have head := head?_eq_some_iff.mpr ⟨blanks, rest, rfl, blank, is, ends⟩
  rw [diagnose_misspelt (isReported_iff.mp reported).2 head other] at suggested
  obtain ⟨near, found, rfl⟩ := Option.map_eq_some_iff.mp (Option.mem_toList.mp suggested)
  obtain ⟨k, rfl⟩ := mem_wordKeywords (Text.mem_of_closest found)
  refine ⟨k, ?_, .respelt blank is other (stop_of_not_keyword other ends)⟩
  simp only [replaceHead, leadingBlanks_append blank is, trimStart_append blank is,
    List.drop_left, List.append_assoc]

theorem mends_of_suggestion (reported : isReported body = true)
    (suggested : suggestion ∈ (diagnose severity span body).suggestions) :
    ∃ mended, suggestion.replacement = marked (String.ofList mended) ∧ Mends body mended := by
  cases head : head? body with
  | none => simp [diagnose, head, withoutHead] at suggested
  | some word =>
    obtain ⟨blanks, rest, rfl, blank, is, ends⟩ := head?_eq_some_iff.mp head
    cases keyword : isKeyword word with
    | true =>
      obtain ⟨k, rfl⟩ := isKeyword_iff.mp keyword
      exact ⟨_, mends_of_keyword blank ends reported suggested⟩
    | false =>
      obtain ⟨k, mends⟩ := mends_of_misspelling blank is ends keyword reported suggested
      exact ⟨_, mends⟩

end Suggestions

def misspeltBehindBlanks (body : List Char) : Bool :=
  body.head?.any Text.isBlank && (head? body).any fun word => !isKeyword word

/-- A changed body is reported again when it was a misspelt word behind blanks, and only then. -/
theorem Mends.isReported_eq {body mended : List Char} (h : Mends body mended) :
    isReported mended = misspeltBehindBlanks body := by
  cases h with
  | @trimmed k blanks rest nonempty blank ends =>
    have keyword : isKeyword k.letters = true := isKeyword_iff.mpr ⟨k, rfl⟩
    have head := head?_eq_some_iff.mpr ⟨blanks, rest, rfl, blank, isWord_letters k, ends⟩
    have mended : isReported ([] ++ (k.letters ++ rest)) = false :=
      isReported_keyword ends (by simp)
    simpa [misspeltBehindBlanks, head, keyword] using mended
  | @respelt k word blanks rest blank is other stop =>
    have head := head?_eq_some_iff.mpr ⟨blanks, rest, rfl, blank, is, .inr (.inr stop)⟩
    have mended := isReported_keyword (k := k) (.inr (.inr stop)) blank
    have front : (blanks ++ (word ++ rest)).head?.any Text.isBlank = !blanks.isEmpty := by
      cases blanks with
      | nil => rw [List.nil_append, List.head?_append_of_ne_nil _ is.ne_nil, is.not_blank]; rfl
      | cons c more => simpa using blank c List.mem_cons_self
    rw [mended, misspeltBehindBlanks, front, head]
    simp [other]

end Unknown

end JqTemplate
