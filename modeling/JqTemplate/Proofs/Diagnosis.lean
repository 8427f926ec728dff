import JqTemplate.Proofs.Places
import JqTemplate.Proofs.Recovery

namespace JqTemplate

namespace Unknown

def blankNote : String := "directive keywords must directly follow '" ++ openMark ++ "'"

def withoutBlanks (body : List Char) : Suggestion :=
  ⟨"remove the leading whitespace", marked (String.ofList (Text.trimStart body))⟩

def respelling (near : String) : String := "did you mean '" ++ near ++ "'?"

/-- What a diagnostic of an unknown directive says, by its body. -/
structure Diagnosed (body : List Char) (d : Diagnostic) : Prop where
  codes : d.code = .unknownDirective ∨ d.code = .missingExpression
  lacking : d.code = .missingExpression ↔ ∃ k : Keyword, k.needsBody = true ∧ body = k.letters
  blank : d.code = .unknownDirective → ∀ k : Keyword, head? body = some k.letters →
    body.head?.any Text.isBlank = true ∧ d.notes = [blankNote] ∧
      d.suggestions = [withoutBlanks body]
  respelt : ∀ s ∈ d.suggestions, ∀ near, s.message = respelling near →
    ∃ word, head? body = some word ∧ word ≠ near.toList ∧ (∃ k : Keyword, near = k.spelling) ∧
      s.replacement = marked (String.ofList (replaceHead body word near.toList))

section Bodies

variable {severity : Severity} {span : Span} {body word near : List Char}

theorem respelling_injective : Function.Injective respelling := by
  intro near near' same
  have letters := congrArg String.toList same
  simpa [respelling, String.ext_iff] using letters

theorem not_respelling {s : Suggestion} {c : Char} (first : s.message.toList.head? = some c)
    (other : c ≠ 'd') (near : String) : s.message ≠ respelling near := by
  intro same
  rw [same] at first
  have own : (respelling near).toList.head? = some 'd' := by simp [respelling]
  exact other (Option.some.inj (first.symm.trans own))

theorem diagnosed_lacking (lacking : isBodyKeyword body = true) :
    Diagnosed body (diagnose severity span body) := by
  rw [diagnose_lacking lacking]
  refine ⟨.inr rfl, ⟨fun _ => ?_, fun _ => rfl⟩, ?_, ?_⟩
  · obtain ⟨k, needs, rfl⟩ := isBodyKeyword_iff.mp lacking
    exact ⟨k, needs, rfl⟩
  · intro code
    contradiction
  · intro s member near message
    obtain rfl := List.mem_singleton.mp member
    exact absurd message (not_respelling (c := 'a') (by simp) (by decide) near)

theorem not_lacking_iff {d : Diagnostic} (other : isBodyKeyword body = false)
    (code : d.code = .unknownDirective) :
    d.code = .missingExpression ↔ ∃ k : Keyword, k.needsBody = true ∧ body = k.letters := by
  rw [code]
  refine ⟨fun same => by contradiction, ?_⟩
  rintro ⟨k, needs, rfl⟩
  rw [isBodyKeyword_iff.mpr ⟨k, needs, rfl⟩] at other
  contradiction

theorem diagnosed_headless (headless : head? body = none) :
    Diagnosed body (diagnose severity span body) := by
  have other : isBodyKeyword body = false := by
    refine Bool.eq_false_iff.mpr fun lacking => ?_
    rw [head?_of_isBodyKeyword lacking] at headless
    contradiction
  have said : diagnose severity span body = withoutHead severity span body := by
    rw [diagnose, headless]
  rw [said]
  refine ⟨.inl rfl, not_lacking_iff other rfl, fun _ k head => ?_, fun s member => ?_⟩
  · rw [headless] at head
    contradiction
  · contradiction

theorem diagnosed_behind_blanks (reported : isReported body = true) {k : Keyword}
    (head : head? body = some k.letters) : Diagnosed body (diagnose severity span body) := by
  obtain ⟨blanks, rest, whole, blank, is, ends⟩ := head?_eq_some_iff.mp head
  have trimmed : Text.trimStart body = k.letters ++ rest := whole ▸ trimStart_append blank is
  obtain ⟨nonempty, said⟩ : blanks ≠ [] ∧ diagnose severity span body =
      withHead severity span k.spelling [withoutBlanks body] [blankNote] := by
    rw [withoutBlanks, trimmed]
    exact whole ▸ diagnose_behind_blanks blank ends (whole ▸ reported)
  have front : body.head?.any Text.isBlank = true := by
    rw [whole, List.head?_append_of_ne_nil _ nonempty, List.head?_eq_some_head nonempty]
    exact blank _ (List.head_mem nonempty)
  rw [said]
  refine ⟨.inl rfl, not_lacking_iff (isReported_iff.mp reported).2 rfl,
    fun _ _ _ => ⟨front, rfl, rfl⟩, fun s member near message => ?_⟩
  obtain rfl := List.mem_singleton.mp member
  exact absurd message (not_respelling (c := 'r') (by simp [withoutBlanks]) (by decide) near)

theorem diagnosed_misspelt (other : isBodyKeyword body = false) (head : head? body = some word)
    (misspelt : isKeyword word = false) : Diagnosed body (diagnose severity span body) := by
  rw [diagnose_misspelt other head misspelt]
  refine ⟨.inl rfl, not_lacking_iff other rfl, fun _ k same => ?_, fun s member near message => ?_⟩
  · -- the head word is no keyword, so it is not this one
    rw [head] at same
    rw [Option.some.inj same, isKeyword_iff.mpr ⟨k, rfl⟩] at misspelt
    contradiction
  · obtain ⟨candidate, found, rfl⟩ := Option.map_eq_some_iff.mp (Option.mem_toList.mp member)
    obtain rfl := respelling_injective message
    obtain ⟨k, rfl⟩ := mem_wordKeywords (Text.mem_of_closest found)
    refine ⟨word, head, fun same => ?_, ⟨k, rfl⟩, by rw [String.toList_ofList]⟩
    rw [same, String.toList_ofList, isKeyword_iff.mpr ⟨k, rfl⟩] at misspelt
    contradiction

theorem diagnosed_of_unknown (unknown : recognize body = none) :
    Diagnosed body (diagnose severity span body) := by
  cases lacking : isBodyKeyword body with
  | true => exact diagnosed_lacking lacking
  | false =>
    cases head : head? body with
    | none => exact diagnosed_headless head
    | some word =>
      cases keyword : isKeyword word with
      | false => exact diagnosed_misspelt lacking head keyword
      | true =>
        obtain ⟨k, rfl⟩ := isKeyword_iff.mp keyword
        exact diagnosed_behind_blanks (isReported_iff.mpr ⟨unknown, lacking⟩) head

end Bodies

end Unknown

section Places

variable {config : CheckConfig} {statements : List Statement} {text body : List Char}
  {s : Statement}

theorem filter_isAt_others (apart : ∀ t ∈ statements, t.span ≠ s.span) :
    (statements.filterMap (unknownFinding? config)).filter (fun d => d.isAt s.span) = [] := by
  refine List.filter_eq_nil_iff.mpr fun d member => ?_
  obtain ⟨t, read, finding⟩ := List.mem_filterMap.mp member
  have points := (unknownFinding?_points read finding).span
  simpa [Diagnostic.isAt, points] using apart t read

theorem InOrder.exists_split (order : InOrder statements) (read : s ∈ statements) :
    ∃ before after, statements = before ++ s :: after ∧
      (∀ t ∈ before, t.span ≠ s.span) ∧ ∀ t ∈ after, t.span ≠ s.span := by
  obtain ⟨before, after, rfl⟩ := List.append_of_mem read
  have spans := order.nodup_spans
  rw [List.map_append, List.map_cons, List.nodup_middle, List.nodup_cons, ← List.map_append]
    at spans
  refine ⟨before, after, rfl, fun t among same => ?_, fun t among same => ?_⟩
  all_goals
    apply spans.1
    rw [← same]
    apply List.mem_map_of_mem
    apply List.mem_append.mpr
  · exact .inl among
  · exact .inr among

theorem unknown_diagnostics (config : CheckConfig) (text : List Char) :
    (check config text).diagnostics.filter (fun d => d.code.isUnknown) =
      (parse text).filterMap (unknownFinding? config) := by
  have drops : ∀ o, (Nesting.unclosed o).code.isUnknown = false :=
    fun o => Code.not_unknown_of_unclosed (unclosed_code o)
  exact (diagnostics_filter config text (parse_inOrder text) drops).trans
    (Nesting.checkNesting_unknown config text (parse text))

theorem unknown_diagnostics_at (config : CheckConfig) (read : s ∈ parse text)
    (form : s.form = .unknown body) :
    (check config text).diagnostics.filter (fun d => d.isAt s.span && d.code.isUnknown) =
      [Unknown.diagnose config.unknown s.span body] := by
  have finding : unknownFinding? config s = some (Unknown.diagnose config.unknown s.span body) :=
    unknownFinding?_eq_some_iff.mpr ⟨body, form, rfl⟩
  have here : (Unknown.diagnose config.unknown s.span body).isAt s.span = true := by
    simp [Diagnostic.isAt, diagnose_span]
  obtain ⟨before, after, parsed, ahead, behind⟩ := (parse_inOrder text).exists_split read
  rw [← List.filter_filter, unknown_diagnostics, parsed, List.filterMap_append,
    List.filterMap_cons, finding, List.filter_append, List.filter_cons, here,
    filter_isAt_others ahead, filter_isAt_others behind]
  rfl

end Places

/-- Every unknown directive of a text has exactly one diagnostic of the two codes for them, and that
one agrees with the recognizer on the word at the head of the body. -/
theorem unknown_diagnosed_once (config : CheckConfig) {text body : List Char} {span : Span}
    (read : ⟨.unknown body, span⟩ ∈ parse text) :
    ∃ d, (check config text).diagnostics.filter (fun d => d.isAt span && d.code.isUnknown) = [d] ∧
      Unknown.Diagnosed body d := by
  have unknown := (unknown_body read rfl).1
  exact ⟨_, unknown_diagnostics_at config read rfl, Unknown.diagnosed_of_unknown unknown⟩

/-- A keyword with a letter of another alphabet behind it is one longer word, for both readers. -/
theorem longer_word_diagnosed :
    let text := (marked "ifé x").toList
    (⟨.unknown "ifé x".toList, ⟨0, 9⟩⟩ : Statement) ∈ parse text ∧
      ∃ d, (check {} text).diagnostics.filter (fun d => d.isAt ⟨0, 9⟩ && d.code.isUnknown) = [d] ∧
        Unknown.Diagnosed "ifé x".toList d ∧
        d.suggestions = [⟨Unknown.respelling "if", marked "if x"⟩] := by
  intro text
  have read : (⟨.unknown "ifé x".toList, ⟨0, 9⟩⟩ : Statement) ∈ parse text := by decide
  obtain ⟨d, once, diagnosed⟩ := unknown_diagnosed_once {} read
  refine ⟨read, d, once, diagnosed, ?_⟩
  have listed : (check {} text).diagnostics.filter (fun d => d.isAt ⟨0, 9⟩ && d.code.isUnknown) =
      [Unknown.diagnose .error ⟨0, 9⟩ "ifé x".toList] := by decide
  obtain rfl := List.singleton_injective (once.symm.trans listed)
  decide

end JqTemplate
