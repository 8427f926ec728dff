import JqTemplate.Proofs.Enclosed
import JqTemplate.Proofs.Mending
import JqTemplate.Proofs.Recognition

namespace JqTemplate

/-- The text with the part at a place exchanged. -/
def Span.replaceIn (span : Span) (text replacement : List Char) : List Char :=
  text.take span.start.toNat ++ (replacement ++ text.drop span.stop.toNat)

theorem Span.replaceIn_append (pre old post replacement : List Char) :
    (⟨pre.length, pre.length + old.length⟩ : Span).replaceIn (pre ++ (old ++ post)) replacement =
      pre ++ (replacement ++ post) := by
  have stop : ((pre.length : Int) + old.length).toNat = pre.length + old.length := by omega
  simp only [replaceIn, stop, Int.toNat_natCast, List.take_left, ← List.drop_drop, List.drop_left]

def CheckResult.reports (r : CheckResult) (code : Code) (span : Span) : Prop :=
  ∃ d ∈ r.diagnostics, d.code = code ∧ d.span? = some span

/-- The directive at `span` is exchanged for `repaired`, which the text `replacement` reads as.
The statements before it stay, those behind it move. -/
structure Repair (text : List Char) (span : Span) (replacement : List Char)
    (repaired : Statement) : Prop where
  around : ∃ before s after, parse text = before ++ s :: after ∧ s.span = span ∧
    parse (span.replaceIn text replacement) =
      before ++ repaired :: after.map (fun u => u.shift (replacement.length - span.size))
  directive : repaired.isContent = false
  place : repaired.span = ⟨span.start, span.start + replacement.length⟩

theorem Repair.read {text replacement : List Char} {span : Span} {repaired : Statement}
    (h : Repair text span replacement repaired) :
    repaired ∈ parse (span.replaceIn text replacement) := by
  obtain ⟨_, _, _, _, _, parsed⟩ := h.around
  simp [parsed]

theorem repair_of_isBody {text body : List Char} {s : Statement} (read : s ∈ parse text)
    (directive : s.isContent = false) (is : IsBody body) :
    Repair text s.span (enclosed body)
      ⟨Form.ofBody body, ⟨s.span.start, s.span.start + (enclosed body).length⟩⟩ := by
  have divides := parse_divides text
  obtain ⟨pre, old, post, rfl, _, rfl⟩ := (divides.directives s read directive).split
  obtain ⟨before, after, parsed⟩ := List.append_of_mem read
  rw [parsed] at divides
  have exchanged := Divides.exchange divides directive rfl is.isDirective rfl
  have size : (⟨pre.length, pre.length + (enclosed old).length⟩ : Span).size =
      (enclosed old).length := by
    simp only [Span.size]
    omega
  have moved : (⟨Form.ofBody body, ⟨0, (enclosed body).length⟩⟩ : Statement).shift pre.length =
      ⟨Form.ofBody body, ⟨pre.length, pre.length + (enclosed body).length⟩⟩ := by
    simp [Statement.shift, Span.shift, Int.add_comm]
  refine ⟨⟨before, _, after, parsed, rfl, ?_⟩, ?_, rfl⟩
  · rw [Span.replaceIn_append, size, ← eq_parse_of_divides exchanged, moved]
  · simp [Statement.isContent, Form.ofBody_ne_content]

namespace Unknown

theorem Mends.isBody {body mended : List Char} (h : Mends body mended) (is : IsBody body) :
    IsBody mended := by
  have plain {blanks : List Char} (blank : ∀ c ∈ blanks, Text.isBlank c = true) : '}' ∉ blanks := by
    intro member
    exact absurd (blank _ member) (by decide)
  cases h with
  | trimmed nonempty blank ends => exact is.suffix
  | @respelt k word blanks rest blank named other stop =>
    exact (is.suffix.suffix.prepend k.letters_plain.2).prepend (plain blank)

end Unknown

theorem reports_unknown_iff {config : CheckConfig} {text body : List Char} {s : Statement}
    (read : s ∈ parse text) (form : s.form = Form.ofBody body) :
    (check config text).reports .unknownDirective s.span ↔ Unknown.isReported body = true := by
  have finding {t : Statement} (d : Diagnostic) (found : unknownFinding? config t = some d) :
      d.span? = some t.span := by
    obtain ⟨_, _, rfl⟩ := unknownFinding?_eq_some_iff.mp found
    exact diagnose_span _ _ _
  constructor
  · rintro ⟨d, member, code, span⟩
    obtain ⟨t, taken, found⟩ := mem_diagnostics_unknown_iff.mp ⟨member, by rw [code]; rfl⟩
    have same : t.span = s.span := Option.some.inj ((finding d found).symm.trans span)
    obtain rfl := (parse_inOrder text).eq_of_span taken read same
    obtain ⟨body', unknown, rfl⟩ := unknownFinding?_eq_some_iff.mp found
    obtain ⟨absent, rfl⟩ := Form.ofBody_eq_unknown_iff.mp (form.symm.trans unknown)
    exact Unknown.isReported_iff.mpr ⟨absent, Unknown.diagnose_code_iff.mp code⟩
  · intro reported
    obtain ⟨absent, other⟩ := Unknown.isReported_iff.mp reported
    have unknown : s.form = .unknown body :=
      form.trans (Form.ofBody_eq_unknown_iff.mpr ⟨absent, rfl⟩)
    have found : unknownFinding? config s = some _ :=
      unknownFinding?_eq_some_iff.mpr ⟨body, unknown, rfl⟩
    exact ⟨_, (mem_diagnostics_unknown_iff.mpr ⟨s, read, found⟩).1,
      Unknown.diagnose_code_iff.mpr other, diagnose_span _ _ _⟩

/-- Following a suggestion for an unknown directive exchanges that directive and leaves all other
statements as they were. The new directive is reported as unknown again when the suggestion was for
a misspelt word behind blanks, and only then. -/
theorem unknown_repaired_iff (config : CheckConfig) (text : List Char) {d : Diagnostic}
    {suggestion : Suggestion} (reported : d ∈ (check config text).diagnostics)
    (code : d.code = .unknownDirective) (suggested : suggestion ∈ d.suggestions) :
    ∃ span body repaired, d.span? = some span ∧ ⟨.unknown body, span⟩ ∈ parse text ∧
      Repair text span suggestion.replacement.toList repaired ∧
      ((check config (span.replaceIn text suggestion.replacement.toList)).reports .unknownDirective
        repaired.span ↔ Unknown.misspeltBehindBlanks body = true) := by
  obtain ⟨s, read, found⟩ := mem_diagnostics_unknown_iff.mp ⟨reported, by rw [code]; rfl⟩
  obtain ⟨body, form, rfl⟩ := unknownFinding?_eq_some_iff.mp found
  have directive : s.isContent = false := by simp [Statement.isContent, form]
  obtain ⟨unknown, is⟩ : recognize body = none ∧ IsBody body := by
    obtain ⟨_, own, _, _, is, whole⟩ := ((parse_divides text).directives s read directive).split
    rw [whole] at form
    obtain ⟨unknown, rfl⟩ := Form.ofBody_eq_unknown_iff.mp form
    exact ⟨unknown, is⟩
  have fault := Unknown.isReported_iff.mpr ⟨unknown, Unknown.diagnose_code_iff.mp code⟩
  obtain ⟨mended, replacement, mends⟩ := Unknown.mends_of_suggestion fault suggested
  have repair := repair_of_isBody read directive (mends.isBody is)
  have again : (check config (s.span.replaceIn text (enclosed mended))).reports .unknownDirective
      ⟨s.span.start, s.span.start + (enclosed mended).length⟩ ↔
        Unknown.isReported mended = true := reports_unknown_iff repair.read rfl
  rw [mends.isReported_eq] at again
  rw [replacement, marked_toList]
  exact ⟨s.span, body, _, diagnose_span _ _ _, form ▸ read, repair, again⟩

theorem misspelling_repaired :
    Unknown.diagnose .error ⟨0, 9⟩ "iff x".toList ∈
        (check {} (marked "iff x").toList).diagnostics ∧
    ∃ repaired, Repair (marked "iff x").toList ⟨0, 9⟩ (marked "if x").toList repaired ∧
      ¬ (check {} (Span.replaceIn ⟨0, 9⟩ (marked "iff x").toList (marked "if x").toList)).reports
        .unknownDirective repaired.span := by
  have reported : Unknown.diagnose .error ⟨0, 9⟩ "iff x".toList ∈
      (check {} (marked "iff x").toList).diagnostics := by decide
  have suggested : ⟨"did you mean 'if'?", marked "if x"⟩ ∈
      (Unknown.diagnose .error ⟨0, 9⟩ "iff x".toList).suggestions := by decide
  obtain ⟨span, body, repaired, place, read, repair, again⟩ :=
    unknown_repaired_iff {} (marked "iff x").toList reported (by decide) suggested
  obtain rfl : ⟨0, 9⟩ = span := by simpa [diagnose_span] using place
  have unblanked : Unknown.misspeltBehindBlanks body = false := by
    have only : parse (marked "iff x").toList = [⟨.unknown "iff x".toList, ⟨0, 9⟩⟩] := by decide
    rw [only, List.mem_singleton] at read
    obtain rfl : body = "iff x".toList := by simpa using read
    decide
  exact ⟨reported, repaired, repair, fun reports => by simp [again.mp reports] at unblanked⟩

theorem misspelling_behind_blank_stays_unknown :
    ¬ ∀ (config : CheckConfig) (text : List Char), ∀ d ∈ (check config text).diagnostics,
      d.code = .unknownDirective → ∀ suggestion ∈ d.suggestions,
        ∃ span repaired, d.span? = some span ∧
          Repair text span suggestion.replacement.toList repaired ∧
          ¬ (check config (span.replaceIn text suggestion.replacement.toList)).reports
            .unknownDirective repaired.span := by
  intro mends
  have reported : Unknown.diagnose .error ⟨0, 10⟩ " iff x".toList ∈
      (check {} (marked " iff x").toList).diagnostics := by decide
  have suggested : ⟨"did you mean 'if'?", marked " if x"⟩ ∈
      (Unknown.diagnose .error ⟨0, 10⟩ " iff x".toList).suggestions := by decide
  obtain ⟨span, repaired, place, repair, silent⟩ :=
    mends {} _ _ reported (by decide) _ suggested
  obtain rfl : ⟨0, 10⟩ = span := by simpa [diagnose_span] using place
  refine silent ⟨Unknown.diagnose .error ⟨0, 9⟩ " if x".toList, by decide, by decide, ?_⟩
  rw [diagnose_span, repair.place]
  decide

end JqTemplate
