import JqTemplate.Proofs.Effect
import JqTemplate.Proofs.Places

namespace JqTemplate

/-- The finding as it is with another severity for unknown directives. -/
def Diagnostic.regraded (severity : Severity) (d : Diagnostic) : Diagnostic :=
  if d.code.isUnknown then { d with severity := severity } else d

def CheckResult.regraded (severity : Severity) (r : CheckResult) : CheckResult :=
  { r with diagnostics := r.diagnostics.map (Diagnostic.regraded severity) }

namespace Diagnostic

variable {severity : Severity} {d : Diagnostic}

theorem regraded_of_unknown (unknown : d.code.isUnknown = true) :
    d.regraded severity = { d with severity := severity } := by
  simp [regraded, unknown]

theorem regraded_of_other (other : d.code.isUnknown = false) : d.regraded severity = d := by
  simp [regraded, other]

theorem sortKey_regraded (severity : Severity) (d : Diagnostic) :
    (d.regraded severity).sortKey = d.sortKey := by
  cases unknown : d.code.isUnknown with
  | true =>
    rw [regraded_of_unknown unknown]
    rfl
  | false => rw [regraded_of_other unknown]

theorem lengthFault?_regraded (severity : Severity) (d : Diagnostic) :
    (d.regraded severity).lengthFault? = d.lengthFault? := by
  cases unknown : d.code.isUnknown with
  | true =>
    rw [regraded_of_unknown unknown]
    rfl
  | false => rw [regraded_of_other unknown]

end Diagnostic

theorem map_regraded_of_other {severity : Severity} {ds : List Diagnostic}
    (other : ∀ d ∈ ds, d.code.isUnknown = false) : ds.map (Diagnostic.regraded severity) = ds :=
  (List.map_congr_left fun d member => Diagnostic.regraded_of_other (other d member)).trans
    (List.map_id ds)

theorem diagnose_regraded (severity severity' : Severity) (span : Span) (body : List Char) :
    Unknown.diagnose severity' span body =
      (Unknown.diagnose severity span body).regraded severity' := by
  rw [Diagnostic.regraded_of_unknown (diagnose_code severity span body)]
  unfold Unknown.diagnose
  cases Unknown.head? body with
  | none => rfl
  | some word =>
    dsimp only
    split
    · rfl
    · split
      · rfl
      · cases Text.closest word Unknown.wordKeywords <;> rfl

namespace Nesting

section Step

variable {config : CheckConfig} {source : List Char} {stack : List OpenBlock} {s : Statement}

theorem objections_not_unknown {d : Diagnostic} (member : d ∈ objections source stack s) :
    d.code.isUnknown = false := by
  unfold objections at member
  split at member
  · split at member
    · contradiction
    · rw [List.mem_singleton.mp member]
      exact Code.not_unknown_of_rejected (rejection_code _ _ _)
  · cases stack with
    | nil =>
      rw [List.mem_singleton.mp member]
      rfl
    | cons innermost outer =>
      simp only at member
      split at member
      · rw [(unreachable_of_mem s innermost member).1]
        rfl
      · rw [List.mem_singleton.mp member]
        rfl
  · contradiction

theorem unknownFinding?_regraded (config : CheckConfig) (severity : Severity) (s : Statement) :
    unknownFinding? { config with unknown := severity } s =
      (unknownFinding? config s).map (Diagnostic.regraded severity) := by
  unfold unknownFinding?
  cases s.form with
  | content => rfl
  | directive k => rfl
  | unknown body => exact congrArg some (diagnose_regraded _ _ _ _)

theorem news_regraded (severity : Severity) :
    news { config with unknown := severity } source stack s =
      (news config source stack s).map (Diagnostic.regraded severity) := by
  have objected : (objections source stack s).map (Diagnostic.regraded severity) =
      objections source stack s := map_regraded_of_other fun _ => objections_not_unknown
  unfold news
  rw [unknownFinding?_regraded, List.map_append]
  cases config.structural <;> cases unknownFinding? config s <;> simp [objected]

end Step

theorem run_regraded (config : CheckConfig) (source : List Char) (severity : Severity)
    (statements : List Statement) {n n' : Nesting} (same : SameBlocks n n')
    (found : n'.found = n.found.map (Diagnostic.regraded severity)) :
    (statements.foldl (checkStep { config with unknown := severity } source) n').found =
      (statements.foldl (checkStep config source) n).found.map (Diagnostic.regraded severity) := by
  induction statements generalizing n n' with
  | nil => exact found
  | cons s rest ih =>
    apply ih (same.checkStep _ _ source source s)
    rw [checkStep_found, checkStep_found, found, ← same.1, news_regraded, List.map_append]

end Nesting

section Settings

variable {source : List Char} {statements : List Statement}

theorem checkStatements_blocks_eq (config config' : CheckConfig) (source : List Char)
    (statements : List Statement) :
    (checkStatements config source statements).blocks =
      (checkStatements config' source statements).blocks :=
  (Nesting.checkNesting_sameBlocks config config' source source statements).forest_eq

theorem findings_regraded (config : CheckConfig) (source : List Char)
    (statements : List Statement) (severity : Severity) :
    findings { config with unknown := severity } source statements =
      (findings config source statements).map (Diagnostic.regraded severity) := by
  have found : (checkNesting { config with unknown := severity } source statements).found =
      (checkNesting config source statements).found.map (Diagnostic.regraded severity) :=
    Nesting.run_regraded config source severity statements ⟨rfl, rfl⟩ rfl
  have same := Nesting.checkNesting_sameBlocks config { config with unknown := severity } source
    source statements
  have unclosed : ∀ stack : List OpenBlock,
      (stack.map Nesting.unclosed).map (Diagnostic.regraded severity) =
        stack.map Nesting.unclosed := by
    intro stack
    apply map_regraded_of_other
    intro d member
    obtain ⟨o, _, rfl⟩ := List.mem_map.mp member
    exact Code.not_unknown_of_unclosed (unclosed_code o)
  obtain ⟨structural, unknown⟩ := config
  cases structural with
  | false => exact found
  | true =>
    simp only [findings, if_true, Nesting.findings, List.map_append, unclosed, same.1]
    rw [found]

theorem checkStatements_regraded (config : CheckConfig) (source : List Char)
    (statements : List Statement) (severity : Severity) :
    checkStatements { config with unknown := severity } source statements =
      (checkStatements config source statements).regraded severity := by
  have blocks := checkStatements_blocks_eq { config with unknown := severity } config source
    statements
  have diagnostics : (checkStatements { config with unknown := severity } source
      statements).diagnostics = ((checkStatements config source statements).regraded
        severity).diagnostics := by
    simp only [checkStatements, CheckResult.regraded, findings_regraded, sortByKey, stableSort_map,
      Diagnostic.sortKey_regraded]
  cases here : checkStatements { config with unknown := severity } source statements
  cases there : checkStatements config source statements
  simp_all [CheckResult.regraded]

theorem checkStatements?_regraded (config : CheckConfig) (source : List Char)
    (statements : List Statement) (severity : Severity) :
    checkStatements? { config with unknown := severity } source statements =
      (checkStatements? config source statements).map (CheckResult.regraded severity) := by
  have faults : (findings { config with unknown := severity } source statements).findSome?
      Diagnostic.lengthFault? =
        (findings config source statements).findSome? Diagnostic.lengthFault? := by
    rw [findings_regraded, List.findSome?_map]
    congr 1
    funext d
    exact Diagnostic.lengthFault?_regraded severity d
  unfold checkStatements?
  rw [faults, checkStatements_regraded]
  cases (findings config source statements).findSome? Diagnostic.lengthFault? <;> rfl

theorem findings_of_settings (severity : Severity) (source : List Char)
    (statements : List Statement) :
    findings ⟨false, severity⟩ source statements =
      (findings ⟨true, severity⟩ source statements).filter fun d => d.code.isUnknown := by
  rw [findings_unknown, findings_of_unstructural rfl]
  rfl

theorem checkStatements?_unstructural {severity : Severity} {r : CheckResult}
    (ok : checkStatements? ⟨true, severity⟩ source statements = .ok r) :
    checkStatements? ⟨false, severity⟩ source statements =
      .ok ⟨r.diagnostics.filter fun d => d.code.isUnknown, r.blocks⟩ := by
  obtain ⟨lengths, rfl⟩ := checkStatements?_eq_ok_iff.mp ok
  apply checkStatements?_eq_ok_iff.mpr
  constructor
  · intro d member
    rw [findings_of_settings] at member
    exact lengths d (List.mem_of_mem_filter member)
  · have blocks := checkStatements_blocks_eq ⟨false, severity⟩ ⟨true, severity⟩ source statements
    have diagnostics : (checkStatements ⟨false, severity⟩ source statements).diagnostics =
        (checkStatements ⟨true, severity⟩ source statements).diagnostics.filter
          fun d => d.code.isUnknown := by
      simp only [checkStatements, sortByKey, findings_of_settings,
        (Ranks.of_key Diagnostic.sortKey).filter_stableSort]
    rw [← blocks, ← diagnostics]

end Settings

section Errors

variable {severity : Severity} {r : CheckResult}

theorem hasErrors_regraded (changed : (r.regraded severity).hasErrors ≠ r.hasErrors) :
    (∃ d ∈ r.diagnostics, d.code.isUnknown = true) ∧
      ∀ d ∈ r.diagnostics, d.severity = .error → d.code.isUnknown = true := by
  constructor
  · by_contra noneUnknown
    have other : ∀ d ∈ r.diagnostics, d.code.isUnknown = false := by simpa using noneUnknown
    apply changed
    simp only [CheckResult.regraded, map_regraded_of_other other]
  · intro d member grave
    by_contra other
    have same : d.regraded severity = d := Diagnostic.regraded_of_other (by simpa using other)
    have before : r.hasErrors = true := List.any_eq_true.mpr ⟨d, member, by simp [grave]⟩
    have behind : (r.regraded severity).hasErrors = true := by
      refine List.any_eq_true.mpr ⟨d, ?_, by simp [grave]⟩
      exact List.mem_map.mpr ⟨d, member, same⟩
    exact changed (behind.trans before.symm)

end Errors

/-- What the settings decide on, for all statement lists without reversed spans. If all spans have a
length, there is a result; only lists with a longer span can be refused. The blocks are the same under all settings;
without structure the findings at unknown directives are left, in their order; and the severity of
unknown directives changes only the severity of those findings. -/
theorem check_under_settings (source : List Char) (statements : List Statement)
    (nonneg : ∀ s ∈ statements, 0 ≤ s.span.size) :
    ((∀ s ∈ statements, ∃ n, s.span.length? = .ok n) →
      ∀ config, ∃ r, checkStatements? config source statements = .ok r) ∧
    (∀ config fault, checkStatements? config source statements = .error fault →
      fault = .tooLarge ∧ ∃ s ∈ statements, Span.lengthLimit < s.span.size) ∧
    (∀ config config' r r', checkStatements? config source statements = .ok r →
      checkStatements? config' source statements = .ok r' → r'.blocks = r.blocks) ∧
    (∀ severity r, checkStatements? ⟨true, severity⟩ source statements = .ok r →
      checkStatements? ⟨false, severity⟩ source statements =
        .ok ⟨r.diagnostics.filter fun d => d.code.isUnknown, r.blocks⟩) ∧
    ∀ config severity,
      checkStatements? { config with unknown := severity } source statements =
          (checkStatements? config source statements).map (CheckResult.regraded severity) ∧
        ∀ r, checkStatements? config source statements = .ok r →
          (r.regraded severity).hasErrors ≠ r.hasErrors →
            (∃ d ∈ r.diagnostics, d.code.isUnknown = true) ∧
              ∀ d ∈ r.diagnostics, d.severity = .error → d.code.isUnknown = true := by
  refine ⟨fun lengths config => ⟨_, checkStatements?_of_lengths config source lengths⟩,
    fun config fault => tooLarge_of_refused nonneg, ?_,
    fun severity r => checkStatements?_unstructural, ?_⟩
  · intro config config' r r' ok ok'
    obtain ⟨_, rfl⟩ := checkStatements?_eq_ok_iff.mp ok
    obtain ⟨_, rfl⟩ := checkStatements?_eq_ok_iff.mp ok'
    exact checkStatements_blocks_eq config' config source statements
  · intro config severity
    exact ⟨checkStatements?_regraded config source statements severity,
      fun r _ => hasErrors_regraded⟩

def looseStatements : List Statement :=
  [⟨.directive .openEach, ⟨1, 4⟩⟩, ⟨.unknown ['#'], ⟨9, 12⟩⟩, ⟨.directive .closeIf, ⟨7, 7⟩⟩,
    ⟨.unknown [], ⟨2, 6⟩⟩]

theorem loose_statements_under_settings :
    (∀ s ∈ looseStatements, 0 ≤ s.span.size) ∧
    ∃ r, checkStatements? {} [] looseStatements = .ok r ∧
      r.diagnostics.map (fun d => d.code) =
        [.mismatchedClose, .unclosedEach, .unknownDirective, .unknownDirective] ∧
      checkStatements? ⟨false, .error⟩ [] looseStatements =
        .ok ⟨r.diagnostics.filter fun d => d.code.isUnknown, r.blocks⟩ ∧
      checkStatements? ⟨true, .note⟩ [] looseStatements = .ok (r.regraded .note) := by
  have nonneg : ∀ s ∈ looseStatements, 0 ≤ s.span.size := by decide
  have short : ∀ s ∈ looseStatements, s.span.size ≤ Span.lengthLimit := by decide
  have lengths : ∀ s ∈ looseStatements, ∃ n, s.span.length? = .ok n := fun s member =>
    exists_length (nonneg s member) (short s member)
  obtain ⟨returns, _, _, unstructural, severities⟩ :=
    check_under_settings [] looseStatements nonneg
  obtain ⟨r, ok⟩ := returns lengths {}
  have codes : r.diagnostics.map (fun d => d.code) =
      [.mismatchedClose, .unclosedEach, .unknownDirective, .unknownDirective] := by
    obtain ⟨_, rfl⟩ := checkStatements?_eq_ok_iff.mp ok
    decide
  have noted := (severities {} .note).1
  rw [ok] at noted
  exact ⟨nonneg, r, ok, codes, unstructural .error r ok, noted⟩

end JqTemplate
