import JqTemplate.Proofs.Balance

/-! Where the diagnostics of a text stand. A finding marks one statement first, and with it at most
earlier ones. While statements are read, each gives at most one finding, and openers give none; what
is left open at the end is reported at openers alone. So no two findings have one place, and sorting
them by place puts them in strict order. -/
namespace JqTemplate

/-- The first label is on the statement, and each of the others on an earlier one. -/
structure Diagnostic.Points (statements : List Statement) (s : Statement) (d : Diagnostic) :
    Prop where
  read : s ∈ statements
  labels : ∃ message others, d.labels = ⟨s.span, message, .primary⟩ :: others ∧
    ∀ l ∈ others, l.style = .secondary ∧
      ∃ t ∈ statements, l.span = t.span ∧ t.span.start < s.span.start

/-- The first label of one starts before that of the other. -/
def Diagnostic.Before (d e : Diagnostic) : Prop :=
  ∃ p q, d.span? = some p ∧ e.span? = some q ∧ p.start < q.start

namespace Diagnostic

variable {statements done : List Statement} {s t : Statement} {d : Diagnostic}

theorem Points.span (h : d.Points statements s) : d.span? = some s.span := by
  obtain ⟨message, others, labels, _⟩ := h.labels
  simp [span?, labels]

theorem sortKey_of_span (spot : d.span? = some s.span) (long : s.span.start < s.span.stop) :
    d.sortKey = s.span.start := by
  have filled : s.span.size ≠ 0 := by
    simp only [Span.size]
    omega
  simp [sortKey, spot, filled]

theorem Points.sortKey_eq (h : d.Points statements s) (order : InOrder statements) :
    d.sortKey = s.span.start :=
  sortKey_of_span h.span (order.1 s h.read)

theorem Points.mono {more : List Statement} (h : d.Points statements s)
    (within : ∀ t ∈ statements, t ∈ more) : d.Points more s := by
  obtain ⟨message, others, labels, secondary⟩ := h.labels
  refine ⟨within s h.read, message, others, labels, fun l member => ?_⟩
  obtain ⟨style, t, read, span, earlier⟩ := secondary l member
  exact ⟨style, t, within t read, span, earlier⟩

theorem points_alone {message : String} (read : s ∈ statements)
    (labels : d.labels = [⟨s.span, message, .primary⟩]) : d.Points statements s :=
  ⟨read, message, [], labels, by simp⟩

theorem points_back {message reference : String} (order : InOrder (done ++ [s])) (read : t ∈ done)
    (labels : d.labels = [⟨s.span, message, .primary⟩, ⟨t.span, reference, .secondary⟩]) :
    d.Points (done ++ [s]) s := by
  have behind := order.before_last read
  have long := order.1 t (List.mem_append_left _ read)
  refine ⟨by simp, message, _, labels, fun l member => ?_⟩
  obtain rfl := List.mem_singleton.mp member
  exact ⟨rfl, t, List.mem_append_left _ read, rfl, by omega⟩

end Diagnostic

section Unknown

variable {config : CheckConfig} {s : Statement} {d : Diagnostic}

theorem unknownFinding?_points {statements : List Statement} (read : s ∈ statements)
    (finding : unknownFinding? config s = some d) : d.Points statements s := by
  obtain ⟨body, _, rfl⟩ := unknownFinding?_eq_some_iff.mp finding
  obtain ⟨_, _, label, _, _, said⟩ := diagnose_anywhere config.unknown body
  rw [said]
  exact Diagnostic.points_alone read rfl

end Unknown

namespace Nesting

variable {config : CheckConfig} {source : List Char} {done : List Statement} {s : Statement}
  {n n' : Nesting}

theorem rejection_points {kind : BlockKind} (order : InOrder (done ++ [s]))
    (composed : ∀ f ∈ n.frames, f.Composed done) :
    (rejection kind n.stack s).Points (done ++ [s]) s := by
  cases stack : n.stack with
  | nil => exact Diagnostic.points_alone (by simp) rfl
  | cons innermost outer =>
    have opener := (composed _ (innermost_mem_frames stack)).opener.1
    exact Diagnostic.points_back order opener rfl

theorem unreachable_eq_toList (source : List Char) (o : OpenBlock) (s : Statement) :
    ∃ new : Option Diagnostic, unreachable source o s = new.toList ∧
      ∀ d ∈ new, ∃ first ∈ o.branches, d = unreachableElse first s := by
  unfold unreachable
  split
  · cases found : o.branches.find? (isPlainElse source) with
    | none => exact ⟨none, rfl, by simp⟩
    | some first =>
      refine ⟨some (unreachableElse first s), rfl, fun d same => ?_⟩
      exact ⟨first, List.mem_of_find?_eq_some found, (Option.some.inj same).symm⟩
  · exact ⟨none, rfl, by simp⟩

/-- What a step finds is at the statement that it reads, and no opener. -/
def AddsOne (done : List Statement) (s : Statement) (n n' : Nesting) : Prop :=
  ∃ new : Option Diagnostic, n'.found = n.found ++ new.toList ∧
    ∀ d ∈ new, d.Points (done ++ [s]) s ∧ s.isOpener = false

theorem AddsOne.nothing (same : n'.found = n.found) : AddsOne done s n n' :=
  ⟨none, by simp [same], by simp⟩

theorem AddsOne.report {d : Diagnostic} (points : d.Points (done ++ [s]) s)
    (plain : s.isOpener = false) : AddsOne done s n (n.report d) :=
  ⟨some d, rfl, by simp [points, plain]⟩

theorem Step.adds_one (order : InOrder (done ++ [s])) (composed : ∀ f ∈ n.frames, f.Composed done)
    (step : Step config source s n n') : AddsOne done s n n' := by
  have here : s ∈ done ++ [s] := by simp
  cases step with
  | passed mark known => exact .nothing rfl
  | unknown mark form =>
    have finding : unknownFinding? config s = some _ :=
      unknownFinding?_eq_some_iff.mpr ⟨_, form, rfl⟩
    exact .report (unknownFinding?_points here finding) (by simp [Statement.isOpener, mark])
  | opened mark => exact .nothing rfl
  | closed stack mark => exact .nothing rfl
  | closeRejected mark other =>
    exact .report (rejection_points order composed) (Statement.isOpener_of_mark mark)
  | @branched innermost outer stack conditional mark =>
    obtain ⟨new, late, firsts⟩ := unreachable_eq_toList source innermost s
    refine ⟨new, by rw [← late]; rfl, fun d member => ?_⟩
    obtain ⟨first, among, rfl⟩ := firsts d member
    have read := ((composed _ (innermost_mem_frames stack)).branches first among).1
    exact ⟨Diagnostic.points_back order read rfl, Statement.isOpener_of_mark mark⟩
  | branchRejected mark other =>
    exact .report (Diagnostic.points_alone here rfl) (Statement.isOpener_of_mark mark)

/-- What a run has found so far: each finding at a statement of its own that is no opener. -/
structure Located (done : List Statement) (n : Nesting) : Prop where
  distinct : (n.found.map Diagnostic.sortKey).Nodup
  points : ∀ d ∈ n.found, ∃ s, d.Points done s ∧ s.isOpener = false

theorem AddsOne.located (order : InOrder (done ++ [s])) (h : Located done n)
    (adds : AddsOne done s n n') : Located (done ++ [s]) n' := by
  obtain ⟨new, found, here⟩ := adds
  have before : InOrder done := order.sublist (List.sublist_append_left done [s])
  constructor
  · rw [found, List.map_append, List.nodup_append]
    refine ⟨h.distinct, by cases new <;> simp, fun key old key' late same => ?_⟩
    obtain ⟨d, member, rfl⟩ := List.mem_map.mp old
    obtain ⟨e, member', rfl⟩ := List.mem_map.mp late
    obtain ⟨t, points, _⟩ := h.points d member
    obtain ⟨points', _⟩ := here e (Option.mem_toList.mp member')
    have behind := order.before_last points.read
    have long := before.1 t points.read
    rw [points.sortKey_eq before, points'.sortKey_eq order] at same
    omega
  · intro d member
    rw [found] at member
    rcases List.mem_append.mp member with old | late
    · obtain ⟨t, points, plain⟩ := h.points d old
      exact ⟨t, points.mono fun u read => List.mem_append_left _ read, plain⟩
    · exact ⟨s, here d (Option.mem_toList.mp late)⟩

theorem run_located (structural : config.structural = true) (source : List Char)
    {statements : List Statement} (order : InOrder statements) :
    Located statements (checkNesting config source statements) := by
  have kept := @run_induction config source
    (fun done n => Balanced done n ∧ (InOrder done → Located done n)) structural
    ⟨empty_balanced, fun _ => ⟨.nil, by simp [empty]⟩⟩ ?_ statements
  · exact kept.2 order
  · rintro done s n n' ⟨balanced, located⟩ step
    refine ⟨step.balanced balanced, fun order => ?_⟩
    have before : InOrder done := order.sublist (List.sublist_append_left done [s])
    exact (step.adds_one order balanced.composed).located order (located before)

theorem found_ranked (config : CheckConfig) (source : List Char) {statements : List Statement}
    (order : InOrder statements) :
    Ranked (fun e d => decide (e.sortKey < d.sortKey))
      (checkNesting config source statements).found := by
  induction statements using List.reverseRecOn with
  | nil => exact .nil
  | append_singleton done s ih =>
    have before : InOrder done := order.sublist (List.sublist_append_left done [s])
    have long := order.1 s (by simp)
    obtain ⟨new, found, added⟩ := checkStep_adds config source s (checkNesting config source done)
    have here : ∀ d ∈ new, d.sortKey = s.span.start := by
      intro d member
      obtain ⟨⟨t, only, spot⟩, _⟩ := added d member
      obtain rfl := List.mem_singleton.mp only
      exact Diagnostic.sortKey_of_span spot long
    rw [checkNesting_append, List.foldl_cons, List.foldl_nil, found]
    refine List.pairwise_append.mpr ⟨ih before, ?_, fun d old e late => ?_⟩
    · apply List.pairwise_of_forall_mem_list
      intro d member e member'
      simp [here d member, here e member']
    · obtain ⟨t, read, spot⟩ := span_of_mem_found old
      have long' := before.1 t read
      have behind := order.before_last read
      simp only [here e late, Diagnostic.sortKey_of_span spot long', decide_eq_false_iff_not]
      omega

theorem Balanced.open_openers (h : Balanced done n) :
    (n.stack.reverse.map OpenBlock.opener).Sublist (done.filter Statement.isOpener) :=
  h.openers ▸ h.settled.open_openers

theorem unclosed_points {o : OpenBlock} (h : Balanced done n) (isOpen : o ∈ n.stack.reverse) :
    (unclosed o).Points done o.opener ∧ o.opener.isOpener = true := by
  obtain ⟨read, opens⟩ := List.mem_filter.mp (h.open_openers.subset (List.mem_map_of_mem isOpen))
  exact ⟨Diagnostic.points_alone read rfl, opens⟩

theorem Balanced.unclosed_ranked (h : Balanced done n) (order : InOrder done) :
    Ranked (fun e d => decide (e.sortKey < d.sortKey)) (n.stack.reverse.map unclosed) := by
  have openers := order.sublist (h.open_openers.trans List.filter_sublist)
  apply List.pairwise_map.mpr
  refine (List.pairwise_map.mp openers.2).imp_of_mem fun {o p} isOpen isOpen' behind => ?_
  have points := (unclosed_points h isOpen).1
  have points' := (unclosed_points h isOpen').1
  have long := order.1 _ points.read
  simp only [points.sortKey_eq order, points'.sortKey_eq order, decide_eq_false_iff_not]
  omega

end Nesting

section Findings

variable {config : CheckConfig} {source : List Char} {statements : List Statement}

theorem structural_findings_located (structural : config.structural = true) (source : List Char)
    (order : InOrder statements) :
    ((findings config source statements).map Diagnostic.sortKey).Nodup ∧
      ∀ d ∈ findings config source statements, ∃ s, d.Points statements s := by
  have balanced : (checkNesting config source statements).Balanced statements :=
    checkNesting_balanced structural source statements
  have located : (checkNesting config source statements).Located statements :=
    Nesting.run_located structural source order
  simp only [findings, structural, if_true, Nesting.findings]
  constructor
  · have openers := (order.sublist (balanced.open_openers.trans List.filter_sublist)).nodup_starts
    have keys : ((checkNesting config source statements).stack.reverse.map Nesting.unclosed).map
        Diagnostic.sortKey = ((checkNesting config source statements).stack.reverse.map
          OpenBlock.opener).map fun s => s.span.start := by
      rw [List.map_map, List.map_map]
      refine List.map_congr_left fun o isOpen => ?_
      exact (Nesting.unclosed_points balanced isOpen).1.sortKey_eq order
    rw [List.map_append, List.nodup_append, keys]
    refine ⟨located.distinct, openers, fun key early key' late same => ?_⟩
    rw [List.map_map] at late
    obtain ⟨d, found, rfl⟩ := List.mem_map.mp early
    obtain ⟨o, isOpen, rfl⟩ := List.mem_map.mp late
    -- a finding of the run is at no opener, and two statements never start at one place
    obtain ⟨s, points, plain⟩ := located.points d found
    obtain ⟨points', opens⟩ := Nesting.unclosed_points balanced isOpen
    rw [points.sortKey_eq order] at same
    obtain rfl := order.eq_of_start points.read points'.read same
    simp [plain] at opens
  · intro d member
    rcases List.mem_append.mp member with found | left
    · obtain ⟨s, points, _⟩ := located.points d found
      exact ⟨s, points⟩
    · obtain ⟨o, isOpen, rfl⟩ := List.mem_map.mp left
      exact ⟨o.opener, (Nesting.unclosed_points balanced isOpen).1⟩

theorem findings_of_unstructural (structural : config.structural = false) :
    findings config source statements = statements.filterMap (unknownFinding? config) := by
  have run (n : Nesting) : (statements.foldl (checkStep config source) n).found =
      n.found ++ statements.filterMap (unknownFinding? config) := by
    induction statements generalizing n with
    | nil => simp
    | cons s rest ih =>
      rw [List.foldl_cons, ih, checkStep]
      cases finding : unknownFinding? config s with
      | none => simp [structural, finding]
      | some d => simp [Nesting.report, finding]
  simpa [findings, structural, checkNesting, Nesting.empty] using run Nesting.empty

theorem findings_sublist (config : CheckConfig) (source : List Char)
    (statements : List Statement) :
    (findings config source statements).Sublist
      (findings { config with structural := true } source statements) := by
  cases structural : config.structural with
  | true =>
    have same : { config with structural := true } = config := by rw [← structural]
    rw [same]
  | false =>
    have unknown := findings_unknown { config with structural := true } source statements
    rw [findings_of_unstructural structural]
    exact unknown ▸ List.filter_sublist

theorem findings_located (config : CheckConfig) (source : List Char) (order : InOrder statements) :
    ((findings config source statements).map Diagnostic.sortKey).Nodup ∧
      ∀ d ∈ findings config source statements, ∃ s, d.Points statements s := by
  have within := findings_sublist config source statements
  have structural : ({ config with structural := true } : CheckConfig).structural = true := rfl
  obtain ⟨distinct, points⟩ := structural_findings_located structural source order
  exact ⟨distinct.sublist (within.map _), fun d member => points d (within.subset member)⟩

/-- Findings of the run itself need no sorting. -/
theorem diagnostics_filter (config : CheckConfig) (source : List Char)
    (order : InOrder statements) {p : Diagnostic → Bool}
    (closed : ∀ o, p (Nesting.unclosed o) = false) :
    (checkStatements config source statements).diagnostics.filter p =
      (checkNesting config source statements).found.filter p := by
  have ranked := (Nesting.found_ranked config source order).sublist
    (List.filter_sublist (p := p))
  rw [checkStatements, sortByKey, (Ranks.of_key Diagnostic.sortKey).filter_stableSort,
    findings_filter config source statements closed]
  exact stableSort_eq_self ranked

end Findings

theorem countP_le_one {α : Type} {p : α → Bool} {xs : List α}
    (once : xs.Pairwise fun a b => p a = true → p b = false) : xs.countP p ≤ 1 := by
  induction xs with
  | nil => simp
  | cons x rest ih =>
    obtain ⟨front, tail⟩ := List.pairwise_cons.mp once
    cases here : p x with
    | false => simpa [List.countP_cons, here] using ih tail
    | true =>
      have absent : rest.countP p = 0 :=
        List.countP_eq_zero.mpr fun y member => by simp [front y member here]
      simp [here, absent]

section Text

variable {config : CheckConfig} {text : List Char} {d e : Diagnostic}

theorem diagnostics_points (member : d ∈ (check config text).diagnostics) :
    ∃ s, d.Points (parse text) s := by
  have order := parse_inOrder text
  have found := (diagnostics_perm config text (parse text)).mem_iff.mp member
  exact (findings_located config text order).2 d found

theorem diagnostics_before (config : CheckConfig) (text : List Char) :
    (check config text).diagnostics.Pairwise Diagnostic.Before := by
  have order := parse_inOrder text
  have sorted := (diagnostics_perm config text (parse text)).map Diagnostic.sortKey
  have distinct := sorted.nodup_iff.mpr (findings_located config text order).1
  have ranked := (Ranks.of_key Diagnostic.sortKey).stableSort_ranked
    (findings config text (parse text))
  refine (ranked.and (List.pairwise_map.mp distinct)).imp_of_mem fun {d e} hd he keys => ?_
  obtain ⟨s, points⟩ := diagnostics_points hd
  obtain ⟨t, points'⟩ := diagnostics_points he
  have upTo : ¬ e.sortKey < d.sortKey := of_decide_eq_false keys.1
  have other : d.sortKey ≠ e.sortKey := keys.2
  rw [points.sortKey_eq order, points'.sortKey_eq order] at upTo other
  exact ⟨s.span, t.span, points.span, points'.span, by omega⟩

/-- No two diagnostics of a text have one place. Each is at a statement, and what else it marks are
earlier statements; and they stand in the order of the statements they are at. -/
theorem diagnostics_ascend (config : CheckConfig) (text : List Char) :
    (∀ place, ((check config text).diagnostics.countP fun d => d.isAt place) ≤ 1) ∧
      (∀ d ∈ (check config text).diagnostics, ∃ s, d.Points (parse text) s) ∧
      (check config text).diagnostics.Pairwise Diagnostic.Before := by
  have before := diagnostics_before config text
  refine ⟨fun place => countP_le_one (before.imp fun {d e} order => ?_),
    fun d => diagnostics_points, before⟩
  obtain ⟨p, q, first, second, less⟩ := order
  simp only [Diagnostic.isAt, first, second, decide_eq_true_eq, decide_eq_false_iff_not,
    Option.some.injEq]
  rintro rfl rfl
  omega

def conditionalLeftOpen : OpenBlock := ⟨.conditional, ⟨.directive .openIf, ⟨0, 8⟩⟩, [], []⟩

def loopCloser : Statement := ⟨.directive .closeEach, ⟨8, 17⟩⟩

theorem mismatch_behind_unclosed :
    let text := (marked "if a" ++ marked "/each").toList
    let unclosed := Nesting.unclosed conditionalLeftOpen
    let mismatched := Nesting.mismatchedClose .loop conditionalLeftOpen loopCloser
    (check {} text).diagnostics = [unclosed, mismatched] ∧
      ((check {} text).diagnostics.countP fun d => d.isAt ⟨0, 8⟩) ≤ 1 ∧
      (∃ s, mismatched.Points (parse text) s) ∧ unclosed.Before mismatched := by
  intro text unclosed mismatched
  have listed : (check {} text).diagnostics = [unclosed, mismatched] := by decide
  obtain ⟨once, points, before⟩ := diagnostics_ascend {} text
  rw [listed] at points before
  have order : unclosed.Before mismatched := (List.pairwise_cons.mp before).1 _ (by simp)
  exact ⟨listed, once ⟨0, 8⟩, points mismatched (by simp), order⟩

end Text

end JqTemplate
