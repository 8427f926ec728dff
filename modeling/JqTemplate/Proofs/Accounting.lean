import JqTemplate.Proofs.Balance

/-! Every structural statement of a text is accounted for exactly once: in its block or in its
finding. The balances of a run hold for all statement lists; that no place is used twice makes
each of them a balance of one. -/
namespace JqTemplate

/-- What the result owes to the statements that open, close and branch. -/
structure Accounted (statements : List Statement) (r : CheckResult) : Prop where
  openers : (forestFrames r.blocks).map Frame.opener = statements.filter Statement.isOpener
  composed : ∀ f ∈ forestFrames r.blocks, f.Composed statements
  closers : ∀ s ∈ statements, s.isCloser = true →
    (forestFrames r.blocks).countP (fun f => f.closer = some s) +
      r.diagnostics.countP (fun d => d.code.isRejectedCloser && d.isAt s.span) = 1
  branches : ∀ s ∈ statements, s.isBranch = true →
    ((forestFrames r.blocks).flatMap Frame.branches).count s +
      r.diagnostics.countP (fun d => d.code = .strayElse && d.isAt s.span) = 1
  innermost : ∀ f ∈ forestFrames r.blocks, ∀ b ∈ f.branches,
    f.InnermostAt (forestFrames r.blocks) b
  unclosed : ∀ f ∈ forestFrames r.blocks,
    r.diagnostics.countP (fun d => d.code.isUnclosed && d.isAt f.opener.span) =
      if f.closer = none then 1 else 0
  founded : ∀ d ∈ r.diagnostics, d.Founded statements (forestFrames r.blocks)

/-- Where keys are not repeated, an element is the only one with its key. -/
theorem countP_of_nodup_key {α β : Type} [DecidableEq β] {key : α → β} (p : α → Bool)
    {xs : List α} (nodup : (xs.map key).Nodup) {x : α} (member : x ∈ xs) :
    xs.countP (fun y => p y && key y = key x) = if p x then 1 else 0 := by
  induction xs with
  | nil => contradiction
  | cons y rest ih =>
    obtain ⟨fresh, nodup⟩ := List.nodup_cons.mp nodup
    rw [List.countP_cons]
    rcases List.mem_cons.mp member with rfl | behind
    · have nothing : rest.countP (fun y => p y && key y = key x) = 0 := by
        refine List.countP_eq_zero.mpr fun y later both => ?_
        have same : key y = key x := by simpa using (Bool.and_eq_true_iff.mp both).2
        exact fresh (same ▸ List.mem_map_of_mem later)
      simp [nothing]
    · have other : key y ≠ key x := fun same => fresh (same ▸ List.mem_map_of_mem behind)
      simp [ih nodup behind, other]

section Ends

variable {statements : List Statement} {n : Nesting}

theorem unclosed_count (p : Span) (settled : n.Settled) :
    (n.stack.reverse.map Nesting.unclosed).countP (fun d => d.code.isUnclosed && d.isAt p) =
      n.frames.countP (fun f => f.closer = none && f.opener.span = p) := by
  have isOpen : n.frames.countP (fun f => f.closer = none && f.opener.span = p) =
      (n.frames.filter (fun f => f.closer = none)).countP (fun f => f.opener.span = p) := by
    rw [List.countP_filter]
    exact List.countP_congr fun f _ => by simp [and_comm]
  rw [isOpen, settled.open_frames, List.countP_map, List.countP_map]
  refine List.countP_congr fun o _ => ?_
  have span : (Nesting.unclosed o).span? = some o.opener.span := rfl
  simp only [Function.comp_apply, unclosed_code, Diagnostic.isAt, span, OpenBlock.frame,
    Option.some.injEq, Bool.true_and]
  exact decide_eq_true_iff.trans decide_eq_true_iff.symm

theorem findings_countP (p : Code → Bool) (q : Diagnostic → Bool)
    (other : ∀ c, c.isUnclosed = true → p c = false) :
    n.findings.countP (fun d => p d.code && q d) =
      n.found.countP (fun d => p d.code && q d) := by
  have nothing : (n.stack.reverse.map Nesting.unclosed).countP (fun d => p d.code && q d) = 0 := by
    refine List.countP_eq_zero.mpr fun d member => ?_
    obtain ⟨o, _, rfl⟩ := List.mem_map.mp member
    simp [other _ (unclosed_code o)]
  rw [Nesting.findings, List.countP_append, nothing, Nat.add_zero]

theorem found_not_unclosed (h : n.Balanced statements) (p : Span) :
    n.found.countP (fun d => d.code.isUnclosed && d.isAt p) = 0 := by
  refine List.countP_eq_zero.mpr fun d member both => ?_
  have founded := h.founded d member
  have code := (Bool.and_eq_true_iff.mp both).1
  unfold Diagnostic.Founded at founded
  cases kind : d.code <;> simp_all [Code.isUnclosed]

theorem unclosed_founded (h : n.Balanced statements) {o : OpenBlock} (isOpen : o ∈ n.stack) :
    (Nesting.unclosed o).Founded statements n.frames := by
  have among : o.frame ∈ n.frames.filter (fun f => f.closer = none) := by
    rw [h.settled.open_frames]
    exact List.mem_map_of_mem (List.mem_reverse.mpr isOpen)
  have member := List.mem_of_mem_filter among
  cases kind : o.kind with
  | conditional =>
    simp only [Diagnostic.Founded, Nesting.unclosed, kind]
    exact ⟨o.frame, member, rfl, kind, rfl⟩
  | loop =>
    simp only [Diagnostic.Founded, Nesting.unclosed, kind]
    exact ⟨o.frame, member, rfl, kind, rfl⟩

theorem findings_founded (h : n.Balanced statements) :
    ∀ d ∈ n.findings, d.Founded statements n.frames := by
  intro d member
  rcases List.mem_append.mp member with found | left
  · exact (h.founded d found).mono (fun _ => id) (by simp)
  · obtain ⟨o, isOpen, rfl⟩ := List.mem_map.mp left
    exact unclosed_founded h (List.mem_reverse.mp isOpen)

theorem closers_once (h : n.Balanced statements) (order : InOrder statements) {s : Statement}
    (member : s ∈ statements) (closes : s.isCloser = true) :
    n.frames.countP (fun f => f.closer = some s) +
      n.findings.countP (fun d => d.code.isRejectedCloser && d.isAt s.span) = 1 := by
  have once : n.closersAt s.span = 1 := by
    rw [h.closers, countP_of_nodup_key Statement.isCloser order.nodup_spans member, if_pos closes]
  have closed : n.frames.countP (fun f => f.closer = some s) =
      n.frames.countP (fun f => f.closer.any (fun c => c.span = s.span)) := by
    refine List.countP_congr fun f inside => ?_
    cases closer : f.closer with
    | none => simp
    | some c =>
      have read := ((h.composed f inside).closer c closer).1
      have same : c = s ↔ c.span = s.span := ⟨congrArg _, order.eq_of_span read member⟩
      simp [same]
  have found := findings_countP (n := n) Code.isRejectedCloser (fun d => d.isAt s.span)
    fun c left => by cases c <;> first | rfl | contradiction
  rw [closed, found]
  exact once

theorem branches_once (h : n.Balanced statements) (order : InOrder statements) {s : Statement}
    (member : s ∈ statements) (branches : s.isBranch = true) :
    (n.frames.flatMap Frame.branches).count s +
      n.findings.countP (fun d => d.code = .strayElse && d.isAt s.span) = 1 := by
  have once : n.branchesAt s.span = 1 := by
    rw [h.branches, countP_of_nodup_key Statement.isBranch order.nodup_spans member,
      if_pos branches]
  have held : (n.frames.flatMap Frame.branches).count s =
      (n.frames.flatMap Frame.branches).countP (fun b => b.span = s.span) := by
    refine List.countP_congr fun b inside => ?_
    obtain ⟨f, among, holds⟩ := List.mem_flatMap.mp inside
    have read := ((h.composed f among).branches b holds).1
    have same : b = s ↔ b.span = s.span := ⟨congrArg _, order.eq_of_span read member⟩
    simp [same]
  have found := findings_countP (n := n) (fun c => c = .strayElse) (fun d => d.isAt s.span)
    fun c left => by cases c <;> first | rfl | contradiction
  rw [held, found]
  exact once

theorem unclosed_once (h : n.Balanced statements) (order : InOrder statements) {f : Frame}
    (member : f ∈ n.frames) :
    n.findings.countP (fun d => d.code.isUnclosed && d.isAt f.opener.span) =
      if f.closer = none then 1 else 0 := by
  have openers : InOrder (n.frames.map Frame.opener) :=
    order.sublist (h.openers ▸ List.filter_sublist)
  have nodup : (n.frames.map (fun g => g.opener.span)).Nodup := by
    have spans := openers.nodup_spans
    rwa [List.map_map] at spans
  have once := countP_of_nodup_key (fun g : Frame => decide (g.closer = none)) nodup member
  rw [Nesting.findings, List.countP_append, found_not_unclosed h, unclosed_count _ h.settled,
    Nat.zero_add, once]
  simp

end Ends

/-- With structure checks on, each opener is in the forest in its place, each closer and each
branch is in one block or in one finding, and each block is closed or in one finding. -/
theorem check_accounted (config : CheckConfig) (structural : config.structural = true)
    (text : List Char) : Accounted (parse text) (check config text) := by
  have order := (parse_divides text).tiles.inOrder
  have h := checkNesting_balanced structural text (parse text)
  have blocks : forestFrames (check config text).blocks =
      (checkNesting config text (parse text)).frames := Nesting.frames_forest _
  have ends : (check config text).diagnostics.Perm
      (checkNesting config text (parse text)).findings := by
    have perm := diagnostics_perm config text (parse text)
    rwa [findings, structural, if_pos rfl] at perm
  refine ⟨?_, ?_, ?_, ?_, ?_, ?_, ?_⟩ <;> rw [blocks]
  · exact h.openers
  · exact h.composed
  · intro s member closes
    rw [ends.countP_eq]
    exact closers_once h order member closes
  · intro s member branches
    rw [ends.countP_eq]
    exact branches_once h order member branches
  · exact h.innermost order
  · intro f member
    rw [ends.countP_eq]
    exact unclosed_once h order member
  · exact fun d member => findings_founded h d (ends.mem_iff.mp member)

theorem crossing_blocks_accounted :
    ({} : CheckConfig).structural = true ∧
      Accounted
        (parse (marked "if a" ++ marked "/each" ++ marked "else" ++ marked "/if" ++
          marked "each b").toList)
        (check {} (marked "if a" ++ marked "/each" ++ marked "else" ++ marked "/if" ++
          marked "each b").toList) :=
  ⟨rfl, check_accounted {} rfl _⟩

end JqTemplate
