import JqTemplate.Proofs.Effect
import JqTemplate.Proofs.Head
import JqTemplate.Proofs.Places

/-! Branches that cannot be reached. Of the plain branches of a block, those that catch everything, the
first is reachable and each later one is reported, with the first one as the reason. The checker
finds them while the branches come in; a run keeps that what is found at the branches of a block is
what the finished row of branches asks for. -/
namespace JqTemplate

def Statement.isPlainBranch (text : List Char) (s : Statement) : Bool :=
  (Keyword.elseBranch.rest? (s.span.inner text)).any fun rest => rest.all Text.isBlank

/-- The finding is that one of the branches cannot be reached. -/
def Diagnostic.isUnreachableOf (branches : List Statement) (d : Diagnostic) : Bool :=
  d.code = .unreachableElse && branches.any fun s => d.isAt s.span

def Diagnostic.places (d : Diagnostic) : List (Span × LabelStyle) :=
  d.labels.map fun l => (l.span, l.style)

/-- Of a row of plain branches, each one behind the first, marked together with the first. -/
def placesBehindFirst : List Statement → List (List (Span × LabelStyle))
  | [] => []
  | first :: later => later.map fun s => [(s.span, .primary), (first.span, .secondary)]

namespace Nesting

/-- What the branches of one block are reported for once they are all known. -/
def overtaken (source : List Char) (branches : List Statement) : List Diagnostic :=
  match branches.filter (isPlainElse source) with
  | [] => []
  | first :: later => later.map (unreachableElse first)

theorem overtaken_snoc (source : List Char) (o : OpenBlock) (s : Statement) :
    overtaken source (o.branches ++ [s]) =
      overtaken source o.branches ++ unreachable source o s := by
  unfold overtaken unreachable
  rw [List.filter_append, ← List.head?_filter]
  cases plain : isPlainElse source s with
  | false => simp [plain]
  | true =>
    have kept : [s].filter (isPlainElse source) = [s] := by simp [plain]
    rw [kept]
    cases o.branches.filter (isPlainElse source) with
    | nil => rfl
    | cons first later => simp

theorem isUnreachableOf_eq_false {branches : List Statement} {d : Diagnostic} {s : Statement}
    (located : d.span? = some s.span) (other : ∀ b ∈ branches, b.span ≠ s.span) :
    d.isUnreachableOf branches = false := by
  have nowhere : (branches.any fun b => d.isAt b.span) = false := by
    simp only [List.any_eq_false]
    intro b member
    simpa [Diagnostic.isAt, located] using (other b member).symm
  rw [Diagnostic.isUnreachableOf, nowhere, Bool.and_false]

section Step

variable {config : CheckConfig} {source : List Char} {done : List Statement} {s : Statement}
  {n n' : Nesting}

theorem Step.branches_kept (step : Step config source s n n') :
    ∀ f ∈ n.frames, ∃ f' ∈ n'.frames, ∀ b ∈ f.branches, b ∈ f'.branches := by
  intro f member
  cases step with
  | passed mark known => exact ⟨f, member, fun _ => id⟩
  | unknown mark form => exact ⟨f, member, fun _ => id⟩
  | opened mark =>
    rw [frames_openWith]
    exact ⟨f, List.mem_append_left _ member, fun _ => id⟩
  | @closed innermost outer stack mark =>
    rw [frames_finish]
    rcases exists_of_changed stack member with rfl | other
    · exact ⟨_, List.mem_append_right _ List.mem_cons_self, fun _ => id⟩
    · exact ⟨f, other _, fun _ => id⟩
  | closeRejected mark other => exact ⟨f, member, fun _ => id⟩
  | @branched innermost outer stack conditional mark =>
    rw [frames_extend]
    rcases exists_of_changed stack member with rfl | other
    · exact ⟨_, List.mem_append_right _ List.mem_cons_self,
        fun b held => List.mem_append_left _ held⟩
    · exact ⟨f, other _, fun _ => id⟩
  | branchRejected mark other => exact ⟨f, member, fun _ => id⟩

theorem Step.unreachable_held (step : Step config source s n n') {d : Diagnostic}
    (member : d ∈ n'.found) (code : d.code = .unreachableElse) :
    d ∈ n.found ∨ ∃ f ∈ n'.frames, d.isUnreachableOf f.branches = true := by
  cases step with
  | passed mark known => exact .inl member
  | @unknown body mark form =>
    rcases List.mem_append.mp member with old | new
    · exact .inl old
    · have unknown := diagnose_code config.unknown s.span body
      rw [← List.mem_singleton.mp new, code] at unknown
      contradiction
  | opened mark => exact .inl member
  | closed stack mark => exact .inl member
  | @closeRejected kind mark other =>
    rcases List.mem_append.mp member with old | new
    · exact .inl old
    · have rejected := rejection_code kind s n.stack
      rw [← List.mem_singleton.mp new, code] at rejected
      contradiction
  | @branched innermost outer stack conditional mark =>
    rcases List.mem_append.mp member with old | new
    · exact .inl old
    · refine .inr ⟨{ innermost.frame with branches := innermost.branches ++ [s] }, ?_, ?_⟩
      · rw [frames_extend]
        exact List.mem_append_right _ List.mem_cons_self
      · simp [Diagnostic.isUnreachableOf, code, Diagnostic.isAt,
          (unreachable_of_mem s innermost new).2]
  | branchRejected mark other =>
    rcases List.mem_append.mp member with old | new
    · exact .inl old
    · rw [List.mem_singleton.mp new] at code
      contradiction

/-- At the branches of each block so far stands what they are to be reported for, and no branch is
reported so elsewhere. -/
structure Attributed (source : List Char) (n : Nesting) : Prop where
  reported : ∀ f ∈ n.frames,
    n.found.filter (fun d => d.isUnreachableOf f.branches) = overtaken source f.branches
  held : ∀ d ∈ n.found, d.code = .unreachableElse →
    ∃ f ∈ n.frames, d.isUnreachableOf f.branches = true

theorem filter_extended (order : InOrder (done ++ [s]))
    (known : ∀ d ∈ n.found, ∃ t ∈ done, d.span? = some t.span) (o : OpenBlock) :
    (n.found ++ unreachable source o s).filter (fun d => d.isUnreachableOf (o.branches ++ [s])) =
      n.found.filter (fun d => d.isUnreachableOf o.branches) ++ unreachable source o s := by
  rw [List.filter_append]
  congr 1
  · refine List.filter_congr fun d member => ?_
    obtain ⟨t, read, located⟩ := known d member
    have elsewhere : d.isAt s.span = false := by
      simpa [Diagnostic.isAt, located] using order.span_ne_last read
    simp [Diagnostic.isUnreachableOf, elsewhere]
  · refine List.filter_eq_self.mpr fun d member => ?_
    obtain ⟨code, located⟩ := unreachable_of_mem s o member
    simp [Diagnostic.isUnreachableOf, code, Diagnostic.isAt, located]

theorem Step.attributed (structural : config.structural = true) (order : InOrder (done ++ [s]))
    (composed : ∀ f ∈ n.frames, f.Composed done)
    (known : ∀ d ∈ n.found, ∃ t ∈ done, d.span? = some t.span) (h : Attributed source n)
    (step : Step config source s n n') : Attributed source n' := by
  have kept : ∀ f ∈ n.frames,
      n'.found.filter (fun d => d.isUnreachableOf f.branches) = overtaken source f.branches := by
    intro f member
    obtain ⟨new, found, added⟩ := step.adds
    have late : new.filter (fun d => d.isUnreachableOf f.branches) = [] := by
      refine List.filter_eq_nil_iff.mpr fun d among => ?_
      obtain ⟨⟨t, here, located⟩, _⟩ := added d among
      obtain rfl := List.mem_singleton.mp here
      have other := isUnreachableOf_eq_false located fun b held =>
        order.span_ne_last ((composed f member).branches b held).1
      simp [other]
    rw [found, List.filter_append, h.reported f member, late, List.append_nil]
  constructor
  · intro f member
    cases step.grown f member with
    | kept before => exact kept f before
    | opened mark =>
      refine List.filter_eq_nil_iff.mpr fun d _ => ?_
      simp [Diagnostic.isUnreachableOf]
    | @closed innermost outer stack mark =>
      exact kept innermost.frame (innermost_mem_frames stack)
    | @branched innermost outer stack conditional mark =>
      have found : n'.found = n.found ++ unreachable source innermost s := by
        rw [step.found_eq structural, news, unknownFinding?_of_mark mark]
        simp [structural, objections, mark, stack, conditional]
      have before := h.reported innermost.frame (innermost_mem_frames stack)
      rw [found, overtaken_snoc, filter_extended order known]
      exact congrArg (· ++ _) before
  · intro d member code
    rcases step.unreachable_held member code with old | new
    · obtain ⟨f, among, held⟩ := h.held d old code
      obtain ⟨f', among', more⟩ := step.branches_kept f among
      refine ⟨f', among', ?_⟩
      simp only [Diagnostic.isUnreachableOf, Bool.and_eq_true, List.any_eq_true] at held ⊢
      obtain ⟨same, b, branch, located⟩ := held
      exact ⟨same, b, more b branch, located⟩
    · exact new

end Step

theorem checkNesting_attributed {config : CheckConfig} (structural : config.structural = true)
    (source : List Char) {statements : List Statement} (order : InOrder statements) :
    Attributed source (checkNesting config source statements) := by
  induction statements using List.reverseRecOn with
  | nil =>
    constructor
    · simp [checkNesting, empty, frames, openFrames]
    · simp [checkNesting, empty]
  | append_singleton done s ih =>
    have before := ih (order.sublist (List.sublist_append_left done [s]))
    have balanced : (checkNesting config source done).Balanced done :=
      checkNesting_balanced structural source done
    rw [checkNesting_append, List.foldl_cons, List.foldl_nil]
    exact (checkStep_step structural).attributed structural order balanced.composed
      (fun d member => span_of_mem_found member) before

end Nesting

section Text

variable {config : CheckConfig} {text : List Char} {s : Statement}

theorem unclosed_isUnreachableOf (o : OpenBlock) (branches : List Statement) :
    (Nesting.unclosed o).isUnreachableOf branches = false := by
  have other : (Nesting.unclosed o).code ≠ .unreachableElse := by
    intro same
    have code := unclosed_code o
    rw [same] at code
    contradiction
  simp [Diagnostic.isUnreachableOf, other]

theorem isPlainElse_eq (directive : IsDirective text s) (mark : s.mark? = some .branches) :
    Nesting.isPlainElse text s = s.isPlainBranch text := by
  obtain ⟨k, form, branches⟩ := Statement.keyword?_of_mark mark
  obtain rfl : k = .elseBranch := by
    cases k with
    | elseBranch => rfl
    | _ => contradiction
  obtain ⟨_, _, _, _, _, read⟩ := directive
  have known : recognize (s.span.inner text) = some .elseBranch := by
    rw [form, Form.ofBody] at read
    split at read
    · rename_i k found
      rw [found, Form.directive.inj read]
    · contradiction
  have begins : Keyword.elseBranch.letters.isPrefixOf (s.span.inner text) = true :=
    List.isPrefixOf_iff_prefix.mpr ⟨_, (rest_of_recognized known).symm⟩
  simp [Statement.isPlainBranch, Keyword.rest?, begins, Nesting.isPlainElse]

theorem overtaken_places {branches : List Statement}
    (read : ∀ b ∈ branches, b ∈ parse text ∧ b.mark? = some .branches) :
    (Nesting.overtaken text branches).map Diagnostic.places =
      placesBehindFirst (branches.filter fun s => s.isPlainBranch text) := by
  have same : branches.filter (Nesting.isPlainElse text) =
      branches.filter fun s => s.isPlainBranch text := by
    refine List.filter_congr fun b member => ?_
    obtain ⟨among, mark⟩ := read b member
    obtain ⟨k, form, _⟩ := Statement.keyword?_of_mark mark
    have directive := (parse_divides text).directives b among (by simp [Statement.isContent, form])
    exact isPlainElse_eq directive mark
  rw [Nesting.overtaken, same]
  cases branches.filter fun s => s.isPlainBranch text with
  | nil => rfl
  | cons first later => exact List.map_map

end Text

/-- For each block every plain branch behind its first plain one is reported, in their order and each
together with that first one, and no other branch is reported as unreachable. -/
theorem unreachable_behind_first (config : CheckConfig) (structural : config.structural = true)
    (text : List Char) :
    let result := check config text
    (∀ b ∈ Block.forestPreorder result.blocks,
      let plain := b.branches.filter fun s => s.isPlainBranch text
      let reported := result.diagnostics.filter fun d => d.isUnreachableOf b.branches
      reported.length = plain.length - 1 ∧ reported.map Diagnostic.places = placesBehindFirst plain) ∧
    ∀ d ∈ result.diagnostics, d.code = .unreachableElse →
      ∃ b ∈ Block.forestPreorder result.blocks, b.kind = .conditional ∧
        d.isUnreachableOf b.branches = true := by
  intro result
  have order := parse_inOrder text
  have attributed : (checkNesting config text (parse text)).Attributed text :=
    Nesting.checkNesting_attributed structural text order
  have balanced : (checkNesting config text (parse text)).Balanced (parse text) :=
    checkNesting_balanced structural text (parse text)
  have frames : (Block.forestPreorder result.blocks).map Block.frame =
      (checkNesting config text (parse text)).frames := Nesting.frames_forest _
  constructor
  · intro b member plain reported
    have among : b.frame ∈ (checkNesting config text (parse text)).frames :=
      frames ▸ List.mem_map_of_mem member
    have composed := (balanced.composed b.frame among).branches
    have found : reported = Nesting.overtaken text b.branches :=
      (diagnostics_filter config text order fun o => unclosed_isUnreachableOf o b.branches).trans
        (attributed.reported b.frame among)
    have places : reported.map Diagnostic.places = placesBehindFirst plain := by
      rw [found]
      exact overtaken_places fun s held => ⟨(composed s held).1, (composed s held).2.1⟩
    refine ⟨?_, places⟩
    rw [← List.length_map (f := Diagnostic.places), places]
    cases plain <;> simp [placesBehindFirst]
  · intro d member code
    have found := mem_found_of_diagnostic member (by simp [code, Code.isUnclosed])
    obtain ⟨f, among, held⟩ := attributed.held d found code
    obtain ⟨b, member', rfl⟩ := List.mem_map.mp (frames ▸ among)
    have branched := held
    simp only [Diagnostic.isUnreachableOf, Bool.and_eq_true, List.any_eq_true] at branched
    obtain ⟨_, s, branch, _⟩ := branched
    exact ⟨b, member', ((balanced.composed b.frame among).branches s branch).2.2, held⟩

theorem second_plain_branch_unreachable :
    let text := (marked "if a" ++ marked "else" ++ marked "else b" ++ marked "/each" ++
      marked "if c" ++ marked "else" ++ marked "/if" ++ marked "else " ++ marked "/if").toList
    let result := check {} text
    ({} : CheckConfig).structural = true ∧
      result.blocks.map (fun b =>
          (result.diagnostics.filter fun d => d.isUnreachableOf b.branches).map Diagnostic.places) =
        [[[(⟨58, 67⟩, .primary), (⟨8, 16⟩, .secondary)]]] := by
  intro text result
  have each : ∀ b ∈ result.blocks,
      (result.diagnostics.filter fun d => d.isUnreachableOf b.branches).map Diagnostic.places =
        placesBehindFirst (b.branches.filter fun s => s.isPlainBranch text) :=
    fun b root =>
      ((unreachable_behind_first {} rfl text).1 b (mem_forestPreorder_of_mem root)).2
  exact ⟨rfl, (List.map_congr_left each).trans (by decide)⟩

end JqTemplate
