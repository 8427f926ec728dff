import JqTemplate.Proofs.Layout

namespace JqTemplate

/-- The innermost block around a place: every block that holds the place holds it. -/
structure InnermostAround (forest : List Block) (place : Span) (b : Block) : Prop where
  among : b ∈ Block.forestPreorder forest
  holds : b.span.contains place = true
  least : ∀ c ∈ Block.forestPreorder forest, c.span.contains place = true →
    c.span.contains b.span = true

theorem contains_iff {outer inside : Span} :
    outer.contains inside = true ↔ outer.start ≤ inside.start ∧ inside.stop ≤ outer.stop := by
  simp [Span.contains]

section Rows

variable {row rest : List Block} {root b c : Block} {place : Span}

theorem Block.Placed.start_le (h : root.Placed) (member : c ∈ root.preorder) :
    root.span.start ≤ c.span.start := by
  rw [preorder_eq] at member
  rcases List.mem_cons.mp member with rfl | below
  · exact Int.le_refl _
  · exact Int.le_trans (Int.le_of_lt h.opens) (h.inside c below)

theorem Block.Placed.stop_le (h : root.Placed) (closed : root.isClosed = true)
    (member : c ∈ root.preorder) : c.span.stop ≤ root.span.stop := by
  rw [preorder_eq] at member
  rcases List.mem_cons.mp member with rfl | below
  · exact Int.le_refl _
  · exact (h.closed closed c below).2

theorem Placed.before_behind (h : Placed (root :: rest))
    (member : c ∈ Block.forestPreorder rest) :
    root.isClosed = true ∧ root.span.stop ≤ c.span.start := by
  obtain ⟨next, among, inside⟩ := exists_root_of_mem_forestPreorder member
  obtain ⟨closed, order⟩ := (List.pairwise_cons.mp h.row).1 next among
  have start := (h.behind.blocks next (mem_forestPreorder_of_mem among)).start_le inside
  exact ⟨closed, Int.le_trans order start⟩

theorem Placed.holds_of_inside (h : Placed row) (among : root ∈ row) (closed : root.isClosed = true)
    (member : b ∈ root.preorder) (holds : b.span.contains place = true) :
    root.span.contains place = true := by
  have placed := h.blocks root (mem_forestPreorder_of_mem among)
  have first := placed.start_le member
  have last := placed.stop_le closed member
  rw [contains_iff] at holds ⊢
  omega

theorem Placed.mem_preorder_of_contains (h : Placed row) (among : root ∈ row)
    (member : b ∈ Block.forestPreorder row) (around : root.span.contains b.span = true) :
    b ∈ root.preorder := by
  have long := (h.blocks b member).long
  rw [contains_iff] at around
  induction row with
  | nil => contradiction
  | cons first rest ih =>
    rw [Block.forestPreorder] at member
    rcases List.mem_cons.mp among with rfl | later
    · rcases List.mem_append.mp member with here | behind
      · exact here
      · have order := (h.before_behind behind).2
        omega
    · rcases List.mem_append.mp member with here | behind
      · obtain ⟨closed, order⟩ := (List.pairwise_cons.mp h.row).1 root later
        have last := (h.blocks first (mem_forestPreorder_cons.mpr (.inl rfl))).stop_le closed here
        omega
      · exact ih h.behind later behind

theorem Placed.not_behind (h : Placed (root :: rest)) (long : place.start < place.stop)
    (enclosed : b.span.stop ≤ root.span.stop) (holds : b.span.contains place = true)
    (behind : c ∈ Block.forestPreorder rest) : c.span.contains place ≠ true := by
  intro there
  have order := (h.before_behind behind).2
  rw [contains_iff] at holds there
  omega

namespace InnermostAround

theorem cons_inside (h : Placed (root :: rest)) (long : place.start < place.stop)
    (inner : InnermostAround root.children place b) : InnermostAround (root :: rest) place b := by
  obtain ⟨among, holds, least⟩ := inner
  have placed := h.blocks root (mem_forestPreorder_cons.mpr (.inl rfl))
  have start := placed.inside b among
  have opens := placed.opens
  refine ⟨mem_forestPreorder_cons.mpr (.inr (.inl among)), holds, fun c member there => ?_⟩
  rcases mem_forestPreorder_cons.mp member with rfl | inside | behind
  · cases closer : c.closer with
    | none =>
      have ends : c.span.stop = c.opener.span.stop := by simp [Block.span, closer]
      rw [contains_iff] at there holds
      omega
    | some s =>
      have closed : c.isClosed = true := by simp [Block.isClosed, closer]
      rw [contains_iff]
      exact ⟨Int.le_trans (Int.le_of_lt opens) start, (placed.closed closed b among).2⟩
  · exact least c inside there
  · have closed := (h.before_behind behind).1
    exact absurd there (h.not_behind long (placed.closed closed b among).2 holds behind)

theorem cons_root (h : Placed (root :: rest)) (long : place.start < place.stop)
    (here : root.span.contains place = true)
    (below : ∀ c ∈ Block.forestPreorder root.children, c.span.contains place ≠ true) :
    InnermostAround (root :: rest) place root := by
  refine ⟨mem_forestPreorder_cons.mpr (.inl rfl), here, fun c member there => ?_⟩
  rcases mem_forestPreorder_cons.mp member with rfl | inside | behind
  · exact contains_iff.mpr ⟨Int.le_refl _, Int.le_refl _⟩
  · exact absurd there (below c inside)
  · exact absurd there (h.not_behind long (Int.le_refl _) here behind)

theorem cons_behind (inner : InnermostAround rest place b)
    (here : root.span.contains place ≠ true)
    (below : ∀ c ∈ Block.forestPreorder root.children, c.span.contains place ≠ true) :
    InnermostAround (root :: rest) place b := by
  obtain ⟨among, holds, least⟩ := inner
  refine ⟨mem_forestPreorder_cons.mpr (.inr (.inr among)), holds, fun c member there => ?_⟩
  rcases mem_forestPreorder_cons.mp member with rfl | inside | behind
  · exact absurd there here
  · exact absurd there (below c inside)
  · exact least c behind there

theorem none_inside (h : InnermostAround row place b) (placed : Placed row)
    (inside : c ∈ Block.forestPreorder b.children) : c.span.contains place ≠ true := by
  intro there
  have own := placed.blocks b h.among
  have start := own.inside c inside
  have opens := own.opens
  have begins : b.span.start = b.opener.span.start := rfl
  have around := h.least c (mem_forestPreorder_of_inside h.among inside) there
  rw [contains_iff] at around
  omega

end InnermostAround

/-- Blocks that hold one place are nested, so that one of them is innermost. -/
theorem Placed.exists_innermost (h : Placed row) (long : place.start < place.stop)
    (held : ∃ c ∈ Block.forestPreorder row, c.span.contains place = true) :
    ∃ b, InnermostAround row place b := by
  induction row using forest_induction with
  | nil => simp [Block.forestPreorder] at held
  | cons root rest ihInside ihBehind =>
    by_cases below : ∃ c ∈ Block.forestPreorder root.children, c.span.contains place = true
    · obtain ⟨b, inner⟩ := ihInside h.inside below
      exact ⟨b, inner.cons_inside h long⟩
    · have nothing : ∀ c ∈ Block.forestPreorder root.children, c.span.contains place ≠ true :=
        fun c inside there => below ⟨c, inside, there⟩
      by_cases here : root.span.contains place = true
      · exact ⟨root, .cons_root h long here nothing⟩
      · have later : ∃ c ∈ Block.forestPreorder rest, c.span.contains place = true := by
          obtain ⟨c, member, there⟩ := held
          rcases mem_forestPreorder_cons.mp member with rfl | inside | behind
          · exact absurd there here
          · exact absurd there (nothing c inside)
          · exact ⟨c, behind, there⟩
        obtain ⟨b, inner⟩ := ihBehind h.behind later
        exact ⟨b, inner.cons_behind here nothing⟩

end Rows

end JqTemplate
