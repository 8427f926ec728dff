import JqTemplate.Highlight.Template
import JqTemplate.Proofs.Enclosed
import JqTemplate.Proofs.Head

namespace JqTemplate

namespace Highlight

def Token.span (t : Token) : Span := ⟨t.offset, t.offset + t.value.length⟩

section Tilings

variable {offset : Nat} {text a b : List Char} {tokens xs ys : List Token}

theorem Tiles.append (hx : Tiles offset a xs) (hy : Tiles (offset + a.length) b ys) :
    Tiles offset (a ++ b) (xs ++ ys) := by
  induction xs generalizing offset a with
  | nil =>
    obtain rfl : a = [] := hx
    simpa using hy
  | cons t rest ih =>
    obtain ⟨nonempty, begins, remaining, rfl, tail⟩ := hx
    rw [List.length_append, ← Nat.add_assoc] at hy
    exact ⟨nonempty, begins, remaining ++ b, List.append_assoc _ _ _, ih tail hy⟩

theorem Tiles.single {kind : TokenKind} (nonempty : text ≠ []) :
    Tiles offset text [⟨offset, kind, text⟩] :=
  ⟨nonempty, rfl, [], (List.append_nil text).symm, rfl⟩

theorem Tiles.bounds (h : Tiles offset text tokens) :
    ∀ t ∈ tokens, t.value ≠ [] ∧ offset ≤ t.offset ∧
      t.offset + t.value.length ≤ offset + text.length := by
  induction tokens generalizing offset text with
  | nil => simp
  | cons first rest ih =>
    obtain ⟨nonempty, begins, remaining, rfl, tail⟩ := h
    intro t member
    rw [List.length_append]
    rcases List.mem_cons.mp member with rfl | behind
    · exact ⟨nonempty, by omega, by omega⟩
    · obtain ⟨filled, after, before⟩ := ih tail t behind
      exact ⟨filled, by omega, by omega⟩

theorem layOut_tiles (offset : Nat) (pieces : List Piece) :
    Tiles offset (pieces.flatMap Piece.value) (layOut offset pieces) := by
  induction pieces generalizing offset with
  | nil => rfl
  | cons p rest ih =>
    unfold layOut
    split
    · rename_i empty
      rw [List.flatMap_cons, List.isEmpty_iff.mp empty]
      exact ih offset
    · rename_i filled
      exact ⟨by simpa using filled, rfl, _, List.flatMap_cons, ih _⟩

theorem kind_of_mem_layOut {pieces : List Piece} {t : Token} (member : t ∈ layOut offset pieces) :
    ∃ p ∈ pieces, p.kind = t.kind := by
  induction pieces generalizing offset with
  | nil => simp [layOut] at member
  | cons p rest ih =>
    unfold layOut at member
    split at member
    · obtain ⟨q, among, same⟩ := ih member
      exact ⟨q, List.mem_cons_of_mem p among, same⟩
    · rcases List.mem_cons.mp member with rfl | behind
      · exact ⟨p, List.mem_cons_self, rfl⟩
      · obtain ⟨q, among, same⟩ := ih behind
        exact ⟨q, List.mem_cons_of_mem p among, same⟩

end Tilings

section Statements

variable {text body : List Char} {s : Statement}

/-- The pieces of a body make up the body, because a recognized one begins with its keyword. -/
theorem bodyPieces_values (body : List Char) :
    (bodyPieces (Form.ofBody body) body).flatMap Piece.value = body := by
  unfold Form.ofBody
  cases known : recognize body with
  | none => simp [bodyPieces]
  | some k =>
    conv_rhs => rw [rest_of_recognized known]
    simp [bodyPieces, Text.leadingBlanks_append_trimStart]

theorem keywordKind_ne_other (k : Keyword) : keywordKind k ≠ .other := by
  cases k <;> decide

theorem bodyPieces_own {form : Form} : ∀ p ∈ bodyPieces form body, p.kind ≠ .other := by
  intro p member
  cases form with
  | directive k =>
    simp only [bodyPieces, List.mem_cons, List.not_mem_nil, or_false] at member
    rcases member with rfl | rfl | rfl
    · exact keywordKind_ne_other k
    · simp
    · simp
  | _ =>
    obtain rfl := List.mem_singleton.mp member
    simp

theorem layOut_bodyPieces_own {form : Form} {offset : Nat} {t : Token}
    (member : t ∈ layOut offset (bodyPieces form body)) : t.kind ≠ .other := by
  obtain ⟨p, among, same⟩ := kind_of_mem_layOut member
  exact same ▸ bodyPieces_own p among

theorem enclosed_tiles (start : Nat) (body : List Char) :
    Tiles start (enclosed body)
      (⟨start, .preprocessor, ['{', '{']⟩ ::
        layOut (start + 2) (bodyPieces (Form.ofBody body) body) ++
        [⟨start + 2 + body.length, .preprocessor, ['}', '}']⟩]) := by
  have opening : Tiles start ['{', '{'] [⟨start, .preprocessor, ['{', '{']⟩] := .single (by simp)
  have inner := layOut_tiles (start + 2) (bodyPieces (Form.ofBody body) body)
  rw [bodyPieces_values] at inner
  have closing : Tiles (start + 2 + body.length) ['}', '}']
      [⟨start + 2 + body.length, .preprocessor, ['}', '}']⟩] := .single (by simp)
  exact opening.append (inner.append closing)

theorem statementTokens_tiles (read : s ∈ parse text) :
    Tiles s.span.start.toNat (s.span.text text) (statementTokens text s) := by
  have divides := parse_divides text
  cases content : s.isContent with
  | true =>
    have front := divides.tiles.start_le_of_mem read
    have long := divides.tiles.inOrder.1 s read
    have inside := divides.tiles.stop_le_of_mem read
    have nonempty : s.span.text text ≠ [] := by
      apply List.ne_nil_of_length_pos
      rw [Span.text_length front (Int.le_of_lt long) inside]
      omega
    rw [statementTokens, isContent_iff.mp content]
    exact Tiles.single nonempty
  | false =>
    obtain ⟨pre, body, post, rfl, _, rfl⟩ := (divides.directives s read content).split
    have close : ((pre.length : Int) + (enclosed body).length - 2).toNat =
        pre.length + 2 + body.length := by
      rw [enclosed_length]
      omega
    simp only [statementTokens, Span.text_between, Span.inner_enclosed, close, Int.toNat_natCast]
    split
    · rename_i literal
      exact absurd literal (Form.ofBody_ne_content body)
    · exact Tiles.single (by simp [enclosed])
    · exact enclosed_tiles pre.length body

theorem statements_tile {start stop : Int} {statements : List Statement}
    (tiles : JqTemplate.Tiles start stop statements) (front : 0 ≤ start)
    (inside : stop ≤ text.length)
    (each : ∀ s ∈ statements,
      Tiles s.span.start.toNat (s.span.text text) (statementTokens text s)) :
    Tiles start.toNat ((⟨start, stop⟩ : Span).text text)
      (statements.flatMap (statementTokens text)) := by
  induction statements generalizing start with
  | nil =>
    obtain rfl : start = stop := tiles
    apply List.eq_nil_of_length_eq_zero
    rw [Span.text_length front (Int.le_refl _) inside, Int.sub_self]
    rfl
  | cons s rest ih =>
    obtain ⟨rfl, long, tail⟩ := tiles
    have order := tail.start_le
    have short := Span.text_length front (Int.le_of_lt long) (Int.le_trans order inside)
    have meets : s.span.start.toNat + (s.span.text text).length = s.span.stop.toNat := by
      rw [short]
      omega
    rw [List.flatMap_cons, ← Span.text_append front (Int.le_of_lt long) order]
    apply (each s List.mem_cons_self).append
    rw [meets]
    exact ih tail (by omega) fun t member => each t (List.mem_cons_of_mem s member)

theorem templateTokens_tiles (text : List Char) : Tiles 0 text (templateTokens text) := by
  have tiles := statements_tile (parse_divides text).tiles (Int.le_refl 0) (Int.le_refl _)
    fun s read => statementTokens_tiles read
  rwa [Span.text_whole] at tiles

theorem statementTokens_inside (read : s ∈ parse text) {t : Token}
    (member : t ∈ statementTokens text s) :
    t.value ≠ [] ∧ s.span.start ≤ t.span.start ∧ t.span.stop ≤ s.span.stop := by
  have tiles := (parse_divides text).tiles
  have front := tiles.start_le_of_mem read
  have order := tiles.inOrder.1 s read
  have long := Span.text_length front (Int.le_of_lt order) (tiles.stop_le_of_mem read)
  obtain ⟨nonempty, after, before⟩ := (statementTokens_tiles read).bounds t member
  rw [long] at before
  refine ⟨nonempty, ?_, ?_⟩
  · simp only [Token.span]
    omega
  · simp only [Token.span]
    omega

theorem not_contains_of_apart {u : Statement} (read : u ∈ parse text)
    (apart : u.span.stop ≤ s.span.start ∨ s.span.stop ≤ u.span.start) {t : Token}
    (member : t ∈ statementTokens text u) : s.span.contains t.span = false := by
  obtain ⟨nonempty, after, before⟩ := statementTokens_inside read member
  have filled := List.length_pos_iff.mpr nonempty
  rw [Bool.eq_false_iff]
  intro inside
  simp only [Span.contains, Bool.and_eq_true, decide_eq_true_eq] at inside
  simp only [Token.span] at after before inside
  omega

theorem filter_contains (read : s ∈ parse text) :
    (templateTokens text).filter (fun t => s.span.contains t.span) = statementTokens text s := by
  have order := (parse_inOrder text).2
  obtain ⟨before, after, parsed⟩ := List.append_of_mem read
  rw [parsed] at order
  obtain ⟨_, behind, front⟩ := List.pairwise_append.mp order
  have none_before : (before.flatMap (statementTokens text)).filter
      (fun t => s.span.contains t.span) = [] := by
    simp only [List.filter_eq_nil_iff, List.mem_flatMap, Bool.not_eq_true]
    rintro t ⟨u, earlier, member⟩
    have other : u ∈ parse text := by simp [parsed, earlier]
    exact not_contains_of_apart other (.inl (front u earlier s List.mem_cons_self)) member
  have none_after : (after.flatMap (statementTokens text)).filter
      (fun t => s.span.contains t.span) = [] := by
    simp only [List.filter_eq_nil_iff, List.mem_flatMap, Bool.not_eq_true]
    rintro t ⟨u, later, member⟩
    have other : u ∈ parse text := by simp [parsed, later]
    exact not_contains_of_apart other (.inr ((List.pairwise_cons.mp behind).1 u later)) member
  have all_inside : (statementTokens text s).filter (fun t => s.span.contains t.span) =
      statementTokens text s := by
    apply List.filter_eq_self.mpr
    intro t member
    obtain ⟨_, begins, ends⟩ := statementTokens_inside read member
    simp [Span.contains, begins, ends]
  rw [templateTokens, parsed, List.flatMap_append, List.flatMap_cons, List.filter_append,
    List.filter_append, none_before, none_after, all_inside, List.nil_append, List.append_nil]

theorem filter_other (s : Statement) :
    (statementTokens text s).filter (fun t => t.kind = .other) =
      if s.isContent then [⟨s.span.start.toNat, .other, s.span.text text⟩] else [] := by
  unfold statementTokens
  split
  · rename_i content
    simp [isContent_iff.mpr content]
  · rename_i comment
    simp [Statement.isContent, comment]
  · rename_i literal _
    have own : (layOut (s.span.start.toNat + 2) (bodyPieces s.form (s.span.inner text))).filter
        (fun t => t.kind = .other) = [] := by
      apply List.filter_eq_nil_iff.mpr
      intro t member
      simpa using layOut_bodyPieces_own member
    have directive : s.isContent = false :=
      Bool.eq_false_iff.mpr fun content => literal (isContent_iff.mp content)
    simp [directive, own]

theorem other_tokens (text : List Char) :
    (templateTokens text).filter (fun t => t.kind = .other) =
      ((parse text).filter Statement.isContent).map
        (fun s => ⟨s.span.start.toNat, .other, s.span.text text⟩) := by
  rw [templateTokens, List.filter_flatMap]
  simp only [filter_other]
  induction parse text with
  | nil => rfl
  | cons s rest ih =>
    cases content : s.isContent with
    | true => simp [content, ih]
    | false => simp [content, ih]

theorem content_place (read : s ∈ parse text) (kind : TokenKind) :
    (⟨s.span.start.toNat, kind, s.span.text text⟩ : Token).span = s.span := by
  have tiles := (parse_divides text).tiles
  have front := tiles.start_le_of_mem read
  have order := tiles.inOrder.1 s read
  have long : (s.span.text text).length = _ :=
    Span.text_length front (Int.le_of_lt order) (tiles.stop_le_of_mem read)
  have begins : (s.span.start.toNat : Int) = s.span.start := Int.toNat_of_nonneg front
  have ends : s.span.start + ((s.span.stop - s.span.start).toNat : Int) = s.span.stop := by omega
  simp only [Token.span, long, begins, ends]

end Statements

/-- The tokens of a template cover it without a gap, those of a directive cover its span, and the
rest are the runs of content, each of them one token. -/
theorem tokens_cover_template (text : List Char) :
    Tiles 0 text (templateTokens text) ∧
    (∀ s ∈ parse text, s.isContent = false →
      Tiles s.span.start.toNat (s.span.text text)
        ((templateTokens text).filter fun t => s.span.contains t.span)) ∧
    ((templateTokens text).filter fun t => t.kind = .other).map (fun t => (t.span, t.value)) =
      ((parse text).filter Statement.isContent).map (fun s => (s.span, s.span.text text)) := by
  refine ⟨templateTokens_tiles text, fun s read _ => ?_, ?_⟩
  · rw [filter_contains read]
    exact statementTokens_tiles read
  · rw [other_tokens, List.map_map]
    apply List.map_congr_left
    intro s member
    simp only [Function.comp_apply, content_place (List.mem_of_mem_filter member)]

theorem spaced_opener_covered :
    (⟨.directive .openIf, ⟨3, 12⟩⟩ : Statement) ∈ parse ("<b>" ++ marked "if  a").toList ∧
    Tiles 3 (marked "if  a").toList
      [⟨3, .preprocessor, ['{', '{']⟩, ⟨5, .keyword, ['i', 'f']⟩, ⟨7, .whitespace, [' ', ' ']⟩,
        ⟨9, .name, ['a']⟩, ⟨10, .preprocessor, ['}', '}']⟩] := by
  have read : (⟨.directive .openIf, ⟨3, 12⟩⟩ : Statement) ∈
      parse ("<b>" ++ marked "if  a").toList := by decide
  exact ⟨read, (tokens_cover_template _).2.1 _ read rfl⟩

end Highlight

end JqTemplate
