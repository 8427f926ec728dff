import JqTemplate.Block.Nesting
import JqTemplate.Proofs.Splice

namespace JqTemplate

def enclosed (body : List Char) : List Char := ['{', '{'] ++ (body ++ ['}', '}'])

/-- The closing mark behind the body is the first pair of closing braces. -/
def IsBody (body : List Char) : Prop := FirstCloseAt (body ++ ['}', '}']) 0 body.length

theorem marked_toList (body : List Char) :
    (marked (String.ofList body)).toList = enclosed body := by
  simp [marked, enclosed, openMark, closeMark]

theorem enclosed_length (body : List Char) : (enclosed body).length = body.length + 4 := by
  simp [enclosed]

theorem Span.inner_enclosed (pre body post : List Char) :
    (⟨pre.length, pre.length + (enclosed body).length⟩ : Span).inner
      (pre ++ (enclosed body ++ post)) = body := by
  have stops : (pre.length : Int) + (enclosed body).length =
      (pre.length + 2 + body.length : Nat) + 2 := by
    rw [enclosed_length]
    omega
  rw [stops, Span.inner_nat, ← List.drop_drop, List.drop_left]
  simp [enclosed]

theorem PairAt.split {mark : Char} {text : List Char} {i : Nat} (h : PairAt mark text i) :
    ∃ before behind, text = before ++ ([mark, mark] ++ behind) ∧ before.length = i := by
  have bound := h.lt_length
  have first := h.1
  have second := h.2
  rw [List.getElem?_eq_getElem (by omega), Option.some.injEq] at first second
  refine ⟨text.take i, text.drop (i + 2), ?_, by rw [List.length_take]; omega⟩
  calc text = text.take i ++ text.drop i := (List.take_append_drop i text).symm
    _ = text.take i ++ ([mark, mark] ++ text.drop (i + 2)) := by
      rw [List.drop_eq_getElem_cons (by omega), List.drop_eq_getElem_cons (by omega), first,
        second]
      rfl

theorem FirstCloseAt.split {text : List Char} {close : Nat} (h : FirstCloseAt text 0 close) :
    ∃ body post, text = body ++ (['}', '}'] ++ post) ∧ body.length = close ∧ IsBody body := by
  obtain ⟨body, post, rfl, rfl⟩ := h.2.1.split
  refine ⟨body, post, rfl, rfl, ?_⟩
  rw [← List.append_assoc] at h
  exact h.of_append (by simp)

namespace IsBody

variable {front body : List Char}

theorem suffix (h : IsBody (front ++ body)) : IsBody body := by
  have later := FirstCloseAt.later h (Nat.zero_le front.length) (by simp)
  rw [List.length_append, List.append_assoc] at later
  exact firstCloseAt_append_right.mp later

theorem prepend (plain : '}' ∉ front) (h : IsBody body) : IsBody (front ++ body) := by
  have behind := (firstCloseAt_append_right (a := front)).mpr h
  unfold IsBody
  rw [List.length_append, List.append_assoc]
  refine ⟨Nat.zero_le _, behind.2.1, fun j _ pair => ?_⟩
  by_cases inside : j < front.length
  · have first := pair.1
    rw [List.getElem?_append_left inside] at first
    exact absurd (List.mem_of_getElem? first) plain
  · exact behind.2.2 j (by omega) pair

theorem of_plain (plain : '}' ∉ body) : IsBody body := by
  have empty : IsBody [] := ⟨Nat.le_refl 0, ⟨rfl, rfl⟩, fun j _ _ => Nat.zero_le j⟩
  simpa using empty.prepend plain

theorem isDirective (h : IsBody body) :
    IsDirective (enclosed body) ⟨Form.ofBody body, ⟨0, (enclosed body).length⟩⟩ := by
  have first : FirstCloseAt (enclosed body) (2 + 0) (2 + body.length) :=
    firstCloseAt_append_right.mpr h
  have inner : (⟨(0 : Nat), ((2 + body.length : Nat) : Int) + 2⟩ : Span).inner (enclosed body) =
      body := by
    rw [Span.inner_nat]
    simp [enclosed]
  have span : (⟨0, ((enclosed body).length : Nat)⟩ : Span) =
      ⟨(0 : Nat), ((2 + body.length : Nat) : Int) + 2⟩ := by
    rw [enclosed_length]
    simp only [Span.mk.injEq]
    omega
  refine ⟨0, 2 + body.length, span, ⟨rfl, rfl⟩, first, ?_⟩
  rw [span, inner]

end IsBody

theorem IsDirective.split {text : List Char} {s : Statement} (h : IsDirective text s) :
    ∃ pre body post, text = pre ++ (enclosed body ++ post) ∧ IsBody body ∧
      s = ⟨Form.ofBody body, ⟨pre.length, pre.length + (enclosed body).length⟩⟩ := by
  obtain ⟨start, close, span, opens, first, form⟩ := h
  obtain ⟨length, rfl⟩ := Nat.exists_eq_add_of_le first.1
  obtain ⟨pre, rest, rfl, rfl⟩ := opens.split
  have closes : FirstCloseAt rest 0 length := by
    have behind : FirstCloseAt ((pre ++ ['{', '{']) ++ rest)
        ((pre ++ ['{', '{']).length + 0) ((pre ++ ['{', '{']).length + length) := by
      simpa using first
    exact firstCloseAt_append_right.mp behind
  obtain ⟨body, post, rfl, rfl, is⟩ := closes.split
  have inner : s.span.inner (pre ++ (['{', '{'] ++ (body ++ (['}', '}'] ++ post)))) = body := by
    rw [span, Span.inner_nat, ← List.drop_drop, List.drop_left]
    simp
  have place : s.span = ⟨pre.length, pre.length + (enclosed body).length⟩ := by
    rw [span, enclosed_length]
    simp only [Span.mk.injEq, true_and]
    omega
  refine ⟨pre, body, post, by simp [enclosed], is, ?_⟩
  rw [← place, ← inner, ← form]

end JqTemplate
