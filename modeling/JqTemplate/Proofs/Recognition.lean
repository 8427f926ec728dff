import JqTemplate.Proofs.Head
import JqTemplate.Statement
import Mathlib.Data.List.Perm.Basic

namespace JqTemplate

namespace Keyword

/-- The body is the keyword and a rest, which is not empty where the directive takes an expression,
and which does not go on with the keyword where that is a word. -/
def Heads (k : Keyword) (body : List Char) : Prop :=
  ∃ rest, body = k.letters ++ rest ∧ (k.needsBody = true → rest ≠ []) ∧
    (k.needsBoundary = true → ∀ c ∈ rest.head?, Text.isWordChar c = false)

theorem acceptsRest_iff {k : Keyword} {rest : List Char} :
    k.acceptsRest rest = true ↔ (k.needsBody = true → rest ≠ []) ∧
      (k.needsBoundary = true → ∀ c ∈ rest.head?, Text.isWordChar c = false) := by
  have boundary : (k.needsBoundary && rest.head?.any Text.isWordChar) = false ↔
      (k.needsBoundary = true → ∀ c ∈ rest.head?, Text.isWordChar c = false) := by
    cases k.needsBoundary <;> cases rest.head? <;> simp
  have body : (k.needsBody && rest.isEmpty) = false ↔ (k.needsBody = true → rest ≠ []) := by
    cases k.needsBody <;> cases rest <;> simp
  rw [acceptsRest, Bool.and_eq_true, Bool.not_eq_true', Bool.not_eq_true', boundary, body]
  exact and_comm

theorem fits_iff_heads {k : Keyword} {body : List Char} : k.fits body = true ↔ k.Heads body := by
  rw [fits_iff]
  exact exists_congr fun rest => and_congr_right fun _ => acceptsRest_iff

theorem eq_of_letters {k k' : Keyword} (same : k.letters = k'.letters) : k = k' := by
  have distinct : ∀ k ∈ table, ∀ k' ∈ table, k.letters = k'.letters → k = k' := by decide
  exact distinct k k.mem_table k' k'.mem_table same

theorem letters_of_not_needsBoundary {k : Keyword} (symbol : k.needsBoundary = false) :
    k.letters = ['='] ∨ k.letters = ['!'] := by
  have symbols : ∀ k ∈ table, k.needsBoundary = false →
      k.letters = ['='] ∨ k.letters = ['!'] := by decide
  exact symbols k k.mem_table symbol

end Keyword

namespace Unknown

variable {k : Keyword} {rest body : List Char}

theorem ends_of_acceptsRest (accepts : k.acceptsRest rest = true) : Ends k.letters rest := by
  cases word : k.needsBoundary with
  | false =>
    rcases Keyword.letters_of_not_needsBoundary word with symbol | symbol
    · exact .inl symbol
    · exact .inr (.inl symbol)
  | true =>
    have stop := (Keyword.acceptsRest_iff.mp accepts).2 word
    refine .inr (.inr ?_)
    cases head : rest.head? with
    | none => rfl
    | some c => exact stop c head

theorem heads_iff_headOf :
    k.Heads body ↔ headOf body = some k.letters ∧ (k.needsBody = true → body ≠ k.letters) := by
  constructor
  · rintro ⟨rest, rfl, expression, boundary⟩
    have accepts := Keyword.acceptsRest_iff.mpr ⟨expression, boundary⟩
    refine ⟨headOf_append (isWord_letters k) (ends_of_acceptsRest accepts), fun needs bare => ?_⟩
    exact expression needs (List.self_eq_append_right.mp bare.symm)
  · rintro ⟨head, expression⟩
    obtain ⟨rest, rfl, _, ends⟩ := headOf_eq_some_iff.mp head
    have accepts := acceptsRest_of_ends ends fun needs bare =>
      expression needs (by rw [bare, List.append_nil])
    exact Keyword.fits_iff_heads.mp (Keyword.fits_iff.mpr ⟨rest, rfl, accepts⟩)

end Unknown

theorem Keyword.Heads.unique {k k' : Keyword} {body : List Char} (h : k.Heads body)
    (h' : k'.Heads body) : k = k' := by
  have head := (Unknown.heads_iff_headOf.mp h).1
  have head' := (Unknown.heads_iff_headOf.mp h').1
  exact Keyword.eq_of_letters (Option.some.inj (head.symm.trans head'))

section Tables

variable {entries : List Keyword} {body : List Char} {k : Keyword}

theorem recognizeIn_eq_some_iff (all : ∀ k, k ∈ entries) :
    recognizeIn entries body = some k ↔ k.Heads body := by
  constructor
  · intro found
    have fits := List.find?_some found
    exact Keyword.fits_iff_heads.mp fits
  · intro heads
    cases found : recognizeIn entries body with
    | none =>
      have fits := List.find?_eq_none.mp found k (all k)
      exact absurd (Keyword.fits_iff_heads.mpr heads) fits
    | some k' =>
      have fits := List.find?_some found
      rw [(Keyword.fits_iff_heads.mp fits).unique heads]

theorem recognize_eq_some_iff : recognize body = some k ↔ k.Heads body :=
  recognizeIn_eq_some_iff Keyword.mem_table

/-- Any table that leaves no keyword out recognizes the same, whatever its order. -/
theorem recognizeIn_eq_recognize (all : ∀ k, k ∈ entries) (body : List Char) :
    recognizeIn entries body = recognize body := by
  refine Option.ext fun k => ?_
  rw [recognizeIn_eq_some_iff all, recognize_eq_some_iff]

theorem recognize_eq_none_iff_headless :
    recognize body = none ↔ ∀ k : Keyword, ¬ k.Heads body := by
  simp only [Option.eq_none_iff_forall_ne_some, ne_eq, recognize_eq_some_iff]

end Tables

namespace Form

def ofBodyIn (entries : List Keyword) (body : List Char) : Form :=
  match recognizeIn entries body with
  | some k => .directive k
  | none => .unknown body

variable {body body' : List Char} {k : Keyword}

theorem ofBody_eq_directive_iff : ofBody body = .directive k ↔ k.Heads body := by
  rw [← recognize_eq_some_iff, ofBody]
  cases recognize body <;> simp

theorem ofBody_eq_unknown_iff :
    ofBody body = .unknown body' ↔ recognize body = none ∧ body = body' := by
  unfold ofBody
  cases recognize body <;> simp

end Form

/-- Every order of the table gives every body the same form: that of the one keyword that heads the
body, and where there is none an unknown directive with the body as it is. -/
theorem recognized_in_any_order (body : List Char) :
    (∀ entries, entries.Perm Keyword.table → Form.ofBodyIn entries body = Form.ofBody body) ∧
    (∀ k k' : Keyword, k.Heads body → k'.Heads body → k = k') ∧
    (∀ k, Form.ofBody body = .directive k ↔ k.Heads body) ∧
    (∀ body', Form.ofBody body = .unknown body' ↔
      (∀ k : Keyword, ¬ k.Heads body) ∧ body = body') := by
  refine ⟨fun entries order => ?_, fun k k' h h' => h.unique h',
    fun k => Form.ofBody_eq_directive_iff, fun body' => ?_⟩
  · have all : ∀ k, k ∈ entries := fun k => order.mem_iff.mpr k.mem_table
    rw [Form.ofBodyIn, recognizeIn_eq_recognize all]
    rfl
  · rw [Form.ofBody_eq_unknown_iff, recognize_eq_none_iff_headless]

theorem closer_behind_openers :
    Keyword.table.reverse.Perm Keyword.table ∧
      Form.ofBodyIn Keyword.table.reverse "/if x".toList = .directive .closeIf ∧
      Form.ofBodyIn Keyword.table.reverse "/ifx".toList = .unknown "/ifx".toList := by
  have order : Keyword.table.reverse.Perm Keyword.table := List.reverse_perm _
  have closer := (recognized_in_any_order "/if x".toList).1 _ order
  have longer := (recognized_in_any_order "/ifx".toList).1 _ order
  exact ⟨order, closer.trans (by decide), longer.trans (by decide)⟩

end JqTemplate
