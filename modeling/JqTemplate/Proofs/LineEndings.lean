import JqTemplate.Highlight.Prepare
import JqTemplate.Position
import JqTemplate.Proofs.Terminator

/-! Texts in which every carriage return belongs to a line ending. Without the returns the text
has the same pairs of braces, in places that only move together, and every place that does not
part a return from its line feed keeps its line and its column. -/
namespace JqTemplate

/-- Every carriage return has a line feed behind it. -/
def PairedReturns : List Char → Prop
  | [] => True
  | c :: rest => (c = '\r' → rest.head? = some '\n') ∧ PairedReturns rest

instance decidePairedReturns : DecidablePred PairedReturns
  | [] => .isTrue trivial
  | _ :: rest =>
    have := decidePairedReturns rest
    inferInstanceAs (Decidable (_ ∧ _))

@[elab_as_elim]
theorem PairedReturns.induction {motive : (text : List Char) → PairedReturns text → Prop}
    (nil : motive [] trivial)
    (pair : ∀ rest (paired : PairedReturns rest), motive rest paired →
      motive ('\r' :: '\n' :: rest) ⟨fun _ => rfl, fun no => absurd no (by decide), paired⟩)
    (other : ∀ c rest (kept : c ≠ '\r') (paired : PairedReturns rest), motive rest paired →
      motive (c :: rest) ⟨fun here => absurd here kept, paired⟩) :
    ∀ text paired, motive text paired
  | [], _ => nil
  | [c], paired =>
    other c [] (fun here => absurd (paired.1 here) (by simp)) trivial nil
  | c :: d :: rest, paired => by
    by_cases here : c = '\r'
    · obtain rfl : d = '\n' := by simpa using paired.1 here
      subst here
      exact pair rest paired.2.2 (induction nil pair other rest paired.2.2)
    · exact other c (d :: rest) here paired.2 (induction nil pair other (d :: rest) paired.2)

def withoutReturns (text : List Char) : List Char := text.filter fun c => c ≠ '\r'

/-- Where an offset of the text lies once the returns are gone. -/
def thinned (text : List Char) (i : Nat) : Nat := (withoutReturns (text.take i)).length

section Texts

variable {a b rest text : List Char} {c : Char} {i j : Nat}

@[simp] theorem withoutReturns_nil : withoutReturns [] = [] := rfl

@[simp] theorem withoutReturns_return (rest : List Char) :
    withoutReturns ('\r' :: rest) = withoutReturns rest := by
  simp [withoutReturns]

theorem withoutReturns_cons (kept : c ≠ '\r') (rest : List Char) :
    withoutReturns (c :: rest) = c :: withoutReturns rest := by
  simp [withoutReturns, kept]

@[simp] theorem withoutReturns_feed (rest : List Char) :
    withoutReturns ('\n' :: rest) = '\n' :: withoutReturns rest :=
  withoutReturns_cons (by decide) rest

@[simp] theorem withoutReturns_append (a b : List Char) :
    withoutReturns (a ++ b) = withoutReturns a ++ withoutReturns b :=
  List.filter_append a b

theorem withoutReturns_of_not_mem (free : '\r' ∉ text) : withoutReturns text = text := by
  apply List.filter_eq_self.mpr
  intro c member
  have other : c ≠ '\r' := fun same => free (same ▸ member)
  simpa using other

/-- With all returns in pairs, uniting the line endings is leaving the returns out. -/
theorem unifyLines_eq (paired : PairedReturns text) :
    Highlight.unifyLines text = withoutReturns text := by
  induction text, paired using PairedReturns.induction with
  | nil => rfl
  | pair rest paired ih => simp [Highlight.unifyLines, ih]
  | other c rest kept paired ih => simp [Highlight.unifyLines, kept, ih, withoutReturns_cons kept]

namespace PairedReturns

theorem of_not_mem (free : '\r' ∉ text) : PairedReturns text := by
  induction text with
  | nil => trivial
  | cons c rest ih =>
    rw [List.mem_cons, not_or] at free
    exact ⟨fun here => absurd here.symm free.1, ih free.2⟩

theorem append (ha : PairedReturns a) (hb : PairedReturns b) : PairedReturns (a ++ b) := by
  induction a with
  | nil => exact hb
  | cons c rest ih =>
    refine ⟨fun here => ?_, ih ha.2⟩
    have follows := ha.1 here
    cases rest with
    | nil => contradiction
    | cons d more => exact follows

theorem right (h : PairedReturns (a ++ b)) : PairedReturns b := by
  induction a with
  | nil => exact h
  | cons c rest ih => exact ih h.2

theorem left (h : PairedReturns (a ++ b)) (next : b.head? ≠ some '\n') : PairedReturns a := by
  induction a with
  | nil => trivial
  | cons c rest ih =>
    refine ⟨fun here => ?_, ih h.2⟩
    have follows := h.1 here
    cases rest with
    | nil => exact absurd follows next
    | cons d more => exact follows

end PairedReturns

theorem exists_of_withoutReturns_cons (paired : PairedReturns text) (other : c ≠ '\n')
    (thin : withoutReturns text = c :: rest) :
    ∃ behind, text = c :: behind ∧ PairedReturns behind ∧ withoutReturns behind = rest := by
  induction text, paired using PairedReturns.induction with
  | nil => contradiction
  | pair more paired _ =>
    rw [withoutReturns_return, withoutReturns_feed] at thin
    exact absurd (List.cons.inj thin).1.symm other
  | other d more kept paired _ =>
    rw [withoutReturns_cons kept] at thin
    obtain ⟨rfl, same⟩ := List.cons.inj thin
    exact ⟨more, rfl, paired, same⟩

end Texts

section Places

variable {rest text : List Char} {c mark : Char} {i j : Nat}

theorem thinned_length (text : List Char) :
    thinned text text.length = (withoutReturns text).length := by
  rw [thinned, List.take_length]

theorem thinned_append (a b : List Char) :
    thinned (a ++ b) a.length = (withoutReturns a).length := by
  rw [thinned, List.take_left]

theorem thinned_return (rest : List Char) (i : Nat) :
    thinned ('\r' :: rest) (i + 1) = thinned rest i := by
  rw [thinned, List.take_succ_cons, withoutReturns_return, thinned]

theorem thinned_cons (kept : c ≠ '\r') (rest : List Char) (i : Nat) :
    thinned (c :: rest) (i + 1) = thinned rest i + 1 := by
  rw [thinned, List.take_succ_cons, withoutReturns_cons kept, List.length_cons, thinned]

theorem take_thinned (text : List Char) (i : Nat) :
    (withoutReturns text).take (thinned text i) = withoutReturns (text.take i) := by
  have whole := congrArg withoutReturns (List.take_append_drop i text)
  rw [withoutReturns_append] at whole
  rw [← whole, thinned, List.take_left]

theorem thinned_mono (order : i ≤ j) : thinned text i ≤ thinned text j := by
  have whole : text.take j = text.take i ++ (text.drop i).take (j - i) := by
    rw [← List.take_add, Nat.add_sub_cancel' order]
  rw [thinned, thinned, whole, withoutReturns_append, List.length_append]
  exact Nat.le_add_right _ _

theorem thinned_succ (here : text[i]? = some c) (kept : c ≠ '\r') :
    thinned text (i + 1) = thinned text i + 1 := by
  rw [thinned, List.take_add_one, here, withoutReturns_append, List.length_append, thinned]
  simp [withoutReturns, kept]

theorem thinned_lt (here : text[i]? = some c) (kept : c ≠ '\r') (order : i < j) :
    thinned text i < thinned text j := by
  have step := thinned_succ here kept
  have rest : thinned text (i + 1) ≤ thinned text j := thinned_mono order
  omega

/-- Leaving the returns out makes no new pairs: what is left beside a brace stood beside it. -/
theorem exists_pairAt (paired : PairedReturns text) (brace : mark ≠ '\n')
    (h : PairAt mark (withoutReturns text) j) : ∃ i, thinned text i = j ∧ PairAt mark text i := by
  induction text, paired using PairedReturns.induction generalizing j with
  | nil => simp [PairAt] at h
  | pair rest paired ih =>
    rw [withoutReturns_return, withoutReturns_feed] at h
    cases j with
    | zero => exact absurd (Option.some.inj h.1).symm brace
    | succ j =>
      obtain ⟨i, place, pair⟩ := ih h
      exact ⟨i + 2, by rw [thinned_return, thinned_cons (by decide), place], pair⟩
  | other c rest kept paired ih =>
    rw [withoutReturns_cons kept] at h
    cases j with
    | zero =>
      obtain ⟨first, second⟩ := h
      obtain rfl : c = mark := Option.some.inj first
      obtain ⟨more, thin⟩ : ∃ more, withoutReturns rest = c :: more := by
        cases here : withoutReturns rest with
        | nil => simp [here] at second
        | cons d more => exact ⟨more, by simpa [here] using second⟩
      obtain ⟨behind, rfl, _⟩ := exists_of_withoutReturns_cons paired brace thin
      exact ⟨0, rfl, rfl, rfl⟩
    | succ j =>
      obtain ⟨i, place, pair⟩ := ih h
      exact ⟨i + 1, by rw [thinned_cons kept, place], pair⟩

end Places

namespace Position

variable {text : List Char} {unit : ColumnUnit} {p : Position}

/-- A return only widens a line that its line feed ends. -/
theorem foldl_withoutReturns (paired : PairedReturns text) :
    (withoutReturns text).foldl (advance unit) p = text.foldl (advance unit) p := by
  induction text, paired using PairedReturns.induction generalizing p with
  | nil => rfl
  | pair rest paired ih =>
    rw [withoutReturns_return, withoutReturns_feed, List.foldl_cons, ih]
    rfl
  | other c rest kept paired ih =>
    rw [withoutReturns_cons kept, List.foldl_cons, List.foldl_cons, ih]

theorem ofOffset_thinned {i : Nat} (whole : PairedReturns (text.take i)) :
    ofOffset unit (withoutReturns text) (thinned text i) = ofOffset unit text i := by
  unfold ofOffset after
  rw [Int.toNat_natCast, Int.toNat_natCast, take_thinned]
  exact foldl_withoutReturns whole

end Position

end JqTemplate
