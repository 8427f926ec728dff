import JqTemplate.Position
import JqTemplate.Proofs.Order

namespace JqTemplate

theorem ColumnUnit.width_pos (unit : ColumnUnit) (c : Char) : 0 < unit.width c := by
  cases unit with
  | codePoint => exact Nat.one_pos
  | utf16 =>
    simp only [width]
    split <;> decide

namespace ColumnUnit

theorem measure_cons (unit : ColumnUnit) (c : Char) (rest : List Char) :
    unit.measure (c :: rest) = unit.width c + unit.measure rest := rfl

theorem measure_append (unit : ColumnUnit) (a b : List Char) :
    unit.measure (a ++ b) = unit.measure a + unit.measure b := by
  induction a with
  | nil => exact (Nat.zero_add _).symm
  | cons c rest ih => rw [List.cons_append, measure_cons, measure_cons, ih, Nat.add_assoc]

theorem measure_codePoint (text : List Char) : codePoint.measure text = text.length := by
  induction text with
  | nil => rfl
  | cons c rest ih => rw [measure_cons, ih, List.length_cons, width, Nat.add_comm]

theorem length_le_measure (unit : ColumnUnit) (text : List Char) :
    text.length ≤ unit.measure text := by
  induction text with
  | nil => exact Nat.le_refl _
  | cons c rest ih =>
    have wide := unit.width_pos c
    rw [measure_cons, List.length_cons]
    omega

end ColumnUnit

namespace Position

variable {p q r : Position} {unit : ColumnUnit} {text : List Char}

theorem before_iff :
    p.before q = true ↔ p.line < q.line ∨ (p.line = q.line ∧ p.column < q.column) := by
  simp [before]

theorem not_before_iff :
    p.before q = false ↔ q.line < p.line ∨ (p.line = q.line ∧ q.column ≤ p.column) := by
  rw [Bool.eq_false_iff, ne_eq, before_iff]
  omega

theorem before_trans (first : p.before q = true) (second : q.before r = true) :
    p.before r = true := by
  rw [before_iff] at first second ⊢
  omega

theorem before_ranks : Ranks before where
  asymm p q earlier := by
    rw [before_iff] at earlier
    rw [not_before_iff]
    omega
  trans p q r first second := by
    rw [not_before_iff] at first second ⊢
    omega

theorem before_irrefl (p : Position) : p.before p = false := by simp [before]

theorem before_of_before_of_not (first : p.before q = true) (second : r.before q = false) :
    p.before r = true := by
  rw [before_iff] at first ⊢
  rw [not_before_iff] at second
  omega

theorem before_of_ne (other : p ≠ q) (notBehind : q.before p = false) : p.before q = true := by
  rw [not_before_iff] at notBehind
  rw [before_iff]
  by_contra later
  have lines : p.line = q.line := by omega
  have columns : p.column = q.column := by omega
  apply other
  cases p
  cases q
  simp_all

theorem before_advance (unit : ColumnUnit) (p : Position) (c : Char) :
    p.before (p.advance unit c) = true := by
  rw [before_iff]
  unfold advance
  split
  · exact .inl (Nat.lt_succ_self _)
  · have wide := unit.width_pos c
    exact .inr ⟨rfl, by simp only; omega⟩

theorem before_foldl_advance {more : List Char} (nonempty : more ≠ []) :
    p.before (more.foldl (advance unit) p) = true := by
  induction more generalizing p with
  | nil => contradiction
  | cons c rest ih =>
    have step := before_advance unit p c
    cases rest with
    | nil => exact step
    | cons d rest => exact before_trans step (ih (List.cons_ne_nil d rest))

theorem ofOffset_mono {i j : Int} (order : i ≤ j) :
    (ofOffset unit text j).before (ofOffset unit text i) = false := by
  obtain ⟨between, whole⟩ : text.take i.toNat <+: text.take j.toNat :=
    List.take_prefix_take_left (Int.toNat_le_toNat order)
  simp only [ofOffset, after]
  rw [← whole, List.foldl_append]
  cases between with
  | nil => exact before_irrefl _
  | cons c rest => exact before_ranks.asymm _ _ (before_foldl_advance (List.cons_ne_nil c rest))

theorem ofOffset_before {i j : Nat} (less : i < j) (inside : j ≤ text.length) :
    (ofOffset unit text i).before (ofOffset unit text j) = true := by
  have between : (text.drop i).take (j - i) ≠ [] := by
    have long : 0 < ((text.drop i).take (j - i)).length := by
      rw [List.length_take, List.length_drop]
      omega
    exact List.ne_nil_of_length_pos long
  have whole : text.take j = text.take i ++ (text.drop i).take (j - i) := by
    rw [← List.take_add]
    congr 1
    omega
  simp only [ofOffset, after, Int.toNat_natCast]
  rw [whole, List.foldl_append]
  exact before_foldl_advance between

theorem ofOffset_ne {i j : Nat} (other : i ≠ j) (insideI : i ≤ text.length)
    (insideJ : j ≤ text.length) : ofOffset unit text i ≠ ofOffset unit text j := by
  intro same
  rcases Nat.lt_or_gt_of_ne other with less | greater
  · have earlier : (ofOffset unit text i).before (ofOffset unit text j) = true :=
      ofOffset_before less insideJ
    simp [same, before_irrefl] at earlier
  · have earlier : (ofOffset unit text j).before (ofOffset unit text i) = true :=
      ofOffset_before greater insideI
    simp [same, before_irrefl] at earlier

end Position

end JqTemplate
