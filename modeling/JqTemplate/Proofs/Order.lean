import JqTemplate.Order
import Mathlib.Data.List.Forall2
import Mathlib.Data.Int.Order.Basic
import Mathlib.Data.List.Perm.Basic
import Mathlib.Order.Lattice

namespace JqTemplate

variable {α : Type} {before : α → α → Bool}

theorem insertBy_perm (before : α → α → Bool) (x : α) (xs : List α) :
    (insertBy before x xs).Perm (x :: xs) := by
  induction xs with
  | nil => exact List.Perm.refl _
  | cons y rest ih =>
    unfold insertBy
    split
    · exact (ih.cons y).trans (List.Perm.swap x y rest)
    · exact List.Perm.refl _

theorem stableSort_perm (before : α → α → Bool) (xs : List α) :
    (stableSort before xs).Perm xs := by
  induction xs with
  | nil => exact List.Perm.refl _
  | cons x rest ih => exact (insertBy_perm before x _).trans (ih.cons x)

section Related

variable {β : Type} {before' : β → β → Bool} {R : α → β → Prop} {x : α} {y : β} {xs : List α}
  {ys : List β}

theorem insertBy_forall₂
    (same : ∀ a b a' b', R a b → R a' b' → before' b b' = before a a') (head : R x y)
    (rest : List.Forall₂ R xs ys) :
    List.Forall₂ R (insertBy before x xs) (insertBy before' y ys) := by
  induction rest with
  | nil => exact .cons head .nil
  | @cons z w zs ws first later ih =>
    unfold insertBy
    rw [same z w x y first head]
    split
    · exact .cons first ih
    · exact .cons head (.cons first later)

theorem stableSort_forall₂
    (same : ∀ a b a' b', R a b → R a' b' → before' b b' = before a a')
    (related : List.Forall₂ R xs ys) :
    List.Forall₂ R (stableSort before xs) (stableSort before' ys) := by
  induction related with
  | nil => exact .nil
  | cons first _ ih => exact insertBy_forall₂ same first ih

theorem stableSort_map (f : α → β) (before' : β → β → Bool) (xs : List α) :
    stableSort before' (xs.map f) = (stableSort (fun a b => before' (f a) (f b)) xs).map f := by
  have same : List.Forall₂ (fun a b => f a = b) xs (xs.map f) :=
    List.forall₂_map_right_iff.mpr (List.forall₂_same.mpr fun _ _ => rfl)
  have sorted : List.Forall₂ (fun a b => f a = b) (stableSort (fun a b => before' (f a) (f b)) xs)
      (stableSort before' (xs.map f)) := by
    apply stableSort_forall₂ _ same
    rintro a _ a' _ rfl rfl
    rfl
  rw [← List.forall₂_map_left_iff (R := Eq), List.forall₂_eq_eq_eq] at sorted
  exact sorted.symm

end Related

/-- A strict order in which elements may tie: what is not before `b` is not before anything that
`b` is not behind. -/
structure Ranks (before : α → α → Bool) : Prop where
  asymm : ∀ a b, before a b = true → before b a = false
  trans : ∀ a b c, before b a = false → before c b = false → before c a = false

def Ranked (before : α → α → Bool) (xs : List α) : Prop :=
  xs.Pairwise fun a b => before b a = false

theorem Ranks.insertBy_ranked (ranks : Ranks before) (x : α) {xs : List α}
    (ranked : Ranked before xs) : Ranked before (insertBy before x xs) := by
  induction xs with
  | nil => exact List.pairwise_singleton _ x
  | cons y rest ih =>
    obtain ⟨first, tail⟩ := List.pairwise_cons.mp ranked
    unfold insertBy
    split
    · rename_i earlier
      refine List.pairwise_cons.mpr ⟨?_, ih tail⟩
      intro z member
      rcases List.mem_cons.mp ((insertBy_perm before x rest).mem_iff.mp member) with rfl | old
      · exact ranks.asymm y z earlier
      · exact first z old
    · rename_i stays
      have front : before y x = false := by simpa using stays
      refine List.pairwise_cons.mpr ⟨?_, ranked⟩
      intro z member
      rcases List.mem_cons.mp member with rfl | behind
      · exact front
      · exact ranks.trans x y z front (first z behind)

theorem Ranks.stableSort_ranked (ranks : Ranks before) (xs : List α) :
    Ranked before (stableSort before xs) := by
  induction xs with
  | nil => exact .nil
  | cons x rest ih => exact ranks.insertBy_ranked x ih

theorem stableSort_eq_self {xs : List α} (ranked : Ranked before xs) :
    stableSort before xs = xs := by
  induction xs with
  | nil => rfl
  | cons x rest ih =>
    obtain ⟨first, tail⟩ := List.pairwise_cons.mp ranked
    rw [stableSort, ih tail]
    cases rest with
    | nil => rfl
    | cons y later => simp [insertBy, first y List.mem_cons_self]

/-- Elements that tie stay as they came: what holds between them before the sort holds behind it. -/
theorem Ranks.insertBy_ties (ranks : Ranks before) {S : α → α → Prop} {x : α} {xs : List α}
    (ranked : Ranked before xs)
    (head : ∀ y ∈ xs, before x y = false → before y x = false → S x y)
    (tail : xs.Pairwise fun a b => before a b = false → S a b) :
    (insertBy before x xs).Pairwise fun a b => before a b = false → S a b := by
  induction xs with
  | nil => exact List.pairwise_singleton _ x
  | cons y rest ih =>
    obtain ⟨first, others⟩ := List.pairwise_cons.mp ranked
    obtain ⟨here, there⟩ := List.pairwise_cons.mp tail
    unfold insertBy
    split
    · rename_i earlier
      refine List.pairwise_cons.mpr ⟨?_, ih others (fun z member => head z (.tail y member)) there⟩
      intro z member
      rcases List.mem_cons.mp ((insertBy_perm before x rest).mem_iff.mp member) with rfl | old
      · simp [earlier]
      · exact here z old
    · rename_i stays
      have front : before y x = false := by simpa using stays
      refine List.pairwise_cons.mpr ⟨?_, tail⟩
      intro z member notBefore
      apply head z member notBefore
      rcases List.mem_cons.mp member with rfl | behind
      · exact front
      · exact ranks.trans x y z front (first z behind)

theorem Ranks.stableSort_ties (ranks : Ranks before) {S : α → α → Prop} {xs : List α}
    (ties : xs.Pairwise fun a b => before a b = false → before b a = false → S a b) :
    (stableSort before xs).Pairwise fun a b => before a b = false → S a b := by
  induction xs with
  | nil => exact .nil
  | cons x rest ih =>
    obtain ⟨head, tail⟩ := List.pairwise_cons.mp ties
    apply ranks.insertBy_ties (ranks.stableSort_ranked rest) _ (ih tail)
    exact fun y member => head y ((stableSort_perm before rest).mem_iff.mp member)

theorem Ranks.of_key {β : Type} [LinearOrder β] [DecidableLT β] (key : α → β) :
    Ranks fun y x => decide (key y < key x) where
  asymm a b earlier := by
    simp only [decide_eq_true_eq, decide_eq_false_iff_not] at earlier ⊢
    exact lt_asymm earlier
  trans a b c first second := by
    simp only [decide_eq_false_iff_not, not_lt] at first second ⊢
    exact le_trans first second

theorem Ranks.filter_insertBy (ranks : Ranks before) (p : α → Bool) (x : α) {xs : List α}
    (ranked : Ranked before xs) :
    (insertBy before x xs).filter p =
      if p x then insertBy before x (xs.filter p) else xs.filter p := by
  induction xs with
  | nil => cases keep : p x <;> simp [insertBy, keep]
  | cons y rest ih =>
    obtain ⟨first, tail⟩ := List.pairwise_cons.mp ranked
    cases earlier : before y x with
    | true =>
      rw [insertBy, if_pos earlier, List.filter_cons, ih tail]
      cases keepY : p y <;> cases keepX : p x <;> simp [insertBy, earlier, keepY]
    | false =>
      -- nothing behind `y` stands before `x` either, whatever the filter leaves of it
      have front : ∀ zs : List α, (∀ z ∈ zs, before z x = false) →
          insertBy before x zs = x :: zs := by
        intro zs behind
        cases zs with
        | nil => rfl
        | cons z zs => simp [insertBy, behind z List.mem_cons_self]
      have behind : ∀ z ∈ (y :: rest).filter p, before z x = false := by
        intro z member
        rcases List.mem_cons.mp (List.mem_of_mem_filter member) with rfl | later
        · exact earlier
        · exact ranks.trans x y z earlier (first z later)
      rw [front _ behind, insertBy, if_neg (by simp [earlier])]
      cases keepX : p x <;> simp [List.filter_cons, keepX]

theorem Ranks.filter_stableSort (ranks : Ranks before) (p : α → Bool) (xs : List α) :
    (stableSort before xs).filter p = stableSort before (xs.filter p) := by
  induction xs with
  | nil => rfl
  | cons x rest ih =>
    rw [stableSort, ranks.filter_insertBy p x (ranks.stableSort_ranked rest), ih]
    cases keep : p x <;> simp [stableSort, keep]

end JqTemplate
