import Mathlib.Data.List.Forall2

namespace JqTemplate

section Single

variable {α ε ε' : Type} {result : Except ε α} {value : α}

theorem eq_error_of_toOption (nothing : result.toOption = none) :
    ∃ fault, result = .error fault := by
  cases result with
  | error fault => exact ⟨fault, rfl⟩
  | ok value => contradiction

theorem eq_ok_of_toOption (had : result.toOption = some value) : result = .ok value := by
  cases result with
  | error fault => contradiction
  | ok found => exact congrArg _ (Option.some.inj had)

end Single

section Rows

variable {α β ε : Type} {f : α → Except ε β} {xs : List α} {ys : List β}

theorem mapM_eq_ok_iff : xs.mapM f = .ok ys ↔ List.Forall₂ (fun x y => f x = .ok y) xs ys := by
  induction xs generalizing ys with
  | nil =>
    rw [List.forall₂_nil_left_iff, List.mapM_nil]
    constructor
    · rintro ⟨⟩
      rfl
    · rintro rfl
      rfl
  | cons x xs ih =>
    rw [List.forall₂_cons_left_iff, List.mapM_cons]
    cases first : f x with
    | error fault => simp [bind, Except.bind]
    | ok y =>
      cases rest : xs.mapM f with
      | error fault =>
        simp only [bind, Except.bind, reduceCtorEq, false_iff]
        rintro ⟨y', ys', _, later, rfl⟩
        simp [ih.mpr later] at rest
      | ok ys' =>
        simp only [bind, Except.bind, pure, Except.pure, Except.ok.injEq]
        constructor
        · rintro rfl
          exact ⟨y, ys', rfl, ih.mp rest, rfl⟩
        · rintro ⟨z, zs, rfl, later, rfl⟩
          cases (ih.mpr later).symm.trans rest
          rfl

theorem mem_mapM_iff (read : xs.mapM f = .ok ys) {y : β} : y ∈ ys ↔ ∃ x ∈ xs, f x = .ok y := by
  have related := mapM_eq_ok_iff.mp read
  clear read
  induction related with
  | nil => simp
  | @cons x z xs zs first _ ih => simp [ih, first, eq_comm]

theorem mapM_ok_iff : (∃ ys, xs.mapM f = .ok ys) ↔ ∀ x ∈ xs, ∃ y, f x = .ok y := by
  induction xs with
  | nil => exact iff_of_true ⟨[], rfl⟩ nofun
  | cons x rest ih =>
    rw [List.mapM_cons, List.forall_mem_cons, ← ih]
    cases f x with
    | error fault => simp [bind, Except.bind]
    | ok y => cases rest.mapM f <;> simp [bind, Except.bind, pure, Except.pure]

theorem mapM_eq_error {fault : ε} (stopped : xs.mapM f = .error fault) :
    ∃ x ∈ xs, f x = .error fault := by
  induction xs with
  | nil => cases stopped
  | cons x xs ih =>
    rw [List.mapM_cons] at stopped
    cases first : f x with
    | error own =>
      rw [first] at stopped
      cases stopped
      exact ⟨x, List.mem_cons_self, first⟩
    | ok y =>
      cases rest : xs.mapM f with
      | error later =>
        rw [first, rest] at stopped
        cases stopped
        obtain ⟨z, member, same⟩ := ih rest
        exact ⟨z, List.mem_cons_of_mem x member, same⟩
      | ok ys => simp [first, rest, bind, Except.bind, pure, Except.pure] at stopped

end Rows

end JqTemplate
