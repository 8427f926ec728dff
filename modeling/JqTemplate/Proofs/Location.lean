import JqTemplate.Config.Locate
import JqTemplate.Files.Tree
import JqTemplate.Proofs.Misconfiguration
import JqTemplate.Proofs.Outcomes
import Mathlib.Data.List.Induction
import Mathlib.Data.String.Basic
import Mathlib.Logic.Function.Iterate

/-! Where the configuration of a path is found: on the way from the start up to the root, in the
first folder in which something of the right name stands. A start that the system does not resolve
and a question that it does not answer end the search. -/
namespace JqTemplate.Config

open Files (System Tree Place Path Obstacle Kind Listed)

/-- The folder `n` steps outward from where the search starts. The root is around itself. -/
def outward (first : Path) (n : Nat) : Path := Path.parent^[n] first

def candidate (first : Path) (n : Nat) : Path := (outward first n).child fileName

def Stands (sys : System) (p : Path) : Prop := ∃ kind, sys.stat p = .ok kind

def Lacks (sys : System) (p : Path) : Prop :=
  ∃ obstacle, sys.stat p = .error obstacle ∧ obstacle.meansNothing = true

/-- The system does not tell whether there is something. -/
def Refuses (sys : System) (p : Path) (obstacle : Obstacle) : Prop :=
  sys.stat p = .error obstacle ∧ obstacle.meansNothing = false

/-- What a search comes to that starts in a folder: the first candidate that stands, a refusal at the
first one that does not lack, or nothing if all of them lack. -/
inductive Located (sys : System) (first : Path) : Except Fault Path → Prop where
  | found {n : Nat} (stands : Stands sys (candidate first n))
      (closer : ∀ m < n, Lacks sys (candidate first m)) : Located sys first (.ok (candidate first n))
  | refused {n : Nat} {obstacle : Obstacle} (refuses : Refuses sys (candidate first n) obstacle)
      (closer : ∀ m < n, Lacks sys (candidate first m)) :
      Located sys first (.error (.access ⟨obstacle, (candidate first n).text⟩))
  | nowhere (all : ∀ n, Lacks sys (candidate first n)) : Located sys first (.error .notFound)

/-- In which folder a search starts: beside a regular file, in whatever else there is or not. -/
inductive Starts (sys : System) (start : Path) : Path → Prop where
  | beside {p : Path} (resolved : sys.resolve start = .ok p) (file : sys.stat p = .ok .file) :
      Starts sys start p.parent
  | within {p : Path} (resolved : sys.resolve start = .ok p)
      (other : (∃ kind ≠ Kind.file, sys.stat p = .ok kind) ∨ Lacks sys p) : Starts sys start p

inductive Unstarted (sys : System) (start : Path) : Fault → Prop where
  | unresolved {cause : Files.ResolveFault} (stopped : sys.resolve start = .error cause) :
      Unstarted sys start (.unresolved cause)
  | refused {p : Path} {obstacle : Obstacle} (resolved : sys.resolve start = .ok p)
      (refuses : Refuses sys p obstacle) : Unstarted sys start (.access ⟨obstacle, p.text⟩)

section Answers

variable {sys : System} {p : Path} {obstacle : Obstacle}

theorem Stands.not_lacks (stands : Stands sys p) : ¬ Lacks sys p := by
  rintro ⟨obstacle, closed, _⟩
  obtain ⟨kind, there⟩ := stands
  exact nomatch there.symm.trans closed

theorem Refuses.not_lacks (refuses : Refuses sys p obstacle) : ¬ Lacks sys p := by
  rintro ⟨other, closed, nothing⟩
  cases refuses.1.symm.trans closed
  simp [refuses.2] at nothing

theorem Refuses.not_stands (refuses : Refuses sys p obstacle) : ¬ Stands sys p := by
  rintro ⟨kind, there⟩
  exact nomatch there.symm.trans refuses.1

end Answers

section Walk

variable {sys : System} {first : Path} {result result' : Except Fault Path}

/-- The first candidate that does not lack is the same for every outcome. -/
theorem Located.unique (located : Located sys first result) (located' : Located sys first result') :
    result = result' := by
  have same {n m : Nat} (closer : ∀ k < n, Lacks sys (candidate first k))
      (closer' : ∀ k < m, Lacks sys (candidate first k)) (settled : ¬ Lacks sys (candidate first n))
      (settled' : ¬ Lacks sys (candidate first m)) : n = m := by
    rcases Nat.lt_trichotomy n m with less | same | more
    · exact absurd (closer' n less) settled
    · exact same
    · exact absurd (closer m more) settled'
  cases located with
  | found stands closer =>
    cases located' with
    | found stands' closer' => rw [same closer closer' stands.not_lacks stands'.not_lacks]
    | refused refuses closer' =>
      obtain rfl := same closer closer' stands.not_lacks refuses.not_lacks
      exact absurd stands refuses.not_stands
    | nowhere all => exact absurd (all _) stands.not_lacks
  | refused refuses closer =>
    cases located' with
    | found stands closer' =>
      obtain rfl := same closer closer' refuses.not_lacks stands.not_lacks
      exact absurd stands refuses.not_stands
    | refused refuses' closer' =>
      obtain rfl := same closer closer' refuses.not_lacks refuses'.not_lacks
      cases refuses.1.symm.trans refuses'.1
      rfl
    | nowhere all => exact absurd (all _) refuses.not_lacks
  | nowhere all =>
    cases located' with
    | found stands _ => exact absurd (all _) stands.not_lacks
    | refused refuses _ => exact absurd (all _) refuses.not_lacks
    | nowhere _ => rfl

end Walk

section Start

variable {sys : System} {start first p : Path} {fault : Fault}

theorem resolve_hasNull (resolved : sys.resolve start = .ok p) : p.hasNull = false := by
  unfold System.resolve at resolved
  split at resolved
  · cases resolved
  · dsimp only at resolved
    split at resolved
    · cases resolved
    · next plain =>
      split at resolved
      · cases resolved
        simpa using plain
      · split at resolved
        · cases resolved
        · cases resolved
          simpa using plain

theorem parent_hasNull (whole : p.hasNull = false) : p.parent.hasNull = false := by
  simp only [Path.hasNull, List.any_eq_false] at whole ⊢
  intro part member
  exact whole part (List.dropLast_subset _ member)

theorem Starts.hasNull (starts : Starts sys start first) : first.hasNull = false := by
  cases starts with
  | beside resolved _ => exact parent_hasNull (resolve_hasNull resolved)
  | within resolved _ => exact resolve_hasNull resolved

theorem load_of_stands (stands : Stands sys p) {path : String}
    (failed : load path (sys.read p) = .error fault) : fault.isMissing = false := by
  cases content : sys.read p with
  | error obstacle =>
    obtain ⟨kind, there⟩ := stands
    rw [content] at failed
    cases failed
    exact sys.opens p kind obstacle there content
  | ok octets => exact load_not_missing (content ▸ failed)

theorem for_of_found (found : locate? sys start = .ok p) (stands : Stands sys p) :
    for? sys start = load p.text (sys.read p) := by
  simp only [for?, found, Except.bind]
  cases loaded : load p.text (sys.read p) with
  | ok config => rfl
  | error fault => simp [load_of_stands stands loaded]

theorem meansNothing_of_isMissing {obstacle : Obstacle} (missing : obstacle.isMissing = true) :
    obstacle.meansNothing = true := by
  rw [Obstacle.isMissing, decide_eq_true_eq] at missing
  simp [Obstacle.meansNothing, missing]

theorem Refuses.not_missing {obstacle : Obstacle} (refuses : Refuses sys p obstacle) (path : String) :
    (Fault.access ⟨obstacle, path⟩).isMissing = false := by
  rw [Bool.eq_false_iff]
  intro missing
  simpa [meansNothing_of_isMissing missing] using refuses.2

theorem Unstarted.not_missing (unstarted : Unstarted sys start fault) : fault.isMissing = false := by
  cases unstarted with
  | unresolved _ => rfl
  | refused _ refuses => exact refuses.not_missing _

end Start

section Names

end Names

end JqTemplate.Config
