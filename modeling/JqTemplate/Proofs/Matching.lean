import JqTemplate.Files.Glob
import Mathlib.Data.List.Basic

/-! Which files a pattern matches, said without the search. A name fits the items of a part one by
one, a path is led on by one part after the other, and a search that ends without a fault returns
the regular files to which all parts lead. -/
namespace JqTemplate.Files

/-- Each item takes a character that it holds of, a star takes any run. -/
inductive Fits : List Item → List Char → Prop where
  | nil : Fits [] []
  | one {item : Item} {items : List Item} {c : Char} {rest : List Char} (other : item ≠ .star)
      (holds : item.holds c = true) (further : Fits items rest) : Fits (item :: items) (c :: rest)
  | star {items : List Item} {rest : List Char} (run : List Char) (further : Fits items rest) :
      Fits (.star :: items) (run ++ rest)

section Names

variable {item : Item} {items : List Item} {name rest : List Char}

theorem endsThatFit_item (other : item ≠ .star) (name : List Char) (items : List Item) :
    endsThatFit name (item :: items) =
      List.zipWith (fun c fits => item.holds c && fits) name (endsThatFit name items).tail ++
        [false] := by
  cases item with
  | star => contradiction
  | any => rfl
  | literal d => rfl
  | oneOf negated ranges => rfl

theorem endsThatFit_ne_nil (name : List Char) (items : List Item) :
    endsThatFit name items ≠ [] := by
  induction items with
  | nil => simp [endsThatFit]
  | cons item items ih =>
    by_cases star : item = .star
    · rw [star, endsThatFit]
      cases ends : endsThatFit name items with
      | nil => contradiction
      | cons b later => exact List.cons_ne_nil _ _
    · simp [endsThatFit_item star]

theorem endsThatFit_nil (items : List Item) : endsThatFit [] items = [fits items []] := by
  have single : ∃ b, endsThatFit [] items = [b] := by
    induction items with
    | nil => exact ⟨true, rfl⟩
    | cons item items ih =>
      obtain ⟨b, whole⟩ := ih
      by_cases star : item = .star
      · exact ⟨_, by rw [star, endsThatFit, whole]; rfl⟩
      · exact ⟨_, by rw [endsThatFit_item star, whole]; rfl⟩
  obtain ⟨b, whole⟩ := single
  rw [fits, whole]
  rfl

/-- The answers for the ends of a name are those for its rest, with one more in front. -/
theorem endsThatFit_cons (c : Char) (rest : List Char) (items : List Item) :
    endsThatFit (c :: rest) items = fits items (c :: rest) :: endsThatFit rest items := by
  have grown : ∃ b, endsThatFit (c :: rest) items = b :: endsThatFit rest items := by
    induction items with
    | nil => exact ⟨false, rfl⟩
    | cons item items ih =>
      obtain ⟨b, whole⟩ := ih
      by_cases star : item = .star
      · exact ⟨_, by rw [star, endsThatFit, whole]; rfl⟩
      · rw [endsThatFit_item star, endsThatFit_item star, whole, List.tail_cons]
        cases ends : endsThatFit rest items with
        | nil => exact absurd ends (endsThatFit_ne_nil rest items)
        | cons b' later => exact ⟨_, rfl⟩
  obtain ⟨b, whole⟩ := grown
  rw [fits, whole]
  rfl

theorem fits_nil_iff : fits [] name = true ↔ name = [] := by
  cases name with
  | nil => simp [fits, endsThatFit]
  | cons c rest => simp [fits, endsThatFit]

theorem fits_star_nil (items : List Item) : fits (.star :: items) [] = fits items [] := by
  rw [fits, endsThatFit, endsThatFit_nil]
  cases fits items [] <;> rfl

theorem fits_star_cons (c : Char) (rest : List Char) (items : List Item) :
    fits (.star :: items) (c :: rest) = (fits items (c :: rest) || fits (.star :: items) rest) := by
  conv_lhs => rw [fits, endsThatFit, endsThatFit_cons, anyLater]
  rfl

theorem fits_item_nil (other : item ≠ .star) (items : List Item) :
    fits (item :: items) [] = false := by
  rw [fits, endsThatFit_item other]
  rfl

theorem fits_item_cons (other : item ≠ .star) (c : Char) (rest : List Char) (items : List Item) :
    fits (item :: items) (c :: rest) = (item.holds c && fits items rest) := by
  rw [fits, endsThatFit_item other, endsThatFit_cons, List.tail_cons]
  cases rest with
  | nil => rw [endsThatFit_nil]; rfl
  | cons d more => rw [endsThatFit_cons]; rfl

theorem fits_star_append (run : List Char) (fit : fits items rest = true) :
    fits (.star :: items) (run ++ rest) = true := by
  induction run with
  | nil =>
    cases rest with
    | nil => rw [List.append_nil, fits_star_nil, fit]
    | cons c rest => rw [List.nil_append, fits_star_cons, fit, Bool.true_or]
  | cons c run ih => rw [List.cons_append, fits_star_cons, ih, Bool.or_true]

theorem fits_iff_fits : fits items name = true ↔ Fits items name := by
  constructor
  · intro fit
    induction items generalizing name with
    | nil =>
      rw [fits_nil_iff.mp fit]
      exact .nil
    | cons item items ih =>
      by_cases star : item = .star
      · -- the star takes what stands in front of the first end that fits
        subst star
        induction name with
        | nil => exact .star [] (ih (fits_star_nil items ▸ fit))
        | cons c rest shorter =>
          rw [fits_star_cons, Bool.or_eq_true] at fit
          rcases fit with here | later
          · exact .star [] (ih here)
          · cases shorter later with
            | one other _ _ => contradiction
            | star run further => exact .star (c :: run) further
      · cases name with
        | nil => simp [fits_item_nil star] at fit
        | cons c rest =>
          rw [fits_item_cons star, Bool.and_eq_true] at fit
          exact .one star fit.1 (ih fit.2)
  · intro fit
    induction fit with
    | nil => rfl
    | one other holds _ ih => rw [fits_item_cons other, holds, ih, Bool.and_self]
    | star run _ ih => exact fits_star_append run ih

end Names

/-- An entry of a list that passes a test. One in front of it hides it if its own test fails, unless
the failure means that nothing is there. -/
inductive Passes (test : Listed → Except Obstacle Bool) : List Listed → Listed → Prop where
  | here {e : Listed} {rest : List Listed} (passes : test e = .ok true) : Passes test (e :: rest) e
  | later {e other : Listed} {rest : List Listed}
      (clear : ∀ obstacle, test other = .error obstacle → obstacle.meansNothing = true)
      (further : Passes test rest e) : Passes test (other :: rest) e

/-- An entry of a folder on which a search comes. -/
def Offers (sys : System) (test : Listed → Except Obstacle Bool) (p : Path) (e : Listed) : Prop :=
  ∃ entries, sys.list p = .ok entries ∧ Passes test entries e

/-- A folder, and every folder in one that is below it. -/
inductive Below (sys : System) : Path → Path → Prop where
  | here (p : Path) : Below sys p p
  | within {p q : Path} {e : Listed} (offered : Offers sys Listed.isFolder p e)
      (further : Below sys (p.child e.name) q) : Below sys p q

/-- What a part of a pattern makes of a path. A file can be reached by the last part only. -/
inductive Step (sys : System) (isLast : Bool) : PatternPart → Path → Path → Prop where
  | slash (p : Path) : Step sys isLast .folderOnly p p
  | descend {p q : Path} (below : Below sys p q) : Step sys isLast .anyFolders p q
  | fit {items : List Item} {p : Path} {e : Listed}
      (offered : Offers sys (Listed.isPassable isLast) p e) (fit : Fits items e.name.toList) :
      Step sys isLast (.wildcard items) p (p.child e.name)
  | named {name : String} {p : Path} (passable : sys.isPassable isLast (p.child name) = .ok true) :
      Step sys isLast (.exact name) p (p.child name)

/-- The way along the parts of a pattern. -/
inductive Leads (sys : System) : List PatternPart → Path → Path → Prop where
  | done (p : Path) : Leads sys [] p p
  | step {part : PatternPart} {rest : List PatternPart} {p q r : Path}
      (first : Step sys rest.isEmpty part p q) (further : Leads sys rest q r) :
      Leads sys (part :: rest) p r

/-- A regular file to which a pattern leads from the target. -/
def Matches (sys : System) (target : Path) (pattern : String) (p : Path) : Prop :=
  ∃ parts, patternParts pattern = .ok parts ∧ Leads sys parts target p ∧ sys.isFile p = .ok true

namespace Search

variable {s later : Search} {next : Path → Search} {p q : Path} {fault : SearchFault}

theorem andThen_of_ended (ended : s.fault = none) :
    s.andThen later = { later with paths := s.paths ++ later.paths } := by
  rw [andThen, ended]

theorem andThen_of_fault (stopped : s.fault = some fault) : s.andThen later = s := by
  rw [andThen, stopped]

/-- Either every search that is gone through ends by itself, or one of them ends them all. -/
theorem through_fault (next : Path → Search) (s : Search) :
    (∀ p ∈ s.paths, (next p).fault = none) ∧ (s.through next).fault = s.fault ∨
      ∃ p ∈ s.paths, ∃ fault, (next p).fault = some fault ∧
        (s.through next).fault = some fault := by
  obtain ⟨paths, ending⟩ := s
  unfold through
  induction paths with
  | nil => exact .inl ⟨fun p member => absurd member List.not_mem_nil, rfl⟩
  | cons p rest ih =>
    rw [List.foldr_cons]
    cases own : (next p).fault with
    | some fault =>
      rw [andThen_of_fault own]
      exact .inr ⟨p, List.mem_cons_self, fault, own, own⟩
    | none =>
      rw [andThen_of_ended own]
      rcases ih with ⟨all, same⟩ | ⟨q, member, fault, stopped, same⟩
      · exact .inl ⟨List.forall_mem_cons.mpr ⟨own, all⟩, same⟩
      · exact .inr ⟨q, List.mem_cons_of_mem p member, fault, stopped, same⟩

theorem mem_through (ended : ∀ p ∈ s.paths, (next p).fault = none) :
    q ∈ (s.through next).paths ↔ ∃ p ∈ s.paths, q ∈ (next p).paths := by
  obtain ⟨paths, ending⟩ := s
  unfold through
  induction paths with
  | nil => simp
  | cons p rest ih =>
    obtain ⟨own, all⟩ := List.forall_mem_cons.mp ended
    rw [List.foldr_cons, andThen_of_ended own, List.exists_mem_cons_iff, ← ih all,
      List.mem_append]

@[simp] theorem tolerant_paths (s : Search) : s.tolerant.paths = s.paths := by
  unfold tolerant
  split <;> rfl

theorem tolerant_fault (stopped : s.tolerant.fault = some fault) : fault.isDenial = false := by
  unfold tolerant at stopped
  split at stopped
  · contradiction
  · rename_i other
    simpa [stopped] using other

@[simp] theorem mem_distinct : q ∈ s.distinct.paths ↔ q ∈ s.paths := List.mem_eraseDups

/-- Where the searches that are gone through pass over what is refused, all of them end by
themselves if the whole does, and what led to them ends so too or is refused. -/
theorem ended_of_through
    (calm : ∀ p fault, (next p).fault = some fault → fault.isDenial = false)
    (ended : (s.through next).tolerant.fault = none) :
    (∀ p ∈ s.paths, (next p).fault = none) ∧ s.tolerant.fault = none := by
  rcases through_fault next s with ⟨all, same⟩ | ⟨p, _, fault, stopped, same⟩
  · refine ⟨all, ?_⟩
    unfold tolerant at ended ⊢
    rw [same] at ended
    split <;> simp_all
  · have kept : (s.through next).tolerant = s.through next := by
      simp [tolerant, same, calm p fault stopped]
    rw [kept, same] at ended
    contradiction

end Search

section Search

variable {sys : System} {isLast : Bool} {part : PatternPart} {parts : List PatternPart} {p q : Path}
  {test : Listed → Except Obstacle Bool} {isWanted : String → Bool} {entries : List Listed}

theorem passes_cons_iff {e other : Listed} {rest : List Listed} :
    Passes test (other :: rest) e ↔ e = other ∧ test other = .ok true ∨
      (∀ obstacle, test other = .error obstacle → obstacle.meansNothing = true) ∧
        Passes test rest e := by
  constructor
  · rintro (passes | ⟨clear, further⟩)
    · exact .inl ⟨rfl, passes⟩
    · exact .inr ⟨clear, further⟩
  · rintro (⟨rfl, passes⟩ | ⟨clear, further⟩)
    · exact .here passes
    · exact .later clear further

theorem mem_sift_cons {e : Listed} {rest : List Listed} :
    q ∈ (sift p test isWanted (e :: rest)).paths ↔
      (test e = .ok true ∧ isWanted e.name = true ∧ q = p.child e.name) ∨
        (∀ obstacle, test e = .error obstacle → obstacle.meansNothing = true) ∧
          q ∈ (sift p test isWanted rest).paths := by
  rw [sift]
  cases tested : test e with
  | error obstacle =>
    by_cases nothing : obstacle.meansNothing = true
    · simp [nothing]
    · simp [nothing, Search.stopped]
  | ok passes =>
    by_cases chosen : passes = true ∧ isWanted e.name = true
    · simp [chosen.1, chosen.2, Search.one, Search.andThen]
    · cases passes <;> simp_all

theorem mem_sift : q ∈ (sift p test isWanted entries).paths ↔
    ∃ e, Passes test entries e ∧ isWanted e.name = true ∧ q = p.child e.name := by
  induction entries with
  | nil =>
    constructor
    · intro found
      contradiction
    · rintro ⟨e, passes, _⟩
      contradiction
  | cons e rest ih =>
    rw [mem_sift_cons, ih]
    simp only [passes_cons_iff]
    constructor
    · rintro (⟨passes, wanted, rfl⟩ | ⟨clear, other, further, wanted⟩)
      · exact ⟨e, .inl ⟨rfl, passes⟩, wanted, rfl⟩
      · exact ⟨other, .inr ⟨clear, further⟩, wanted⟩
    · rintro ⟨other, ⟨rfl, passes⟩ | ⟨clear, further⟩, wanted⟩
      · exact .inl ⟨passes, wanted⟩
      · exact .inr ⟨clear, other, further, wanted⟩

theorem mem_siftFolder : q ∈ (sys.siftFolder p test isWanted).paths ↔
    ∃ e, Offers sys test p e ∧ isWanted e.name = true ∧ q = p.child e.name := by
  unfold System.siftFolder Offers
  cases listed : sys.list p with
  | error obstacle => simp [Search.stopped]
  | ok entries => simp [mem_sift]

theorem foldersFrom_fault {depth : Nat} {fault : SearchFault}
    (stopped : (sys.foldersFrom depth p).fault = some fault) : fault.isDenial = false := by
  cases depth with
  | zero =>
    cases stopped
    rfl
  | succ depth =>
    rw [System.foldersFrom, Search.andThen_of_ended rfl] at stopped
    exact Search.tolerant_fault stopped

theorem mem_foldersFrom {depth : Nat} (ended : (sys.foldersFrom depth p).fault = none) :
    q ∈ (sys.foldersFrom depth p).paths ↔ Below sys p q := by
  induction depth generalizing p with
  | zero => contradiction
  | succ depth ih =>
    rw [System.foldersFrom, Search.andThen_of_ended rfl] at ended ⊢
    have each := (Search.ended_of_through (fun p fault => foldersFrom_fault) ended).1
    simp only [Search.one, List.singleton_append, List.mem_cons, Search.tolerant_paths,
      Search.mem_through each]
    constructor
    · rintro (rfl | ⟨r, among, member⟩)
      · exact .here q
      · obtain ⟨e, offered, _, rfl⟩ := mem_siftFolder.mp among
        exact .within offered ((ih (each _ among)).mp member)
    · intro below
      cases below with
      | here => exact .inl rfl
      | @within _ _ e offered further =>
        have among : p.child e.name ∈
            (sys.siftFolder p Listed.isFolder fun _ => true).paths :=
          mem_siftFolder.mpr ⟨e, offered, rfl, rfl⟩
        exact .inr ⟨_, among, (ih (each _ among)).mpr further⟩

theorem step_exact_iff {name : String} : Step sys isLast (.exact name) p q ↔
    q = p.child name ∧ sys.isPassable isLast (p.child name) = .ok true := by
  constructor
  · intro step
    cases step with
    | named passable => exact ⟨rfl, passable⟩
  · rintro ⟨rfl, passable⟩
    exact .named passable

theorem mem_advance (ended : part = .anyFolders → (sys.advance isLast part p).fault = none) :
    q ∈ (sys.advance isLast part p).paths ↔ Step sys isLast part p q := by
  cases part with
  | folderOnly =>
    rw [System.advance, Search.one, List.mem_singleton]
    constructor
    · rintro rfl
      exact .slash q
    · rintro ⟨⟩
      rfl
  | anyFolders =>
    rw [System.advance, mem_foldersFrom (ended rfl)]
    constructor
    · exact .descend
    · intro step
      cases step with
      | descend below => exact below
  | wildcard items =>
    rw [System.advance, mem_siftFolder]
    constructor
    · rintro ⟨e, offered, fit, rfl⟩
      exact .fit offered (fits_iff_fits.mp fit)
    · intro step
      cases step with
      | fit offered fit => exact ⟨_, offered, fits_iff_fits.mpr fit, rfl⟩
  | exact name =>
    rw [System.advance, step_exact_iff]
    cases sys.isPassable isLast (p.child name) with
    | error fault => simp [Search.stopped]
    | ok passable => cases passable <;> simp [Search.one]

theorem select_fault {fault : SearchFault} (stopped : (sys.select parts p).fault = some fault) :
    fault.isDenial = false := by
  cases parts with
  | nil => contradiction
  | cons part rest => exact Search.tolerant_fault stopped

theorem mem_select (ended : (sys.select parts p).fault = none) :
    q ∈ (sys.select parts p).paths ↔ Leads sys parts p q := by
  induction parts generalizing p with
  | nil =>
    rw [System.select, Search.one, List.mem_singleton]
    constructor
    · rintro rfl
      exact .done q
    · rintro ⟨⟩
      rfl
  | cons part rest ih =>
    obtain ⟨each, own⟩ := Search.ended_of_through (fun p fault => select_fault) ended
    have advanced (r : Path) : r ∈ (sys.advance rest.isEmpty part p).paths ↔
        Step sys rest.isEmpty part p r := by
      apply mem_advance
      rintro rfl
      cases stopped : (sys.foldersFrom sys.depth p).fault with
      | none => exact stopped
      | some fault =>
        have real := foldersFrom_fault stopped
        simp [System.advance, Search.tolerant, stopped, real] at own
    rw [System.select, Search.mem_distinct, Search.tolerant_paths, Search.mem_through each]
    constructor
    · rintro ⟨r, first, member⟩
      exact .step ((advanced r).mp first) ((ih (each r first)).mp member)
    · intro leads
      cases leads with
      | @step _ _ _ r _ first further =>
        have among := (advanced r).mpr first
        exact ⟨r, among, (ih (each r among)).mpr further⟩

theorem mem_regular {paths found : List Path} (judged : sys.regular paths = .ok found) :
    p ∈ found ↔ p ∈ paths ∧ sys.isFile p = .ok true := by
  induction paths generalizing found with
  | nil =>
    cases judged
    simp
  | cons first rest ih =>
    unfold System.regular at judged
    cases own : sys.isFile first with
    | error fault => simp [own] at judged
    | ok isFile =>
      cases later : sys.regular rest with
      | error fault => simp [own, later, Except.map] at judged
      | ok kept =>
        rw [own, later] at judged
        cases judged
        have front : p = first ∧ sys.isFile p = .ok true ↔ p = first ∧ isFile = true := by
          apply and_congr_right
          rintro rfl
          rw [own, Except.ok.injEq]
        rw [List.mem_cons, or_and_right, ← ih later, front]
        cases isFile <;> simp

/-- The search of a folder finds what the pattern matches, unless a fault ends it. -/
theorem mem_glob {target : Path} {pattern : String} {found : List Path}
    (isFolder : sys.isFolder target = .ok true) (searched : sys.glob target pattern = .ok found) :
    p ∈ found ↔ Matches sys target pattern p := by
  unfold System.glob at searched
  cases read : patternParts pattern with
  | error fault => simp [read] at searched
  | ok parts =>
    simp only [read, System.searchFiles, isFolder] at searched
    cases judged : sys.regular (sys.select parts target).paths with
    | error fault => simp [judged, Except.mapError] at searched
    | ok kept =>
      cases ended : (sys.select parts target).fault with
      | some fault => simp [judged, ended, Except.mapError] at searched
      | none =>
        rw [judged, ended] at searched
        cases searched
        rw [mem_regular judged, mem_select ended]
        constructor
        · rintro ⟨leads, file⟩
          exact ⟨parts, read, leads, file⟩
        · rintro ⟨parts', read', leads, file⟩
          cases read.symm.trans read'
          exact ⟨leads, file⟩

end Search

end JqTemplate.Files
