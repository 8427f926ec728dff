import JqTemplate.Files.Tree
import JqTemplate.Proofs.Matching
import JqTemplate.Proofs.Outcomes

namespace JqTemplate.Files

/-- No folder lists a name that means a step upward. -/
def System.IsPlain (sys : System) : Prop :=
  ∀ p entries, sys.list p = .ok entries → ∀ e ∈ entries, e.name ≠ Path.upward

def Tree.IsPlain (t : Tree) : Prop := ∀ e ∈ t.entries, Path.upward ∉ e.1

def Path.below (p : Path) (names : List String) : Path := { p with parts := p.parts ++ names }

section Downward

variable {sys : System} {isLast : Bool} {part : PatternPart} {p q : Path} {e : Listed}
  {test : Listed → Except Obstacle Bool}

@[simp] theorem Path.below_nil (p : Path) : p.below [] = p := by
  rw [Path.below, List.append_nil]

theorem Path.below_below (p : Path) (xs ys : List String) :
    (p.below xs).below ys = p.below (xs ++ ys) := by
  simp [Path.below]

theorem Passes.mem {entries : List Listed} (passes : Passes test entries e) : e ∈ entries := by
  induction passes with
  | here _ => exact List.mem_cons_self
  | later _ _ ih => exact List.mem_cons_of_mem _ ih

theorem Offers.forward (plain : sys.IsPlain) (offered : Offers sys test p e) :
    Path.upward ∉ [e.name] := by
  obtain ⟨entries, listed, passes⟩ := offered
  rw [List.mem_singleton]
  exact (plain p entries listed e passes.mem).symm

theorem Below.downward (plain : sys.IsPlain) (below : Below sys p q) :
    ∃ names, q = p.below names ∧ Path.upward ∉ names := by
  induction below with
  | here p => exact ⟨[], p.below_nil.symm, List.not_mem_nil⟩
  | @within p q e offered _ ih =>
    obtain ⟨names, rfl, forward⟩ := ih
    refine ⟨[e.name] ++ names, p.below_below [e.name] names, ?_⟩
    rw [List.mem_append, not_or]
    exact ⟨offered.forward plain, forward⟩

theorem Step.downward (plain : sys.IsPlain) (other : part ≠ .exact Path.upward)
    (step : Step sys isLast part p q) : ∃ names, q = p.below names ∧ Path.upward ∉ names := by
  cases step with
  | slash => exact ⟨[], p.below_nil.symm, List.not_mem_nil⟩
  | descend below => exact below.downward plain
  | @fit _ _ e offered fit => exact ⟨[e.name], rfl, offered.forward plain⟩
  | @named name _ passable =>
    refine ⟨[name], rfl, ?_⟩
    rw [List.mem_singleton]
    rintro rfl
    contradiction

theorem Leads.downward (plain : sys.IsPlain) {parts : List PatternPart}
    (other : .exact Path.upward ∉ parts) (leads : Leads sys parts p q) :
    ∃ names, q = p.below names ∧ Path.upward ∉ names := by
  induction leads with
  | done p => exact ⟨[], p.below_nil.symm, List.not_mem_nil⟩
  | @step part rest p q r first further ih =>
    rw [List.mem_cons, not_or] at other
    obtain ⟨names, rfl, here⟩ := first.downward plain (Ne.symm other.1)
    obtain ⟨more, rfl, there⟩ := ih other.2
    exact ⟨names ++ more, p.below_below names more, by simp [here, there]⟩

end Downward

theorem name_of_patternPart {part name : String} (read : patternPart part = .ok (.exact name)) :
    name = part := by
  unfold patternPart at read
  dsimp only at read
  split at read
  · cases read
  · split at read
    · cases read
    · split at read
      · cases read
      · cases read
        rfl

theorem name_of_patternParts {pattern name : String} {parts : List PatternPart}
    (read : patternParts pattern = .ok parts) (member : .exact name ∈ parts) :
    name ∈ (Path.ofString pattern).parts := by
  unfold patternParts at read
  dsimp only at read
  split at read
  · cases read
  · cases each : (Path.ofString pattern).parts.mapM patternPart with
    | error fault => simp [each, Except.map] at read
    | ok list =>
      rw [each] at read
      cases read
      have among : .exact name ∈ list := by
        simp only [List.cons_append, List.mem_cons, List.mem_append] at member
        rcases member with other | among | last
        · contradiction
        · exact among
        · split at last <;> simp at last
      obtain ⟨part, own, origin⟩ := (mem_mapM_iff each).mp among
      exact name_of_patternPart origin ▸ own

/-- No part of a pattern leads upward. -/
def Downward (pattern : String) : Prop := Path.upward ∉ (Path.ofString pattern).parts

section Below

variable {sys : System} {target p : Path} {pattern : String}

theorem Matches.isFile (found : Matches sys target pattern p) : sys.isFile p = .ok true := by
  obtain ⟨_, _, _, file⟩ := found
  exact file

theorem Matches.downward (plain : sys.IsPlain) (downward : Downward pattern)
    (found : Matches sys target pattern p) :
    ∃ names, p = target.below names ∧ Path.upward ∉ names := by
  obtain ⟨parts, read, leads, _⟩ := found
  exact leads.downward plain fun member => downward (name_of_patternParts read member)

/-- A pattern that is one part with wildcards matches the files with a name that fits, in the target
and in every folder below it. -/
theorem matches_name_iff {items : List Item}
    (read : patternParts pattern = .ok [.anyFolders, .wildcard items]) :
    Matches sys target pattern p ↔
      ∃ folder e, Below sys target folder ∧ Offers sys (fun _ => .ok true) folder e ∧
        Fits items e.name.toList ∧ p = folder.child e.name ∧ sys.isFile p = .ok true := by
  constructor
  · rintro ⟨parts, read', leads, file⟩
    cases read.symm.trans read'
    cases leads with
    | step first further =>
      cases further with
      | step second done =>
        cases done
        cases first with
        | descend below =>
          cases second with
          | fit offered fit => exact ⟨_, _, below, offered, fit, rfl, file⟩
  · rintro ⟨folder, e, below, offered, fit, rfl, file⟩
    exact ⟨_, read, .step (.descend below) (.step (.fit offered fit) (.done _)), file⟩

example : patternParts "*.tmpl" = .ok [.anyFolders, .wildcard
    [.star, .literal '.', .literal 't', .literal 'm', .literal 'p', .literal 'l']] := rfl

end Below

namespace Tree

variable {t : Tree} {sys : System} {folder place goal : Place} {names : List String} {entry : Entry} {p q target : Path}
  {pattern pattern' : String}

theorem mem_children {name : String} :
    (name, entry) ∈ t.children place ↔ (place ++ [name], entry) ∈ t.entries := by
  unfold children
  rw [List.mem_filterMap]
  constructor
  · rintro ⟨⟨other, entry'⟩, among, found⟩
    simp only [Option.ite_none_right_eq_some, Option.map_eq_some_iff, Prod.mk.injEq] at found
    obtain ⟨front, last, ends, rfl, rfl⟩ := found
    obtain ⟨parts, rfl⟩ := List.getLast?_eq_some_iff.mp ends
    rw [List.dropLast_concat] at front
    exact front ▸ among
  · intro among
    exact ⟨(place ++ [name], entry), among, by simp⟩

/-- A system shows the files and folders of a tree, as they are seen from a folder. Some of them may
be closed to readers. -/
structure IsShown (t : Tree) (folder : Place) (sys : System) : Prop where
  stat : sys.stat = (t.system folder).stat
  list : sys.list = (t.system folder).list

theorem IsShown.isPlain (shown : t.IsShown folder sys) (plain : t.IsPlain) : sys.IsPlain := by
  intro p entries listed e member
  rw [shown.list] at listed
  dsimp only [system] at listed
  split at listed
  · cases listed
    obtain ⟨⟨name, entry⟩, among, rfl⟩ := List.mem_map.mp member
    have forward := plain _ (mem_children.mp among)
    rintro rfl
    simp at forward
  · cases listed
  · cases listed

theorem walk_append (t : Tree) (place : Place) (xs ys : List String) :
    t.walk place (xs ++ ys) = (t.walk place xs).bind fun found => t.walk found.1 ys := by
  induction xs generalizing place with
  | nil =>
    rw [List.nil_append, walk]
    cases here : t.entry? place with
    | some entry => rfl
    | none => cases ys <;> simp [walk, here, Except.bind]
  | cons x rest ih =>
    simp only [List.cons_append, walk]
    cases t.entry? place with
    | none => rfl
    | some entry =>
      cases entry with
      | file octets => rfl
      | folder =>
        dsimp only
        split
        · rfl
        · split
          · exact ih place.dropLast
          · exact ih (place ++ [x])

theorem walk_eq_of_plain (forward : Path.upward ∉ names)
    (reached : t.walk place names = .ok (goal, entry)) : goal = place ++ names := by
  induction names generalizing place with
  | nil =>
    unfold walk at reached
    split at reached
    · cases reached
      exact (List.append_nil _).symm
    · cases reached
  | cons name rest ih =>
    rw [List.mem_cons, not_or] at forward
    unfold walk at reached
    split at reached
    · cases reached
    · cases reached
    · split at reached
      · cases reached
      · rw [if_neg (Ne.symm forward.1)] at reached
        rw [ih forward.2 reached, List.append_assoc, List.singleton_append]

theorem find_below (forward : Path.upward ∉ names)
    (reached : t.find folder (p.below names) = .ok (goal, entry)) :
    ∃ place, (t.walk (if p.root = .relative then folder else []) p.parts).map Prod.fst = .ok place ∧
      goal = place ++ names := by
  unfold find at reached
  split at reached
  · cases reached
  · rw [Path.below, walk_append] at reached
    cases walked : t.walk (if p.root = .relative then folder else []) p.parts with
    | error obstacle => simp [walked, Except.bind] at reached
    | ok found =>
      rw [walked] at reached
      exact ⟨found.1, rfl, walk_eq_of_plain forward reached⟩

theorem IsShown.find (shown : t.IsShown folder sys) (file : sys.isFile p = .ok true) :
    ∃ goal entry, t.find folder p = .ok (goal, entry) := by
  unfold System.isFile System.leadsTo at file
  rw [shown.stat] at file
  cases found : t.find folder p with
  | ok result => exact ⟨result.1, result.2, rfl⟩
  | error obstacle =>
    simp only [system, found, Except.map] at file
    split at file
    · cases file
    · split at file <;> cases file

/-- Without steps upward one file has one path. -/
theorem IsShown.matches_unique (shown : t.IsShown folder sys) (plain : t.IsPlain)
    (downward : Downward pattern) (downward' : Downward pattern')
    (first : Matches sys target pattern p) (second : Matches sys target pattern' q)
    (same : t.find folder p = t.find folder q) : p = q := by
  obtain ⟨goal, entry, found⟩ := shown.find first.isFile
  have found' : t.find folder q = .ok (goal, entry) := same ▸ found
  obtain ⟨names, rfl, forward⟩ := first.downward (shown.isPlain plain) downward
  obtain ⟨names', rfl, forward'⟩ := second.downward (shown.isPlain plain) downward'
  obtain ⟨place, walked, ends⟩ := find_below forward found
  obtain ⟨place', walked', ends'⟩ := find_below forward' found'
  cases walked.symm.trans walked'
  rw [List.append_cancel_left (ends.symm.trans ends')]

end Tree

end JqTemplate.Files
