import JqTemplate.Command.Run
import JqTemplate.Proofs.Matching.Descent
import JqTemplate.Proofs.Order
import Mathlib.Data.List.Nodup
import Mathlib.Data.String.Basic

/-! The check of a folder. The paths that match a pattern are gone through once each, in their
order, and what is said of one file does not depend on the others, although one checker goes over
all of them. A file has two paths only where a pattern leads upward or a link does; then it is
checked twice. -/
namespace JqTemplate.Command

open Files (System Tree Place Path)

section Sorting

variable {paths : List Path} {p q : Path}

theorem nodup_eraseDups {α : Type} [BEq α] [LawfulBEq α] (xs : List α) : xs.eraseDups.Nodup := by
  -- what is left behind an element has been filtered, so the induction is on the length
  induction long : xs.length using Nat.strong_induction_on generalizing xs with
  | _ n ih =>
    cases xs with
    | nil => exact .nil
    | cons x rest =>
      rw [List.eraseDups_cons, List.nodup_cons]
      constructor
      · simp [List.mem_eraseDups]
      · apply ih _ _ _ rfl
        rw [← long]
        exact Nat.lt_succ_of_le (List.length_filter_le _ rest)

theorem paths_ranked : Ranks Path.before :=
  Ranks.of_key fun p : Path => p.root.text :: p.parts

theorem eq_of_key (same : p.root.text :: p.parts = q.root.text :: q.parts) : p = q := by
  obtain ⟨root, parts⟩ := p
  obtain ⟨root', parts'⟩ := q
  simp only [List.cons.injEq] at same
  have roots : root = root' := by
    revert same
    cases root <;> cases root' <;> simp [Files.Root.text]
  rw [roots, same.2]

theorem before_of_ne (other : p ≠ q) (notBehind : q.before p = false) : p.before q = true := by
  simp only [Path.before, decide_eq_false_iff_not, not_lt, decide_eq_true_eq] at notBehind ⊢
  exact lt_of_le_of_ne notBehind fun same => other (eq_of_key same)

theorem mem_sortedPaths : p ∈ sortedPaths paths ↔ p ∈ paths := by
  rw [sortedPaths, (stableSort_perm _ _).mem_iff, List.mem_eraseDups]

theorem sortedPaths_ascending (paths : List Path) :
    (sortedPaths paths).Pairwise fun p q => p.before q = true := by
  have distinct : (sortedPaths paths).Nodup :=
    (stableSort_perm _ _).nodup_iff.mpr (nodup_eraseDups paths)
  exact (distinct.and (paths_ranked.stableSort_ranked _)).imp fun both =>
    before_of_ne both.1 both.2

theorem nodup_of_ascending (ascending : paths.Pairwise fun p q => p.before q = true) :
    paths.Nodup := by
  apply ascending.imp
  rintro p _ before rfl
  simp [paths_ranked.asymm p p before] at before

end Sorting

section Choice

variable {sys : System} {target : Path} {patterns : List String}

theorem isFile_of_isFolder (isFolder : sys.isFolder target = .ok true) :
    sys.isFile target = .ok false := by
  unfold System.isFolder System.leadsTo at isFolder
  unfold System.isFile System.leadsTo
  split at isFolder
  · cases isFolder
  · next whole =>
    rw [if_neg whole]
    cases there : sys.stat target with
    | ok kind => simp_all
    | error obstacle =>
      rw [there] at isFolder
      dsimp only at isFolder
      split at isFolder <;> cases isFolder

theorem glob_error {pattern : String} {parts : List Files.PatternPart} {fault : Files.GlobFault}
    (read : Files.patternParts pattern = .ok parts)
    (failed : sys.glob target pattern = .error fault) : ∃ cause, fault = .search cause := by
  unfold System.glob at failed
  rw [read] at failed
  dsimp only at failed
  cases searched : sys.searchFiles parts target with
  | error cause =>
    rw [searched] at failed
    cases failed
    exact ⟨cause, rfl⟩
  | ok found => simp [searched, Except.mapError] at failed

theorem templates_of_folder (isFolder : sys.isFolder target = .ok true)
    (accepted : ∀ pattern ∈ patterns, ∃ parts, Files.patternParts pattern = .ok parts) :
    (∃ pattern ∈ patterns, ∃ fault, sys.glob target pattern = .error (.search fault) ∧
      templates sys patterns target = .error (.search fault)) ∨
    ∃ paths, templates sys patterns target = .ok paths ∧
      (∀ p, p ∈ paths ↔ ∃ pattern ∈ patterns, Files.Matches sys target pattern p) ∧
      paths.Pairwise fun p q => p.before q = true := by
  have chosen : templates sys patterns target =
      (patterns.mapM (sys.glob target)).map fun found => sortedPaths found.flatten := by
    rw [templates, isFile_of_isFolder isFolder]
  rw [chosen]
  cases searched : patterns.mapM (sys.glob target) with
  | error fault =>
    obtain ⟨pattern, own, failed⟩ := mapM_eq_error searched
    obtain ⟨parts, read⟩ := accepted pattern own
    obtain ⟨cause, rfl⟩ := glob_error read failed
    exact .inl ⟨pattern, own, cause, failed, rfl⟩
  | ok founds =>
    refine .inr ⟨sortedPaths founds.flatten, rfl, fun p => ?_, sortedPaths_ascending _⟩
    rw [mem_sortedPaths, List.mem_flatten]
    constructor
    · rintro ⟨found, among, member⟩
      obtain ⟨pattern, own, result⟩ := (mem_mapM_iff searched).mp among
      exact ⟨pattern, own, (Files.mem_glob isFolder result).mp member⟩
    · rintro ⟨pattern, own, fit⟩
      obtain ⟨found, result⟩ := mapM_ok_iff.mp ⟨founds, searched⟩ pattern own
      exact ⟨found, (mem_mapM_iff searched).mpr ⟨pattern, own, result⟩,
        (Files.mem_glob isFolder result).mpr fit⟩

theorem places_distinct {t : Tree} {folder : Place} (shown : t.IsShown folder sys)
    (plain : t.IsPlain) (downward : ∀ pattern ∈ patterns, Files.Downward pattern)
    {paths : List Path}
    (matched : ∀ p ∈ paths, ∃ pattern ∈ patterns, Files.Matches sys target pattern p)
    (ascending : paths.Pairwise fun p q => p.before q = true) :
    (paths.map (t.find folder)).Nodup := by
  apply List.Nodup.map_on _ (nodup_of_ascending ascending)
  intro p first q second same
  obtain ⟨pattern, own, fit⟩ := matched p first
  obtain ⟨pattern', own', fit'⟩ := matched q second
  exact shown.matches_unique plain (downward pattern own) (downward pattern' own') fit fit' same

end Choice

section Telling

variable (read : Path → Except ReadFault Source) (config : CheckConfig) (color : Bool)

/-- What a checker that has seen no other text says of one. -/
def alone (source : Source) : CheckResult :=
  ((Checker.mk config [] []).check (JqTemplate.parse source.text) source.text).1

/-- What is said of a file alone: why it cannot be read, or what the checker finds in it. -/
def fileLines (path : Path) : List String :=
  match read path with
  | .error fault => [unreadable path fault]
  | .ok source => (alone config source).diagnostics.map (Report.render color source)

def Fails (path : Path) : Prop :=
  match read path with
  | .error _ => True
  | .ok source => ∃ d ∈ (alone config source).diagnostics, d.severity = .error

/-- The files are reported one behind the other, and one that fails makes the run fail. -/
structure ReportsEach (paths : List Path) (o : Output) : Prop where
  stderr : o.stderr = String.join (paths.map fun path => ended (fileLines read config color path))
  status : o.status = 1 ↔ ∃ path ∈ paths, Fails read config path
  passing : (¬ ∃ path ∈ paths, Fails read config path) →
    o.status = 0 ∧ o.stdout = ended [summaryLine paths.length]

variable {read config color} {p : Progress} {path : Path} {paths : List Path}

theorem check_alone (c : Checker) (source : Source) :
    (c.check (JqTemplate.parse source.text) source.text).1 = alone c.config source := by
  rw [alone, Checker.check_eq, Checker.check_eq]

theorem step_config : (p.step read color path).checker.config = p.checker.config := by
  unfold Progress.step
  cases read path with
  | error fault => rfl
  | ok source => rfl

theorem step_lines : (p.step read color path).lines =
    p.lines ++ fileLines read p.checker.config color path := by
  unfold Progress.step fileLines
  cases read path with
  | error fault => rfl
  | ok source =>
    dsimp only
    rw [check_alone]

theorem step_failed : (p.step read color path).failed = true ↔
    p.failed = true ∨ Fails read p.checker.config path := by
  unfold Progress.step Fails
  cases read path with
  | error fault => simp
  | ok source =>
    dsimp only
    rw [check_alone]
    simp [CheckResult.hasErrors]

theorem run_lines : (paths.foldl (Progress.step read color) p).lines =
    p.lines ++ paths.flatMap (fileLines read p.checker.config color) := by
  induction paths generalizing p with
  | nil => simp
  | cons path rest ih =>
    rw [List.foldl_cons, ih, step_config, step_lines, List.flatMap_cons, List.append_assoc]

theorem run_failed : (paths.foldl (Progress.step read color) p).failed = true ↔
    p.failed = true ∨ ∃ path ∈ paths, Fails read p.checker.config path := by
  induction paths generalizing p with
  | nil => simp
  | cons path rest ih =>
    rw [List.foldl_cons, ih, step_config, step_failed, List.exists_mem_cons_iff, or_assoc]

theorem ended_append (xs ys : List String) : ended (xs ++ ys) = ended xs ++ ended ys := by
  rw [ended, List.map_append, String.join_append]
  rfl

theorem ended_flatMap {α : Type} (f : α → List String) (xs : List α) :
    ended (xs.flatMap f) = String.join (xs.map fun x => ended (f x)) := by
  induction xs with
  | nil => rfl
  | cons x rest ih =>
    rw [List.flatMap_cons, ended_append, ih, List.map_cons, String.join_cons]

theorem checkFiles_reports (nonempty : paths ≠ []) :
    ReportsEach read config color paths (checkFiles read config color paths) := by
  have whole : checkFiles read config color paths =
      (paths.foldl (Progress.step read color) { checker := ⟨config, [], []⟩ }).output
        paths.length := by
    simp [checkFiles, nonempty]
  have lines : (paths.foldl (Progress.step read color) { checker := ⟨config, [], []⟩ }).lines =
      paths.flatMap (fileLines read config color) := run_lines
  have failed :
      (paths.foldl (Progress.step read color) { checker := ⟨config, [], []⟩ }).failed = true ↔
        ∃ path ∈ paths, Fails read config path := by
    rw [run_failed]
    simp
  rw [whole]
  unfold Progress.output
  constructor
  · rw [← ended_flatMap, ← lines]
    split <;> rfl
  · rw [← failed]
    split
    · next fails => simp [fails]
    · next passes => simp [passes]
  · intro passes
    rw [← failed] at passes
    rw [if_neg passes]
    exact ⟨rfl, rfl⟩

end Telling

/-- The check of a folder whose patterns are all accepted: the regular files that some pattern
matches, each of their paths once and in order, reported as if each were checked alone. Only a search
that the system does not let come to its end keeps it from that. -/
theorem check_folder (sys : System) (color : Bool) {target : Path} {config : Config}
    (isFolder : sys.isFolder target = .ok true)
    (configured : Config.for? sys target = .ok config)
    (accepted : ∀ pattern ∈ config.patterns, ∃ parts, Files.patternParts pattern = .ok parts) :
    (∃ pattern ∈ config.patterns, ∃ fault, sys.glob target pattern = .error (.search fault) ∧
      inspect sys color target = .error (.pattern (.search fault))) ∨
    ∃ paths o, inspect sys color target = .ok o ∧
      (∀ p, p ∈ paths ↔ ∃ pattern ∈ config.patterns, Files.Matches sys target pattern p) ∧
      (paths.Pairwise fun p q => p.before q = true) ∧
      (paths = [] → o = nothingFound) ∧
      (paths ≠ [] → ReportsEach (readSource sys) config.check color paths o) ∧
      ∀ (t : Tree) (folder : Place), t.IsShown folder sys → t.IsPlain →
        (∀ pattern ∈ config.patterns, Files.Downward pattern) →
          (paths.map (t.find folder)).Nodup := by
  rcases templates_of_folder isFolder accepted with
    ⟨pattern, own, fault, searched, failed⟩ | ⟨paths, chosen, matched, ascending⟩
  · refine .inl ⟨pattern, own, fault, searched, ?_⟩
    simp only [inspect, configured, failed]
  · refine .inr ⟨paths, checkFiles (readSource sys) config.check color paths, ?_, matched,
      ascending, ?_, checkFiles_reports, ?_⟩
    · simp only [inspect, configured, chosen]
    · rintro rfl
      rfl
    · intro t folder shown plain downward
      exact places_distinct shown plain downward (fun p member => (matched p).mp member) ascending

/-- A file that may not be read, one that holds no text, a faulty one and one in a folder of its
own. -/
theorem check_folder_unreadable :
    let t : Tree := ⟨[(["d"], .folder), (["d", "a.jqtpl"], .file [120]), (["d", "b.tmpl"], .file [255]),
      (["d", "c.jqtpl"], .file [123, 123, 35, 125, 125]), (["d", "e"], .folder),
      (["d", "e", "a.jqtpl"], .file [120]), (["d", "notes"], .file [120])]⟩
    let sys : System := (t.system []).closing ⟨.relative, ["d", "a.jqtpl"]⟩
    let target : Path := ⟨.relative, ["d"]⟩
    sys.isFolder target = .ok true ∧ Config.for? sys target = .ok {} ∧
      ∃ paths o, inspect sys false target = .ok o ∧
        (∀ p, p ∈ paths ↔ ∃ pattern ∈ ["*.jqtpl", "*.tmpl"], Files.Matches sys target pattern p) ∧
        (paths.Pairwise fun p q => p.before q = true) ∧
        (paths ≠ [] → ReportsEach (readSource sys) {} false paths o) ∧
        (paths.map (t.find [])).Nodup := by
  intro t sys target
  have isFolder : sys.isFolder target = .ok true := by rfl
  have configured : Config.for? sys target = .ok {} := eq_ok_of_toOption (by decide +kernel)
  have searched : ∀ pattern ∈ ({} : Config).patterns,
      (∃ parts, Files.patternParts pattern = .ok parts) ∧
        ∃ found, sys.glob target pattern = .ok found := by
    intro pattern member
    rcases List.mem_cons.mp member with rfl | member
    · refine ⟨⟨_, rfl⟩, [⟨.relative, ["d", "a.jqtpl"]⟩, ⟨.relative, ["d", "c.jqtpl"]⟩,
        ⟨.relative, ["d", "e", "a.jqtpl"]⟩], eq_ok_of_toOption ?_⟩
      decide +kernel
    · obtain rfl := List.mem_singleton.mp member
      refine ⟨⟨_, rfl⟩, [⟨.relative, ["d", "b.tmpl"]⟩], eq_ok_of_toOption ?_⟩
      decide +kernel
  have plain : t.IsPlain := by
    unfold Tree.IsPlain
    decide
  have downward : ∀ pattern ∈ ({} : Config).patterns, Files.Downward pattern := by
    unfold Files.Downward
    decide
  rcases check_folder sys false isFolder configured fun pattern own => (searched pattern own).1 with
    ⟨pattern, own, fault, failed, _⟩ | ⟨paths, o, outcome, matched, ascending, _, each, distinct⟩
  · obtain ⟨found, ends⟩ := (searched pattern own).2
    exact nomatch failed.symm.trans ends
  · exact ⟨isFolder, configured, paths, o, outcome, matched, ascending, each,
      distinct t [] ⟨rfl, rfl⟩ plain downward⟩

/-- A pattern that leads into a folder and out again: the only template is checked twice. -/
theorem one_template_counted_twice :
    let octets : List Nat :=
      "[files]\npatterns = [\"*.jqtpl\", \"s/../*.jqtpl\"]".toList.map Char.toNat
    let t : Tree := ⟨[(["d"], .folder), (["d", "a.jqtpl"], .file [120]), (["d", "s"], .folder),
      (["jqtpl.toml"], .file octets)]⟩
    let paths : List Path :=
      [⟨.relative, ["d", "a.jqtpl"]⟩, ⟨.relative, ["d", "s", "..", "a.jqtpl"]⟩]
    templates (t.system []) ["*.jqtpl", "s/../*.jqtpl"] ⟨.relative, ["d"]⟩ = .ok paths ∧
      ¬ (paths.map (t.find [])).Nodup ∧
      (inspect (t.system []) false ⟨.relative, ["d"]⟩).toOption =
        some { stdout := ended [summaryLine 2] } := by
  exact ⟨eq_ok_of_toOption (by decide +kernel), by decide, by decide +kernel⟩

end JqTemplate.Command
