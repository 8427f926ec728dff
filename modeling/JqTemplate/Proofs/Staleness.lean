import JqTemplate.Proofs.Session
import JqTemplate.Server.Uri

/-! Changes that come too late. A stale change is found out only after the configuration of its
folder was had, which can fail for a document that is open: an opening in the folder drops the
configuration, and when it cannot be loaded again there is none. -/
namespace JqTemplate.Server

open Files (Path)

/-- An opening in a folder dropped its configuration, and nothing since could load it. -/
def Dropped (names : NameReader) (session : List Arrival) (folder : Path) : Prop :=
  ∃ before opening after, session = before ++ opening :: after ∧
    opening.notification.isOpening = true ∧ opening.notification.folder? names = some folder ∧
    ∀ a ∈ opening :: after, a.notification.folder? names = some folder →
      ∃ fault, a.load folder = .error fault

namespace Dropped

variable {names : NameReader} {session : List Arrival} {a : Arrival} {folder : Path}
  {fault : Config.Fault}

theorem opening (opens : a.notification.isOpening = true)
    (home : a.notification.folder? names = some folder) (failed : a.load folder = .error fault) :
    Dropped names (session ++ [a]) folder := by
  refine ⟨session, a, [], rfl, opens, home, ?_⟩
  intro b member _
  rw [List.mem_singleton.mp member]
  exact ⟨fault, failed⟩

theorem later (h : Dropped names session folder)
    (failed : a.notification.folder? names = some folder → ∃ fault, a.load folder = .error fault) :
    Dropped names (session ++ [a]) folder := by
  obtain ⟨before, first, after, split, opens, home, failing⟩ := h
  refine ⟨before, first, after ++ [a], by simp [split], opens, home, ?_⟩
  intro b member
  rcases List.mem_append.mp (List.cons_append ▸ member) with among | last
  · exact failing b among
  · rw [List.mem_singleton.mp last]
    exact failed

end Dropped

namespace State

variable {names : NameReader} {session : List Arrival} {load : Loader} {uri : String}
  {folder : Path} {d : Document}

theorem lookup_run_of_failing {s : State} {after : List Arrival}
    (missing : s.configs.lookup folder = none)
    (failing : ∀ a ∈ after, a.notification.folder? names = some folder →
      ∃ fault, a.load folder = .error fault) :
    (s.run names after).configs.lookup folder = none := by
  induction after generalizing s with
  | nil => exact missing
  | cons a rest ih =>
    refine ih ?_ fun b member => failing b (.tail a member)
    rw [next, lookup_notify]
    split
    · rename_i asked
      obtain ⟨fault, failed⟩ := failing a (.head rest) asked
      simp [missing, failed, Except.toOption, -List.lookup_eq_none_iff]
    · exact missing

theorem uncached_of_dropped (h : Dropped names session folder) :
    (State.start.run names session).configs.lookup folder = none := by
  obtain ⟨before, opening, after, rfl, opens, home, failing⟩ := h
  have split : State.start.run names (before ++ opening :: after) =
      ((State.start.run names before).next names opening).run names after := by
    simp [run, List.foldl_append]
  rw [split]
  refine lookup_run_of_failing ?_ fun a member => failing a (.tail opening member)
  obtain ⟨fault, failed⟩ := failing opening (.head after) home
  rw [next, lookup_notify, if_pos home, if_pos opens, failed]
  rfl

/-- What is stored was analyzed under the configuration of its folder, which is kept until an
opening drops it. -/
theorem dropped_of_uncached : (State.start.run names session).store.get? uri = some d →
    configFolder? names uri = some folder →
    (State.start.run names session).configs.lookup folder = none → Dropped names session folder := by
  refine run_induction (P := fun session s => s.store.get? uri = some d →
    configFolder? names uri = some folder → s.configs.lookup folder = none →
    Dropped names session folder) ?_ ?_ session
  · intro stored
    contradiction
  · intro session a ih stored home uncached
    rcases stored_of_notify stored with old | ⟨same, ⟨config, had⟩, _⟩
    · rw [next, lookup_notify] at uncached
      split at uncached
      · rename_i asked
        obtain ⟨missing, unloaded⟩ := Option.or_eq_none_iff.mp uncached
        obtain ⟨fault, failed⟩ := eq_error_of_toOption unloaded
        -- an opening drops what was kept; a change finds the folder as it was before
        by_cases opens : a.notification.isOpening = true
        · exact .opening opens asked failed
        · rw [if_neg opens] at missing
          exact (ih old home missing).later fun _ => ⟨fault, failed⟩
      · rename_i unasked
        exact (ih old home uncached).later fun asked => absurd asked unasked
    · -- a document stored just now had its configuration, which is kept
      exact absurd uncached (lookup_notify_of_ok had (same.trans home))

theorem named_of_stored : (State.start.run names session).store.get? uri = some d →
    ∃ home, names.folder? uri = .ok home := by
  refine run_induction (P := fun _ s => s.store.get? uri = some d →
    ∃ home, names.folder? uri = .ok home) ?_ ?_ session
  · intro stored
    contradiction
  · intro session a ih stored
    rcases stored_of_notify stored with old | ⟨_, _, named⟩
    · exact ih old
    · exact named

theorem configFor_error_of_stored (stored : (State.start.run names session).store.get? uri = some d)
    {fault : Fault} :
    ((State.start.run names session).configFor names load uri).2 = .error fault ↔
      ∃ folder cause, configFolder? names uri = some folder ∧ Dropped names session folder ∧
        load folder = .error cause ∧ .config cause = fault := by
  rw [configFor_error_iff]
  constructor
  · rintro (⟨cause, faulty, _⟩ | ⟨folder, cause, found, uncached, failed, rfl⟩)
    · obtain ⟨home, named⟩ := named_of_stored stored
      rw [named] at faulty
      contradiction
    · have home := configFolder?_eq_some.mpr found
      exact ⟨folder, cause, home, dropped_of_uncached stored home uncached, failed, rfl⟩
  · rintro ⟨folder, cause, home, dropped, failed, rfl⟩
    exact .inr ⟨folder, cause, configFolder?_eq_some.mp home, uncached_of_dropped dropped,
      failed, rfl⟩

/-- The configuration comes before the version, so that a stale change can fail. -/
theorem notify_stale {s : State} {version : Int} (changes : List Change)
    (stored : s.store.get? uri = some d) (stale : version ≤ d.version) :
    (s.notify names load (.changed uri version changes)).state.store = s.store ∧
    published (s.notify names load (.changed uri version changes)).events =
      match (s.configFor names load uri).2 with
      | .error fault => [.failure uri version fault]
      | .ok _ => [] := by
  have outcome := notify_outcome names load s (.changed uri version changes)
  have old := Store.isStale_iff.mpr ⟨d, stored, stale⟩
  rw [Handled.published_eq]
  generalize (s.notify names load (.changed uri version changes)).state.store = store,
    (s.notify names load (.changed uri version changes)).answers = led at outcome ⊢
  cases outcome with
  | unchanged failed =>
    rw [show (s.configFor names load uri).2 = .error _ from failed]
    exact ⟨rfl, rfl⟩
  | stale had =>
    rw [show (s.configFor names load uri).2 = .ok _ from had]
    exact ⟨rfl, rfl⟩
  | changed had new => exact absurd old new

end State

/-- A stale change keeps every document. It is silent unless an opening dropped the configuration of
its folder, which could not be loaded since and cannot be loaded now. Then a failure is shown under
the stale version. -/
theorem stale_change_silent_iff_configured (names : NameReader) (session : List Arrival)
    (load : Loader) (uri : String) (version : Int) (changes : List Change) (d : Document)
    (stored : (State.start.run names session).store.get? uri = some d)
    (stale : version ≤ d.version) :
    let after := (State.start.run names session).notify names load (.changed uri version changes)
    after.state.store = (State.start.run names session).store ∧
    (published after.events = [] ↔ ¬ ∃ folder cause, configFolder? names uri = some folder ∧
      Dropped names session folder ∧ load folder = .error cause) ∧
    ∀ folder cause, configFolder? names uri = some folder → Dropped names session folder →
      load folder = .error cause →
        published after.events = [.failure uri version (.config cause)] := by
  intro after
  obtain ⟨kept, shown⟩ := @State.notify_stale names load uri d _ version changes stored stale
  have failure := @State.configFor_error_of_stored names session load uri d stored
  refine ⟨kept, ?_, ?_⟩
  · rw [shown]
    cases found : ((State.start.run names session).configFor names load uri).2 with
    | error fault =>
      obtain ⟨folder, cause, home, dropped, failed, _⟩ := failure.mp found
      simp only [List.cons_ne_nil, false_iff, not_not]
      exact ⟨folder, cause, home, dropped, failed⟩
    | ok config =>
      refine iff_of_true rfl ?_
      rintro ⟨folder, cause, home, dropped, failed⟩
      rw [failure.mpr ⟨folder, cause, home, dropped, failed, rfl⟩] at found
      contradiction
  · intro folder cause home dropped failed
    rw [shown, failure.mpr ⟨folder, cause, home, dropped, failed, rfl⟩]

section FaultyConfiguration

def firstPage : String := "file:///pages/first.jqtpl"
def secondPage : String := "file:///pages/second.jqtpl"
def pagesFolder : Path := ⟨.single, ["pages"]⟩

def unfinishedTable : Config.Fault :=
  .complaint "/pages/jqtpl.toml"
    (.malformed "Expected ']' at the end of a table declaration (at end of document)")

def faultyLoader : Loader := fun _ => .error unfinishedTable

def faultyBetweenPages : List Arrival :=
  [⟨fun _ => .ok {}, .opened firstPage [] 5⟩, ⟨faultyLoader, .opened secondPage [] 1⟩]

theorem firstPage_stored :
    ((State.start.run readName faultyBetweenPages).store.get? firstPage).map Document.version =
      some 5 := by
  decide +kernel

theorem stale_change_told_after_failed_opening : ∃ d,
    (State.start.run readName faultyBetweenPages).store.get? firstPage = some d ∧
    4 ≤ d.version ∧
    published ((State.start.run readName faultyBetweenPages).notify readName faultyLoader
      (.changed firstPage 4 [])).events = [.failure firstPage 4 (.config unfinishedTable)] := by
  obtain ⟨d, stored, version⟩ := Option.map_eq_some_iff.mp firstPage_stored
  have stale : 4 ≤ d.version := by omega
  have first : configFolder? readName firstPage = some pagesFolder := by decide +kernel
  have second : configFolder? readName secondPage = some pagesFolder := by decide +kernel
  have dropped : Dropped readName faultyBetweenPages pagesFolder :=
    @Dropped.opening _ [_] ⟨faultyLoader, .opened secondPage [] 1⟩ _ _ rfl second rfl
  have told := (stale_change_silent_iff_configured readName faultyBetweenPages faultyLoader
    firstPage 4 [] d stored stale).2.2
  exact ⟨d, stored, stale, told pagesFolder unfinishedTable first dropped rfl⟩

theorem stale_changes_not_all_silent : ¬ ∀ (names : NameReader) (session : List Arrival)
    (load : Loader) (uri : String) (version : Int) (changes : List Change) (d : Document),
    (State.start.run names session).store.get? uri = some d → version ≤ d.version →
    let after := (State.start.run names session).notify names load (.changed uri version changes)
    published after.events = [] ∧ after.state.store = (State.start.run names session).store := by
  intro silent
  obtain ⟨d, stored, version⟩ := Option.map_eq_some_iff.mp firstPage_stored
  have quiet := (silent readName faultyBetweenPages faultyLoader firstPage 4 [] d stored
    (by omega)).1
  have told : published ((State.start.run readName faultyBetweenPages).notify readName faultyLoader
      (.changed firstPage 4 [])).events ≠ [] := by decide +kernel
  exact told quiet

end FaultyConfiguration

end JqTemplate.Server
