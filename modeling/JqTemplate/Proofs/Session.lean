import JqTemplate.Proofs.Outcomes
import JqTemplate.Proofs.Store
import JqTemplate.Server.Session
import Mathlib.Data.List.Induction

/-! What a notification comes to, said once for each way it can go: for the documents and what is
shown of them, and for the configurations that are kept. A session is a list of notifications, each
with what loading a configuration would give when it arrives. -/
namespace JqTemplate.Server

open Files (Path)
open Editor (Marker)
open Text (CodePoint)

structure Publication where
  uri : String
  version : Option Int
  markers : List Marker
  deriving DecidableEq, Repr

namespace Publication

def failure (uri : String) (version : Int) (fault : Fault) : Publication :=
  ⟨uri, some version, [Marker.internal "analysis failed" fault.message]⟩

def clearing (uri : String) : Publication := ⟨uri, none, []⟩

end Publication

/-- What a notification leads to: a message, or the fault for which none was sent. -/
inductive Answer where
  | message (publication : Publication)
  | withheld (fault : Editor.PlaceFault)
  deriving DecidableEq, Repr

namespace Answer

def report (d : Document) : Answer :=
  match State.markersOf d with
  | .ok markers => .message ⟨d.uri, some d.version, markers⟩
  | .error fault => .withheld fault

def publication? : Answer → Option Publication
  | .message publication => some publication
  | .withheld _ => none

end Answer

def Event.publication? : Event → Option Publication
  | .publish uri version markers => some ⟨uri, version, markers⟩
  | .log _ | .record _ _ => none

def published (events : List Event) : List Publication := events.filterMap Event.publication?

def Escape.answer? : Escape → Option Answer
  | .place fault => some (.withheld fault)
  | .name _ => none

namespace Handled

def answers (h : Handled) : List Answer :=
  (published h.events).map .message ++ h.escape.toList.filterMap Escape.answer?

@[simp] theorem recorded_state (h : Handled) (level : Level) (message : String) :
    (h.recorded level message).state = h.state := rfl

@[simp] theorem answers_recorded (h : Handled) (level : Level) (message : String) :
    (h.recorded level message).answers = h.answers := rfl

theorem published_eq (h : Handled) : published h.events = h.answers.filterMap Answer.publication? := by
  have escaped : (h.escape.toList.filterMap Escape.answer?).filterMap Answer.publication? = [] := by
    rcases h.escape with _ | _ | fault <;> rfl
  rw [answers, List.filterMap_append, escaped, List.append_nil, List.filterMap_map]
  exact List.filterMap_some.symm

end Handled

def configFolder? (names : NameReader) (uri : String) : Option Path :=
  match names.folder? uri with
  | .ok folder => folder
  | .error _ => none

def Notification.folder? (names : NameReader) : Notification → Option Path
  | .opened uri _ _ | .changed uri _ _ => configFolder? names uri
  | .closed _ => none

def Notification.isOpening : Notification → Bool
  | .opened _ _ _ => true
  | _ => false

section Names

variable {names : NameReader} {uri : String}

theorem configFolder?_eq_some {folder : Path} :
    configFolder? names uri = some folder ↔ names.folder? uri = .ok (some folder) := by
  unfold configFolder?
  rcases names.folder? uri with cause | home
  · simp
  · simp

theorem folder?_of_faulty {fault : String} (faulty : names uri = .error fault) :
    names.folder? uri = .error fault := by
  rw [NameReader.folder?, faulty]
  rfl

theorem configFolder?_of_faulty {fault : String} (faulty : names uri = .error fault) :
    configFolder? names uri = none := by
  unfold configFolder?
  rw [folder?_of_faulty faulty]

theorem not_faulty_of_folder? {home : Option Path} (named : names.folder? uri = .ok home)
    {fault : String} : names uri ≠ .error fault := by
  intro faulty
  rw [folder?_of_faulty faulty] at named
  contradiction

end Names

namespace State

variable (names : NameReader) (load : Loader) (s : State) (uri : String) (folder : Path)

/-- The configuration that a notification finds. Closing needs none. -/
def configOf : Notification → Except Fault Config
  | .opened uri _ _ => ((s.forgetConfig names uri).configFor names load uri).2
  | .changed uri _ _ => (s.configFor names load uri).2
  | .closed _ => .ok {}

section Configurations

@[simp] theorem forgetConfig_store : (s.forgetConfig names uri).store = s.store := by
  unfold forgetConfig
  split <;> rfl

@[simp] theorem configFor_store : (s.configFor names load uri).1.store = s.store := by
  unfold configFor
  repeat' split
  all_goals rfl

theorem lookup_forgetConfig :
    (s.forgetConfig names uri).configs.lookup folder =
      if configFolder? names uri = some folder then none else s.configs.lookup folder := by
  unfold forgetConfig configFolder?
  rcases names.folder? uri with cause | _ | home
  · simp
  · simp
  · simp only [Option.some.injEq, @eq_comm _ home]
    exact lookup_without home folder s.configs

theorem lookup_configFor :
    (s.configFor names load uri).1.configs.lookup folder =
      if configFolder? names uri = some folder then
        (s.configs.lookup folder).or (load folder).toOption
      else s.configs.lookup folder := by
  unfold configFor configFolder?
  rcases names.folder? uri with cause | _ | home
  · simp
  · simp
  · dsimp only
    by_cases same : home = folder
    · subst same
      cases kept : s.configs.lookup home with
      | some config => simp [kept]
      | none => cases load home <;> simp [kept, Except.toOption]
    · cases s.configs.lookup home with
      | some config => simp [same]
      | none =>
        cases load home with
        | error cause => simp [same]
        | ok config => simpa [same] using lookup_cons_other (Ne.symm same) config s.configs

theorem configFor_error_iff {fault : Fault} :
    (s.configFor names load uri).2 = .error fault ↔
      (∃ cause, names.folder? uri = .error cause ∧ .name cause = fault) ∨
      ∃ home cause, names.folder? uri = .ok (some home) ∧ s.configs.lookup home = none ∧
        load home = .error cause ∧ .config cause = fault := by
  unfold configFor
  rcases names.folder? uri with cause | _ | home
  · simp
  · simp
  · dsimp only
    cases kept : s.configs.lookup home with
    | some config => simp [kept, -List.lookup_eq_none_iff]
    | none => cases loaded : load home <;> simp [kept, loaded, -List.lookup_eq_none_iff]

theorem folder?_of_configFor {config : Config}
    (had : (s.configFor names load uri).2 = .ok config) : ∃ home, names.folder? uri = .ok home := by
  cases named : names.folder? uri with
  | ok home => exact ⟨home, rfl⟩
  | error cause =>
    have failed := (configFor_error_iff names load s uri).mpr (.inl ⟨cause, named, rfl⟩)
    rw [failed] at had
    contradiction

theorem configFor_of_loads (named : ∃ home, names.folder? uri = .ok home)
    (loads : ∀ folder, ∃ config, load folder = .ok config) :
    ∃ config, (s.configFor names load uri).2 = .ok config := by
  cases found : (s.configFor names load uri).2 with
  | ok config => exact ⟨config, rfl⟩
  | error fault =>
    rcases (configFor_error_iff names load s uri).mp found with
      ⟨cause, faulty, _⟩ | ⟨home, cause, _, _, failed, _⟩
    · obtain ⟨home, named⟩ := named
      rw [named] at faulty
      contradiction
    · obtain ⟨config, loaded⟩ := loads home
      rw [loaded] at failed
      contradiction

end Configurations

/-- A document is stored whether or not its diagnostics can be told. -/
@[simp] theorem accept_state (store : Store) (d : Document) :
    (s.accept store d).state = { s with store := store } := by
  unfold accept
  split <;> rfl

@[simp] theorem accept_answers (store : Store) (d : Document) :
    (s.accept store d).answers = [.report d] := by
  unfold accept Answer.report
  cases markersOf d with
  | ok markers => rfl
  | error fault => rfl

variable {names load s uri} {config : Config} (text : List CodePoint) (version : Int)
  (isOpening : Bool)

theorem update_configs :
    (s.update names load uri text version isOpening).state.configs =
      (s.configFor names load uri).1.configs := by
  unfold update
  rcases s.configFor names load uri with ⟨after, result⟩
  cases result with
  | error fault => rfl
  | ok config =>
    cases isOpening with
    | true => simp
    | false =>
      by_cases old : after.store.isStale uri version = true
      · simp [Store.change_stale config.check text old]
      · simp [Store.change_fresh config.check text old]

theorem configFor_eq {result : Except Fault Config}
    (found : (s.configFor names load uri).2 = result) :
    ∃ after, s.configFor names load uri = (after, result) ∧ after.store = s.store :=
  ⟨(s.configFor names load uri).1, found ▸ rfl, configFor_store names load s uri⟩

theorem update_of_error {fault : Fault} (failed : (s.configFor names load uri).2 = .error fault) :
    (s.update names load uri text version isOpening).state.store = s.store ∧
      (s.update names load uri text version isOpening).answers =
        [.message (.failure uri version fault)] := by
  obtain ⟨after, found, kept⟩ := configFor_eq failed
  unfold update
  rw [found]
  exact ⟨kept, rfl⟩

variable {version isOpening} in
theorem update_of_ok (had : (s.configFor names load uri).2 = .ok config)
    (new : isOpening = true ∨ s.store.isStale uri version ≠ true) :
    (s.update names load uri text version isOpening).state.store =
        s.store.insert (Document.analyze config.check uri text version) ∧
      (s.update names load uri text version isOpening).answers =
        [.report (Document.analyze config.check uri text version)] := by
  obtain ⟨after, found, kept⟩ := configFor_eq had
  unfold update
  rw [found, ← kept]
  cases isOpening with
  | true => simp [Store.openDocument]
  | false =>
    have fresh := new.resolve_left Bool.false_ne_true
    dsimp only
    rw [Store.change_fresh config.check text (kept ▸ fresh)]
    simp

variable {version} in
theorem update_of_stale (had : (s.configFor names load uri).2 = .ok config)
    (old : s.store.isStale uri version = true) :
    (s.update names load uri text version false).state.store = s.store ∧
      (s.update names load uri text version false).answers = [] := by
  obtain ⟨after, found, kept⟩ := configFor_eq had
  unfold update
  rw [found, ← kept]
  dsimp only
  rw [Store.change_stale config.check text (kept ▸ old)]
  exact ⟨rfl, rfl⟩

end State

/-- What a notification does to the documents, and what it leads to. -/
inductive Outcome (names : NameReader) (load : Loader) (s : State) :
    Notification → Store → List Answer → Prop where
  | refused {uri text version fault} (faulty : names uri = .error fault) :
      Outcome names load s (.opened uri text version) s.store []
  | unopened {uri text version file fault} (named : names uri = .ok file)
      (failed : s.configOf names load (.opened uri text version) = .error fault) :
      Outcome names load s (.opened uri text version) s.store
        [.message (.failure uri version fault)]
  | opened {uri text version config}
      (had : s.configOf names load (.opened uri text version) = .ok config) :
      Outcome names load s (.opened uri text version)
        (s.store.insert (Document.analyze config.check uri text version))
        [.report (Document.analyze config.check uri text version)]
  | unchanged {uri version changes fault}
      (failed : s.configOf names load (.changed uri version changes) = .error fault) :
      Outcome names load s (.changed uri version changes) s.store
        [.message (.failure uri version fault)]
  | stale {uri version changes config}
      (had : s.configOf names load (.changed uri version changes) = .ok config)
      (old : s.store.isStale uri version = true) :
      Outcome names load s (.changed uri version changes) s.store []
  | changed {uri version changes config}
      (had : s.configOf names load (.changed uri version changes) = .ok config)
      (new : s.store.isStale uri version ≠ true) :
      Outcome names load s (.changed uri version changes)
        (s.store.insert (Document.analyze config.check uri (State.changedText changes) version))
        [.report (Document.analyze config.check uri (State.changedText changes) version)]
  | closed {uri} : Outcome names load s (.closed uri) (s.store.erase uri)
      [.message (.clearing uri)]

namespace State

variable (names : NameReader) (load : Loader) (s : State)

theorem notify_refused {uri fault : String} (faulty : names uri = .error fault)
    (text : List CodePoint) (version : Int) :
    (s.notify names load (.opened uri text version)).state = s ∧
      (s.notify names load (.opened uri text version)).answers = [] := by
  unfold notify
  dsimp only
  rw [faulty]
  exact ⟨rfl, rfl⟩

theorem notify_opened {uri : String} {file : Option String} (named : names uri = .ok file)
    (text : List CodePoint) (version : Int) :
    (s.notify names load (.opened uri text version)).state =
        ((s.forgetConfig names uri).update names load uri text version true).state ∧
      (s.notify names load (.opened uri text version)).answers =
        ((s.forgetConfig names uri).update names load uri text version true).answers := by
  unfold notify
  dsimp only
  rw [named]
  exact ⟨rfl, rfl⟩

theorem notify_outcome (n : Notification) :
    Outcome names load s n (s.notify names load n).state.store
      (s.notify names load n).answers := by
  cases n with
  | opened uri text version =>
    cases named : names uri with
    | error fault =>
      obtain ⟨same, silence⟩ := notify_refused names load s named text version
      rw [same, silence]
      exact .refused named
    | ok file =>
      obtain ⟨documents, led⟩ := notify_opened names load s named text version
      rw [documents, led]
      cases had : ((s.forgetConfig names uri).configFor names load uri).2 with
      | error fault =>
        obtain ⟨kept, failure⟩ := update_of_error text version true had
        rw [kept, failure, forgetConfig_store]
        exact .unopened named had
      | ok config =>
        obtain ⟨stored, report⟩ := update_of_ok text had (Or.inl rfl)
        rw [stored, report, forgetConfig_store]
        exact .opened had
  | changed uri version changes =>
    rw [notify, Handled.recorded_state, Handled.answers_recorded]
    cases had : (s.configFor names load uri).2 with
    | error fault =>
      obtain ⟨kept, failure⟩ := update_of_error (changedText changes) version false had
      rw [kept, failure]
      exact .unchanged had
    | ok config =>
      by_cases old : s.store.isStale uri version = true
      · obtain ⟨kept, silence⟩ := update_of_stale (changedText changes) had old
        rw [kept, silence]
        exact .stale had old
      · obtain ⟨stored, report⟩ := update_of_ok (changedText changes) had (Or.inr old)
        rw [stored, report]
        exact .changed had old
  | closed uri => exact .closed

theorem lookup_notify (n : Notification) (folder : Path) :
    (s.notify names load n).state.configs.lookup folder =
      if n.folder? names = some folder then
        (if n.isOpening then none else s.configs.lookup folder).or (load folder).toOption
      else s.configs.lookup folder := by
  cases n with
  | opened uri text version =>
    cases named : names uri with
    | error fault =>
      rw [(notify_refused names load s named text version).1]
      simp [Notification.folder?, configFolder?_of_faulty named]
    | ok file =>
      rw [(notify_opened names load s named text version).1, update_configs, lookup_configFor,
        lookup_forgetConfig]
      by_cases home : configFolder? names uri = some folder
      · simp [Notification.folder?, Notification.isOpening, home]
      · simp [Notification.folder?, home]
  | changed uri version changes =>
    rw [notify, Handled.recorded_state, update_configs]
    exact lookup_configFor names load s uri folder
  | closed uri => rfl

variable {names load s} {n : Notification}

theorem lookup_notify_of_ok {folder : Path} {config : Config}
    (had : s.configOf names load n = .ok config) (home : n.folder? names = some folder) :
    (s.notify names load n).state.configs.lookup folder ≠ none := by
  intro missing
  rw [lookup_notify, if_pos home, Option.or_eq_none_iff] at missing
  obtain ⟨uncached, unloaded⟩ := missing
  obtain ⟨cause, failed⟩ := eq_error_of_toOption unloaded
  have stuck {t : State} {uri : String} (within : configFolder? names uri = some folder)
      (lost : t.configs.lookup folder = none) : (t.configFor names load uri).2 ≠ .ok config := by
    have found := configFolder?_eq_some.mp within
    rw [(configFor_error_iff names load t uri).mpr (.inr ⟨folder, cause, found, lost, failed, rfl⟩)]
    exact nofun
  cases n with
  | opened uri text version =>
    have forgotten : (s.forgetConfig names uri).configs.lookup folder = none := by
      rw [lookup_forgetConfig]
      exact if_pos home
    exact stuck home forgotten had
  | changed uri version changes => exact stuck home uncached had
  | closed uri => contradiction

theorem stored_of_notify {uri : String} {d : Document}
    (stored : (s.notify names load n).state.store.get? uri = some d) :
    s.store.get? uri = some d ∨
      n.folder? names = configFolder? names uri ∧
        (∃ config, s.configOf names load n = .ok config) ∧ ∃ home, names.folder? uri = .ok home := by
  have outcome := notify_outcome names load s n
  generalize (s.notify names load n).state.store = store, (s.notify names load n).answers = led
    at outcome stored
  cases outcome with
  | refused | unopened | unchanged | stale => exact .inl stored
  | opened had =>
    rcases Store.stored_of_insert stored with ⟨rfl, _⟩ | old
    · exact .inr ⟨rfl, ⟨_, had⟩, folder?_of_configFor _ _ _ _ had⟩
    · exact .inl old
  | changed had new =>
    rcases Store.stored_of_insert stored with ⟨rfl, _⟩ | old
    · exact .inr ⟨rfl, ⟨_, had⟩, folder?_of_configFor _ _ _ _ had⟩
    · exact .inl old
  | closed => exact .inl (Store.stored_of_erase stored).2

end State

/-- A notification, and what loading a configuration would give when it arrives. -/
structure Arrival where
  load : Loader
  notification : Notification

namespace State

variable (names : NameReader)

def next (s : State) (a : Arrival) : State := (s.notify names a.load a.notification).state

def run (s : State) (session : List Arrival) : State := session.foldl (next names) s

theorem run_snoc (s : State) (session : List Arrival) (a : Arrival) :
    s.run names (session ++ [a]) = (s.run names session).next names a := by
  simp [run, List.foldl_append]

variable {names} in
theorem run_induction {P : List Arrival → State → Prop} (start : P [] .start)
    (next : ∀ session a, P session (State.start.run names session) →
      P (session ++ [a]) ((State.start.run names session).next names a))
    (session : List Arrival) : P session (State.start.run names session) := by
  induction session using List.reverseRecOn with
  | nil => exact start
  | append_singleton session a ih =>
    rw [run_snoc]
    exact next session a ih

end State

end JqTemplate.Server
