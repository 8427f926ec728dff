import JqTemplate.Proofs.Session
import JqTemplate.Proofs.Tellable
import JqTemplate.Server.Uri

/-! The last answer about a document, beside what is stored of it. An answer is kept with the
notification that led to it and the state that was found then. A document whose diagnostics cannot be
told is stored all the same, and its client is left with what it was told before. -/
namespace JqTemplate.Server

open Editor (Marker)
open Text (CodePoint)

structure Telling where
  before : State
  cause : Arrival
  answer : Answer

def Notification.content? : Notification → Option (List CodePoint × Int)
  | .opened _ text version => some (text, version)
  | .changed _ version changes => some (State.changedText changes, version)
  | .closed _ => none

/-- What an answer says of a document is what is stored of it, or the document that is stored could
not be told. A failed analysis says nothing of what is stored, which is then as it was found. -/
def Telling.Agrees (names : NameReader) (t : Telling) (uri : String) (stored : Option Document) :
    Prop :=
  t.cause.notification.uri = uri ∧
  match t.cause.notification.content?,
    t.before.configOf names t.cause.load t.cause.notification with
  | none, _ => stored = none ∧ t.answer = .message ⟨uri, none, []⟩
  | some (text, version), .ok config => ∃ d, stored = some d ∧
      d.uri = uri ∧ d.text = text ∧ d.version = version ∧
      d.statements = parse (Text.shown text) ∧
      d.result = checkStatements config.check (Text.shown text) d.statements ∧
      t.answer = .report d
  | some (_, version), .error fault => stored = t.before.store.get? uri ∧
      t.answer = .message ⟨uri, some version, [Marker.internal "analysis failed" fault.message]⟩

section Step

variable {names : NameReader} {load : Loader} {s : State} {n : Notification} {store : Store}
  {led : List Answer}

inductive Accepted (names : NameReader) (load : Loader) (s : State) :
    Notification → Document → Prop where
  | opened {uri text version config}
      (had : s.configOf names load (.opened uri text version) = .ok config) :
      Accepted names load s (.opened uri text version)
        (Document.analyze config.check uri text version)
  | changed {uri version changes config}
      (had : s.configOf names load (.changed uri version changes) = .ok config)
      (new : s.store.isStale uri version ≠ true) :
      Accepted names load s (.changed uri version changes)
        (Document.analyze config.check uri (State.changedText changes) version)

section Acceptance

variable {d d' : Document}

theorem Accepted.configured (accepted : Accepted names load s n d) :
    ∃ config, s.configOf names load n = .ok config := by
  cases accepted with
  | opened had => exact ⟨_, had⟩
  | changed had _ => exact ⟨_, had⟩

theorem Accepted.unique (accepted : Accepted names load s n d)
    (accepted' : Accepted names load s n d') : d = d' := by
  cases accepted with
  | opened had =>
    cases accepted' with
    | opened again =>
      obtain rfl := Except.ok.inj (had.symm.trans again)
      rfl
  | changed had _ =>
    cases accepted' with
    | changed again _ =>
      obtain rfl := Except.ok.inj (had.symm.trans again)
      rfl

end Acceptance

structure Answered (names : NameReader) (load : Loader) (s : State) (n : Notification)
    (store : Store) (answer : Answer) : Prop where
  own : ∀ p, answer = .message p → p.uri = n.uri
  agrees : Telling.Agrees names ⟨s, ⟨load, n⟩, answer⟩ n.uri (store.get? n.uri)
  others : ∀ other, other ≠ n.uri → store.get? other = s.store.get? other

theorem Answered.of_analysis {text : List CodePoint} {version : Int} {config : Config}
    (content : n.content? = some (text, version)) (had : s.configOf names load n = .ok config) :
    Answered names load s n
      (s.store.insert (Document.analyze config.check n.uri text version))
      (.report (Document.analyze config.check n.uri text version)) where
  own := by
    intro p told
    unfold Answer.report at told
    split at told
    · cases told
      rfl
    · contradiction
  agrees := by
    refine ⟨rfl, ?_⟩
    dsimp only
    rw [content, had]
    exact ⟨_, Store.get?_insert_self, rfl, rfl, rfl, rfl, rfl, rfl⟩
  others := by
    intro other different
    exact Store.get?_insert_other different

theorem Answered.of_failure {text : List CodePoint} {version : Int} {fault : Fault}
    (content : n.content? = some (text, version)) (failed : s.configOf names load n = .error fault) :
    Answered names load s n s.store (.message (.failure n.uri version fault)) where
  own := by
    intro p told
    cases told
    rfl
  agrees := by
    refine ⟨rfl, ?_⟩
    dsimp only
    rw [content, failed]
    exact ⟨rfl, rfl⟩
  others := fun _ _ => rfl

theorem Answered.of_closing {uri : String} :
    Answered names load s (.closed uri) (s.store.erase uri) (.message (.clearing uri)) where
  own := by
    intro p told
    cases told
    rfl
  agrees := ⟨rfl, Store.get?_erase_self, rfl⟩
  others := by
    intro other different
    exact Store.get?_erase_other different

/-- A notification leads to one answer, or to nothing and then it changes no document. -/
theorem Outcome.answered (outcome : Outcome names load s n store led) :
    led = [] ∧ store = s.store ∨ ∃ answer, led = [answer] ∧
      Answered names load s n store answer := by
  cases outcome with
  | refused faulty => exact .inl ⟨rfl, rfl⟩
  | stale had old => exact .inl ⟨rfl, rfl⟩
  | unopened named failed => exact .inr ⟨_, rfl, .of_failure rfl failed⟩
  | unchanged failed => exact .inr ⟨_, rfl, .of_failure rfl failed⟩
  | opened had => exact .inr ⟨_, rfl, .of_analysis rfl had⟩
  | changed had new => exact .inr ⟨_, rfl, .of_analysis rfl had⟩
  | closed => exact .inr ⟨_, rfl, .of_closing⟩

end Step

namespace State

variable (names : NameReader)

def tell (s : State) (a : Arrival) : List Telling :=
  (s.notify names a.load a.notification).answers.map fun answer => ⟨s, a, answer⟩

def tellings : State → List Arrival → List Telling
  | _, [] => []
  | s, a :: rest => s.tell names a ++ tellings (s.next names a) rest

theorem tellings_snoc (s : State) (session : List Arrival) (a : Arrival) :
    s.tellings names (session ++ [a]) =
      s.tellings names session ++ (s.run names session).tell names a := by
  induction session generalizing s with
  | nil => exact List.append_nil _
  | cons first rest ih =>
    rw [List.cons_append, tellings, ih, tellings, List.append_assoc]
    rfl

end State

def lastTelling? (names : NameReader) (session : List Arrival) (uri : String) : Option Telling :=
  (State.start.tellings names session).reverse.find? fun t => t.cause.notification.uri = uri

section Last

variable {names : NameReader} {session : List Arrival} {a : Arrival} {uri : String}

theorem lastTelling?_of_silent (silent : (State.start.run names session).tell names a = []) :
    lastTelling? names (session ++ [a]) uri = lastTelling? names session uri := by
  rw [lastTelling?, State.tellings_snoc, silent, List.append_nil]
  rfl

theorem lastTelling?_of_told {t : Telling}
    (told : (State.start.run names session).tell names a = [t]) :
    lastTelling? names (session ++ [a]) uri =
      if t.cause.notification.uri = uri then some t else lastTelling? names session uri := by
  rw [lastTelling?, State.tellings_snoc, told, List.reverse_append, List.reverse_singleton,
    List.singleton_append, List.find?_cons]
  by_cases same : t.cause.notification.uri = uri
  · simp [same]
  · simp [same, lastTelling?]

end Last

/-- The last answer about a document agrees with what is stored; of one about which there was none
nothing is stored. -/
def LastAgrees (names : NameReader) (session : List Arrival) (store : Store) (uri : String) : Prop :=
  match lastTelling? names session uri with
  | some t => t.Agrees names uri (store.get? uri)
  | none => store.get? uri = none

theorem LastAgrees.next {names : NameReader} {session : List Arrival} {uri : String}
    (h : LastAgrees names session (State.start.run names session).store uri) (a : Arrival) :
    LastAgrees names (session ++ [a]) ((State.start.run names session).next names a).store uri := by
  unfold LastAgrees
  rcases (State.notify_outcome names a.load (State.start.run names session)
    a.notification).answered with ⟨silent, kept⟩ | ⟨answer, led, answered⟩
  · rw [lastTelling?_of_silent (List.map_eq_nil_iff.mpr silent), State.next, kept]
    exact h
  · have told : (State.start.run names session).tell names a =
        [⟨State.start.run names session, a, answer⟩] := congrArg _ led
    rw [lastTelling?_of_told told]
    by_cases same : a.notification.uri = uri
    · subst same
      rw [if_pos rfl]
      exact answered.agrees
    · rw [if_neg same, State.next, answered.others uri (Ne.symm same)]
      exact h

section Surrogates

end Surrogates

end JqTemplate.Server
