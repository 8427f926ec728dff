import JqTemplate.Proofs.Session
import JqTemplate.Server.Uri

/-! The documents of the server beside those of its client. A client sends whole texts under rising
versions, and every configuration can be had. Then the server holds what the client has open, but
for a change that carries nothing: the client keeps its text, and the server takes it to be empty. -/
namespace JqTemplate.Server

open Text (CodePoint)

/-- The text after a change as its sender means it. A part gives way to the new text. -/
def Change.applyTo (change : Change) (text : List CodePoint) : List CodePoint :=
  match change.part with
  | none => change.text
  | some part =>
    text.take (offsetOf .utf16 (Text.shown text) part.startLine part.startColumn) ++ change.text ++
      text.drop (offsetOf .utf16 (Text.shown text) part.stopLine part.stopColumn)

structure Sheet where
  version : Int
  text : List CodePoint
  deriving DecidableEq, Repr

def Desk : Type := String → Option Sheet

namespace Desk

def empty : Desk := fun _ => none

def put (desk : Desk) (uri : String) (sheet : Option Sheet) : Desk :=
  fun other => if other = uri then sheet else desk other

def next (desk : Desk) : Notification → Desk
  | .opened uri text version => desk.put uri (some ⟨version, text⟩)
  | .changed uri version changes =>
    desk.put uri ((desk uri).map fun sheet =>
      ⟨version, changes.foldl (fun text change => change.applyTo text) sheet.text⟩)
  | .closed uri => desk.put uri none

def after (session : List Arrival) : Desk :=
  session.foldl (fun desk a => desk.next a.notification) empty

/-- Only an open document is changed, by whole texts and under a newer version. -/
def Allows (desk : Desk) : Notification → Prop
  | .changed uri version changes =>
    (∃ sheet, desk uri = some sheet ∧ sheet.version < version) ∧
      ∀ change ∈ changes, change.part = none
  | _ => True

theorem after_snoc (session : List Arrival) (a : Arrival) :
    after (session ++ [a]) = (after session).next a.notification := by
  simp [after, List.foldl_append]

end Desk

/-- A session whose client keeps to the rules and whose configurations can be had. -/
inductive Orderly (names : NameReader) : List Arrival → Prop where
  | nil : Orderly names []
  | snoc {session a} (h : Orderly names session)
      (configured : ∃ config,
        (State.start.run names session).configOf names a.load a.notification = .ok config)
      (allowed : (Desk.after session).Allows a.notification) : Orderly names (session ++ [a])

theorem Orderly.before {names : NameReader} {session sofar : List Arrival}
    (h : Orderly names session) (reached : sofar <+: session) : Orderly names sofar := by
  induction h with
  | nil => exact List.prefix_nil.mp reached ▸ .nil
  | snoc h configured allowed ih =>
    rcases List.prefix_concat_iff.mp reached with rfl | earlier
    · exact .snoc h configured allowed
    · exact ih earlier

def Notification.carriesNothing : Notification → Bool
  | .changed _ _ changes => changes.isEmpty
  | _ => false

/-- Whether the last that came for a document was a change without a text. -/
def endsBlank (session : List Arrival) (uri : String) : Bool :=
  (session.reverse.find? fun a => a.notification.uri = uri).any fun a =>
    a.notification.carriesNothing

theorem endsBlank_snoc (session : List Arrival) (a : Arrival) (uri : String) :
    endsBlank (session ++ [a]) uri =
      if a.notification.uri = uri then a.notification.carriesNothing else endsBlank session uri := by
  by_cases same : a.notification.uri = uri
  · simp [endsBlank, same]
  · simp [endsBlank, same]

theorem applied_whole {changes : List Change} (whole : ∀ change ∈ changes, change.part = none)
    (text : List CodePoint) :
    changes.foldl (fun text change => change.applyTo text) text =
      if changes.isEmpty then text else State.changedText changes := by
  induction changes generalizing text with
  | nil => rfl
  | cons change rest ih =>
    have first : change.applyTo text = change.text := by
      rw [Change.applyTo, whole change (.head rest)]
    rw [List.foldl_cons, first, ih fun c member => whole c (.tail change member)]
    cases rest with
    | nil => rfl
    | cons second more => simp [State.changedText, List.getLast?_cons_cons]

/-- The store has the open documents of a client, with an empty text for the blank ones. -/
def Mirrors (store : Store) (desk : Desk) (blank : String → Bool) : Prop :=
  ∀ uri, (store.get? uri).map (fun d => (d.uri, d.version, d.text)) =
    (desk uri).map fun sheet => (uri, sheet.version, if blank uri then [] else sheet.text)

namespace Mirrors

variable {store : Store} {desk : Desk} {blank : String → Bool} {uri : String} {config : Config}

theorem stored {sheet : Sheet} (h : Mirrors store desk blank) (opened : desk uri = some sheet) :
    ∃ d, store.get? uri = some d ∧ d.version = sheet.version := by
  have here := h uri
  rw [opened] at here
  obtain ⟨d, stored, same⟩ := Option.map_eq_some_iff.mp here
  exact ⟨d, stored, (Prod.mk.inj (Prod.mk.inj same).2).1⟩

theorem insert (h : Mirrors store desk blank) (sheet : Sheet) (isBlank : Bool) {text : List CodePoint}
    (same : text = if isBlank then [] else sheet.text) :
    Mirrors (store.insert (Document.analyze config.check uri text sheet.version))
      (desk.put uri (some sheet)) fun other => if uri = other then isBlank else blank other := by
  intro other
  by_cases here : other = uri
  · subst here
    simp [Desk.put, same]
  · simpa [Desk.put, here, Ne.symm here] using h other

theorem erase (h : Mirrors store desk blank) (isBlank : Bool) :
    Mirrors (store.erase uri) (desk.put uri none) fun other =>
      if uri = other then isBlank else blank other := by
  intro other
  by_cases here : other = uri
  · simp [Desk.put, here]
  · simpa [Desk.put, here, Ne.symm here] using h other

theorem notify {names : NameReader} {load : Loader} {s : State} {n : Notification}
    (h : Mirrors s.store desk blank) (configured : ∃ config, s.configOf names load n = .ok config)
    (allowed : desk.Allows n) :
    Mirrors (s.notify names load n).state.store (desk.next n) fun uri =>
      if n.uri = uri then n.carriesNothing else blank uri := by
  obtain ⟨config, had⟩ := configured
  have outcome := State.notify_outcome names load s n
  generalize (s.notify names load n).state.store = store, (s.notify names load n).answers = led
    at outcome ⊢
  cases outcome with
  | refused faulty =>
    obtain ⟨home, named⟩ := State.folder?_of_configFor _ _ _ _ had
    exact absurd faulty (not_faulty_of_folder? named)
  | unopened named failed =>
    rw [failed] at had
    contradiction
  | unchanged failed =>
    rw [failed] at had
    contradiction
  | opened had => exact h.insert ⟨_, _⟩ false rfl
  | stale had old =>
    obtain ⟨⟨sheet, opened, newer⟩, whole⟩ := allowed
    -- the stored version is the client's, below that of the change
    obtain ⟨d, stored, same⟩ := h.stored opened
    obtain ⟨e, again, notNewer⟩ := Store.isStale_iff.mp old
    rw [stored] at again
    cases again
    omega
  | @changed uri version changes _ had new =>
    obtain ⟨⟨sheet, opened, newer⟩, whole⟩ := allowed
    have moved : desk.next (.changed uri version changes) = desk.put uri
        (some ⟨version, if changes.isEmpty then sheet.text else State.changedText changes⟩) := by
      simp [Desk.next, opened, applied_whole whole]
    rw [moved]
    refine h.insert ⟨version, _⟩ changes.isEmpty ?_
    cases changes with
    | nil => rfl
    | cons change rest => rfl
  | closed => exact h.erase false

end Mirrors

theorem Orderly.mirrors {names : NameReader} {session : List Arrival} (h : Orderly names session) :
    Mirrors (State.start.run names session).store (Desk.after session) (endsBlank session) := by
  induction h with
  | nil =>
    intro uri
    rfl
  | @snoc session a h configured allowed ih =>
    have blank : endsBlank (session ++ [a]) = fun uri =>
        if a.notification.uri = uri then a.notification.carriesNothing
        else endsBlank session uri := by
      funext uri
      exact endsBlank_snoc session a uri
    rw [State.run_snoc, Desk.after_snoc, blank]
    exact ih.notify configured allowed

theorem State.notify_distinct {names : NameReader} {load : Loader} {s : State} (n : Notification)
    (h : s.store.Distinct) : (s.notify names load n).state.store.Distinct := by
  have outcome := State.notify_outcome names load s n
  generalize (s.notify names load n).state.store = store, (s.notify names load n).answers = led
    at outcome ⊢
  cases outcome with
  | refused | unopened | unchanged | stale => exact h
  | opened | changed => exact h.insert _
  | closed => exact h.erase _

theorem State.run_distinct (names : NameReader) (session : List Arrival) :
    (State.start.run names session).store.Distinct :=
  State.run_induction (P := fun _ s => s.store.Distinct) List.nodup_nil
    (fun _ a h => State.notify_distinct a.notification h) session

/-- After every step of an orderly session the store holds exactly what the client has open, each
document once, under its version and with its text, except where the last change was blank. -/
theorem store_mirrors_client (names : NameReader) (session sofar : List Arrival)
    (orderly : Orderly names session) (reached : sofar <+: session) :
    (State.start.run names sofar).store.Distinct ∧
    ∀ uri,
      ((State.start.run names sofar).store.get? uri).map (fun d => (d.uri, d.version, d.text)) =
        (Desk.after sofar uri).map fun sheet =>
          (uri, sheet.version, if endsBlank sofar uri then [] else sheet.text) :=
  ⟨State.run_distinct names sofar, (orderly.before reached).mirrors⟩

section Drafts

def draft : String := "file:///drafts/draft.jqtpl"

def defaults : Loader := fun _ => .ok {}

theorem draft_named : ∃ home, readName.folder? draft = .ok home :=
  ⟨some ⟨.single, ["drafts"]⟩, configFolder?_eq_some.mp (by decide +kernel)⟩

def reopenedDraft : List Arrival :=
  [⟨defaults, .opened draft ['a'] 5⟩, ⟨defaults, .changed draft 7 [⟨['b'], none⟩, ⟨['c'], none⟩]⟩,
    ⟨defaults, .closed draft⟩, ⟨defaults, .opened draft ['d'] 1⟩,
    ⟨defaults, .changed draft 2 [⟨['e'], none⟩]⟩]

def blankedDraft : List Arrival :=
  [⟨defaults, .opened draft ['a'] 1⟩, ⟨defaults, .changed draft 2 []⟩]

theorem draft_configured (s : State) :
    ∃ config, (s.configFor readName defaults draft).2 = .ok config :=
  State.configFor_of_loads _ _ _ _ draft_named fun _ => ⟨{}, rfl⟩

theorem draft_opened (text : List CodePoint) (version : Int) :
    Orderly readName [⟨defaults, .opened draft text version⟩] :=
  @Orderly.snoc _ [] _ .nil (draft_configured _) trivial

theorem blankedDraft_orderly : Orderly readName blankedDraft := by
  have allowed : (Desk.after [⟨defaults, .opened draft ['a'] 1⟩]).Allows (.changed draft 2 []) :=
    ⟨⟨⟨1, ['a']⟩, by decide, by decide⟩, nofun⟩
  exact @Orderly.snoc _ [_] _ (draft_opened ['a'] 1) (draft_configured _) allowed

theorem reopenedDraft_mirrored : Orderly readName reopenedDraft ∧ reopenedDraft <+: reopenedDraft ∧
    ((State.start.run readName reopenedDraft).store.get? draft).map
      (fun d => (d.uri, d.version, d.text)) = some (draft, 2, [.scalar 'e']) := by
  have first : Orderly readName (reopenedDraft.take 2) :=
    @Orderly.snoc _ [_] _ (draft_opened ['a'] 5) (draft_configured _)
      ⟨⟨⟨5, ['a']⟩, by decide, by decide⟩, by decide⟩
  have closed : Orderly readName (reopenedDraft.take 3) :=
    @Orderly.snoc _ [_, _] _ first ⟨{}, rfl⟩ trivial
  have again : Orderly readName (reopenedDraft.take 4) :=
    @Orderly.snoc _ [_, _, _] _ closed (draft_configured _) trivial
  have orderly : Orderly readName reopenedDraft :=
    @Orderly.snoc _ [_, _, _, _] _ again (draft_configured _)
      ⟨⟨⟨1, ['d']⟩, by decide, by decide⟩, by decide⟩
  refine ⟨orderly, List.prefix_rfl, ?_⟩
  rw [(store_mirrors_client readName reopenedDraft reopenedDraft orderly List.prefix_rfl).2 draft]
  decide

theorem texts_not_all_mirrored : ¬ ∀ names session sofar, Orderly names session →
    sofar <+: session → ∀ uri,
      ((State.start.run names sofar).store.get? uri).map Document.text =
        (Desk.after sofar uri).map Sheet.text := by
  intro mirrored
  have same := mirrored readName blankedDraft blankedDraft blankedDraft_orderly List.prefix_rfl draft
  have wiped :
      ((State.start.run readName blankedDraft).store.get? draft).map Document.text = some [] := by
    decide +kernel
  have kept : (Desk.after blankedDraft draft).map Sheet.text = some [.scalar 'a'] := by
    decide
  rw [wiped, kept] at same
  contradiction

end Drafts

end JqTemplate.Server
