import JqTemplate.Proofs.Store
import Mathlib

namespace JqTemplate.Store

/-- A text for a document. Without settings of its own the store's settings hold. -/
structure Edit where
  text : List Text.CodePoint
  version : Int
  config : Option CheckConfig := none
  deriving DecidableEq

inductive Operation where
  | opened (uri : String) (edit : Edit)
  | changed (uri : String) (edit : Edit)
  | closed (uri : String)
  | asked (uri : String)

/-- No document is stored, or one of an older version. -/
def Edit.IsNew (edit : Edit) (stored : Option Document) : Prop :=
  ∀ d ∈ stored, d.version < edit.version

instance (edit : Edit) (stored : Option Document) : Decidable (edit.IsNew stored) :=
  inferInstanceAs (Decidable (∀ d ∈ stored, d.version < edit.version))

namespace Operation

def uri : Operation → String
  | .opened uri _ | .changed uri _ | .closed uri | .asked uri => uri

def change? (name : String) : Operation → Option Edit
  | .changed uri edit => if uri = name then some edit else none
  | _ => none

end Operation

def changesOn (uri : String) (operations : List Operation) : List Edit :=
  operations.filterMap (Operation.change? uri)

/-- Of the operations on a document there are only changes. -/
def OnlyChanges (uri : String) (operations : List Operation) : Prop :=
  ∀ op ∈ operations, op.uri = uri → ∃ edit, op = .changed uri edit

section Runs

variable (own : CheckConfig)

def Edit.document (uri : String) (edit : Edit) : Document :=
  Document.analyze (edit.config.getD own) uri edit.text edit.version

def perform (s : Store) : Operation → Store × Option Document
  | .opened uri edit =>
    let (s', d) := s.openDocument (edit.config.getD own) uri edit.text edit.version
    (s', some d)
  | .changed uri edit => s.change (edit.config.getD own) uri edit.text edit.version
  | .closed uri => s.close uri
  | .asked uri => (s, s.get? uri)

def run (s : Store) (operations : List Operation) : Store :=
  operations.foldl (fun s op => (s.perform own op).1) s

def answers : Store → List Operation → List (Operation × Option Document)
  | _, [] => []
  | s, op :: rest => (op, (s.perform own op).2) :: answers (s.perform own op).1 rest

def accepted (uri : String) (s : Store) (operations : List Operation) : List Edit :=
  (answers own s operations).filterMap fun (op, answer) => answer.bind fun _ => op.change? uri

def Edit.onto (uri : String) (stored : Option Document) (edit : Edit) : Option Document :=
  if edit.IsNew stored then some (edit.document own uri) else stored

def Operation.onto (stored : Option Document) : Operation → Option Document
  | .opened uri edit => some (edit.document own uri)
  | .changed uri edit => edit.onto own uri stored
  | .closed _ => none
  | .asked _ => stored

end Runs

section Names

variable {own : CheckConfig} {s : Store} {uri name : String} {edit : Edit}
  {operations before after : List Operation}

theorem isStale_iff_not_isNew : s.isStale uri edit.version = true ↔ ¬ edit.IsNew (s.get? uri) := by
  rw [isStale_iff]
  constructor
  · rintro ⟨d, stored, older⟩ new
    have := new d stored
    omega
  · intro old
    by_contra fresh
    refine old fun d stored => ?_
    by_contra older
    exact fresh ⟨d, stored, by omega⟩

theorem perform_changed :
    s.perform own (.changed uri edit) =
      if edit.IsNew (s.get? uri) then
        (s.insert (edit.document own uri), some (edit.document own uri))
      else (s, none) := by
  by_cases new : edit.IsNew (s.get? uri)
  · rw [if_pos new]
    exact change_fresh _ _ fun stale => isStale_iff_not_isNew.mp stale new
  · rw [if_neg new]
    exact change_stale _ _ (isStale_iff_not_isNew.mpr new)

theorem get?_perform (op : Operation) :
    (s.perform own op).1.get? op.uri = op.onto own (s.get? op.uri) := by
  cases op with
  | opened uri edit => exact get?_insert_self
  | changed uri edit =>
    rw [perform_changed]
    by_cases new : edit.IsNew (s.get? uri)
    · rw [if_pos new]
      simp [Operation.uri, Operation.onto, Edit.onto, new, Edit.document]
    · rw [if_neg new]
      simp [Operation.uri, Operation.onto, Edit.onto, new]
  | closed uri => exact get?_erase_self
  | asked uri => rfl

theorem get?_perform_other (op : Operation) (other : op.uri ≠ name) :
    (s.perform own op).1.get? name = s.get? name := by
  cases op with
  | opened uri edit => exact get?_insert_other other.symm
  | changed uri edit =>
    rw [perform_changed]
    split
    · exact get?_insert_other other.symm
    · rfl
  | closed uri => exact get?_erase_other other.symm
  | asked uri => rfl

theorem get?_run :
    (run own s operations).get? name =
      (operations.filter fun op => op.uri = name).foldl (Operation.onto own) (s.get? name) := by
  induction operations generalizing s with
  | nil => rfl
  | cons op rest ih =>
    have next : run own s (op :: rest) = run own (s.perform own op).1 rest := rfl
    rw [next, ih]
    by_cases same : op.uri = name
    · subst same
      rw [List.filter_cons_of_pos (by simp), List.foldl_cons, get?_perform]
    · rw [List.filter_cons_of_neg (by simpa using same), get?_perform_other op same]

theorem change?_eq_some_iff {op : Operation} :
    op.change? uri = some edit ↔ op = .changed uri edit := by
  constructor
  · intro change
    cases op with
    | changed other edit' =>
      obtain ⟨rfl, rfl⟩ : other = uri ∧ edit' = edit := by simpa [Operation.change?] using change
      rfl
    | opened _ _ => contradiction
    | closed _ => contradiction
    | asked _ => contradiction
  · rintro rfl
    exact if_pos rfl

theorem change?_of_other {op : Operation} (other : op.uri ≠ uri) : op.change? uri = none := by
  by_contra change
  obtain ⟨edit, change⟩ := Option.ne_none_iff_exists'.mp change
  exact other (change?_eq_some_iff.mp change ▸ rfl)

theorem changesOn_cons (op : Operation) :
    changesOn uri (op :: operations) = (op.change? uri).toList ++ changesOn uri operations := by
  unfold changesOn
  cases change : op.change? uri with
  | none => rw [List.filterMap_cons_none change]; rfl
  | some edit => rw [List.filterMap_cons_some change]; rfl

theorem filter_onlyChanges (only : OnlyChanges uri operations) :
    (operations.filter fun op => op.uri = uri) =
      (changesOn uri operations).map (Operation.changed uri) := by
  induction operations with
  | nil => rfl
  | cons op rest ih =>
    have later := ih fun op member => only op (.tail _ member)
    by_cases same : op.uri = uri
    · obtain ⟨edit, rfl⟩ := only op (.head rest) same
      rw [List.filter_cons_of_pos (by simpa using same), later, changesOn_cons,
        change?_eq_some_iff.mpr rfl]
      rfl
    · rw [List.filter_cons_of_neg (by simpa using same), later, changesOn_cons,
        change?_of_other same]
      rfl

theorem get?_run_of_onlyChanges (only : OnlyChanges uri operations) :
    (run own s operations).get? uri =
      (changesOn uri operations).foldl (Edit.onto own uri) (s.get? uri) := by
  rw [get?_run, filter_onlyChanges only, List.foldl_map]
  rfl

end Names

section Greatest

variable {own : CheckConfig} {uri : String} {first second : Edit} {stored : Option Document}

theorem Edit.IsNew.later (h : first.IsNew stored) (order : first.version ≤ second.version) :
    second.IsNew stored := by
  intro d member
  have := h d member
  omega

theorem isNew_document : second.IsNew (some (first.document own uri)) ↔
    first.version < second.version := by
  simp [Edit.IsNew, Edit.document]

theorem onto_newer (order : first.version < second.version) :
    second.onto own uri (first.onto own uri stored) = second.onto own uri stored := by
  by_cases new : first.IsNew stored
  · simp only [Edit.onto, if_pos new, if_pos (isNew_document.mpr order),
      if_pos (new.later (Int.le_of_lt order))]
  · simp only [Edit.onto, if_neg new]

theorem onto_older (order : ¬ first.version < second.version) :
    second.onto own uri (first.onto own uri stored) = first.onto own uri stored := by
  by_cases new : first.IsNew stored
  · simp only [Edit.onto, if_pos new, if_neg (mt isNew_document.mp order)]
  · have old : ¬ second.IsNew stored := fun fresh => new (fresh.later (by omega))
    simp only [Edit.onto, if_neg new, if_neg old]

/-- Of several changes the greatest counts, and of equal ones the first. -/
theorem foldl_onto (changes : List Edit) :
    changes.foldl (Edit.onto own uri) stored =
      (List.argmax Edit.version changes).elim stored fun newest => newest.onto own uri stored := by
  induction changes using List.reverseRecOn with
  | nil => rfl
  | append_singleton earlier edit ih =>
    rw [List.foldl_append, ih, List.argmax_concat]
    cases greatest : List.argmax Edit.version earlier with
    | none => rfl
    | some newest =>
      by_cases order : newest.version < edit.version
      · simpa [order] using onto_newer order
      · simpa [order] using onto_older order

end Greatest

section Acceptance

variable {own : CheckConfig} {s : Store} {uri : String} {operations : List Operation}

theorem run_snoc (op : Operation) :
    run own s (operations ++ [op]) = ((run own s operations).perform own op).1 := by
  simp [run, List.foldl_append]

theorem answers_snoc (op : Operation) :
    answers own s (operations ++ [op]) =
      answers own s operations ++ [(op, ((run own s operations).perform own op).2)] := by
  induction operations generalizing s with
  | nil => rfl
  | cons first rest ih =>
    rw [List.cons_append, answers, ih]
    rfl

theorem accepted_snoc (op : Operation) :
    accepted own uri s (operations ++ [op]) = accepted own uri s operations ++
      (((run own s operations).perform own op).2.bind fun _ => op.change? uri).toList := by
  rw [accepted, answers_snoc, List.filterMap_append]
  cases change : ((run own s operations).perform own op).2.bind fun _ => op.change? uri with
  | none => simp [accepted, change]
  | some edit => simp [accepted, change]

theorem isNew_run_iff (only : OnlyChanges uri operations) (edit : Edit) :
    edit.IsNew ((run own s operations).get? uri) ↔ edit.IsNew (s.get? uri) ∧
      ∀ earlier ∈ accepted own uri s operations, earlier.version < edit.version := by
  induction operations using List.reverseRecOn generalizing edit with
  | nil => simp [run, accepted, answers]
  | append_singleton done op ih =>
    have ih := ih fun op member => only op (List.mem_append_left _ member)
    rw [run_snoc, accepted_snoc]
    by_cases same : op.uri = uri
    · obtain ⟨last, rfl⟩ := only op (by simp) same
      rw [perform_changed, change?_eq_some_iff.mpr rfl]
      by_cases new : last.IsNew ((run own s done).get? uri)
      · -- what is accepted last is above all that was accepted before it
        obtain ⟨fresh, above⟩ := (ih last).mp new
        have stored : ((run own s done).insert (last.document own uri)).get? uri =
          some (last.document own uri) := get?_insert_self
        simp only [if_pos new, stored, isNew_document, Option.bind_some, Option.toList_some,
          List.mem_append, List.mem_singleton]
        constructor
        · intro newer
          refine ⟨fresh.later (Int.le_of_lt newer), ?_⟩
          rintro earlier (among | rfl)
          · exact Int.lt_trans (above earlier among) newer
          · exact newer
        · rintro ⟨_, all⟩
          exact all last (.inr rfl)
      · simpa [if_neg new] using ih edit
    · rw [get?_perform_other op same, change?_of_other same, Option.bind_fun_none,
        Option.toList_none, List.append_nil]
      exact ih edit

end Acceptance

theorem argmax_eq_of_perm {changes changes' : List Edit} (same : changes'.Perm changes)
    (distinct : (changes.map Edit.version).Nodup) :
    List.argmax Edit.version changes' = List.argmax Edit.version changes := by
  cases greatest : List.argmax Edit.version changes with
  | none =>
    obtain rfl := List.argmax_eq_none.mp greatest
    exact List.argmax_eq_none.mpr same.eq_nil
  | some newest =>
    cases greatest' : List.argmax Edit.version changes' with
    | none =>
      obtain rfl := List.argmax_eq_none.mp greatest'
      obtain rfl := List.nil_perm.mp same
      contradiction
    | some newest' =>
      have among := List.argmax_mem greatest
      have among' := same.mem_iff.mp (List.argmax_mem greatest')
      have above := List.le_of_mem_argmax among' greatest
      have above' := List.le_of_mem_argmax (same.mem_iff.mpr among) greatest'
      exact congrArg some
        (List.inj_on_of_nodup_map distinct among' among (Int.le_antisymm above above'))

/-- Of the changes of a document, delivered in any order and between operations on others, the one
with the greatest version stays, and of equal ones the first; only if it is not new, the stored
document stays. A change returns a document if its version is above the stored one and above all
that were accepted before. The other documents are as they would be without the changes. -/
theorem greatest_version_stays (own : CheckConfig) (s : Store) (uri : String)
    (operations : List Operation) (only : OnlyChanges uri operations)
    (nonempty : changesOn uri operations ≠ []) :
    (∃ newest ∈ List.argmax Edit.version (changesOn uri operations),
      (run own s operations).get? uri =
        if newest.IsNew (s.get? uri) then some (newest.document own uri) else s.get? uri) ∧
    (∀ before edit after, operations = before ++ .changed uri edit :: after →
      ((run own s before).perform own (.changed uri edit)).2 =
        if edit.IsNew (s.get? uri) ∧
          ∀ earlier ∈ accepted own uri s before, earlier.version < edit.version
        then some (edit.document own uri) else none) ∧
    (∀ other, other ≠ uri → (run own s operations).get? other =
      (run own s (operations.filter fun op => op.uri ≠ uri)).get? other) ∧
    ∀ operations', OnlyChanges uri operations' →
      (changesOn uri operations').Perm (changesOn uri operations) →
      ((changesOn uri operations).map Edit.version).Nodup →
      (run own s operations').get? uri = (run own s operations).get? uri := by
  refine ⟨?_, ?_, ?_, ?_⟩
  · have present : List.argmax Edit.version (changesOn uri operations) ≠ none := fun absent =>
      nonempty (List.argmax_eq_none.mp absent)
    obtain ⟨newest, greatest⟩ := Option.ne_none_iff_exists'.mp present
    refine ⟨newest, greatest, ?_⟩
    rw [get?_run_of_onlyChanges only, foldl_onto, greatest]
    rfl
  · rintro before edit after rfl
    have earlier : OnlyChanges uri before := fun op member =>
      only op (List.mem_append_left _ member)
    rw [perform_changed, apply_ite Prod.snd]
    exact if_congr (isNew_run_iff earlier edit) rfl rfl
  · intro other different
    rw [get?_run, get?_run, List.filter_filter]
    congr 1
    refine List.filter_congr fun op _ => ?_
    by_cases same : op.uri = other
    · simp [same, different]
    · simp [same]
  · intro operations' only' same distinct
    rw [get?_run_of_onlyChanges only, get?_run_of_onlyChanges only', foldl_onto, foldl_onto,
      argmax_eq_of_perm same distinct]

section Late

def page : String := "file:///site/page.jqtpl"

def frame : String := "file:///site/frame.jqtpl"

def opened : Store := (empty.openDocument {} page ['a'] 3).1

def shuffled : List Operation :=
  [.changed page ⟨['b'], 5, none⟩, .opened frame ⟨['x'], 1, none⟩, .changed page ⟨['c'], 5, none⟩,
    .changed page ⟨['d'], 4, none⟩, .closed frame]

theorem late_changes_dropped : OnlyChanges page shuffled ∧ changesOn page shuffled ≠ [] ∧
    (run {} opened shuffled).get? page = some (Edit.document {} page ⟨['b'], 5, none⟩) := by
  have only : OnlyChanges page shuffled := by
    simp [OnlyChanges, shuffled, Operation.uri, page, frame]
  have nonempty : changesOn page shuffled ≠ [] := by decide
  obtain ⟨newest, greatest, final⟩ :=
    (greatest_version_stays {} opened page shuffled only nonempty).1
  have first : List.argmax Edit.version (changesOn page shuffled) = some ⟨['b'], 5, none⟩ := by
    decide
  obtain rfl : ⟨['b'], 5, none⟩ = newest := Option.some.inj (first.symm.trans greatest)
  have isNew : Edit.IsNew ⟨['b'], 5, none⟩ (opened.get? page) := by decide
  exact ⟨only, nonempty, final.trans (if_pos isNew)⟩

end Late

end JqTemplate.Store
