import JqTemplate.Store

namespace JqTemplate

open Text (CodePoint)

section Lookup

variable {α β : Type} [DecidableEq α]

theorem lookup_cons_other {key name : α} (different : key ≠ name) (value : β)
    (rest : List (α × β)) : ((name, value) :: rest).lookup key = rest.lookup key := by
  have test : (key == name) = false := beq_eq_false_iff_ne.mpr different
  simp only [List.lookup_cons, test]

theorem lookup_without (gone key : α) (entries : List (α × β)) :
    (entries.filter fun e => e.1 ≠ gone).lookup key =
      if key = gone then none else entries.lookup key := by
  induction entries with
  | nil => simp
  | cons entry rest ih =>
    obtain ⟨name, value⟩ := entry
    by_cases removed : name = gone
    · rw [List.filter_cons_of_neg (by simpa using removed), ih]
      by_cases same : key = gone
      · simp [same]
      · rw [lookup_cons_other (removed ▸ same)]
    · rw [List.filter_cons_of_pos (by simpa using removed)]
      by_cases same : key = name
      · subst same
        simp [removed]
      · rw [lookup_cons_other same, lookup_cons_other same, ih]

end Lookup

section Analysis

variable (config : CheckConfig) (uri : String) (text : List CodePoint) (version : Int)

@[simp] theorem Document.analyze_uri : (analyze config uri text version).uri = uri := rfl

@[simp] theorem Document.analyze_text : (analyze config uri text version).text = text := rfl

@[simp] theorem Document.analyze_version :
    (analyze config uri text version).version = version := rfl

end Analysis

namespace Store

variable (s : Store) (config : CheckConfig) (uri other : String) (text : List CodePoint)
  (version : Int)

@[simp] theorem get?_erase :
    (s.erase uri).get? other = if other = uri then none else s.get? other :=
  lookup_without uri other s.documents

@[simp] theorem get?_insert (d : Document) :
    (s.insert d).get? other = if other = d.uri then some d else s.get? other := by
  by_cases same : other = d.uri
  · simp [get?, insert, same]
  · have rest : (s.erase d.uri).get? other = s.get? other := by simp [same]
    rw [if_neg same, ← rest]
    exact lookup_cons_other same d _

section Names

variable {s : Store} {uri other : String} {d : Document}

theorem get?_insert_self : (s.insert d).get? d.uri = some d := by
  rw [get?_insert]
  exact if_pos rfl

theorem get?_insert_other (different : other ≠ d.uri) :
    (s.insert d).get? other = s.get? other := by
  rw [get?_insert]
  exact if_neg different

theorem get?_erase_self : (s.erase uri).get? uri = none := by
  rw [get?_erase]
  exact if_pos rfl

theorem get?_erase_other (different : other ≠ uri) : (s.erase uri).get? other = s.get? other := by
  rw [get?_erase]
  exact if_neg different

end Names

theorem stored_of_insert {s : Store} {other : String} {d e : Document}
    (stored : (s.insert d).get? other = some e) :
    other = d.uri ∧ e = d ∨ s.get? other = some e := by
  rw [get?_insert] at stored
  split at stored
  · rename_i same
    exact .inl ⟨same, (Option.some.inj stored).symm⟩
  · exact .inr stored

theorem stored_of_erase {s : Store} {uri other : String} {d : Document}
    (stored : (s.erase uri).get? other = some d) : other ≠ uri ∧ s.get? other = some d := by
  rw [get?_erase] at stored
  split at stored
  · contradiction
  · rename_i different
    exact ⟨different, stored⟩

def Distinct (s : Store) : Prop := (s.documents.map Prod.fst).Nodup

variable {s}

theorem Distinct.erase (h : s.Distinct) : (s.erase uri).Distinct :=
  h.sublist (List.filter_sublist.map Prod.fst)

theorem Distinct.insert (h : s.Distinct) (d : Document) : (s.insert d).Distinct := by
  have fresh : d.uri ∉ (s.erase d.uri).documents.map Prod.fst := by simp [Store.erase]
  exact List.nodup_cons.mpr ⟨fresh, h.erase d.uri⟩

variable {uri version}

theorem isStale_iff :
    s.isStale uri version = true ↔ ∃ d, s.get? uri = some d ∧ version ≤ d.version := by
  simp [isStale, Option.any_eq_true]

theorem change_stale (h : s.isStale uri version = true) :
    s.change config uri text version = (s, none) := by
  simp [change, h]

theorem change_fresh (h : s.isStale uri version ≠ true) :
    s.change config uri text version =
      (s.insert (Document.analyze config uri text version),
        some (Document.analyze config uri text version)) := by
  simp [change, h, openDocument]

end Store

end JqTemplate
