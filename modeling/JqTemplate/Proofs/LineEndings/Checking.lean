import JqTemplate.Proofs.Alike
import JqTemplate.Proofs.LineEndings.Reading
import JqTemplate.Proofs.Mending

namespace JqTemplate

def unified (m : String) : String := String.ofList (Highlight.unifyLines m.toList)

/-- Two wordings of which the second is the first without its returns. -/
structure Unites (m m' : String) : Prop where
  paired : PairedReturns m.toList
  thin : m'.toList = withoutReturns m.toList

namespace Unites

variable {a a' b b' m m' : String} {body : List Char}

theorem eq_unified (h : Unites m m') : m' = unified m := by
  apply String.toList_injective
  rw [unified, String.toList_ofList, unifyLines_eq h.paired, h.thin]

theorem fixed (m : String) (free : '\r' ∉ m.toList) : Unites m m :=
  ⟨.of_not_mem free, (withoutReturns_of_not_mem free).symm⟩

theorem text (paired : PairedReturns body) :
    Unites (String.ofList body) (String.ofList (withoutReturns body)) := by
  constructor
  · rwa [String.toList_ofList]
  · rw [String.toList_ofList, String.toList_ofList]

theorem append (ha : Unites a a') (hb : Unites b b') : Unites (a ++ b) (a' ++ b') := by
  constructor
  · rw [String.toList_append]
    exact ha.paired.append hb.paired
  · rw [String.toList_append, String.toList_append, withoutReturns_append, ha.thin, hb.thin]

theorem marked (h : Unites m m') : Unites (marked m) (JqTemplate.marked m') :=
  ((fixed openMark (by decide)).append h).append (fixed closeMark (by decide))

theorem cited (h : Unites m m') : Unites (cited m) (JqTemplate.cited m') :=
  ((fixed "'" (by decide)).append h.marked).append (fixed "'" (by decide))

end Unites

section Bodies

variable {body rest word near : List Char} {c : Char}

theorem trimStart_withoutReturns (body : List Char) :
    Text.trimStart (withoutReturns body) = withoutReturns (Text.trimStart body) := by
  induction body with
  | nil => rfl
  | cons c rest ih =>
    unfold Text.trimStart at ih ⊢
    by_cases here : c = '\r'
    · have blank : Text.isBlank c = true := here ▸ by decide
      rw [List.dropWhile_cons_of_pos blank, ← ih, here, withoutReturns_return]
    · rw [withoutReturns_cons here]
      cases blank : Text.isBlank c with
      | true => rw [List.dropWhile_cons_of_pos blank, List.dropWhile_cons_of_pos blank, ih]
      | false =>
        rw [List.dropWhile_cons_of_neg (by simp [blank]), List.dropWhile_cons_of_neg (by simp [blank]),
          withoutReturns_cons here]

theorem all_blank_withoutReturns (body : List Char) :
    (withoutReturns body).all Text.isBlank = body.all Text.isBlank := by
  induction body with
  | nil => rfl
  | cons c rest ih =>
    by_cases here : c = '\r'
    · have blank : Text.isBlank c = true := here ▸ by decide
      rw [List.all_cons, blank, Bool.true_and, ← ih, here, withoutReturns_return]
    · rw [withoutReturns_cons here, List.all_cons, List.all_cons, ih]

namespace Unknown

theorem IsWord.not_mem (is : IsWord word) (start : isNameStart c = false)
    (goes : Text.isWordChar c = false) (symbol : c ≠ '=' ∧ c ≠ '!' ∧ c ≠ '/') : c ∉ word := by
  have other {first : Char} {tail : List Char} (starts : isNameStart first = true)
      (inTail : ∀ d ∈ tail, Text.isWordChar d = true) : c ∉ first :: tail := by
    intro member
    rcases List.mem_cons.mp member with rfl | behind
    · simp [starts] at start
    · simp [inTail c behind] at goes
  cases is with
  | symbol is => rcases is with rfl | rfl <;> simp [symbol]
  | name starts inTail => exact other starts inTail
  | slashed starts inTail =>
    rw [List.mem_cons, not_or]
    exact ⟨symbol.2.2, other starts inTail⟩

theorem IsWord.one_line (is : IsWord word) : '\r' ∉ word ∧ '\n' ∉ word :=
  ⟨is.not_mem (by decide) (by decide) (by decide), is.not_mem (by decide) (by decide) (by decide)⟩

theorem ends_withoutReturns (paired : PairedReturns rest) :
    Ends word (withoutReturns rest) ↔ Ends word rest := by
  have first : (withoutReturns rest).head?.any Text.isWordChar =
      rest.head?.any Text.isWordChar := head?_any_withoutReturns paired (by decide)
  rw [Ends, Ends, first]

theorem headOf_withoutReturns (paired : PairedReturns body) :
    headOf (withoutReturns body) = headOf body := by
  apply Option.ext
  intro word
  rw [headOf_eq_some_iff, headOf_eq_some_iff]
  constructor
  · rintro ⟨rest, thin, is, ends⟩
    obtain ⟨behind, rfl, pairedBehind, rfl⟩ :=
      exists_of_withoutReturns_append paired is.one_line.2 thin
    exact ⟨behind, rfl, is, (ends_withoutReturns pairedBehind).mp ends⟩
  · rintro ⟨rest, rfl, is, ends⟩
    refine ⟨withoutReturns rest, ?_, is, (ends_withoutReturns paired.right).mpr ends⟩
    rw [withoutReturns_append, withoutReturns_of_not_mem is.one_line.1]

theorem trimStart_paired (paired : PairedReturns body) : PairedReturns (Text.trimStart body) := by
  rw [← Text.leadingBlanks_append_trimStart body] at paired
  exact paired.right

theorem head?_withoutReturns (paired : PairedReturns body) :
    head? (withoutReturns body) = head? body := by
  unfold head?
  rw [trimStart_withoutReturns]
  exact headOf_withoutReturns (trimStart_paired paired)

theorem withoutReturns_eq_word_iff (paired : PairedReturns body) (is : IsWord word) :
    withoutReturns body = word ↔ body = word := by
  constructor
  · intro thin
    rw [← List.append_nil word] at thin
    obtain ⟨behind, rfl, pairedBehind, nothing⟩ :=
      exists_of_withoutReturns_append paired is.one_line.2 thin
    have empty := isEmpty_withoutReturns pairedBehind
    rw [nothing] at empty
    rw [List.isEmpty_iff.mp empty.symm, List.append_nil]
  · rintro rfl
    exact withoutReturns_of_not_mem is.one_line.1

theorem replaceHead_append {blanks : List Char} (blank : ∀ c ∈ blanks, Text.isBlank c = true)
    (is : IsWord word) (rest near : List Char) :
    replaceHead (blanks ++ (word ++ rest)) word near = blanks ++ (near ++ rest) := by
  rw [replaceHead, leadingBlanks_append blank is, trimStart_append blank is, List.drop_left,
    List.append_assoc]

theorem replaceHead_unites (paired : PairedReturns body) (head : head? body = some word)
    (free : '\r' ∉ near) :
    Unites (String.ofList (replaceHead body word near))
      (String.ofList (replaceHead (withoutReturns body) word near)) := by
  obtain ⟨blanks, rest, rfl, blank, is, _⟩ := head?_eq_some_iff.mp head
  have front : PairedReturns blanks := by
    apply paired.left
    rw [List.head?_append_of_ne_nil _ is.ne_nil]
    intro feed
    have first := is.not_blank
    rw [feed] at first
    contradiction
  have behind : PairedReturns rest := paired.right.right
  have thinBlank : ∀ c ∈ withoutReturns blanks, Text.isBlank c = true :=
    fun c member => blank c (List.mem_of_mem_filter member)
  have thin : withoutReturns (blanks ++ (near ++ rest)) =
      withoutReturns blanks ++ (near ++ withoutReturns rest) := by
    rw [withoutReturns_append, withoutReturns_append, withoutReturns_of_not_mem free]
  rw [withoutReturns_append, withoutReturns_append, withoutReturns_of_not_mem is.one_line.1,
    replaceHead_append blank is, replaceHead_append thinBlank is, ← thin]
  exact .text (front.append ((PairedReturns.of_not_mem free).append behind))

section Findings

variable {meets : Statement → Statement → Prop} {s s' : Statement} (met : meets s s')
  (severity : Severity)

include met

theorem label_alike (message : String) (free : '\r' ∉ message.toList) :
    List.Forall₂ (Label.Alike meets Unites) [⟨s.span, message, .primary⟩]
      [⟨s'.span, message, .primary⟩] :=
  .cons (.of_meets met _ (.fixed message free)) .nil

theorem withoutHead_alike (paired : PairedReturns body) :
    Diagnostic.Alike meets Unites (withoutHead severity s.span body)
      (withoutHead severity s'.span (withoutReturns body)) := by
  unfold withoutHead
  rw [all_blank_withoutReturns]
  refine ⟨rfl, rfl, ?_, by simp, label_alike met _ ?_, .nil, .nil⟩
  · exact (Unites.fixed "unknown directive " (by decide)).append (Unites.text paired).cited
  · split <;> decide

theorem withoutExpression_alike (is : IsWord word) :
    Diagnostic.Alike meets Unites (withoutExpression severity s.span (String.ofList word))
      (withoutExpression severity s'.span (String.ofList word)) := by
  have spelt : Unites (String.ofList word) (String.ofList word) :=
    .fixed _ (by simpa using is.one_line.1)
  refine ⟨rfl, rfl, ?_, by simp [withoutExpression], label_alike met _ (by decide), ?_, .nil⟩
  · exact ((Unites.fixed "'" (by decide)).append spelt).append (.fixed _ (by decide))
  · have expression : Unites (marked (String.ofList word ++ " ..."))
        (marked (String.ofList word ++ " ...")) := (spelt.append (.fixed _ (by decide))).marked
    exact .cons ⟨.fixed "add an expression" (by decide), expression⟩ .nil

theorem withHead_alike (is : IsWord word) {suggestions suggestions' : List Suggestion}
    {notes : List String}
    (alike : List.Forall₂ (Suggestion.Alike Unites) suggestions suggestions')
    (free : ∀ note ∈ notes, '\r' ∉ note.toList) :
    Diagnostic.Alike meets Unites
      (withHead severity s.span (String.ofList word) suggestions notes)
      (withHead severity s'.span (String.ofList word) suggestions' notes) := by
  have spelt : Unites (String.ofList word) (String.ofList word) :=
    .fixed _ (by simpa using is.one_line.1)
  refine ⟨rfl, rfl, ?_, by simp [withHead], label_alike met _ (by decide), alike, ?_⟩
  · exact ((Unites.fixed "unknown directive '" (by decide)).append spelt).append
      (.fixed "'" (by decide))
  · exact List.forall₂_same.mpr fun note member => .fixed note (free note member)

theorem diagnose_alike (paired : PairedReturns body) :
    Diagnostic.Alike meets Unites (diagnose severity s.span body)
      (diagnose severity s'.span (withoutReturns body)) := by
  unfold diagnose
  rw [head?_withoutReturns paired]
  cases head : head? body with
  | none => exact withoutHead_alike met severity paired
  | some word =>
    obtain ⟨_, _, _, _, is, _⟩ := head?_eq_some_iff.mp head
    have whole : decide (withoutReturns body = word) = decide (body = word) := by
      rw [Bool.eq_iff_iff, decide_eq_true_iff, decide_eq_true_iff]
      exact withoutReturns_eq_word_iff paired is
    have blank : (withoutReturns body).head?.any Text.isBlank = body.head?.any Text.isBlank :=
      head?_any_withoutReturns paired (by decide)
    simp only [whole, blank]
    split
    · exact withoutExpression_alike met severity is
    · split
      · have trimmed := (Unites.text (trimStart_paired paired)).marked
        rw [← trimStart_withoutReturns] at trimmed
        have removed := Unites.fixed "remove the leading whitespace" (by decide)
        exact withHead_alike met severity is (.cons ⟨removed, trimmed⟩ .nil) (by decide)
      · split
        · rename_i near close
          obtain ⟨k, rfl⟩ := mem_wordKeywords (Text.mem_of_closest close)
          have free := (letters_one_line k).1
          have asked : Unites ("did you mean '" ++ String.ofList k.letters ++ "'?")
              ("did you mean '" ++ String.ofList k.letters ++ "'?") :=
            .fixed _ (by cases k <;> decide)
          have replaced := (replaceHead_unites paired head free).marked
          exact withHead_alike met severity is (.cons ⟨asked, replaced⟩ .nil) (by simp)
        · exact withHead_alike met severity is .nil (by simp)

end Findings

end Unknown

end Bodies

section Texts

variable {text : List Char} {s t : Statement}

def Thinned (text : List Char) (s s' : Statement) : Prop :=
  IsDirective text s ∧ s' = s.thin text

theorem mark_thin (text : List Char) (s : Statement) : (s.thin text).mark? = s.mark? := by
  obtain ⟨form, span⟩ := s
  cases form <;> rfl

theorem IsDirective.thinned_start_lt_iff (hs : IsDirective text s) (ht : IsDirective text t) :
    (s.thin text).span.start < (t.thin text).span.start ↔ s.span.start < t.span.start := by
  obtain ⟨i, close, spanS, opensS, _⟩ := hs
  obtain ⟨j, close', spanT, opensT, _⟩ := ht
  simp only [Statement.thin, Span.thin, spanS, spanT, Int.toNat_natCast, Int.ofNat_lt]
  constructor
  · intro less
    by_contra order
    have back : thinned text j ≤ thinned text i := thinned_mono (Nat.not_lt.mp order)
    omega
  · exact thinned_lt opensS.1 (by decide)

theorem IsDirective.inner_thin (directive : IsDirective text s) (paired : PairedReturns text) :
    PairedReturns (s.span.inner text) ∧
      (s.thin text).span.inner (withoutReturns text) = withoutReturns (s.span.inner text) := by
  obtain ⟨pre, body, post, rfl, _, rfl, _, inside⟩ := directive.split_paired paired
  have whole : withoutReturns (pre ++ (enclosed body ++ post)) =
      withoutReturns pre ++ (enclosed (withoutReturns body) ++ withoutReturns post) := by
    rw [withoutReturns_append, withoutReturns_append, withoutReturns_enclosed]
  simp only [Statement.thin]
  rw [thin_place, whole, Span.inner_enclosed, Span.inner_enclosed]
  exact ⟨inside, rfl⟩

theorem isPlainElse_thin (paired : PairedReturns text) (directive : IsDirective text s)
    (mark : s.mark? = some .branches) :
    Nesting.isPlainElse (withoutReturns text) (s.thin text) = Nesting.isPlainElse text s := by
  obtain ⟨k, form, plays⟩ := Statement.keyword?_of_mark mark
  obtain rfl : k = .elseBranch := by cases k <;> simp [Keyword.mark?] at plays ⊢
  have known : recognize (s.span.inner text) = some .elseBranch := by
    obtain ⟨_, _, _, _, _, own⟩ := directive
    rw [own, Form.ofBody] at form
    split at form
    · rename_i k' known
      rw [known, Form.directive.inj form]
    · contradiction
  have word : withoutReturns Keyword.elseBranch.letters = Keyword.elseBranch.letters := by decide
  unfold Nesting.isPlainElse
  rw [(directive.inner_thin paired).2, rest_of_recognized known, withoutReturns_append, word,
    List.drop_left, List.drop_left, all_blank_withoutReturns]

theorem unknown_thin (config : CheckConfig) (paired : PairedReturns text)
    (directive : IsDirective text s) :
    Option.Rel (Diagnostic.Alike (Thinned text) Unites) (unknownFinding? config s)
      (unknownFinding? config (s.thin text)) := by
  have met : Thinned text s (s.thin text) := ⟨directive, rfl⟩
  obtain ⟨_, _, _, _, _, form⟩ := id directive
  have thin : (s.thin text).form = (Form.ofBody (s.span.inner text)).thin := by
    rw [Statement.thin, form]
  have inside := (directive.inner_thin paired).1
  unfold unknownFinding?
  rw [form, thin, Form.ofBody]
  cases recognize (s.span.inner text) with
  | some k => exact .none
  | none => exact .some (Unknown.diagnose_alike met config.unknown inside)

theorem thinned_corresponds (config : CheckConfig) (paired : PairedReturns text) :
    Corresponds (Thinned text) Unites config text (withoutReturns text) where
  mark := by
    rintro s _ ⟨_, rfl⟩
    exact mark_thin text s
  long := by
    rintro s _ ⟨directive, rfl⟩
    exact ⟨directive.long, (directive.thin paired).long⟩
  order := by
    rintro s _ t _ ⟨hs, rfl⟩ ⟨ht, rfl⟩
    exact hs.thinned_start_lt_iff ht
  plain := by
    rintro s _ ⟨directive, rfl⟩ mark
    exact isPlainElse_thin paired directive mark
  unknown := by
    rintro s _ ⟨directive, rfl⟩
    exact unknown_thin config paired directive
  fixed := Unites.fixed

theorem directives_thinned (paired : PairedReturns text) :
    List.Forall₂ (Thinned text) (readDirectives text)
      (readDirectives (withoutReturns text)) := by
  unfold readDirectives
  rw [parse_withoutReturns paired, List.filter_map, List.forall₂_map_right_iff]
  have same : ((fun s : Statement => !s.isContent) ∘ Statement.thin text) =
      fun s => !s.isContent := by
    funext s
    simp only [Function.comp_apply, isContent_thin]
  rw [same, List.forall₂_same]
  intro s member
  exact ⟨isDirective_of_mem_readDirectives member, rfl⟩

theorem IsDirective.positions_thin (directive : IsDirective text s) (paired : PairedReturns text)
    (unit : ColumnUnit) :
    Position.ofOffset unit (withoutReturns text) (s.thin text).span.start =
        Position.ofOffset unit text s.span.start ∧
      Position.ofOffset unit (withoutReturns text) (s.thin text).span.stop =
        Position.ofOffset unit text s.span.stop := by
  obtain ⟨pre, body, post, whole, _, rfl, before, inside⟩ := directive.split_paired paired
  have begins : text.take pre.length = pre := by rw [whole, List.take_left]
  have ends : text.take (pre.length + (enclosed body).length) = pre ++ enclosed body := by
    rw [whole, ← List.append_assoc, ← List.length_append, List.take_left]
  have both : PairedReturns (pre ++ enclosed body) := before.append (enclosed_paired inside)
  constructor
  · exact Position.ofOffset_thinned (begins.symm ▸ before)
  · exact Position.ofOffset_thinned (ends.symm ▸ both)

end Texts

/-- What two findings have in common that differ in their line endings only: where they stand, and
what they say as far as lines go. -/
structure Diagnostic.SameByLines (text text' : List Char) (d d' : Diagnostic) : Prop where
  severity : d'.severity = d.severity
  code : d'.code = d.code
  message : d'.message = unified d.message
  labels : List.Forall₂ (fun l l' =>
    l'.message = unified l.message ∧ l'.style = l.style ∧ ∀ unit,
      Position.ofOffset unit text' l'.span.start = Position.ofOffset unit text l.span.start ∧
      Position.ofOffset unit text' l'.span.stop = Position.ofOffset unit text l.span.stop)
    d.labels d'.labels
  suggestions : List.Forall₂ (fun x x' =>
    x'.message = unified x.message ∧ x'.replacement = unified x.replacement)
    d.suggestions d'.suggestions
  notes : List.Forall₂ (fun note note' => note' = unified note) d.notes d'.notes

/-- A text whose returns all end lines is reported on as if it had been read from a file. -/
theorem check_unified (config : CheckConfig) (text : List Char) (paired : PairedReturns text) :
    List.Forall₂ (Diagnostic.SameByLines text (Highlight.unifyLines text))
      (check config text).diagnostics (check config (Highlight.unifyLines text)).diagnostics := by
  rw [unifyLines_eq paired]
  unfold check
  rw [checkStatements_directives config text, checkStatements_directives config (withoutReturns text)]
  have alike := (checkStatements_alike (thinned_corresponds config paired)
    (directives_thinned paired)).1
  apply alike.imp
  intro d d' same
  refine ⟨same.severity, same.code, same.message.eq_unified, ?_, ?_, ?_⟩
  · apply same.labels.imp
    intro l l' label
    obtain ⟨s, _, ⟨directive, rfl⟩, here, there⟩ := label.place
    rw [here, there]
    exact ⟨label.message.eq_unified, label.style, directive.positions_thin paired⟩
  · exact same.suggestions.imp fun x x' both =>
      ⟨both.message.eq_unified, both.replacement.eq_unified⟩
  · exact same.notes.imp fun note note' both => both.eq_unified

def brokenLines (ending : String) : List Char :=
  (marked ("#" ++ ending) ++ ending ++ marked "/if").toList

theorem broken_lines_unified :
    PairedReturns (brokenLines "\r\n") ∧
    ((check {} (brokenLines "\r\n")).diagnostics.map fun d => (d.code, d.span?)) =
      [(.unknownDirective, some ⟨0, 7⟩), (.unmatchedCloseIf, some ⟨9, 16⟩)] ∧
    List.Forall₂ (Diagnostic.SameByLines (brokenLines "\r\n") (brokenLines "\n"))
      (check {} (brokenLines "\r\n")).diagnostics (check {} (brokenLines "\n")).diagnostics := by
  have paired : PairedReturns (brokenLines "\r\n") := by decide
  have read : Highlight.unifyLines (brokenLines "\r\n") = brokenLines "\n" := by decide
  have same := check_unified {} (brokenLines "\r\n") paired
  rw [read] at same
  exact ⟨paired, by decide, same⟩

end JqTemplate
