import JqTemplate.Command.Run
import JqTemplate.Proofs.Quoted
import Mathlib

namespace JqTemplate

section Lines

open Highlight (endsLine linesWithEnds)

variable {line rest : List Char} {lines : List (List Char)}

theorem linesWithEnds_cons (plain : ∀ c ∈ line, endsLine c = false) :
    linesWithEnds (line ++ '\n' :: rest) = (line ++ ['\n']) :: linesWithEnds rest := by
  induction line with
  | nil =>
    have feed : endsLine '\n' = true := by decide
    cases behind : linesWithEnds rest with
    | nil => simp [linesWithEnds, behind]
    | cons next more => simp [linesWithEnds, behind, feed]
  | cons c front ih =>
    have inside : endsLine c = false := plain c List.mem_cons_self
    have later := ih fun d member => plain d (List.mem_cons_of_mem c member)
    simp [linesWithEnds, later, inside]

theorem linesWithEnds_ended (plain : ∀ line ∈ lines, ∀ c ∈ line, endsLine c = false) :
    linesWithEnds (lines.flatMap fun line => line ++ ['\n']) =
      lines.map fun line => line ++ ['\n'] := by
  induction lines with
  | nil => rfl
  | cons line rest ih =>
    have first := plain line List.mem_cons_self
    have later := ih fun other member => plain other (List.mem_cons_of_mem line member)
    rw [List.flatMap_cons, List.append_assoc, List.singleton_append, linesWithEnds_cons first,
      later, List.map_cons]

end Lines

namespace Text

variable {c : Char}

theorem not_endsLine_of_isPrintable (shown : isPrintable c = true) :
    Highlight.endsLine c = false := by
  have hiddenEnds : ∀ n ∈ [0xa, 0xb, 0xc, 0xd, 0x1c, 0x1d, 0x1e, 0x85, 0x2028, 0x2029],
      isPrintable (Char.ofNat n) = false := by decide +kernel
  refine Bool.eq_false_iff.mpr fun ends => ?_
  have among : c.toNat ∈ [0xa, 0xb, 0xc, 0xd, 0x1c, 0x1d, 0x1e, 0x85, 0x2028, 0x2029] := by
    simp only [Highlight.endsLine, Bool.or_eq_true, Bool.and_eq_true, decide_eq_true_eq] at ends
    simp only [List.mem_cons, List.not_mem_nil, or_false]
    omega
  have hidden := hiddenEnds c.toNat among
  rw [Char.ofNat_toNat, shown] at hidden
  cases hidden

end Text

section Numbers

variable {c : Char} {n : Int}

theorem mem_repr (member : c ∈ n.repr.toList) : c = '-' ∨ c.isDigit = true := by
  have digits {k : Nat} (among : c ∈ (Nat.repr k).toList) : c.isDigit = true := by
    rw [Nat.repr_eq_ofList_toDigits, String.toList_ofList] at among
    exact Nat.isDigit_of_mem_toDigits (by decide) (by decide) among
  rw [Int.repr_eq_if] at member
  split at member
  · exact .inr (digits member)
  · rw [String.toList_append] at member
    rcases List.mem_append.mp member with sign | digit
    · exact .inl (List.mem_singleton.mp sign)
    · exact .inr (digits digit)

theorem isPrintable_of_mem_repr (member : c ∈ n.repr.toList) : Text.isPrintable c = true := by
  rcases mem_repr member with rfl | digit
  · decide
  · obtain ⟨least, greatest⟩ := Char.isDigit_iff_toNat.mp digit
    change 48 ≤ c.toNat at least
    change c.toNat ≤ 57 at greatest
    exact Text.isPrintable_of_ascii (by omega) (by omega)

theorem not_mem_repr (sign : c ≠ '-') (other : c.isDigit = false) : c ∉ n.repr.toList := by
  intro member
  rcases mem_repr member with same | digit
  · exact sign same
  · rw [digit] at other
    cases other

end Numbers

section Splitting

variable {α : Type} {mark : α} {front front' back back' : List α}

/-- Where a mark is not met again, a list is split at it in one way. -/
theorem split_at_last_mark (last : mark ∉ back) (last' : mark ∉ back')
    (same : front ++ mark :: back = front' ++ mark :: back') : front = front' ∧ back = back' := by
  rcases List.append_eq_append_iff.mp same with ⟨more, rfl, rest⟩ | ⟨more, rfl, rest⟩
  · cases more with
    | nil => exact ⟨(List.append_nil front).symm, (List.cons.inj rest).2⟩
    | cons x more =>
      have again : mark ∈ back := by simp [(List.cons.inj rest).2]
      exact absurd again last
  · cases more with
    | nil => exact ⟨List.append_nil front', (List.cons.inj rest).2.symm⟩
    | cons x more =>
      have again : mark ∈ back' := by simp [(List.cons.inj rest).2]
      exact absurd again last'

end Splitting

namespace Span

theorem toString_toList (s : Span) :
    s.toString.toList = (s.start.repr.toList ++ ['.']) ++ '.' :: s.stop.repr.toList := by
  have whole : s.toString = s.start.repr ++ ".." ++ s.stop.repr := rfl
  simp [whole]

theorem toString_injective : Function.Injective Span.toString := by
  intro s s' same
  have letters := congrArg String.toList same
  have plain (n : Int) : '.' ∉ n.repr.toList := not_mem_repr (by decide) (by decide)
  rw [toString_toList, toString_toList] at letters
  obtain ⟨starts, stops⟩ := split_at_last_mark (plain s.stop) (plain s'.stop) letters
  have start := Int.repr_injective (String.toList_inj.mp (List.append_cancel_right starts))
  have stop := Int.repr_injective (String.toList_inj.mp stops)
  cases s
  cases s'
  simp_all

theorem isPrintable_of_mem_toString {s : Span} {c : Char} (member : c ∈ s.toString.toList) :
    Text.isPrintable c = true := by
  rw [toString_toList] at member
  rcases List.mem_append.mp member with front | back
  · rcases List.mem_append.mp front with number | dot
    · exact isPrintable_of_mem_repr number
    · obtain rfl := List.mem_singleton.mp dot
      decide
  · rcases List.mem_cons.mp back with rfl | number
    · decide
    · exact isPrintable_of_mem_repr number

end Span

namespace Form

def named : List Form := .content :: Keyword.table.map .directive

variable {c : Char} {form form' : Form} {body : List Char}

theorem named_or_unknown (form : Form) : form ∈ named ∨ ∃ body, form = .unknown body := by
  cases form with
  | content => exact .inl List.mem_cons_self
  | directive k => exact .inl (List.mem_cons_of_mem _ (List.mem_map_of_mem (by cases k <;> decide)))
  | unknown body => exact .inr ⟨body, rfl⟩

theorem describe_ne_unknown (known : form ∈ named) :
    form.describe ≠ (Form.unknown body).describe := by
  have first : ∀ form ∈ named, form.describe.head? ≠ some 'U' := by decide
  intro same
  exact first form known (congrArg List.head? same)

theorem describe_injective : Function.Injective Form.describe := by
  intro form form' same
  rcases form.named_or_unknown with known | ⟨body, rfl⟩
  · rcases form'.named_or_unknown with known' | ⟨body', rfl⟩
    · have distinct : ∀ f ∈ named, ∀ f' ∈ named, f.describe = f'.describe → f = f' := by decide
      exact distinct form known form' known' same
    · exact absurd same (describe_ne_unknown known)
  · rcases form'.named_or_unknown with known' | ⟨body', rfl⟩
    · exact absurd same.symm (describe_ne_unknown known')
    · have bodies := List.append_cancel_left (List.append_cancel_right same)
      rw [Text.quoted_injective bodies]

theorem isPrintable_of_mem_describe (member : c ∈ form.describe) : Text.isPrintable c = true := by
  rcases form.named_or_unknown with known | ⟨body, rfl⟩
  · have plain : ∀ form ∈ named, form.describe.all Text.isPrintable = true := by decide
    exact List.all_eq_true.mp (plain form known) c member
  · rcases List.mem_append.mp member with front | bracket
    · rcases List.mem_append.mp front with word | inside
      · have plain : "UNKNOWN(".toList.all Text.isPrintable = true := by decide
        exact List.all_eq_true.mp plain c word
      · exact Text.isPrintable_of_mem_quoted inside
    · obtain rfl := List.mem_singleton.mp bracket
      decide

end Form

namespace Statement

/-- The line of a statement gives back its form and its span. -/
theorem describe_injective : Function.Injective Statement.describe := by
  intro s s' same
  have plain (span : Span) : ' ' ∉ span.toString.toList := by
    rw [Span.toString_toList]
    have number (n : Int) : ' ' ∉ n.repr.toList := not_mem_repr (by decide) (by decide)
    simp [number]
  obtain ⟨forms, spans⟩ := split_at_last_mark (plain s.span) (plain s'.span) same
  have form := Form.describe_injective forms
  have span := Span.toString_injective (String.toList_inj.mp spans)
  cases s
  cases s'
  simp_all

theorem isPrintable_of_mem_describe {s : Statement} {c : Char} (member : c ∈ s.describe) :
    Text.isPrintable c = true := by
  rcases List.mem_append.mp member with form | rest
  · exact Form.isPrintable_of_mem_describe form
  · rcases List.mem_cons.mp rest with rfl | span
    · decide
    · exact Span.isPrintable_of_mem_toString span

end Statement

namespace Command

open Files (System Tree Path)

theorem ended_toList (lines : List String) :
    (ended lines).toList = lines.flatMap fun line => line.toList ++ ['\n'] := by
  simp [ended, List.flatMap_map]

def listedLine (s : Statement) : List Char := s.describe ++ ['\n']

theorem listed_toList (source : Source) :
    (printStatements false source).stdout.toList =
      (JqTemplate.parse source.text).flatMap listedLine := by
  have plain : (printStatements false source).stdout =
      ended (listing (JqTemplate.parse source.text)) := rfl
  rw [plain, ended_toList, listing, List.flatMap_map]
  simp only [String.toList_ofList]
  rfl

theorem listedLine_injective : Function.Injective listedLine := by
  intro s s' same
  apply Statement.describe_injective
  exact List.append_cancel_right same

theorem linesWithEnds_listed (source : Source) :
    Highlight.linesWithEnds (printStatements false source).stdout.toList =
      (JqTemplate.parse source.text).map listedLine := by
  have plain : ∀ line ∈ (JqTemplate.parse source.text).map Statement.describe,
      ∀ c ∈ line, Highlight.endsLine c = false := by
    intro line member c inside
    obtain ⟨s, _, rfl⟩ := List.mem_map.mp member
    exact Text.not_endsLine_of_isPrintable (Statement.isPrintable_of_mem_describe inside)
  have lines := linesWithEnds_ended plain
  rw [List.flatMap_map, List.map_map] at lines
  rw [listed_toList]
  exact lines

theorem escapeChar_not_mem_listed (source : Source) :
    Text.escapeChar ∉ (printStatements false source).stdout.toList := by
  have hidden : Text.isPrintable Text.escapeChar = false := by decide
  rw [listed_toList]
  intro member
  obtain ⟨s, _, inside⟩ := List.mem_flatMap.mp member
  rcases List.mem_append.mp inside with described | feed
  · rw [Statement.isPrintable_of_mem_describe described] at hidden
    cases hidden
  · exact absurd (List.mem_singleton.mp feed) (by decide)

/-- What is printed for a template has one line for each of its statements, and two templates have
the same print only if they have the same statements. Nothing in it is for the terminal. -/
theorem listing_lossless (source : Source) :
    Highlight.linesWithEnds (printStatements false source).stdout.toList =
      (JqTemplate.parse source.text).map (fun s => s.describe ++ ['\n']) ∧
    (∀ source' : Source,
      (printStatements false source).stdout = (printStatements false source').stdout ↔
        JqTemplate.parse source.text = JqTemplate.parse source'.text) ∧
    Text.escapeChar ∉ (printStatements false source).stdout.toList ∧
    ∀ (sys : System) (file : String), readSource sys (Path.ofString file) = .ok source →
      Request.perform sys (.parse file false) = .ok (printStatements false source) := by
  refine ⟨linesWithEnds_listed source, fun source' => ⟨fun same => ?_, fun same => ?_⟩,
    escapeChar_not_mem_listed source, ?_⟩
  · have lines := linesWithEnds_listed source
    rw [same, linesWithEnds_listed] at lines
    exact (List.map_injective_iff.mpr listedLine_injective lines).symm
  · apply String.toList_inj.mp
    rw [listed_toList, listed_toList, same]
  · intro sys file readable
    simp only [Request.perform, withSource, readable]

/-- An unknown directive whose body holds a quote and two of the characters that end lines. -/
theorem separators_listed_on_one_line :
    let sys : System := Tree.system ⟨[(["a"], .file [123, 123, 39, 10, 226, 128, 168, 125, 125])]⟩ []
    let source : Source := ⟨"a", ['{', '{', '\'', '\n', '\u2028', '}', '}']⟩
    readSource sys (Path.ofString "a") = .ok source ∧
      Request.perform sys (.parse "a" false) = .ok (printStatements false source) ∧
      Highlight.linesWithEnds (printStatements false source).stdout.toList =
        ["UNKNOWN(\"'\\n\\u2028\") 0..7\n".toList] := by
  intro sys source
  have readable : readSource sys (Path.ofString "a") = .ok source := by rfl
  have listed : (JqTemplate.parse source.text).map (fun s => s.describe ++ ['\n']) =
      ["UNKNOWN(\"'\\n\\u2028\") 0..7\n".toList] := by decide +kernel
  obtain ⟨lines, _, _, printed⟩ := listing_lossless source
  exact ⟨readable, printed sys "a" readable, lines.trans listed⟩

end Command

end JqTemplate
