import JqTemplate.Text.Quoted
import Mathlib.Data.List.Basic
import Mathlib.Logic.Function.Basic

namespace JqTemplate.Text

section Hexadecimal

variable {width n : Nat} {c : Char} {rest : List Char}

theorem hexValue?_hexDigit (small : n < 16) : hexValue? (hexDigit n) = some n := by
  have all : ∀ n < 16, hexValue? (hexDigit n) = some n := by decide
  exact all n small

theorem hexNumber?_concat (digits : List Char) (c : Char) :
    hexNumber? (digits ++ [c]) =
      (hexNumber? digits).bind fun n => (hexValue? c).map fun d => 16 * n + d := by
  unfold hexNumber?
  rw [List.mapM_append]
  cases digits.mapM hexValue? <;> cases value : hexValue? c <;> simp [value]

theorem hexDigits_length (width n : Nat) : (hexDigits width n).length = width := by
  induction width generalizing n with
  | zero => rfl
  | succ width ih => rw [hexDigits, List.length_append, ih, List.length_singleton]

theorem hexNumber?_hexDigits (fits : n < Nat.pow 16 width) :
    hexNumber? (hexDigits width n) = some n := by
  induction width generalizing n with
  | zero =>
    obtain rfl := Nat.lt_one_iff.mp fits
    rfl
  | succ width ih =>
    have front : n / 16 < Nat.pow 16 width := by
      apply Nat.div_lt_of_lt_mul
      rw [Nat.mul_comm]
      exact fits
    have last : hexValue? (hexDigit (n % 16)) = some (n % 16) :=
      hexValue?_hexDigit (Nat.mod_lt n (by decide))
    rw [hexDigits, hexNumber?_concat, ih front, last, Option.bind_some, Option.map_some,
      Nat.div_add_mod]

theorem mem_hexDigits (member : c ∈ hexDigits width n) : ∃ d < 16, c = hexDigit d := by
  induction width generalizing n with
  | zero => contradiction
  | succ width ih =>
    rcases List.mem_append.mp member with front | last
    · exact ih front
    · exact ⟨n % 16, Nat.mod_lt n (by decide), List.mem_singleton.mp last⟩

end Hexadecimal

def readNumeric (width : Nat) (text : List Char) : Option (Char × List Char) :=
  (hexNumber? (text.take width)).map fun n => (Char.ofNat n, text.drop width)

def readEscaped : List Char → Option (Char × List Char)
  | [] => none
  | c :: rest =>
    if c = backslash then
      match rest with
      | [] => none
      | d :: more =>
        if d = 't' then some ('\t', more)
        else if d = 'n' then some ('\n', more)
        else if d = 'r' then some ('\r', more)
        else if d = 'x' then readNumeric 2 more
        else if d = 'u' then readNumeric 4 more
        else if d = 'U' then readNumeric 8 more
        else some (d, more)
    else some (c, rest)

section Reading

variable {quote c : Char} {rest text text' : List Char}

theorem readNumeric_hexDigits {width : Nat} (fits : c.toNat < Nat.pow 16 width) :
    readNumeric width (hexDigits width c.toNat ++ rest) = some (c, rest) := by
  have long := hexDigits_length width c.toNat
  rw [readNumeric, List.take_left' long, List.drop_left' long, hexNumber?_hexDigits fits,
    Option.map_some, Char.ofNat_toNat]

theorem readEscaped_numericEscape : readEscaped (numericEscape c ++ rest) = some (c, rest) := by
  have bound := toNat_lt c
  unfold numericEscape
  split
  · rename_i fits
    exact readNumeric_hexDigits fits
  · split
    · rename_i fits
      exact readNumeric_hexDigits fits
    · exact readNumeric_hexDigits (Nat.lt_trans bound (by decide))

theorem delimiter_cases (text : List Char) :
    delimiter text = apostrophe ∨ delimiter text = doubleQuote := by
  unfold delimiter
  split
  · exact .inr rfl
  · exact .inl rfl

theorem readEscaped_escaped (is : quote = apostrophe ∨ quote = doubleQuote) :
    readEscaped (escaped quote c ++ rest) = some (c, rest) := by
  fun_cases escaped quote c with
  | case1 marked =>
    -- behind the backslash stands a quote or a second backslash, none of which is a mark
    rcases marked with rfl | rfl
    · rcases is with rfl | rfl <;> rfl
    · rfl
  | case2 _ tab => exact tab ▸ rfl
  | case3 _ _ feed => exact feed ▸ rfl
  | case4 _ _ _ carriage => exact carriage ▸ rfl
  | case5 plain => simp [readEscaped, not_or.mp plain]
  | case6 => exact readEscaped_numericEscape

theorem escaped_ne_nil : escaped quote c ≠ [] := by
  fun_cases escaped quote c with
  | case6 =>
    unfold numericEscape
    split_ifs <;> exact List.cons_ne_nil _ _
  | _ => exact List.cons_ne_nil _ _

theorem flatMap_escaped_injective (is : quote = apostrophe ∨ quote = doubleQuote) :
    Function.Injective (List.flatMap (escaped quote)) := by
  intro text text' same
  induction text generalizing text' with
  | nil =>
    cases text' with
    | nil => rfl
    | cons c rest => exact absurd (List.append_eq_nil_iff.mp same.symm).1 escaped_ne_nil
  | cons c rest ih =>
    cases text' with
    | nil => exact absurd (List.append_eq_nil_iff.mp same).1 escaped_ne_nil
    | cons d rest' =>
      -- what is read first on both sides is one character with one rest
      have first : some (c, rest.flatMap (escaped quote)) =
          some (d, rest'.flatMap (escaped quote)) := by
        rw [← readEscaped_escaped is, ← readEscaped_escaped is]
        exact congrArg readEscaped same
      obtain ⟨rfl, tails⟩ := Prod.mk.inj (Option.some.inj first)
      rw [ih tails]

theorem quoted_injective : Function.Injective quoted := by
  intro text text' same
  obtain ⟨quotes, behind⟩ := List.cons.inj same
  rw [← quotes] at behind
  exact flatMap_escaped_injective (delimiter_cases text) (List.append_cancel_right behind)

end Reading

section Printable

variable {quote c d : Char} {text : List Char}

theorem isPrintable_of_ascii (least : 32 ≤ c.toNat) (greatest : c.toNat < 127) :
    isPrintable c = true := by
  have ascii : c.toNat < 128 := by omega
  simp [isPrintable, ascii, least, greatest]

theorem isPrintable_of_mem_numericEscape (member : c ∈ numericEscape d) :
    isPrintable c = true := by
  have hex {width n : Nat} (digit : c ∈ hexDigits width n) : isPrintable c = true := by
    have all : ∀ n < 16, isPrintable (hexDigit n) = true := by decide
    obtain ⟨value, small, rfl⟩ := mem_hexDigits digit
    exact all value small
  unfold numericEscape at member
  split_ifs at member
  all_goals
    rcases List.mem_cons.mp member with rfl | member
    · decide
    rcases List.mem_cons.mp member with rfl | digit
    · decide
    · exact hex digit

theorem isPrintable_of_mem_escaped (is : quote = apostrophe ∨ quote = doubleQuote)
    (member : c ∈ escaped quote d) : isPrintable c = true := by
  have pair {mark : Char} (shown : isPrintable mark = true) (among : c ∈ [backslash, mark]) :
      isPrintable c = true := by
    rcases List.mem_pair.mp among with rfl | rfl
    · decide
    · exact shown
  revert member
  fun_cases escaped quote d with
  | case1 marked =>
    refine pair ?_
    rcases marked with rfl | rfl
    · rcases is with rfl | rfl <;> decide
    · decide
  | case2 => exact pair (by decide)
  | case3 => exact pair (by decide)
  | case4 => exact pair (by decide)
  | case5 _ _ _ _ shown => exact fun member => List.mem_singleton.mp member ▸ shown
  | case6 => exact isPrintable_of_mem_numericEscape

theorem isPrintable_of_mem_quoted (member : c ∈ quoted text) : isPrintable c = true := by
  have delimiters : isPrintable (delimiter text) = true := by
    rcases delimiter_cases text with is | is <;> rw [is] <;> decide
  rcases List.mem_append.mp member with front | last
  · rcases List.mem_cons.mp front with rfl | inside
    · exact delimiters
    · obtain ⟨d, _, written⟩ := List.mem_flatMap.mp inside
      exact isPrintable_of_mem_escaped (delimiter_cases text) written
  · exact List.mem_singleton.mp last ▸ delimiters

end Printable

end JqTemplate.Text
