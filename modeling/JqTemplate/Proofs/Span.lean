import JqTemplate.Statement

namespace JqTemplate

theorem wrapIndex_nat (length i : Nat) : wrapIndex length i = i := by
  have inside : ¬ (i : Int) < 0 := by omega
  simp [wrapIndex, inside]

theorem slice_nat {α : Type} (xs : List α) (first last : Nat) :
    slice xs first last = (xs.drop first).take (last - first) := by
  simp only [slice, wrapIndex_nat]

theorem slice_of_nonneg {α : Type} (xs : List α) {start stop : Int} (h : 0 ≤ start)
    (h' : 0 ≤ stop) :
    slice xs start stop = (xs.drop start.toNat).take (stop - start).toNat := by
  obtain ⟨first, rfl⟩ := Int.eq_ofNat_of_zero_le h
  obtain ⟨last, rfl⟩ := Int.eq_ofNat_of_zero_le h'
  rw [slice_nat, Int.toNat_natCast, Int.toNat_sub]

theorem slice_between {α : Type} (pre mid post : List α) :
    slice (pre ++ (mid ++ post)) pre.length (pre.length + mid.length) = mid := by
  have long : ((pre.length : Int) + mid.length - pre.length).toNat = mid.length := by omega
  rw [slice_of_nonneg _ (by omega) (by omega), Int.toNat_natCast, List.drop_left, long,
    List.take_left]

namespace Span

theorem inner_nat (text : List Char) (start close : Nat) :
    (⟨start, close + 2⟩ : Span).inner text =
      (text.drop (start + 2)).take (close - (start + 2)) := by
  have stops : ((close : Int) + 2 - 2) = close := by omega
  simp only [inner, stops]
  exact slice_nat text (start + 2) close

variable {source : List Char} {start middle stop : Int}

theorem text_append (front : 0 ≤ start) (first : start ≤ middle) (second : middle ≤ stop) :
    (⟨start, middle⟩ : Span).text source ++ (⟨middle, stop⟩ : Span).text source =
      (⟨start, stop⟩ : Span).text source := by
  have whole : (stop - start).toNat = (middle - start).toNat + (stop - middle).toNat := by omega
  have behind : middle.toNat = start.toNat + (middle - start).toNat := by omega
  simp only [text]
  rw [slice_of_nonneg _ front (by omega), slice_of_nonneg _ (by omega) (by omega),
    slice_of_nonneg _ front (by omega), whole, List.take_add, behind, List.drop_drop]

theorem text_length (front : 0 ≤ start) (order : start ≤ stop) (inside : stop ≤ source.length) :
    ((⟨start, stop⟩ : Span).text source).length = (stop - start).toNat := by
  simp only [text]
  rw [slice_of_nonneg _ front (by omega), List.length_take, List.length_drop]
  omega

theorem text_whole : (⟨0, source.length⟩ : Span).text source = source := by
  simp only [text]
  rw [slice_of_nonneg _ (by omega) (by omega)]
  simp

theorem text_between (pre mid post : List Char) :
    (⟨pre.length, pre.length + mid.length⟩ : Span).text (pre ++ (mid ++ post)) = mid :=
  slice_between pre mid post

end Span

end JqTemplate
