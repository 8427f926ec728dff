namespace JqTemplate.Text

theorem toNat_lt (c : Char) : c.toNat < 0x110000 := by
  have valid := c.valid
  unfold UInt32.isValidChar Nat.isValidChar at valid
  change c.val.toNat < 0x110000
  omega

abbrev CharRange := Nat × Nat

def CharRange.holds (r : CharRange) (c : Char) : Bool :=
  r.1 ≤ c.toNat && c.toNat ≤ r.2

def CharRange.covers (ranges : List CharRange) (c : Char) : Bool :=
  ranges.any (fun r => r.holds c)

end JqTemplate.Text
