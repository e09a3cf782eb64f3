namespace TemplateHover

/-- A set of characters, listed as inclusive ranges of code points in increasing order. -/
structure CharSet where
  ranges : List (Nat × Nat)

/-- Whether some range of the set holds the character's code point. -/
def CharSet.contains (set : CharSet) (c : Char) : Bool :=
  set.ranges.any fun range => range.1 ≤ c.toNat && c.toNat ≤ range.2

end TemplateHover
