/-!
# Sets of code points

A property of characters is given as the closed ranges of the code points
that have it, in ascending order and with gaps between them. The ranges
are those of Unicode 17.
-/

namespace S100.Text

abbrev CodePoints := List (Nat × Nat)

namespace CodePoints

def contains (set : CodePoints) (c : Char) : Bool :=
  set.any fun (first, last) => first ≤ c.toNat && c.toNat ≤ last

/-- A character in one of the ranges is in the set. -/
theorem contains_of_mem {set : CodePoints} {first last : Nat} {c : Char}
    (h : (first, last) ∈ set) (hfirst : first ≤ c.toNat)
    (hlast : c.toNat ≤ last) : set.contains c := by
  simp only [contains, List.any_eq_true]
  exact ⟨(first, last), h, by simp [hfirst, hlast]⟩

end CodePoints

end S100.Text
