/-!
# Sets of code points

A character class is kept as a list of closed intervals of code points in increasing order.
The search stops at the first interval that starts beyond the code point it looks for.
-/
namespace ClientGen.Text

/-- Closed intervals of code points, in increasing order. -/
abbrev CodeRanges := List (Nat × Nat)

/-- Whether an increasing list of intervals covers a code point. -/
def CodeRanges.covers : CodeRanges → Nat → Bool
  | [], _ => false
  | (low, high) :: rest, n => if n < low then false else decide (n ≤ high) || covers rest n

/-- A covered code point lies in one of the intervals. -/
theorem CodeRanges.exists_mem_of_covers {ranges : CodeRanges} {n : Nat}
    (h : covers ranges n = true) : ∃ r ∈ ranges, r.1 ≤ n ∧ n ≤ r.2 := by
  induction ranges with
  | nil => simp [covers] at h
  | cons r rest ih =>
    obtain ⟨low, high⟩ := r
    rw [covers] at h
    split at h
    · cases h
    · rename_i hlow
      rcases Bool.or_eq_true _ _ ▸ h with hhigh | hrest
      · exact ⟨(low, high), by simp, Nat.le_of_not_lt hlow, of_decide_eq_true hhigh⟩
      · obtain ⟨r, hr, hn⟩ := ih hrest
        exact ⟨r, by simp [hr], hn⟩

end ClientGen.Text
