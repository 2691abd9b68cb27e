/-!
# Word size

The bounds of numbers of sixty-four bits.
-/
namespace ClientGen.Text

/-- How many numbers sixty-four bits can tell apart. -/
def wordCount : Nat := 18446744073709551616

/-- One more than the greatest number of sixty-four bits with a sign; the least is its negation. -/
def signedLimit : Nat := 9223372036854775808

/-- Whether a number fits sixty-four bits with a sign. -/
def fitsSigned (i : Int) : Bool := -(signedLimit : Int) ≤ i && i < (signedLimit : Int)

end ClientGen.Text
