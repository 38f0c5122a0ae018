/-!
Powers of the two bases between which numbers are converted.
-/

namespace Scaffold.Decimal

def twoTo (n : Nat) : Nat := Nat.pow 2 n

def tenTo (n : Nat) : Nat := Nat.pow 10 n

end Scaffold.Decimal
