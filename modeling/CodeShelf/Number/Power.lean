/-!
# Powers of two and ten
-/

namespace CodeShelf.Number

def twoPow (n : Nat) : Nat := Nat.pow 2 n

def tenPow (n : Nat) : Nat := Nat.pow 10 n

end CodeShelf.Number
