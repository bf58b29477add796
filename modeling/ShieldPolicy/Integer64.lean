/-!
# Integers of 64 bits

The bounds of the integers that files and messages may hold.
-/

namespace ShieldPolicy.Integer64

def unsignedLimit : Nat := Nat.pow 2 64

def signedLimit : Nat := Nat.pow 2 63

def fits (i : Int) : Bool := -(signedLimit : Int) ≤ i && i < signedLimit

end ShieldPolicy.Integer64
