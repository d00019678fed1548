/-! # Powers of two and of ten

The two powers on which the exact arithmetic of binary and decimal numbers rests. -/

namespace BotBench.Number

/-- A power of two. -/
def twoTo (exponent : Nat) : Nat := Nat.pow 2 exponent

/-- A power of ten. -/
def tenTo (exponent : Nat) : Nat := Nat.pow 10 exponent

end BotBench.Number
