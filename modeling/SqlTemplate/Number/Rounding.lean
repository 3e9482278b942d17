/-!
# Rounding a quotient

The whole number nearest to a quotient, a tie going to the even one, and the leading digits of a
decimal number rounded the same way.
-/

namespace SqlTemplate

/-- The whole number nearest to `n / d`; of two equally near ones the even one. -/
def roundDiv (n d : Nat) : Nat :=
  let kept := n / d
  let rest := n % d
  if d < 2 * rest ∨ d = 2 * rest ∧ kept % 2 = 1 then kept + 1 else kept

/-- The whole number nearest to `c * 10 ^ e`. -/
def roundScaled (c : Nat) (e : Int) : Nat :=
  roundDiv (c * Nat.pow 10 e.toNat) (Nat.pow 10 (-e).toNat)

/-- The first `count` digits of `c * 10 ^ e`, rounded, as a whole number, and the exponent of the
leading one. -/
def leadingDigits (count c : Nat) (e : Int) : Nat × Int :=
  if c = 0 then (0, 0)
  else
    let size := (Nat.toDigits 10 c).length
    let exponent := e + size - 1
    let rounded := roundScaled c ((count : Int) - size)
    if rounded = Nat.pow 10 count then (Nat.pow 10 (count - 1), exponent + 1)
    else (rounded, exponent)

end SqlTemplate
