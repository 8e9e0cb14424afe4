/-!
Unsigned numbers written in decimal, as the protocol reads and writes them.

A number is read from an optional single plus sign and at least one ASCII digit, and only if
its value lies below a bound that stands for the width of the field. It is written as its
shortest digit string.
-/
namespace ChatHub.Text.Decimal

/-- The value of an ASCII digit. -/
def digit? (c : Char) : Option Nat :=
  if '0' ≤ c ∧ c ≤ '9' then some (c.toNat - '0'.toNat) else none

/-- The value of a run of digits read from the left; a run with a non-digit has none. -/
def digitsValue? : List Char → Nat → Option Nat
  | [], acc => some acc
  | c :: cs, acc =>
    match digit? c with
    | some d => digitsValue? cs (10 * acc + d)
    | none => none

/-- Reads a number below `bound`: an optional plus sign, then one or more digits, and no other
character. Leading zeros are allowed. -/
def read? (bound : Nat) (cs : List Char) : Option Nat :=
  let ds := match cs with
    | '+' :: rest => rest
    | _ => cs
  match ds with
  | [] => none
  | _ =>
    match digitsValue? ds 0 with
    | some n => if n < bound then some n else none
    | none => none

/-- The digits of a number in decimal, with no sign and no leading zero. -/
def write (n : Nat) : List Char :=
  Nat.toDigits 10 n

end ChatHub.Text.Decimal
