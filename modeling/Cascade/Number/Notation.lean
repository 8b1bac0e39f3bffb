import Cascade.Number.Shortest

/-!
# How numbers are written

A float is written with the fewest digits that read back: in place when its decimal point falls at
most three zeros before and sixteen digits behind the first digit, with a power of ten otherwise. A
written float always shows that it is one, by a point or an exponent.
-/

namespace Cascade

/-- The decimal digits of a whole number, with its sign. -/
def intText (i : Int) : String :=
  match i with
  | .ofNat n => Nat.repr n
  | .negSucc n => "-" ++ Nat.repr (n + 1)

/-- An exponent with its sign and at least two digits. -/
def exponentText (e : Int) : List Char :=
  let digits := (Nat.repr e.natAbs).toList
  let padded := if digits.length < 2 then '0' :: digits else digits
  (if e < 0 then '-' else '+') :: padded

namespace Decimal

/-- The decimal written in place, with at least one digit on either side of the point. -/
def positional (digits : List Char) (point : Int) : List Char :=
  if point ≤ 0 then '0' :: '.' :: (List.replicate (-point).toNat '0' ++ digits)
  else
    let n := point.toNat
    if digits.length ≤ n then
      digits ++ List.replicate (n - digits.length) '0' ++ ['.', '0']
    else digits.take n ++ '.' :: digits.drop n

/-- The decimal written with one digit before the point and a power of ten. -/
def scientific (digits : List Char) (point : Int) : List Char :=
  let mantissa :=
    match digits with
    | [] => ['0']
    | [d] => [d]
    | d :: rest => d :: '.' :: rest
  mantissa ++ 'e' :: exponentText (point - 1)

/-- The decimal in the notation its size calls for. -/
def text (d : Decimal) : List Char :=
  let digits := (Nat.repr d.digits).toList
  let point := digits.length + d.exponent
  if -4 < point ∧ point ≤ 16 then positional digits point else scientific digits point

end Decimal

/-- A float as it is written everywhere the program prints one. -/
def floatText (f : Float) : String :=
  match floatParts f with
  | .nan => "nan"
  | .infinite negative => if negative then "-inf" else "inf"
  | .finite b => String.ofList ((if b.negative then ['-'] else []) ++ b.shortest.text)

end Cascade
