/-
The shortest decimal that reads back as a given double, and the text written for it: the fewest digits
that round to the value and, of those, the nearest to it. Positional notation is used from 10^-5 up to
10^16, an exponent with its sign outside of it, and a whole number keeps `.0`.
-/
import NestedQuery.Double.Basic

namespace NestedQuery.Double

/-! ## Exact comparisons -/

/-- Compares `a · 10^p` with `b · 2^q`. -/
def compareDecimal (a : Nat) (p : Int) (b : Nat) (q : Int) : Ordering :=
  compare (a * Nat.pow 10 p.toNat * Nat.pow 2 (-q).toNat) (b * Nat.pow 2 q.toNat * Nat.pow 10 (-p).toNat)

/-- The reals that round to `m · 2^e`, in units of `2^(e-2)`: lower end and upper end. -/
def roundingEnds (m : Nat) (e : Int) : Nat × Nat :=
  (if m = Nat.pow 2 52 ∧ -1074 < e then 4 * m - 1 else 4 * m - 2, 4 * m + 2)

/-- `c · 10^p` reads back as `m · 2^e`. The ends of the interval do when `m` is even. -/
def readsBack (m : Nat) (e : Int) (c : Nat) (p : Int) : Bool :=
  let (low, high) := roundingEnds m e
  match compareDecimal c p low (e - 2), compareDecimal c p high (e - 2) with
  | .gt, .lt => true
  | .eq, _ => m % 2 == 0
  | _, .eq => m % 2 == 0
  | _, _ => false

/-! ## Digits -/

/-- The least `k` with `m · 2^e < 10^k`, found near its estimate from the binary size. -/
def pointPosition (m : Nat) (e : Int) : Int :=
  let estimate := Int.fdiv (((m.log2 : Int) + e) * 30103) 100000
  let below (k : Int) : Bool := compareDecimal 1 k m e == .gt
  if below estimate then estimate else if below (estimate + 1) then estimate + 1 else estimate + 2

/-- The integer part of `m · 2^e / 10^p`. -/
def floorAt (m : Nat) (e p : Int) : Nat :=
  (m * Nat.pow 2 e.toNat * Nat.pow 10 (-p).toNat) / (Nat.pow 2 (-e).toNat * Nat.pow 10 p.toNat)

/-- Of the two neighbours of `m · 2^e` on the grid of step `10^p`, the nearer one that reads back. -/
def onGrid? (m : Nat) (e p : Int) : Option Nat :=
  let c := floorAt m e p
  match readsBack m e c p, readsBack m e (c + 1) p with
  | true, false => some c
  | false, true => some (c + 1)
  | false, false => none
  | true, true =>
    match compareDecimal (2 * c + 1) p (2 * m) e with
    | .gt => some c
    | .lt => some (c + 1)
    | .eq => some (if c % 2 = 0 then c else c + 1)

/-- The coarsest grid with a neighbour that reads back, trying one digit first. -/
def firstGrid (m : Nat) (e point : Int) : Nat → Nat → Nat × Int
  | 0, digits => (floorAt m e (point - digits), point - digits)
  | tries + 1, digits =>
    match onGrid? m e (point - digits) with
    | some c => (c, point - digits)
    | none => firstGrid m e point tries (digits + 1)

/-- Significant digits without trailing zeros, and the position of the point after them. -/
def shortestDigits (m : Nat) (e : Int) : List Char × Int :=
  let (c, p) := firstGrid m e (pointPosition m e) 17 1
  let digits := Nat.toDigits 10 c
  ((digits.reverse.dropWhile (· == '0')).reverse, p + digits.length)

/-! ## Text -/

/-- An exponent with its sign. -/
def exponentText (e : Int) : List Char :=
  (if e < 0 then '-' else '+') :: Nat.toDigits 10 e.natAbs

/-- The text of digits with the point at `point`, counted from the first digit. -/
def layout (digits : List Char) (point : Int) : List Char :=
  let n : Int := digits.length
  if n ≤ point ∧ point ≤ 16 then digits ++ List.replicate (point - n).toNat '0' ++ ['.', '0']
  else if 0 < point ∧ point ≤ 16 then digits.take point.toNat ++ '.' :: digits.drop point.toNat
  else if -5 < point ∧ point ≤ 0 then '0' :: '.' :: List.replicate (-point).toNat '0' ++ digits
  else
    let mantissa := match digits with
      | [d] => [d]
      | d :: rest => d :: '.' :: rest
      | [] => []
    mantissa ++ 'e' :: exponentText (point - 1)

/-- The decimal text of a finite number. -/
def toText (x : Double) : String :=
  let (m, e) := x.mantissaExponent
  let size := if m = 0 then ['0', '.', '0'] else
    let (digits, point) := shortestDigits m e
    layout digits point
  String.ofList (if x.isNegative then '-' :: size else size)

end NestedQuery.Double
