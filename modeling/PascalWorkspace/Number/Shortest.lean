import PascalWorkspace.Number.Binary64

/-! The shortest decimal that reads back as a given floating-point number. -/
namespace PascalWorkspace.Number

/-- The decimal `digits · 10 ^ exponent`. -/
structure Decimal where
  digits : Nat
  exponent : Int
  deriving DecidableEq, Repr

def power10 (exponent : Int) : Nat × Nat :=
  if 0 ≤ exponent then (Nat.pow 10 exponent.toNat, 1) else (1, Nat.pow 10 (-exponent).toNat)

def Decimal.fraction (d : Decimal) : Nat × Nat :=
  let unit := power10 d.exponent
  (d.digits * unit.1, unit.2)

namespace Shortest

/-- The fractions between which all numbers round to a given one. The ends belong to the interval if
the significand is even. -/
structure Interval where
  low : Nat × Nat
  high : Nat × Nat
  closed : Bool

/-- Below a power of two the neighbours stand twice as close. -/
def interval (significand : Nat) (exponent : Int) : Interval :=
  let narrow := significand = Binary64.leastSignificand ∧ Binary64.minExponent < exponent
  let below := if narrow then 4 * significand - 1 else 4 * significand - 2
  { low := Binary64.scale below 4 exponent
    high := Binary64.scale (4 * significand + 2) 4 exponent
    closed := significand % 2 = 0 }

def fractionLe (a b : Nat × Nat) : Bool := decide (a.1 * b.2 ≤ b.1 * a.2)

def fractionLt (a b : Nat × Nat) : Bool := decide (a.1 * b.2 < b.1 * a.2)

def Interval.contains (i : Interval) (x : Nat × Nat) : Bool :=
  if i.closed then fractionLe i.low x && fractionLe x i.high
  else fractionLt i.low x && fractionLt x i.high

/-- The least exponent of ten above a fraction, searched upwards. -/
def exponentAbove (value : Nat × Nat) : Nat → Int → Int
  | 0, e => e
  | fuel + 1, e => if fractionLt value (power10 e) then e else exponentAbove value fuel (e + 1)

/-- The exponent of ten above any finite number lies in this range. -/
def leastExponent : Int := -330

def exponentRange : Nat := 660

/-- The decimals next to a value on the grid of an exponent that read back, the nearer one of two.
-/
def onGrid (i : Interval) (value : Nat × Nat) (exponent : Int) : Option Decimal :=
  let unit := power10 exponent
  let scaled := (value.1 * unit.2, value.2 * unit.1)
  let floor := scaled.1 / scaled.2
  let lower : Decimal := ⟨floor, exponent⟩
  let upper : Decimal := ⟨floor + 1, exponent⟩
  let twice := 2 * (scaled.1 % scaled.2)
  let preferLower := twice < scaled.2 ∨ twice = scaled.2 ∧ floor % 2 = 0
  match i.contains lower.fraction, i.contains upper.fraction with
  | true, true => some (if preferLower then lower else upper)
  | true, false => some lower
  | false, true => some upper
  | false, false => none

/-- Seventeen digits are enough for every number. -/
def maxDigits : Nat := 17

/-- The first grid on which a decimal reads back, from coarse to fine. -/
def search (i : Interval) (value : Nat × Nat) (top : Int) : Nat → Decimal
  | 0 => ⟨0, 0⟩
  | more + 1 =>
    match onGrid i value (top - (maxDigits - more : Nat)) with
    | some d => d
    | none => search i value top more

end Shortest

/-- The shortest decimal of a finite number other than zero. -/
def shortest (significand : Nat) (exponent : Int) : Decimal :=
  let value := Binary64.scale significand 1 exponent
  let top := Shortest.exponentAbove value Shortest.exponentRange Shortest.leastExponent
  Shortest.search (Shortest.interval significand exponent) value top Shortest.maxDigits

/-- A number as diagnostics show it: positional from `10 ^ -4` up to `10 ^ 16`, with an exponent of
at least two digits outside, and with a point or an exponent in any case. -/
def shown : Binary64 → String
  | .nan => "nan"
  | .infinite negative => if negative then "-inf" else "inf"
  | .finite negative significand exponent =>
    let sign := if negative then "-" else ""
    if significand = 0 then sign ++ "0.0"
    else
      let d := shortest significand exponent
      let digits := Nat.toDigits 10 d.digits
      let kept := (digits.reverse.dropWhile (· = '0')).reverse
      let point : Int := digits.length + d.exponent
      sign ++ String.ofList (place kept point)
where
  /-- Puts the point behind the first `point` digits. -/
  place (digits : List Char) (point : Int) : List Char :=
    if -4 < point ∧ point ≤ 16 then
      if point ≤ 0 then '0' :: '.' :: (List.replicate (-point).toNat '0' ++ digits)
      else
        let whole := digits.take point.toNat
        let zeros := List.replicate (point.toNat - whole.length) '0'
        let rest := digits.drop point.toNat
        whole ++ zeros ++ '.' :: (if rest.isEmpty then ['0'] else rest)
    else
      let power := point - 1
      let mark := if power < 0 then '-' else '+'
      let text := Nat.toDigits 10 power.natAbs
      let padded := if text.length < 2 then '0' :: text else text
      let rest := digits.drop 1
      digits.take 1 ++ (if rest.isEmpty then [] else '.' :: rest) ++ 'e' :: mark :: padded

end PascalWorkspace.Number
