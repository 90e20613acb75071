import PlotBoard.Number.Literal

namespace PlotBoard.Yaml

/-!
# Values of plain scalars

What plain scalars stand for where a real number, a natural number or a truth
value is wanted.
-/

/-- A sign follows. -/
def startsWithSign : List Char → Bool
  | '+' :: _ => true
  | '-' :: _ => true
  | _ => false

/-- A finite decimal number, or an infinity or "not a number" as a word after a point. -/
def real? (characters : List Char) : Option Float :=
  let unsigned := Literal.dropPlus characters
  if characters.head? = some '+' ∧ startsWithSign unsigned then
    none
  else
    let word := String.ofList characters
    let unsignedWord := String.ofList unsigned
    if unsignedWord ∈ [".inf", ".Inf", ".INF"] then
      some (RealLiteral.infinity false).toFloat
    else if word ∈ ["-.inf", "-.Inf", "-.INF"] then
      some (RealLiteral.infinity true).toFloat
    else if word ∈ [".nan", ".NaN", ".NAN"] then
      some RealLiteral.notANumber.toFloat
    else
      ((RealLiteral.ofChars? unsigned).map RealLiteral.toFloat).filter Float.isFinite

/-- The value of a nonempty run of digits below a radix. -/
def radixDigits? (radix : Nat) (digits : List Char) : Option Nat :=
  if digits = [] then
    none
  else
    digits.foldl
      (fun value digit =>
        value.bind fun value =>
          (Literal.hexadecimal? [digit]).bind fun digit =>
            if digit < radix then some (radix * value + digit) else none)
      (some 0)

/-- Zeros in front of other digits make a text and no number. -/
def hasLeadingZero : List Char → Bool
  | '0' :: digit :: rest => (digit :: rest).all Char.isDigit
  | _ => false

/-- A natural number after an optional plus sign, in decimal or after `0x`, `0o` or `0b`. -/
def natural? (characters : List Char) : Option Nat :=
  let unsigned := Literal.dropPlus characters
  match unsigned with
  | '0' :: 'x' :: digits => radixDigits? 16 digits
  | '0' :: 'o' :: digits => radixDigits? 8 digits
  | '0' :: 'b' :: digits => radixDigits? 2 digits
  | _ => if hasLeadingZero unsigned then none else radixDigits? 10 unsigned

/-- A truth value in small letters, in capitals or with a capital first letter. -/
def boolean? (text : String) : Option Bool :=
  if text ∈ ["true", "True", "TRUE"] then
    some true
  else if text ∈ ["false", "False", "FALSE"] then
    some false
  else
    none

end PlotBoard.Yaml
