namespace PlotBoard

/-!
# Number literals

Spellings of numbers that texts may hold: natural numbers that fit in 64 bits,
integers that fit in 64 bits with a sign, hexadecimal digits and decimal reals.
A literal is read from all characters of a text; surrounding blanks are not part
of it.
-/

namespace Literal

/-- The value of a nonempty run of ASCII digits. -/
def digits? (characters : List Char) : Option Nat :=
  if characters ≠ [] ∧ characters.all Char.isDigit then
    some (Nat.ofDigitChars 10 characters 0)
  else
    none

/-- The characters after an optional plus sign. -/
def dropPlus : List Char → List Char
  | '+' :: rest => rest
  | characters => characters

/-- The word that holds a number, if the number fits in 64 bits. -/
def word? (value : Nat) : Option UInt64 :=
  if fits : value < UInt64.size then
    some (UInt64.ofNatLT value fits)
  else
    none

/-- An optional plus sign and digits whose value fits in 64 bits. -/
def natural? (characters : List Char) : Option UInt64 :=
  (digits? (dropPlus characters)).bind word?

/-- How many numbers of 64 bits with a sign are not negative. -/
def signedBound : Nat :=
  UInt64.size / 2

/-- An optional sign and digits whose value fits in 64 bits with a sign. -/
def integer? : List Char → Option Int
  | '-' :: rest =>
      match digits? rest with
      | some magnitude => if magnitude ≤ signedBound then some (-(magnitude : Int)) else none
      | none => none
  | characters =>
      match digits? (dropPlus characters) with
      | some magnitude => if magnitude < signedBound then some (magnitude : Int) else none
      | none => none

/-- The value of a run of hexadecimal digits. -/
def hexadecimal? (digits : List Char) : Option Nat :=
  digits.foldl
    (fun value digit =>
      value.bind fun value =>
        if digit.isDigit then
          some (16 * value + (digit.toNat - '0'.toNat))
        else if 'a' ≤ digit.toLower ∧ digit.toLower ≤ 'f' then
          some (16 * value + (digit.toLower.toNat - 'a'.toNat + 10))
        else
          none)
    (some 0)

/-- The decimal digits of a number are read back as that number. -/
@[simp] theorem digits?_toDigits (value : Nat) :
    digits? (Nat.toDigits 10 value) = some value := by
  have allDigits : (Nat.toDigits 10 value).all Char.isDigit = true :=
    List.all_eq_true.mpr fun _ member =>
      Nat.isDigit_of_mem_toDigits (by decide) (by decide) member
  simp [digits?, Nat.toDigits_ne_nil, allDigits]

/-- Digits are read only from characters that are digits. -/
theorem isDigit_of_digits?
    {characters : List Char}
    {value : Nat}
    (read : digits? characters = some value)
    {character : Char}
    (member : character ∈ characters) :
    character.isDigit = true := by
  unfold digits? at read
  split at read
  · next accepted => exact List.all_eq_true.mp accepted.2 character member
  · simp at read

end Literal

/-- A decimal real as written: the number `± digits · 10^exponent`, an infinity or no number. -/
inductive RealLiteral where
  | notANumber
  | infinity (negative : Bool)
  | finite (negative : Bool) (digits : Nat) (exponent : Int)
  deriving DecidableEq

namespace RealLiteral

/-- The sign of a literal, true when it is a minus, and the characters after it. -/
def splitSign : List Char → Bool × List Char
  | '-' :: rest => (true, rest)
  | '+' :: rest => (false, rest)
  | characters => (false, characters)

/-- The value of an exponent: an optional sign and digits. -/
def exponent? (characters : List Char) : Option Int :=
  let (negative, rest) := splitSign characters
  (Literal.digits? rest).map fun magnitude =>
    if negative then -(magnitude : Int) else magnitude

/-- What follows the digits of a literal: nothing, or a letter `e` and an exponent. -/
def scale? : List Char → Option Int
  | [] => some 0
  | mark :: rest => if mark = 'e' ∨ mark = 'E' then exponent? rest else none

/--
An unsigned decimal: digits, then optionally a point and more digits, then
optionally an exponent. At least one digit stands before or after the point.
-/
def decimal? (negative : Bool) (characters : List Char) : Option RealLiteral :=
  let whole := characters.takeWhile Char.isDigit
  let afterWhole := characters.dropWhile Char.isDigit
  let (fraction, rest) :=
    match afterWhole with
    | '.' :: tail => (tail.takeWhile Char.isDigit, tail.dropWhile Char.isDigit)
    | _ => ([], afterWhole)
  match Literal.digits? (whole ++ fraction), scale? rest with
  | some digits, some exponent =>
      some (.finite negative digits (exponent - fraction.length))
  | _, _ => none

/-- A word for an infinity or for no number, in letters of either case. -/
def named? (negative : Bool) (characters : List Char) : Option RealLiteral :=
  let lowered := characters.map Char.toLower
  if lowered = ['i', 'n', 'f'] ∨ lowered = ['i', 'n', 'f', 'i', 'n', 'i', 't', 'y'] then
    some (.infinity negative)
  else if lowered = ['n', 'a', 'n'] then
    some .notANumber
  else
    none

/-- A literal is an optional sign and then a decimal or a word. -/
def ofChars? (characters : List Char) : Option RealLiteral :=
  let (negative, rest) := splitSign characters
  (decimal? negative rest).or (named? negative rest)

/-- Scientific notation that is beyond the range of `Float` is decided without forming the power. -/
def magnitude (digits : Nat) (exponent : Int) : Float :=
  let leading := (Nat.toDigits 10 digits).length + exponent
  if digits = 0 ∨ leading < -400 then
    0
  else if 400 < leading then
    1 / 0
  else
    match exponent with
    | .ofNat power => OfScientific.ofScientific digits false power
    | .negSucc power => OfScientific.ofScientific digits true (power + 1)

/-- The nearest `Float`; a magnitude beyond the largest one becomes an infinity. -/
def toFloat : RealLiteral → Float
  | .notANumber => 0 / 0
  | .infinity negative => if negative then -(1 / 0) else 1 / 0
  | .finite negative digits exponent =>
      if negative then -(magnitude digits exponent) else magnitude digits exponent

end RealLiteral

end PlotBoard
