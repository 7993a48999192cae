import Promptbook.Decimal.Shortest

/-!
# Layout of Decimal Numbers

How the shortest digits of a double are set as text. One record holds the decisions; the JSON text
of a value and the text of a value inside a template are two such records.
-/

namespace Promptbook.Decimal

/-- The decisions of one number format. -/
structure Layout where
  /-- The decimal exponents of the first digit that are written without an exponent; all of them
  if there are no bounds. -/
  positional : Option (Int × Int)
  /-- What a whole number ends with in positional notation. -/
  wholeSuffix : String
  /-- The text of a number that is not defined. -/
  undefinedText : String
  /-- The text of the positive infinity. -/
  infiniteText : String
  /-- The text of the negative infinity. -/
  negativeInfiniteText : String

namespace Layout

/-- The digits in positional notation: all before the point, or around it, or behind zeros. -/
def positionalText (layout : Layout) (d : Digits) : String :=
  let digits := toString d.digits
  match d.exponent with
  | .ofNat k => digits ++ String.ofList (List.replicate k '0') ++ layout.wholeSuffix
  | .negSucc k =>
    let places := k + 1
    if digits.length > places then
      let whole := digits.toList.take (digits.length - places)
      let fraction := digits.toList.drop (digits.length - places)
      String.ofList whole ++ "." ++ String.ofList fraction
    else
      "0." ++ String.ofList (List.replicate (places - digits.length) '0') ++ digits

/-- The digits with one of them before the point, and an exponent that carries its sign. -/
def scientificText (d : Digits) : String :=
  let mantissa := match (toString d.digits).toList with
    | [] => ""
    | [c] => String.ofList [c]
    | c :: rest => String.ofList (c :: '.' :: rest)
  let sign := if d.lead < 0 then "-" else "+"
  mantissa ++ "e" ++ sign ++ toString d.lead.natAbs

/-- The text of a double in a layout. -/
def write (layout : Layout) (x : Float) : String :=
  match Binary.ofFloat x with
  | .undefined => layout.undefinedText
  | .infinite negative => if negative then layout.negativeInfiniteText else layout.infiniteText
  | .finite negative mantissa exponent =>
    let sign := if negative then "-" else ""
    if mantissa == 0 then sign ++ "0" ++ layout.wholeSuffix
    else
      let d := (Digits.shortest mantissa exponent).stripZeros 20
      let inBounds := match layout.positional with
        | none => true
        | some (low, high) => low ≤ d.lead && d.lead ≤ high
      sign ++ if inBounds then layout.positionalText d else scientificText d

end Layout

/-- Numbers in JSON text: positional for exponents from -5 to 15, always with a fraction; a number
without a JSON form is `null`. -/
def jsonLayout : Layout := ⟨some (-5, 15), ".0", "null", "null", "null"⟩

/-- Numbers in running text: always positional, and a whole number as its digits alone. -/
def plainLayout : Layout := ⟨none, "", "NaN", "inf", "-inf"⟩

end Promptbook.Decimal
