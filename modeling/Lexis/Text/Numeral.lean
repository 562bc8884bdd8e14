/-!
# Numerals

A numeral is a number in decimal notation: a sign if there is one, digits with
or without a fraction, and an exponent if there is one.  Infinity and the
undefined number have names, in which case is ignored.
-/

namespace Lexis.Text

/-- Characters without a sign before them. -/
def unsigned : List Char → List Char
  | '+' :: rest => rest
  | '-' :: rest => rest
  | chars => chars

/-- Whether characters are nothing or an exponent. -/
def isExponent : List Char → Bool
  | [] => true
  | mark :: rest =>
      (mark == 'e' || mark == 'E') && ! (unsigned rest).isEmpty &&
        (unsigned rest).all Char.isDigit

/-- Whether characters are a decimal number without a sign.  There may be no
digits before the point, or none behind it, but not both. -/
def isDecimal (chars : List Char) : Bool :=
  let whole := chars.takeWhile Char.isDigit
  match chars.dropWhile Char.isDigit with
  | '.' :: rest =>
      ! (whole.isEmpty && (rest.takeWhile Char.isDigit).isEmpty) &&
        isExponent (rest.dropWhile Char.isDigit)
  | rest => ! whole.isEmpty && isExponent rest

/-- Whether a text is a numeral. -/
def isNumeral (text : String) : Bool :=
  let chars := unsigned text.toList
  isDecimal chars ||
    ["inf", "infinity", "nan"].contains (String.ofList (chars.map Char.toLower))

end Lexis.Text
