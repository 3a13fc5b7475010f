import ReviewGate.Data.Json

/-!
# Reading JSON

A reader takes the characters still to be read and gives a value with the characters after it.
-/

namespace ReviewGate.Json

private def isSpace (letter : Char) : Bool :=
  letter == ' ' || letter == '\t' || letter == '\n' || letter == '\r'

def skipSpaces (letters : List Char) : List Char := letters.dropWhile isSpace

private def hexValue? (letter : Char) : Option Nat :=
  if '0' ≤ letter ∧ letter ≤ '9' then some (letter.toNat - 48)
  else if 'a' ≤ letter ∧ letter ≤ 'f' then some (letter.toNat - 87)
  else if 'A' ≤ letter ∧ letter ≤ 'F' then some (letter.toNat - 55)
  else none

/-- Four hexadecimal digits. -/
private def unit? : List Char → Option (Nat × List Char)
  | a :: b :: c :: d :: rest => do
      let a ← hexValue? a
      let b ← hexValue? b
      let c ← hexValue? c
      let d ← hexValue? d
      pure (((a * 16 + b) * 16 + c) * 16 + d, rest)
  | _ => none

/-- A character written as one unit or as a surrogate pair. -/
private def escapedUnit? (letters : List Char) : Option (Char × List Char) := do
  let (high, rest) ← unit? letters
  if 0xD800 ≤ high ∧ high < 0xDC00 then
    match rest with
    | '\\' :: 'u' :: rest => do
        let (low, rest) ← unit? rest
        if 0xDC00 ≤ low ∧ low < 0xE000 then
          pure (Char.ofNat (0x10000 + (high - 0xD800) * 0x400 + (low - 0xDC00)), rest)
        else none
    | _ => none
  else if 0xDC00 ≤ high ∧ high < 0xE000 then none
  else pure (Char.ofNat high, rest)

/-- The characters of a string up to its closing quote, collected in reverse. -/
private def stringFrom : Nat → List Char → List Char → Option (String × List Char)
  | 0, _, _ => none
  | fuel + 1, collected, letters =>
      match letters with
      | [] => none
      | '"' :: rest => some (String.ofList collected.reverse, rest)
      | '\\' :: 'u' :: rest => do
          let (letter, rest) ← escapedUnit? rest
          stringFrom fuel (letter :: collected) rest
      | '\\' :: mark :: rest =>
          match mark with
          | '"' => stringFrom fuel ('"' :: collected) rest
          | '\\' => stringFrom fuel ('\\' :: collected) rest
          | '/' => stringFrom fuel ('/' :: collected) rest
          | 'b' => stringFrom fuel (Char.ofNat 8 :: collected) rest
          | 'f' => stringFrom fuel (Char.ofNat 12 :: collected) rest
          | 'n' => stringFrom fuel ('\n' :: collected) rest
          | 'r' => stringFrom fuel ('\r' :: collected) rest
          | 't' => stringFrom fuel ('\t' :: collected) rest
          | _ => none
      | letter :: rest =>
          if letter.toNat < 32 then none else stringFrom fuel (letter :: collected) rest

/-- A whole number of 64 bits stays whole; every other number is a double. -/
def ofNumeral (negative : Bool) (whole : List Char) (fraction : List Char) (marked : Bool)
    (exponent : Int) : Json :=
  let value := Number.naturalValue whole
  if !marked && fraction.isEmpty then
    if negative then
      if value = 0 then .float (-0.0)
      else if value ≤ Nat.pow 2 63 then .int (-Int.ofNat value)
      else .float (Number.scaled true value 0)
    else if value < Nat.pow 2 64 then .int value
    else .float (Number.scaled false value 0)
  else
    .float (Number.scaled negative (Number.naturalValue (whole ++ fraction))
      (exponent - fraction.length))

/-- A number: no leading zeros, digits on both sides of a point, digits in an exponent. -/
private def number? (letters : List Char) : Option (Json × List Char) :=
  let (negative, letters) := match letters with
    | '-' :: rest => (true, rest)
    | _ => (false, letters)
  let (whole, rest) := Number.spanDigits letters
  if whole.isEmpty || (decide (1 < whole.length) && whole.head? == some '0') then none
  else do
    let (fraction, rest) ← match rest with
      | '.' :: rest =>
          let (fraction, rest) := Number.spanDigits rest
          if fraction.isEmpty then none else some (fraction, rest)
      | _ => some ([], rest)
    let (marked, exponent, rest) ← match rest with
      | mark :: tail =>
          if mark = 'e' ∨ mark = 'E' then
            let (minus, digits) := Number.spanSign tail
            let (digits, tail) := Number.spanDigits digits
            if digits.isEmpty then none
            else
              let value := Int.ofNat (Number.naturalValue digits)
              some (true, if minus then -value else value, tail)
          else some (false, 0, rest)
      | [] => some (false, 0, rest)
    pure (ofNumeral negative whole fraction marked exponent, rest)

mutual

/-- A value at the front of the text; the fuel bounds how many readers may still be entered. -/
def read? : Nat → List Char → Option (Json × List Char)
  | 0, _ => none
  | fuel + 1, letters =>
      match skipSpaces letters with
      | 'n' :: 'u' :: 'l' :: 'l' :: rest => some (.null, rest)
      | 't' :: 'r' :: 'u' :: 'e' :: rest => some (.bool true, rest)
      | 'f' :: 'a' :: 'l' :: 's' :: 'e' :: rest => some (.bool false, rest)
      | '"' :: rest => do
          let (text, rest) ← stringFrom (rest.length + 1) [] rest
          pure (.string text, rest)
      | '[' :: rest =>
          match skipSpaces rest with
          | ']' :: rest => some (.array [], rest)
          | rest => do
              let (items, rest) ← items? fuel rest
              pure (.array items, rest)
      | '{' :: rest =>
          match skipSpaces rest with
          | '}' :: rest => some (.object [], rest)
          | rest => do
              let (fields, rest) ← fields? fuel rest
              pure (ofFields fields, rest)
      | letters => number? letters

/-- The items of an array up to its closing bracket. -/
def items? : Nat → List Char → Option (List Json × List Char)
  | 0, _ => none
  | fuel + 1, letters => do
      let (item, rest) ← read? fuel letters
      match skipSpaces rest with
      | ',' :: rest => do
          let (items, rest) ← items? fuel rest
          pure (item :: items, rest)
      | ']' :: rest => pure ([item], rest)
      | _ => none

/-- The fields of an object up to its closing brace. -/
def fields? : Nat → List Char → Option (List (String × Json) × List Char)
  | 0, _ => none
  | fuel + 1, letters =>
      match skipSpaces letters with
      | '"' :: rest => do
          let (key, rest) ← stringFrom (rest.length + 1) [] rest
          match skipSpaces rest with
          | ':' :: rest => do
              let (value, rest) ← read? fuel rest
              match skipSpaces rest with
              | ',' :: rest => do
                  let (fields, rest) ← fields? fuel rest
                  pure ((key, value) :: fields, rest)
              | '}' :: rest => pure ([(key, value)], rest)
              | _ => none
          | _ => none
      | _ => none

end

/-- The value a whole text stands for. -/
def parse? (text : String) : Option Json := do
  let letters := text.toList
  let (value, rest) ← read? (2 * letters.length + 2) letters
  if (skipSpaces rest).isEmpty then some value else none

end ReviewGate.Json
