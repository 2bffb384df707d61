import FlatRecord.Json.Basic
import FlatRecord.Decimal.Numeral
import FlatRecord.KeyMap

namespace FlatRecord

namespace Json

def isSpace (c : Char) : Bool := c == ' ' || c == '\n' || c == '\t' || c == '\r'

def skipSpace (cs : List Char) : List Char := cs.dropWhile isSpace

def hexValue? (c : Char) : Option Nat :=
  if '0' ≤ c ∧ c ≤ '9' then some (c.toNat - '0'.toNat)
  else if 'a' ≤ c ∧ c ≤ 'f' then some (c.toNat - 'a'.toNat + 10)
  else if 'A' ≤ c ∧ c ≤ 'F' then some (c.toNat - 'A'.toNat + 10)
  else none

/-- Four hexadecimal digits and what follows them. -/
def readHex? : List Char → Option (Nat × List Char)
  | a :: b :: c :: d :: rest => do
    let a ← hexValue? a
    let b ← hexValue? b
    let c ← hexValue? c
    let d ← hexValue? d
    return (((a * 16 + b) * 16 + c) * 16 + d, rest)
  | _ => none

/-- A character given by its code unit, or by a high and a low surrogate. A surrogate that stands
alone is refused. -/
def readUnit? (cs : List Char) : Option (Char × List Char) := do
  let (high, rest) ← readHex? cs
  if 0xD800 ≤ high ∧ high ≤ 0xDBFF then
    match rest with
    | '\\' :: 'u' :: rest =>
      let (low, rest) ← readHex? rest
      if 0xDC00 ≤ low ∧ low ≤ 0xDFFF then
        return (Char.ofNat (0x10000 + (high - 0xD800) * 0x400 + (low - 0xDC00)), rest)
      else none
    | _ => none
  else if 0xDC00 ≤ high ∧ high ≤ 0xDFFF then none
  else return (Char.ofNat high, rest)

/-- The character that an escape stands for, read after the backslash. -/
def readEscape? : List Char → Option (Char × List Char)
  | '"' :: rest => some ('"', rest)
  | '\\' :: rest => some ('\\', rest)
  | '/' :: rest => some ('/', rest)
  | 'b' :: rest => some ('\x08', rest)
  | 'f' :: rest => some ('\x0c', rest)
  | 'n' :: rest => some ('\n', rest)
  | 'r' :: rest => some ('\r', rest)
  | 't' :: rest => some ('\t', rest)
  | 'u' :: rest => readUnit? rest
  | _ => none

/-- The rest of a string after its opening quote. Each step takes at least one character, so as
many steps as there are characters are enough. -/
def readStringTail : Nat → List Char → Option (List Char × List Char)
  | 0, _ => none
  | _ + 1, [] => none
  | fuel + 1, c :: rest =>
    if c = '"' then some ([], rest)
    else if c = '\\' then do
      let (c, rest) ← readEscape? rest
      let (cs, rest) ← readStringTail fuel rest
      return (c :: cs, rest)
    else if c.toNat < 0x20 then none
    else do
      let (cs, rest) ← readStringTail fuel rest
      return (c :: cs, rest)

def readString? (cs : List Char) : Option (String × List Char) :=
  (readStringTail cs.length cs).map fun r => (String.ofList r.1, r.2)

/-- The number nearest to a decimal. One that is too large for the binary format is refused.
A reader may as well take another number close by; exact rounding stands for it here, by which
every number is read back from what is written for it. -/
def ofDecimal? (negative : Bool) (d : Decimal) : Option Json :=
  match d.toBinary negative with
  | .finite negative code => some (.float (.finite negative code))
  | _ => none

/-- A whole number, as an integer if it lies between -2^63 and 2^64 - 1. Minus zero has no
integer form. -/
def ofWhole? (negative : Bool) (digits : List Char) : Option Json :=
  let n := Binary64.withSign negative (Numeral.natOfDigits digits)
  if negative && n == 0 then some (.float (.zero true))
  else if -(twoTo 63 : Int) ≤ n ∧ n < twoTo 64 then some (.int n)
  else ofDecimal? negative (Numeral.decimalOf digits [] 0)

/-- Digits before the point: a leading zero stands alone. -/
def readWhole? (cs : List Char) : Option (List Char × List Char) :=
  match cs.span Char.isDigit with
  | (['0'], rest) => some (['0'], rest)
  | ('0' :: _, _) => none
  | ([], _) => none
  | (digits, rest) => some (digits, rest)

/-- A fraction, if there is a point, with at least one digit. -/
def readFraction? : List Char → Option (Option (List Char) × List Char)
  | '.' :: rest =>
    match rest.span Char.isDigit with
    | ([], _) => none
    | (digits, rest) => some (some digits, rest)
  | cs => some (none, cs)

/-- A power of ten, if there is one, with at least one digit. -/
def readPower? : List Char → Option (Option Int × List Char)
  | [] => some (none, [])
  | c :: rest =>
    if c = 'e' ∨ c = 'E' then
      match Numeral.splitSign rest with
      | (negative, body) =>
        match body.span Char.isDigit with
        | ([], _) => none
        | (digits, rest) =>
          some (some (Binary64.withSign negative (Numeral.natOfDigits digits)), rest)
    else some (none, c :: rest)

def readNumber? (negative : Bool) (cs : List Char) : Option (Json × List Char) := do
  let (whole, rest) ← readWhole? cs
  let (fraction, rest) ← readFraction? rest
  let (power, rest) ← readPower? rest
  let number ←
    if fraction.isNone && power.isNone then ofWhole? negative whole
    else
      ofDecimal? negative
        (Numeral.decimalOf whole (fraction.getD []) (power.getD 0))
  return (number, rest)

/-- The items of an array after its opening bracket or a comma, with a reader for one item. -/
def readItems (item : List Char → Option (Json × List Char)) :
    Nat → List Char → Option (List Json × List Char)
  | 0, _ => none
  | fuel + 1, cs => do
    let (first, rest) ← item cs
    match skipSpace rest with
    | ']' :: rest => return ([first], rest)
    | ',' :: rest =>
      let (items, rest) ← readItems item fuel rest
      return (first :: items, rest)
    | _ => none

/-- The entries of an object after its opening brace or a comma, with a reader for one item. -/
def readEntries (item : List Char → Option (Json × List Char)) :
    Nat → List Char → Option (List (String × Json) × List Char)
  | 0, _ => none
  | fuel + 1, cs =>
    match skipSpace cs with
    | '"' :: rest => do
      let (key, rest) ← readString? rest
      match skipSpace rest with
      | ':' :: rest =>
        let (first, rest) ← item rest
        match skipSpace rest with
        | '}' :: rest => return ([(key, first)], rest)
        | ',' :: rest =>
          let (entries, rest) ← readEntries item fuel rest
          return ((key, first) :: entries, rest)
        | _ => none
      | _ => none
    | _ => none

/-- A value that may hold arrays and objects nested in each other up to the given number of
levels. Entries are put into key order; of repeated keys the last wins. -/
def readValue? : (levels : Nat) → List Char → Option (Json × List Char)
  | levels, cs =>
    match skipSpace cs with
    | 'n' :: 'u' :: 'l' :: 'l' :: rest => some (.null, rest)
    | 't' :: 'r' :: 'u' :: 'e' :: rest => some (.bool true, rest)
    | 'f' :: 'a' :: 'l' :: 's' :: 'e' :: rest => some (.bool false, rest)
    | '"' :: rest => (readString? rest).map fun r => (.string r.1, r.2)
    | '-' :: rest => readNumber? true rest
    | '[' :: rest =>
      match levels with
      | 0 => none
      | levels + 1 =>
        match skipSpace rest with
        | ']' :: rest => some (.array [], rest)
        | _ => (readItems (readValue? levels) rest.length rest).map fun r => (.array r.1, r.2)
    | '{' :: rest =>
      match levels with
      | 0 => none
      | levels + 1 =>
        match skipSpace rest with
        | '}' :: rest => some (.object [], rest)
        | _ =>
          (readEntries (readValue? levels) rest.length rest).map fun r =>
            (.object (Entries.ofList r.1), r.2)
    | cs => readNumber? false cs

/-- Reads a text that holds one document, nested at most so many levels deep, and blanks. -/
def readWithin? (levels : Nat) (text : String) : Option Json :=
  match readValue? levels text.toList with
  | some (json, rest) => if (skipSpace rest).isEmpty then some json else none
  | none => none

/-- Arrays and objects may nest this deep. -/
abbrev maxLevels : Nat := 127

def read? (text : String) : Option Json := readWithin? maxLevels text

end Json

end FlatRecord
