import MarkupJsx.Json.Basic

/-!
# Reading JSON text

A text is refused for one of two causes: it ends before its value is complete, or it holds a
character that no JSON text has at that place.  A number that is too large for a double counts as
the second.  Nesting is not limited.

The reader is a family of functions on the characters that are left, each of which answers its
value together with the characters after it.  Values nest, so they take fuel; every nested call is
paid for by a character of the text, and `Json.parse` supplies enough fuel for any text.
-/

namespace MarkupJsx
namespace Json

/-- Why a text is not JSON. -/
inductive Fault where
  /-- The text ends too early. -/
  | ended
  /-- A character cannot stand where it is, or a number is out of range. -/
  | malformed
  deriving DecidableEq, Inhabited

/-- Whether a character may stand between tokens. -/
def isSpace (c : Char) : Bool :=
  c == ' ' || c == '\t' || c == '\n' || c == '\r'

/-- The text after the blanks at its front. -/
def skipSpace (text : List Char) : List Char :=
  text.dropWhile isSpace

/-- Reads the characters of a keyword. -/
def readKeyword : List Char → List Char → Except Fault (List Char)
  | [], text => .ok text
  | _ :: _, [] => .error .ended
  | letter :: letters, c :: text =>
    if c = letter then readKeyword letters text else .error .malformed

/-- The value of a hexadecimal digit. -/
def hexDigit? (c : Char) : Option Nat :=
  if '0' ≤ c ∧ c ≤ '9' then some (c.toNat - 48)
  else if 'a' ≤ c ∧ c ≤ 'f' then some (c.toNat - 87)
  else if 'A' ≤ c ∧ c ≤ 'F' then some (c.toNat - 55)
  else none

/-- The number that four hexadecimal digits at the front of a text write.  A text with less than
four bytes ends too early. -/
def readHex (text : List Char) : Except Fault Nat :=
  match text with
  | a :: b :: c :: d :: _ =>
    match hexDigit? a, hexDigit? b, hexDigit? c, hexDigit? d with
    | some a, some b, some c, some d => .ok (((a * 16 + b) * 16 + c) * 16 + d)
    | _, _, _, _ => .error .malformed
  | short =>
    if 4 ≤ (String.ofList short).utf8ByteSize then .error .malformed else .error .ended

/-- The characters that follow a backslash and stand for one character. -/
def simpleEscape? (c : Char) : Option Char :=
  match c with
  | '\x22' => some '\x22'
  | '\\' => some '\\'
  | '/' => some '/'
  | 'b' => some '\x08'
  | 'f' => some '\x0c'
  | 'n' => some '\n'
  | 'r' => some '\r'
  | 't' => some '\t'
  | _ => none

/-- The second half of a surrogate pair, after the four digits of the first half. -/
def readLowSurrogate (text : List Char) : Except Fault Nat := do
  match text with
  | [] => .error .ended
  | ['\\'] => .error .ended
  | '\\' :: 'u' :: rest =>
    let low ← readHex rest
    if 0xDC00 ≤ low ∧ low ≤ 0xDFFF then .ok low else .error .malformed
  | _ => .error .malformed

/-- The character that an escape stands for, and how many characters the escape takes after its
backslash.  A character beyond the basic plane is written as a surrogate pair. -/
def readEscape (text : List Char) : Except Fault (Char × Nat) :=
  match text with
  | [] => .error .ended
  | 'u' :: rest => do
    let code ← readHex rest
    if 0xDC00 ≤ code ∧ code ≤ 0xDFFF then .error .malformed
    else if 0xD800 ≤ code ∧ code ≤ 0xDBFF then
      let low ← readLowSurrogate (rest.drop 4)
      .ok (Char.ofNat (0x10000 + (code - 0xD800) * 0x400 + (low - 0xDC00)), 11)
    else .ok (Char.ofNat code, 5)
  | c :: _ =>
    match simpleEscape? c with
    | some plain => .ok (plain, 1)
    | none => .error .malformed

/-- Reads a string after its opening quote.  The characters read so far are kept in reverse. -/
def readString (done : List Char) : List Char → Except Fault (String × List Char)
  | [] => .error .ended
  | c :: rest =>
    if c = '\x22' then .ok (String.ofList done.reverse, rest)
    else if c = '\\' then
      match readEscape rest with
      | .error fault => .error fault
      | .ok (plain, count) => readString (plain :: done) (rest.drop count)
    else if c.toNat < 0x20 then .error .malformed
    else readString (c :: done) rest
termination_by text => text.length
decreasing_by
  · simp only [List.length_drop, List.length_cons]; omega
  · simp only [List.length_cons]; omega

/-- The number that decimal digits write. -/
def valueOfDigits (digits : List Char) : Nat :=
  digits.foldl (fun value c => value * 10 + (c.toNat - 48)) 0

/-- Reads digits, of which there has to be at least one. -/
def readDigits (text : List Char) : Except Fault (List Char × List Char) :=
  match text.span Char.isDigit with
  | ([], []) => .error .ended
  | ([], _ :: _) => .error .malformed
  | (digits, rest) => .ok (digits, rest)

/-- Reads the whole part of a number: a zero alone, or digits that do not start with one. -/
def readWhole (text : List Char) : Except Fault (List Char × List Char) := do
  let (digits, rest) ← readDigits text
  match digits with
  | '0' :: _ :: _ => .error .malformed
  | _ => .ok (digits, rest)

/-- Reads the digits after a point, if there is a point. -/
def readFraction (text : List Char) : Except Fault (Option (List Char) × List Char) :=
  match text with
  | '.' :: rest => do
    let (digits, rest) ← readDigits rest
    .ok (some digits, rest)
  | _ => .ok (none, text)

/-- Reads the exponent of a number, if there is one. -/
def readExponent (text : List Char) : Except Fault (Option Int × List Char) :=
  let unsigned (negative : Bool) (rest : List Char) : Except Fault (Option Int × List Char) := do
    let (digits, rest) ← readDigits rest
    let value : Int := valueOfDigits digits
    .ok (some (if negative then -value else value), rest)
  let signed (rest : List Char) : Except Fault (Option Int × List Char) :=
    match rest with
    | '+' :: rest => unsigned false rest
    | '-' :: rest => unsigned true rest
    | _ => unsigned false rest
  match text with
  | 'e' :: rest => signed rest
  | 'E' :: rest => signed rest
  | _ => .ok (none, text)

/-- The integer that a sign and digits write, if it has 64 bits.  Negative zero is not one. -/
def integer? (negative : Bool) (value : Nat) : Option Int :=
  if negative then
    if 0 < value ∧ value ≤ 0x8000000000000000 then some (-value) else none
  else
    if value < 0x10000000000000000 then some value else none

/-- The number with given parts: an integer where it can be one, and else a double. -/
def numberOfParts (negative : Bool) (whole : List Char) (fraction : Option (List Char))
    (exponent : Option Int) : Except Fault Number :=
  let decimal (digits : List Char) (exponent : Int) : Except Fault Number :=
    let value := Binary64.ofDecimal negative (valueOfDigits digits) exponent
    if value.isFinite then .ok (.binary value) else .error .malformed
  match fraction, exponent with
  | none, none =>
    match integer? negative (valueOfDigits whole) with
    | some value => .ok (.integer value)
    | none => decimal whole 0
  | fraction, exponent =>
    let fraction := fraction.getD []
    decimal (whole ++ fraction) (exponent.getD 0 - fraction.length)

/-- Reads a number after its sign. -/
def readNumber (negative : Bool) (text : List Char) : Except Fault (Json × List Char) := do
  let (whole, rest) ← readWhole text
  let (fraction, rest) ← readFraction rest
  let (exponent, rest) ← readExponent rest
  let value ← numberOfParts negative whole fraction exponent
  .ok (.number value, rest)

/-- Reads a value that holds no other value. -/
def readScalar (text : List Char) : Except Fault (Json × List Char) :=
  match text with
  | [] => .error .ended
  | '\x22' :: rest => (readString [] rest).map fun (value, rest) => (string value, rest)
  | '-' :: rest => readNumber true rest
  | 'n' :: rest => (readKeyword ['u', 'l', 'l'] rest).map (null, ·)
  | 't' :: rest => (readKeyword ['r', 'u', 'e'] rest).map (bool true, ·)
  | 'f' :: rest => (readKeyword ['a', 'l', 's', 'e'] rest).map (bool false, ·)
  | c :: _ => if c.isDigit then readNumber false text else .error .malformed

mutual

/-- Reads a value, with the blanks before it. -/
def readValue : (fuel : Nat) → List Char → Except Fault (Json × List Char)
  | 0, _ => .error .ended
  | fuel + 1, text =>
    match skipSpace text with
    | '[' :: rest =>
      match skipSpace rest with
      | ']' :: rest => .ok (array [], rest)
      | rest => readItems fuel [] rest
    | '\x7b' :: rest =>
      match skipSpace rest with
      | '\x7d' :: rest => .ok (object [], rest)
      | rest => readFields fuel [] rest
    | text => readScalar text

/-- Reads the items of an array that are left.  Those read so far are kept in reverse. -/
def readItems : (fuel : Nat) → (done : List Json) → List Char →
    Except Fault (Json × List Char)
  | 0, _, _ => .error .ended
  | fuel + 1, done, text =>
    match readValue fuel text with
    | .error fault => .error fault
    | .ok (item, rest) =>
      match skipSpace rest with
      | [] => .error .ended
      | ',' :: rest => readItems fuel (item :: done) rest
      | ']' :: rest => .ok (array (item :: done).reverse, rest)
      | _ => .error .malformed

/-- Reads the fields of an object that are left. -/
def readFields : (fuel : Nat) → (done : Entries Json) → List Char →
    Except Fault (Json × List Char)
  | 0, _, _ => .error .ended
  | fuel + 1, done, text =>
    match skipSpace text with
    | [] => .error .ended
    | '\x22' :: rest =>
      match readString [] rest with
      | .error fault => .error fault
      | .ok (key, rest) =>
        match skipSpace rest with
        | [] => .error .ended
        | ':' :: rest =>
          match readValue fuel rest with
          | .error fault => .error fault
          | .ok (value, rest) =>
            let fields := Entries.insert key value done
            match skipSpace rest with
            | [] => .error .ended
            | ',' :: rest => readFields fuel fields rest
            | '\x7d' :: rest => .ok (object fields, rest)
            | _ => .error .malformed
        | _ => .error .malformed
    | _ => .error .malformed

end

/-- The value that a text writes; only blanks may follow it. -/
def parse (text : String) : Except Fault Json := do
  let letters := text.toList
  let (value, rest) ← readValue (2 * letters.length + 2) letters
  match skipSpace rest with
  | [] => .ok value
  | _ :: _ => .error .malformed

end Json
end MarkupJsx
