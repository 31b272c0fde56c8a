/-
  Flowgraph/Json/Lexeme.lean
  ==========================
  **Lexemes of a JSON text** — the text cut into brackets, commas, colons, words, numbers and
  strings, each with the bytes it covers.  Cutting ends at the first character that begins no
  lexeme and at the first lexeme without an end.

  A number or a string can have an end and still no value (`Except Flaw`): such a fault counts
  when the value is read, and not when it is passed over.  Where the two ways of going through a
  text disagree about a fault, both are kept (`Broken`).
-/
import Flowgraph.Json.Numeral
import Flowgraph.Json.ReadError

namespace Flowgraph.Json

/-- A place where a text breaks off: the fault reported when the value there is read, and the
    one when it is passed over. -/
structure Broken where
  read : Flaw
  passed : Flaw

/-- A place where both ways report the same fault. -/
def Broken.both (fault : TextFault) (offset : Nat) : Broken := ⟨⟨fault, offset⟩, ⟨fault, offset⟩⟩

/-- What a lexeme is. -/
inductive Token
  | openArray
  | closeArray
  | openObject
  | closeObject
  | comma
  | colon
  | null
  | bool (b : Bool)
  | number (value : Except Flaw Number)
  | string (value : Except Flaw String)
  /-- A lexeme without an end; `quoted` if it begins as a string. -/
  | broken (quoted : Bool) (place : Broken)

/-- A token and the bytes it covers. -/
structure Lexeme where
  start : Nat
  stop : Nat
  token : Token

/-- What is left of a text, with the number of bytes before it. -/
structure Cursor where
  offset : Nat
  rest : List Char

namespace Cursor

def isSpace (c : Char) : Bool := c = ' ' || c = '\n' || c = '\t' || c = '\r'

/-- Goes past the blanks, a byte each. -/
def skipSpace (c : Cursor) : Cursor :=
  ⟨c.offset + (c.rest.takeWhile isSpace).length, c.rest.dropWhile isSpace⟩

/-- The digits at the cursor, and the cursor after them. -/
def digits (c : Cursor) : List Nat × Cursor :=
  let ds := c.rest.takeWhile Char.isDigit
  (ds.map fun d => d.toNat - '0'.toNat, ⟨c.offset + ds.length, c.rest.dropWhile Char.isDigit⟩)

/-! ### Words -/

/-- Reads the rest of a word.  A wrong character is noticed after its first byte. -/
def word (token : Token) (c : Cursor) : List Char → Token × Cursor
  | [] => (token, c)
  | w :: ws =>
    match c.rest with
    | [] => (.broken false (.both .endInValue c.offset), c)
    | d :: rest =>
      if d = w then word token ⟨c.offset + 1, rest⟩ ws
      else (.broken false (.both .expectedWord (c.offset + 1)), c)

/-! ### Numbers -/

/-- The token of a whole numeral that ends at `c`; its exponent digits began at
    `exponentStart`. -/
def numeral (n : Numeral) (exponentStart : Nat) (c : Cursor) : Token × Cursor :=
  match n.value with
  | .ok v => (.number (.ok v), c)
  | .error none => (.number (.error ⟨.numberOutOfRange, c.offset⟩), c)
  | .error (some read) => (.number (.error ⟨.numberOutOfRange, exponentStart + read⟩), c)

/-- A number that breaks off at `c`.  Read, a text that ends there is a value cut short; passed
    over, it is a number like any other that is not well formed. -/
def brokenNumber (c : Cursor) (wrong : Nat) : Token × Cursor :=
  match c.rest with
  | [] => (.broken false ⟨⟨.endInValue, c.offset⟩, ⟨.invalidNumber, c.offset⟩⟩, c)
  | _ :: _ => (.broken false (.both .invalidNumber wrong), c)

/-- Reads an exponent, if there is one, after the digits of `n`. -/
def exponent (n : Numeral) (c : Cursor) : Token × Cursor :=
  match c.rest with
  | e :: rest =>
    if e = 'e' ∨ e = 'E' then
      let afterE : Cursor := ⟨c.offset + 1, rest⟩
      let (down, start) : Bool × Cursor :=
        match rest with
        | '+' :: rest => (false, ⟨c.offset + 2, rest⟩)
        | '-' :: rest => (true, ⟨c.offset + 2, rest⟩)
        | _ => (false, afterE)
      let (ds, stop) := start.digits
      if ds.isEmpty then brokenNumber start (start.offset + 1)
      else numeral { n with exponent := some (down, ds) } start.offset stop
    else numeral n 0 c
  | [] => numeral n 0 c

/-- Reads a fraction, if there is one, and an exponent after the whole part of `n`. -/
def fraction (n : Numeral) (c : Cursor) : Token × Cursor :=
  match c.rest with
  | '.' :: rest =>
    let start : Cursor := ⟨c.offset + 1, rest⟩
    let (ds, stop) := start.digits
    if ds.isEmpty then brokenNumber start (start.offset + 1)
    else exponent { n with fraction := ds } stop
  | _ => exponent n c

/-- Reads a number from its first digit on.  A zero is not followed by another digit. -/
def number (negative : Bool) (c : Cursor) : Token × Cursor :=
  let (ds, stop) := c.digits
  match ds with
  | [] => brokenNumber c (c.offset + 1)
  | 0 :: _ :: _ => (.broken false (.both .invalidNumber (c.offset + 2)), c)
  | ds => fraction { negative, whole := ds } stop

/-! ### Strings -/

def hexDigit (c : Char) : Option Nat :=
  if c.isDigit then some (c.toNat - '0'.toNat)
  else if 'a' ≤ c ∧ c ≤ 'f' then some (c.toNat - 'a'.toNat + 10)
  else if 'A' ≤ c ∧ c ≤ 'F' then some (c.toNat - 'A'.toNat + 10)
  else none

def hexDigits (a b c d : Char) : Option Nat := do
  let a ← hexDigit a
  let b ← hexDigit b
  let c ← hexDigit c
  let d ← hexDigit d
  return ((a * 16 + b) * 16 + c) * 16 + d

/-- The character that an escape of one letter stands for. -/
def escape : Char → Option Char
  | '"' => some '"'
  | '\\' => some '\\'
  | '/' => some '/'
  | 'b' => some '\x08'
  | 'f' => some '\x0c'
  | 'n' => some '\n'
  | 'r' => some '\r'
  | 't' => some '\t'
  | _ => none

def byteCount (cs : List Char) : Nat := cs.foldl (fun n c => n + c.utf8Size) 0

/-- A string being read: its characters so far, the last first; the first half of a pair whose
    second half must follow; and the first fault of its value. -/
structure Unquoting where
  chars : List Char := []
  half : Option Nat := none
  flaw : Option Flaw := none

namespace Unquoting

/-- The fault of a string, an earlier one first. -/
def fault (s : Unquoting) (fault : TextFault) (offset : Nat) : Unquoting :=
  { s with flaw := s.flaw.or (some ⟨fault, offset⟩), half := none }

/-- Notices a first half that is not followed by another escape of a number.  The end of the
    text is left to be noticed as such. -/
def checkHalf (s : Unquoting) (c : Cursor) : Unquoting :=
  match s.half, c.rest with
  | none, _ | some _, [] | some _, ['\\'] => s
  | some _, '\\' :: 'u' :: _ => s
  | some _, '\\' :: _ => s.fault .brokenPair (c.offset + 2)
  | some _, _ => s.fault .brokenPair (c.offset + 1)

/-- Takes in an escaped number that ends at `offset`. -/
def number (s : Unquoting) (n offset : Nat) : Unquoting :=
  match s.half with
  | some high =>
    if 0xDC00 ≤ n ∧ n ≤ 0xDFFF then
      { s with
        half := none
        chars := Char.ofNat ((high - 0xD800) * 0x400 + (n - 0xDC00) + 0x10000) :: s.chars }
    else s.fault .loneSurrogate offset
  | none =>
    if 0xDC00 ≤ n ∧ n ≤ 0xDFFF then s.fault .loneSurrogate offset
    else if 0xD800 ≤ n ∧ n ≤ 0xDBFF then { s with half := some n }
    else { s with chars := Char.ofNat n :: s.chars }

/-- A string that has no end, or a wrong character; its value's own fault comes first. -/
def broken (s : Unquoting) (read passed : Flaw) : Token :=
  .broken true ⟨s.flaw.getD read, passed⟩

def token (s : Unquoting) : Token :=
  .string (match s.flaw with
    | some flaw => .error flaw
    | none => .ok (String.ofList s.chars.reverse))

end Unquoting

/-- Reads a string after its opening quote.  A number that is not four hexadecimal digits is
    noticed after four bytes. -/
def unquote (s : Unquoting) (offset : Nat) : List Char → Token × Cursor
  | [] => (s.broken ⟨.endInString, offset⟩ ⟨.endInString, offset⟩, ⟨offset, []⟩)
  | '"' :: rest => ((s.checkHalf ⟨offset, '"' :: rest⟩).token, ⟨offset + 1, rest⟩)
  | '\\' :: 'u' :: a :: b :: c :: d :: rest =>
    match hexDigits a b c d with
    | some n => unquote (s.number n (offset + 6)) (offset + 6) rest
    | none =>
      let flaw : Flaw :=
        if 4 ≤ byteCount (a :: b :: c :: d :: rest) then ⟨.invalidEscape, offset + 6⟩
        else ⟨.endInString, offset + 2 + byteCount (a :: b :: c :: d :: rest)⟩
      (s.broken flaw flaw, ⟨offset, []⟩)
  | '\\' :: 'u' :: rest =>
    let flaw : Flaw :=
      if 4 ≤ byteCount rest then ⟨.invalidEscape, offset + 6⟩
      else ⟨.endInString, offset + 2 + byteCount rest⟩
    (s.broken flaw flaw, ⟨offset, []⟩)
  | ['\\'] => (s.broken ⟨.endInString, offset + 1⟩ ⟨.endInString, offset + 1⟩, ⟨offset, []⟩)
  | '\\' :: e :: rest =>
    let s := s.checkHalf ⟨offset, '\\' :: e :: rest⟩
    match escape e with
    | some c => unquote { s with chars := c :: s.chars } (offset + 2) rest
    | none => (s.broken ⟨.invalidEscape, offset + 2⟩ ⟨.invalidEscape, offset + 2⟩, ⟨offset, []⟩)
  | c :: rest =>
    let s := s.checkHalf ⟨offset, c :: rest⟩
    if c.toNat < 0x20 then
      (s.broken ⟨.controlCharacter, offset + 1⟩ ⟨.controlCharacter, offset⟩, ⟨offset, []⟩)
    else unquote { s with chars := c :: s.chars } (offset + c.utf8Size) rest

/-! ### Lexemes -/

/-- The token that begins with a character, and the cursor after it. -/
def token (c : Char) (start : Nat) (rest : List Char) : Token × Cursor :=
  let next : Cursor := ⟨start + 1, rest⟩
  match c with
  | '[' => (.openArray, next)
  | ']' => (.closeArray, next)
  | '{' => (.openObject, next)
  | '}' => (.closeObject, next)
  | ',' => (.comma, next)
  | ':' => (.colon, next)
  | 'n' => next.word .null ['u', 'l', 'l']
  | 't' => next.word (.bool true) ['r', 'u', 'e']
  | 'f' => next.word (.bool false) ['a', 'l', 's', 'e']
  | '"' => unquote {} (start + 1) rest
  | '-' => next.number true
  | c =>
    if c.isDigit then number false ⟨start, c :: rest⟩
    else (.broken false (.both .expectedValue (start + 1)), next)

/-- The lexemes from the cursor on; `fuel` bounds their number. -/
def lexemes : Nat → Cursor → List Lexeme
  | 0, _ => []
  | fuel + 1, c =>
    let start := c.skipSpace
    match start.rest with
    | [] => []
    | d :: rest =>
      let (token, next) := token d start.offset rest
      ⟨start.offset, next.offset, token⟩ ::
        match token with
        | .broken .. => []
        | _ => lexemes fuel next

end Cursor

/-- The lexemes of a text.  Each covers a character at least. -/
def Lexeme.ofText (text : String) : List Lexeme :=
  let cs := text.toList
  Cursor.lexemes cs.length ⟨0, cs⟩

end Flowgraph.Json
