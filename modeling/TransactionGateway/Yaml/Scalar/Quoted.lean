import TransactionGateway.Yaml.Fault
import TransactionGateway.Yaml.Scalar.Gap

/-! # Quoted scalars

Scalars between single or double quotes.

* **Single quotes.** A quote inside is written twice; nothing else has a meaning of its own.
* **Double quotes.** A backslash begins an escape: a letter for a character, `x`, `u` or `U` before
  two, four or eight hexadecimal digits of a code point, or a line break, which joins the lines.
* **Lines.** Gaps are read as everywhere. The mark of a document's start or end may not stand at the
  beginning of a line. -/

namespace TransactionGateway.Yaml.Quoted

/-- The value of a hexadecimal digit. -/
def hexValue? (c : Char) : Option Nat :=
  if c.isDigit then some (c.toNat - '0'.toNat)
  else if 'a' ≤ c ∧ c ≤ 'f' then some (c.toNat - 'a'.toNat + 10)
  else if 'A' ≤ c ∧ c ≤ 'F' then some (c.toNat - 'A'.toNat + 10)
  else none

/-- The value of hexadecimal digits. -/
def hexNumber? (s : List Char) : Option Nat :=
  s.foldlM (fun n c => (hexValue? c).map (n * 16 + ·)) 0

/-- The character of a code point. -/
def charOf? (n : Nat) : Option Char :=
  if h : n.isValidChar then some (Char.ofNatAux n h) else none

/-- The character written by the given number of hexadecimal digits. -/
def hexChar (count : Nat) (s : List Char) : Except Stop Char :=
  let digits := s.take count
  match if digits.length = count then hexNumber? digits else none with
  | none => stop .noHexadecimal .quotedEscape s
  | some n =>
    match charOf? n with
    | none => stop .badCodePoint .quotedEscape s
    | some c => .ok c

/-- The characters that a backslash and one more character stand for. -/
def escapes : List (Char × Char) :=
  [('0', '\x00'), ('a', '\x07'), ('b', '\x08'), ('t', '\t'), ('\t', '\t'), ('n', '\n'),
    ('v', '\x0b'), ('f', '\x0c'), ('r', '\r'), ('e', '\x1b'), (' ', ' '), ('"', '"'), ('/', '/'),
    ('\\', '\\'), ('N', '\u0085'), ('_', '\u00a0'), ('L', '\u2028'), ('P', '\u2029')]

/-- The digits that follow the letter of an escape by code point. -/
def escapeDigits? (c : Char) : Option Nat :=
  if c = 'x' then some 2 else if c = 'u' then some 4 else if c = 'U' then some 8 else none

/-- The character that is escaped by a backslash and the text after it, and the length of that
text. -/
def escape : List Char → Except Stop (Char × Nat)
  | [] => stop .unknownEscape .quotedEscape ['\\']
  | c :: r =>
    match escapeDigits? c with
    | some count => (hexChar count r).map fun d => (d, count + 1)
    | none =>
      match escapes.lookup c with
      | some d => .ok (d, 1)
      | none => stop .unknownEscape .quotedEscape ('\\' :: c :: r)

/-- What has been read, with a text before it. -/
def after (t : List Char) (r : Except Stop (List Char × List Char)) :
    Except Stop (List Char × List Char) :=
  r.map fun (u, rest) => (t ++ u, rest)

/-- The rest of a single-quoted scalar after a gap, and the text behind its closing quote. -/
def single : Gap → List Char → Except Stop (List Char × List Char)
  | _, [] => stop .endOfText .quotedScalar []
  | g, c :: r =>
    if c = '\'' then
      match r with
      | '\'' :: r => after (g.text ++ ['\'']) (single .empty r)
      | _ => .ok (g.text, r)
    else if isBreak c then single (g.withBreak c) r
    else if isBlank c then single (g.withBlank c) r
    else if g.endsAtLineStart && documentMarkAhead (c :: r) then
      stop .strayDocumentMark .quotedScalar (c :: r)
    else after (g.text ++ [c]) (single .empty r)

/-- The rest of a double-quoted scalar, `skipped` characters on and after a gap, and the text behind
its closing quote. -/
def double : (skipped : Nat) → Gap → List Char → Except Stop (List Char × List Char)
  | _, _, [] => stop .endOfText .quotedScalar []
  | n + 1, g, _ :: r => double n g r
  | 0, g, c :: r =>
    if c = '"' then .ok (g.text, r)
    else if isBreak c then double 0 (g.withBreak c) r
    else if isBlank c then double 0 (g.withBlank c) r
    else if g.endsAtLineStart && documentMarkAhead (c :: r) then
      stop .strayDocumentMark .quotedScalar (c :: r)
    else if c = '\\' then
      if !r.isEmpty && breakAhead r then after g.text (double 1 .escapedBreak r)
      else
        match escape r with
        | .error e => .error e
        | .ok (d, n) => after (g.text ++ [d]) (double n .empty r)
    else after (g.text ++ [c]) (double 0 .empty r)

/-- The single-quoted scalar whose opening quote comes before a text. -/
def readSingle (s : List Char) : Except Stop (List Char × List Char) := single .empty s

/-- The double-quoted scalar whose opening quote comes before a text. -/
def readDouble (s : List Char) : Except Stop (List Char × List Char) := double 0 .empty s

end TransactionGateway.Yaml.Quoted
