import TransactionGateway.Yaml.Meaning

/-! # Writing scalars

The text of a string as the value of an entry in a block mapping.

* **Style.** A string with line feeds is written literally. One that would mean something else
  stands between single quotes. Any other is plain. A string that its style cannot hold is quoted:
  singly if that can hold it, or else doubly.
* **Plain.** It has no break, no space at either end, and nothing in it that the format reads as an
  indicator.
* **Characters.** Those that are not shown as themselves are escaped, so they need double quotes, as
  does a space beside a line break. A literal string has no space before a line break and none at
  its end.
* **Lines.** The lines of a value are indented by two spaces. A value ends with a line break. -/

namespace TransactionGateway.Yaml.Printer

/-- A character that is shown as itself. -/
def isShown (c : Char) : Bool :=
  let n := c.toNat
  n == 0x0A || (0x20 ≤ n && n ≤ 0x7E)
    || (0xA0 ≤ n && n != 0xFEFF && n != 0xFFFE && n != 0xFFFF)

/-- A character of the one kind comes just before one of the other. -/
def hasPair (p q : Char → Bool) : List Char → Bool
  | c :: d :: r => (p c && q d) || hasPair p q (d :: r)
  | _ => false

/-- A space. -/
def isSpace (c : Char) : Bool := c == ' '

/-- An indicator stands at the beginning of the text. -/
def beginsWithIndicator (s : List Char) : Bool :=
  match s with
  | [] => false
  | c :: r =>
    [',', '[', ']', '{', '}', '#', '&', '*', '!', '|', '>', '\'', '"', '%', '@', '\x60'].contains c
      || (['-', '?', ':'].contains c && blankAhead r)
      || ['-', '-', '-'].isPrefixOf s || ['.', '.', '.'].isPrefixOf s

/-- An indicator stands inside the text, whose characters so far end with a blank or do not. -/
def holdsIndicator : (afterBlank : Bool) → List Char → Bool
  | _, [] => false
  | afterBlank, c :: r =>
    (c == ':' && blankAhead r) || (afterBlank && c == '#')
      || holdsIndicator (isBlank c || isBreak c) r

/-- All characters are shown as themselves. -/
def isAllShown (s : List Char) : Bool := s.all isShown

/-- The plain style can hold the text. -/
def fitsPlain (s : List Char) : Bool :=
  isAllShown s && !s.any isBreak && !s.head?.any isSpace && !s.getLast?.any isSpace
    && !beginsWithIndicator s && !holdsIndicator false (s.drop 1)

/-- Single quotes can hold the text. -/
def fitsSingle (s : List Char) : Bool :=
  isAllShown s && !hasPair isSpace isBreak s && !hasPair isBreak isSpace s

/-- The literal style can hold the text. -/
def fitsLiteral (s : List Char) : Bool :=
  isAllShown s && !hasPair isSpace isBreak s && !s.getLast?.any isSpace

/-- The text would mean something else without quotes. -/
def isAmbiguous (s : List Char) : Bool :=
  match Meaning.ofPlain (String.ofList s) with
  | .text _ => Meaning.isZeroPadded s
  | _ => true

/-- The style of a text. -/
def styleOf (s : List Char) : Style :=
  if s.contains '\n' then
    if fitsLiteral s then .literal else .doubleQuoted
  else if !isAmbiguous s && fitsPlain s then .plain
  else if fitsSingle s then .singleQuoted
  else .doubleQuoted

/-- The indentation of a value's lines. -/
def indentation : List Char := [' ', ' ']

/-- A text between single quotes, `afterBreak` or not. -/
def singleBody : (afterBreak : Bool) → List Char → List Char
  | afterBreak, [] => if afterBreak then indentation else []
  | afterBreak, c :: r =>
    if isBreak c then
      (if c = '\n' ∧ !afterBreak then ['\n'] else []) ++ c :: singleBody true r
    else
      (if afterBreak then indentation else [])
        ++ (if c = '\'' then ['\'', '\''] else [c]) ++ singleBody false r

/-- A number in upper-case hexadecimal digits, of which there are at least the given count. -/
def hexDigits (count n : Nat) : List Char :=
  let digits := (Nat.toDigits 16 n).map Char.toUpper
  List.replicate (count - digits.length) '0' ++ digits

/-- The letters of the escapes that have one. -/
def escapeLetters : List (Char × Char) :=
  [('\x00', '0'), ('\x07', 'a'), ('\x08', 'b'), ('\t', 't'), ('\n', 'n'), ('\x0b', 'v'),
    ('\x0c', 'f'), ('\r', 'r'), ('\x1b', 'e'), ('"', '"'), ('\\', '\\'), ('\u0085', 'N'),
    ('\u2028', 'L'), ('\u2029', 'P')]

/-- An escaped character. -/
def escaped (c : Char) : List Char :=
  match escapeLetters.lookup c with
  | some letter => ['\\', letter]
  | none =>
    if c.toNat ≤ 0xFF then '\\' :: 'x' :: hexDigits 2 c.toNat
    else if c.toNat ≤ 0xFFFF then '\\' :: 'u' :: hexDigits 4 c.toNat
    else '\\' :: 'U' :: hexDigits 8 c.toNat

/-- A character between double quotes. -/
def doubleChar (c : Char) : List Char :=
  if isShown c && !isBreak c && c != '"' && c != '\\' then [c] else escaped c

/-- The lines of a literal text, `afterBreak` or not. -/
def literalBody : (afterBreak : Bool) → List Char → List Char
  | _, [] => []
  | afterBreak, c :: r =>
    if isBreak c then c :: literalBody true r
    else (if afterBreak then indentation else []) ++ c :: literalBody false r

/-- The sign for the breaks at the end of a literal text. -/
def chompingSign (s : List Char) : List Char :=
  match s.reverse with
  | [] => ['-']
  | c :: r =>
    if !isBreak c then ['-']
    else if r = [] || breakAhead r then ['+']
    else []

/-- The header of a literal text. -/
def literalHeader (s : List Char) : List Char :=
  '|' :: (if s.head?.any fun c => isSpace c || isBreak c then ['2'] else []) ++ chompingSign s

/-- A text as the value of an entry, to the end of its last line. -/
def value (s : List Char) : List Char :=
  match styleOf s with
  | .plain => s ++ ['\n']
  | .singleQuoted => '\'' :: singleBody false s ++ ['\'', '\n']
  | .literal | .folded =>
    literalHeader s ++ '\n' :: literalBody true s
      ++ (if s.getLast?.any isBreak then [] else ['\n'])
  | .doubleQuoted => '"' :: s.flatMap doubleChar ++ ['"', '\n']

/-- An entry of a block mapping. -/
def entry (key : String) (value : List Char) : List Char := key.toList ++ ':' :: ' ' :: value

end TransactionGateway.Yaml.Printer
