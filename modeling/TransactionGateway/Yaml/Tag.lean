import TransactionGateway.Text.Octets
import TransactionGateway.Yaml.Scalar.Quoted

/-! # Tags and directives

* **Octets.** The text of a tag may hold escaped octets, which need not make up characters; so a tag
  is a list of octets, and ends before the first zero.
* **Forms.** `!<…>` gives the whole tag. `!handle!suffix` stands for the suffix behind what the
  handle abbreviates, `!suffix` for the suffix behind what `!` abbreviates. A lone `!` is a tag of
  its own.
* **Directives.** `%TAG` says what a handle abbreviates, `%YAML` the version of the format. Any
  other directive is refused. -/

namespace TransactionGateway.Yaml

open TransactionGateway.Text

/-- Octets up to the first zero. -/
def beforeZero (o : Octets) : Octets := o.takeWhile (· != 0)

/-- A tag as it is written: a handle and what comes after it. An empty handle stands for nothing. -/
structure WrittenTag where
  handle : List Char
  suffix : Octets
deriving DecidableEq, Repr

/-- A directive. -/
inductive Directive where
  | version (major minor : Nat)
  | tag (handle : List Char) (stands : Octets)
deriving DecidableEq, Repr

namespace Tag

/-- A character of tags; in whole tags there are three more. -/
def isTagChar (whole : Bool) (c : Char) : Bool :=
  isNameChar c || ";/?:@&=+$.%!~*'()".toList.contains c || (whole && [',', '[', ']'].contains c)

/-- The number of octets of a character whose first octet this is. -/
def leadWidth? (n : Nat) : Option Nat :=
  if n < 0x80 then some 1
  else if 0xC0 ≤ n ∧ n < 0xE0 then some 2
  else if 0xE0 ≤ n ∧ n < 0xF0 then some 3
  else if 0xF0 ≤ n ∧ n < 0xF8 then some 4
  else none

/-- An octet escaped by a percent sign and two hexadecimal digits. -/
def escapedOctet (during : Activity) : List Char → Except Stop Nat
  | '%' :: a :: b :: r =>
    match Quoted.hexValue? a, Quoted.hexValue? b with
    | some high, some low => .ok (high * 16 + low)
    | _, _ => stop .noEscapedOctet during ('%' :: a :: b :: r)
  | s => stop .noEscapedOctet during s

/-- The octets of the tag characters at the beginning of a text, `skipped` characters on and with
`due` octets of a character still to come, and the text behind them. -/
def uri (during : Activity) (whole : Bool) :
    (skipped due : Nat) → List Char → Except Stop (Octets × List Char)
  | _, 0, [] => .ok ([], [])
  | _, _ + 1, [] => stop .noEscapedOctet during []
  | n + 1, due, _ :: r => uri during whole n due r
  | 0, due + 1, c :: r => do
    let n ← escapedOctet during (c :: r)
    if 0x80 ≤ n ∧ n < 0xC0 then
      let (o, rest) ← uri during whole 2 due r
      return (UInt8.ofNat n :: o, rest)
    else stop .badTrailingOctet during (c :: r)
  | 0, 0, c :: r =>
    if c = '%' then do
      let n ← escapedOctet during (c :: r)
      match leadWidth? n with
      | some width =>
        let (o, rest) ← uri during whole 2 (width - 1) r
        return (UInt8.ofNat n :: o, rest)
      | none => stop .badLeadingOctet during (c :: r)
    else if isTagChar whole c then do
      let (o, rest) ← uri during whole 0 0 r
      return (String.utf8EncodeChar c ++ o, rest)
    else .ok ([], c :: r)

/-- Tag characters, at least one of them, and the text behind them. -/
def uriOfSome (during : Activity) (whole : Bool) (s : List Char) :
    Except Stop (Octets × List Char) :=
  if s.head?.any (isTagChar whole) then uri during whole 0 0 s else stop .noUri during s

/-- The handle at the beginning of a text that begins with `!`, and the text behind it: as far as
the second `!`, or as far as the characters of names go. -/
def handle (s : List Char) : List Char × List Char :=
  let name := (s.drop 1).takeWhile isNameChar
  let rest := (s.drop 1).dropWhile isNameChar
  match rest with
  | '!' :: rest => ('!' :: name ++ ['!'], rest)
  | _ => ('!' :: name, rest)

/-- The tag at the beginning of a text that begins with `!`, and the text behind it. -/
def read (inFlow : Bool) (s : List Char) : Except Stop (WrittenTag × List Char) := do
  let (t, rest) ←
    match s with
    | '!' :: '<' :: s => do
      let (suffix, rest) ← uriOfSome .tagUri true s
      match rest with
      | '>' :: rest => pure (⟨[], beforeZero suffix⟩, rest)
      | rest => stop .noTagEnd .tag rest
    | s =>
      let (h, rest) := handle s
      if 2 ≤ h.length ∧ h.getLast? = some '!' then do
        let (suffix, rest) ← uriOfSome .tagUri false rest
        pure (⟨h, beforeZero suffix⟩, rest)
      else do
        let (more, rest) ← uri .tagUri false 0 0 rest
        let suffix := beforeZero (octetsOf (h.drop 1) ++ more)
        pure (if suffix = [] then ⟨[], octetsOf ['!']⟩ else ⟨['!'], suffix⟩, rest)
  if blankAhead rest || (inFlow && oneAhead [','] rest) then return (t, rest)
  else stop .noBlankOrBreak .tag rest

end Tag

namespace Directive

/-- The digits of a version, at least one and at most nine, and the text behind them. -/
def versionNumber (s : List Char) : Except Stop (Nat × List Char) :=
  let digits := s.takeWhile Char.isDigit
  if digits = [] then stop .noVersion .versionDirective s
  else if 9 < digits.length then stop .longVersion .versionDirective (s.drop 9)
  else
    .ok (digits.foldl (fun n c => n * 10 + (c.toNat - '0'.toNat)) 0, s.dropWhile Char.isDigit)

/-- The version after the name of its directive. -/
def readVersion (s : List Char) : Except Stop (Directive × List Char) := do
  let (major, s) ← versionNumber (dropBlanks s)
  match s with
  | '.' :: s =>
    let (minor, s) ← versionNumber s
    return (.version major minor, s)
  | s => stop .noVersionPoint .versionDirective s

/-- The handle and what it stands for after the name of their directive. -/
def readTag (s : List Char) : Except Stop (Directive × List Char) := do
  let s := dropBlanks s
  if !oneAhead ['!'] s then stop .noExclamationMark .directiveHandle s
  else
    let (h, s) := Tag.handle s
    if h.getLast? ≠ some '!' then stop .noExclamationMark .directiveHandleEnd s
    else if !s.head?.any isBlank then stop .noBlank .tagDirective s
    else
      let (stands, s) ← Tag.uriOfSome .directiveUri true (dropBlanks s)
      if blankAhead s then return (.tag h (beforeZero stands), s)
      else stop .noBlankOrBreak .tagDirective s

/-- The directive whose percent sign comes before a text, and the text below its line. -/
def read (s : List Char) : Except Stop (Directive × List Char) := do
  let name := s.takeWhile isNameChar
  let rest := s.dropWhile isNameChar
  if name = [] then stop .unnamedDirective .directive rest
  else if !blankAhead rest then stop .strayDirectiveCharacter .directive rest
  else
    let (d, rest) ←
      if name = "YAML".toList then readVersion rest
      else if name = "TAG".toList then readTag rest
      else stop .unknownDirective .directive rest
    let rest := dropComment rest
    if breakAhead rest then return (d, rest.drop 1) else stop .noLineEnd .directive rest

end Directive

/-- The name of an anchor or an alias after its mark, and the text behind it. -/
def anchorName (during : Activity) (s : List Char) : Except Stop (List Char × List Char) :=
  let name := s.takeWhile isNameChar
  let rest := s.dropWhile isNameChar
  if name ≠ [] ∧ (blankAhead rest || oneAhead "?:,]\x7d%@\x60".toList rest) then
    .ok (name, rest)
  else stop .noName during rest

end TransactionGateway.Yaml
