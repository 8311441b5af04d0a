import TransactionGateway.Yaml.Tag

/-! # Tokens

The pieces that a YAML text falls into.

* **Structure.** Block collections show only in the indentation of the text; the tokens of their
  starts and ends make them explicit. The brackets of flow collections are tokens of their own.
* **Entries.** `entry` begins an entry of a block sequence, `separator` comes between the entries of
  flow collections, `key` and `value` come before the parts of a mapping's entry.
* **Content.** Scalars carry their text and style, aliases and anchors their names.
* **Positions.** A token begins and ends somewhere in the text; those that make structure explicit
  begin and end at the same position.
* **Runs.** The tokens of a text go as far as its first fault, or else to its end. -/

namespace TransactionGateway.Yaml

/-- The ways of writing a scalar. -/
inductive Style where
  | plain
  | singleQuoted
  | doubleQuoted
  | literal
  | folded
deriving DecidableEq, Repr

/-- The tokens. -/
inductive Token where
  | directive (d : Directive)
  | documentStart
  | documentEnd
  | sequenceStart
  | mappingStart
  | blockEnd
  | flowSequenceStart
  | flowSequenceEnd
  | flowMappingStart
  | flowMappingEnd
  | entry
  | separator
  | key
  | value
  | reference (name : List Char)
  | anchor (name : List Char)
  | tag (t : WrittenTag)
  | scalar (text : List Char) (style : Style)
  | textEnd
deriving DecidableEq, Repr

/-- A token with the position at which it begins and that behind it. -/
structure PlacedToken where
  token : Token
  start : Position
  finish : Position
deriving DecidableEq, Repr

/-- The tokens of a text, and what ends them: a fault, or the end of the text at a position. -/
structure TokenRun where
  tokens : List PlacedToken
  ending : Except Fault Position

/-- The run of a text that is at fault from its beginning. -/
def TokenRun.faulty (f : Fault) : TokenRun := ⟨[], .error f⟩

/-- The run with one more token at its beginning. -/
def TokenRun.cons (t : PlacedToken) (r : TokenRun) : TokenRun := ⟨t :: r.tokens, r.ending⟩

end TransactionGateway.Yaml
