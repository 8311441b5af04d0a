import TransactionGateway.Settings.Lookup
import TransactionGateway.Text.Cut
import TransactionGateway.Yaml.Assembly
import TransactionGateway.Yaml.Meaning

/-! # Settings from a document

Settings read from the text of a YAML document.

* **Shape.** A mapping with the connection string and a mapping of limits, which may be left out, as
  may each limit. Keys are scalars of any style. Unknown keys are passed over with their values; a
  known key stands at most once in its mapping. An empty scalar is a mapping without entries.
* **Values.** The connection string is the text of a scalar, whatever it means. A count or a time is
  a whole number of its width, a truth value one of its words; both are plain, or tagged as what
  they are and literal.
* **Order.** Entries are read in order, and the first flaw is the answer, a fault of the text in its
  place. What follows the document is a flaw when there is no other.
* **Positions.** A flaw of a value shows where the value begins, one of a mapping's fields where the
  mapping begins. For an alias that is where the anchored node begins.
* **Placeholders.** A connection string that is a name in `${…}` stands for the value of the
  variable of that name. -/

namespace TransactionGateway

open TransactionGateway.Text TransactionGateway.Yaml

/-- What a meaning is called where something else was expected. -/
def Found.ofMeaning : Meaning → Found
  | .null => .unit
  | .boolean b => .boolean b
  | .integer i => .integer i
  | .float x => .float x.text
  | .text s => .string s

/-- The flaw of a node that is not what was expected. -/
def DocumentFlaw.unexpected (place expected : String) : Node → DocumentFlaw
  | .scalar label s style =>
    match Meaning.ofScalar label.tag s style with
    | .ok m => .mismatch place label.start (.wrongType (.ofMeaning m) expected)
    | .error demand => .mismatch place label.start (.wrongValue (.string s) demand.text)
  | .sequence label _ => .mismatch place label.start (.wrongType .sequence expected)
  | .mapping label _ => .mismatch place label.start (.wrongType .map expected)
  | .cut fault => .broken fault
  | .reference _ => .mismatch place {} (.wrongType .unit expected)

namespace Yaml.Document

variable (d : Document)

/-- A reader of the value at a place. -/
abbrev Reader (α : Type) := (place : String) → Node → Except DocumentFlaw α

/-- The text of a scalar. -/
def readText (expected : String) : Reader String := fun place x =>
  match d.target x with
  | .scalar _ s _ => .ok s
  | x => .error (.unexpected place expected x)

/-- A scalar may be read as what is demanded: it is plain, or literal and tagged so. -/
def isOpenTo (demand : Demand) (label : Label) (style : Style) : Bool :=
  style == .plain || (style == .literal && label.tag == some demand.tag)

/-- A whole number of 64 bits. -/
def readNumber (expected : String) : Reader Nat := fun place x =>
  let x := d.target x
  match x with
  | .scalar label s style =>
    match Meaning.natural? largest64 s.toList with
    | some n =>
      if isOpenTo .integer label style then .ok n else .error (.unexpected place expected x)
    | none => .error (.unexpected place expected x)
  | x => .error (.unexpected place expected x)

/-- A word of 32 bits. -/
def readWord32 : Reader UInt32 := fun place x => do
  let n ← d.readNumber "u32" place x
  if n ≤ largest32 then return UInt32.ofNat n
  else
    throw (.mismatch place (d.target x).label.start (.wrongValue (.integer n) "u32"))

/-- A word of 64 bits. -/
def readWord64 : Reader UInt64 := fun place x => do
  let n ← d.readNumber "u64" place x
  return UInt64.ofNat n

/-- A truth value. -/
def readTruth : Reader Bool := fun place x =>
  let x := d.target x
  match x with
  | .scalar label s style =>
    match Meaning.boolean? s.toList with
    | some b =>
      if isOpenTo .boolean label style then .ok b else .error (.unexpected place "a boolean" x)
    | none => .error (.unexpected place "a boolean" x)
  | x => .error (.unexpected place "a boolean" x)

/-- The entries of a mapping, and where it begins. -/
def readEntries (expected : String) : Reader (List (Node × Node) × Position) := fun place x =>
  match d.target x with
  | .mapping label entries => .ok (entries, label.start)
  | .scalar label s style =>
    if s = "" ∧ style = .plain then .ok ([], label.start)
    else .error (.unexpected place expected (.scalar label s style))
  | x => .error (.unexpected place expected x)

/-- The place of the value that belongs to a key. -/
def placeUnder (place : String) : Node → String
  | .scalar _ key _ => if place.isEmpty then key else place ++ "." ++ key
  | _ => if place.isEmpty then "?" else place ++ ".?"

/-- The fields of a mapping, each with a reader of what it changes. -/
abbrev Fields (σ : Type) := String → Option (Reader (σ → σ))

/-- A value that is passed over; it may not be cut. -/
def passOver (x : Node) : Except DocumentFlaw Unit :=
  match x.cut? with
  | some fault => .error (.broken fault)
  | none => .ok ()

/-- The entries of a mapping at a place and a position read one after another, with the fields that
have been read before. -/
def readFields {σ : Type} (fields : Fields σ) (place : String) (start : Position) :
    List (Node × Node) → (seen : List String) → σ → Except DocumentFlaw σ
  | [], _, s => .ok s
  | (key, value) :: rest, seen, s => do
    let name ← d.readText "field identifier" place key
    match fields name with
    | none =>
      passOver value
      readFields fields place start rest seen s
    | some read =>
      if seen.contains name then throw (.mismatch place start (.duplicateField name))
      else
        let change ← read (placeUnder place key) value
        readFields fields place start rest (name :: seen) (change s)

/-- The fields of the limits. -/
def limitFields : Fields PoolLimits
  | "max_connections" => some fun place x => do
    let maxConnections ← d.readWord32 place x
    return fun limits => { limits with maxConnections }
  | "min_idle" => some fun place x => do
    let minIdle ← d.readWord32 place x
    return fun limits => { limits with minIdle }
  | "connection_timeout_secs" => some fun place x => do
    let connectionTimeoutSecs ← d.readWord64 place x
    return fun limits => { limits with connectionTimeoutSecs }
  | "idle_timeout_secs" => some fun place x => do
    let idleTimeoutSecs ← d.readWord64 place x
    return fun limits => { limits with idleTimeoutSecs }
  | "max_lifetime_secs" => some fun place x => do
    let maxLifetimeSecs ← d.readWord64 place x
    return fun limits => { limits with maxLifetimeSecs }
  | "test_on_check_out" => some fun place x => do
    let testOnCheckOut ← d.readTruth place x
    return fun limits => { limits with testOnCheckOut }
  | _ => none

/-- The limits. -/
def readLimits : Reader PoolLimits := fun place x => do
  let (entries, start) ← d.readEntries "struct PoolConfig" place x
  d.readFields d.limitFields place start entries [] {}

/-- The fields of settings: the connection string, as long as it is missing, and the limits. -/
def settingsFields : Fields (Option String × PoolLimits)
  | "database_url" => some fun place x => do
    let url ← d.readText "a string" place x
    return fun s => (some url, s.2)
  | "pool" => some fun place x => do
    let limits ← d.readLimits place x
    return fun s => (s.1, limits)
  | _ => none

/-- The settings that the root of a document spells out. -/
def readRoot : Except DocumentFlaw Settings := do
  let (entries, start) ←
    match d.root with
    | none => pure ([], d.finish)
    | some root => d.readEntries "struct Settings" "" root
  let (url?, pool) ← d.readFields d.settingsFields "" start entries [] (none, {})
  match url? with
  | some databaseUrl => return { databaseUrl, pool }
  | none => throw (.mismatch "" start (.missingField "database_url"))

/-- The settings that a document spells out, when its text has no fault and nothing follows it. -/
def readSettings : Except DocumentFlaw Settings := do
  let s ← d.readRoot
  match d.fault with
  | some fault => throw (.broken fault)
  | none => if d.isFollowed then throw .followed else return s

end Yaml.Document

/-- The name of the variable that a connection string stands for. -/
def placeholder? (url : String) : Option String := do
  let s ← dropMark "$\x7b".toList (trim url.toList)
  let name ← dropEndMark ['\x7d'] s
  return String.ofList name

theorem placeholder?_eq_some_iff {url name : String} :
    placeholder? url = some name ↔
      trim url.toList = "$\x7b".toList ++ (name.toList ++ ['\x7d']) := by
  simp only [placeholder?, bind, Option.bind_eq_some_iff, dropMark_eq_some_iff,
    dropEndMark_eq_some_iff]
  constructor
  · rintro ⟨s, hs, name', rfl, hname⟩
    obtain rfl : String.ofList name' = name := Option.some.inj hname
    rw [hs, String.toList_ofList (l := name')]
  · intro h
    exact ⟨_, h, name.toList, rfl, congrArg some String.ofList_toList⟩

theorem placeholder?_eq_none_iff {url : String} :
    placeholder? url = none ↔
      ∀ name : String, trim url.toList ≠ "$\x7b".toList ++ (name.toList ++ ['\x7d']) := by
  simp only [Option.eq_none_iff_forall_ne_some, ne_eq, placeholder?_eq_some_iff]

namespace Settings

/-- The settings spelled out by the text of a document. -/
def spelledOut (text : String) : Except SettingsError Settings :=
  match (Document.ofText text).readSettings with
  | .ok s => .ok s
  | .error flaw => .error (.document flaw)

/-- The settings with the value of a variable for a placeholder. -/
def resolved (vars : Variables) (s : Settings) : Except SettingsError Settings :=
  match placeholder? s.databaseUrl with
  | none => .ok s
  | some name =>
    match vars name with
    | some databaseUrl => .ok { s with databaseUrl }
    | none => .error (.missing name)

/-- The settings of the text of a document. -/
def ofYaml (vars : Variables) (text : String) : Except SettingsError Settings := do
  let s ← spelledOut text
  let s ← s.resolved vars
  s.validated

end Settings

end TransactionGateway
