import TransactionGateway.Gateway.Run
import TransactionGateway.Proofs.Items

/-! # What a run discloses

A gateway is built from a connection string with its passwords, and shows much of itself: answers,
errors, log lines, the statements it sends and the rows it commits.

* **Blank texts.** Validation reads the connection string itself, but asks no more of it than that
  it is not blank, and redaction makes no text blank and no blank text visible
  (`allBlank_redact`).
* **Exhibits** (`World.exhibit`). Everything shown of a run: how connecting ended, then the answer
  to each step, with the wordings of the errors and of the descriptions among them, and after each
  the log, the journal, the rows and the counts of the pool.
* **Two runs.** Connection strings that look alike when redacted lead to the same exhibit, whatever
  happens in the run. -/

namespace TransactionGateway

open Database

/-! ### Blank texts stay blank -/

namespace Text

theorem allBlank_of_mem {c : Char} {s : List Char} (hc : isBlank c = false) (h : c ∈ s) :
    allBlank s = false := by
  rw [allBlank, List.all_eq_false]
  exact ⟨c, h, by simp [hc]⟩

theorem allBlank_append (a b : List Char) : allBlank (a ++ b) = (allBlank a && allBlank b) :=
  List.all_append

theorem allBlank_join {c : Char} (hc : isBlank c = true) (ps : List (List Char)) :
    allBlank (join c ps) = ps.all allBlank := by
  induction ps with
  | nil => rfl
  | cons p ps ih =>
    cases ps with
    | nil => simp [join]
    | cons q ps =>
      have hcons (s : List Char) : allBlank (c :: s) = allBlank s := by simp [allBlank, hc]
      rw [join, allBlank_append, hcons, ih]
      rfl

end Text

namespace Url

open TransactionGateway.Text

theorem allBlank_maskItem (item : List Char) : allBlank (maskItem item) = allBlank item := by
  unfold maskItem
  split
  · next key value hcut =>
    split
    · have hwritten : allBlank item = false := by
        rw [eq_of_cut hcut]
        exact allBlank_of_mem (c := '=') (by decide) (by simp)
      rw [hwritten]
      exact allBlank_of_mem (c := '=') (by decide) (by simp)
    · rfl
  · rfl

theorem allBlank_maskItems {c : Char} (hc : isBlank c = true) (s : List Char) :
    allBlank (maskItems c s) = allBlank s := by
  calc allBlank (maskItems c s)
      = (pieces c s).all (allBlank ∘ maskItem) := by rw [maskItems, allBlank_join hc, List.all_map]
    _ = (pieces c s).all allBlank := by rw [show allBlank ∘ maskItem = allBlank from
          funext allBlank_maskItem]
    _ = allBlank s := by rw [← allBlank_join hc, join_pieces]

/-- A URL is not blank, redacted or not, because of its `://`; in a keyword string the items are
parted by a character that is blank itself. -/
theorem allBlank_redact (s : List Char) : allBlank (redact s) = allBlank s := by
  by_cases hmark : schemeMark <:+: s
  · have hcolon : isBlank ':' = false := by decide
    cases hcut : cutAtMark schemeMark s with
    | none => exact absurd hmark (cutAtMark_eq_none_iff.mp hcut)
    | some parts =>
      obtain ⟨scheme, rest⟩ := parts
      have hwritten : allBlank s = false :=
        allBlank_of_mem hcolon (hmark.subset (by simp [schemeMark]))
      rw [redact_of_cut hcut, hwritten]
      exact allBlank_of_mem hcolon (by simp [schemeMark])
  · have hkept : redact s = maskItems ' ' s := redact_of_not_infix hmark
    rw [hkept, allBlank_maskItems (by decide)]

theorem allBlank_redacted (url : String) :
    allBlank (redacted url).toList = allBlank url.toList := by
  rw [redacted, String.toList_ofList, allBlank_redact]

end Url

/-! ### What is shown -/

/-- The wordings of an error: its text, its fields, and the texts of its causes. -/
def GatewayError.wordings (e : GatewayError) : List String := e.text :: e.debug :: e.sources

/-- The wordings of a failure. -/
def Failure.wordings : Failure → List String
  | gateway cause => cause.wordings
  | app message => [(Failure.app message).text]

/-- The wordings in an answer. -/
def Answer.wordings : Answer → List String
  | failed cause => cause.wordings
  | description d => [d.url, d.debug]
  | _ => []

/-- The wordings of the end of a connecting. -/
def connectingWordings : Outcome GatewayError Unit → List String
  | .err e => e.wordings
  | _ => []

/-- What a gateway in use has shown so far: its log, what it has sent, the committed rows and the
counts of its pool. -/
structure Sight where
  log : List String
  journal : List String
  rows : List String
  status : PoolStatus
deriving DecidableEq, Repr

/-- What is shown of a whole run: how connecting ended, and the answer to each step, with what can
be read in them and seen after them. -/
structure Exhibit where
  connecting : Outcome GatewayError Unit × List String × Sight
  steps : List (Answer × List String × Sight)
deriving DecidableEq, Repr

namespace World

/-- What the gateway has shown. -/
def sight (w : World) : Sight where
  log := w.engine.notices.map Notice.line
  journal := w.engine.server.journal.map Entry.text
  rows := w.engine.server.rows
  status := w.engine.pool.status

/-- What is shown of steps. -/
def shown : List Step → World → List (Answer × List String × Sight)
  | [], _ => []
  | s :: rest, w =>
    let (answer, w) := w.step s
    (answer, answer.wordings, w.sight) :: shown rest w

/-- What is shown of a connecting and of the steps after it. -/
def exhibit (connected : Outcome GatewayError Unit × World) (steps : List Step) : Exhibit where
  connecting := (connected.1, connectingWordings connected.1, connected.2.sight)
  steps := shown steps connected.2

end World

/-! ### Two runs -/

/-- Validation finds the same flaw in settings whose connection strings look alike. -/
theorem Settings.validate_congr {settings other : Settings} (hpool : settings.pool = other.pool)
    (hurl : Url.redacted settings.databaseUrl = Url.redacted other.databaseUrl) :
    settings.validate = other.validate := by
  have hblank : Text.allBlank settings.databaseUrl.toList =
      Text.allBlank other.databaseUrl.toList := by
    rw [← Url.allBlank_redacted, hurl, Url.allBlank_redacted]
  rw [Settings.validate, Settings.validate, hblank, hpool]

/-- An engine keeps of its connection string what may be shown of it. -/
theorem Engine.build_congr {url other : String} (h : Url.redacted url = Url.redacted other)
    (limits : PoolLimits) (server : Server) :
    Engine.build url limits server = Engine.build other limits server := by
  rw [Engine.build, Engine.build, h]

namespace World

theorem connectChecked_congr {settings other : Settings} (hpool : settings.pool = other.pool)
    (hurl : Url.redacted settings.databaseUrl = Url.redacted other.databaseUrl)
    (check : Except SettingsError Unit) (handle : String) (server : Server) :
    connectChecked check settings handle server = connectChecked check other handle server := by
  cases check with
  | error e => rfl
  | ok _ =>
    simp only [connectChecked, connectUnchecked]
    rw [hpool, Engine.build_congr hurl]

end World

/-- Passwords reach nothing that a run shows: settings with the same limits whose connection strings
look alike when redacted have the same exhibit, on every server that does not tell the strings
apart and after the same steps, whether connecting succeeds or not. -/
theorem exhibits_alike (settings other : Settings) (hpool : settings.pool = other.pool)
    (hurl : Url.redacted settings.databaseUrl = Url.redacted other.databaseUrl)
    (reached : String → Server) (hreached : ∀ url url', reached url = reached url')
    (handle : String) (steps : List Step) :
    World.exhibit (World.connect settings handle (reached settings.databaseUrl)) steps =
      World.exhibit (World.connect other handle (reached other.databaseUrl)) steps ∧
    World.exhibit (World.connectLimits settings handle (reached settings.databaseUrl)) steps =
      World.exhibit (World.connectLimits other handle (reached other.databaseUrl)) steps := by
  rw [hreached settings.databaseUrl other.databaseUrl]
  constructor
  · rw [World.connect, World.connect, Settings.validate_congr hpool hurl,
      World.connectChecked_congr hpool hurl]
  · rw [World.connectLimits, World.connectLimits, hpool, World.connectChecked_congr hpool hurl]

/-- Settings with a password in the connection string. -/
def guarded (password : String) : Settings where
  databaseUrl := "db://app:" ++ password ++ "@host/main?password=" ++ password
  pool := { maxConnections := 1, minIdle := 0, connectionTimeoutSecs := 1 }

/-- A server that cannot be reached at the first attempt. -/
def guardedServer : Server where
  outages := [{ schedule := {}, error := .unreachable "refused" }]

/-- Two passwords, in the user information and in the query, that a run with errors, a description
and two shutdowns does not tell apart. -/
theorem guarded_alike :
    let steps := [.openSession "g" "s" .plain, .call "s" (.sql "PUT a"), .call "s" .commit,
      .openSession "g" "t" .guard, .describe "g", .clone "g" "h", .shutDown "g", .shutDown "h"]
    guarded "first" ≠ guarded "other" ∧
    World.exhibit (World.connect (guarded "first") "g" guardedServer) steps =
      World.exhibit (World.connect (guarded "other") "g" guardedServer) steps ∧
    World.exhibit (World.connectLimits (guarded "first") "g" guardedServer) steps =
      World.exhibit (World.connectLimits (guarded "other") "g" guardedServer) steps := by
  intro steps
  exact ⟨by decide, exhibits_alike (guarded "first") (guarded "other") rfl (by decide +kernel)
    (fun _ => guardedServer) (fun _ _ => rfl) "g" steps⟩

end TransactionGateway
