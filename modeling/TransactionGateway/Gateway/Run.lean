import TransactionGateway.Gateway.Scope

/-! # Runs of a gateway

A gateway in use: its handles and its sessions by name, and the steps that can be taken with them.

* **Handles.** A gateway and its clones share one engine. Each handle lives until it is shut down.
* **Sessions.** A session is kept under a name until it is dropped or finished; a guarded one closes
  itself when it is let go of. A name taken anew lets go of the session that had it.
* **Panics.** A panic during a call on a kept session leaves the session as it is.
* **Tear-down.** The pool and its idle connections live until the last handle is shut down and the
  last open session is closed. -/

namespace TransactionGateway

open Database

/-- A session kept under a name. -/
structure Kept where
  session : Session
  isGuarded : Bool
deriving DecidableEq, Repr

/-- A gateway in use. -/
structure World where
  engine : Engine
  handles : List String := []
  kept : List (String × Kept) := []
deriving DecidableEq, Repr

/-- Where a session comes from. -/
inductive Source where
  | plain
  | guard
  | timed (millis : Nat)
deriving DecidableEq, Repr

/-- The checkout that a source makes. -/
def Source.checkout : Source → Act Engine GatewayError Connection
  | .timed millis => Engine.checkoutWithin millis
  | _ => Engine.checkout

/-- The steps of a run. -/
inductive Step where
  | openSession (handle name : String) (source : Source)
  | call (name : String) (op : Operation)
  | process (name : String) (ops : List Operation)
  | finish (name : String)
  | drop (name : String)
  | identify (name : String)
  | atomically (handle : String) (ops : List Operation)
  | statements (handle : String) (texts : List String)
  | scope (handle : String) (ops : List Operation)
  | guardedScope (handle : String) (ops : List Operation)
  | applyScript (handle : String) (script : String)
  | check (handle : String)
  | testConnection (handle : String)
  | describe (handle : String)
  | clone (handle copy : String)
  | shutDown (handle : String)

/-- What can be asked about an engine. -/
structure Description where
  url : String
  status : PoolStatus
  limits : PoolLimits
deriving DecidableEq, Repr

/-- A description of an engine with its fields. -/
def Description.debug (d : Description) : String :=
  "Engine \x7b url: " ++ Text.quoted d.url ++ ", state: PoolStatus \x7b connections: "
    ++ toString d.status.connections ++ ", idle_connections: " ++ toString d.status.idle
    ++ ", max_size: " ++ toString d.status.max ++ " \x7d \x7d"

/-- The answers to steps. -/
inductive Answer where
  | done
  | failed (cause : Failure)
  | panicked
  | noSuchSession
  | noSuchGateway
  | session (id : Nat)
  | inTransaction (flag : Bool)
  | status (status : PoolStatus)
  | description (description : Description)
deriving DecidableEq, Repr

/-- The answer to a step that ended in some way. -/
def Answer.ofOutcome {ε α : Type} (lift : ε → Failure) (value : α → Answer) :
    Outcome ε α → Answer
  | .ok a => value a
  | .err e => .failed (lift e)
  | .panic => .panicked

namespace World

/-- The session kept under a name. -/
def kept? (w : World) (name : String) : Option Kept := w.kept.lookup name

/-- The world without the session kept under a name. -/
def forget (name : String) (w : World) : World :=
  { w with kept := w.kept.filter fun (n, _) => n ≠ name }

/-- The world with a session kept under a name. -/
def keep (name : String) (k : Kept) (w : World) : World :=
  { w with kept := w.kept.filter (fun (n, _) => n ≠ name) ++ [(name, k)] }

/-- The world with another engine. -/
def withEngine (engine : Engine) (w : World) : World := { w with engine }

/-- A session let go of. -/
def release (k : Kept) (e : Engine) : Engine :=
  let event := if k.isGuarded then SessionEvent.scopeDropFailed else .dropFailed
  (Session.letGo false event ⟨k.session, e⟩).engine

/-- A kept session let go of, if there is one of the name. -/
def letGo (name : String) (w : World) : World :=
  match w.kept? name with
  | none => w
  | some k => (w.forget name).withEngine (release k w.engine)

/-- Work on a kept session. -/
def onKept {ε : Type} (lift : ε → Failure) (name : String) (work : Act Attached ε Unit)
    (w : World) : Answer × World :=
  match w.kept? name with
  | none => (.noSuchSession, w)
  | some k =>
    let (r, a) := work ⟨k.session, w.engine⟩
    (.ofOutcome lift (fun _ => .done) r,
      (w.keep name { k with session := a.session }).withEngine a.engine)

/-- Work on the engine through a handle. -/
def onEngine {ε α : Type} (lift : ε → Failure) (value : α → Answer) (handle : String)
    (work : Act Engine ε α) (w : World) : Answer × World :=
  if w.handles.contains handle then
    let (r, e) := work w.engine
    (.ofOutcome lift value r, w.withEngine e)
  else (.noSuchGateway, w)

/-- A session opened and kept. -/
def openAs (handle name : String) (source : Source) (w : World) : Answer × World :=
  if w.handles.contains handle then
    match (source.checkout >>= Session.openOn : Act Engine GatewayError Session) w.engine with
    | (.ok s, e) =>
      (.done, ((w.withEngine e).letGo name).keep name ⟨s, source == .guard⟩)
    | (.err e, engine) => (.failed (.gateway e), w.withEngine engine)
    | (.panic, engine) => (.panicked, w.withEngine engine)
  else (.noSuchGateway, w)

/-- A kept session finished: a guarded one tells of a failure to close. -/
def finish (name : String) (w : World) : Answer × World :=
  match w.kept? name with
  | none => (.noSuchSession, w)
  | some k =>
    if k.isGuarded then
      let (r, a) := Session.close false ⟨k.session, w.engine⟩
      (.ofOutcome .gateway (fun _ => .done) r, (w.forget name).withEngine a.engine)
    else (.done, w.letGo name)

/-- What there is to say about the engine. -/
def description (w : World) : Description :=
  ⟨w.engine.pool.url, w.engine.pool.status, w.engine.pool.limits⟩

/-- The effect of a step, before the pool is put in order. -/
def take : Step → World → Answer × World
  | .openSession handle name source, w => openAs handle name source w
  | .call name op, w => onKept id name op.run w
  | .process name ops, w =>
    onKept id name (Envelope.run Session.transactional callersView (Operation.runEach ops)) w
  | .finish name, w => finish name w
  | .drop name, w =>
    match w.kept? name with
    | none => (.noSuchSession, w)
    | some _ => (.done, w.letGo name)
  | .identify name, w =>
    match w.kept? name with
    | none => (.noSuchSession, w)
    | some k => (.session k.session.id, w)
  | .atomically handle ops, w => onEngine id (fun _ => .done) handle (Engine.atomically ops) w
  | .statements handle texts, w =>
    onEngine .gateway (fun _ => .done) handle (Engine.runStatements texts) w
  | .scope handle ops, w =>
    onEngine id (fun _ => .done) handle (Engine.withSession .gateway (Operation.runAll ops)) w
  | .guardedScope handle ops, w =>
    onEngine id .inTransaction handle
      (Engine.withGuard .gateway do
        Operation.runAll ops
        Act.read fun a => a.session.inTransaction) w
  | .applyScript handle script, w =>
    onEngine .gateway (fun _ => .done) handle (Engine.applyScript script) w
  | .check handle, w => onEngine .gateway .status handle Engine.check w
  | .testConnection handle, w =>
    onEngine .gateway (fun _ => .done) handle Engine.testConnection w
  | .describe handle, w =>
    if w.handles.contains handle then (.description w.description, w) else (.noSuchGateway, w)
  | .clone handle copy, w =>
    if w.handles.contains handle then
      (.done, { w with handles := w.handles.filter (· ≠ copy) ++ [copy] })
    else (.noSuchGateway, w)
  | .shutDown handle, w =>
    if w.handles.contains handle then
      (.done,
        { w with handles := w.handles.filter (· ≠ handle), engine := w.engine.noteShutDown })
    else (.noSuchGateway, w)

/-- A handle or an open session keeps the pool alive. -/
def isAlive (w : World) : Bool :=
  !w.handles.isEmpty || w.kept.any fun (_, k) => !k.session.isClosed

/-- The pool filled up, or torn down when nothing keeps it alive. -/
def settle (w : World) : World :=
  w.withEngine (if w.isAlive then w.engine.replenish else w.engine.tearDown)

/-- The effect of a step. -/
def step (s : Step) (w : World) : Answer × World :=
  let (answer, w) := w.take s
  (answer, w.settle)

/-- The effects of steps, one after another. -/
def run : List Step → World → List Answer × World
  | [], w => ([], w)
  | s :: rest, w =>
    let (answer, w) := w.step s
    let (answers, w) := run rest w
    (answer :: answers, w)

/-- No gateway yet, on a server. -/
def bare (server : Server) : World :=
  { engine := { server, pool := { limits := {}, url := "" } } }

/-- A gateway built, under the name of its first handle. -/
def connectUnchecked (settings : Settings) (handle : String) (server : Server) :
    Outcome GatewayError Unit × World :=
  match Engine.build settings.databaseUrl settings.pool server with
  | (.ok _, e) => (.ok (), { engine := e, handles := [handle] })
  | (r, e) => (r, { engine := e })

/-- A gateway connected with settings that pass a check. -/
def connectChecked (check : Except SettingsError Unit) (settings : Settings) (handle : String)
    (server : Server) : Outcome GatewayError Unit × World :=
  match check with
  | .error e => (.err (.settings e), bare server)
  | .ok _ => connectUnchecked settings handle server

/-- A gateway connected with settings. -/
def connect (settings : Settings) : String → Server → Outcome GatewayError Unit × World :=
  connectChecked settings.validate settings

/-- A gateway connected with settings, once they are had. -/
def connectWith (settings : Outcome SettingsError Settings) (handle : String) (server : Server) :
    Outcome GatewayError Unit × World :=
  match settings with
  | .ok s => connect s handle server
  | .err e => (.err (.settings e), bare server)
  | .panic => (.panic, bare server)

/-- A gateway connected with limits of its own; of the settings only they are looked at. -/
def connectLimits (settings : Settings) : String → Server → Outcome GatewayError Unit × World :=
  connectChecked settings.pool.validate settings

/-- A gateway connected with the default limits. -/
def connectDefault (url : String) : String → Server → Outcome GatewayError Unit × World :=
  connectLimits { databaseUrl := url }

end World

end TransactionGateway
