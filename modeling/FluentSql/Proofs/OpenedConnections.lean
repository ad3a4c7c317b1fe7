import FluentSql.Connection.Open
import FluentSql.Proofs.AcceptedConfigs
import FluentSql.Proofs.Recording
/-!
# `FluentSql.Proofs.OpenedConnections` — what can go wrong with an accepted configuration

An accepted configuration has been checked once and is not checked again: its default connection is found
and its logger is there, and of the faults of a configuration that opening a connection may report, only
two are left: the name asked for is no connection, or no executor comes with the driver. Everything else
that goes wrong is up to files, servers and commands.

* `SparesConfig` — an answer that is no fault of the configuration;
* `OpeningFault` — the two faults that are left;
* `Config.accepted_stays_usable` — acceptance, and what follows from it.
-/

namespace FluentSql

variable {α β : Type}

/-! ## Answers that are no fault of the configuration -/

/-- Whether the configuration is to blame. -/
def Error.isConfig : Error → Bool
  | .config _ => true
  | _ => false

/-- **An answer for which the configuration is not to blame.** -/
def SparesConfig (answer : Except Error α) : Prop := ∀ error, answer = .error error → error.isConfig = false

theorem sparesConfig_ok (a : α) : SparesConfig (.ok a) := nofun

theorem sparesConfig_error_iff {error : Error} :
    SparesConfig (.error error : Except Error α) ↔ error.isConfig = false := by
  constructor
  · intro h
    exact h error rfl
  · rintro h _ ⟨⟩
    exact h

/-- Two steps do no worse than each of them. -/
theorem sparesConfig_bind {x : Except Error α} {f : α → Except Error β} (hx : SparesConfig x)
    (hf : ∀ a, SparesConfig (f a)) : SparesConfig (x >>= f) := by
  cases x with
  | error error => exact sparesConfig_error_iff.mpr (hx error rfl)
  | ok a => exact hf a

/-- Items mapped one after the other do no worse than each of them. -/
theorem sparesConfig_mapM {f : α → Except Error β} {xs : List α} (h : ∀ x ∈ xs, SparesConfig (f x)) :
    SparesConfig (xs.mapM f) := by
  induction xs with
  | nil => exact sparesConfig_ok []
  | cons x xs ih =>
    rw [List.forall_mem_cons] at h
    obtain ⟨hx, hxs⟩ := h
    rw [List.mapM_cons]
    apply sparesConfig_bind hx
    intro y
    apply sparesConfig_bind (ih hxs)
    intro ys
    exact sparesConfig_ok (y :: ys)

/-! ## Executors -/

/-- **A library for which the configuration is not to blame**, whatever it is asked to execute. -/
def Sqlite.Library.Spares (δ : Type) [Sqlite.Library δ] : Prop :=
  ∀ sql binds (db : δ), SparesConfig (Sqlite.Library.executor.execute sql binds db).1

/-- **Databases in memory** never blame the configuration. -/
theorem Sqlite.spares_database : Sqlite.Library.Spares Sqlite.Database := by
  intro sql binds db
  show SparesConfig (Sqlite.run Sqlite.Outcome.count sql binds db).1
  have hprepare : SparesConfig (Sqlite.prepare sql db) := by
    unfold Sqlite.prepare
    cases Sqlite.Command.parse? sql with
    | none => exact sparesConfig_error_iff.mpr rfl
    | some parsed =>
      obtain ⟨command, params⟩ := parsed
      dsimp only
      cases db.plan command with
      | ok plan => exact sparesConfig_ok _
      | error message => exact sparesConfig_error_iff.mpr rfl
  have hbind (params : Sqlite.Parameters) : SparesConfig (Sqlite.bindAll binds params) := by
    apply sparesConfig_mapM
    intro i _
    cases (Sqlite.bound binds params).lookup (i + 1) with
    | some v => exact sparesConfig_ok v
    | none => exact sparesConfig_error_iff.mpr rfl
  unfold Sqlite.run
  cases hprepared : Sqlite.prepare sql db with
  | error error => exact sparesConfig_error_iff.mpr (hprepare error hprepared)
  | ok prepared =>
    obtain ⟨plan, params⟩ := prepared
    dsimp only
    cases hvalues : Sqlite.bindAll binds params with
    | error error => exact sparesConfig_error_iff.mpr (hbind params error hvalues)
    | ok values =>
      dsimp only
      obtain ⟨answer, db'⟩ := plan values
      cases answer with
      | error message => exact sparesConfig_error_iff.mpr rfl
      | ok outcome =>
        show SparesConfig outcome.count
        unfold Sqlite.Outcome.count
        split
        · exact sparesConfig_ok _
        · exact sparesConfig_error_iff.mpr rfl

namespace Postgres

/-- Sending a message is refused by the server or goes well. -/
theorem sparesConfig_send (message : Message) (server : Server) :
    SparesConfig (send message server).1 := by
  unfold send
  split
  · exact sparesConfig_ok ()
  · exact sparesConfig_error_iff.mpr rfl

/-- Parameters that cannot be sent are refused. -/
theorem sparesConfig_encodeAll (types : List ColumnType) (values : List Value) :
    SparesConfig (encodeAll types values) := by
  unfold encodeAll
  split
  · exact sparesConfig_error_iff.mpr rfl
  · apply sparesConfig_mapM
    rintro ⟨v, type⟩ _
    dsimp only
    cases encode v type with
    | ok bytes => exact sparesConfig_ok bytes
    | error fault => exact sparesConfig_error_iff.mpr rfl

theorem sparesConfig_perform (sql : String) (values : List Value) (server : Server) :
    SparesConfig (perform sql values server).1 := by
  have hprepare := sparesConfig_send (.prepare sql) server
  unfold perform
  rcases hsend : send (.prepare sql) server with ⟨answer, server'⟩
  rw [hsend] at hprepare
  cases answer with
  | error error => exact hprepare
  | ok =>
    dsimp only
    cases hcells : encodeAll server'.paramTypes values with
    | error error => exact sparesConfig_error_iff.mpr (sparesConfig_encodeAll _ _ error hcells)
    | ok cells => exact sparesConfig_send (.bind cells) server'

/-- **A server** never blames the configuration. -/
theorem sparesConfig_execute (sql : String) (binds : List Bind) (server : Server) :
    SparesConfig (executor.execute sql binds server).1 := by
  show SparesConfig (run (fun s => .ok s.affected) sql binds server).1
  have hpositional : SparesConfig (positional sql binds) := by
    unfold positional
    obtain ⟨numbered, met⟩ := (Placeholder.replaceM (Numbering.visit binds) sql).run {}
    cases hmissing : met.missing with
    | some name =>
      simp only [hmissing]
      exact sparesConfig_error_iff.mpr rfl
    | none =>
      simp only [hmissing]
      exact sparesConfig_ok _
  unfold run
  cases hnumbered : positional sql binds with
  | error error => exact sparesConfig_error_iff.mpr (hpositional error hnumbered)
  | ok numbered =>
    obtain ⟨numbered, values⟩ := numbered
    have hperform := sparesConfig_perform numbered values server
    dsimp only
    rcases hrun : perform numbered values server with ⟨answer, server'⟩
    rw [hrun] at hperform
    cases answer with
    | error error => exact sparesConfig_error_iff.mpr (hperform error rfl)
    | ok =>
      dsimp only
      split
      · exact sparesConfig_ok _
      · exact sparesConfig_error_iff.mpr rfl

end Postgres

variable {δ : Type}

namespace Engine

/-- A call of one kind of engine, made on any. -/
theorem sparesConfig_on {σ : Type} {view : Engine δ → Option σ} {wrap : σ → Engine δ}
    {call : Call σ α} (h : ∀ s, SparesConfig (call s).1) (engine : Engine δ) :
    SparesConfig (on view wrap call engine).1 := by
  unfold on
  cases view engine with
  | some s => exact h s
  | none => exact sparesConfig_error_iff.mpr rfl

/-- **An executor that never blames the configuration.** -/
def Spares (e : Executor (Engine δ)) : Prop :=
  ∀ sql binds engine, SparesConfig (e.execute sql binds engine).1

variable [Sqlite.Library δ]

theorem spares_sqliteExecutor (h : Sqlite.Library.Spares δ) :
    Spares (sqliteExecutor : Executor (Engine δ)) := fun sql binds engine =>
  sparesConfig_on (h sql binds) engine

omit [Sqlite.Library δ] in
theorem spares_postgresExecutor : Spares (postgresExecutor : Executor (Engine δ)) :=
  fun sql binds engine => sparesConfig_on (Postgres.sparesConfig_execute sql binds) engine

/-- **What is started** for a driver with an executor, or refused by the file or the server. -/
theorem start_bundled (h : Sqlite.Library.Spares δ) (w : Surroundings) {s : ConnectionSettings}
    (hdriver : s.driver = .sqlite ∨ s.driver = .postgres)
    (hurl : s.driver = .postgres → Config.IsGiven s.url) :
    (∃ (e : Executor (Engine δ)) (engine : Engine δ), start w s = .ok (e, engine) ∧ Spares e) ∨
      ∃ error, (start w s : Except Error (Executor (Engine δ) × Engine δ)) = .error error ∧
        error.isConfig = false := by
  obtain hsqlite | hpostgres := hdriver
  · simp only [start, hsqlite]
    split
    · exact .inl ⟨_, _, rfl, spares_sqliteExecutor h⟩
    · exact .inr ⟨_, rfl, rfl⟩
  · obtain ⟨url, hgiven, -⟩ := hurl hpostgres
    simp only [start, hpostgres, hgiven]
    cases w.server? url with
    | none => exact .inr ⟨_, rfl, rfl⟩
    | some server =>
      have hzone : SparesConfig (setZone s server).1 := by
        unfold setZone
        cases s.timezoneOffset with
        | some zone => exact Postgres.sparesConfig_send _ server
        | none => exact sparesConfig_ok ()
      dsimp only
      cases hset : (setZone s server).1 with
      | ok => exact .inl ⟨_, _, rfl, spares_postgresExecutor⟩
      | error error => exact .inr ⟨error, rfl, hzone error hset⟩

/-- No other driver starts anything. -/
theorem start_unbundled (w : Surroundings) {s : ConnectionSettings}
    (hdriver : s.driver = .mysql ∨ s.driver = .ansi) :
    (start w s : Except Error (Executor (Engine δ) × Engine δ)) =
      .error (.config (.noExecutor s.driver.driverName)) := by
  obtain hmysql | hansi := hdriver
  · simp only [start, hmysql]
  · simp only [start, hansi]

end Engine

/-! ## Opening -/

/-- **Two steps** blame the configuration only if one of them does. -/
theorem Run.sparesConfig_bind {σ : Type} {x : Run σ α} {f : α → Run σ β} {session : Session σ}
    (hx : SparesConfig (x.outcome session).1)
    (hf : ∀ a after, SparesConfig ((f a).outcome after).1) :
    SparesConfig ((x >>= f).outcome session).1 := by
  rw [outcome_bind]
  rcases hrun : x.outcome session with ⟨answer, after⟩
  rw [hrun] at hx
  cases answer with
  | ok a => exact hf a after
  | error error => exact sparesConfig_error_iff.mpr (hx error rfl)

namespace Connection

/-- Commands fail with what the executor answers. -/
theorem sparesConfig_runCommands {e : Executor (Engine δ)} (h : Engine.Spares e)
    (commands : List String) (session : Session (Engine δ)) :
    SparesConfig ((runCommands e commands).outcome session).1 := by
  induction commands generalizing session with
  | nil => exact sparesConfig_ok ()
  | cons command commands ih =>
    rw [runCommands]
    apply Run.sparesConfig_bind
    · exact h command [] session.state
    · intro _ after
      exact ih after

variable [Sqlite.Library δ]

/-- **Opening by settings with a bundled executor** never blames the configuration. -/
theorem sparesConfig_connect (h : Sqlite.Library.Spares δ) (w : Surroundings) {s : ConnectionSettings}
    (hdriver : s.driver = .sqlite ∨ s.driver = .postgres)
    (hurl : s.driver = .postgres → Config.IsGiven s.url) (session : Session (Engine δ)) :
    SparesConfig ((connect w s).outcome session).1 := by
  rw [connect, Run.outcome_bind, Run.outcome_ofExcept]
  obtain ⟨e, engine, hstart, hspares⟩ | ⟨error, hstart, herror⟩ :=
    Engine.start_bundled h w hdriver hurl
  · rw [hstart]
    apply Run.sparesConfig_bind
    · exact sparesConfig_ok _
    · intro _ after
      apply Run.sparesConfig_bind
      · exact sparesConfig_runCommands hspares s.commands after
      · intro _ after
        exact sparesConfig_ok _
  · rw [hstart]
    exact sparesConfig_error_iff.mpr herror

/-- **Opening by other settings** ends at the missing executor. -/
theorem outcome_connect_unbundled (w : Surroundings) {s : ConnectionSettings}
    (hdriver : s.driver = .mysql ∨ s.driver = .ansi) (session : Session (Engine δ)) :
    (connect w s).outcome session = (.error (.config (.noExecutor s.driver.driverName)), session) := by
  rw [connect, Run.outcome_bind, Run.outcome_ofExcept, Engine.start_unbundled w hdriver]

end Connection

namespace Config

/-- **The faults that are left** when a connection of a usable configuration is opened. -/
inductive OpeningFault (c : Config) (name : Option String) : ConfigFault → Prop where
  /-- The name is no connection. -/
  | undefined {unknown : String} (asked : name = some unknown) (h : ∀ s, (unknown, s) ∉ c.connections) :
      OpeningFault c name (.unknownConnection unknown)
  /-- No executor comes with the driver. -/
  | unbundled {found : String} {s : ConnectionSettings} (h : c.connection name = .ok (found, s))
      (driver : s.driver = .mysql ∨ s.driver = .ansi) :
      OpeningFault c name (.noExecutor s.driver.driverName)

variable {c : Config}

/-- **A connection that is found** has the name that was asked for. -/
theorem connection_eq_ok_iff {name : Option String} {found : String} {s : ConnectionSettings} :
    c.connection name = .ok (found, s) ↔
      found = name.getD c.default ∧ c.connections.lookup found = some s := by
  unfold connection
  dsimp only
  cases hlookup : c.connections.lookup (name.getD c.default) with
  | none =>
    refine ⟨nofun, ?_⟩
    rintro ⟨rfl, hfound⟩
    rw [hlookup] at hfound
    cases hfound
  | some settings =>
    constructor
    · rintro ⟨⟩
      exact ⟨rfl, hlookup⟩
    · rintro ⟨rfl, hfound⟩
      rw [hlookup] at hfound
      cases hfound
      rfl

/-- **The default connection is found.** -/
theorem exists_connection_none (h : IsUsable c) : ∃ s, c.connection none = .ok (c.default, s) := by
  simp only [connection_eq_ok_iff, Option.getD_none, true_and]
  rw [← Option.isSome_iff_exists, Option.isSome_iff_ne_none, Ne, lookup_eq_none_iff, not_forall_not]
  exact h.default_defined

/-- **A connection that is not found** was asked for by a name that is none. -/
theorem connection_cases (h : IsUsable c) (name : Option String) :
    (∃ found s, c.connection name = .ok (found, s) ∧ (found, s) ∈ c.connections) ∨
      ∃ unknown, name = some unknown ∧ (∀ s, (unknown, s) ∉ c.connections) ∧
        c.connection name = .error (.config (.unknownConnection unknown)) := by
  cases hlookup : c.connections.lookup (name.getD c.default) with
  | some s =>
    refine .inl ⟨name.getD c.default, s, connection_eq_ok_iff.mpr ⟨rfl, hlookup⟩, ?_⟩
    obtain ⟨front, back, hconnections, -⟩ := List.lookup_eq_some_iff.mp hlookup
    rw [hconnections]
    exact List.mem_append_right front List.mem_cons_self
  | none =>
    have hunknown := lookup_eq_none_iff.mp hlookup
    cases name with
    | none =>
      obtain ⟨s, hs⟩ := h.default_defined
      exact absurd hs (hunknown s)
    | some unknown =>
      refine .inr ⟨unknown, rfl, hunknown, ?_⟩
      rw [Option.getD_some] at hlookup
      simp only [connection, Option.getD_some, hlookup]

/-- A connection that is found is not one that does not exist. -/
theorem openingFault_iff {name : Option String} {found : String} {s : ConnectionSettings}
    (hfound : c.connection name = .ok (found, s)) (hmem : (found, s) ∈ c.connections) {fault : ConfigFault} :
    OpeningFault c name fault ↔
      (s.driver = .mysql ∨ s.driver = .ansi) ∧ fault = .noExecutor s.driver.driverName := by
  constructor
  · intro h
    cases h with
    | undefined asked hunknown =>
      obtain ⟨rfl, -⟩ := connection_eq_ok_iff.mp hfound
      rw [asked] at hmem
      exact absurd hmem (hunknown s)
    | unbundled hfound' driver =>
      rw [hfound] at hfound'
      cases hfound'
      exact ⟨driver, rfl⟩
  · rintro ⟨hdriver, rfl⟩
    exact .unbundled hfound hdriver

/-- **Opening a connection of a usable configuration** blames the configuration for nothing else. -/
theorem outcome_openNamed_iff [Sqlite.Library δ] (h : IsUsable c) (hspares : Sqlite.Library.Spares δ)
    (w : Surroundings) (name : Option String) (session : Session (Engine δ)) (fault : ConfigFault) :
    ((Connection.openNamed w c name).outcome session).1 = .error (.config fault) ↔
      OpeningFault c name fault := by
  rw [Connection.openNamed, Run.outcome_bind, Run.outcome_ofExcept]
  obtain ⟨found, s, hfound, hmem⟩ | ⟨unknown, hname, hunknown, herror⟩ := connection_cases h name
  · rw [hfound, openingFault_iff hfound hmem]
    dsimp only
    by_cases hdriver : s.driver = .mysql ∨ s.driver = .ansi
    · rw [Run.outcome_bind_of_error (Connection.outcome_connect_unbundled w hdriver session),
        and_iff_right hdriver]
      simp [eq_comm]
    · have hbundled : s.driver = .sqlite ∨ s.driver = .postgres := by
        cases hs : s.driver <;> simp_all
      have hurl : s.driver = .postgres → IsGiven s.url := fun hs => h.url_given found s hmem (.inl hs)
      have hspared : SparesConfig ((Connection.connect w s >>= fun connection => do
          let logger ← Run.ofExcept c.logging.logger
          return { connection with logger := logger } :
            Run (Engine δ) (Connection (Engine δ))).outcome session).1 := by
        apply Run.sparesConfig_bind
        · exact Connection.sparesConfig_connect hspares w hbundled hurl session
        · intro connection after
          obtain ⟨logger, hlogger⟩ := exists_logger_iff.mpr h.level_known
          rw [hlogger]
          exact sparesConfig_ok _
      refine iff_of_false ?_ fun hfault => hdriver hfault.1
      intro hblamed
      cases hspared _ hblamed
  · rw [herror]
    constructor
    · rintro ⟨⟩
      exact .undefined hname hunknown
    · intro hfault
      cases hfault with
      | undefined asked =>
        rw [hname] at asked
        cases asked
        rfl
      | unbundled hfound =>
        rw [herror] at hfound
        cases hfound

/-- **An accepted configuration is usable and stays so.** A configuration as written is accepted exactly if
    all its references resolve and what comes out is usable, and else rejected with a fault of the
    configuration. Then the default connection is found, the logger is there, and opening a connection
    blames the configuration only if the name asked for is none or no executor comes with the driver. So it
    is with every library for the databases in files that has errors of its own for what it refuses. -/
theorem accepted_stays_usable (env : Environment) (written : Config) :
    (∀ text, (Toml.parse? text).bind ofToml? = some written → parse env text = accept env written) ∧
      (∀ c, accept env written = .ok c ↔ IsResolved env written c ∧ IsUsable c) ∧
      ((∃ fault, accept env written = .error (.config fault)) ↔
        HasBadReference env written ∨ ∃ c, IsResolved env written c ∧ ¬ IsUsable c) ∧
      ∀ c, accept env written = .ok c →
        (∃ s, c.connection none = .ok (c.default, s)) ∧ (∃ logger, c.logging.logger = .ok logger) ∧
          ∀ (δ : Type) [Sqlite.Library δ], Sqlite.Library.Spares δ →
            ∀ w name (session : Session (Engine δ)) fault,
              ((Connection.openNamed w c name).outcome session).1 = .error (.config fault) ↔
                OpeningFault c name fault := by
  refine ⟨?_, fun c => accept_eq_ok_iff, exists_accept_eq_error_iff, ?_⟩
  · intro text hread
    rw [parse, hread]
  · intro c haccept
    obtain ⟨-, husable⟩ := accept_eq_ok_iff.mp haccept
    exact ⟨exists_connection_none husable, exists_logger_iff.mpr husable.level_known,
      fun δ _ hspares => outcome_openNamed_iff husable hspares⟩

/-- A connection to a file that the environment names, and one to a server without an executor. -/
def fileAndServer (file : String) : Config where
  default := "main"
  connections :=
    [("main", { driver := .sqlite, database := some file }),
      ("remote", { driver := .mysql, url := some "host=db" })]

/-- An environment in which only the file is set. -/
def fileOnly (file : String) : Environment := fun name => if name = "FILE" then some file else none

/-- A file is taken from the environment, and then only the connection to the server cannot be opened for
    its driver. A file that is blank in the environment is rejected. -/
theorem fileAndServer_checked :
    accept (fileOnly "a.db") (fileAndServer "$\x7bFILE\x7d") = .ok (fileAndServer "a.db") ∧
      ((Connection.openNamed ⟨fun _ => true, fun _ => none⟩ (fileAndServer "a.db") (some "remote")).outcome
        { state := (.closed : Engine), now := ⟨⟨1970, 1, 1⟩, 0, 0, 0, 0⟩ }).1 =
          .error (.config (.noExecutor "mysql")) ∧
      ∃ fault, accept (fileOnly " \t") (fileAndServer "$\x7bFILE\x7d") = .error (.config fault) := by
  have haccepted : accept (fileOnly "a.db") (fileAndServer "$\x7bFILE\x7d") = .ok (fileAndServer "a.db") := rfl
  obtain ⟨-, -, -, huse⟩ := accepted_stays_usable (fileOnly "a.db") (fileAndServer "$\x7bFILE\x7d")
  obtain ⟨-, -, hopen⟩ := huse (fileAndServer "a.db") haccepted
  have hfound : (fileAndServer "a.db").connection (some "remote") =
    .ok ("remote", { driver := .mysql, url := some "host=db" }) := rfl
  have hremote : OpeningFault (fileAndServer "a.db") (some "remote") (.noExecutor "mysql") :=
    .unbundled hfound (.inl rfl)
  refine ⟨haccepted, (hopen Sqlite.Database Sqlite.spares_database _ _ _ _).mpr hremote, ?_⟩
  obtain ⟨-, -, hreject, -⟩ := accepted_stays_usable (fileOnly " \t") (fileAndServer "$\x7bFILE\x7d")
  rw [hreject]
  refine .inr ⟨fileAndServer " \t", ⟨?_, rfl⟩, ?_⟩
  · exact .cons ⟨rfl, .given rfl, .missing, rfl⟩ (.cons ⟨rfl, .missing, .given rfl, rfl⟩ .nil)
  · intro husable
    obtain ⟨text, htext, hgiven⟩ := husable.database_given "main" _ List.mem_cons_self rfl
    cases htext
    have hblank : (" \t").toList.all Text.isBlank = true := by decide
    obtain ⟨c, hc, hsolid⟩ := hgiven
    rw [List.all_eq_true.mp hblank c hc] at hsolid
    cases hsolid

end Config

end FluentSql
