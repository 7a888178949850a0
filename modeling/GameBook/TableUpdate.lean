import GameBook.LabelledRun
import Mathlib.Data.List.Basic

/-!
`MysqlTableUpdate`: the database is created when the server does not know it,
and brought to the version of the code. The server is the database of the
configured name with the rows of `version`; each statement sent to it may fail
in any way. `Update00` is the only update function there is: the table of them
is a parameter.
-/

namespace GameBook.TableUpdate

open LabelledRun

/-- The database: the rows of the table `version`, and whether `player` exists. -/
structure Database where
  version : Option (List Nat)
  player : Bool
  deriving DecidableEq, Repr

inductive Statement where
  | connect
  | selectDb
  | createDatabase
  | setCharacterSet
  | alterDatabase
  | createVersion
  | createPlayer
  | insertVersion
  | selectVersion
  | updateVersion (version : Nat)
  | ping
  /-- What an update function asks for. -/
  | alterTable (sql : String)
  deriving DecidableEq, Repr

/-- The fate of a statement. A lost one reaches the server, its answer does not
come back. -/
inductive Outcome where
  | done
  | refused
  | lost
  deriving DecidableEq, Repr

/-- What `mysql_errno` tells the code apart. -/
inductive Reply where
  | ok
  | badDb
  | failed
  deriving DecidableEq, Repr

inductive Event where
  | created
  /-- An update function returned true. -/
  | updated (version : Nat)
  /-- The server holds another version. -/
  | stored (version : Nat)
  deriving DecidableEq, Repr

/-- What the server makes of a statement; nothing where it cannot execute it. -/
def execute (statement : Statement) (database : Option Database) : Option (Option Database) :=
  match statement, database with
  | .connect, database => some database
  | .ping, database => some database
  | .createDatabase, database => some (some (database.getD ⟨none, false⟩))
  | _, none => none
  | .createVersion, some found => some (some { found with version := some (found.version.getD []) })
  | .createPlayer, some found => some (some { found with player := true })
  | .insertVersion, some found =>
      match found.version with
      | none => none
      | some rows => if 0 ∈ rows then none else some (some { found with version := some (rows ++ [0]) })
  | .selectVersion, some found => found.version.map fun _ => some found
  | .updateVersion version, some found =>
      match found.version with
      | none => none
      -- `version` is the primary key
      | some rows =>
          if rows.length ≤ 1 then some (some { found with version := some (rows.map fun _ => version) }) else none
  | _, some found => some (some found)

/-- What changes of the version, to the one who watches the server. -/
def notice : Statement → List Event
  | .insertVersion => [.created]
  | .updateVersion version => [.stored version]
  | _ => []

/-- The server, the fates of the statements to come (done where the list has
ended), and what has happened. -/
structure Progress where
  database : Option Database
  outcomes : List Outcome
  events : List Event
  deriving DecidableEq, Repr

/-- `MysqlBase::Query`, and the calls that the code checks in the same way. -/
def query (statement : Statement) (p : Progress) : Reply × Progress :=
  match p.outcomes.headD .done, execute statement p.database with
  | .refused, _ => (.failed, { p with outcomes := p.outcomes.tail })
  | .done, none =>
      (if statement = .selectDb then .badDb else .failed, { p with outcomes := p.outcomes.tail })
  | .lost, none => (.failed, { p with outcomes := p.outcomes.tail })
  | .done, some database => (.ok, ⟨database, p.outcomes.tail, p.events ++ notice statement⟩)
  | .lost, some database => (.failed, ⟨database, p.outcomes.tail, p.events ++ notice statement⟩)

def attempt : List Statement → Progress → Bool × Progress
  | [], p => (true, p)
  | statement :: rest, p =>
      match query statement p with
      | (.ok, later) => attempt rest later
      | (_, later) => (false, later)

/-- The functions are executed by index; there is one for each version. A
function is the statements that it asks for, up to the first that fails. -/
structure MysqlTableUpdate where
  updateFunc : List (Option (List String))
  version : Nat
  registered : ∀ index ≤ version, ∃ function, updateFunc[index]? = some (some function)

def update00 : List String := []

def mysqlTableUpdate : MysqlTableUpdate where
  updateFunc := [some update00]
  version := 0
  registered := by
    intro index small
    obtain rfl := Nat.le_zero.mp small
    exact ⟨update00, rfl⟩

def createDatabaseIfNotExist : Progress → Bool × Progress :=
  attempt [.createDatabase, .selectDb, .setCharacterSet, .alterDatabase, .createVersion, .createPlayer,
    .insertVersion]

/-- The loop of `UpdateToVersion`, over the next `count` versions. -/
def updateFrom (table : MysqlTableUpdate) : Nat → Nat → Progress → Bool × Progress
  | 0, _, p => (true, p)
  | count + 1, index, p =>
      match table.updateFunc[index]? with
      | some (some function) =>
          match attempt (function.map .alterTable) p with
          | (false, later) => (false, later)
          | (true, later) =>
              match query (.updateVersion index) { later with events := later.events ++ [.updated index] } with
              | (.ok, stored) => updateFrom table count (index + 1) stored
              | (_, stored) => (false, stored)
      | _ => updateFrom table count (index + 1) p

def fetchVersion (p : Progress) : Option Nat :=
  p.database.bind fun found => found.version.bind List.head?

def updateToVersion (table : MysqlTableUpdate) (p : Progress) : Bool × Progress :=
  match query .selectVersion p with
  | (.ok, selected) =>
      match fetchVersion selected with
      | none => (false, selected)
      | some version =>
          if version = table.version then (true, selected)
          else updateFrom table (table.version - version) (version + 1) selected
  | (_, selected) => (false, selected)

def checkSelected (table : MysqlTableUpdate) (p : Progress) : Progress :=
  match updateToVersion table p with
  | (false, later) => later
  | (true, later) => (query .ping later).2

def check (table : MysqlTableUpdate) (p : Progress) : Progress :=
  match query .connect p with
  | (.ok, connected) =>
      match query .selectDb connected with
      | (.ok, selected) => checkSelected table selected
      | (.badDb, selected) =>
          match createDatabaseIfNotExist selected with
          | (false, created) => created
          | (true, created) =>
              match query .selectDb created with
              | (.ok, again) => checkSelected table again
              | (_, again) => again
      | (.failed, selected) => selected
  | (_, connected) => connected

/-- One run after the other, each with its own outcomes. -/
def checks (table : MysqlTableUpdate) (p : Progress) (runs : List (List Outcome)) : Progress :=
  runs.foldl (fun p outcomes => check table { p with outcomes := outcomes }) p

/-! ### What is asked -/

def complete (version : Nat) : Database := ⟨some [version], true⟩

abbrev Stage := Option Nat × Bool

/-- The database comes with version 0. After that, the version becomes the next
one, and only after its update function has run to success. -/
inductive Ordered : Stage → Event → Stage → Prop where
  | created (ran : Bool) : Ordered (none, ran) .created (some 0, false)
  | updated (version : Nat) (ran : Bool) :
      Ordered (some version, ran) (.updated (version + 1)) (some version, true)
  | stored (version : Nat) : Ordered (some version, true) (.stored (version + 1)) (some (version + 1), false)

def storedVersion (database : Option Database) : Option Nat :=
  database.bind fun found => found.version.bind List.head?

/-- After the interrupted runs, one in which every statement succeeds sets
everything up; and over all of them the updates come in order. -/
def Restarts (table : MysqlTableUpdate) (start : Option Database) (runs : List (List Outcome)) : Prop :=
  (checks table ⟨start, [], []⟩ (runs ++ [[]])).database = some (complete table.version) ∧
    ∃ ran, Run Ordered (storedVersion start, false) (checks table ⟨start, [], []⟩ (runs ++ [[]])).events
      (some table.version, ran)

/-- A run on a server without the database that carries out CREATE DATABASE,
but not all that follows it. -/
def Tears (outcomes : List Outcome) : Prop :=
  (outcomes.getD 0 .done = .done ∧ outcomes.getD 1 .done = .done ∧ outcomes.getD 2 .done ≠ .refused) ∧
    ¬((∀ index < 8, 2 ≤ index → outcomes.getD index .done = .done) ∧ outcomes.getD 8 .done ≠ .refused)

def NoneTears (table : MysqlTableUpdate) : Progress → List (List Outcome) → Prop
  | _, [] => True
  | p, outcomes :: later =>
      (p.database = none → ¬Tears outcomes) ∧ NoneTears table (check table { p with outcomes := outcomes }) later

theorem head_drop (outcomes : List Outcome) (index : Nat) :
    (outcomes.drop index).headD .done = outcomes.getD index .done := by
  rw [List.headD_eq_head?_getD, List.head?_drop, List.getD_eq_getElem?_getD]

theorem query_executed {statement : Statement} {p : Progress} {database : Option Database}
    (executed : execute statement p.database = some database) :
    query statement p =
      match p.outcomes.headD .done with
      | .done => (.ok, ⟨database, p.outcomes.tail, p.events ++ notice statement⟩)
      | .lost => (.failed, ⟨database, p.outcomes.tail, p.events ++ notice statement⟩)
      | .refused => (.failed, { p with outcomes := p.outcomes.tail }) := by
  rw [query, executed]
  cases p.outcomes.headD .done
  · rfl
  · rfl
  · rfl

theorem query_quiet {statement : Statement} {p : Progress}
    (same : execute statement p.database = some p.database) (silent : notice statement = []) :
    query statement p =
      (if p.outcomes.headD .done = .done then .ok else .failed, { p with outcomes := p.outcomes.tail }) := by
  rw [query_executed same, silent, List.append_nil]
  cases p.outcomes.headD .done
  · rfl
  · rfl
  · rfl

theorem query_impossible {statement : Statement} {p : Progress}
    (impossible : execute statement p.database = none) (other : statement ≠ .selectDb) :
    query statement p = (.failed, { p with outcomes := p.outcomes.tail }) := by
  rw [query, impossible]
  cases p.outcomes.headD .done
  · simp [other]
  · rfl
  · rfl

theorem query_unknown {p : Progress} (missing : p.database = none) :
    query .selectDb p =
      (if p.outcomes.headD .done = .done then .badDb else .failed, { p with outcomes := p.outcomes.tail }) := by
  rw [query, missing]
  cases p.outcomes.headD .done
  · rfl
  · rfl
  · rfl

/-! ### The creation -/

/-- No version can be read from the database, and it will not be created again. -/
def Torn (database : Option Database) : Prop :=
  ∃ found, database = some found ∧ found.version.bind List.head? = none

theorem not_torn_complete (version : Nat) : ¬Torn (some (complete version)) := by
  rintro ⟨found, same, empty⟩
  cases same
  cases empty

theorem attempt_cons {statement : Statement} {p : Progress} {database : Option Database}
    (executed : execute statement p.database = some database) (rest : List Statement) :
    attempt (statement :: rest) p =
      match p.outcomes.headD .done with
      | .done => attempt rest ⟨database, p.outcomes.tail, p.events ++ notice statement⟩
      | .lost => (false, ⟨database, p.outcomes.tail, p.events ++ notice statement⟩)
      | .refused => (false, { p with outcomes := p.outcomes.tail }) := by
  rw [attempt, query_executed executed]
  cases p.outcomes.headD .done
  · rfl
  · rfl
  · rfl

def TornPath : List Statement → Option Database → Option Database → Prop
  | [], before, after => before = after
  | statement :: rest, before, after =>
      notice statement = [] ∧
        ∃ next, execute statement before = some next ∧ Torn next ∧ TornPath rest next after

theorem attempt_torn_path (statements : List Statement) {before after : Option Database}
    (path : TornPath statements before after) (torn : Torn before) (rest : List Statement)
    (outcomes : List Outcome) (events : List Event) :
    ((∀ index < statements.length, outcomes.getD index .done = .done) →
      attempt (statements ++ rest) ⟨before, outcomes, events⟩ =
        attempt rest ⟨after, outcomes.drop statements.length, events⟩) ∧
    ((¬∀ index < statements.length, outcomes.getD index .done = .done) →
      ∃ database later, attempt (statements ++ rest) ⟨before, outcomes, events⟩ = (false, ⟨database, later, events⟩) ∧
        Torn database) := by
  induction statements generalizing before outcomes with
  | nil =>
      cases path
      refine ⟨fun _ => rfl, fun some => absurd ?_ some⟩
      intro index inside
      cases inside
  | cons statement others ih =>
      obtain ⟨silent, next, executed, still, path⟩ := path
      have step := attempt_cons (p := ⟨before, outcomes, events⟩) executed (others ++ rest)
      have head : outcomes.headD .done = outcomes.getD 0 .done := head_drop outcomes 0
      have shift : ∀ index, outcomes.tail.getD index .done = outcomes.getD (index + 1) .done := by
        intro index
        cases outcomes
        · rfl
        · rfl
      obtain ⟨whole, broken⟩ := ih path still outcomes.tail
      rw [List.cons_append, step, silent, List.append_nil]
      dsimp only
      constructor
      · intro done
        rw [head, done 0 (by simp)]
        dsimp only
        rw [whole]
        · rw [List.drop_tail, List.length_cons]
        · intro index inside
          rw [shift]
          exact done (index + 1) (by simpa using inside)
      · intro failing
        cases first : outcomes.headD .done with
        | refused => exact ⟨before, outcomes.tail, rfl, torn⟩
        | lost => exact ⟨next, outcomes.tail, rfl, still⟩
        | done =>
            apply broken
            intro done
            apply failing
            intro index inside
            cases index with
            | zero => exact head ▸ first
            | succ index =>
                rw [← shift]
                exact done index (by simpa using inside)

/-- All seven statements are carried out, the last one perhaps without an answer. -/
def Creates (outcomes : List Outcome) : Prop :=
  (∀ index < 6, outcomes.getD index .done = .done) ∧ outcomes.getD 6 .done ≠ .refused

def created : List Statement := [.selectDb, .setCharacterSet, .alterDatabase, .createVersion, .createPlayer]

theorem created_path : TornPath created (some ⟨none, false⟩) (some ⟨some [], true⟩) := by
  refine ⟨rfl, _, rfl, ⟨_, rfl, rfl⟩, rfl, _, rfl, ⟨_, rfl, rfl⟩, rfl, _, rfl, ⟨_, rfl, rfl⟩, ?_⟩
  exact ⟨rfl, _, rfl, ⟨_, rfl, rfl⟩, rfl, _, rfl, ⟨_, rfl, rfl⟩, rfl⟩

theorem tail_get (outcomes : List Outcome) (index : Nat) :
    outcomes.tail.getD index .done = outcomes.getD (index + 1) .done := by
  cases outcomes
  · rfl
  · rfl

section Creation

variable (outcomes : List Outcome) (events : List Event)

theorem creation_first :
    createDatabaseIfNotExist ⟨none, outcomes, events⟩ =
      match outcomes.getD 0 .done with
      | .done => attempt (created ++ [.insertVersion]) ⟨some ⟨none, false⟩, outcomes.tail, events⟩
      | .lost => (false, ⟨some ⟨none, false⟩, outcomes.tail, events⟩)
      | .refused => (false, ⟨none, outcomes.tail, events⟩) := by
  have executed : execute .createDatabase none = some (some ⟨none, false⟩) := rfl
  have step := attempt_cons (p := ⟨none, outcomes, events⟩) executed (created ++ [.insertVersion])
  have head : outcomes.headD .done = outcomes.getD 0 .done := head_drop outcomes 0
  have silent : notice .createDatabase = [] := rfl
  rw [head, silent, List.append_nil] at step
  exact step

theorem insert_first (later : List Outcome) :
    attempt [.insertVersion] ⟨some ⟨some [], true⟩, later, events⟩ =
      match later.getD 0 .done with
      | .done => (true, ⟨some (complete 0), later.tail, events ++ [.created]⟩)
      | .lost => (false, ⟨some (complete 0), later.tail, events ++ [.created]⟩)
      | .refused => (false, ⟨some ⟨some [], true⟩, later.tail, events⟩) := by
  have executed : execute .insertVersion (some ⟨some [], true⟩) = some (some (complete 0)) := rfl
  have step := attempt_cons (p := ⟨some ⟨some [], true⟩, later, events⟩) executed []
  have head : later.headD .done = later.getD 0 .done := head_drop later 0
  rw [head] at step
  exact step

variable {outcomes}

theorem creation_refused (refused : outcomes.getD 0 .done = .refused) :
    createDatabaseIfNotExist ⟨none, outcomes, events⟩ = (false, ⟨none, outcomes.tail, events⟩) := by
  rw [creation_first, refused]

theorem between_iff (first : outcomes.getD 0 .done = .done) :
    (∀ index < created.length, outcomes.tail.getD index .done = .done) ↔
      ∀ index < 6, outcomes.getD index .done = .done := by
  constructor
  · intro between index inside
    cases index with
    | zero => exact first
    | succ index => exact (tail_get outcomes index).symm.trans (between index (Nat.lt_of_succ_lt_succ inside))
  · intro all index inside
    exact (tail_get outcomes index).trans (all (index + 1) (Nat.succ_lt_succ inside))

theorem last_get : (outcomes.tail.drop created.length).getD 0 .done = outcomes.getD 6 .done := by
  rw [← head_drop, List.drop_drop, head_drop, tail_get]
  rfl

theorem creation_whole (creates : Creates outcomes) :
    createDatabaseIfNotExist ⟨none, outcomes, events⟩ =
      (decide (outcomes.getD 6 .done = .done), ⟨some (complete 0), outcomes.drop 7, events ++ [.created]⟩) := by
  obtain ⟨all, last⟩ := creates
  have first := all 0 (by decide)
  have rest : (outcomes.tail.drop created.length).tail = outcomes.drop 7 := by
    rw [List.tail_drop, List.drop_tail]
    rfl
  have path := attempt_torn_path created created_path ⟨_, rfl, rfl⟩ [.insertVersion] outcomes.tail events
  rw [creation_first, first]
  dsimp only
  rw [path.1 ((between_iff first).mpr all), insert_first, last_get, rest]
  cases fate : outcomes.getD 6 .done with
  | done => rfl
  | lost => rfl
  | refused => exact absurd fate last

theorem creation_torn (begun : outcomes.getD 0 .done ≠ .refused) (broken : ¬Creates outcomes) :
    ∃ database later, createDatabaseIfNotExist ⟨none, outcomes, events⟩ = (false, ⟨database, later, events⟩) ∧
      Torn database := by
  have torn : Torn (some ⟨none, false⟩) := ⟨_, rfl, rfl⟩
  rw [creation_first]
  cases first : outcomes.getD 0 .done with
  | refused => exact absurd first begun
  | lost => exact ⟨_, _, rfl, torn⟩
  | done =>
      dsimp only
      obtain ⟨whole, partway⟩ := attempt_torn_path created created_path torn [.insertVersion] outcomes.tail events
      by_cases between : ∀ index < created.length, outcomes.tail.getD index .done = .done
      · have last : outcomes.getD 6 .done = .refused := by
          by_contra other
          exact broken ⟨(between_iff first).mp between, other⟩
        rw [whole between, insert_first, last_get, last]
        exact ⟨_, _, rfl, ⟨_, rfl, rfl⟩⟩
      · exact partway between

end Creation

/-! ### The upgrade -/

def asks : Statement → Bool
  | .connect | .selectDb | .setCharacterSet | .alterDatabase | .ping | .alterTable _ => true
  | _ => false

theorem query_asks (statement : Statement) {p : Progress} {found : Database} (asking : asks statement = true)
    (present : p.database = some found) :
    query statement p =
      (if p.outcomes.headD .done = .done then .ok else .failed, { p with outcomes := p.outcomes.tail }) := by
  apply query_quiet
  · rw [present]
    cases statement <;> first | rfl | cases asking
  · cases statement <;> first | rfl | cases asking

theorem attempt_alters (function : List String) {p : Progress} {found : Database} (present : p.database = some found) :
    ∃ ok rest, attempt (function.map .alterTable) p = (ok, { p with outcomes := rest }) ∧
      (p.outcomes = [] → ok = true ∧ rest = []) := by
  induction function generalizing p with
  | nil => exact ⟨true, p.outcomes, rfl, fun none => ⟨rfl, none⟩⟩
  | cons sql others ih =>
      have asked := query_asks (.alterTable sql) rfl present
      rw [List.map_cons, attempt, asked]
      by_cases succeeds : p.outcomes.headD .done = .done
      · obtain ⟨ok, rest, tried, all⟩ := ih (p := { p with outcomes := p.outcomes.tail }) present
        rw [if_pos succeeds]
        refine ⟨ok, rest, tried, ?_⟩
        intro none
        apply all
        rw [none]
        rfl
      · rw [if_neg succeeds]
        refine ⟨false, p.outcomes.tail, rfl, ?_⟩
        intro none
        rw [none] at succeeds
        exact absurd rfl succeeds

/-- The database is complete at a version, to which the updates have come in order. -/
structure At (start : Stage) (version : Nat) (p : Progress) : Prop where
  database : p.database = some (complete version)
  ordered : ∃ ran, Run Ordered start p.events (some version, ran)

def Upgraded (table : MysqlTableUpdate) (start : Stage) (before : Progress) (ok : Bool) (after : Progress) : Prop :=
  ∃ version ≤ table.version, At start version after ∧
    (before.outcomes = [] → ok = true ∧ version = table.version ∧ after.outcomes = [])

theorem at_next {start : Stage} {version : Nat} {p : Progress} (holds : At start version p) (rest : List Outcome) :
    At start version { p with outcomes := rest } := ⟨holds.database, holds.ordered⟩

theorem at_updated {start : Stage} {version : Nat} {p : Progress} (holds : At start version p) :
    Run Ordered start (p.events ++ [.updated (version + 1)]) (some version, true) := by
  obtain ⟨ran, ordered⟩ := holds.ordered
  exact run_snoc ordered (.updated version ran)

theorem update_from_upgraded (table : MysqlTableUpdate) (start : Stage) (count version : Nat)
    (reaches : version + count = table.version) {p : Progress} (holds : At start version p) :
    Upgraded table start p (updateFrom table count (version + 1) p).1 (updateFrom table count (version + 1) p).2 := by
  induction count generalizing version p with
  | zero => exact ⟨version, by omega, holds, fun none => ⟨rfl, by omega, none⟩⟩
  | succ count ih =>
      obtain ⟨function, registered⟩ := table.registered (version + 1) (by omega)
      obtain ⟨ok, rest, tried, all⟩ := attempt_alters function holds.database
      rw [updateFrom, registered]
      dsimp only
      rw [tried]
      cases ok with
      | false =>
          refine ⟨version, by omega, at_next holds rest, ?_⟩
          intro none
          cases (all none).1
      | true =>
          dsimp only
          have executed : execute (.updateVersion (version + 1)) p.database = some (some (complete (version + 1))) := by
            rw [holds.database]
            rfl
          have ordered := at_updated holds
          have ran : query (.updateVersion (version + 1))
              ⟨p.database, rest, p.events ++ [Event.updated (version + 1)]⟩ = _ := query_executed executed
          rw [ran]
          have stored : At start (version + 1)
              ⟨some (complete (version + 1)), rest.tail,
                p.events ++ [.updated (version + 1)] ++ notice (.updateVersion (version + 1))⟩ :=
            ⟨rfl, false, run_snoc ordered (.stored version)⟩
          -- only a refused statement leaves the old version; a lost answer is a version that is stored
          cases fate : rest.headD .done with
          | refused =>
              refine ⟨version, by omega, ⟨holds.database, true, ordered⟩, ?_⟩
              intro none
              rw [(all none).2] at fate
              cases fate
          | lost =>
              refine ⟨version + 1, by omega, stored, ?_⟩
              intro none
              rw [(all none).2] at fate
              cases fate
          | done =>
              obtain ⟨last, within, upgraded, complete⟩ := ih (version + 1) (by omega) stored
              refine ⟨last, within, upgraded, ?_⟩
              intro none
              apply complete
              rw [(all none).2]
              rfl

theorem update_to_version_upgraded (table : MysqlTableUpdate) (start : Stage) {version : Nat}
    (within : version ≤ table.version) {p : Progress} (holds : At start version p) :
    Upgraded table start p (updateToVersion table p).1 (updateToVersion table p).2 := by
  have selected : query .selectVersion p = _ := query_quiet (by rw [holds.database]; rfl) rfl
  rw [updateToVersion, selected]
  have next := at_next holds p.outcomes.tail
  have fetched : fetchVersion { p with outcomes := p.outcomes.tail } = some version := by
    rw [fetchVersion, next.database]
    rfl
  by_cases succeeds : p.outcomes.headD .done = .done
  · rw [if_pos succeeds]
    dsimp only
    rw [fetched]
    dsimp only
    by_cases same : version = table.version
    · rw [if_pos same]
      refine ⟨version, within, next, ?_⟩
      intro none
      refine ⟨rfl, same, ?_⟩
      rw [none]
      rfl
    · rw [if_neg same]
      obtain ⟨last, small, upgraded, complete⟩ :=
        update_from_upgraded table start (table.version - version) version (by omega) next
      refine ⟨last, small, upgraded, ?_⟩
      intro none
      apply complete
      rw [none]
      rfl
  · rw [if_neg succeeds]
    refine ⟨version, within, next, ?_⟩
    intro none
    rw [none] at succeeds
    exact absurd rfl succeeds

theorem check_selected_upgraded (table : MysqlTableUpdate) (start : Stage) {version : Nat}
    (within : version ≤ table.version) {p : Progress} (holds : At start version p) :
    ∃ last ≤ table.version, At start last (checkSelected table p) ∧ (p.outcomes = [] → last = table.version) := by
  obtain ⟨last, small, upgraded, complete⟩ := update_to_version_upgraded table start within holds
  rw [checkSelected]
  cases result : updateToVersion table p with
  | mk ok later =>
      rw [result] at upgraded complete
      cases ok with
      | false => exact ⟨last, small, upgraded, fun none => (complete none).2.1⟩
      | true =>
          dsimp only at upgraded complete ⊢
          rw [query_asks .ping rfl upgraded.database]
          exact ⟨last, small, at_next upgraded _, fun none => (complete none).2.1⟩

section Check

variable (table : MysqlTableUpdate) (start : Stage)

theorem check_complete {version : Nat} (within : version ≤ table.version) {p : Progress} (holds : At start version p) :
    ∃ last ≤ table.version, At start last (check table p) ∧ (p.outcomes = [] → last = table.version) := by
  have connected := query_asks .connect rfl holds.database
  have next := at_next holds p.outcomes.tail
  have selected := query_asks .selectDb rfl next.database
  have after := at_next holds p.outcomes.tail.tail
  rw [check, connected]
  by_cases connects : p.outcomes.headD .done = .done
  · rw [if_pos connects]
    dsimp only
    rw [selected]
    by_cases selects : p.outcomes.tail.headD .done = .done
    · rw [if_pos selects]
      obtain ⟨last, small, upgraded, complete⟩ := check_selected_upgraded table start within after
      refine ⟨last, small, upgraded, ?_⟩
      intro none
      apply complete
      rw [none]
      rfl
    · rw [if_neg selects]
      refine ⟨version, within, after, ?_⟩
      intro none
      rw [none] at selects
      exact absurd rfl selects
  · rw [if_neg connects]
    refine ⟨version, within, next, ?_⟩
    intro none
    rw [none] at connects
    exact absurd rfl connects

/-- No version is fetched from a torn database. -/
theorem update_to_version_torn {p : Progress} (torn : Torn p.database) :
    updateToVersion table p = (false, { p with outcomes := p.outcomes.tail }) := by
  obtain ⟨found, present, empty⟩ := torn
  rw [updateToVersion]
  have read : execute .selectVersion p.database = found.version.map fun _ => p.database := by
    rw [present]
    rfl
  cases rows : found.version with
  | none =>
      rw [rows] at read
      rw [query_impossible read (by decide)]
  | some held =>
      rw [rows] at read
      have asked : execute .selectVersion p.database = some p.database := read
      -- the table of versions is there, and has no row
      have fetched : fetchVersion { p with outcomes := p.outcomes.tail } = none := by
        rw [fetchVersion, present]
        exact empty
      rw [query_quiet asked rfl]
      by_cases succeeds : p.outcomes.headD .done = .done
      · rw [if_pos succeeds]
        dsimp only
        rw [fetched]
      · rw [if_neg succeeds]

theorem check_torn {p : Progress} (torn : Torn p.database) : (check table p).database = p.database := by
  obtain ⟨found, present, empty⟩ := torn
  have connected := query_asks .connect rfl present
  have selected : query .selectDb { p with outcomes := p.outcomes.tail } = _ := query_asks _ rfl present
  rw [check, connected]
  by_cases connects : p.outcomes.headD .done = .done
  · rw [if_pos connects]
    dsimp only
    rw [selected]
    by_cases selects : p.outcomes.tail.headD .done = .done
    · rw [if_pos selects]
      dsimp only
      have stuck := update_to_version_torn table (p := { p with outcomes := p.outcomes.tail.tail })
        ⟨found, present, empty⟩
      rw [checkSelected, stuck]
    · rw [if_neg selects]
  · rw [if_neg connects]

variable (outcomes : List Outcome) (events : List Event)

theorem check_missing :
    check table ⟨none, outcomes, events⟩ =
      if outcomes.getD 0 .done = .done then
        if outcomes.getD 1 .done = .done then
          match createDatabaseIfNotExist ⟨none, outcomes.drop 2, events⟩ with
          | (false, created) => created
          | (true, created) =>
              match query .selectDb created with
              | (.ok, again) => checkSelected table again
              | (_, again) => again
        else ⟨none, outcomes.drop 2, events⟩
      else ⟨none, outcomes.drop 1, events⟩ := by
  have connected : query .connect ⟨none, outcomes, events⟩ = _ := query_quiet rfl rfl
  have selected : query .selectDb ⟨none, outcomes.tail, events⟩ = _ := query_unknown rfl
  have first : outcomes.headD .done = outcomes.getD 0 .done := head_drop outcomes 0
  have twice : outcomes.tail.tail = outcomes.drop 2 := by
    rw [← List.drop_one, ← List.drop_one, List.drop_drop]
  have second : outcomes.tail.headD .done = outcomes.getD 1 .done := (head_drop _ 0).trans (tail_get outcomes 0)
  rw [check, connected]
  dsimp only
  rw [first]
  by_cases connects : outcomes.getD 0 .done = .done
  · rw [if_pos connects, if_pos connects]
    dsimp only
    rw [selected]
    dsimp only
    rw [second]
    by_cases selects : outcomes.getD 1 .done = .done
    · rw [if_pos selects, if_pos selects]
      dsimp only
      rw [twice]
    · rw [if_neg selects, if_neg selects]
      dsimp only
      rw [twice]
  · rw [if_neg connects, if_neg connects]
    dsimp only
    rw [List.drop_one]

theorem get_drop (skipped index : Nat) :
    (outcomes.drop skipped).getD index .done = outcomes.getD (skipped + index) .done := by
  rw [List.getD_eq_getElem?_getD, List.getElem?_drop, List.getD_eq_getElem?_getD]

variable {outcomes}

theorem creates_drop_iff :
    Creates (outcomes.drop 2) ↔
      (∀ index < 8, 2 ≤ index → outcomes.getD index .done = .done) ∧ outcomes.getD 8 .done ≠ .refused := by
  rw [Creates, get_drop]
  refine and_congr_left fun _ => ⟨?_, ?_⟩
  · intro all index below above
    have here := all (index - 2) (by omega)
    rw [get_drop] at here
    rwa [show 2 + (index - 2) = index by omega] at here
  · intro all index below
    rw [get_drop]
    exact all (2 + index) (by omega) (by omega)

def Open (p : Progress) : Prop :=
  (p.database = none ∧ ∃ ran, Run Ordered start p.events (none, ran)) ∨ ∃ version ≤ table.version, At start version p

variable {ran : Bool}

theorem check_missing_torn (tears : Tears outcomes) : Torn (check table ⟨none, outcomes, events⟩).database := by
  obtain ⟨⟨connects, selects, begun⟩, broken⟩ := tears
  have first : (outcomes.drop 2).getD 0 .done ≠ .refused := by rwa [get_drop]
  obtain ⟨database, later, result, torn⟩ :=
    creation_torn events first (fun creates => broken (creates_drop_iff.mp creates))
  rw [check_missing, if_pos connects, if_pos selects, result]
  exact torn

theorem check_missing_open {start} (ordered : Run Ordered start events (none, ran)) (spared : ¬Tears outcomes) :
    Open table start (check table ⟨none, outcomes, events⟩) ∧
      (outcomes = [] → (check table ⟨none, outcomes, events⟩).database = some (complete table.version)) := by
  rw [check_missing]
  by_cases connects : outcomes.getD 0 .done = .done
  · rw [if_pos connects]
    by_cases selects : outcomes.getD 1 .done = .done
    · rw [if_pos selects]
      by_cases begun : outcomes.getD 2 .done = .refused
      · have first : (outcomes.drop 2).getD 0 .done = .refused := by rwa [get_drop]
        rw [creation_refused events first]
        refine ⟨.inl ⟨rfl, ran, ordered⟩, ?_⟩
        rintro rfl
        cases begun
      -- connect and select_db came first, the creation begins with the third outcome
      · have creates : Creates (outcomes.drop 2) := by
          by_contra broken
          exact spared ⟨⟨connects, selects, begun⟩, fun whole => broken (creates_drop_iff.mpr whole)⟩
        have holds : At start 0 ⟨some (complete 0), (outcomes.drop 2).drop 7, events ++ [.created]⟩ :=
          ⟨rfl, false, run_snoc ordered (.created ran)⟩
        rw [creation_whole events creates]
        cases answered : decide ((outcomes.drop 2).getD 6 .done = .done) with
        | false =>
            refine ⟨.inr ⟨0, Nat.zero_le _, holds⟩, ?_⟩
            rintro rfl
            cases answered
        | true =>
            dsimp only
            have selected : query .selectDb ⟨some (complete 0), (outcomes.drop 2).drop 7, events ++ [.created]⟩ = _ :=
              query_asks _ rfl holds.database
            rw [selected]
            by_cases again : ((outcomes.drop 2).drop 7).headD .done = .done
            · rw [if_pos again]
              obtain ⟨last, small, upgraded, complete⟩ :=
                check_selected_upgraded table start (Nat.zero_le _) (at_next holds ((outcomes.drop 2).drop 7).tail)
              refine ⟨.inr ⟨last, small, upgraded⟩, ?_⟩
              intro none
              rw [← complete (by rw [none]; rfl)]
              exact upgraded.database
            · rw [if_neg again]
              refine ⟨.inr ⟨0, Nat.zero_le _, at_next holds _⟩, ?_⟩
              rintro rfl
              exact absurd rfl again
    · rw [if_neg selects]
      refine ⟨.inl ⟨rfl, ran, ordered⟩, ?_⟩
      rintro rfl
      exact absurd rfl selects
  · rw [if_neg connects]
    refine ⟨.inl ⟨rfl, ran, ordered⟩, ?_⟩
    rintro rfl
    exact absurd rfl connects

end Check

/-! ### All runs -/

section Runs

variable (table : MysqlTableUpdate) {start : Stage}

theorem checks_cons (p : Progress) (outcomes : List Outcome) (later : List (List Outcome)) :
    checks table p (outcomes :: later) = checks table (check table { p with outcomes := outcomes }) later := rfl

theorem checks_torn (runs : List (List Outcome)) {p : Progress} (torn : Torn p.database) :
    Torn (checks table p runs).database := by
  induction runs generalizing p with
  | nil => exact torn
  | cons outcomes later ih =>
      rw [checks_cons]
      apply ih
      rw [check_torn table (p := { p with outcomes := outcomes }) torn]
      exact torn

theorem last_sets_up {p : Progress} (open_ : Open table start p) :
    (checks table p [[]]).database = some (complete table.version) ∧
      ∃ ran, Run Ordered start (checks table p [[]]).events (some table.version, ran) := by
  have reached : ∃ last, At start last (checks table p [[]]) ∧ last = table.version := by
    rcases open_ with ⟨missing, ran, ordered⟩ | ⟨version, within, holds⟩
    · obtain ⟨database, outcomes, events⟩ := p
      cases missing
      have spared : ¬Tears [] := fun tears => tears.2 ⟨fun _ _ _ => rfl, nofun⟩
      obtain ⟨later, whole⟩ := check_missing_open table events ordered spared
      rcases later with ⟨missing, -⟩ | ⟨version, within, holds⟩
      · cases missing.symm.trans (whole rfl)
      · refine ⟨version, holds, ?_⟩
        have same := Option.some.inj (holds.database.symm.trans (whole rfl))
        simpa [complete] using same
    · obtain ⟨last, -, upgraded, whole⟩ := check_complete table start within (at_next holds [])
      exact ⟨last, upgraded, whole rfl⟩
  obtain ⟨last, holds, rfl⟩ := reached
  exact ⟨holds.database, holds.ordered⟩

theorem checks_spec (runs : List (List Outcome)) {p : Progress} (open_ : Open table start p) :
    (NoneTears table p runs → Open table start (checks table p runs)) ∧
      (¬NoneTears table p runs → Torn (checks table p runs).database) := by
  induction runs generalizing p with
  | nil => exact ⟨fun _ => open_, fun tears => absurd trivial tears⟩
  | cons outcomes later ih =>
      rw [checks_cons, NoneTears]
      rcases open_ with ⟨missing, ran, ordered⟩ | ⟨version, within, holds⟩
      · obtain ⟨database, before, events⟩ := p
        cases missing
        by_cases tears : Tears outcomes
        · have torn := check_missing_torn table events tears
          refine ⟨fun spared => absurd tears (spared.1 rfl), fun _ => checks_torn table later torn⟩
        · obtain ⟨kept, broken⟩ := ih (check_missing_open table events ordered tears).1
          refine ⟨fun spared => kept spared.2, ?_⟩
          intro some
          apply broken
          intro spared
          exact some ⟨fun _ => tears, spared⟩
      · obtain ⟨last, small, upgraded, -⟩ := check_complete table start within (at_next holds outcomes)
        obtain ⟨kept, broken⟩ := ih (.inr ⟨last, small, upgraded⟩)
        refine ⟨fun spared => kept spared.2, ?_⟩
        intro some
        apply broken
        intro spared
        refine some ⟨?_, spared⟩
        intro missing
        cases missing.symm.trans holds.database

theorem checks_last (p : Progress) (runs : List (List Outcome)) :
    checks table p (runs ++ [[]]) = checks table (checks table p runs) [[]] :=
  List.foldl_append ..

variable {start : Option Database}
  (sound : start = none ∨ ∃ version ≤ table.version, start = some (complete version))
include sound

theorem start_open : Open table (storedVersion start, false) ⟨start, [], []⟩ := by
  rcases sound with rfl | ⟨version, within, rfl⟩
  · exact .inl ⟨rfl, false, Run.refl _⟩
  · exact .inr ⟨version, within, rfl, false, Run.refl _⟩

theorem restarts_of_spared {runs : List (List Outcome)} (spared : NoneTears table ⟨start, [], []⟩ runs) :
    Restarts table start runs := by
  rw [Restarts, checks_last]
  exact last_sets_up table ((checks_spec table runs (start_open table sound)).1 spared)

theorem spared_of_restarts {runs : List (List Outcome)} (restarts : Restarts table start runs) :
    NoneTears table ⟨start, [], []⟩ runs := by
  by_contra tears
  have torn := checks_torn table [[]] ((checks_spec table runs (start_open table sound)).2 tears)
  rw [← checks_last, restarts.1] at torn
  exact not_torn_complete _ torn

end Runs

/-- From a server without the database, or with one of an earlier version, a last
run sets everything up, with the updates in order, exactly when no run before it
has torn the creation. -/
theorem restarts_iff (table : MysqlTableUpdate) (start : Option Database)
    (sound : start = none ∨ ∃ version ≤ table.version, start = some (complete version))
    (runs : List (List Outcome)) :
    Restarts table start runs ↔ NoneTears table ⟨start, [], []⟩ runs :=
  ⟨spared_of_restarts table sound, restarts_of_spared table sound⟩

/-- The answer to the last statement of the creation is lost, and the next run
is done. -/
theorem restarts_lost :
    Restarts mysqlTableUpdate none [[.done, .done, .done, .done, .done, .done, .done, .done, .lost]] :=
  (restarts_iff mysqlTableUpdate none (.inl rfl) _).mpr ⟨fun _ tears => tears.2 ⟨by decide, by decide⟩, trivial⟩

/-- The database is created, its table of versions is not. -/
theorem torn_creation_stays :
    ¬ ∀ runs, Restarts mysqlTableUpdate none runs := by
  intro restarts
  have spared := spared_of_restarts mysqlTableUpdate (.inl rfl)
    (restarts [[.done, .done, .done, .done, .done, .done, .refused]])
  have broken : ¬∀ index < 8, 2 ≤ index →
      [Outcome.done, .done, .done, .done, .done, .done, .refused].getD index .done = .done := by decide
  exact spared.1 rfl ⟨⟨rfl, rfl, by decide⟩, fun whole => broken whole.1⟩

end GameBook.TableUpdate
