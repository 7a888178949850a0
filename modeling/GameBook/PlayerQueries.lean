import GameBook.BindBuffer
import GameBook.Mongoose
import GameBook.SavedPlayers
import GameBook.SqlLiteral

/-!
The players of an account: `QueryPlayerList`, which writes the account into the
text of a query, and `HandleCreatePlayer`, which binds it as a parameter. The
server is a parameter; of it only what its manual says of string literals, of
the size of a query and of inserting a row is used.
-/

namespace GameBook.PlayerQueries

open CString (Bytes cStr c_str_of_clean c_str_clean c_str_append)
open SavedPlayers SqlLiteral
open Mongoose (ascii)
open BindBuffer (boundStr)

structure Settings where
  /-- How the column `account` compares with a literal. -/
  collation : Bytes → Bytes → Bool
  itself : ∀ text, collation text text = true
  /-- What the column keeps of a bound string; nothing where it refuses it. -/
  column : Bytes → Option Bytes
  maxAllowedPacket : Nat

structure Database where
  select : Bytes → List Row → Option (List Row)
  insert : List Row → UInt64 → Bytes → Bytes → Option (List Row)

def selectText : Bytes := ascii "select sn, name, base, item, misc from player where account = '"

/-- `strutil::format("..'%s'", account.c_str())` as `c_str()` shows it. -/
def querySql (account : Bytes) : Bytes := cStr (selectText ++ cStr account ++ [39] ++ [0])

/-- Nothing is sent where the query fails. -/
def queryPlayerList (database : Database) (protobuf : Protobuf) (rows : List Row) (account : Bytes) :
    Option PlayerList :=
  (database.select (querySql account) rows).map fun selected =>
    ⟨cStr account, selected.map (playerLittle protobuf)⟩

inductive Reply where
  /-- With `CPR_Unkonwn`. -/
  | createPlayerRs (account : Bytes)
  | queryPlayerListRs (list : PlayerList)

def handleCreatePlayer (database : Database) (protobuf : Protobuf) (rows : List Row) (account : Bytes)
    (player : Player) : List Row × Option Reply :=
  match database.insert rows player.sn (boundStr account) (boundStr player.name) with
  | none => (rows, some (.createPlayerRs (cStr account)))
  | some created =>
      (onSavePlayer created player,
        (queryPlayerList database protobuf (onSavePlayer created player) account).map .queryPlayerListRs)

/-! ### The server -/

/-- What the code relies on. -/
structure Documented (settings : Settings) (database : Database) : Prop where
  selects : ∀ body value rows, (selectText ++ body).length < settings.maxAllowedPacket →
    readLiteral body = some (value, []) →
      database.select (selectText ++ body) rows =
        some (rows.filter fun row => settings.collation row.account value)
  /-- A literal that is not closed is an error. -/
  fails : ∀ body rows, readLiteral body = none → database.select (selectText ++ body) rows = none
  tooLong : ∀ text rows, settings.maxAllowedPacket ≤ text.length → database.select text rows = none
  /-- The new row has its own primary key. -/
  creates : ∀ rows sn account name created, database.insert rows sn account name = some created →
    (∀ row ∈ rows, row.sn ≠ sn) ∧ ∃ stored storedName, settings.column account = some stored ∧
      created.Perm (⟨sn, storedName, stored, none, none⟩ :: rows)
  /-- An empty table takes a short name of printable characters. -/
  accepts : ∀ sn account stored name, settings.column account = some stored →
    name.length ≤ 32 → (∀ c ∈ name, 33 ≤ c ∧ c < 127) → (database.insert [] sn account name).isSome

/-! ### What is asked -/

def SelectsOwn (database : Database) (account : Bytes) : Prop :=
  ∀ rows, database.select (querySql account) rows = some (rows.filter fun row => row.account = account)

def ReturnsCreated (database : Database) (account : Bytes) : Prop :=
  ∀ protobuf rows player created,
    database.insert rows player.sn (boundStr account) (boundStr player.name) = some created →
      ∃ list, (handleCreatePlayer database protobuf rows account player).2 = some (.queryPlayerListRs list) ∧
        ∃ row ∈ onSavePlayer created player, row.sn = player.sn ∧ playerLittle protobuf row ∈ list.player

def Meets (database : Database) (account : Bytes) : Prop :=
  SelectsOwn database account ∧ ReturnsCreated database account

/-- The account closes its literal itself, and goes on with a text of its own. -/
def ClosesEarly (account : Bytes) : Prop :=
  ∃ value rest, readLiteral (cStr account ++ [39]) = some (value, rest) ∧ rest ≠ []

/-- The account is read as itself, in a query that is not too long; the column
keeps it, and takes no other text for it. -/
structure Selectable (settings : Settings) (account : Bytes) : Prop where
  clean : 0 ∉ account
  plain : Plain account
  short : selectText.length + account.length + 1 < settings.maxAllowedPacket
  alone : ∀ other, settings.collation other account = true → other = account
  kept : ∀ stored, settings.column (boundStr account) = some stored → stored = account

theorem select_text_clean : 0 ∉ selectText := by decide

theorem query_sql_eq (account : Bytes) : querySql account = selectText ++ (cStr account ++ [39]) := by
  have clean : 0 ∉ selectText ++ cStr account ++ [39] := by
    have quote : (0 : UInt8) ≠ 39 := by decide
    simp [select_text_clean, c_str_clean account, quote]
  rw [querySql, CString.c_str_closed, c_str_of_clean _ clean, List.append_assoc]

/-- Only an account without a NUL is as long as what is written of it. -/
theorem clean_of_length (account : Bytes) (whole : account.length ≤ (cStr account).length) :
    0 ∉ account ∧ cStr account = account := by
  have part : cStr account <+: account := List.takeWhile_prefix _
  have same : cStr account = account := part.eq_of_length_le whole
  exact ⟨same ▸ c_str_clean account, same⟩

theorem bound_letter : boundStr [110] = [110] := by decide

section Server

variable {settings : Settings} {database : Database} (documented : Documented settings database)
include documented

theorem own_value {account : Bytes} (inside : ¬ClosesEarly account) (own : SelectsOwn database account) :
    ∃ value, readLiteral (cStr account ++ [39]) = some (value, []) ∧
      (selectText ++ (cStr account ++ [39])).length < settings.maxAllowedPacket ∧
      ∀ other, settings.collation other value = true ↔ other = account := by
  have short : (selectText ++ (cStr account ++ [39])).length < settings.maxAllowedPacket := by
    by_contra long
    have nothing := documented.tooLong (querySql account) [] (by rw [query_sql_eq]; omega)
    cases nothing.symm.trans (own [])
  cases read : readLiteral (cStr account ++ [39]) with
  | none =>
      have nothing := documented.fails _ [] read
      rw [← query_sql_eq] at nothing
      cases nothing.symm.trans (own [])
  | some found =>
      obtain ⟨value, rest⟩ := found
      have closed : rest = [] := by
        by_contra more
        exact inside ⟨value, rest, read, more⟩
      subst closed
      refine ⟨value, rfl, short, ?_⟩
      intro other
      have selected := documented.selects _ value [⟨0, [], other, none, none⟩] short read
      rw [← query_sql_eq] at selected
      have same := Option.some.inj (selected.symm.trans (own _))
      by_cases equal : other = account
      · simpa [equal] using same
      · simpa [equal] using same

theorem selects_own {account : Bytes} (selectable : Selectable settings account) :
    SelectsOwn database account := by
  intro rows
  have text := c_str_of_clean account selectable.clean
  have read := (read_itself_iff account).mpr selectable.plain
  have short := selectable.short
  rw [query_sql_eq, text, documented.selects _ account rows (by simp; omega) read]
  refine congrArg some (List.filter_congr ?_)
  intro row _
  have alone := selectable.alone row.account
  by_cases equal : row.account = account
  · simp [equal, settings.itself]
  · have other : settings.collation row.account account ≠ true := fun same => equal (alone same)
    simpa [equal] using other

theorem returns_created {account : Bytes} (selectable : Selectable settings account) :
    ReturnsCreated database account := by
  intro protobuf rows player created inserted
  obtain ⟨-, stored, storedName, column, listed⟩ := documented.creates _ _ _ _ _ inserted
  have kept := selectable.kept stored column
  have fresh : savedRow player ⟨player.sn, storedName, stored, none, none⟩ ∈ onSavePlayer created player := by
    rw [on_save_player]
    exact List.mem_map.mpr ⟨_, listed.mem_iff.mpr List.mem_cons_self, if_pos rfl⟩
  refine ⟨⟨cStr account, ((onSavePlayer created player).filter fun row => row.account = account).map
    (playerLittle protobuf)⟩, ?_, _, fresh, rfl, ?_⟩
  · rw [handleCreatePlayer, inserted]
    dsimp only
    rw [queryPlayerList, selects_own documented selectable]
    rfl
  · exact List.mem_map.mpr ⟨_, List.mem_filter.mpr ⟨fresh, decide_eq_true kept⟩, rfl⟩

theorem kept_of_returned {account stored : Bytes} (own : SelectsOwn database account)
    (returned : ReturnsCreated database account) (column : settings.column (boundStr account) = some stored) :
    stored = account := by
  have accepted := documented.accepts 1 (boundStr account) stored (boundStr [110]) column
    (by rw [bound_letter]; decide) (by rw [bound_letter]; decide +kernel)
  obtain ⟨created, inserted⟩ := Option.isSome_iff_exists.mp accepted
  obtain ⟨-, kept, name, same, listed⟩ := documented.creates _ _ _ _ _ inserted
  cases column.symm.trans same
  obtain ⟨list, sent, row, saved, -, found⟩ :=
    returned ⟨fun _ => ⟨0, 0⟩, fun _ => ⟨none, none, 0⟩⟩ [] ⟨1, [110], ⟨0, 0⟩, ⟨none, none, 0⟩⟩ created inserted
  rw [handleCreatePlayer, inserted] at sent
  dsimp only at sent
  rw [queryPlayerList, own] at sent
  cases sent
  obtain ⟨other, selected, -⟩ := List.mem_map.mp found
  obtain ⟨inside, mine⟩ := List.mem_filter.mp selected
  rw [on_save_player] at inside
  obtain ⟨first, there, rfl⟩ := List.mem_map.mp inside
  have only := List.mem_singleton.mp (listed.mem_iff.mp there)
  subst only
  simpa [savedRow] using mine

/-- Where the account does not close its literal, it is the account that
decides, whatever else the server does. -/
theorem meets_iff {account : Bytes} (inside : ¬ClosesEarly account) :
    Meets database account ↔ Selectable settings account := by
  constructor
  · rintro ⟨own, returned⟩
    obtain ⟨value, read, short, alone⟩ := own_value documented inside own
    have same : value = account := (alone value).mp (settings.itself value)
    subst same
    have length := read_literal_length _ _ _ read
    obtain ⟨clean, text⟩ := clean_of_length value (by simpa using length)
    rw [text] at read short
    refine ⟨clean, (read_itself_iff value).mp read, ?_, fun other => (alone other).mp, ?_⟩
    · simpa [Nat.add_assoc] using short
    · intro stored column
      exact kept_of_returned documented own returned column
  · intro selectable
    exact ⟨selects_own documented selectable, returns_created documented selectable⟩

end Server

/-! ### A server -/

/-- A server that knows no other statements than those of the code. -/
def plainSelect (settings : Settings) (text : Bytes) (rows : List Row) : Option (List Row) :=
  if settings.maxAllowedPacket ≤ text.length then none
  else if text.take selectText.length = selectText then
    match readLiteral (text.drop selectText.length) with
    | some (value, []) => some (rows.filter fun row => settings.collation row.account value)
    | _ => none
  else none

def plainInsert (settings : Settings) (rows : List Row) (sn : UInt64) (account name : Bytes) : Option (List Row) :=
  (settings.column account).bind fun stored =>
    if rows.any fun row => row.sn = sn then none else some (rows ++ [⟨sn, name, stored, none, none⟩])

def plainDatabase (settings : Settings) : Database := ⟨plainSelect settings, plainInsert settings⟩

theorem plain_select_body (settings : Settings) (body : Bytes) (rows : List Row)
    (short : (selectText ++ body).length < settings.maxAllowedPacket) :
    plainSelect settings (selectText ++ body) rows =
      match readLiteral body with
      | some (value, []) => some (rows.filter fun row => settings.collation row.account value)
      | _ => none := by
  rw [plainSelect, if_neg (Nat.not_le.mpr short), if_pos (List.take_left ..), List.drop_left]

theorem plain_select_fails (settings : Settings) (body : Bytes) (rows : List Row)
    (unread : ∀ value, readLiteral body ≠ some (value, [])) : plainSelect settings (selectText ++ body) rows = none := by
  by_cases short : (selectText ++ body).length < settings.maxAllowedPacket
  · rw [plain_select_body settings body rows short]
    split
    · rename_i value read
      exact absurd read (unread value)
    · rfl
  · rw [plainSelect, if_pos (Nat.not_lt.mp short)]

theorem plain_documented (settings : Settings) : Documented settings (plainDatabase settings) where
  selects body value rows short read := by
    change plainSelect settings (selectText ++ body) rows = _
    rw [plain_select_body settings body rows short, read]
  fails body rows unread := plain_select_fails settings body rows (by simp [unread])
  tooLong text rows long := if_pos long
  creates rows sn account name created inserted := by
    obtain ⟨stored, column, done⟩ := Option.bind_eq_some_iff.mp inserted
    split at done
    · cases done
    · rename_i absent
      cases done
      refine ⟨?_, stored, name, column, List.perm_append_comm⟩
      intro row member same
      exact absent (List.any_eq_true.mpr ⟨row, member, decide_eq_true same⟩)
  accepts sn account stored name column _ _ := by
    change (plainInsert settings [] sn account name).isSome
    rw [plainInsert, column]
    rfl

/-- For every server that keeps to its manual, an account selects its own rows
and a created player is found again, exactly where the account is selectable.
Where it does not close its literal itself, this holds for each single server. -/
theorem own_rows_iff (settings : Settings) (account : Bytes) :
    ((∀ database, Documented settings database → Meets database account) ↔ Selectable settings account) ∧
    ∀ database, Documented settings database → ¬ClosesEarly account →
      (Meets database account ↔ Selectable settings account) := by
  refine ⟨⟨?_, ?_⟩, fun database documented inside => meets_iff documented inside⟩
  · intro meets
    have documented := plain_documented settings
    have met := meets (plainDatabase settings) documented
    by_cases inside : ClosesEarly account
    · -- what then stands behind the literal is no statement of the code
      obtain ⟨value, rest, read, more⟩ := inside
      have selected := met.1 []
      have failed := plain_select_fails settings (cStr account ++ [39]) [] (by
        intro other closed
        cases closed.symm.trans read
        exact more rfl)
      rw [query_sql_eq] at selected
      cases failed.symm.trans selected
    · exact (meets_iff documented inside).mp met
  · intro selectable database documented
    exact ⟨selects_own documented selectable, returns_created documented selectable⟩

def exactSettings : Settings where
  collation first second := first == second
  itself text := beq_self_eq_true text
  column := some
  maxAllowedPacket := 16777216

theorem selectable_bob : Selectable exactSettings (ascii "bob") where
  clean := by decide
  plain := plain_of_bytes _ (by decide) (by decide)
  short := by decide
  alone other same := by simpa [exactSettings] using same
  kept stored column := by
    have bound : boundStr (ascii "bob") = ascii "bob" := by decide
    rw [bound] at column
    cases column
    rfl

theorem bob_stays_inside : ¬ClosesEarly (ascii "bob") := by
  rintro ⟨value, rest, read, more⟩
  have own : readLiteral (cStr (ascii "bob") ++ [39]) = some (ascii "bob", []) := by decide
  rw [own] at read
  cases read
  exact more rfl

theorem own_rows_bob : Meets (plainDatabase exactSettings) (ascii "bob") ∧
    (Meets (plainDatabase exactSettings) (ascii "bob") ↔ Selectable exactSettings (ascii "bob")) := by
  obtain ⟨everywhere, single⟩ := own_rows_iff exactSettings (ascii "bob")
  exact ⟨everywhere.mpr selectable_bob _ (plain_documented exactSettings),
    single _ (plain_documented exactSettings) bob_stays_inside⟩

/-! ### An account that is a query -/

def everyone : Bytes := ascii "a' or 'a'='a"

/-- A server that knows what stands behind the literal, too. -/
def openDatabase : Database where
  select text rows := if text = querySql everyone then some rows else plainSelect exactSettings text rows
  insert := plainInsert exactSettings

theorem everyone_reads :
    readLiteral (cStr everyone ++ [39]) = some (ascii "a", ascii " or 'a'='a'") := by decide

theorem open_other (body : Bytes) (rows : List Row) (other : body ≠ cStr everyone ++ [39]) :
    openDatabase.select (selectText ++ body) rows = plainSelect exactSettings (selectText ++ body) rows := by
  apply if_neg
  rw [query_sql_eq]
  exact fun same => other (List.append_cancel_left same)

theorem open_documented : Documented exactSettings openDatabase where
  selects body value rows short read := by
    have other : body ≠ cStr everyone ++ [39] := by
      rintro rfl
      cases everyone_reads.symm.trans read
    rw [open_other body rows other]
    exact (plain_documented exactSettings).selects body value rows short read
  fails body rows unread := by
    have other : body ≠ cStr everyone ++ [39] := by
      rintro rfl
      cases everyone_reads.symm.trans unread
    rw [open_other body rows other]
    exact (plain_documented exactSettings).fails body rows unread
  tooLong text rows long := by
    have other : text ≠ querySql everyone := by
      rintro rfl
      revert long
      rw [query_sql_eq]
      decide
    exact (if_neg other).trans ((plain_documented exactSettings).tooLong text rows long)
  creates := (plain_documented exactSettings).creates
  accepts := (plain_documented exactSettings).accepts

/-- The players of all accounts are sent. -/
theorem everyone_selected :
    ¬ ∀ settings database, Documented settings database → ∀ account, Meets database account := by
  intro law
  have own := (law exactSettings openDatabase open_documented everyone).1 [⟨1, [110], ascii "bob", none, none⟩]
  have all : openDatabase.select (querySql everyone) [⟨1, [110], ascii "bob", none, none⟩] =
      some [⟨1, [110], ascii "bob", none, none⟩] := by
    rw [openDatabase]
    dsimp only
    rw [if_pos rfl]
  have same := Option.some.inj (all.symm.trans own)
  revert same
  decide

end GameBook.PlayerQueries
