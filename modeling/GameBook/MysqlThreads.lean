import GameBook.LabelledRun
import GameBook.ParallelQueues
import GameBook.SocketObject

/-!
The MysqlThreads of a dbmgr process: `ThreadCollectorExclusive::HandlerMessage`
gives each dispatched packet to the next thread in turn, every thread works on
its own list, and `MysqlConnector` executes one statement on the table `player`
for a packet. Statements succeed and are atomic. Messages are numbered in the
order in which they were dispatched; the numbers are not in the code.
-/

namespace GameBook.MysqlThreads

open LabelledRun ParallelQueues SocketObject

structure Saved where
  base : Str
  misc : Str
  deriving DecidableEq, Repr

/-- A row of `player`, without the column that no statement here writes. -/
structure Row where
  account : Str
  name : Str
  saved : Saved
  deriving DecidableEq, Repr

/-- `other`: a message of another id; no handler of it writes a row that is there. -/
inductive Message where
  | savePlayer (sn : UInt64) (saved : Saved)
  | queryPlayer (sn : UInt64)
  | cmdThread
  | other
  deriving DecidableEq, Repr

abbrev Table := UInt64 → Option Row

/-- `threads` are the keys of `_threads`, in the order of the map. -/
structure DbMgr where
  threads : List Nat
  nextThreadSn : Nat
  queues : Queues Nat Message
  table : Table
  dispatched : List Message
  answers : List (Nat × Option Row)

def start (threads : List Nat) (table : Table) : DbMgr := ⟨threads, 0, empty, table, [], []⟩

/-- `find(_nextThreadSn)`, else `begin()`. -/
def chosen (d : DbMgr) : Nat :=
  if d.nextThreadSn ∈ d.threads then d.nextThreadSn else d.threads.headD 0

/-- `iter++`, and `begin()` at the end. -/
def following : List Nat → Nat → Option Nat
  | first :: second :: rest, sn =>
      if first = sn then some second else following (second :: rest) sn
  | _, _ => none

def handlerMessage (d : DbMgr) (message : Message) : DbMgr :=
  match message with
  | .cmdThread => { d with
      queues := post d.queues d.threads message
      dispatched := d.dispatched ++ [message] }
  | _ => { d with
      queues := post d.queues [chosen d] message
      nextThreadSn := (following d.threads (chosen d)).getD (d.threads.headD 0)
      dispatched := d.dispatched ++ [message] }

def onSavePlayer (table : Table) (sn : UInt64) (saved : Saved) : Table :=
  fun key => if key = sn then (table sn).map fun row => { row with saved := saved } else table key

/-- The handlers; `select ... where sn = ?` answers with the row it finds. -/
def handle (d : DbMgr) (number : Nat) : Message → DbMgr
  | .savePlayer sn saved => { d with table := onSavePlayer d.table sn saved }
  | .queryPlayer sn => { d with answers := d.answers ++ [(number, d.table sn)] }
  | _ => d

def execute (d : DbMgr) (thread : Nat) : Option DbMgr :=
  (take d.queues thread).map fun taken => handle { d with queues := taken.2 } taken.1.1 taken.1.2

inductive Event where
  | dispatch (message : Message)
  | execute (thread : Nat)
  deriving DecidableEq, Repr

inductive Step : DbMgr → Event → DbMgr → Prop where
  | dispatch (before : DbMgr) (message : Message) :
      Step before (.dispatch message) (handlerMessage before message)
  | execute (before : DbMgr) (thread : Nat) (after : DbMgr) :
      MysqlThreads.execute before thread = some after → Step before (.execute thread) after

/-! ### The law -/

def LastSave (dispatched : List Message) (sn : UInt64) (number : Nat) (saved : Saved) : Prop :=
  dispatched[number]? = some (.savePlayer sn saved) ∧
    ∀ later other, number < later → dispatched[later]? ≠ some (.savePlayer sn other)

/-- A query found the row, with what a SavePlayer of the player wrote that is
not older than any dispatched before the query. -/
def Answered (dispatched : List Message) (sn : UInt64) (number : Nat) (result : Option Row) :
    Prop :=
  ∃ row, result = some row ∧ ∀ save saved, save < number →
    dispatched[save]? = some (.savePlayer sn saved) →
    ∃ newer, save ≤ newer ∧ dispatched[newer]? = some (.savePlayer sn row.saved)

/-- For the players that are in the table: once no SavePlayer of a player waits,
the row holds the last one; and every query is answered with its last SavePlayer
or a later one. -/
structure Consistent (players : Table) (d : DbMgr) : Prop where
  rows : ∀ sn, (players sn).isSome →
    (∀ thread, ∀ x ∈ d.queues.waiting thread, ∀ saved, x.2 ≠ .savePlayer sn saved) →
    ∀ number saved, LastSave d.dispatched sn number saved →
      ∃ row, d.table sn = some row ∧ row.saved = saved
  answers : ∀ number result, (number, result) ∈ d.answers → ∀ sn, (players sn).isSome →
    d.dispatched[number]? = some (.queryPlayer sn) → Answered d.dispatched sn number result

/-- The later message has to find the earlier one executed. -/
def conflicts : Message → Message → Prop
  | .savePlayer sn _, .savePlayer other _ => sn = other
  | .savePlayer sn _, .queryPlayer other => sn = other
  | _, _ => False

/-- A SavePlayer or QueryPlayer is dispatched when every SavePlayer of the player
that still waits stands in the list of the thread whose turn it is. -/
def InTurn (d : DbMgr) : Event → Prop
  | .dispatch message => ∀ thread, ∀ x ∈ d.queues.waiting thread,
      conflicts x.2 message → thread = chosen d
  | .execute _ => True

/-! ### What every step keeps -/

/-- Either all SavePlayers of the player wait, or the row holds one of them and
those dispatched after it wait. -/
def Latest (d : DbMgr) (sn : UInt64) : Prop :=
  (∀ number saved, d.dispatched[number]? = some (.savePlayer sn saved) →
    Pending d.queues number) ∨
  ∃ written row, d.table sn = some row ∧
    d.dispatched[written]? = some (.savePlayer sn row.saved) ∧
    ∀ number saved, d.dispatched[number]? = some (.savePlayer sn saved) →
      (Pending d.queues number ↔ written < number)

structure Inv (players : Table) (d : DbMgr) : Prop where
  ordered : Ordered conflicts d.queues
  counted : d.queues.posted = d.dispatched.length
  genuine : ∀ thread, ∀ x ∈ d.queues.waiting thread, d.dispatched[x.1]? = some x.2
  rows : ∀ sn, (d.table sn).isSome = (players sn).isSome
  latest : ∀ sn, (players sn).isSome → Latest d sn
  numbers : ∀ number result, (number, result) ∈ d.answers → number < d.dispatched.length
  answers : ∀ number result, (number, result) ∈ d.answers → ∀ sn, (players sn).isSome →
    d.dispatched[number]? = some (.queryPlayer sn) → Answered d.dispatched sn number result

theorem start_inv (threads : List Nat) (players : Table) : Inv players (start threads players) := by
  refine ⟨empty_ordered, rfl, ?_, fun _ => rfl, ?_, ?_, ?_⟩
  · intro thread x member
    cases member
  · intro sn held
    left
    intro number saved found
    simp [start] at found
  · intro number result member
    cases member
  · intro number result member
    cases member

/-- All SavePlayers wait behind the one the row holds, so without waiting ones
the row holds the last. -/
theorem consistent_of_inv {players : Table} {d : DbMgr} (inv : Inv players d) :
    Consistent players d := by
  refine ⟨?_, inv.answers⟩
  intro sn listed idle number saved last
  have none : ∀ other save, d.dispatched[other]? = some (.savePlayer sn save) →
      ¬Pending d.queues other := by
    rintro other save found ⟨thread, x, member, rfl⟩
    have same := (inv.genuine thread x member).symm.trans found
    exact idle thread x member save (Option.some.inj same)
  rcases inv.latest sn listed with all | ⟨written, row, held, source, order⟩
  · exact absurd (all number saved last.1) (none number saved last.1)
  · refine ⟨row, held, ?_⟩
    have notAfter : ¬written < number := fun later =>
      none number saved last.1 ((order number saved last.1).mpr later)
    have notBefore : ¬number < written := fun earlier => last.2 written row.saved earlier source
    have same : written = number := by omega
    rw [same, last.1] at source
    cases source
    rfl

theorem conflicts_iff (x y : Message) :
    conflicts x y ↔ ∃ sn saved, x = .savePlayer sn saved ∧
      ((∃ other, y = .savePlayer sn other) ∨ y = .queryPlayer sn) := by
  unfold conflicts
  split
  · simp [eq_comm]
  · simp [eq_comm]
  · rename_i apart noQuery
    constructor
    · intro impossible
      cases impossible
    · rintro ⟨sn, saved, rfl, ⟨other, rfl⟩ | rfl⟩
      · exact (apart sn saved sn other rfl rfl).elim
      · exact (noQuery sn saved sn rfl rfl).elim

def targets (d : DbMgr) (message : Message) : List Nat :=
  if message = .cmdThread then d.threads else [chosen d]

theorem handler_message_fields (d : DbMgr) (message : Message) :
    (handlerMessage d message).queues = post d.queues (targets d message) message ∧
      (handlerMessage d message).dispatched = d.dispatched ++ [message] ∧
      (handlerMessage d message).table = d.table ∧
      (handlerMessage d message).answers = d.answers := by
  cases message <;> exact ⟨rfl, rfl, rfl, rfl⟩

theorem found_append {dispatched : List Message} {message found : Message} {number : Nat}
    (old : number < dispatched.length) :
    (dispatched ++ [message])[number]? = some found ↔ dispatched[number]? = some found := by
  rw [List.getElem?_append_left old]

theorem found_lt {dispatched : List Message} {message : Message} {number : Nat}
    (found : dispatched[number]? = some message) : number < dispatched.length := by
  obtain ⟨small, _⟩ := List.getElem?_eq_some_iff.mp found
  exact small

theorem answered_append {dispatched : List Message} {message : Message} {sn : UInt64}
    {number : Nat} {result : Option Row} (old : number < dispatched.length)
    (answered : Answered dispatched sn number result) :
    Answered (dispatched ++ [message]) sn number result := by
  obtain ⟨row, same, newest⟩ := answered
  refine ⟨row, same, ?_⟩
  intro save saved before found
  obtain ⟨newer, order, source⟩ := newest save saved before ((found_append (by omega)).mp found)
  exact ⟨newer, order, (found_append (found_lt source)).mpr source⟩

theorem latest_dispatch {players : Table} {d : DbMgr} (inv : Inv players d) (message : Message)
    (sn : UInt64) (latest : Latest d sn) : Latest (handlerMessage d message) sn := by
  obtain ⟨queues, dispatched, table, -⟩ := handler_message_fields d message
  unfold Latest
  rw [queues, dispatched, table]
  have waits : ∀ number saved,
      (d.dispatched ++ [message])[number]? = some (.savePlayer sn saved) →
      (number < d.dispatched.length ∧ d.dispatched[number]? = some (.savePlayer sn saved) ∧
        (Pending (post d.queues (targets d message) message) number ↔ Pending d.queues number)) ∨
      (number = d.dispatched.length ∧
        Pending (post d.queues (targets d message) message) number) := by
    intro number saved found
    rcases Nat.lt_or_ge number d.dispatched.length with old | new
    · left
      exact ⟨old, (found_append old).mp found, pending_post (inv.counted ▸ old)⟩
    · right
      have small := found_lt found
      rw [List.length_append, List.length_singleton] at small
      have last : number = d.dispatched.length := by omega
      subst last
      rw [List.getElem?_concat_length] at found
      have same := Option.some.inj found
      refine ⟨rfl, ?_⟩
      have target : chosen d ∈ targets d message := by
        rw [targets, same, if_neg (by simp)]
        exact List.mem_singleton_self _
      rw [← inv.counted]
      exact pending_posted d.queues message target
  rcases latest with all | ⟨written, row, held, source, order⟩
  · left
    intro number saved found
    rcases waits number saved found with ⟨_, before, same⟩ | ⟨_, pending⟩
    · exact same.mpr (all number saved before)
    · exact pending
  · right
    refine ⟨written, row, held, (found_append (found_lt source)).mpr source, ?_⟩
    intro number saved found
    rcases waits number saved found with ⟨_, before, same⟩ | ⟨last, pending⟩
    · exact same.trans (order number saved before)
    · have small := found_lt source
      exact ⟨fun _ => by omega, fun _ => pending⟩

theorem dispatch_inv {players : Table} {d : DbMgr} (inv : Inv players d) (message : Message)
    (turn : InTurn d (.dispatch message)) : Inv players (handlerMessage d message) := by
  obtain ⟨queues, dispatched, table, answers⟩ := handler_message_fields d message
  have single : ∀ x : Message, conflicts x message → targets d message = [chosen d] := by
    intro x clash
    obtain ⟨sn, saved, -, ⟨other, rfl⟩ | rfl⟩ := (conflicts_iff x message).mp clash
    · exact if_neg (by simp)
    · exact if_neg (by simp)
  constructor
  · rw [queues]
    apply post_ordered inv.ordered
    · intro thread x member clash target listed
      rw [single x.2 clash, List.mem_singleton] at listed
      exact (turn thread x member clash).trans listed.symm
    · intro clash first left second right
      rw [single message clash, List.mem_singleton] at left right
      exact left.trans right.symm
  · rw [queues, dispatched, List.length_append, List.length_singleton, ← inv.counted]
    rfl
  · intro thread x member
    rw [queues] at member
    rw [dispatched]
    rcases mem_post member with old | ⟨rfl, _⟩
    · have found := inv.genuine thread x old
      exact (found_append (found_lt found)).mpr found
    · rw [inv.counted]
      exact List.getElem?_concat_length
  · intro sn
    rw [table]
    exact inv.rows sn
  · intro sn listed
    exact latest_dispatch inv message sn (inv.latest sn listed)
  · intro number result member
    rw [answers] at member
    rw [dispatched, List.length_append]
    exact Nat.lt_add_right _ (inv.numbers number result member)
  · intro number result member sn listed query
    rw [answers] at member
    rw [dispatched] at query ⊢
    have old := inv.numbers number result member
    exact answered_append old (inv.answers number result member sn listed ((found_append old).mp query))

theorem handle_fields (d : DbMgr) (number : Nat) (message : Message) :
    (handle d number message).queues = d.queues ∧
      (handle d number message).dispatched = d.dispatched := by
  cases message <;> exact ⟨rfl, rfl⟩

theorem on_save_player_some (table : Table) (sn key : UInt64) (saved : Saved) :
    (onSavePlayer table sn saved key).isSome = (table key).isSome := by
  unfold onSavePlayer
  split
  · rename_i same
    rw [same, Option.isSome_map]
  · rfl

theorem pending_take {players : Table} {d : DbMgr} {rest : Queues Nat Message} {thread : Nat}
    {head : Nat × Message} (inv : Inv players d) (taken : take d.queues thread = some (head, rest))
    (number : Nat) (different : d.dispatched[number]? ≠ some head.2 ∨ number ≠ head.1) :
    Pending rest number ↔ Pending d.queues number := by
  constructor
  · rintro ⟨other, x, member, rfl⟩
    exact ⟨other, x, take_mem taken member, rfl⟩
  · rintro ⟨other, x, member, rfl⟩
    refine ⟨other, x, mem_take taken member ?_, rfl⟩
    rintro rfl
    rcases different with message | apart
    · exact message (inv.genuine other x member)
    · exact apart rfl

theorem pending_after {players : Table} {d : DbMgr} {rest : Queues Nat Message} {thread : Nat}
    {number : Nat} {sn : UInt64} {saved : Saved} (inv : Inv players d)
    (taken : take d.queues thread = some ((number, .savePlayer sn saved), rest))
    (latest : Latest d sn) (other : Nat) (save : Saved)
    (found : d.dispatched[other]? = some (.savePlayer sn save)) :
    Pending rest other ↔ number < other := by
  obtain ⟨front, -, -⟩ := take_cases taken
  have first : (number, Message.savePlayer sn saved) ∈ d.queues.waiting thread :=
    front ▸ List.mem_cons_self
  constructor
  · rintro ⟨place, x, member, rfl⟩
    apply head_first taken inv.ordered member
    have same := (inv.genuine place x (take_mem taken member)).symm.trans found
    rw [Option.some.inj same]
    exact rfl
  · intro later
    apply (pending_take inv taken other (Or.inr (Nat.ne_of_gt later))).mpr
    rcases latest with all | ⟨written, row, held, source, order⟩
    · exact all other save found
    · apply (order other save found).mpr
      have waiting : Pending d.queues number := ⟨thread, _, first, rfl⟩
      exact Nat.lt_trans ((order number saved (inv.genuine thread _ first)).mp waiting) later

theorem latest_execute {players : Table} {d : DbMgr} {rest : Queues Nat Message} {thread : Nat}
    {head : Nat × Message} (inv : Inv players d) (taken : take d.queues thread = some (head, rest))
    (sn : UInt64) (listed : (players sn).isSome) :
    Latest (handle { d with queues := rest } head.1 head.2) sn := by
  obtain ⟨number, message⟩ := head
  obtain ⟨front, -, -⟩ := take_cases taken
  have first : (number, message) ∈ d.queues.waiting thread := front ▸ List.mem_cons_self
  have itself := inv.genuine thread _ first
  have latest := inv.latest sn listed
  -- another player's row and its SavePlayers are untouched
  have untouched : (∀ saved, message ≠ .savePlayer sn saved) →
      ∀ table : Table, table sn = d.table sn →
      Latest { d with queues := rest, table := table } sn := by
    intro foreign table same
    have waits : ∀ other save, d.dispatched[other]? = some (.savePlayer sn save) →
        (Pending rest other ↔ Pending d.queues other) := by
      intro other save found
      apply pending_take inv taken other (Or.inl _)
      rw [found]
      intro clash
      exact foreign save (Option.some.inj clash).symm
    rcases latest with all | ⟨written, row, held, source, order⟩
    · left
      intro other save found
      exact (waits other save found).mpr (all other save found)
    · right
      refine ⟨written, row, same.trans held, source, ?_⟩
      intro other save found
      exact (waits other save found).trans (order other save found)
  cases message with
  | savePlayer target saved =>
      by_cases own : target = sn
      · subst own
        right
        obtain ⟨row, held⟩ := Option.isSome_iff_exists.mp ((inv.rows target).trans listed)
        have waiting := pending_after inv taken latest
        refine ⟨number, { row with saved := saved }, ?_, itself, waiting⟩
        simp [handle, onSavePlayer, held]
      · apply untouched
        · intro save clash
          cases clash
          exact own rfl
        · exact if_neg (Ne.symm own)
  | queryPlayer target => exact untouched (by simp) d.table rfl
  | cmdThread => exact untouched (by simp) d.table rfl
  | other => exact untouched (by simp) d.table rfl

theorem query_answered {players : Table} {d : DbMgr} {rest : Queues Nat Message} {thread : Nat}
    {number : Nat} {sn : UInt64} (inv : Inv players d)
    (taken : take d.queues thread = some ((number, .queryPlayer sn), rest))
    (listed : (players sn).isSome) : Answered d.dispatched sn number (d.table sn) := by
  obtain ⟨row, held⟩ := Option.isSome_iff_exists.mp ((inv.rows sn).trans listed)
  refine ⟨row, held, ?_⟩
  intro save saved before found
  have done : ¬Pending d.queues save := by
    intro pending
    obtain ⟨place, x, member, rfl⟩ := (pending_take inv taken save (Or.inr (by omega))).mpr pending
    have same := (inv.genuine place x (take_mem taken member)).symm.trans found
    have clash : conflicts x.2 (.queryPlayer sn) := by
      rw [Option.some.inj same]
      exact rfl
    have after := head_first taken inv.ordered member clash
    omega
  rcases inv.latest sn listed with all | ⟨written, stored, stands, source, order⟩
  · exact absurd (all save saved found) done
  · cases held.symm.trans stands
    have notAfter : ¬written < save := fun later => done ((order save saved found).mpr later)
    exact ⟨written, by omega, source⟩

theorem execute_inv {players : Table} {d after : DbMgr} {thread : Nat} (inv : Inv players d)
    (executed : execute d thread = some after) : Inv players after := by
  obtain ⟨⟨head, rest⟩, taken, rfl⟩ := Option.map_eq_some_iff.mp executed
  obtain ⟨queues, dispatched⟩ := handle_fields { d with queues := rest } head.1 head.2
  obtain ⟨front, -, count⟩ := take_cases taken
  have first : head ∈ d.queues.waiting thread := front ▸ List.mem_cons_self
  have itself := inv.genuine thread head first
  have small := found_lt itself
  constructor
  · rw [queues]
    exact take_ordered taken inv.ordered
  · rw [queues, dispatched]
    exact count.trans inv.counted
  · intro place x member
    rw [queues] at member
    rw [dispatched]
    exact inv.genuine place x (take_mem taken member)
  · intro sn
    obtain ⟨number, message⟩ := head
    cases message with
    | savePlayer target saved =>
        exact (on_save_player_some d.table target sn saved).trans (inv.rows sn)
    | queryPlayer target => exact inv.rows sn
    | cmdThread => exact inv.rows sn
    | other => exact inv.rows sn
  · intro sn listed
    exact latest_execute inv taken sn listed
  · intro number result member
    rw [dispatched]
    obtain ⟨order, message⟩ := head
    cases message with
    | queryPlayer target =>
        rcases List.mem_append.mp member with old | new
        · exact inv.numbers number result old
        · cases List.mem_singleton.mp new
          exact small
    | savePlayer target saved => exact inv.numbers number result member
    | cmdThread => exact inv.numbers number result member
    | other => exact inv.numbers number result member
  · intro number result member sn listed query
    rw [dispatched] at query ⊢
    obtain ⟨order, message⟩ := head
    cases message with
    | queryPlayer target =>
        rcases List.mem_append.mp member with old | new
        · exact inv.answers number result old sn listed query
        · cases List.mem_singleton.mp new
          cases itself.symm.trans query
          have answered := query_answered inv taken listed
          exact answered
    | savePlayer target saved => exact inv.answers number result member sn listed query
    | cmdThread => exact inv.answers number result member sn listed query
    | other => exact inv.answers number result member sn listed query

theorem step_inv {players : Table} {before after : DbMgr} {event : Event}
    (inv : Inv players before) (taken : Guarded Step InTurn before event after) :
    Inv players after := by
  obtain ⟨taken, turn⟩ := taken
  cases taken with
  | dispatch message => exact dispatch_inv inv message turn
  | execute thread _ executed => exact execute_inv inv executed

/-- Where messages of a player are dispatched only to the thread that holds the
SavePlayers of the player that wait, the table is consistent in every state of
the run, whatever the schedule. -/
theorem dispatched_in_turn_consistent (threads : List Nat) (players : Table)
    {trace : List Event} {d : DbMgr}
    (run : Run (Guarded Step InTurn) (start threads players) trace d) :
    Run (Along Step (Consistent players)) (start threads players) trace d :=
  along_of_guarded (Inv players) (fun _ _ _ inv taken => step_inv inv taken)
    (fun _ inv => consistent_of_inv inv) run (start_inv threads players)

/-! ### One thread -/

structure OneThread (sn : Nat) (d : DbMgr) : Prop where
  threads : d.threads = [sn]
  only : ∀ thread, ∀ x ∈ d.queues.waiting thread, thread = sn

theorem one_thread_chosen {sn : Nat} {d : DbMgr} (alone : OneThread sn d) : chosen d = sn := by
  unfold chosen
  rw [alone.threads]
  split
  · rename_i listed
    exact List.mem_singleton.mp listed
  · rfl

theorem one_thread_step {sn : Nat} {before after : DbMgr} {event : Event}
    (alone : OneThread sn before) (taken : Step before event after) :
    InTurn before event ∧ OneThread sn after := by
  have first := one_thread_chosen alone
  cases taken with
  | dispatch message =>
      refine ⟨fun thread x member _ => (alone.only thread x member).trans first.symm, ?_, ?_⟩
      · cases message <;> exact alone.threads
      · intro thread x member
        rw [(handler_message_fields before message).1] at member
        rcases mem_post member with old | ⟨_, listed⟩
        · exact alone.only thread x old
        · unfold targets at listed
          rw [alone.threads, first] at listed
          split at listed <;> exact List.mem_singleton.mp listed
  | execute thread _ executed =>
      obtain ⟨⟨head, rest⟩, served, rfl⟩ := Option.map_eq_some_iff.mp executed
      refine ⟨trivial, ?_, ?_⟩
      · obtain ⟨number, message⟩ := head
        cases message <;> exact alone.threads
      · intro place x member
        rw [(handle_fields _ head.1 head.2).1] at member
        exact alone.only place x (take_mem served member)

theorem one_thread_in_turn {sn : Nat} {trace : List Event} {before after : DbMgr}
    (run : Run Step before trace after) (alone : OneThread sn before) :
    Run (Guarded Step InTurn) before trace after := by
  induction run with
  | refl => exact Run.refl _
  | next taken _ ih =>
      obtain ⟨turn, still⟩ := one_thread_step alone taken
      exact Run.next ⟨taken, turn⟩ (ih still)

/-! One player and two threads. -/

def onePlayer : Table := fun sn => if sn = 7 then some ⟨[97], [98], ⟨[], []⟩⟩ else none

/-- The second SavePlayer is dispatched when the first one is executed, the
query when the second one waits in the list it goes to. -/
theorem dispatched_in_turn_consistent_two :
    ∃ d, Run (Along Step (Consistent onePlayer)) (start [1, 2] onePlayer)
      [.dispatch (.savePlayer 7 ⟨[1], []⟩), .execute 1, .dispatch (.savePlayer 7 ⟨[2], []⟩),
        .dispatch .other, .dispatch (.queryPlayer 7), .execute 2, .execute 2] d ∧
      d.answers = [(3, some ⟨[97], [98], ⟨[2], []⟩⟩)] := by
  have idle : ∀ message, InTurn (start [1, 2] onePlayer) (.dispatch message) := by
    intro message thread x member
    cases member
  refine ⟨_, dispatched_in_turn_consistent [1, 2] onePlayer
    (.next ⟨.dispatch _ _, idle _⟩ (.next ⟨.execute _ 1 _ rfl, trivial⟩
    (.next ⟨.dispatch _ _, ?_⟩ (.next ⟨.dispatch _ _, ?_⟩ (.next ⟨.dispatch _ _, ?_⟩
    (.next ⟨.execute _ 2 _ rfl, trivial⟩ (.next ⟨.execute _ 2 _ rfl, trivial⟩ (.refl _)))))))), rfl⟩
  · intro thread x member
    by_cases first : thread = 1
    · subst first
      cases member
    · simp [handle, handlerMessage, post, chosen, start, ParallelQueues.empty, first] at member
  · intro thread x member clash
    obtain ⟨sn, saved, -, ⟨other, same⟩ | same⟩ := (conflicts_iff _ _).mp clash
    · cases same
    · cases same
  · intro thread x member clash
    rcases mem_post member with old | ⟨rfl, _⟩
    · rcases mem_post old with older | ⟨rfl, listed⟩
      · by_cases first : thread = 1
        · subst first
          cases older
        · simp [handle, handlerMessage, post, chosen, start, ParallelQueues.empty, first] at older
      · exact List.mem_singleton.mp listed
    · cases clash

/-- Two SavePlayers of one player, executed by two threads in the other order. -/
theorem second_save_overtakes :
    ∃ d, Run Step (start [1, 2] onePlayer)
      [.dispatch (.savePlayer 7 ⟨[1], []⟩), .dispatch (.savePlayer 7 ⟨[2], []⟩), .execute 2,
        .execute 1] d ∧ ¬Consistent onePlayer d := by
  refine ⟨_, .next (.dispatch _ _) (.next (.dispatch _ _) (.next (.execute _ 2 _ rfl)
    (.next (.execute _ 1 _ rfl) (.refl _)))), ?_⟩
  intro consistent
  refine absurd (consistent.rows 7 rfl ?idle 1 ⟨[2], []⟩ ⟨rfl, ?newest⟩) ?stale
  case idle =>
    intro thread x member
    by_cases first : thread = 1
    · subst first
      cases member
    · by_cases second : thread = 2
      · subst second
        cases member
      · simp [handle, handlerMessage, post, chosen, start, ParallelQueues.empty, following, first,
          second] at member
  case newest =>
    intro later other after found
    have small := found_lt found
    simp [handle, handlerMessage, start] at small
    omega
  case stale =>
    rintro ⟨row, held, last⟩
    cases held
    cases last

end GameBook.MysqlThreads
