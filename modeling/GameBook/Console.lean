import GameBook.CString
import GameBook.LabelledRun
import GameBook.Mongoose
import GameBook.OrderedMap
import GameBook.Segments

/-!
The console of a server. A thread of its own reads lines from `std::cin` and
queues them, `Update` of the main thread takes one at a time and finds its
handler. `getline` gives up for good at a line that its buffer cannot hold.
-/

namespace GameBook.Console

open LabelledRun OrderedMap Segments
open CString (Bytes cStr)
open Mongoose (ascii)

def consoleMaxBuffer : Nat := 512

def newline : UInt8 := 10

def space : UInt8 := 32

/-- `std::cin`: what has been typed and not read, whether its end has been
typed, and the flags of the stream. -/
structure Cin where
  rest : Bytes
  closed : Bool
  eof : Bool
  fail : Bool
  deriving DecidableEq, Repr

/-- `getline(_buffer, ConsoleMaxBuffer)`; `none` while it waits for more. -/
def getline (cin : Cin) : Option (Bytes × Cin) :=
  if cin.eof ∨ cin.fail then some ([], { cin with fail := true })
  else
    let line := (cin.rest.take (consoleMaxBuffer - 1)).takeWhile (· ≠ newline)
    match cin.rest.drop line.length with
    | c :: after =>
        if c = newline then some (line, { cin with rest := after })
        else some (line, { cin with rest := c :: after, fail := true })
    | [] => if cin.closed then some (line, { cin with rest := [], eof := true, fail := line.isEmpty }) else none

/-! ### The commands -/

variable {Handler : Type}

inductive Outcome (Handler : Type) where
  | nothing
  | help
  | inputError (cmd : Bytes)
  | handleHelp (key : Bytes)
  | cmdError (key : Bytes)
  | call (handler : Handler) (params : List Bytes)
  deriving DecidableEq, Repr

/-- `ConsoleCmd::Process` of the command that is registered as `name`. -/
def process (handles : Table Bytes Handler) (name : Bytes) : List Bytes → Outcome Handler
  | [] => .nothing
  | key :: params =>
      match handles[key]? with
      | some handler => .call handler params
      | none => if key = ascii "-help" then .handleHelp name else .cmdError key

/-- `Console::Update` at a command it has taken. -/
def dispatch (handles : Table Bytes (Table Bytes Handler)) (cmd : Bytes) : Outcome Handler :=
  match segments space cmd with
  | [] => .nothing
  | name :: params =>
      match handles[name]? with
      | some command => process command name params
      | none => if name = ascii "help" then .help else .inputError cmd

/-! ### The two threads -/

/-- `typed` is all that has ever been typed, `taken` what `Update` has taken. -/
structure State (Handler : Type) where
  cin : Cin
  isRun : Bool
  isStop : Bool
  commands : List Bytes
  typed : Bytes
  taken : List Bytes
  outcomes : List (Outcome Handler)

def start : State Handler := ⟨⟨[], false, false, false⟩, true, false, [], [], [], []⟩

inductive Label where
  | type (c : UInt8)
  | close
  | read
  | update
  deriving DecidableEq, Repr

/-- The reader pushes what it has read, and stops at `-exit` anywhere in it. -/
def push (s : State Handler) (command : Bytes) (cin : Cin) : State Handler :=
  let exits := ascii "-exit" <:+: command
  { s with
    cin := cin
    commands := s.commands ++ [command]
    isStop := s.isStop || decide exits
    isRun := s.isRun && !decide exits }

def step (handles : Table Bytes (Table Bytes Handler)) (before : State Handler) (label : Label)
    (after : State Handler) : Prop :=
  match label with
  | .type c => before.cin.closed = false ∧
      after = { before with cin := { before.cin with rest := before.cin.rest ++ [c] }, typed := before.typed ++ [c] }
  | .close => after = { before with cin := { before.cin with closed := true } }
  | .read => before.isRun = true ∧ ∃ line cin, getline before.cin = some (line, cin) ∧ after = push before (cStr line) cin
  | .update =>
      match before.commands with
      | [] => after = before
      | command :: rest => after = { before with
          commands := rest, taken := before.taken ++ [command],
          outcomes := before.outcomes ++ [dispatch handles command] }

/-! ### What `getline` reads -/

def broken (cin : Cin) : Prop := cin.eof = true ∨ cin.fail = true

def Whole (line : Bytes) : Prop := newline ∉ line ∧ line.length < consoleMaxBuffer

def text (lines : List Bytes) : Bytes := lines.flatMap fun line => line ++ [newline]

/-- The beginning of a line at which the reader gives up: as much as the buffer
holds of a line that is longer, or what stands before the end of the input. -/
def Last (last : Bytes) (cin : Cin) : Prop :=
  newline ∉ last ∧ (last.length = consoleMaxBuffer - 1 ∧ (∀ c, cin.rest.head? = some c → c ≠ newline) ∧
    cin.rest ≠ [] ∨ cin.closed = true ∧ cin.rest = [] ∧ last.length < consoleMaxBuffer)

theorem front_of_line (rest : Bytes) :
    ∃ line, (rest.take (consoleMaxBuffer - 1)).takeWhile (· ≠ newline) = line ∧ newline ∉ line ∧
      line.length < consoleMaxBuffer ∧ rest = line ++ rest.drop line.length ∧
      ∀ c after, rest.drop line.length = c :: after → c ≠ newline → line.length = consoleMaxBuffer - 1 := by
  have parts := List.takeWhile_append_dropWhile (p := (· ≠ newline)) (l := rest.take (consoleMaxBuffer - 1))
  obtain ⟨line, same⟩ : ∃ line, (rest.take (consoleMaxBuffer - 1)).takeWhile (· ≠ newline) = line := ⟨_, rfl⟩
  have within : line <+: rest := by
    rw [← same]
    exact (List.takeWhile_prefix _).trans (List.take_prefix _ _)
  obtain ⟨behind, whole⟩ := within
  have dropped : rest.drop line.length = behind := by rw [← whole, List.drop_left]
  have short : line.length ≤ consoleMaxBuffer - 1 := by
    rw [← same]
    exact (List.takeWhile_prefix _).length_le.trans (List.length_take_le _ _)
  refine ⟨line, same, ?_, Nat.lt_of_le_of_lt short (by decide), by rw [dropped]; exact whole.symm, ?_⟩
  · rw [← same]
    intro member
    simpa using List.mem_takeWhile_imp member
  · intro c after next other
    rw [same] at parts
    -- a shorter line ends where the newline stands
    cases left : (rest.take (consoleMaxBuffer - 1)).dropWhile (· ≠ newline) with
    | nil =>
        rw [left, List.append_nil] at parts
        have size := congrArg List.length parts
        have more := congrArg List.length whole
        rw [dropped] at next
        rw [next, List.length_append, List.length_cons] at more
        rw [List.length_take] at size
        omega
    | cons d ds =>
        have stops := List.head_dropWhile_not (· ≠ newline) (l := rest.take (consoleMaxBuffer - 1))
          (by rw [left]; exact List.cons_ne_nil _ _)
        simp only [left, List.head_cons] at stops
        have front : line ++ (d :: ds ++ rest.drop (consoleMaxBuffer - 1)) = line ++ behind := by
          rw [whole, ← List.append_assoc, ← left, parts, List.take_append_drop]
        have begins := List.append_cancel_left front
        rw [dropped] at next
        rw [next] at begins
        cases begins
        simp at stops
        exact absurd stops other

theorem getline_cases {cin after : Cin} {line : Bytes} (read : getline cin = some (line, after)) :
    (broken cin ∧ line = [] ∧ broken after ∧ after.rest = cin.rest ∧ after.closed = cin.closed) ∨
    (¬ broken cin ∧ Whole line ∧ cin.rest = line ++ newline :: after.rest ∧ ¬ broken after) ∨
    (¬ broken cin ∧ cin.rest = line ++ after.rest ∧ broken after ∧ Last line after) := by
  unfold getline at read
  by_cases stuck : cin.eof = true ∨ cin.fail = true
  · rw [if_pos stuck] at read
    cases read
    exact .inl ⟨stuck, rfl, .inr rfl, rfl, rfl⟩
  · rw [if_neg stuck] at read
    obtain ⟨found, same, clean, short, whole, full⟩ := front_of_line cin.rest
    simp only [same] at read
    cases next : cin.rest.drop found.length with
    | cons c behind =>
        rw [next] at read whole
        dsimp only at read
        -- the character behind what was found ends the line, or the buffer was full before it
        by_cases ends : c = newline
        · rw [if_pos ends] at read
          cases read
          exact .inr (.inl ⟨stuck, ⟨clean, short⟩, by rw [← ends]; exact whole, stuck⟩)
        · rw [if_neg ends] at read
          cases read
          refine .inr (.inr ⟨stuck, whole, .inr rfl, clean, .inl ⟨full c behind next ends, ?_, List.cons_ne_nil _ _⟩⟩)
          intro other head
          cases head
          exact ends
    | nil =>
        rw [next] at read whole
        dsimp only at read
        split at read
        · rename_i closed
          cases read
          exact .inr (.inr ⟨stuck, whole, .inl rfl, clean, .inr ⟨closed, rfl, short⟩⟩)
        · cases read

/-! ### What is run -/

def Reads (s : State Handler) : Prop :=
  ∃ lines, (∀ line ∈ lines, Whole line) ∧
    (¬ broken s.cin ∧ s.typed = text lines ++ s.cin.rest ∧ s.taken ++ s.commands = lines.map cStr ∨
      broken s.cin ∧ ∃ last count, Last last s.cin ∧ s.typed = text lines ++ last ++ s.cin.rest ∧
        s.taken ++ s.commands = lines.map cStr ++ cStr last :: List.replicate count [])

structure Inv (handles : Table Bytes (Table Bytes Handler)) (s : State Handler) : Prop where
  reads : Reads s
  outcomes : s.outcomes = s.taken.map (dispatch handles)
  isStop : s.isStop = true ↔ ∃ command ∈ s.taken ++ s.commands, ascii "-exit" <:+: command
  isRun : s.isRun = !s.isStop

theorem last_typed {last : Bytes} {cin : Cin} (held : Last last cin) (c : UInt8) (opened : cin.closed = false) :
    Last last { cin with rest := cin.rest ++ [c] } := by
  obtain ⟨clean, ⟨long, other, filled⟩ | ⟨closed, _, _⟩⟩ := held
  · obtain ⟨first, rest, begins⟩ := List.exists_cons_of_ne_nil filled
    refine ⟨clean, .inl ⟨long, ?_, by simp⟩⟩
    intro head here
    apply other
    rw [begins] at here ⊢
    exact here
  · rw [opened] at closed
    cases closed

theorem last_closed {last : Bytes} {cin : Cin} (held : Last last cin) : Last last { cin with closed := true } := by
  obtain ⟨clean, long | ⟨_, none, short⟩⟩ := held
  · exact ⟨clean, .inl long⟩
  · exact ⟨clean, .inr ⟨rfl, none, short⟩⟩

theorem reads_push {s : State Handler} {line : Bytes} {cin : Cin} (reads : Reads s)
    (read : getline s.cin = some (line, cin)) : Reads (push s (cStr line) cin) := by
  obtain ⟨lines, whole, state⟩ := reads
  have pushed : (push s (cStr line) cin).taken ++ (push s (cStr line) cin).commands =
      s.taken ++ s.commands ++ [cStr line] := (List.append_assoc _ _ _).symm
  rcases getline_cases read with ⟨stuck, rfl, still, rest, closed⟩ | ⟨free, held, cut, further⟩ |
      ⟨free, cut, gives, last⟩
  -- a broken stream gives an empty line each time
  · obtain ⟨free, _⟩ | ⟨_, last, count, held, typed, run⟩ := state
    · exact absurd stuck free
    · refine ⟨lines, whole, .inr ⟨still, last, count + 1, ?_, ?_, ?_⟩⟩
      · show Last last cin
        unfold Last
        rw [rest, closed]
        exact held
      · show s.typed = text lines ++ last ++ cin.rest
        rw [rest]
        exact typed
      · rw [pushed, run, List.replicate_succ', List.append_assoc, List.cons_append]
        rfl
  · obtain ⟨_, typed, run⟩ | ⟨stuck, _⟩ := state
    · refine ⟨lines ++ [line], ?_, .inl ⟨further, ?_, ?_⟩⟩
      · intro other member
        rcases List.mem_append.mp member with old | new
        · exact whole other old
        · rw [List.mem_singleton.mp new]
          exact held
      · show s.typed = text (lines ++ [line]) ++ cin.rest
        rw [typed, cut, text, text, List.flatMap_append]
        simp
      · rw [pushed, run, List.map_append]
        rfl
    · exact absurd stuck free
  · obtain ⟨_, typed, run⟩ | ⟨stuck, _⟩ := state
    · refine ⟨lines, whole, .inr ⟨gives, line, 0, last, ?_, ?_⟩⟩
      · show s.typed = text lines ++ line ++ cin.rest
        rw [typed, cut, List.append_assoc]
      · rw [pushed, run]
        rfl
    · exact absurd stuck free

theorem inv_step {handles : Table Bytes (Table Bytes Handler)} {before after : State Handler} {label : Label}
    (inv : Inv handles before) (taken : step handles before label after) : Inv handles after := by
  cases label with
  | type c =>
      obtain ⟨opened, rfl⟩ := taken
      refine ⟨?_, inv.outcomes, inv.isStop, inv.isRun⟩
      obtain ⟨lines, whole, ⟨free, typed, run⟩ | ⟨stuck, last, count, held, typed, run⟩⟩ := inv.reads
      · refine ⟨lines, whole, .inl ⟨free, ?_, run⟩⟩
        show before.typed ++ [c] = text lines ++ (before.cin.rest ++ [c])
        rw [typed, List.append_assoc]
      · refine ⟨lines, whole, .inr ⟨stuck, last, count, last_typed held c opened, ?_, run⟩⟩
        show before.typed ++ [c] = text lines ++ last ++ (before.cin.rest ++ [c])
        rw [typed, List.append_assoc]
  | close =>
      obtain rfl : after = _ := taken
      refine ⟨?_, inv.outcomes, inv.isStop, inv.isRun⟩
      obtain ⟨lines, whole, ⟨free, typed, run⟩ | ⟨stuck, last, count, held, typed, run⟩⟩ := inv.reads
      · exact ⟨lines, whole, .inl ⟨free, typed, run⟩⟩
      · exact ⟨lines, whole, .inr ⟨stuck, last, count, last_closed held, typed, run⟩⟩
  | read =>
      obtain ⟨_, line, cin, read, rfl⟩ := taken
      refine ⟨reads_push inv.reads read, inv.outcomes, ?_, ?_⟩
      · show (before.isStop || decide (ascii "-exit" <:+: cStr line)) = true ↔
          ∃ command ∈ before.taken ++ (before.commands ++ [cStr line]), ascii "-exit" <:+: command
        rw [Bool.or_eq_true, decide_eq_true_iff, inv.isStop, ← List.append_assoc]
        simp only [List.mem_append, List.mem_singleton, or_and_right, exists_or, exists_eq_left]
      · show (before.isRun && !decide (ascii "-exit" <:+: cStr line)) =
          !(before.isStop || decide (ascii "-exit" <:+: cStr line))
        rw [inv.isRun, Bool.not_or]
  | update =>
      cases queue : before.commands with
      | nil =>
          simp only [step, queue] at taken
          rw [taken]
          exact inv
      | cons command rest =>
          simp only [step, queue] at taken
          subst taken
          -- what is run moves from the commands that wait to those taken
          have same : before.taken ++ [command] ++ rest = before.taken ++ before.commands := by
            rw [queue, List.append_assoc]
            rfl
          refine ⟨?_, ?_, ?_, inv.isRun⟩
          · obtain ⟨lines, whole, state⟩ := inv.reads
            refine ⟨lines, whole, ?_⟩
            show ¬ broken before.cin ∧ _ ∧ before.taken ++ [command] ++ rest = _ ∨
              broken before.cin ∧ ∃ last count, _ ∧ _ ∧ before.taken ++ [command] ++ rest = _
            rw [same]
            exact state
          · show before.outcomes ++ [dispatch handles command] = (before.taken ++ [command]).map (dispatch handles)
            rw [inv.outcomes, List.map_append]
            rfl
          · show before.isStop = true ↔ ∃ other ∈ before.taken ++ [command] ++ rest, ascii "-exit" <:+: other
            rw [same]
            exact inv.isStop

/-- In every run the commands that have been run, and behind them those that wait,
are the lines that were typed, in their order and each once, up to a line that
the buffer cannot hold or the end of the input. Of that line its beginning is a
command; from there on there are empty commands only, whatever is typed. The
server stops exactly when `-exit` stands anywhere in a command. -/
theorem commands_are_lines {handles : Table Bytes (Table Bytes Handler)} {labels : List Label} {s : State Handler}
    (run : Run (step handles) start labels s) :
    s.outcomes = s.taken.map (dispatch handles) ∧
    (s.isStop = true ↔ ∃ command ∈ s.taken ++ s.commands, ascii "-exit" <:+: command) ∧
    ∃ lines, (∀ line ∈ lines, Whole line) ∧
      (¬ broken s.cin ∧ s.typed = text lines ++ s.cin.rest ∧ s.taken ++ s.commands = lines.map cStr ∨
        broken s.cin ∧ ∃ last count, Last last s.cin ∧ s.typed = text lines ++ last ++ s.cin.rest ∧
          s.taken ++ s.commands = lines.map cStr ++ cStr last :: List.replicate count []) := by
  have begun : Inv handles start := by
    refine ⟨⟨[], by simp, .inl ⟨by simp [broken, start], rfl, rfl⟩⟩, rfl, ?_, rfl⟩
    simp [start]
  have inv := run_invariant (Inv handles) (fun _ _ _ holds taken => inv_step holds taken) run begun
  exact ⟨inv.outcomes, inv.isStop, inv.reads⟩

def threadHandles : Table Bytes (Table Bytes Unit) :=
  (∅ : Table Bytes (Table Bytes Unit)).insert (ascii "thread") ((∅ : Table Bytes Unit).insert (ascii "-entity") ())

def entityLine : Bytes := ascii "thread -entity"

def typedLines : Bytes := text [entityLine, ascii "-exit"]

/-- Two lines are typed and read, one of the commands is run. -/
def entityLabels : List Label := typedLines.map .type ++ [.read, .read, .update]

theorem type_run (handles : Table Bytes (Table Bytes Handler)) (line : Bytes) {s : State Handler}
    (opened : s.cin.closed = false) :
    Run (step handles) s (line.map .type) { s with
      cin := { s.cin with rest := s.cin.rest ++ line }, typed := s.typed ++ line } := by
  induction line generalizing s with
  | nil =>
      rw [List.append_nil, List.append_nil]
      exact .refl _
  | cons c rest ih =>
      have later := ih (s := { s with
        cin := { s.cin with rest := s.cin.rest ++ [c] }, typed := s.typed ++ [c] }) opened
      rw [List.append_assoc, List.append_assoc] at later
      exact .next ⟨opened, rfl⟩ later

def allTyped : State Unit := ⟨⟨typedLines, false, false, false⟩, true, false, [], typedLines, [], []⟩

theorem entity_run : ∃ s : State Unit, Run (step threadHandles) start entityLabels s ∧ s.taken = [entityLine] ∧
    s.commands = [ascii "-exit"] := by
  have typed : Run (step threadHandles) start (typedLines.map .type) allTyped :=
    type_run threadHandles typedLines rfl
  have first : getline allTyped.cin = some (entityLine, ⟨text [ascii "-exit"], false, false, false⟩) := by decide
  have second : getline ⟨text [ascii "-exit"], false, false, false⟩ =
      some (ascii "-exit", ⟨[], false, false, false⟩) := by decide
  refine ⟨_, run_append typed (.next ⟨rfl, _, _, first, rfl⟩
    (.next ⟨by decide, _, _, second, rfl⟩ (.next rfl (.refl _)))), by decide, by decide⟩

theorem commands_are_lines_entity : ∃ s : State Unit, Run (step threadHandles) start entityLabels s ∧
    s.outcomes = [.call () []] ∧ s.isStop = true := by
  obtain ⟨s, run, taken, waits⟩ := entity_run
  obtain ⟨outcomes, stops, -⟩ := commands_are_lines run
  refine ⟨s, run, ?_, ?_⟩
  · rw [outcomes, taken]
    decide
  · rw [stops, taken, waits]
    exact ⟨ascii "-exit", List.mem_append_right _ List.mem_cons_self, List.infix_rfl⟩

end GameBook.Console
