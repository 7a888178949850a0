import GameBook.Mongoose
import GameBook.StringSplit

/-!
`ResourceBase::ParserLine` on the lines of the resource tables. A line is
trimmed first; then each turn of the loop takes one field off its front, with
the end of the field found as an int: zero and `npos` both mean that what is
left is the last field.
-/

namespace GameBook.ParserLine

open WhileLoop
open Mongoose (Bytes isSpace)
open Segments (r_drop_while_append r_drop_while_clean)
open StringSplit (find find_absent find_separator)

def quote : UInt8 := 34

def comma : UInt8 := 44

def trim (s : Bytes) : Bytes := (s.dropWhile isSpace).rdropWhile isSpace

/-- What `find` returns, as an int: `npos` is -1. -/
def toInt : Option Nat → Int
  | none => -1
  | some position => Int.bmod position 4294967296

theorem to_int_none : toInt none = -1 := rfl

theorem to_int_some (position : Nat) : toInt (some position) = Int.bmod position 4294967296 := rfl

/-- The second argument of `erase(0, index + 1)`; the sum is an int. -/
def eraseCount (index : Int) : Nat := (UInt64.ofInt (Int.bmod (index + 1) 4294967296)).toNat

structure State where
  line : Bytes
  propertyList : List Bytes

def takeField (line : Bytes) (stop : UInt8) (propertyList : List Bytes) :
    State ⊕ Option (List Bytes) :=
  let index := toInt (find line stop 0)
  if 0 < index then
    let left := line.drop (eraseCount index)
    if left = [] then .inr (some (propertyList ++ [line.take index.toNat]))
    else .inl ⟨left, propertyList ++ [line.take index.toNat]⟩
  else .inr (some (propertyList ++ [line]))

/-- One turn of the loop. `line.at(0)` throws on an empty line, which is the
result `none`. -/
def parserTurn (state : State) : State ⊕ Option (List Bytes) :=
  match state.line with
  | [] => .inr none
  | first :: rest =>
      if first = quote then takeField rest quote state.propertyList
      else takeField state.line comma state.propertyList

def parserLine (line : Bytes) (fuel : Nat) : Option (Option (List Bytes)) :=
  loop parserTurn fuel ⟨trim line, []⟩

/-- `ParserLine` ends with the list, or with the exception. -/
def Parses (line : Bytes) (result : Option (List Bytes)) : Prop :=
  ∃ fuel, parserLine line fuel = some result

theorem parses_unique {line : Bytes} {first second : Option (List Bytes)}
    (one : Parses line first) (other : Parses line second) : first = second :=
  @ends_unique _ _ parserTurn _ _ _ one other

/-! ### Lines as they are written -/

/-- A field with a comma is quoted. -/
def written (field : Bytes) : Bytes := if comma ∈ field then quote :: field ++ [quote] else field

def csvLine (fields : List Bytes) : Bytes := [comma].intercalate (fields.map written)

@[simp] theorem csv_line_one (field : Bytes) : csvLine [field] = written field :=
  List.intercalate_singleton

theorem csv_line_cons (field second : Bytes) (rest : List Bytes) :
    csvLine (field :: second :: rest) = written field ++ comma :: csvLine (second :: rest) := by
  simp only [csvLine, List.map_cons, List.intercalate_cons_cons, List.append_assoc,
    List.singleton_append]

theorem written_plain {field : Bytes} (plain : comma ∉ field) : written field = field :=
  if_neg plain

theorem written_quoted {field : Bytes} (quoted : comma ∈ field) :
    written field = quote :: field ++ [quote] := if_pos quoted

theorem written_length (field : Bytes) : field.length ≤ (written field).length := by
  unfold written
  split
  · simp only [List.cons_append, List.length_cons, List.length_append]
    omega
  · exact Nat.le_refl _

def trimFirst : List Bytes → List Bytes
  | [] => []
  | field :: rest => (if comma ∈ field then field else field.dropWhile isSpace) :: rest

def trimLast : List Bytes → List Bytes
  | [] => []
  | [field] => [if comma ∈ field then field else field.rdropWhile isSpace]
  | field :: rest => field :: trimLast rest

theorem trim_last_cons (field second : Bytes) (rest : List Bytes) :
    trimLast (field :: second :: rest) = field :: trimLast (second :: rest) := rfl

def trimEnds (fields : List Bytes) : List Bytes := trimLast (trimFirst fields)

theorem drop_while_keeps_comma {field : Bytes} (plain : comma ∉ field) :
    comma ∉ field.dropWhile isSpace :=
  fun member => plain ((List.dropWhile_sublist _).mem member)

theorem r_drop_while_keeps_comma {field : Bytes} (plain : comma ∉ field) :
    comma ∉ field.rdropWhile isSpace :=
  fun member => plain ((List.rdropWhile_prefix _ field).sublist.mem member)

theorem drop_while_written (field rest : Bytes) :
    (written field ++ comma :: rest).dropWhile isSpace =
      (written field).dropWhile isSpace ++ comma :: rest := by
  rw [List.dropWhile_append]
  split
  · rename_i empty
    rw [List.isEmpty_iff.mp empty, List.nil_append, List.dropWhile_cons_of_neg (by decide)]
  · rfl

theorem trim_first_written (field : Bytes) :
    (written field).dropWhile isSpace =
      written (if comma ∈ field then field else field.dropWhile isSpace) := by
  by_cases quoted : comma ∈ field
  · rw [if_pos quoted, written_quoted quoted, List.cons_append,
      List.dropWhile_cons_of_neg (by decide)]
  · rw [if_neg quoted, written_plain quoted, written_plain (drop_while_keeps_comma quoted)]

theorem drop_while_csv_line (fields : List Bytes) :
    (csvLine fields).dropWhile isSpace = csvLine (trimFirst fields) := by
  cases fields with
  | nil => rfl
  | cons field rest =>
      cases rest with
      | nil => rw [trimFirst, csv_line_one, csv_line_one, trim_first_written]
      | cons second rest =>
          rw [trimFirst, csv_line_cons, csv_line_cons, drop_while_written, trim_first_written]

theorem trim_last_written (field : Bytes) :
    (written field).rdropWhile isSpace =
      written (if comma ∈ field then field else field.rdropWhile isSpace) := by
  by_cases quoted : comma ∈ field
  · rw [if_pos quoted, written_quoted quoted, List.rdropWhile_concat_neg (h := by decide)]
  · rw [if_neg quoted, written_plain quoted, written_plain (r_drop_while_keeps_comma quoted)]

theorem r_drop_while_solid {character : UInt8} (solid : isSpace character = false)
    (front rest : Bytes) :
    (front ++ character :: rest).rdropWhile isSpace =
      front ++ character :: rest.rdropWhile isSpace := by
  have inner := r_drop_while_append isSpace [character] rest
  have alone : [character].rdropWhile isSpace = [character] := by
    rw [List.rdropWhile_singleton, if_neg (by rw [solid]; exact Bool.false_ne_true)]
  have tail : (character :: rest).rdropWhile isSpace = character :: rest.rdropWhile isSpace := by
    rw [List.singleton_append, alone] at inner
    split at inner
    · rename_i empty
      rw [inner, empty]
    · exact inner
  rw [r_drop_while_append, tail, if_neg (List.cons_ne_nil _ _)]

theorem r_drop_while_csv_line (fields : List Bytes) :
    (csvLine fields).rdropWhile isSpace = csvLine (trimLast fields) := by
  induction fields with
  | nil => rfl
  | cons field rest ih =>
      cases rest with
      | nil => rw [trimLast, csv_line_one, csv_line_one, trim_last_written]
      | cons second rest =>
          have more : ∃ next others, trimLast (second :: rest) = next :: others := by
            cases rest <;> exact ⟨_, _, rfl⟩
          obtain ⟨next, others, cut⟩ := more
          rw [cut] at ih
          rw [csv_line_cons, r_drop_while_solid (by decide), ih, trim_last_cons, cut, csv_line_cons]

theorem trim_csv_line (fields : List Bytes) : trim (csvLine fields) = csvLine (trimEnds fields) := by
  rw [trim, drop_while_csv_line, r_drop_while_csv_line, trimEnds]

/-! ### One turn -/

theorem find_first {stop : UInt8} {piece : Bytes} (absent : stop ∉ piece) (rest : Bytes) :
    find (piece ++ stop :: rest) stop 0 = some piece.length := by
  have found := find_separator [] absent rest
  rw [List.nil_append, List.length_nil, Nat.zero_add] at found
  exact found

theorem find_nothing {stop : UInt8} {piece : Bytes} (absent : stop ∉ piece) :
    find piece stop 0 = none := find_absent [] absent

theorem to_int_short {length : Nat} (short : length < 2147483647) :
    toInt (some length) = length := by
  rw [to_int_some, Int.bmod_def]
  omega

theorem erase_count_short {length : Nat} (short : length < 2147483647) :
    eraseCount length = length + 1 := by
  have exact : Int.bmod ((length : Int) + 1) 4294967296 = ((length + 1 : Nat) : Int) := by
    simp only [Int.bmod_def]
    omega
  rw [eraseCount, exact, UInt64.ofInt, UInt64.toNat_ofNat']
  omega

theorem cut_piece {stop : UInt8} {piece : Bytes} (absent : stop ∉ piece) (solid : piece ≠ [])
    (short : piece.length < 2147483647) (rest : Bytes) :
    0 < toInt (find (piece ++ stop :: rest) stop 0) ∧
      (piece ++ stop :: rest).take (toInt (find (piece ++ stop :: rest) stop 0)).toNat = piece ∧
      (piece ++ stop :: rest).drop (eraseCount (toInt (find (piece ++ stop :: rest) stop 0))) =
        rest := by
  have long := List.length_pos_iff.mpr solid
  rw [find_first absent, to_int_short short, erase_count_short short]
  refine ⟨by omega, ?_, ?_⟩
  · rw [Int.toNat_natCast, List.take_left]
  · rw [← List.drop_drop, List.drop_left, List.drop_one, List.tail_cons]

theorem take_field_piece {stop : UInt8} {piece : Bytes} (absent : stop ∉ piece)
    (solid : piece ≠ []) (short : piece.length < 2147483647) (rest : Bytes) (list : List Bytes) :
    takeField (piece ++ stop :: rest) stop list =
      if rest = [] then .inr (some (list ++ [piece])) else .inl ⟨rest, list ++ [piece]⟩ := by
  obtain ⟨positive, taken, left⟩ := cut_piece absent solid short rest
  simp only [takeField, if_pos positive, taken, left]

theorem turn_other {first : UInt8} {others : Bytes} (begins : first ≠ quote) (list : List Bytes) :
    parserTurn ⟨first :: others, list⟩ = takeField (first :: others) comma list := by
  simp only [parserTurn, if_neg begins]

theorem turn_plain {field : Bytes} (plain : comma ∉ field) (unquoted : quote ∉ field)
    (solid : field ≠ []) (short : field.length < 2147483647) (rest : Bytes) (list : List Bytes) :
    parserTurn ⟨field ++ comma :: rest, list⟩ =
      if rest = [] then .inr (some (list ++ [field])) else .inl ⟨rest, list ++ [field]⟩ := by
  have cut := take_field_piece plain solid short rest list
  cases field with
  | nil => exact absurd rfl solid
  | cons first others =>
      have begins : first ≠ quote := fun same => unquoted (same ▸ List.mem_cons_self)
      rw [← cut, List.cons_append, turn_other begins]

theorem turn_quoted {field : Bytes} (unquoted : quote ∉ field) (solid : field ≠ [])
    (short : field.length < 2147483647) (rest : Bytes) (list : List Bytes) :
    parserTurn ⟨quote :: field ++ quote :: rest, list⟩ =
      if rest = [] then .inr (some (list ++ [field])) else .inl ⟨rest, list ++ [field]⟩ := by
  rw [← take_field_piece unquoted solid short rest list]
  simp only [parserTurn, List.cons_append, if_true]

theorem turn_last {field : Bytes} (plain : comma ∉ field) (unquoted : quote ∉ field)
    (solid : field ≠ []) (list : List Bytes) :
    parserTurn ⟨field, list⟩ = .inr (some (list ++ [field])) := by
  cases field with
  | nil => exact absurd rfl solid
  | cons first others =>
      have begins : first ≠ quote := fun same => unquoted (same ▸ List.mem_cons_self)
      have missing : ¬ (0 : Int) < -1 := by decide
      rw [turn_other begins]
      simp only [takeField, find_nothing plain, to_int_none, if_neg missing]

theorem turn_comma (rest : Bytes) (list : List Bytes) :
    parserTurn ⟨comma :: rest, list⟩ = .inr (some (list ++ [comma :: rest])) := by
  have front : find (comma :: rest) comma 0 = some 0 := @find_first comma [] (by simp) rest
  have missing : ¬ 0 < toInt (some 0) := by decide
  rw [turn_other (by decide)]
  simp only [takeField, front, if_neg missing]

/-- The fields the loop can tell apart: only the last may be quoted. -/
def Good : List Bytes → Prop
  | [] => False
  | [last] => last ≠ []
  | field :: rest => field ≠ [] ∧ comma ∉ field ∧ Good rest

theorem csv_line_nil_iff (fields : List Bytes) : csvLine fields = [] ↔ fields = [] ∨ fields = [[]] := by
  cases fields with
  | nil => simp [csvLine]
  | cons field rest =>
      cases rest with
      | nil =>
          rw [csv_line_one]
          by_cases quoted : comma ∈ field
          · have solid : field ≠ [] := List.ne_nil_of_mem quoted
            simp [written_quoted quoted, solid]
          · simp [written_plain quoted]
      | cons second rest => simp [csv_line_cons]

def Lost (fields read : List Bytes) : Prop :=
  read.length < fields.length ∨
    read.getLast? = fields.getLast?.map fun last => comma :: written last

theorem lost_cons (field : Bytes) {fields read : List Bytes} (nonempty : fields ≠ [])
    (lost : Lost fields read) : Lost (field :: fields) (field :: read) := by
  rcases lost with shorter | last
  · left
    simp only [List.length_cons]
    omega
  · cases read with
    | nil =>
        left
        simpa using List.length_pos_iff.mpr nonempty
    | cons first others =>
        right
        cases fields with
        | nil => exact absurd rfl nonempty
        | cons second rest => rw [List.getLast?_cons_cons, last, List.getLast?_cons_cons]

/-- The loop ends on the line with `outcome` behind `list`; this is the fields
themselves where it can tell them apart. -/
structure Reads (fields list : List Bytes) (outcome : Option (List Bytes)) : Prop where
  ends : Ends parserTurn ⟨csvLine fields, list⟩ (outcome.map (list ++ ·))
  whole : Good fields → outcome = some fields
  lost : ¬ Good fields → ∀ read, outcome = some read → Lost fields read

/-- Fields that cannot be told apart, of which the loop returns other ones. -/
theorem reads_lost {fields list read : List Bytes} (bad : ¬ Good fields) (lost : Lost fields read)
    (ends : Ends parserTurn ⟨csvLine fields, list⟩ (some (list ++ read))) :
    Reads fields list (some read) := by
  refine ⟨ends, fun good => absurd good bad, ?_⟩
  intro _ other same
  cases same
  exact lost

theorem reads_one {field : Bytes} (unquoted : quote ∉ field) (short : field.length < 2147483647)
    (list : List Bytes) : ∃ outcome, Reads [field] list outcome := by
  by_cases solid : field = []
  · refine ⟨none, ends_exit ?_, fun good => absurd solid good, fun _ read ended => by cases ended⟩
    rw [csv_line_one, solid]
    rfl
  · refine ⟨some [field], ends_exit ?_, fun _ => rfl, fun bad => absurd solid bad⟩
    rw [csv_line_one]
    by_cases quoted : comma ∈ field
    · rw [written_quoted quoted, turn_quoted unquoted solid short, if_pos rfl]
      rfl
    · rw [written_plain quoted, turn_last quoted unquoted solid]
      rfl

/-- The comma behind the closing quote stays in front of the line, and is read
into the last field. -/
theorem reads_quoted {field : Bytes} (quoted : comma ∈ field) (unquoted : quote ∉ field)
    (short : field.length < 2147483647) (second : Bytes) (rest list : List Bytes) :
    Reads (field :: second :: rest) list (some [field, comma :: csvLine (second :: rest)]) := by
  have solid : field ≠ [] := List.ne_nil_of_mem quoted
  have bad : ¬ Good (field :: second :: rest) := fun good => good.2.1 quoted
  apply reads_lost bad
  · cases rest with
    | nil =>
        right
        rw [csv_line_one]
        rfl
    | cons third rest =>
        left
        simp only [List.length_cons, List.length_nil]
        omega
  · have shape : csvLine (field :: second :: rest) =
        quote :: field ++ quote :: comma :: csvLine (second :: rest) := by
      rw [csv_line_cons, written_quoted quoted, List.append_assoc, List.singleton_append]
    have first : parserTurn ⟨csvLine (field :: second :: rest), list⟩ =
        .inl ⟨comma :: csvLine (second :: rest), list ++ [field]⟩ := by
      rw [shape, turn_quoted unquoted solid short, if_neg (List.cons_ne_nil _ _)]
    apply ends_step first
    apply ends_exit
    rw [turn_comma, List.append_assoc, List.singleton_append]

/-- An empty field leaves the comma behind it in front of the line. -/
theorem reads_empty (second : Bytes) (rest list : List Bytes) :
    Reads ([] :: second :: rest) list (some [csvLine ([] :: second :: rest)]) := by
  have bad : ¬ Good ([] :: second :: rest) := fun good => good.1 rfl
  apply reads_lost bad
  · left
    simp only [List.length_cons, List.length_nil]
    omega
  · apply ends_exit
    rw [csv_line_cons, written_plain (by simp), List.nil_append, turn_comma]

theorem turn_cons {field : Bytes} (plain : comma ∉ field) (unquoted : quote ∉ field)
    (solid : field ≠ []) (short : field.length < 2147483647) (second : Bytes)
    (rest list : List Bytes) :
    parserTurn ⟨csvLine (field :: second :: rest), list⟩ =
      if csvLine (second :: rest) = [] then .inr (some (list ++ [field]))
      else .inl ⟨csvLine (second :: rest), list ++ [field]⟩ := by
  rw [csv_line_cons, written_plain plain, turn_plain plain unquoted solid short]

theorem reads_csv_line (fields list : List Bytes) (nonempty : fields ≠ [])
    (unquoted : ∀ field ∈ fields, quote ∉ field)
    (short : ∀ field ∈ fields, field.length < 2147483647) :
    ∃ outcome, Reads fields list outcome := by
  induction fields generalizing list with
  | nil => exact absurd rfl nonempty
  | cons field rest ih =>
      have clean := unquoted field List.mem_cons_self
      have small := short field List.mem_cons_self
      cases rest with
      | nil => exact reads_one clean small list
      | cons second rest =>
          by_cases quoted : comma ∈ field
          · exact ⟨_, reads_quoted quoted clean small second rest list⟩
          by_cases solid : field = []
          · exact ⟨_, solid ▸ reads_empty second rest list⟩
          have turn := turn_cons quoted clean solid small second rest list
          by_cases done : csvLine (second :: rest) = []
          · -- The last field is empty: the line ends before it.
            rw [if_pos done] at turn
            have alone := ((csv_line_nil_iff _).mp done).resolve_left (List.cons_ne_nil _ _)
            refine ⟨some [field], reads_lost ?_ (Or.inl ?_) (ends_exit turn)⟩
            · rintro ⟨-, -, good⟩
              rw [alone] at good
              exact good rfl
            · simp only [List.length_cons, List.length_nil]
              omega
          · rw [if_neg done] at turn
            obtain ⟨outcome, tail⟩ := ih (list ++ [field]) (List.cons_ne_nil _ _)
              (fun other member => unquoted other (List.mem_cons_of_mem _ member))
              (fun other member => short other (List.mem_cons_of_mem _ member))
            refine ⟨outcome.map (field :: ·), ends_step turn ?_, ?_, ?_⟩
            · have ends := tail.ends
              cases outcome with
              | none => exact ends
              | some read =>
                  rw [Option.map_some, List.append_assoc] at ends
                  exact ends
            · rintro ⟨-, -, good⟩
              rw [tail.whole good, Option.map_some]
            · intro bad read ended
              obtain ⟨others, othersEnded, whole⟩ := Option.map_eq_some_iff.mp ended
              rw [← whole]
              exact lost_cons field (List.cons_ne_nil _ _)
                (tail.lost (fun good => bad ⟨solid, quoted, good⟩) others othersEnded)

theorem erase_count_pos {index : Int} (positive : 0 < index) (int : index < 2147483648) :
    0 < eraseCount index := by
  have sum : Int.bmod (index + 1) 4294967296 = index + 1 ∨
      Int.bmod (index + 1) 4294967296 = -2147483648 := by
    rw [Int.bmod_def]
    omega
  rcases sum with small | wrapped
  · rw [eraseCount, small, UInt64.ofInt, UInt64.toNat_ofNat']
    omega
  · rw [eraseCount, wrapped]
    decide

theorem to_int_lt (position : Option Nat) : toInt position < 2147483648 := by
  cases position with
  | none => decide
  | some position =>
      rw [to_int_some, Int.bmod_def]
      omega

/-- Where the turn goes on, the line it leaves is shorter, and not empty. -/
theorem take_field_shortens {line : Bytes} {stop : UInt8} {list : List Bytes} {next : State}
    (goes : takeField line stop list = .inl next) :
    next.line ≠ [] ∧ next.line.length < line.length := by
  unfold takeField at goes
  by_cases positive : 0 < toInt (find line stop 0)
  · have erased := erase_count_pos positive (to_int_lt _)
    by_cases empty : line.drop (eraseCount (toInt (find line stop 0))) = []
    · simp only [if_pos positive, if_pos empty, reduceCtorEq] at goes
    · simp only [if_pos positive, if_neg empty, Sum.inl.injEq] at goes
      have length := List.length_pos_iff.mpr empty
      rw [← goes]
      refine ⟨empty, ?_⟩
      rw [List.length_drop] at length ⊢
      omega
  · simp only [if_neg positive, reduceCtorEq] at goes

theorem take_field_returns {line : Bytes} {stop : UInt8} {list : List Bytes}
    {result : Option (List Bytes)} (leaves : takeField line stop list = .inr result) :
    result.isSome := by
  unfold takeField at leaves
  by_cases positive : 0 < toInt (find line stop 0)
  · by_cases empty : line.drop (eraseCount (toInt (find line stop 0))) = []
    · simp only [if_pos positive, if_pos empty, Sum.inr.injEq] at leaves
      rw [← leaves, Option.isSome_some]
    · simp only [if_pos positive, if_neg empty, reduceCtorEq] at leaves
  · simp only [if_neg positive, Sum.inr.injEq] at leaves
    rw [← leaves, Option.isSome_some]

theorem turn_shortens {state next : State} (goes : parserTurn state = .inl next) :
    next.line ≠ [] ∧ next.line.length < state.line.length := by
  obtain ⟨line, list⟩ := state
  cases line with
  | nil => cases goes
  | cons first rest =>
      by_cases begins : first = quote
      · simp only [parserTurn, if_pos begins] at goes
        obtain ⟨solid, shorter⟩ := take_field_shortens goes
        exact ⟨solid, Nat.lt_trans shorter (Nat.lt_succ_self _)⟩
      · rw [turn_other begins] at goes
        exact take_field_shortens goes

theorem turn_returns {state : State} {result : Option (List Bytes)} (solid : state.line ≠ [])
    (leaves : parserTurn state = .inr result) : result.isSome := by
  obtain ⟨line, list⟩ := state
  cases line with
  | nil => exact absurd rfl solid
  | cons first rest =>
      by_cases begins : first = quote
      · simp only [parserTurn, if_pos begins] at leaves
        exact take_field_returns leaves
      · rw [turn_other begins] at leaves
        exact take_field_returns leaves

theorem parses_ends (line : Bytes) : ∃ result, Parses line result := by
  apply ends_of_variant parserTurn (fun _ => True) (fun state => state.line.length)
  · intro state next _ goes
    exact ⟨trivial, (turn_shortens goes).2⟩
  · trivial

/-- Only the first turn can find the line empty. -/
theorem parses_some {line : Bytes} {result : Option (List Bytes)} (solid : trim line ≠ [])
    (parsed : Parses line result) : result.isSome := by
  obtain ⟨fuel, ended⟩ := parsed
  unfold parserLine at ended
  apply @loop_result _ _ parserTurn (fun state => state.line ≠ [])
    (fun result => result.isSome) _ _ fuel ⟨trim line, []⟩ result solid ended
  · intro state next _ goes
    exact (turn_shortens goes).1
  · intro state last held leaves
    exact turn_returns held leaves

theorem trim_solid {line : Bytes} (printed : ∃ character ∈ line, isSpace character = false) :
    trim line ≠ [] := by
  obtain ⟨character, member, solid⟩ := printed
  intro empty
  rw [trim, List.rdropWhile_eq_nil_iff] at empty
  have front : line.dropWhile isSpace ≠ [] := by
    intro nothing
    have blank := List.dropWhile_eq_nil_iff.mp nothing character member
    rw [solid] at blank
    cases blank
  have head := List.head_dropWhile_not isSpace front
  rw [empty _ (List.head_mem front)] at head
  cases head

/-! ### What comes back of a line -/

theorem good_iff (fields : List Bytes) :
    Good fields ↔
      fields ≠ [] ∧ (∀ field ∈ fields, field ≠ []) ∧ ∀ field ∈ fields.dropLast, comma ∉ field := by
  induction fields with
  | nil => simp [Good]
  | cons field rest ih =>
      cases rest with
      | nil => simp [Good]
      | cons second rest =>
          have step : Good (field :: second :: rest) ↔
              field ≠ [] ∧ comma ∉ field ∧ Good (second :: rest) := Iff.rfl
          rw [step, ih, List.dropLast_cons_cons]
          simp only [List.forall_mem_cons, ne_eq, reduceCtorEq, not_false_eq_true, true_and]
          tauto

theorem mem_trim_first {fields : List Bytes} {field : Bytes} (member : field ∈ trimFirst fields) :
    ∃ whole ∈ fields, field.Sublist whole := by
  cases fields with
  | nil => cases member
  | cons first rest =>
      rcases List.mem_cons.mp member with same | later
      · refine ⟨first, List.mem_cons_self, ?_⟩
        rw [same]
        split
        · exact List.Sublist.refl _
        · exact List.dropWhile_sublist _
      · exact ⟨field, List.mem_cons_of_mem _ later, List.Sublist.refl _⟩

theorem mem_trim_last {fields : List Bytes} {field : Bytes} (member : field ∈ trimLast fields) :
    ∃ whole ∈ fields, field.Sublist whole := by
  induction fields with
  | nil => cases member
  | cons first rest ih =>
      cases rest with
      | nil =>
          rw [trimLast, List.mem_singleton] at member
          refine ⟨first, List.mem_cons_self, ?_⟩
          rw [member]
          split
          · exact List.Sublist.refl _
          · exact (List.rdropWhile_prefix _ first).sublist
      | cons second rest =>
          rcases List.mem_cons.mp member with same | later
          · exact ⟨first, List.mem_cons_self, same ▸ List.Sublist.refl _⟩
          · obtain ⟨whole, inside, part⟩ := ih later
            exact ⟨whole, List.mem_cons_of_mem _ inside, part⟩

theorem mem_trim_ends {fields : List Bytes} {field : Bytes} (member : field ∈ trimEnds fields) :
    ∃ whole ∈ fields, field.Sublist whole := by
  obtain ⟨half, inside, part⟩ := mem_trim_last member
  obtain ⟨whole, among, rest⟩ := mem_trim_first inside
  exact ⟨whole, among, part.trans rest⟩

theorem trim_last_length (fields : List Bytes) : (trimLast fields).length = fields.length := by
  induction fields with
  | nil => rfl
  | cons first rest ih =>
      cases rest with
      | nil => rfl
      | cons second rest =>
          rw [trim_last_cons, List.length_cons, ih]
          rfl

theorem trim_ends_length (fields : List Bytes) : (trimEnds fields).length = fields.length := by
  rw [trimEnds, trim_last_length]
  cases fields <;> rfl

theorem trim_last_init (fields : List Bytes) : (trimLast fields).dropLast = fields.dropLast := by
  induction fields with
  | nil => rfl
  | cons first rest ih =>
      cases rest with
      | nil => rfl
      | cons second rest =>
          have more : trimLast (second :: rest) ≠ [] := by
            intro empty
            have length := trim_last_length (second :: rest)
            rw [empty] at length
            cases length
          rw [trim_last_cons, List.dropLast_cons_of_ne_nil more, ih, List.dropLast_cons_cons]

theorem init_trim_ends {fields : List Bytes} (plain : ∀ field ∈ fields.dropLast, comma ∉ field) :
    ∀ field ∈ (trimEnds fields).dropLast, comma ∉ field := by
  rw [trimEnds, trim_last_init]
  cases fields with
  | nil => exact plain
  | cons first rest =>
      cases rest with
      | nil => exact plain
      | cons second rest =>
          rw [trimFirst, List.dropLast_cons_cons, List.forall_mem_cons]
          rw [List.dropLast_cons_cons, List.forall_mem_cons] at plain
          refine ⟨?_, plain.2⟩
          rw [if_neg plain.1]
          exact drop_while_keeps_comma plain.1

/-- A quoted last field keeps its blanks. -/
theorem quoted_last {fields : List Bytes} {last : Bytes} (quoted : comma ∈ last)
    (at_end : fields.getLast? = some last) : (trimEnds fields).getLast? = some last := by
  have kept : ∀ fields : List Bytes, fields.getLast? = some last →
      (trimLast fields).getLast? = some last := by
    intro fields ended
    induction fields with
    | nil => exact ended
    | cons first rest ih =>
        cases rest with
        | nil =>
            have same : first = last := Option.some.inj ended
            rw [trimLast, same, if_pos quoted]
            rfl
        | cons second rest =>
            rw [List.getLast?_cons_cons] at ended
            have later := ih ended
            rw [trim_last_cons]
            cases cut : trimLast (second :: rest) with
            | nil =>
                rw [cut] at later
                cases later
            | cons next others => rw [List.getLast?_cons_cons, ← cut, later]
  apply kept
  cases fields with
  | nil => exact at_end
  | cons first rest =>
      cases rest with
      | nil =>
          have same : first = last := Option.some.inj at_end
          rw [trimFirst, same, if_pos quoted]
          rfl
      | cons second rest =>
          rw [trimFirst, List.getLast?_cons_cons]
          rw [List.getLast?_cons_cons] at at_end
          exact at_end

theorem parses_csv_line {fields : List Bytes} (nonempty : fields ≠ [])
    (unquoted : ∀ field ∈ fields, quote ∉ field)
    (short : ∀ field ∈ fields, field.length < 2147483647) :
    ∃ outcome, (∀ result, Parses (csvLine fields) result ↔ result = outcome) ∧
      (Good (trimEnds fields) → outcome = some (trimEnds fields)) ∧
      (¬ Good (trimEnds fields) → ∀ read, outcome = some read → Lost (trimEnds fields) read) := by
  have still : trimEnds fields ≠ [] := by
    intro empty
    have length := trim_ends_length fields
    rw [empty, List.length_nil] at length
    exact nonempty (List.length_eq_zero_iff.mp length.symm)
  obtain ⟨outcome, reads⟩ := reads_csv_line (trimEnds fields) [] still
    (fun field member => by
      obtain ⟨whole, inside, part⟩ := mem_trim_ends member
      exact fun found => unquoted whole inside (part.mem found))
    (fun field member => by
      obtain ⟨whole, inside, part⟩ := mem_trim_ends member
      exact Nat.lt_of_le_of_lt part.length_le (short whole inside))
  have ends : Ends parserTurn ⟨trim (csvLine fields), []⟩ outcome := by
    rw [trim_csv_line]
    have loop := reads.ends
    simp only [List.nil_append, Option.map_id'] at loop
    exact loop
  refine ⟨outcome, ?_, reads.whole, reads.lost⟩
  intro result
  constructor
  · exact fun parsed => ends_unique parsed ends
  · rintro rfl
    exact ends

theorem csv_line_unchanged_iff {fields : List Bytes} (nonempty : fields ≠ [])
    (unquoted : ∀ field ∈ fields, quote ∉ field)
    (short : ∀ field ∈ fields, field.length < 2147483647) :
    Parses (csvLine fields) (some fields) ↔ Good fields ∧ trimEnds fields = fields := by
  obtain ⟨outcome, parsed, whole, lost⟩ := parses_csv_line nonempty unquoted short
  rw [parsed]
  constructor
  · intro same
    by_cases good : Good (trimEnds fields)
    · have read := Option.some.inj (same.trans (whole good))
      exact ⟨read ▸ good, read.symm⟩
    · exfalso
      rcases lost good fields same.symm with shorter | last
      · rw [trim_ends_length] at shorter
        exact Nat.lt_irrefl _ shorter
      · -- The last field would be a comma longer than itself.
        obtain ⟨field, ended, read⟩ := Option.map_eq_some_iff.mp
          (last.symm.trans (List.getLast?_eq_some_getLast nonempty))
        have quoted : comma ∈ fields.getLast nonempty := read ▸ List.mem_cons_self
        have kept := quoted_last quoted (List.getLast?_eq_some_getLast nonempty)
        have lengths := congrArg List.length (read.trans (Option.some.inj (kept.symm.trans ended)))
        have long := written_length field
        simp only [List.length_cons] at lengths
        omega
  · rintro ⟨good, same⟩
    rw [whole (same.symm ▸ good), same]

example : parserLine (csvLine [[97, 44, 98], [99]]) 2 = some (some [[97, 44, 98], [44, 99]]) := by
  decide

/-- The fields whose line the loop can tell apart: none is empty once the blanks
at the ends of the line are gone, only the last is quoted, and an int holds
their lengths. -/
structure Regular (fields : List Bytes) : Prop where
  nonempty : fields ≠ []
  unquoted : ∀ field ∈ fields, quote ∉ field
  plain : ∀ field ∈ fields.dropLast, comma ∉ field
  solid : ∀ field ∈ trimEnds fields, field ≠ []
  short : ∀ field ∈ fields, field.length < 2147483647

theorem regular_good {fields : List Bytes} (regular : Regular fields) : Good (trimEnds fields) := by
  refine (good_iff _).mpr ⟨?_, regular.solid, init_trim_ends regular.plain⟩
  intro empty
  have length := trim_ends_length fields
  rw [empty, List.length_nil] at length
  exact regular.nonempty (List.length_eq_zero_iff.mp length.symm)

theorem regular_parses {fields : List Bytes} (regular : Regular fields)
    (result : Option (List Bytes)) :
    Parses (csvLine fields) result ↔ result = some (trimEnds fields) := by
  obtain ⟨outcome, parsed, whole, -⟩ :=
    parses_csv_line regular.nonempty regular.unquoted regular.short
  rw [parsed, whole (regular_good regular)]

/-- `LoadProperty` up to the properties: there must be as many as the head has,
and each is trimmed. -/
def loadProperty (headSize : Nat) (propertyList : List Bytes) : Option (List Bytes) :=
  if propertyList.length < headSize then none else some (propertyList.map trim)

theorem trim_drop_while (s : Bytes) : trim (s.dropWhile isSpace) = trim s := by
  rw [trim, trim, List.dropWhile_idempotent]

theorem trim_r_drop_while (s : Bytes) : trim (s.rdropWhile isSpace) = trim s := by
  have cut := List.takeWhile_append_dropWhile (p := isSpace) (l := s)
  have blanks : ∀ character ∈ s.takeWhile isSpace, isSpace character = true :=
    fun character member => List.mem_takeWhile_imp member
  cases text : s.dropWhile isSpace with
  | nil =>
      have all : s.rdropWhile isSpace = [] := by
        rw [List.rdropWhile_eq_nil_iff]
        exact List.dropWhile_eq_nil_iff.mp text
      rw [trim, trim, text, all, List.dropWhile_nil]
  | cons character rest =>
      have solid : isSpace character = false := by
        have head := List.head_dropWhile_not isSpace (l := s) (by rw [text]; exact List.cons_ne_nil _ _)
        simp only [text, List.head_cons] at head
        exact head
      have neg : ¬ isSpace character = true := by
        rw [solid]
        exact Bool.false_ne_true
      have single := r_drop_while_solid solid []
      simp only [List.nil_append] at single
      rw [text] at cut
      have ended : s.rdropWhile isSpace =
          s.takeWhile isSpace ++ character :: rest.rdropWhile isSpace := by
        rw [← r_drop_while_solid solid, cut]
      rw [trim, trim, ended, text, List.dropWhile_append_of_pos blanks,
        List.dropWhile_cons_of_neg neg, single, single, List.rdropWhile_idempotent]

theorem trim_trim_first (fields : List Bytes) : (trimFirst fields).map trim = fields.map trim := by
  cases fields with
  | nil => rfl
  | cons first rest =>
      rw [trimFirst, List.map_cons, List.map_cons]
      split
      · rfl
      · rw [trim_drop_while]

theorem trim_trim_last (fields : List Bytes) : (trimLast fields).map trim = fields.map trim := by
  induction fields with
  | nil => rfl
  | cons first rest ih =>
      cases rest with
      | nil =>
          rw [trimLast, List.map_cons, List.map_cons]
          split
          · rfl
          · rw [trim_r_drop_while]
      | cons second rest =>
          rw [trim_last_cons, List.map_cons, ih]
          rfl

/-- The blanks that `ParserLine` drops are no part of any property. -/
theorem load_property_trim_ends (headSize : Nat) (fields : List Bytes) :
    loadProperty headSize (trimEnds fields) = loadProperty headSize fields := by
  rw [loadProperty, loadProperty, trim_ends_length, trimEnds, trim_trim_last, trim_trim_first]

/-! ### The two promises about lines -/

/-- A regular line comes back without the blanks at its two ends; any line is
parsed to its end, and a line that is not blank never accessed outside itself. -/
theorem parser_line_reads :
    (∀ fields, Regular fields → ∀ result,
      Parses (csvLine fields) result ↔ result = some (trimEnds fields)) ∧
      (∀ line, ∃ result, Parses line result) ∧
      ∀ line, (∃ character ∈ line, isSpace character = false) → ∀ result, Parses line result →
        result.isSome := by
  refine ⟨fun fields regular => regular_parses regular, parses_ends, ?_⟩
  intro line printed result parsed
  exact parses_some (trim_solid printed) parsed

/-- The line ` 1,"a,b"`, whose first field has a blank in front. -/
theorem parser_line_reads_pair :
    Parses (csvLine [[32, 49], [97, 44, 98]]) (some [[49], [97, 44, 98]]) := by
  have regular : Regular [[32, 49], [97, 44, 98]] :=
    ⟨by decide, by decide, by decide, by decide, by decide⟩
  exact (parser_line_reads.1 _ regular _).mpr rfl

/-- The same blank is why the line does not give back the fields as written. -/
theorem parser_line_trims :
    ¬ ∀ fields : List Bytes, fields ≠ [] →
      (∀ field ∈ fields, quote ∉ field ∧ 10 ∉ field ∧ 13 ∉ field) →
        Parses (csvLine fields) (some fields) := by
  intro always
  have kept : Parses (csvLine [[32, 49], [120]]) (some [[32, 49], [120]]) :=
    always _ (by decide) (by decide)
  have trimmed : Parses (csvLine [[32, 49], [120]]) (some [[49], [120]]) := ⟨2, by decide⟩
  have same := parses_unique kept trimmed
  revert same
  decide

end GameBook.ParserLine
