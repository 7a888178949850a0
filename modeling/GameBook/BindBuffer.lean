import GameBook.CString
import GameBook.MachineWord
import GameBook.RingWindow

/-!
The parameters of a prepared statement. `ClearStmtParam` and the `AddParam..`
functions write them into `bind_buffer` one behind the other: numbers and
strings with their lengths, and of a blob only the length. A `MYSQL_BIND` says
where the server finds each of them when the statement is executed.
-/

namespace GameBook.BindBuffer

open MachineWord RingWindow
open CString (Bytes cStr)

def maxBindBuffer : Nat := 40960

def maxBindStr : Nat := 30000

inductive BufferType where
  | blob
  | longlong
  | long
  | string
  deriving DecidableEq

/-- Nothing, a place in `bind_buffer`, or memory of the caller. -/
inductive Pointer where
  | null
  | inBuffer (offset : Nat)
  | outside (bytes : Bytes)

structure MysqlBind where
  bufferType : BufferType
  buffer : Pointer
  length : Option Nat
  bufferLength : Nat
  isUnsigned : Bool

/-- `bindBufferIndex` is an `int`, given by its 32 bits: a negative one is no
place in the buffer either. -/
structure DatabaseStmt where
  bind : Nat → MysqlBind
  bindBuffer : Nat → UInt8
  bindIndex : Nat
  bindBufferIndex : Nat
  /-- Offsets and sizes of what was written since `ClearStmtParam`. -/
  written : List (Nat × Nat)

def DatabaseStmt.put (stmt : DatabaseStmt) (offset : Nat) (bytes : Bytes) : DatabaseStmt :=
  { stmt with
    bindBuffer := blit stmt.bindBuffer offset bytes
    written := stmt.written ++ [(offset, bytes.length)] }

/-- The end of every `AddParam..`. -/
def DatabaseStmt.next (stmt : DatabaseStmt) (bind : MysqlBind) (size : Nat) : DatabaseStmt :=
  { stmt with
    bind := Function.update stmt.bind stmt.bindIndex bind
    bindIndex := stmt.bindIndex + 1
    bindBufferIndex := add32 stmt.bindBufferIndex size }

def clearStmtParam (stmt : DatabaseStmt) : DatabaseStmt :=
  { stmt with bindIndex := 0, bindBufferIndex := 0, written := [] }

def addParamBlob (stmt : DatabaseStmt) (val : Bytes) (size : Nat) : DatabaseStmt :=
  let length := stmt.bindBufferIndex + 8
  (stmt.put length (littleEndian 8 size)).next
    { stmt.bind stmt.bindIndex with
      bufferType := .blob, buffer := .outside val, length := some length, bufferLength := size } 16

def addParamUint64 (stmt : DatabaseStmt) (val : UInt64) : DatabaseStmt :=
  (stmt.put stmt.bindBufferIndex (littleEndian 8 val.toNat)).next
    { stmt.bind stmt.bindIndex with
      bufferType := .longlong, buffer := .inBuffer stmt.bindBufferIndex, isUnsigned := true } 8

/-- The number is written as a `long`, of 64 bits. -/
def addParamInt (stmt : DatabaseStmt) (val : Int32) : DatabaseStmt :=
  (stmt.put stmt.bindBufferIndex (littleEndian 8 val.toInt64.toUInt64.toNat)).next
    { stmt.bind stmt.bindIndex with
      bufferType := .long, buffer := .inBuffer stmt.bindBufferIndex, isUnsigned := false } 8

/-- The first bytes of a C string, with zeros behind a shorter one. -/
def strncpy (val : Bytes) (count : Nat) : Bytes := (cStr val ++ List.replicate count 0).take count

def strLength (val : Bytes) : Nat :=
  if maxBindStr ≤ (cStr val).length then maxBindStr - 1 else (cStr val).length

def addParamStr (stmt : DatabaseStmt) (val : Bytes) : DatabaseStmt :=
  let len := strLength val
  let length := stmt.bindBufferIndex + len + 1
  ((stmt.put stmt.bindBufferIndex (strncpy val (len + 1))).put length (littleEndian 8 len)).next
    { stmt.bind stmt.bindIndex with
      bufferType := .string, buffer := .inBuffer stmt.bindBufferIndex, length := some length,
      bufferLength := len } (len + 1 + 8)

/-- One call of a handler; the size of a blob is an `int`. -/
inductive Param where
  | uint64 (val : UInt64)
  | int (val : Int32)
  | str (val : Bytes)
  | blob (val : Bytes) (sized : val.length < 2147483648)

def addParam (stmt : DatabaseStmt) : Param → DatabaseStmt
  | .uint64 val => addParamUint64 stmt val
  | .int val => addParamInt stmt val
  | .str val => addParamStr stmt val
  | .blob val _ => addParamBlob stmt val val.length

def bindParams (stmt : DatabaseStmt) (params : List Param) : DatabaseStmt :=
  params.foldl addParam (clearStmtParam stmt)

def createParams (sn : UInt64) (account name : Bytes) : List Param := [.uint64 sn, .str account, .str name]

def saveParams (base misc : { bytes : Bytes // bytes.length < 2147483648 }) (sn : UInt64) : List Param :=
  [.blob base.1 base.2, .blob misc.1 misc.2, .uint64 sn]

inductive Bound where
  | integer (value : Int)
  | bytes (value : Bytes) (length : Nat)
  deriving DecidableEq

/-- A parameter at `mysql_stmt_execute`: eight or four bytes of a number, or as
many bytes as the length says. -/
def readBind (memory : Nat → UInt8) (bind : MysqlBind) : Option Bound :=
  match bind.bufferType, bind.buffer, bind.length with
  | .longlong, .inBuffer offset, _ =>
      let word := fromLittleEndian (slice memory offset 8)
      some (.integer (if bind.isUnsigned then word else (UInt64.ofNat word).toInt64.toInt))
  | .long, .inBuffer offset, _ =>
      let word := fromLittleEndian (slice memory offset 4)
      some (.integer (if bind.isUnsigned then word else toInt32 word))
  | .string, .inBuffer offset, some length =>
      let count := fromLittleEndian (slice memory length 8)
      some (.bytes (slice memory offset count) count)
  | .blob, .outside bytes, some length =>
      let count := fromLittleEndian (slice memory length 8)
      some (.bytes (bytes.take count) count)
  | _, _, _ => none

/-- A string of at least `MAX_BIND_STR` bytes is cut. -/
def boundStr (val : Bytes) : Bytes := (cStr val).take (strLength val)

def given : Param → Bound
  | .uint64 val => .integer val.toNat
  | .int val => .integer val.toInt
  | .str val => .bytes (boundStr val) (boundStr val).length
  | .blob val _ => .bytes val val.length

/-! ### What is asked -/

def Apart (first second : Nat × Nat) : Prop :=
  first.1 + first.2 ≤ second.1 ∨ second.1 + second.2 ≤ first.1

/-- The slices are apart from each other and lie in the buffer, and every
parameter is read as it was given. -/
structure LaidOut (stmt : DatabaseStmt) (params : List Param) : Prop where
  apart : stmt.written.Pairwise Apart
  inside : ∀ part ∈ stmt.written, part.1 + part.2 ≤ maxBindBuffer
  reads : ∀ k param, params[k]? = some param → readBind stmt.bindBuffer (stmt.bind k) = some (given param)

/-- What a parameter takes of the buffer. -/
def bindSize : Param → Nat
  | .uint64 _ => 8
  | .int _ => 8
  | .str val => strLength val + 1 + 8
  | .blob _ _ => 16

def total (params : List Param) : Nat := (params.map bindSize).sum

/-! ### One call -/

theorem slice_congr (before after : Nat → UInt8) (start count : Nat)
    (same : ∀ i, start ≤ i → i < start + count → after i = before i) :
    slice after start count = slice before start count := by
  apply List.map_congr_left
  intro i member
  exact same _ (by omega) (by have := List.mem_range.mp member; omega)

theorem slice_blit_take (memory : Nat → UInt8) (offset count : Nat) (bytes : Bytes) (held : count ≤ bytes.length) :
    slice (blit memory offset bytes) offset count = bytes.take count := by
  apply List.ext_getElem
  · simp [held]
  · intro i inside _
    rw [slice_length] at inside
    simp [slice, blit_inside memory offset bytes i (by omega)]

theorem str_length_le (val : Bytes) : strLength val ≤ (cStr val).length ∧ strLength val < maxBindStr := by
  unfold strLength maxBindStr
  split <;> omega

theorem bound_str_length (val : Bytes) : (boundStr val).length = strLength val := by
  have bound := (str_length_le val).1
  rw [boundStr, List.length_take]
  omega

theorem strncpy_length (val : Bytes) (count : Nat) : (strncpy val count).length = count := by
  simp [strncpy]

theorem strncpy_take (val : Bytes) : (strncpy val (strLength val + 1)).take (strLength val) = boundStr val := by
  have bound := (str_length_le val).1
  rw [strncpy, List.take_take, Nat.min_eq_left (by omega), List.take_append_of_le_length bound, boundStr]

theorem little_endian_take (count more word : Nat) (fewer : count ≤ more) :
    (littleEndian more word).take count = littleEndian count word := by
  induction count generalizing more word with
  | zero => simp [littleEndian]
  | succ count ih =>
      obtain ⟨rest, rfl⟩ : ∃ rest, more = rest + 1 := ⟨more - 1, by omega⟩
      rw [littleEndian, littleEndian, List.take_succ_cons, ih rest (word / 256) (by omega)]

theorem to_int32_extended (val : Int32) :
    toInt32 (val.toInt64.toUInt64.toNat % 4294967296) = val.toInt := by
  have wide := BitVec.toInt_eq_toNat_cond val.toInt64.toBitVec
  rw [Int64.toInt_toBitVec, Int64.toNat_toBitVec, Int32.toInt_toInt64] at wide
  have low := Int32.le_toInt val
  have high := Int32.toInt_lt val
  unfold toInt32
  omega

theorem length_word (memory : Nat → UInt8) (offset length : Nat) (fits : length < 2147483648) :
    fromLittleEndian (slice (blit memory offset (littleEndian 8 length)) offset 8) = length := by
  have width : (littleEndian 8 length).length = 8 := little_endian_length 8 length
  rw [slice_blit_take _ _ _ _ (by omega), List.take_of_length_le (by omega), little_endian_round_trip]
  omega

/-- What a call does: it takes the next entry of `bind` and the next bytes of the
buffer, and leaves the entries and the bytes before them. -/
structure Adds (stmt after : DatabaseStmt) (param : Param) : Prop where
  index : after.bindIndex = stmt.bindIndex + 1
  offset : after.bindBufferIndex = add32 stmt.bindBufferIndex (bindSize param)
  binds : ∀ k, k ≠ stmt.bindIndex → after.bind k = stmt.bind k
  below : ∀ i < stmt.bindBufferIndex, after.bindBuffer i = stmt.bindBuffer i
  written : ∃ new, after.written = stmt.written ++ new ∧ new.Pairwise Apart ∧
    (∀ part ∈ new, stmt.bindBufferIndex ≤ part.1 ∧
      part.1 + part.2 ≤ stmt.bindBufferIndex + bindSize param) ∧
    ∃ part ∈ new, part.1 + part.2 = stmt.bindBufferIndex + bindSize param
  reads : ∀ memory, (∀ i < stmt.bindBufferIndex + bindSize param, memory i = after.bindBuffer i) →
    readBind memory (after.bind stmt.bindIndex) = some (given param)

theorem read_longlong (memory : Nat → UInt8) {bind : MysqlBind} {offset : Nat} (type : bind.bufferType = .longlong)
    (buffer : bind.buffer = .inBuffer offset) (unsigned : bind.isUnsigned = true) :
    readBind memory bind = some (.integer (fromLittleEndian (slice memory offset 8))) := by
  simp [readBind, type, buffer, unsigned]

theorem read_long (memory : Nat → UInt8) {bind : MysqlBind} {offset : Nat} (type : bind.bufferType = .long)
    (buffer : bind.buffer = .inBuffer offset) (signed : bind.isUnsigned = false) :
    readBind memory bind = some (.integer (toInt32 (fromLittleEndian (slice memory offset 4)))) := by
  simp [readBind, type, buffer, signed]

theorem read_string (memory : Nat → UInt8) {bind : MysqlBind} {offset length count : Nat}
    (type : bind.bufferType = .string) (buffer : bind.buffer = .inBuffer offset) (word : bind.length = some length)
    (counted : fromLittleEndian (slice memory length 8) = count) :
    readBind memory bind = some (.bytes (slice memory offset count) count) := by
  simp [readBind, type, buffer, word, counted]

theorem read_blob (memory : Nat → UInt8) {bind : MysqlBind} {bytes : Bytes} {length count : Nat}
    (type : bind.bufferType = .blob) (buffer : bind.buffer = .outside bytes) (word : bind.length = some length)
    (counted : fromLittleEndian (slice memory length 8) = count) :
    readBind memory bind = some (.bytes (bytes.take count) count) := by
  simp [readBind, type, buffer, word, counted]

theorem next_bind (stmt : DatabaseStmt) (bind : MysqlBind) (size : Nat) :
    (stmt.next bind size).bind stmt.bindIndex = bind := Function.update_self ..

theorem add_param_uint64 (stmt : DatabaseStmt) (val : UInt64) :
    Adds stmt (addParamUint64 stmt val) (.uint64 val) where
  index := rfl
  offset := rfl
  binds k other := Function.update_of_ne other _ _
  below i early := blit_outside _ _ _ i (.inl early)
  written := ⟨[(stmt.bindBufferIndex, 8)], rfl, List.pairwise_singleton _ _, by simp [bindSize], by simp [bindSize]⟩
  reads memory same := by
    have here : slice memory stmt.bindBufferIndex 8 = littleEndian 8 val.toNat := by
      rw [slice_congr _ memory _ _ fun i _ inside => same i (by dsimp only [bindSize]; omega)]
      exact slice_blit _ _ (littleEndian 8 val.toNat)
    have small := val.toNat_lt
    refine (congrArg (readBind memory) (next_bind (stmt.put _ _) _ 8)).trans ?_
    rw [read_longlong memory rfl rfl rfl, here, little_endian_round_trip, Nat.mod_eq_of_lt (by omega)]
    rfl

theorem add_param_int (stmt : DatabaseStmt) (val : Int32) : Adds stmt (addParamInt stmt val) (.int val) where
  index := rfl
  offset := rfl
  binds k other := Function.update_of_ne other _ _
  below i early := blit_outside _ _ _ i (.inl early)
  written := ⟨[(stmt.bindBufferIndex, 8)], rfl, List.pairwise_singleton _ _, by simp [bindSize], by simp [bindSize]⟩
  reads memory same := by
    -- the server reads the low half of what was written
    have here : slice memory stmt.bindBufferIndex 4 = littleEndian 4 val.toInt64.toUInt64.toNat := by
      rw [slice_congr _ memory _ _ fun i _ inside => same i (by dsimp only [bindSize]; omega)]
      exact (slice_blit_take _ _ 4 (littleEndian 8 _) (by simp)).trans (little_endian_take 4 8 _ (by omega))
    have number := to_int32_extended val
    refine (congrArg (readBind memory) (next_bind (stmt.put _ _) _ 8)).trans ?_
    rw [read_long memory rfl rfl rfl, here, little_endian_round_trip]
    exact congrArg (fun value => some (Bound.integer value)) number

theorem add_param_blob (stmt : DatabaseStmt) (val : Bytes) (sized : val.length < 2147483648) :
    Adds stmt (addParamBlob stmt val val.length) (.blob val sized) where
  index := rfl
  offset := rfl
  binds k other := Function.update_of_ne other _ _
  below i early := blit_outside _ _ _ i (.inl (by omega))
  written := ⟨[(stmt.bindBufferIndex + 8, 8)], rfl, List.pairwise_singleton _ _,
    by simp [bindSize, Nat.add_assoc], by simp [bindSize, Nat.add_assoc]⟩
  reads memory same := by
    have here : fromLittleEndian (slice memory (stmt.bindBufferIndex + 8) 8) = val.length := by
      rw [slice_congr _ memory _ _ fun i _ inside => same i (by dsimp only [bindSize]; omega)]
      exact length_word _ _ _ sized
    refine (congrArg (readBind memory) (next_bind (stmt.put _ _) _ 16)).trans ?_
    rw [read_blob memory rfl rfl rfl here, List.take_length]
    rfl

theorem add_param_str (stmt : DatabaseStmt) (val : Bytes) : Adds stmt (addParamStr stmt val) (.str val) where
  index := rfl
  offset := rfl
  binds k other := Function.update_of_ne other _ _
  below i early := by
    have text := blit_outside stmt.bindBuffer stmt.bindBufferIndex (strncpy val (strLength val + 1)) i (.inl early)
    exact (blit_outside _ _ _ i (.inl (by omega))).trans text
  written := by
    refine ⟨[(stmt.bindBufferIndex, strLength val + 1), (stmt.bindBufferIndex + strLength val + 1, 8)], ?_, ?_,
      ?_, ?_⟩
    · simp [addParamStr, DatabaseStmt.put, DatabaseStmt.next, strncpy_length]
    · exact List.pairwise_pair.mpr (.inl (by dsimp only; omega))
    · simp only [List.mem_cons, List.not_mem_nil, or_false, forall_eq_or_imp, forall_eq, bindSize]
      omega
    · exact ⟨(stmt.bindBufferIndex + strLength val + 1, 8), by simp, by dsimp only [bindSize]; omega⟩
  reads memory same := by
    have bound := str_length_le val
    unfold maxBindStr at bound
    have count : fromLittleEndian (slice memory (stmt.bindBufferIndex + strLength val + 1) 8) = strLength val := by
      rw [slice_congr _ memory _ _ fun i _ inside => same i (by dsimp only [bindSize]; omega)]
      exact length_word _ _ _ (by omega)
    -- the length is written behind the text
    have text : slice memory stmt.bindBufferIndex (strLength val) = boundStr val := by
      rw [slice_congr _ memory _ _ fun i _ inside => same i (by dsimp only [bindSize]; omega)]
      refine (slice_congr (blit stmt.bindBuffer stmt.bindBufferIndex (strncpy val (strLength val + 1))) _ _ _
        fun i _ inside => blit_outside _ _ _ i (.inl (by omega))).trans ?_
      rw [slice_blit_take _ _ _ _ (by rw [strncpy_length]; omega), strncpy_take]
    refine (congrArg (readBind memory) (next_bind ((stmt.put _ _).put _ _) _ (strLength val + 1 + 8))).trans ?_
    rw [read_string memory rfl rfl rfl count, text, given, bound_str_length]

theorem add_param (stmt : DatabaseStmt) (param : Param) : Adds stmt (addParam stmt param) param := by
  cases param with
  | uint64 val => exact add_param_uint64 stmt val
  | int val => exact add_param_int stmt val
  | str val => exact add_param_str stmt val
  | blob val sized => exact add_param_blob stmt val sized

/-! ### A sequence of calls -/

/-- Where the statement stands behind its first calls: all they wrote lies
below the next byte, and is read from what stands there. -/
structure Placed (stmt : DatabaseStmt) (params : List Param) : Prop where
  index : stmt.bindIndex = params.length
  offset : stmt.bindBufferIndex = total params
  apart : stmt.written.Pairwise Apart
  ends : ∀ part ∈ stmt.written, part.1 + part.2 ≤ total params
  reads : ∀ k param, params[k]? = some param → ∀ memory,
    (∀ i < total params, memory i = stmt.bindBuffer i) →
      readBind memory (stmt.bind k) = some (given param)

theorem total_append (first second : List Param) : total (first ++ second) = total first + total second := by
  simp [total]

theorem cleared_placed (stmt : DatabaseStmt) : Placed (clearStmtParam stmt) [] where
  index := rfl
  offset := rfl
  apart := .nil
  ends := by simp [clearStmtParam]
  reads := by simp

theorem placed_step {stmt : DatabaseStmt} {params : List Param} (placed : Placed stmt params) (param : Param)
    (fits : total (params ++ [param]) ≤ maxBindBuffer) :
    Placed (addParam stmt param) (params ++ [param]) := by
  have added := add_param stmt param
  obtain ⟨new, written, newApart, within, -⟩ := added.written
  have size : total (params ++ [param]) = total params + bindSize param := by
    simp [total]
  have start := placed.offset
  unfold maxBindBuffer at fits
  refine ⟨?_, ?_, ?_, ?_, ?_⟩
  · rw [added.index, placed.index, List.length_append, List.length_singleton]
  · rw [added.offset, start, add32_exact _ _ (by omega), size]
  · rw [written]
    apply List.pairwise_append.mpr ⟨placed.apart, newApart, ?_⟩
    intro old before late after
    have earlier := placed.ends old before
    have later := (within late after).1
    exact .inl (by omega)
  · intro part member
    rw [written] at member
    rcases List.mem_append.mp member with before | after
    · have earlier := placed.ends part before
      omega
    · have later := (within part after).2
      omega
  · intro k other found memory same
    by_cases last : k = params.length
    · subst last
      rw [List.getElem?_append_right (Nat.le_refl _)] at found
      cases (by simpa using found : param = other)
      rw [← placed.index]
      exact added.reads memory fun i inside => same i (by omega)
    · have held : k < params.length := by
        have bound := (List.getElem?_eq_some_iff.mp found).1
        simp at bound
        omega
      rw [List.getElem?_append_left held] at found
      rw [added.binds k (by rw [placed.index]; omega)]
      apply placed.reads k other found memory
      intro i inside
      rw [same i (by omega), added.below i (by omega)]

theorem written_grows (stmt : DatabaseStmt) (params : List Param) :
    ∀ part ∈ stmt.written, part ∈ (params.foldl addParam stmt).written := by
  induction params generalizing stmt with
  | nil => simp
  | cons param rest ih =>
      intro part member
      obtain ⟨new, written, -⟩ := (add_param stmt param).written
      exact ih _ part (by rw [written]; exact List.mem_append_left _ member)

theorem placed_run {stmt : DatabaseStmt} {params : List Param} (placed : Placed stmt params) (rest : List Param)
    (fits : total (params ++ rest) ≤ maxBindBuffer) :
    Placed (rest.foldl addParam stmt) (params ++ rest) := by
  induction rest generalizing stmt params with
  | nil => simpa using placed
  | cons param rest ih =>
      have joined : params ++ param :: rest = params ++ [param] ++ rest := by simp
      rw [joined] at fits ⊢
      have first : total (params ++ [param]) ≤ maxBindBuffer := by
        rw [total_append] at fits
        omega
      exact ih (placed_step placed param first) fits

theorem leaves_buffer {stmt : DatabaseStmt} {params : List Param} (placed : Placed stmt params)
    (held : total params ≤ maxBindBuffer) (rest : List Param) (more : maxBindBuffer < total (params ++ rest)) :
    ∃ part ∈ (rest.foldl addParam stmt).written, maxBindBuffer < part.1 + part.2 := by
  induction rest generalizing stmt params with
  | nil =>
      rw [List.append_nil] at more
      omega
  | cons param rest ih =>
      have joined : params ++ param :: rest = params ++ [param] ++ rest := by simp
      rw [joined] at more
      by_cases fits : total (params ++ [param]) ≤ maxBindBuffer
      · exact ih (placed_step placed param fits) fits more
      · obtain ⟨new, written, -, -, part, member, last⟩ := (add_param stmt param).written
        refine ⟨part, written_grows _ rest part (by rw [written]; exact List.mem_append_right _ member), ?_⟩
        have size : total (params ++ [param]) = total params + bindSize param := by simp [total]
        have start := placed.offset
        omega

theorem laid_out_iff (stmt : DatabaseStmt) (params : List Param) :
    LaidOut (bindParams stmt params) params ↔ total params ≤ maxBindBuffer := by
  have start := cleared_placed stmt
  constructor
  · intro laid
    by_contra more
    obtain ⟨part, member, out⟩ := leaves_buffer start (Nat.zero_le _) params (by simpa using more)
    have inside := laid.inside part member
    omega
  · intro fits
    have placed := placed_run start params (by simpa using fits)
    rw [List.nil_append] at placed
    refine ⟨placed.apart, fun part member => (placed.ends part member).trans fits, ?_⟩
    intro k param found
    exact placed.reads k param found _ fun _ _ => rfl

/-! ### The handlers -/

theorem total_create (sn : UInt64) (account name : Bytes) :
    total (createParams sn account name) = strLength account + strLength name + 26 := by
  simp [total, createParams, bindSize]
  omega

theorem total_save (base misc : { bytes : Bytes // bytes.length < 2147483648 }) (sn : UInt64) :
    total (saveParams base misc sn) = 40 := rfl

/-- Any parameters are laid out exactly when their sizes fit the buffer: those
of a created player when the account and the name have together at most 40934
bytes after the cut, those of a saved player always. -/
theorem bind_layout_law (stmt : DatabaseStmt) :
    (∀ params, LaidOut (bindParams stmt params) params ↔ total params ≤ maxBindBuffer) ∧
    (∀ sn account name,
      LaidOut (bindParams stmt (createParams sn account name)) (createParams sn account name) ↔
        strLength account + strLength name ≤ 40934) ∧
    ∀ base misc sn, LaidOut (bindParams stmt (saveParams base misc sn)) (saveParams base misc sn) := by
  refine ⟨laid_out_iff stmt, ?_, ?_⟩
  · intro sn account name
    rw [laid_out_iff, total_create, maxBindBuffer]
    omega
  · intro base misc sn
    rw [laid_out_iff, total_save]
    decide

theorem str_length_replicate (count : Nat) (short : count < maxBindStr) :
    strLength (List.replicate count 97) = count := by
  have clean : (0 : UInt8) ∉ List.replicate count 97 := by simp
  rw [strLength, CString.c_str_of_clean _ clean, List.length_replicate, if_neg (by omega)]

/-- An account and a name that each keep the limit of a string. -/
theorem long_names_leave_buffer :
    ¬ ∀ stmt sn account name,
      LaidOut (bindParams stmt (createParams sn account name)) (createParams sn account name) := by
  intro law
  have empty : MysqlBind := ⟨.blob, .null, none, 0, false⟩
  have laid := law ⟨fun _ => empty, fun _ => 0, 0, 0, []⟩ 7 (List.replicate 29999 97) (List.replicate 12000 97)
  rw [laid_out_iff, total_create, str_length_replicate _ (by decide), str_length_replicate _ (by decide)] at laid
  revert laid
  decide

end GameBook.BindBuffer
