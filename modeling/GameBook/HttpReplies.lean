import GameBook.Decimals
import GameBook.HttpOutlet
import GameBook.HttpSegments
import GameBook.LoginRequest
import GameBook.PlainCommands

/-!
The two ends of an http connection in one process and another: what
`SendHttpResponseBase` and `SendHttpRequest` write is read by `GetHttpPacket`
and `ParseHttp` on the other side, however the bytes arrive.
-/

namespace GameBook.HttpReplies

open Decimals Mongoose HttpPacket HttpSegments StreamParser LabelledRun NetworkBuffer
open HttpOutlet (Sends Sendable texts sends_texts sends_all)
open SocketObject (NetIdentify)
open TcpFraming (Packet Steady headSizeOf)
open CString (cStr c_str_of_clean)
open LoginRequest (Params queryText sendHttpRequest)
open RedisCommands (decimalInt)

def mgStatusMessage (statusCode : Int) : Bytes :=
  match statusCode with
  | 206 => ascii "Partial Content"
  | 301 => ascii "Moved"
  | 302 => ascii "Found"
  | 400 => ascii "Bad Request"
  | 401 => ascii "Unauthorized"
  | 403 => ascii "Forbidden"
  | 404 => ascii "Not Found"
  | 416 => ascii "Requested Range Not Satisfiable"
  | 418 => ascii "I'm a teapot"
  | 500 => ascii "Internal Server Error"
  | 502 => ascii "Bad Gateway"
  | 503 => ascii "Service Unavailable"
  | _ => ascii "OK"

/-- The text that is put into the packet; `size` is the length of the content,
as an int. -/
def sendHttpResponseBase (statusCode : Int) (content : Bytes) : Bytes :=
  let size := Int.bmod content.length 4294967296
  ascii "HTTP/1.1 " ++ decimalInt statusCode ++ ascii " " ++ mgStatusMessage statusCode ++ ascii "\r\n" ++
    ascii "Connection: close\r\n" ++ ascii "Content-Type: application/json; charset=utf-8\r\n" ++
    (ascii "Content-Length:" ++ decimalInt size ++ ascii "\r\n\r\n") ++
    (if 0 < size then content.take size.toNat else [])

def sendHttpResponse404 : Bytes := sendHttpResponseBase 404 []

def sendHttpResponse (content : Bytes) : Bytes := sendHttpResponseBase 200 content

def shown (c : UInt8) : Bool := isPrint c || 128 ≤ c

structure Field where
  name : Bytes
  blanks : Nat
  value : Bytes

def Field.text (field : Field) : Bytes := field.name ++ 58 :: (List.replicate field.blanks 32 ++ field.value)

def lineEnd : Bytes := [13, 10]

def fieldsText (fields : List Field) : Bytes := fields.flatMap fun field => field.text ++ lineEnd

def headText (first : Bytes) (fields : List Field) : Bytes :=
  first ++ lineEnd ++ fieldsText fields ++ lineEnd

structure Sound (field : Field) : Prop where
  named : field.name ≠ []
  name : ∀ c ∈ field.name, shown c = true ∧ c ≠ 58 ∧ c ≠ 32
  filled : field.value ≠ []
  value : ∀ c ∈ field.value, shown c = true
  front : ∀ c, field.value.head? = some c → c ≠ 58 ∧ c ≠ 32
  back : field.value.getLast? ≠ some 32

theorem all_bytes {P : UInt8 → Prop} [DecidablePred P] {bytes : Bytes}
    (all : (bytes.all fun c => decide (P c)) = true) : ∀ c ∈ bytes, P c :=
  fun c member => of_decide_eq_true (List.all_eq_true.mp all c member)

theorem first_byte {P : UInt8 → Prop} [DecidablePred P] {bytes : Bytes}
    (all : (bytes.head?.all fun c => decide (P c)) = true) : ∀ c, bytes.head? = some c → P c := by
  intro c first
  rw [first] at all
  exact of_decide_eq_true all

theorem shown_line {c : UInt8} (plain : shown c = true) : c ≠ 0 ∧ c ≠ 10 ∧ c ≠ 13 := by
  refine ⟨?_, ?_, ?_⟩ <;> rintro rfl <;> revert plain <;> decide

theorem request_len_shown (line : Bytes) (plain : ∀ c ∈ line, shown c = true) (rest : Bytes) (i : Nat) :
    requestLenFrom i (line ++ rest) = requestLenFrom (i + line.length) rest := by
  induction line generalizing i with
  | nil => rfl
  | cons c line ih =>
      have here := plain c List.mem_cons_self
      obtain ⟨_, notLine, notReturn⟩ := shown_line here
      have passes : ¬ (!isPrint c && c ≠ 13 && c ≠ 10 && c < 128) = true := by
        intro bad
        simp only [shown, Bool.or_eq_true, decide_eq_true_eq] at here
        simp only [Bool.and_eq_true, Bool.not_eq_true', decide_eq_true_eq] at bad
        rcases here with printed | high
        · rw [printed] at bad
          cases bad.1.1.1
        · exact absurd bad.2 (by simpa [UInt8.not_lt] using high)
      rw [List.cons_append, requestLenFrom, if_neg passes, if_neg (fun both => notLine both.1),
        if_neg (fun both => notLine both.1), ih (fun c member => plain c (List.mem_cons_of_mem _ member))]
      congr 1
      simp only [List.length_cons]
      omega

theorem request_len_return (rest : Bytes) (i : Nat) :
    requestLenFrom i (13 :: rest) = requestLenFrom (i + 1) rest := by
  have passes : ¬ (!isPrint 13 && (13 : UInt8) ≠ 13 && (13 : UInt8) ≠ 10 && (13 : UInt8) < 128) = true := by decide
  have other : (13 : UInt8) ≠ 10 := by decide
  rw [requestLenFrom, if_neg passes, if_neg (fun both => other both.1), if_neg (fun both => other both.1)]

theorem request_len_feed (rest : Bytes) (i : Nat) : requestLenFrom i (10 :: rest) =
    if rest.take 1 = [10] then (i : Int) + 2 else if rest.take 2 = [13, 10] then (i : Int) + 3
    else requestLenFrom (i + 1) rest := by
  have passes : ¬ (!isPrint 10 && (10 : UInt8) ≠ 13 && (10 : UInt8) ≠ 10 && (10 : UInt8) < 128) = true := by decide
  rw [requestLenFrom, if_neg passes]
  simp

theorem request_len_line (c : UInt8) (plain : shown c = true) (rest : Bytes) (i : Nat) :
    requestLenFrom i (lineEnd ++ c :: rest) = requestLenFrom (i + 2) (c :: rest) := by
  obtain ⟨_, notFeed, notReturn⟩ := shown_line plain
  show requestLenFrom i (13 :: 10 :: c :: rest) = _
  rw [request_len_return, request_len_feed, if_neg (by simp [notFeed]), if_neg (by simp [notReturn])]

theorem request_len_blank (rest : Bytes) (i : Nat) :
    requestLenFrom i (lineEnd ++ (lineEnd ++ rest)) = i + 4 := by
  show requestLenFrom i (13 :: 10 :: 13 :: 10 :: rest) = _
  rw [request_len_return, request_len_feed, if_neg (by simp), if_pos (by simp)]
  push_cast
  omega

theorem field_text_shown {field : Field} (sound : Sound field) : ∀ c ∈ field.text, shown c = true := by
  intro c member
  rcases List.mem_append.mp member with name | rest
  · exact (sound.name c name).1
  · rcases List.mem_cons.mp rest with rfl | later
    · decide
    · rcases List.mem_append.mp later with blank | value
      · rw [List.eq_of_mem_replicate blank]
        decide
      · exact sound.value c value

theorem fields_text_front (field : Field) (rest : List Field) (sound : Sound field) :
    ∃ c tail, fieldsText (field :: rest) = c :: tail ∧ shown c = true ∧ c ≠ 58 ∧ c ≠ 32 := by
  obtain ⟨c, name, named⟩ := List.exists_cons_of_ne_nil sound.named
  refine ⟨c, _, by rw [fieldsText, List.flatMap_cons, Field.text, named]; rfl, ?_⟩
  exact sound.name c (named ▸ List.mem_cons_self)

theorem request_len_fields (fields : List Field) (sound : ∀ field ∈ fields, Sound field) (rest : Bytes)
    (i : Nat) : requestLenFrom i (lineEnd ++ (fieldsText fields ++ (lineEnd ++ rest))) =
      i + (fieldsText fields).length + 4 := by
  induction fields generalizing i with
  | nil =>
      rw [show fieldsText [] = [] from rfl, List.nil_append, request_len_blank]
      simp
  | cons field fields ih =>
      have here := sound field List.mem_cons_self
      have text : fieldsText (field :: fields) = field.text ++ (lineEnd ++ fieldsText fields) := by
        rw [fieldsText, List.flatMap_cons, List.append_assoc]
        rfl
      obtain ⟨c, tail, begins, plain, _⟩ := fields_text_front field fields here
      have step : requestLenFrom i (lineEnd ++ (fieldsText (field :: fields) ++ (lineEnd ++ rest))) =
          requestLenFrom (i + 2) (fieldsText (field :: fields) ++ (lineEnd ++ rest)) := by
        rw [begins]
        exact request_len_line c plain _ i
      rw [step, text, List.append_assoc, request_len_shown field.text (field_text_shown here),
        List.append_assoc, ih (fun field member => sound field (List.mem_cons_of_mem _ member))]
      simp only [List.length_append, lineEnd, List.length_cons, List.length_nil]
      push_cast
      omega

theorem request_len_head (first : Bytes) (fields : List Field) (plain : ∀ c ∈ first, shown c = true)
    (sound : ∀ field ∈ fields, Sound field) (rest : Bytes) :
    mgHttpGetRequestLen (headText first fields ++ rest) = (headText first fields).length := by
  rw [mgHttpGetRequestLen, headText, List.append_assoc, List.append_assoc, List.append_assoc,
    request_len_shown first plain, request_len_fields fields sound]
  simp only [List.length_append, lineEnd, List.length_cons, List.length_nil]
  push_cast
  omega

/-! ### What is read of a head -/

theorem mg_skip_word {delims word tail : Bytes} {stop : UInt8} (free : ∀ c ∈ word, isDelim delims c = false)
    (stops : isDelim delims stop = true) :
    mgSkip (word ++ stop :: tail) delims = (word, tail.dropWhile (isDelim delims)) := by
  have front : ∀ c ∈ word, (!isDelim delims c) = true := fun c member => by rw [free c member]; rfl
  rw [mgSkip, List.takeWhile_append_of_pos front, List.dropWhile_append_of_pos front]
  simp [stops]

theorem drop_delims {delims : Bytes} {c : UInt8} (apart : isDelim delims c = false) (tail : Bytes) :
    (c :: tail).dropWhile (isDelim delims) = c :: tail :=
  List.dropWhile_cons_of_neg (by simp [apart])

theorem delim_line {c : UInt8} (plain : shown c = true) : isDelim (ascii "\r\n") c = false := by
  obtain ⟨notEnd, notFeed, notReturn⟩ := shown_line plain
  have delims : ascii "\r\n" = [13, 10] := rfl
  simp [isDelim, delims, notEnd, notFeed, notReturn]

theorem delim_name {c : UInt8} (plain : shown c = true) (colon : c ≠ 58) (blank : c ≠ 32) :
    isDelim (ascii ": ") c = false := by
  obtain ⟨notEnd, _, _⟩ := shown_line plain
  have delims : ascii ": " = [58, 32] := rfl
  simp [isDelim, delims, notEnd, colon, blank]

theorem drop_blanks (count : Nat) (rest : Bytes) :
    (List.replicate count 32 ++ rest).dropWhile (isDelim (ascii ": ")) =
      rest.dropWhile (isDelim (ascii ": ")) := by
  induction count with
  | zero => rfl
  | succ count ih =>
      rw [List.replicate_succ, List.cons_append, List.dropWhile_cons_of_pos (by decide), ih]

theorem read_field (field : Field) (sound : Sound field) (rest : Bytes) :
    mgSkip (field.text ++ (lineEnd ++ rest)) (ascii ": ") = (field.name, field.value ++ (lineEnd ++ rest)) ∧
      mgSkip (field.value ++ (lineEnd ++ rest)) (ascii "\r\n") =
        (field.value, rest.dropWhile (isDelim (ascii "\r\n"))) ∧
      field.value.rdropWhile (· == 32) = field.value := by
  refine ⟨?_, ?_, ?_⟩
  · have text : field.text ++ (lineEnd ++ rest) =
        field.name ++ 58 :: (List.replicate field.blanks 32 ++ (field.value ++ (lineEnd ++ rest))) := by
      simp [Field.text]
    rw [text, mg_skip_word (fun c member => delim_name (sound.name c member).1 (sound.name c member).2.1
      (sound.name c member).2.2) (by decide), drop_blanks]
    obtain ⟨c, value, begins⟩ := List.exists_cons_of_ne_nil sound.filled
    have front := sound.front c (by rw [begins]; rfl)
    rw [begins, List.cons_append,
      drop_delims (delim_name (sound.value c (begins ▸ List.mem_cons_self)) front.1 front.2)]
  · show mgSkip (field.value ++ 13 :: (10 :: rest)) (ascii "\r\n") = _
    rw [mg_skip_word (fun c member => delim_line (sound.value c member)) (by decide),
      List.dropWhile_cons_of_pos (by decide)]
  · rw [List.rdropWhile_eq_self_iff]
    intro filled blank
    apply sound.back
    rw [List.getLast?_eq_some_getLast filled]
    simpa using blank

theorem read_fields (fields : List Field) (sound : ∀ field ∈ fields, Sound field) (turns slots : Nat)
    (enough : fields.length < turns) (room : fields.length < slots) :
    headersFrom turns slots ((fieldsText fields ++ lineEnd).dropWhile (isDelim (ascii "\r\n"))) =
      fields.map fun field => (field.name, field.value) := by
  induction fields generalizing turns slots with
  | nil =>
      obtain ⟨turns, rfl⟩ := Nat.exists_eq_add_of_lt enough
      obtain ⟨slots, rfl⟩ := Nat.exists_eq_add_of_lt room
      have gone : (fieldsText [] ++ lineEnd).dropWhile (isDelim (ascii "\r\n")) = [] := by decide
      rw [gone]
      simp [headersFrom, mgSkip]
  | cons field fields ih =>
      obtain ⟨turns, rfl⟩ : ∃ less, turns = less + 1 := ⟨turns - 1, by omega⟩
      obtain ⟨slots, rfl⟩ : ∃ less, slots = less + 1 := ⟨slots - 1, by omega⟩
      simp only [List.length_cons] at enough room
      have here := sound field List.mem_cons_self
      obtain ⟨c, tail, begins, plain, _⟩ := fields_text_front field fields here
      have kept : (fieldsText (field :: fields) ++ lineEnd).dropWhile (isDelim (ascii "\r\n")) =
          field.text ++ (lineEnd ++ (fieldsText fields ++ lineEnd)) := by
        rw [begins, List.cons_append, drop_delims (delim_line plain), ← List.cons_append, ← begins, fieldsText,
          List.flatMap_cons, List.append_assoc, List.append_assoc]
        rfl
      obtain ⟨name, line, value⟩ := read_field field here (fieldsText fields ++ lineEnd)
      -- mongoose goes on behind a name without a value, and stops where both are empty
      have goes : ¬ (field.name ≠ [] ∧ field.value = []) := fun both => here.filled both.2
      have reads : ¬ (field.name = [] ∨ field.value = []) := fun either => either.elim here.named here.filled
      rw [kept, headersFrom]
      simp only [name, line, value]
      rw [if_neg goes, if_neg reads, ih (fun field member => sound field (List.mem_cons_of_mem _ member)) turns
        slots (by omega) (by omega), List.map_cons]

theorem digit_plain {c : UInt8} (digit : isDigit c = true) :
    shown c = true ∧ isSpace c = false ∧ c ≠ 45 ∧ c ≠ 43 ∧ c ≠ 58 ∧ c ≠ 32 := by
  have range : 48 ≤ c.toNat ∧ c.toNat ≤ 57 := by
    simpa [isDigit, UInt8.le_iff_toNat_le] using digit
  simp only [shown, isPrint, isSpace, Bool.or_eq_true, Bool.and_eq_true, decide_eq_true_eq, Bool.or_eq_false_iff,
    Bool.and_eq_false_iff, decide_eq_false_iff_not, beq_eq_false_iff_ne, ne_eq, UInt8.le_iff_toNat_le,
    UInt8.lt_iff_toNat_lt, ← UInt8.toNat_inj, UInt8.reduceToNat]
  omega

theorem strtol_decimal (number : Nat) (small : number < 9223372036854775808) (rest : Bytes)
    (ends : ∀ c, rest.head? = some c → isDigit c = false) :
    strtol (RedisCommands.decimal number ++ rest) = number := by
  obtain ⟨c, tail, begins⟩ := List.exists_cons_of_ne_nil (PlainCommands.decimal_filled number)
  have digit := decimal_digits number c (begins ▸ List.mem_cons_self)
  obtain ⟨_, notSpace, notMinus, notPlus, _⟩ := digit_plain digit
  have front : (RedisCommands.decimal number ++ rest).dropWhile isSpace = RedisCommands.decimal number ++ rest := by
    rw [begins, List.cons_append, List.dropWhile_cons_of_neg (by simp [notSpace])]
  have head : (RedisCommands.decimal number ++ rest).head? = some c := by rw [begins]; rfl
  unfold strtol
  simp only [front, head, Option.some.injEq, notMinus, notPlus, if_false, decimal_read number rest ends]
  omega

theorem atoi_decimal (number : Nat) (small : number < 2147483648) (rest : Bytes)
    (ends : ∀ c, rest.head? = some c → isDigit c = false) :
    atoi (RedisCommands.decimal number ++ rest) = number := by
  rw [atoi, strtol_decimal number (by omega) rest ends, Int.bmod_def]
  omega

theorem parse_headers (fields : List Field) (sound : ∀ field ∈ fields, Sound field) (few : fields.length < 39) :
    mgHttpParseHeaders ((lineEnd ++ fieldsText fields ++ lineEnd).dropWhile (isDelim (ascii "\r\n"))) =
      fields.map fun field => (field.name, field.value) := by
  have front : (lineEnd ++ fieldsText fields ++ lineEnd).dropWhile (isDelim (ascii "\r\n")) =
      (fieldsText fields ++ lineEnd).dropWhile (isDelim (ascii "\r\n")) := by
    show (13 :: 10 :: (fieldsText fields ++ lineEnd)).dropWhile _ = _
    rw [List.dropWhile_cons_of_pos (by decide), List.dropWhile_cons_of_pos (by decide)]
  -- the parser has a turn for each byte left, which are enough for the fields
  have long : ∀ fields : List Field, (∀ field ∈ fields, Sound field) →
      fields.length ≤ (fieldsText fields).length := by
    intro fields sound
    induction fields with
    | nil => simp
    | cons field fields ih =>
        have later := ih fun field member => sound field (List.mem_cons_of_mem _ member)
        have text : fieldsText (field :: fields) = field.text ++ (lineEnd ++ fieldsText fields) := by
          rw [fieldsText, List.flatMap_cons, List.append_assoc]
          rfl
        simp only [text, List.length_cons, List.length_append, lineEnd]
        omega
  rw [front, mgHttpParseHeaders]
  apply read_fields fields sound _ _ _ few
  cases fields with
  | nil => simp
  | cons field fields =>
      obtain ⟨c, tail, begins, plain, _⟩ := fields_text_front field fields (sound field List.mem_cons_self)
      have whole := long (field :: fields) sound
      have kept : (fieldsText (field :: fields) ++ lineEnd).dropWhile (isDelim (ascii "\r\n")) =
          fieldsText (field :: fields) ++ lineEnd := by
        rw [begins, List.cons_append, drop_delims (delim_line plain)]
      rw [kept, List.length_append]
      omega

def statusLine (statusCode : Int) : Bytes :=
  ascii "HTTP/1.1 " ++ decimalInt statusCode ++ ascii " " ++ mgStatusMessage statusCode

theorem status_message_shown (statusCode : Int) : ∀ c ∈ mgStatusMessage statusCode, shown c = true := by
  unfold mgStatusMessage
  split <;> exact all_bytes (by decide)

theorem delim_space {c : UInt8} (plain : shown c = true) (blank : c ≠ 32) : isDelim (ascii " ") c = false := by
  obtain ⟨notEnd, _, _⟩ := shown_line plain
  have delims : ascii " " = [32] := rfl
  simp [isDelim, delims, notEnd, blank]

theorem parse_status (statusCode : Nat) (low : 100 ≤ statusCode) (high : statusCode < 600)
    (fields : List Field) (sound : ∀ field ∈ fields, Sound field) (few : fields.length < 39) :
    parseStatusLine (headText (statusLine statusCode) fields) =
      (true, ⟨[], [], statusCode, fields.map fun field => (field.name, field.value)⟩) := by
  let reason := mgStatusMessage statusCode
  let behind := lineEnd ++ fieldsText fields ++ lineEnd
  have text : headText (statusLine statusCode) fields =
      ascii "HTTP/1.1" ++ 32 :: (RedisCommands.decimal statusCode ++ 32 :: (reason ++ behind)) := by
    have line : ascii "HTTP/1.1 " = ascii "HTTP/1.1" ++ [32] := rfl
    have blank : ascii " " = [32] := rfl
    simp only [headText, statusLine, line, blank, decimalInt, List.append_assoc, List.cons_append, List.nil_append,
      reason, behind]
  obtain ⟨c, tail, begins⟩ := List.exists_cons_of_ne_nil (PlainCommands.decimal_filled statusCode)
  have digit := decimal_digits statusCode c (begins ▸ List.mem_cons_self)
  obtain ⟨plain, _, _, _, _, notBlank⟩ := digit_plain digit
  have three : (RedisCommands.decimal statusCode).length = 3 := by
    rw [RedisCommands.decimal, List.length_map]
    have most := (@Nat.length_toDigits_le_iff 10 statusCode 3 (by decide) (by decide)).mpr (by omega)
    have least := (@Nat.length_toDigits_le_iff 10 statusCode 2 (by decide) (by decide)).not.mpr (by omega)
    omega
  have rest : (mgSkip (headText (statusLine statusCode) fields) (ascii " ")).2 =
      RedisCommands.decimal statusCode ++ 32 :: (reason ++ behind) := by
    rw [text, mg_skip_word (all_bytes (by decide)) (by decide), begins, List.cons_append,
      drop_delims (delim_space plain notBlank)]
  -- mg_parse_http looks for a digit, and for a blank three further on
  have head : (RedisCommands.decimal statusCode ++ 32 :: (reason ++ behind)).head?.map isDigit = some true := by
    rw [begins]
    exact congrArg some digit
  have space : (RedisCommands.decimal statusCode ++ 32 :: (reason ++ behind))[3]? = some 32 := by
    rw [List.getElem?_append_right (by omega), three]
    rfl
  have number : atoi (RedisCommands.decimal statusCode ++ 32 :: (reason ++ behind)) = statusCode := by
    apply atoi_decimal statusCode (by omega)
    intro c first
    cases first
    decide
  have later : (RedisCommands.decimal statusCode ++ 32 :: (reason ++ behind)).drop 4 = reason ++ behind := by
    rw [List.drop_append, three, List.drop_eq_nil_of_le (by omega)]
    rfl
  have fieldsOf : (mgSkip (reason ++ behind) (ascii "\r\n")).2 = behind.dropWhile (isDelim (ascii "\r\n")) := by
    show (mgSkip (reason ++ 13 :: (10 :: (fieldsText fields ++ lineEnd))) (ascii "\r\n")).2 = _
    rw [mg_skip_word (fun c member => delim_line (status_message_shown statusCode c member)) (by decide)]
    rfl
  have whole : ¬ (RedisCommands.decimal statusCode ++ 32 :: (reason ++ behind)).length < 4 := by
    simp only [List.length_append, List.length_cons, three]
    omega
  unfold parseStatusLine
  simp only [rest, head, space, number, later, fieldsOf]
  rw [if_neg (by simpa using whole), if_neg (by omega), parse_headers fields sound few]
  rfl

structure Asked where
  method : Bytes
  target : Bytes
  version : Bytes
  called : method ≠ [] ∧ ∀ c ∈ method, shown c = true ∧ c ≠ 32
  named : target ≠ [] ∧ ∀ c ∈ target, shown c = true ∧ c ≠ 32
  spoken : ∀ c ∈ version, shown c = true
  front : ∀ c, version.head? = some c → c ≠ 32

def Asked.line (asked : Asked) : Bytes := asked.method ++ 32 :: (asked.target ++ 32 :: asked.version)

theorem parse_asked (asked : Asked) (fields : List Field) (sound : ∀ field ∈ fields, Sound field)
    (few : fields.length < 39) : parseRequestLine (headText asked.line fields) =
      (true, ⟨asked.method, asked.target.takeWhile (· ≠ 63), 0,
        fields.map fun field => (field.name, field.value)⟩) := by
  let behind := lineEnd ++ fieldsText fields ++ lineEnd
  have text : headText asked.line fields =
      asked.method ++ 32 :: (asked.target ++ 32 :: (asked.version ++ behind)) := by
    simp [headText, Asked.line, behind]
  have spaced : ∀ word : Bytes, (∀ c ∈ word, shown c = true ∧ c ≠ 32) →
      ∀ c ∈ word, isDelim (ascii " ") c = false := fun word all c member =>
    delim_space (all c member).1 (all c member).2
  obtain ⟨first, target, begins⟩ := List.exists_cons_of_ne_nil asked.named.1
  have method : mgSkip (headText asked.line fields) (ascii " ") =
      (asked.method, asked.target ++ 32 :: (asked.version ++ behind)) := by
    have solid := spaced asked.target asked.named.2 first (begins ▸ List.mem_cons_self)
    rw [text, mg_skip_word (spaced asked.method asked.called.2) (by decide)]
    rw [begins, List.cons_append, drop_delims solid]
  have uri : mgSkip (asked.target ++ 32 :: (asked.version ++ behind)) (ascii " ") =
      (asked.target, asked.version ++ behind) := by
    rw [mg_skip_word (spaced asked.target asked.named.2) (by decide)]
    -- without a version the line end stands behind the blank
    cases version : asked.version with
    | nil =>
        show (asked.target, (13 :: 10 :: (fieldsText fields ++ lineEnd)).dropWhile _) = _
        rw [drop_delims (by decide)]
        rfl
    | cons c later =>
        have plain := asked.spoken c (version ▸ List.mem_cons_self)
        have solid := delim_space plain (asked.front c (by rw [version]; rfl))
        rw [List.cons_append, drop_delims solid]
  have proto : (mgSkip (asked.version ++ behind) (ascii "\r\n")).2 = behind.dropWhile (isDelim (ascii "\r\n")) := by
    show (mgSkip (asked.version ++ 13 :: (10 :: (fieldsText fields ++ lineEnd))) (ascii "\r\n")).2 = _
    rw [mg_skip_word (fun c member => delim_line (asked.spoken c member)) (by decide)]
    rfl
  -- each word has taken something, which the source tests by comparing pointers
  have lengths : ¬ ((headText asked.line fields).length ≤
      (asked.target ++ 32 :: (asked.version ++ behind)).length ∨
      (asked.target ++ 32 :: (asked.version ++ behind)).length ≤ (asked.version ++ behind).length) := by
    simp only [text, List.length_append, List.length_cons]
    omega
  unfold parseRequestLine
  simp only [method, uri, proto]
  rw [if_neg lengths, parse_headers fields sound few]
  rfl

/-! ### Messages -/

theorem parse_whole (isReq : Bool) (first : Bytes) (fields : List Field) (hm : HttpMessage)
    (plain : ∀ c ∈ first, shown c = true) (sound : ∀ field ∈ fields, Sound field)
    (begins : ∀ c, first.head? = some c → isSpace c = false) (filled : first ≠ [])
    (read : (if isReq then parseRequestLine (headText first fields)
      else parseStatusLine (headText first fields)) = (true, hm)) :
    mgParseHttp (headText first fields) isReq = (((headText first fields).length : Int), some hm) := by
  have length := request_len_head first fields plain sound []
  rw [List.append_nil] at length
  obtain ⟨c, rest, solid⟩ := List.exists_cons_of_ne_nil filled
  have front : (headText first fields).dropWhile isSpace = headText first fields := by
    have here := begins c (by rw [solid]; rfl)
    rw [headText, solid, List.cons_append, List.cons_append, List.cons_append,
      List.dropWhile_cons_of_neg (by simp [here])]
  have positive : ¬ ((headText first fields).length : Int) ≤ 0 := by
    simp only [headText, solid, List.length_append, List.length_cons]
    omega
  rw [mgParseHttp, length, if_neg positive, Int.toNat_natCast, List.take_length, parseHead, front, read]
  rfl

/-- A message whose body is the one its head announces. -/
structure Plain {isReq : Bool} (message : Message isReq) (parsed : ParsedHttp) : Prop where
  whole : isChunked message.hm = false
  announced : lengthValue message.hm = message.body.length
  read : parseHttp message.body false message.hm = some parsed

theorem next_plain {isReq : Bool} (message : Message isReq) (parsed : ParsedHttp) (plain : Plain message parsed)
    (later : Bytes) : (httpParser isReq).next (message.head ++ (message.body ++ later)) =
      some (parsed, message.head.length + message.body.length) := by
  have positive := head_positive message
  have whole : 0 < (mgParseHttp message.head isReq).1 := by
    rw [message.whole]
    exact Int.natCast_pos.mpr positive
  have read : mgParseHttp (message.head ++ (message.body ++ later)) isReq =
      ((message.head.length : Int), some message.hm) := by
    rw [mg_parse_http_append message.head _ isReq (mg_parse_http_len message.head isReq whole ▸ whole),
      message.whole]
  have body : ((message.head ++ (message.body ++ later)).drop ((message.head.length : Int)).toNat).take
      ((message.body.length : Int)).toNat = message.body := by
    rw [Int.toNat_natCast, Int.toNat_natCast, List.drop_left, List.take_left]
  have held : ¬ ((message.head.length : Int) ≤ 0 ∨
      ((message.head ++ (message.body ++ later)).length : Int) <
        (message.head.length : Int) + (message.body.length : Int) ∨ (message.body.length : Int) < 0) := by
    simp only [List.length_append]
    omega
  show nextMessage isReq _ = _
  unfold nextMessage
  simp only [read, plain.announced, plain.whole, body, plain.read]
  rw [if_neg held]
  simp

theorem items_plain {isReq : Bool} (messages : List (Message isReq)) (parsed : Message isReq → ParsedHttp)
    (plain : ∀ message ∈ messages, Plain message (parsed message)) :
    items (httpParser isReq) (streamOf messages) = messages.map parsed := by
  induction messages with
  | nil =>
      apply items_none
      show nextMessage isReq [] = none
      simp [nextMessage, mgParseHttp, mgHttpGetRequestLen, requestLenFrom]
  | cons message messages ih =>
      have rest := ih fun other member => plain other (List.mem_cons_of_mem _ member)
      rw [stream_of_cons, items_some (next_plain message _ (plain message List.mem_cons_self) _),
        ← List.append_assoc, ← List.length_append, List.drop_left, rest, List.map_cons]

theorem plain_stream_read (isConnector : Bool) (messages : List (Message (!isConnector)))
    (parsed : Message (!isConnector) → ParsedHttp)
    (plain : ∀ message ∈ messages, Plain message (parsed message)) (start : Buffer)
    (labels : List HttpSegments.Label) (link : Link) (steady : Steady start) (empty : contents start = [])
    (run : Run (Guarded (Step isConnector) (Whole isConnector)) (opened start (streamOf messages)) labels link)
    (idle : link.phase = .idle) (arrived : link.pending = []) :
    link.closed = false ∧ link.packets = messages.map parsed := by
  have inv : Decoding isConnector (streamOf messages) link :=
    run_invariant (Decoding isConnector (streamOf messages))
      (decoding_step isConnector (streamOf messages)) run
      (opened_decoding isConnector messages start steady empty)
  have all := inv.parsed
  rw [arrived, List.append_nil] at all
  exact ⟨inv.kept, (parsed_all all (inv.drained idle)).trans (items_plain messages parsed plain)⟩

theorem plain_fetches (isConnector : Bool) (conn : SocketObject.NetIdentify) (stream : Bytes)
    (messages : List (Message (!isConnector))) (parsed : Message (!isConnector) → ParsedHttp)
    (plain : ∀ message ∈ messages, Plain message (parsed message)) (link : Link)
    (straight : Straight isConnector stream link) (fetching : link.phase = .fetching)
    (held : contents link.buffer = streamOf messages) :
    ∃ labels last, Run (Guarded (Step isConnector) (Whole isConnector)) link labels last ∧
      last.phase = .idle ∧ last.pending = [] := by
  induction messages generalizing link with
  | nil =>
      have whole := straight_whole straight
      have none : nextMessage (!isConnector) (contents link.buffer) = none := by
        rw [held]
        simp [streamOf, nextMessage, mgParseHttp, mgHttpGetRequestLen, requestLenFrom]
      -- no message is left: the call waits
      rcases http_call isConnector conn link.buffer straight.decoding.steady (straight.decoding.room fetching)
        whole.contiguous (decoding_accepted straight.decoding) whole.fit with
        ⟨call, _⟩ | ⟨_, _, _, found⟩ | ⟨_, chunks, _⟩
      · have taken : Step isConnector link (.fetch conn) _ := Step.fetch link conn .null fetching (by rw [call])
        exact ⟨_, _, Run.next ⟨taken, whole⟩ (Run.refl _), rfl, straight.arrived⟩
      · rw [none] at found
        cases found
      · rw [held] at chunks
        simp [streamOf, holdsChunks, mgParseHttp, mgHttpGetRequestLen, requestLenFrom] at chunks
  | cons message messages ih =>
      have whole := straight_whole straight
      have here := plain message List.mem_cons_self
      have next := next_plain message (parsed message) here (streamOf messages)
      rw [← stream_of_cons, ← held] at next
      -- a message is in front: the call returns it and leaves the rest in the buffer
      rcases http_call isConnector conn link.buffer straight.decoding.steady (straight.decoding.room fetching)
        whole.contiguous (decoding_accepted straight.decoding) whole.fit with
        ⟨_, none⟩ | ⟨found, size, call, same⟩ | ⟨_, chunks, _⟩
      · rw [show (httpParser (!isConnector)).next _ = nextMessage (!isConnector) _ from rfl, none] at next
        cases next
      · obtain ⟨rfl, rfl⟩ := Prod.mk.inj (Option.some.inj (same.symm.trans next))
        have taken : Step isConnector link (.fetch conn) _ :=
          Step.fetch link conn (.packet ⟨conn, parsed message⟩) fetching (by rw [call])
        have kept := straight_step isConnector stream link conn _ straight taken
        have bounds := (next_message_progress _ _ _ _ same).2
        rw [contents_length] at bounds
        have rest : contents (fetched link (getHttpPacket isConnector conn link.buffer).after
            (.packet ⟨conn, parsed message⟩)).buffer = streamOf messages := by
          have steady := straight.decoding.steady
          rw [fetched, call]
          show contents (removeDate link.buffer _) = _
          rw [remove_date_contents link.buffer _ steady.sound steady.sized bounds, held, stream_of_cons,
            ← List.append_assoc, ← List.length_append, List.drop_left]
        obtain ⟨labels, last, run, done⟩ := ih
          (fun other member => plain other (List.mem_cons_of_mem _ member)) _ kept fetching rest
        exact ⟨_, last, Run.next ⟨taken, whole⟩ run, done⟩
      -- chunked it is not, as its head says
      · have front := mg_parse_http_append message.head (message.body ++ streamOf messages) (!isConnector) (by
          have positive := head_positive message
          have read : 0 < (mgParseHttp message.head (!isConnector)).1 := by
            rw [message.whole]
            exact Int.natCast_pos.mpr positive
          exact mg_parse_http_len message.head (!isConnector) read ▸ read)
        rw [held, stream_of_cons, holdsChunks, front, message.whole] at chunks
        simp [here.whole] at chunks

theorem plain_stream_arrives (isConnector : Bool) (conn : SocketObject.NetIdentify)
    (messages : List (Message (!isConnector))) (parsed : Message (!isConnector) → ParsedHttp)
    (plain : ∀ message ∈ messages, Plain message (parsed message)) (size : Nat)
    (filled : streamOf messages ≠ []) (fits : (streamOf messages).length ≤ size)
    (small : size + 2 * additionalSize < 2147483648) :
    ∃ labels link, Run (Guarded (Step isConnector) (Whole isConnector))
      (opened (create size) (streamOf messages)) labels link ∧ link.phase = .idle ∧ link.pending = [] := by
  have length := List.length_pos_iff.mpr filled
  have start : Steady (create size) :=
    ⟨create_sound size (by omega), by unfold IntSized create; dsimp only; omega⟩
  have offered := Nat.le_trans fits (create_offers size start small)
  -- one recv takes all, the next one blocks, and the rest is fetching
  have first : Step isConnector (opened (create size) (streamOf messages)) (.recv (streamOf messages)) _ :=
    Step.recv _ (streamOf messages) [] (by simp [opened]) filled (by simp [opened]) offered
  have second : Step isConnector _ .blocked _ := Step.blocked
    { opened (create size) (streamOf messages) with
      buffer := receive (recvGuard (create size)) (streamOf messages), pending := [], phase := .receiving }
    (by simp)
  have room : getEmptySize (create size) < 24 → (create size).bufferSize + additionalSize < 2147483648 := by
    intro _
    unfold create
    dsimp only
    omega
  have straight := received_straight isConnector messages size _ _ (by omega) small first second
  have guarded := recv_guard_spec (create size) start.sound start.sized room
  have grown : (recvGuard (create size)).bufferSize ≤ size + additionalSize := by
    unfold recvGuard
    split
    · rw [(re_alloc_buffer_spec (create size) start.sound start.sized).2.2.1]
      exact Nat.le_refl _
    · exact Nat.le_add_right _ _
  have kept := (receive_spec _ (streamOf messages) guarded.1 guarded.2.1 guarded.2.2.2 offered).2.2
  have appended := TcpFraming.receive_steady (create size) (streamOf messages) start room offered
  have again : (receive (recvGuard (create size)) (streamOf messages)).bufferSize + additionalSize < 2147483648 := by
    rw [kept]
    omega
  have held := (recv_guard_spec _ appended.1.sound appended.1.sized (fun _ => again)).2.2.1.trans appended.2
  rw [show contents (create size) = [] from rfl, List.nil_append] at held
  obtain ⟨labels, last, run, done⟩ := plain_fetches isConnector conn _ messages parsed plain _ straight rfl
    (by dsimp only; exact held)
  exact ⟨_, last, Run.next ⟨first, room⟩ (Run.next ⟨second, fun _ => again⟩ run), done⟩

/-! ### Responses -/

/-- The total size of a packet with this text does not wrap, whatever its tags. -/
def Short (text : Bytes) : Prop := text.length + 24 < 65536

theorem short_representable {p : Packet} (short : Short p.data) : PacketLength.Representable p := by
  have head : headSizeOf p ≤ 20 := by
    unfold headSizeOf
    split
    · decide
    · decide
  unfold Short at short
  unfold PacketLength.Representable
  omega

/-- A response that has a status line: mongoose takes codes from 100 to 599. -/
structure Reply where
  statusCode : Nat
  content : Bytes
  low : 100 ≤ statusCode
  high : statusCode < 600
  small : content.length < 2147483648
  short : Short (sendHttpResponseBase statusCode content)

def Reply.text (reply : Reply) : Bytes := sendHttpResponseBase reply.statusCode reply.content

def Reply.packet (pIdentify : NetIdentify) (reply : Reply) : Packet :=
  { pIdentify with msgId := .miHttpInnerResponse, data := reply.text }

theorem reply_sendable (pIdentify : NetIdentify) (reply : Reply) : Sendable (reply.packet pIdentify) :=
  ⟨rfl, short_representable reply.short⟩

theorem reply_texts (pIdentify : NetIdentify) (replies : List Reply) :
    texts (replies.map (Reply.packet pIdentify)) = (replies.map Reply.text).flatten := by
  rw [texts, List.flatMap_def, List.map_map]
  rfl

def responseFields (size : Int) : List Field :=
  [⟨ascii "Connection", 1, ascii "close"⟩,
    ⟨ascii "Content-Type", 1, ascii "application/json; charset=utf-8"⟩,
    ⟨ascii "Content-Length", 0, decimalInt size⟩]

def Reply.head (reply : Reply) : Bytes :=
  headText (statusLine reply.statusCode) (responseFields reply.content.length)

theorem reply_text (reply : Reply) : reply.text = reply.head ++ reply.content := by
  have small := reply.small
  have size : Int.bmod reply.content.length 4294967296 = reply.content.length := by
    rw [Int.bmod_def]
    omega
  have body : (if (0 : Int) < reply.content.length then reply.content.take (reply.content.length : Int).toNat
      else []) = reply.content := by
    cases content : reply.content with
    | nil => rfl
    | cons c rest =>
        rw [if_pos (by simp only [List.length_cons]; omega), Int.toNat_natCast, List.take_length]
  unfold Reply.text sendHttpResponseBase
  simp only [size, body]
  have close : ascii "Connection: close\r\n" = ascii "Connection" ++ 58 :: (List.replicate 1 32 ++ ascii "close") ++
      lineEnd := by decide
  have kind : ascii "Content-Type: application/json; charset=utf-8\r\n" = ascii "Content-Type" ++
      58 :: (List.replicate 1 32 ++ ascii "application/json; charset=utf-8") ++ lineEnd := by decide
  have length : ascii "Content-Length:" = ascii "Content-Length" ++ [58] := by decide
  have feed : ascii "\r\n" = lineEnd := by decide
  have blank : ascii "\r\n\r\n" = lineEnd ++ lineEnd := by decide
  rw [close, kind, length, feed, blank]
  simp [Reply.head, headText, statusLine, responseFields, fieldsText, Field.text]

theorem response_sound (size : Nat) : ∀ field ∈ responseFields size, Sound field := by
  intro field member
  simp only [responseFields, List.mem_cons, List.not_mem_nil, or_false] at member
  rcases member with rfl | rfl | rfl
  · exact ⟨by decide, all_bytes (by decide), by decide, all_bytes (by decide), first_byte (by decide), by decide⟩
  · exact ⟨by decide, all_bytes (by decide), by decide, all_bytes (by decide), first_byte (by decide), by decide⟩
  · have digits : ∀ c ∈ RedisCommands.decimal size, shown c = true ∧ c ≠ 58 ∧ c ≠ 32 := by
      intro c member
      obtain ⟨plain, _, _, _, colon, blank⟩ := digit_plain (decimal_digits size c member)
      exact ⟨plain, colon, blank⟩
    have name : ascii "Content-Length" ≠ [] ∧
        ∀ c ∈ ascii "Content-Length", shown c = true ∧ c ≠ 58 ∧ c ≠ 32 :=
      ⟨by decide, all_bytes (by decide)⟩
    refine ⟨name.1, name.2, PlainCommands.decimal_filled size, fun c member => (digits c member).1, ?_, ?_⟩
    · intro c first
      exact (digits c (List.mem_of_mem_head? first)).2
    · intro last
      exact (digits 32 (List.mem_of_getLast? last)).2.2 rfl

theorem status_line_shown (statusCode : Nat) : ∀ c ∈ statusLine statusCode, shown c = true := by
  have fixed : ∀ c ∈ ascii "HTTP/1.1 " ++ ascii " ", shown c = true := all_bytes (by decide)
  intro c member
  simp only [statusLine, List.mem_append] at member
  rcases member with ((version | number) | blank) | reason
  · exact fixed c (List.mem_append_left _ version)
  · exact (digit_plain (decimal_digits statusCode c number)).1
  · exact fixed c (List.mem_append_right _ blank)
  · exact status_message_shown statusCode c reason

def Reply.hm (reply : Reply) : HttpMessage :=
  ⟨[], [], reply.statusCode, (responseFields reply.content.length).map fun field => (field.name, field.value)⟩

theorem reply_length (reply : Reply) : lengthValue reply.hm = reply.content.length := by
  have small := reply.small
  have found : contentLength reply.hm = some (RedisCommands.decimal reply.content.length) := by
    have first : sameText (ascii "Connection") (ascii "Content-Length") = false := by decide
    have second : sameText (ascii "Content-Type") (ascii "Content-Length") = false := by decide
    have third : sameText (ascii "Content-Length") (ascii "Content-Length") = true := by decide
    simp [contentLength, mgGetHttpHeader, Reply.hm, responseFields, first, second, third, decimalInt]
  have value := strtol_decimal reply.content.length (by omega) [] (fun c none => by cases none)
  rw [List.append_nil] at value
  rw [lengthValue, found]
  exact value

theorem reply_whole (reply : Reply) : mgParseHttp reply.head false = ((reply.head.length : Int), some reply.hm) := by
  apply parse_whole false _ _ _ (status_line_shown reply.statusCode) (response_sound reply.content.length)
  · intro c first
    cases first
    decide
  · simp [statusLine, ascii]
  · exact parse_status reply.statusCode reply.low reply.high _ (response_sound reply.content.length) (by
      simp [responseFields])

def Reply.message (reply : Reply) : Message false :=
  ⟨reply.head, reply.content, reply.hm, reply_whole reply, .inl (reply_length reply)⟩

def Reply.parsed (reply : Reply) : ParsedHttp := ⟨.miHttpOuterResponse, ⟨reply.content, reply.statusCode⟩⟩

theorem body_plain (content : Bytes) : bodyOf content false = some content := by
  unfold bodyOf
  split
  · rename_i empty
    rw [empty]
  · rfl

theorem reply_plain (reply : Reply) : Plain reply.message reply.parsed := by
  refine ⟨?_, reply_length reply, ?_⟩
  · have first : sameText (ascii "Connection") (ascii "Transfer-Encoding") = false := by decide
    have second : sameText (ascii "Content-Type") (ascii "Transfer-Encoding") = false := by decide
    have third : sameText (ascii "Content-Length") (ascii "Transfer-Encoding") = false := by decide
    simp [isChunked, mgGetHttpHeader, Reply.message, Reply.hm, responseFields, first, second, third]
  · show parseHttp reply.content false reply.hm = _
    rw [parseHttp, body_plain]
    simp [Reply.hm, Reply.parsed]

theorem stream_replies (replies : List Reply) :
    streamOf (replies.map Reply.message) = (replies.map Reply.text).flatten := by
  rw [streamOf, List.map_map]
  congr 1
  apply List.map_congr_left
  intro reply _
  exact (reply_text reply).symm

/-- What a listener writes as responses, a connector reads as those responses:
each with its status and content, in order, however the bytes leave and arrive,
where its ring does not wrap. -/
theorem replies_are_read (pIdentify : NetIdentify) (replies : List Reply) (stream : Bytes) (start : Buffer)
    (labels : List HttpSegments.Label) (link : Link)
    (sends : Sends (replies.map (Reply.packet pIdentify)) stream)
    (steady : Steady start) (empty : contents start = [])
    (run : Run (Guarded (Step true) (Whole true)) (opened start stream) labels link)
    (idle : link.phase = .idle) (arrived : link.pending = []) :
    link.closed = false ∧ link.packets = replies.map Reply.parsed := by
  have sendable : ∀ p ∈ replies.map (Reply.packet pIdentify), Sendable p := by
    intro p member
    obtain ⟨reply, _, rfl⟩ := List.mem_map.mp member
    exact reply_sendable pIdentify reply
  rw [sends_texts sendable sends, reply_texts, ← stream_replies] at run
  -- a message tells its reply again by its body and its status
  have again := plain_stream_read true (replies.map Reply.message)
    (fun message => ⟨.miHttpOuterResponse, ⟨message.body, message.hm.respCode⟩⟩)
    (fun message member => by
      obtain ⟨reply, _, rfl⟩ := List.mem_map.mp member
      exact reply_plain reply) start labels link steady empty run idle arrived
  refine ⟨again.1, again.2.trans ?_⟩
  rw [List.map_map]
  rfl

def notFound : Reply := ⟨404, [], by decide, by decide, by decide, by unfold Short; decide +kernel⟩

def okReply : Reply := ⟨200, ascii "{}", by decide, by decide, by decide, by unfold Short; decide⟩

theorem replies_are_read_two : ∃ stream labels link,
    Sends (List.map (Reply.packet client) [notFound, okReply]) stream ∧
      Run (Step true) (opened (create 1024) stream) labels link ∧
      link.packets = [⟨.miHttpOuterResponse, ⟨[], 404⟩⟩, ⟨.miHttpOuterResponse, ⟨ascii "{}", 200⟩⟩] := by
  have sized : streamOf ([notFound, okReply].map Reply.message) ≠ [] ∧
      (streamOf ([notFound, okReply].map Reply.message)).length ≤ 1024 := by
    rw [stream_replies]
    decide +kernel
  obtain ⟨labels, link, run, idle, arrived⟩ := plain_stream_arrives true client _
    (fun message => ⟨.miHttpOuterResponse, ⟨message.body, message.hm.respCode⟩⟩) (fun message member => by
      obtain ⟨reply, _, rfl⟩ := List.mem_map.mp member
      exact reply_plain reply) 1024 sized.1 sized.2 (by decide)
  have sends := sends_all (List.map (Reply.packet client) [notFound, okReply]) (fun p member => by
    obtain ⟨reply, _, rfl⟩ := List.mem_map.mp member
    exact reply_sendable client reply)
  rw [stream_replies, ← reply_texts client] at run
  have read := replies_are_read client [notFound, okReply] _ (create 1024) labels link sends
    ⟨create_sound 1024 (by decide), by unfold IntSized; decide⟩ rfl run idle arrived
  exact ⟨_, labels, link, sends, guarded_run run, read.2⟩

/-! ### Requests -/

/-- A request whose host, path and parameters have no blanks and no control
bytes, the host no colon and the path no `?`. -/
structure Call where
  ip : Bytes
  port : Int
  method : Bytes
  pParams : Option Params
  host : ip ≠ [] ∧ ∀ c ∈ ip, shown c = true ∧ c ≠ 58 ∧ c ≠ 32
  path : method ≠ [] ∧ ∀ c ∈ method, shown c = true ∧ c ≠ 32 ∧ c ≠ 63
  clean : ∀ params, pParams = some params → ∀ param ∈ params.entries,
    (∀ c ∈ param.1, shown c = true ∧ c ≠ 32) ∧ ∀ c ∈ param.2, shown c = true ∧ c ≠ 32
  short : Short (sendHttpRequest ip port method pParams)

def Call.text (call : Call) : Bytes := sendHttpRequest call.ip call.port call.method call.pParams

def Call.packet (pIdentify : NetIdentify) (call : Call) : Packet :=
  { pIdentify with msgId := .miHttpOuterRequest, data := call.text }

theorem call_sendable (pIdentify : NetIdentify) (call : Call) : Sendable (call.packet pIdentify) :=
  ⟨rfl, short_representable call.short⟩

theorem call_texts (pIdentify : NetIdentify) (calls : List Call) :
    texts (calls.map (Call.packet pIdentify)) = (calls.map Call.text).flatten := by
  rw [texts, List.flatMap_def, List.map_map]
  rfl

def queryOf : Option Params → Bytes
  | none => []
  | some params => ascii "?" ++ queryText params

def requestFields (ip : Bytes) (port : Int) : List Field :=
  [⟨ascii "Host", 1, ip ++ ascii ":" ++ decimalInt port⟩,
    ⟨ascii "Content-Type", 1, ascii "application/json; charset=utf-8"⟩,
    ⟨ascii "Accept", 1, ascii "*/*,text/*,text/html"⟩]

theorem query_text_clean (params : Params) (clean : ∀ param ∈ params.entries,
    (∀ c ∈ param.1, shown c = true ∧ c ≠ 32) ∧ ∀ c ∈ param.2, shown c = true ∧ c ≠ 32) :
    ∀ c ∈ queryText params, shown c = true ∧ c ≠ 32 := by
  have marks : ∀ c ∈ ascii "=" ++ ascii "&", shown c = true ∧ c ≠ 32 := all_bytes (by decide)
  intro c member
  obtain ⟨param, held, inside⟩ := List.mem_flatMap.mp member
  simp only [List.mem_append] at inside
  rcases inside with ((name | equals) | value) | ends
  · exact (clean param held).1 c name
  · exact marks c (List.mem_append_left _ equals)
  · exact (clean param held).2 c value
  · exact marks c (List.mem_append_right _ ends)

theorem query_clean (call : Call) : ∀ c ∈ queryOf call.pParams, shown c = true ∧ c ≠ 32 := by
  have marks : ∀ c ∈ ascii "?", shown c = true ∧ c ≠ 32 := all_bytes (by decide)
  intro c member
  cases params : call.pParams with
  | none =>
      rw [params] at member
      cases member
  | some given =>
      rw [params] at member
      rcases List.mem_append.mp member with mark | query
      · exact marks c mark
      · exact query_text_clean given (call.clean given params) c query

def Call.asked (call : Call) : Asked where
  method := ascii "GET"
  target := call.method ++ queryOf call.pParams
  version := ascii "HTTP/1.1"
  called := ⟨by decide, all_bytes (by decide)⟩
  named := by
    refine ⟨fun empty => call.path.1 (List.append_eq_nil_iff.mp empty).1, fun c member => ?_⟩
    rcases List.mem_append.mp member with path | query
    · exact ⟨(call.path.2 c path).1, (call.path.2 c path).2.1⟩
    · exact query_clean call c query
  spoken := all_bytes (by decide)
  front := first_byte (by decide)

def Call.head (call : Call) : Bytes := headText call.asked.line (requestFields call.ip call.port)

theorem call_text (call : Call) : call.text = call.head := by
  have whole : cStr call.ip = call.ip := by
    apply c_str_of_clean
    intro zero
    exact (shown_line (call.host.2 0 zero).1).1 rfl
  have get : ascii "GET " = ascii "GET" ++ [32] := by decide
  have version : ascii " HTTP/1.1" = 32 :: ascii "HTTP/1.1" := by decide
  have host : ascii "Host: " = ascii "Host" ++ 58 :: List.replicate 1 32 := by decide
  have kind : ascii "Content-Type: application/json; charset=utf-8" = ascii "Content-Type" ++
      58 :: (List.replicate 1 32 ++ ascii "application/json; charset=utf-8") := by decide
  have accept : ascii "Accept: */*,text/*,text/html" = ascii "Accept" ++
      58 :: (List.replicate 1 32 ++ ascii "*/*,text/*,text/html") := by decide
  have feed : ascii "\r\n" = lineEnd := by decide
  unfold Call.text sendHttpRequest
  simp only [whole, get, version, host, kind, accept, feed]
  simp [Call.head, headText, Call.asked, Asked.line, requestFields, fieldsText, Field.text]
  cases call.pParams <;> rfl

theorem decimal_int_shown (number : Int) : ∀ c ∈ decimalInt number, shown c = true ∧ c ≠ 32 := by
  intro c member
  cases number with
  | ofNat number =>
      obtain ⟨plain, _, _, _, _, blank⟩ := digit_plain (decimal_digits number c member)
      exact ⟨plain, blank⟩
  | negSucc number =>
      rcases List.mem_cons.mp member with rfl | later
      · decide
      · obtain ⟨plain, _, _, _, _, blank⟩ := digit_plain (decimal_digits _ c later)
        exact ⟨plain, blank⟩

theorem request_sound (call : Call) : ∀ field ∈ requestFields call.ip call.port, Sound field := by
  intro field member
  simp only [requestFields, List.mem_cons, List.not_mem_nil, or_false] at member
  -- Host is the only field made of the arguments of the call
  rcases member with rfl | rfl | rfl
  · have name : ascii "Host" ≠ [] ∧ ∀ c ∈ ascii "Host", shown c = true ∧ c ≠ 58 ∧ c ≠ 32 :=
      ⟨by decide, all_bytes (by decide)⟩
    have colons : ∀ c ∈ ascii ":", shown c = true ∧ c ≠ 32 := all_bytes (by decide)
    have all : ∀ c ∈ call.ip ++ ascii ":" ++ decimalInt call.port, shown c = true ∧ c ≠ 32 := by
      intro c member
      rcases List.mem_append.mp member with front | port
      · rcases List.mem_append.mp front with ip | colon
        · exact ⟨(call.host.2 c ip).1, (call.host.2 c ip).2.2⟩
        · exact colons c colon
      · exact decimal_int_shown call.port c port
    obtain ⟨first, rest, begins⟩ := List.exists_cons_of_ne_nil call.host.1
    refine ⟨name.1, name.2, ?_, fun c member => (all c member).1, ?_, ?_⟩
    · simp [begins]
    · intro c front
      rw [begins] at front
      cases front
      exact (call.host.2 first (begins ▸ List.mem_cons_self)).2
    · intro last
      exact (all 32 (List.mem_of_getLast? last)).2 rfl
  · exact ⟨by decide, all_bytes (by decide), by decide, all_bytes (by decide), first_byte (by decide), by decide⟩
  · exact ⟨by decide, all_bytes (by decide), by decide, all_bytes (by decide), first_byte (by decide), by decide⟩

def Call.hm (call : Call) : HttpMessage :=
  ⟨ascii "GET", call.method, 0, (requestFields call.ip call.port).map fun field => (field.name, field.value)⟩

theorem call_whole (call : Call) : mgParseHttp call.head true = ((call.head.length : Int), some call.hm) := by
  have line : ∀ c ∈ call.asked.line, shown c = true := by
    intro c member
    simp only [Asked.line, List.mem_append, List.mem_cons] at member
    rcases member with method | rfl | target | rfl | version
    · exact (call.asked.called.2 c method).1
    · decide
    · exact (call.asked.named.2 c target).1
    · decide
    · exact call.asked.spoken c version
  -- mongoose cuts the target at the question mark, and the method has none
  have target : call.asked.target.takeWhile (· ≠ 63) = call.method := by
    have front : ∀ c ∈ call.method, decide (c ≠ 63) = true := fun c member =>
      decide_eq_true (call.path.2 c member).2.2
    show (call.method ++ queryOf call.pParams).takeWhile (· ≠ 63) = call.method
    rw [List.takeWhile_append_of_pos front]
    cases call.pParams with
    | none => simp [queryOf]
    | some params =>
        show call.method ++ ((63 : UInt8) :: queryText params).takeWhile _ = _
        rw [List.takeWhile_cons_of_neg (by decide), List.append_nil]
  have read := parse_asked call.asked (requestFields call.ip call.port) (request_sound call) (by
    simp [requestFields])
  rw [target] at read
  apply parse_whole true _ _ _ line (request_sound call)
  · intro c first
    cases first
    decide
  · simp [Asked.line, Call.asked, ascii]
  · exact read

theorem call_length (call : Call) : lengthValue call.hm = 0 := by
  have first : sameText (ascii "Host") (ascii "Content-Length") = false := by decide
  have second : sameText (ascii "Content-Type") (ascii "Content-Length") = false := by decide
  have third : sameText (ascii "Accept") (ascii "Content-Length") = false := by decide
  simp [lengthValue, contentLength, mgGetHttpHeader, Call.hm, requestFields, first, second, third]

def Call.message (call : Call) : Message true :=
  ⟨call.head, [], call.hm, call_whole call, .inl (call_length call)⟩

/-- A login request, or one that `Recv` answers with 404. -/
def Call.parsed (call : Call) : ParsedHttp :=
  if sameText call.method (ascii "/login") then ⟨.miHttpRequestLogin, ⟨[], 0⟩⟩
  else ⟨.miHttpRequestBad, ⟨[], 0⟩⟩

theorem call_plain (call : Call) : Plain call.message call.parsed := by
  refine ⟨?_, call_length call, ?_⟩
  · have first : sameText (ascii "Host") (ascii "Transfer-Encoding") = false := by decide
    have second : sameText (ascii "Content-Type") (ascii "Transfer-Encoding") = false := by decide
    have third : sameText (ascii "Accept") (ascii "Transfer-Encoding") = false := by decide
    simp [isChunked, mgGetHttpHeader, Call.message, Call.hm, requestFields, first, second, third]
  · show parseHttp [] false call.hm = _
    have get : sameText (ascii "GET") (ascii "GET") = true := by decide
    have filled : ascii "GET" ≠ [] := by decide
    rw [parseHttp, body_plain, Option.map_some, Call.hm, Call.parsed, if_pos filled]
    simp only [get, true_and]

theorem stream_calls (calls : List Call) :
    streamOf (calls.map Call.message) = (calls.map Call.text).flatten := by
  rw [streamOf, List.map_map]
  congr 1
  apply List.map_congr_left
  intro call _
  exact (List.append_nil _).trans (call_text call).symm

def pathPacket (message : Message true) : ParsedHttp :=
  if sameText message.hm.uri (ascii "/login") then ⟨.miHttpRequestLogin, ⟨[], 0⟩⟩
  else ⟨.miHttpRequestBad, ⟨[], 0⟩⟩

/-- What a connector writes as requests, a listener reads as login requests and
bad ones, each by its path alone, however the bytes leave and arrive, where its
ring does not wrap. -/
theorem calls_are_read (pIdentify : NetIdentify) (calls : List Call) (stream : Bytes) (start : Buffer)
    (labels : List HttpSegments.Label) (link : Link)
    (sends : Sends (calls.map (Call.packet pIdentify)) stream)
    (steady : Steady start) (empty : contents start = [])
    (run : Run (Guarded (Step false) (Whole false)) (opened start stream) labels link)
    (idle : link.phase = .idle) (arrived : link.pending = []) :
    link.closed = false ∧ link.packets = calls.map Call.parsed := by
  have sendable : ∀ p ∈ calls.map (Call.packet pIdentify), Sendable p := by
    intro p member
    obtain ⟨call, _, rfl⟩ := List.mem_map.mp member
    exact call_sendable pIdentify call
  rw [sends_texts sendable sends, call_texts, ← stream_calls] at run
  have again := plain_stream_read false (calls.map Call.message) pathPacket
    (fun message member => by
      obtain ⟨call, _, rfl⟩ := List.mem_map.mp member
      exact call_plain call) start labels link steady empty run idle arrived
  refine ⟨again.1, again.2.trans ?_⟩
  rw [List.map_map]
  rfl

def loginCall : Call where
  ip := ascii "127.0.0.1"
  port := 7071
  method := ascii "/login"
  pParams := none
  host := ⟨by decide, all_bytes (by decide)⟩
  path := ⟨by decide, all_bytes (by decide)⟩
  clean := fun _ given => by cases given
  short := by unfold Short; decide +kernel

theorem calls_are_read_one : ∃ stream labels link,
    Sends (List.map (Call.packet client) [loginCall]) stream ∧
      Run (Step false) (opened (create 1024) stream) labels link ∧
      link.packets = [⟨.miHttpRequestLogin, ⟨[], 0⟩⟩] := by
  have sized : streamOf ([loginCall].map Call.message) ≠ [] ∧
      (streamOf ([loginCall].map Call.message)).length ≤ 1024 := by
    rw [stream_calls]
    decide +kernel
  obtain ⟨labels, link, run, idle, arrived⟩ := plain_stream_arrives false client _ pathPacket
    (fun message member => by
      obtain ⟨call, _, rfl⟩ := List.mem_map.mp member
      exact call_plain call) 1024 sized.1 sized.2 (by decide)
  have sends := sends_all (List.map (Call.packet client) [loginCall]) (fun p member => by
    obtain ⟨call, _, rfl⟩ := List.mem_map.mp member
    exact call_sendable client call)
  rw [stream_calls, ← call_texts client] at run
  have read := calls_are_read client [loginCall] _ (create 1024) labels link sends
    ⟨create_sound 1024 (by decide), by unfold IntSized; decide⟩ rfl run idle arrived
  exact ⟨_, labels, link, sends, guarded_run run, read.2⟩

end GameBook.HttpReplies
