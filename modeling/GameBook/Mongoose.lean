import Mathlib.Data.List.DropRight
import Mathlib.Data.List.TakeWhile

/-!
What the servers use of the vendored mongoose.c: whether a head is complete,
its request or status line, and its fields. A `mg_str` is the bytes it covers,
and a pointer into the head is the text from there to the end of the head.
-/

namespace GameBook.Mongoose

abbrev Bytes := List UInt8

def ascii (text : String) : Bytes := text.toList.map fun c => UInt8.ofNat c.toNat

/-! The C library, in the C locale. -/

def isPrint (c : UInt8) : Bool := 32 ≤ c && c < 127

def isSpace (c : UInt8) : Bool := c == 32 || (9 ≤ c && c ≤ 13)

def isDigit (c : UInt8) : Bool := 48 ≤ c && c ≤ 57

def toLower (c : UInt8) : UInt8 := if 65 ≤ c && c ≤ 90 then c + 32 else c

def decimal (text : Bytes) : Int :=
  (text.takeWhile isDigit).foldl (fun value digit => 10 * value + (digit.toNat - 48 : Nat)) 0

/-- `strtol(s, NULL, 10)`: 64 bits, saturated. -/
def strtol (s : Bytes) : Int :=
  let text := s.dropWhile isSpace
  if text.head? = some 45 then max (-9223372036854775808) (-decimal text.tail)
  else if text.head? = some 43 then min 9223372036854775807 (decimal text.tail)
  else min 9223372036854775807 (decimal text)

def atoi (s : Bytes) : Int := (strtol s).bmod 4294967296

/-! mongoose.c -/

def requestLenFrom (i : Nat) : Bytes → Int
  | [] => 0
  | c :: rest =>
      if !isPrint c && c ≠ 13 && c ≠ 10 && c < 128 then -1
      else if c = 10 ∧ rest.take 1 = [10] then i + 2
      else if c = 10 ∧ rest.take 2 = [13, 10] then i + 3
      else requestLenFrom (i + 1) rest

/-- Negative for a byte no head may have, 0 while the blank line is missing,
else the length of the head. -/
def mgHttpGetRequestLen (s : Bytes) : Int := requestLenFrom 0 s

/-- `strchr` also finds the NUL that ends the delimiters. -/
def isDelim (delims : Bytes) (c : UInt8) : Bool := delims.contains c || c == 0

def mgSkip (s delims : Bytes) : Bytes × Bytes :=
  (s.takeWhile fun c => !isDelim delims c,
    (s.dropWhile fun c => !isDelim delims c).dropWhile (isDelim delims))

/-- `mg_vcasecmp(..) == 0`, and `mg_ncasecmp` on texts of one length. -/
def sameText (first second : Bytes) : Bool := first.map toLower == second.map toLower

structure HttpMessage where
  method : Bytes
  uri : Bytes
  respCode : Int
  /-- `header_names` and `header_values` up to the first empty name. -/
  headers : List (Bytes × Bytes)

def blank : HttpMessage := ⟨[], [], 0, []⟩

/-- The loop of `mg_http_parse_headers` with `slots` names left to fill. A turn
that goes on has removed a name, so the length of the text bounds the turns. -/
def headersFrom : Nat → Nat → Bytes → List (Bytes × Bytes)
  | 0, _, _ => []
  | _, 0, _ => []
  | turns + 1, slots + 1, s =>
      let name := mgSkip s (ascii ": ")
      let line := mgSkip name.2 (ascii "\r\n")
      let value := line.1.rdropWhile (· == 32)
      -- a field without a value takes no slot
      if name.1 ≠ [] ∧ value = [] then headersFrom turns (slots + 1) line.2
      else if name.1 = [] ∨ value = [] then []
      else (name.1, value) :: headersFrom turns slots line.2

/-- `MG_MAX_HTTP_HEADERS` is 40, and one slot stays empty. -/
def mgHttpParseHeaders (s : Bytes) : List (Bytes × Bytes) := headersFrom (s.length + 1) 39 s

def parseRequestLine (s : Bytes) : Bool × HttpMessage :=
  let method := mgSkip s (ascii " ")
  let uri := mgSkip method.2 (ascii " ")
  let proto := mgSkip uri.2 (ascii "\r\n")
  -- `uri.p <= method.p || proto.p <= uri.p`
  if s.length ≤ method.2.length ∨ method.2.length ≤ uri.2.length then
    (false, { blank with method := method.1, uri := uri.1 })
  else
    (true, { blank with
      method := method.1
      -- up to the query string
      uri := uri.1.takeWhile (· ≠ 63)
      headers := mgHttpParseHeaders proto.2 })

def parseStatusLine (s : Bytes) : Bool × HttpMessage :=
  let rest := (mgSkip s (ascii " ")).2
  if rest.length < 4 ∨ (rest.head?.map isDigit) ≠ some true ∨ rest[3]? ≠ some 32 then (false, blank)
  else if atoi rest < 100 ∨ atoi rest ≥ 600 then (false, { blank with respCode := atoi rest })
  else
    (true, { blank with
      respCode := atoi rest
      headers := mgHttpParseHeaders (mgSkip (rest.drop 4) (ascii "\r\n")).2 })

def parseHead (isReq : Bool) (head : Bytes) : Bool × HttpMessage :=
  if isReq then parseRequestLine (head.dropWhile isSpace)
  else parseStatusLine (head.dropWhile isSpace)

/-- The result, and the message where it was written at all: without a complete
head `hm` is as it was before the call. -/
def mgParseHttp (s : Bytes) (isReq : Bool) : Int × Option HttpMessage :=
  if mgHttpGetRequestLen s ≤ 0 then (mgHttpGetRequestLen s, none)
  else
    let parsed := parseHead isReq (s.take (mgHttpGetRequestLen s).toNat)
    (if parsed.1 then mgHttpGetRequestLen s else -1, some parsed.2)

def mgGetHttpHeader (hm : HttpMessage) (name : Bytes) : Option Bytes :=
  (hm.headers.find? fun field => sameText field.1 name).map (·.2)

/-! The length of a head. It is decided by the bytes up to its blank line. -/

theorem request_len_from_bounds (s : Bytes) (i : Nat) :
    requestLenFrom i s ≤ i + s.length ∧ (requestLenFrom i s ≤ 0 ∨ (i : Int) < requestLenFrom i s) := by
  induction s generalizing i with
  | nil =>
      rw [requestLenFrom]
      simp
  | cons c rest ih =>
      have later := ih (i + 1)
      rw [requestLenFrom]
      split
      · simp
        omega
      · split
        · rename_i blankLine
          have held : 1 ≤ rest.length := by
            have same := congrArg List.length blankLine.2
            simp at same
            omega
          simp
          omega
        · split
          · rename_i blankLine
            have held : 2 ≤ rest.length := by
              have same := congrArg List.length blankLine.2
              simp at same
              omega
            simp
            omega
          · simp
            omega

theorem request_len_from_ge (s : Bytes) (i : Nat) : -1 ≤ requestLenFrom i s := by
  induction s generalizing i with
  | nil =>
      rw [requestLenFrom]
      decide
  | cons c rest ih =>
      rw [requestLenFrom]
      split
      · exact Int.le_refl _
      · split
        · omega
        · split
          · omega
          · exact ih (i + 1)

theorem request_len_le (s : Bytes) : mgHttpGetRequestLen s ≤ s.length := by
  have bounds := (request_len_from_bounds s 0).1
  rw [mgHttpGetRequestLen]
  omega

theorem request_len_from_append (s more : Bytes) (i : Nat) (decided : requestLenFrom i s ≠ 0) :
    requestLenFrom i (s ++ more) = requestLenFrom i s := by
  induction s generalizing i with
  | nil =>
      rw [requestLenFrom] at decided
      exact absurd rfl decided
  | cons c rest ih =>
      rw [requestLenFrom] at decided
      rw [List.cons_append, requestLenFrom, requestLenFrom]
      split
      · rfl
      · rename_i printable
        rw [if_neg printable] at decided
        match rest with
        | [] =>
            -- the last byte there is decides nothing
            simp [requestLenFrom] at decided
        | [next] =>
            by_cases ends : c = 10 ∧ next = 10
            · simp [ends.1, ends.2]
            · have open1 : ¬ (c = 10 ∧ List.take 1 [next] = [10]) := by simpa using ends
              have open2 : ¬ (c = 10 ∧ List.take 2 [next] = [13, 10]) := by simp
              rw [if_neg open1, if_neg open2] at decided
              have goesOn := ih (i + 1) decided
              have open3 : ¬ (c = 10 ∧ List.take 1 ([next] ++ more) = [10]) := by simpa using ends
              rw [if_neg open1, if_neg open2, if_neg open3]
              by_cases carriage : next = 13
              · subst carriage
                simp [requestLenFrom, isPrint] at decided
              · have open4 : ¬ (c = 10 ∧ List.take 2 ([next] ++ more) = [13, 10]) := by
                  simp [carriage]
                rw [if_neg open4, goesOn]
        | next :: third :: rest =>
            have same1 : List.take 1 (next :: third :: rest ++ more) = List.take 1 (next :: third :: rest) := rfl
            have same2 : List.take 2 (next :: third :: rest ++ more) = List.take 2 (next :: third :: rest) := rfl
            rw [same1, same2]
            by_cases open1 : c = 10 ∧ List.take 1 (next :: third :: rest) = [10]
            · rw [if_pos open1, if_pos open1]
            · rw [if_neg open1] at decided
              rw [if_neg open1, if_neg open1]
              by_cases open2 : c = 10 ∧ List.take 2 (next :: third :: rest) = [13, 10]
              · rw [if_pos open2, if_pos open2]
              · rw [if_neg open2] at decided
                rw [if_neg open2, if_neg open2]
                exact ih (i + 1) decided

theorem request_len_append (s more : Bytes) (decided : mgHttpGetRequestLen s ≠ 0) :
    mgHttpGetRequestLen (s ++ more) = mgHttpGetRequestLen s :=
  request_len_from_append s more 0 decided

theorem request_len_part (part more : Bytes) (short : part.length < mgHttpGetRequestLen (part ++ more)) :
    mgHttpGetRequestLen part = 0 := by
  by_contra decided
  have same := request_len_append part more decided
  have within := request_len_le part
  omega

/-! `mg_parse_http` -/

theorem mg_parse_http_len (s : Bytes) (isReq : Bool) (whole : 0 < (mgParseHttp s isReq).1) :
    (mgParseHttp s isReq).1 = mgHttpGetRequestLen s := by
  unfold mgParseHttp at whole ⊢
  split at whole
  · dsimp only at whole
    omega
  · rename_i positive
    rw [if_neg positive]
    dsimp only at whole ⊢
    split at whole
    · rename_i ok
      rw [if_pos ok]
    · omega

theorem mg_parse_http_some (s : Bytes) (isReq : Bool) (whole : 0 < (mgParseHttp s isReq).1) :
    ∃ hm, mgParseHttp s isReq = ((mgParseHttp s isReq).1, some hm) := by
  unfold mgParseHttp at whole ⊢
  split at whole
  · dsimp only at whole
    omega
  · rename_i positive
    rw [if_neg positive]
    exact ⟨_, rfl⟩

theorem mg_parse_http_append (s more : Bytes) (isReq : Bool) (whole : 0 < mgHttpGetRequestLen s) :
    mgParseHttp (s ++ more) isReq = mgParseHttp s isReq := by
  have same := request_len_append s more (by omega)
  have within := request_len_le s
  rw [mgParseHttp, mgParseHttp, same, List.take_append_of_le_length (by omega)]

theorem mg_parse_http_part (part more : Bytes) (isReq : Bool)
    (short : part.length < (mgParseHttp (part ++ more) isReq).1) : mgParseHttp part isReq = (0, none) := by
  have length := mg_parse_http_len (part ++ more) isReq (by omega)
  have incomplete := request_len_part part more (by omega)
  rw [mgParseHttp, incomplete, if_pos (by omega)]

end GameBook.Mongoose
