import GameBook.HttpPacket
import GameBook.HttpText
import GameBook.WhileLoop

/-!
The loop over the chunks of a body in `ParseHttp`. It reads a size with `atoi`,
in decimal and up to the first byte that is no digit, wherever the range ends,
and takes the data up to the next line end. Against it stand the chunked coding
of http and the bytes that the range holds.
-/

namespace GameBook.ChunkedBody

open Mongoose HttpPacket WhileLoop
open HttpText (hexDigit take_while_before)

def crlf : Bytes := [13, 10]

def endsLine (c : UInt8) : Bool := isDelim crlf c

theorem mg_skip_stop (delims word rest : Bytes) (stop : UInt8)
    (inside : ∀ c ∈ word, isDelim delims c = false) (ends : isDelim delims stop = true) :
    mgSkip (word ++ stop :: rest) delims = (word, rest.dropWhile (isDelim delims)) := by
  have stays : ∀ c ∈ word, (!isDelim delims c) = true := by
    intro c member
    rw [inside c member, Bool.not_false]
  have leaves : ¬(!isDelim delims stop) = true := by simp [ends]
  rw [mgSkip, List.takeWhile_append_of_pos stays, List.dropWhile_append_of_pos stays,
    List.takeWhile_cons_of_neg (p := fun c => !isDelim delims c) leaves,
    List.dropWhile_cons_of_neg (p := fun c => !isDelim delims c) leaves,
    List.dropWhile_cons_of_pos ends, List.append_nil]

theorem mg_skip_line (word rest : Bytes) (inside : ∀ c ∈ word, endsLine c = false) :
    mgSkip (word ++ crlf ++ rest) crlf = (word, rest.dropWhile endsLine) := by
  have line : word ++ crlf ++ rest = word ++ 13 :: 10 :: rest := by simp [crlf]
  have feed : isDelim crlf 10 = true := by decide
  rw [line, mg_skip_stop crlf word _ 13 inside (by decide), List.dropWhile_cons_of_pos feed]
  rfl

theorem mg_skip_word_ends (s : Bytes) : ∀ c ∈ (mgSkip s crlf).1, endsLine c = false := by
  intro c member
  have stays := List.mem_takeWhile_imp member
  simpa [endsLine] using stays

theorem mg_skip_suffix (s : Bytes) : (mgSkip s crlf).2 <:+ s :=
  (List.dropWhile_suffix _).trans (List.dropWhile_suffix _)

theorem mg_skip_shorter (s : Bytes) (more : s ≠ []) : (mgSkip s crlf).2.length < s.length := by
  cases s with
  | nil => exact absurd rfl more
  | cons c rest =>
      have tail := ((List.dropWhile_suffix (l := rest.dropWhile fun c => !isDelim crlf c)
        (isDelim crlf)).trans (List.dropWhile_suffix _)).length_le
      have line := (List.dropWhile_suffix (l := rest) (isDelim crlf)).length_le
      change (((c :: rest).dropWhile fun c => !isDelim crlf c).dropWhile (isDelim crlf)).length < _
      cases delim : isDelim crlf c with
      | true =>
          have same : ((c :: rest).dropWhile fun c => !isDelim crlf c) = c :: rest := by simp [delim]
          rw [same, List.dropWhile_cons_of_pos delim, List.length_cons]
          omega
      | false =>
          have same : ((c :: rest).dropWhile fun c => !isDelim crlf c) =
              rest.dropWhile fun c => !isDelim crlf c := by simp [delim]
          rw [same, List.length_cons]
          omega

def behindSign (text : Bytes) : Bytes := if text.head? = some 45 ∨ text.head? = some 43 then text.tail else text

theorem behind_number_eq (s : Bytes) :
    behindNumber s = (behindSign (s.dropWhile isSpace)).dropWhile isDigit := rfl

theorem behind_sign_suffix (text : Bytes) : behindSign text <:+ text := by
  unfold behindSign
  split
  · exact List.tail_suffix text
  · exact List.suffix_refl text

theorem behind_sign_append (text more : Bytes) (present : text ≠ []) :
    behindSign (text ++ more) = behindSign text ++ more := by
  cases text with
  | nil => exact absurd rfl present
  | cons c rest =>
      have first : (c :: rest ++ more).head? = (c :: rest).head? := rfl
      rw [behindSign, behindSign, first]
      by_cases sign : (c :: rest).head? = some 45 ∨ (c :: rest).head? = some 43
      · rw [if_pos sign, if_pos sign]
        rfl
      · rw [if_neg sign, if_neg sign]

theorem behind_number_suffix (s : Bytes) : behindNumber s <:+ s := by
  rw [behind_number_eq]
  exact (List.dropWhile_suffix _).trans ((behind_sign_suffix _).trans (List.dropWhile_suffix _))

theorem drop_while_append (p : UInt8 → Bool) (s more : Bytes) (left : s.dropWhile p ≠ []) :
    (s ++ more).dropWhile p = s.dropWhile p ++ more := by
  rw [List.dropWhile_append, if_neg (by simpa using left)]

theorem take_while_append (p : UInt8 → Bool) (s more : Bytes) (left : s.dropWhile p ≠ []) :
    (s ++ more).takeWhile p = s.takeWhile p := by
  rw [List.takeWhile_append, if_neg]
  intro all
  have parts := congrArg List.length (List.takeWhile_append_dropWhile (p := p) (l := s))
  rw [List.length_append] at parts
  exact left (List.length_eq_zero_iff.mp (by omega))

theorem behind_number_append (s more : Bytes) (ends : behindNumber s ≠ []) :
    behindNumber (s ++ more) = behindNumber s ++ more := by
  have sign : behindSign (s.dropWhile isSpace) ≠ [] := by
    intro none
    rw [behind_number_eq, none] at ends
    exact ends rfl
  have text : s.dropWhile isSpace ≠ [] := by
    intro none
    rw [none] at sign
    exact sign rfl
  rw [behind_number_eq] at ends
  rw [behind_number_eq, behind_number_eq, drop_while_append _ _ _ text, behind_sign_append _ _ text,
    drop_while_append _ _ _ ends]

theorem behind_number_within (s more : Bytes) (out : behindNumber s = []) :
    (behindNumber (s ++ more)).length ≤ more.length := by
  rw [behind_number_eq] at out
  rw [behind_number_eq]
  by_cases blank : s.dropWhile isSpace = []
  · have spaces := List.dropWhile_eq_nil_iff.mp blank
    rw [List.dropWhile_append_of_pos spaces]
    exact (behind_number_suffix more).length_le
  · rw [drop_while_append _ _ _ blank, behind_sign_append _ _ blank,
      List.dropWhile_append_of_pos (List.dropWhile_eq_nil_iff.mp out)]
    exact (List.dropWhile_suffix _).length_le

theorem digit_facts (c : UInt8) (digit : isDigit c = true) :
    isSpace c = false ∧ c ≠ 45 ∧ c ≠ 43 := by
  simp [isDigit, isSpace, UInt8.le_iff_toNat_le, ← UInt8.toNat_inj] at *
  omega

theorem all_digits_behind (s : Bytes) (digits : ∀ c ∈ s, isDigit c = true) : behindNumber s = [] := by
  cases s with
  | nil => rfl
  | cons c rest =>
      obtain ⟨solid, minus, plus⟩ := digit_facts c (digits c (by simp))
      rw [behind_number_eq, List.dropWhile_cons_of_neg (by simp [solid]), behindSign,
        if_neg (by simp [minus, plus])]
      exact List.dropWhile_eq_nil_iff.mpr digits

theorem behind_number_cons (c : UInt8) (s : Bytes) (out : behindNumber (c :: s) = []) :
    behindNumber s = [] := by
  cases space : isSpace c with
  | true => rwa [behind_number_eq, List.dropWhile_cons_of_pos space] at out
  | false =>
      rw [behind_number_eq, List.dropWhile_cons_of_neg (by simp [space]), behindSign] at out
      apply all_digits_behind
      split at out
      · exact List.dropWhile_eq_nil_iff.mp out
      · intro digit member
        exact List.dropWhile_eq_nil_iff.mp out digit (List.mem_cons_of_mem c member)

theorem behind_number_later {s tail : Bytes} (part : tail <:+ s) (out : behindNumber s = []) :
    behindNumber tail = [] := by
  obtain ⟨front, rfl⟩ := part
  induction front with
  | nil => exact out
  | cons c front ih => exact ih (behind_number_cons c _ out)

theorem decimal_append (text more : Bytes) (ends : text.dropWhile isDigit ≠ []) :
    decimal (text ++ more) = decimal text := by
  rw [decimal, decimal, take_while_append _ _ _ ends]

theorem strtol_append (s more : Bytes) (ends : behindNumber s ≠ []) : strtol (s ++ more) = strtol s := by
  rw [behind_number_eq] at ends
  have present : s.dropWhile isSpace ≠ [] := by
    intro none
    rw [none] at ends
    exact ends rfl
  unfold strtol
  rw [drop_while_append _ _ _ present]
  cases text : s.dropWhile isSpace with
  | nil => exact absurd text present
  | cons c rest =>
      rw [text, behindSign] at ends
      simp only [List.cons_append, List.head?_cons, List.tail_cons, Option.some.injEq] at ends ⊢
      by_cases minus : c = 45
      · rw [if_pos (.inl minus)] at ends
        rw [if_pos minus, if_pos minus, decimal_append _ _ ends]
      · rw [if_neg minus, if_neg minus]
        by_cases plus : c = 43
        · rw [if_pos (.inr plus)] at ends
          rw [if_pos plus, if_pos plus, decimal_append _ _ ends]
        · rw [if_neg (by simp [minus, plus])] at ends
          rw [if_neg plus, if_neg plus, ← List.cons_append, decimal_append _ _ ends]

theorem atoi_append (s more : Bytes) (ends : behindNumber s ≠ []) : atoi (s ++ more) = atoi s := by
  rw [atoi, atoi, strtol_append s more ends]

/-! The loop. Its range ends in front of `behind`, which `mg_skip` never reads. -/

structure ChunkLoop where
  /-- From `s` to `end`. -/
  s : Bytes
  body : Bytes

def nextChunk (s : Bytes) : Bytes := (mgSkip (mgSkip s crlf).2 crlf).2

def chunkData (s : Bytes) : Bytes := (mgSkip (mgSkip s crlf).2 crlf).1

def turn (behind : Bytes) (state : ChunkLoop) : ChunkLoop ⊕ Bytes :=
  if atoi (state.s ++ behind) = 0 then .inr state.body
  else .inl ⟨nextChunk state.s, state.body ++ chunkData state.s⟩

/-- How many bytes `atoi` looks at: the number, and the byte that ends it. -/
def atoiReads (text : Bytes) : Nat := text.length - (behindNumber text).length + 1

def ReadsWithin (behind : Bytes) (state : ChunkLoop) : Prop :=
  ∀ later, Reaches (turn behind) state later → atoiReads (later.s ++ behind) ≤ later.s.length

theorem turn_ends {behind : Bytes} {state : ChunkLoop} (zero : atoi (state.s ++ behind) = 0) :
    turn behind state = .inr state.body := if_pos zero

theorem turn_goes {behind : Bytes} {state : ChunkLoop} (more : atoi (state.s ++ behind) ≠ 0) :
    turn behind state = .inl ⟨nextChunk state.s, state.body ++ chunkData state.s⟩ := if_neg more

theorem turn_inl {behind : Bytes} {state next : ChunkLoop} (goes : turn behind state = .inl next) :
    next = ⟨nextChunk state.s, state.body ++ chunkData state.s⟩ := by
  unfold turn at goes
  split at goes
  · cases goes
  · exact (Sum.inl.inj goes).symm

theorem turn_inr {behind : Bytes} {state : ChunkLoop} {body : Bytes} (leaves : turn behind state = .inr body) :
    atoi (state.s ++ behind) = 0 ∧ body = state.body := by
  unfold turn at leaves
  split at leaves
  · rename_i zero
    exact ⟨zero, (Sum.inr.inj leaves).symm⟩
  · cases leaves

theorem atoi_reads_within (s behind : Bytes) :
    atoiReads (s ++ behind) ≤ s.length ↔ behindNumber s ≠ [] := by
  rw [atoiReads, List.length_append]
  constructor
  · intro inside out
    have goesOn := behind_number_within s behind out
    omega
  · intro ends
    have left := List.length_pos_iff.mpr ends
    have part := (behind_number_suffix s).length_le
    rw [behind_number_append s behind ends, List.length_append]
    omega

theorem reads_within_here {behind : Bytes} {state : ChunkLoop} (within : ReadsWithin behind state) :
    behindNumber state.s ≠ [] := (atoi_reads_within _ _).mp (within state .refl)

theorem reads_within_step {behind : Bytes} {state next : ChunkLoop} (goes : turn behind state = .inl next) :
    ReadsWithin behind state ↔ behindNumber state.s ≠ [] ∧ ReadsWithin behind next := by
  constructor
  · intro within
    exact ⟨reads_within_here within, fun later reached => within later (.head goes reached)⟩
  · rintro ⟨here, within⟩ later reached
    cases reached using Relation.ReflTransGen.head_induction_on with
    | refl => exact (atoi_reads_within _ _).mpr here
    | head first rest =>
        cases goes.symm.trans first
        exact within later rest

theorem reads_within_last {behind : Bytes} {state : ChunkLoop} {body : Bytes}
    (leaves : turn behind state = .inr body) : ReadsWithin behind state ↔ behindNumber state.s ≠ [] := by
  constructor
  · exact reads_within_here
  · intro here later reached
    cases reached using Relation.ReflTransGen.head_induction_on with
    | refl => exact (atoi_reads_within _ _).mpr here
    | head first _ => cases leaves.symm.trans first

theorem next_chunk_suffix (s : Bytes) : nextChunk s <:+ s :=
  (mg_skip_suffix _).trans (mg_skip_suffix s)

theorem next_chunk_shorter (s : Bytes) (more : s ≠ []) : (nextChunk s).length < s.length := by
  have second := (mg_skip_suffix (mgSkip s crlf).2).length_le
  have first := mg_skip_shorter s more
  exact Nat.lt_of_le_of_lt second first

theorem body_grows {behind : Bytes} {state : ChunkLoop} {body : Bytes}
    (ends : Ends (turn behind) state body) : state.body <+: body := by
  obtain ⟨fuel, done⟩ := ends
  apply loop_result (fun later => state.body <+: later.body) (fun body => state.body <+: body) _ _ fuel
    state body (List.prefix_refl _) done
  · intro later next grown goes
    rw [turn_inl goes]
    exact grown.trans (List.prefix_append _ _)
  · intro later last grown leaves
    rw [(turn_inr leaves).2]
    exact grown

/-- The loop that stays in its range is the one that is told how many turns it
may take, whatever lies behind the range. -/
theorem chunks_iff (behind : Bytes) (turns : Nat) (s body done : Bytes) (enough : s.length < turns) :
    chunks turns s = some body ↔
      Ends (turn behind) ⟨s, done⟩ (done ++ body) ∧ ReadsWithin behind ⟨s, done⟩ := by
  induction turns generalizing s body done with
  | zero => omega
  | succ turns ih =>
      rw [chunks]
      by_cases out : behindNumber s = []
      · rw [if_pos out]
        constructor
        · intro none
          cases none
        · rintro ⟨-, within⟩
          exact absurd out (reads_within_here within)
      · rw [if_neg out]
        have same := atoi_append s behind out
        by_cases zero : atoi s = 0
        · have leaves : turn behind ⟨s, done⟩ = .inr done := turn_ends (same.trans zero)
          rw [if_pos zero, reads_within_last leaves]
          constructor
          · intro empty
            cases empty
            rw [List.append_nil]
            exact ⟨ends_exit leaves, out⟩
          · rintro ⟨ends, -⟩
            have last := ends_unique ends (ends_exit leaves)
            rw [List.append_right_eq_self.mp last]
        · have goes : turn behind ⟨s, done⟩ = .inl ⟨nextChunk s, done ++ chunkData s⟩ :=
            turn_goes (by rwa [same])
          have shorter := next_chunk_shorter s (by
            intro none
            rw [none] at out
            exact out rfl)
          have rest := fun later => ih (nextChunk s) later (done ++ chunkData s) (by omega)
          rw [if_neg zero, reads_within_step goes]
          constructor
          · intro mapped
            obtain ⟨later, taken, whole⟩ := Option.map_eq_some_iff.mp mapped
            obtain ⟨ends, within⟩ := (rest later).mp taken
            rw [← whole]
            refine ⟨ends_step goes ?_, out, within⟩
            rwa [List.append_assoc] at ends
          · rintro ⟨ends, -, within⟩
            have later := ends_of_step goes ends
            obtain ⟨more, whole⟩ := body_grows later
            dsimp only at whole
            have parts : chunkData s ++ more = body := by
              rw [List.append_assoc] at whole
              exact List.append_cancel_left whole
            rw [← whole] at later
            exact Option.map_eq_some_iff.mpr ⟨more, (rest more).mpr ⟨later, within⟩, parts⟩

/-! The body of a chunked message: the loop runs where there is something to decode. -/

def Decodes (behind s body : Bytes) : Prop :=
  if s = [] then body = [] else Ends (turn behind) ⟨s, []⟩ body

def StaysWithin (behind s : Bytes) : Prop := s ≠ [] → ReadsWithin behind ⟨s, []⟩

theorem parse_http_decodes (behind s body : Bytes) (hm : HttpMessage) :
    (parseHttp s true hm).map (fun parsed => parsed.http.body) = some body ↔
      Decodes behind s body ∧ StaysWithin behind s := by
  have same : (parseHttp s true hm).map (fun parsed => parsed.http.body) = bodyOf s true := by
    rw [parseHttp]
    cases bodyOf s true with
    | none => rfl
    | some body =>
        simp only [Option.map_some]
        split
        · split <;> rfl
        · rfl
  rw [same, bodyOf, Decodes, StaysWithin]
  by_cases empty : s = []
  · rw [if_pos empty, if_pos empty]
    constructor
    · intro none
      cases none
      exact ⟨rfl, fun more => absurd empty more⟩
    · rintro ⟨none, -⟩
      rw [none]
  · rw [if_neg empty, if_neg empty, if_pos rfl, chunks_iff behind _ s body [] (by omega), List.nil_append]
    constructor
    · exact fun both => ⟨both.1, fun _ => both.2⟩
    · exact fun both => ⟨both.1, both.2 empty⟩

/-- The number in front of some chunk is zero, and ends in the range. -/
def HasLastSize (s : Bytes) : Prop :=
  ∃ chunk, atoi (nextChunk^[chunk] s) = 0 ∧ behindNumber (nextChunk^[chunk] s) ≠ []

theorem has_last_size_next {s : Bytes} (found : HasLastSize (nextChunk s)) : HasLastSize s := by
  obtain ⟨chunk, found⟩ := found
  rw [← Function.iterate_succ_apply] at found
  exact ⟨chunk + 1, found⟩

theorem next_chunks_suffix (chunk : Nat) (s : Bytes) : nextChunk^[chunk] s <:+ s := by
  induction chunk generalizing s with
  | zero => exact List.suffix_refl s
  | succ chunk ih =>
      rw [Function.iterate_succ_apply]
      exact (ih (nextChunk s)).trans (next_chunk_suffix s)

theorem has_last_size_of_ends {behind : Bytes} {state : ChunkLoop} {body : Bytes}
    (ends : Ends (turn behind) state body) (within : ReadsWithin behind state) : HasLastSize state.s := by
  obtain ⟨last, reached, leaves⟩ := ends_iff_reaches.mp ends
  induction reached using Relation.ReflTransGen.head_induction_on with
  | refl =>
      have here := reads_within_here within
      have zero := (turn_inr leaves).1
      rw [atoi_append _ _ here] at zero
      exact ⟨0, zero, here⟩
  | head goes _ ih =>
      have later := ih (ends_of_step goes ends) ((reads_within_step goes).mp within).2
      rw [turn_inl goes] at later
      exact has_last_size_next later

theorem ends_of_has_last_size (behind : Bytes) (chunk : Nat) (s done : Bytes)
    (zero : atoi (nextChunk^[chunk] s) = 0) (ends : behindNumber (nextChunk^[chunk] s) ≠ []) :
    (∃ body, Ends (turn behind) ⟨s, done⟩ body) ∧ ReadsWithin behind ⟨s, done⟩ := by
  induction chunk generalizing s done with
  | zero =>
      have same := atoi_append s behind ends
      have leaves : turn behind ⟨s, done⟩ = .inr done := turn_ends (same.trans zero)
      exact ⟨⟨_, ends_exit leaves⟩, (reads_within_last leaves).mpr ends⟩
  | succ chunk ih =>
      -- no number on the way runs into the end, since the last one does not
      have here : behindNumber s ≠ [] := fun out =>
        ends (behind_number_later (next_chunks_suffix (chunk + 1) s) out)
      have same := atoi_append s behind here
      rw [Function.iterate_succ_apply] at zero ends
      by_cases first : atoi s = 0
      · have leaves : turn behind ⟨s, done⟩ = .inr done := turn_ends (same.trans first)
        exact ⟨⟨_, ends_exit leaves⟩, (reads_within_last leaves).mpr here⟩
      · have goes : turn behind ⟨s, done⟩ = .inl ⟨nextChunk s, done ++ chunkData s⟩ :=
          turn_goes (by rwa [same])
        obtain ⟨⟨body, later⟩, within⟩ := ih (nextChunk s) (done ++ chunkData s) zero ends
        exact ⟨⟨body, ends_step goes later⟩, (reads_within_step goes).mpr ⟨here, within⟩⟩

/-- The loop ends and stays in its range exactly when there is nothing to decode
or the range has a last size. -/
theorem decodes_within_iff (behind s : Bytes) :
    ((∃ body, Decodes behind s body) ∧ StaysWithin behind s) ↔ s = [] ∨ HasLastSize s := by
  unfold Decodes StaysWithin
  by_cases empty : s = []
  · simp [empty]
  · simp only [empty, false_or, ne_eq, not_false_eq_true, forall_const, if_false]
    constructor
    · rintro ⟨⟨body, ends⟩, within⟩
      have found := has_last_size_of_ends ends within
      exact found
    · rintro ⟨chunk, zero, ends⟩
      exact ends_of_has_last_size behind chunk s [] zero ends

/-! The chunked coding: a size in hexadecimal on a line of its own, which may go
on with an extension, and a line with the data. -/

def hexNumber (text : Bytes) : Option Nat :=
  if text = [] then none
  else text.foldlM (fun value c => (hexDigit c).map fun digit => 16 * value + digit) 0

def IsExtension (text : Bytes) : Prop :=
  (text = [] ∨ text.head? = some 59) ∧ ∀ c ∈ text, endsLine c = false

structure Chunk where
  size : Bytes
  extension : Bytes
  data : Bytes
  stated : hexNumber size = some data.length
  extended : IsExtension extension
  holds : data ≠ []

structure LastChunk where
  size : Bytes
  extension : Bytes
  trailer : Bytes
  stated : size ≠ [] ∧ ∀ c ∈ size, c = 48
  extended : IsExtension extension

def encodeChunk (chunk : Chunk) : Bytes :=
  chunk.size ++ chunk.extension ++ crlf ++ chunk.data ++ crlf

def encode (chunks : List Chunk) (last : LastChunk) : Bytes :=
  chunks.flatMap encodeChunk ++ last.size ++ last.extension ++ crlf ++ last.trailer

def payload (chunks : List Chunk) : Bytes := chunks.flatMap Chunk.data

theorem hex_fold_digits (text : Bytes) (value number : Nat)
    (stated : text.foldlM (fun value c => (hexDigit c).map fun digit => 16 * value + digit) value = some number) :
    ∀ c ∈ text, (hexDigit c).isSome := by
  induction text generalizing value with
  | nil => simp
  | cons c rest ih =>
      rw [List.foldlM_cons] at stated
      obtain ⟨next, first, later⟩ := Option.bind_eq_some_iff.mp stated
      obtain ⟨digit, found, -⟩ := Option.map_eq_some_iff.mp first
      intro member held
      rcases List.mem_cons.mp held with rfl | held
      · simp [found]
      · exact ih next later member held

theorem hex_number_digits {text : Bytes} {number : Nat} (stated : hexNumber text = some number) :
    text ≠ [] ∧ ∀ c ∈ text, (hexDigit c).isSome := by
  unfold hexNumber at stated
  split at stated
  · cases stated
  · rename_i present
    exact ⟨present, hex_fold_digits text 0 number stated⟩

theorem hex_digit_facts (c : UInt8) (digit : (hexDigit c).isSome) :
    isSpace c = false ∧ c ≠ 45 ∧ c ≠ 43 ∧ endsLine c = false := by
  have range : (48 ≤ c.toNat ∧ c.toNat ≤ 57) ∨ (65 ≤ c.toNat ∧ c.toNat ≤ 70) ∨
      (97 ≤ c.toNat ∧ c.toNat ≤ 102) := by
    simp only [hexDigit, UInt8.le_iff_toNat_le] at digit
    grind
  simp [isSpace, endsLine, isDelim, crlf, UInt8.le_iff_toNat_le, ← UInt8.toNat_inj]
  omega

theorem strtol_size (size : Bytes) (digits : ∀ c ∈ size, (hexDigit c).isSome) (rest : Bytes)
    (present : size ≠ []) : strtol (size ++ rest) = min 9223372036854775807 (decimal (size ++ rest)) := by
  cases size with
  | nil => exact absurd rfl present
  | cons c tail =>
      obtain ⟨solid, minus, plus, -⟩ := hex_digit_facts c (digits c (by simp))
      have whole : (c :: tail ++ rest).dropWhile isSpace = c :: tail ++ rest := by simp [solid]
      have noMinus : ¬(c :: tail ++ rest).head? = some 45 := by simpa using minus
      have noPlus : ¬(c :: tail ++ rest).head? = some 43 := by simpa using plus
      rw [strtol, whole, if_neg noMinus, if_neg noPlus]

theorem atoi_stop (size rest : Bytes) (stop : UInt8) (present : size ≠ [])
    (digits : ∀ c ∈ size, (hexDigit c).isSome) (ends : isDigit stop = false) :
    atoi (size ++ stop :: rest) = atoi size := by
  have leaves : ¬isDigit stop = true := by simp [ends]
  have alone := strtol_size size digits [] present
  rw [List.append_nil] at alone
  rw [atoi, atoi, strtol_size size digits _ present, alone, decimal, decimal,
    take_while_before isDigit size rest stop leaves]

theorem extension_stops {extension : Bytes} (extended : IsExtension extension) (rest : Bytes) :
    ∃ stop more, extension ++ crlf ++ rest = stop :: more ∧ isDigit stop = false := by
  rcases extended.1 with none | semicolon
  · exact ⟨13, 10 :: rest, by simp [none, crlf], by decide⟩
  · cases extension with
    | nil => cases semicolon
    | cons c tail =>
        cases semicolon
        exact ⟨59, tail ++ crlf ++ rest, by simp, by decide⟩

theorem atoi_size_line (size extension rest : Bytes) (present : size ≠ [])
    (digits : ∀ c ∈ size, (hexDigit c).isSome) (extended : IsExtension extension) :
    atoi (size ++ extension ++ crlf ++ rest) = atoi size := by
  obtain ⟨stop, more, line, ends⟩ := extension_stops extended rest
  have whole : size ++ extension ++ crlf ++ rest = size ++ stop :: more := by
    rw [← line]
    simp
  rw [whole, atoi_stop size more stop present digits ends]

theorem decimal_zeros (size : Bytes) (zeros : ∀ c ∈ size, c = 48) : decimal size = 0 := by
  induction size with
  | nil => rfl
  | cons c rest ih =>
      have later := ih (fun other member => zeros other (List.mem_cons_of_mem c member))
      have first := zeros c (by simp)
      subst first
      rw [decimal, List.takeWhile_cons_of_pos (by decide)]
      exact later

theorem atoi_last_size (last : LastChunk) (rest : Bytes) :
    atoi (last.size ++ last.extension ++ crlf ++ rest) = 0 := by
  obtain ⟨present, zeros⟩ := last.stated
  have digits : ∀ c ∈ last.size, (hexDigit c).isSome := by
    intro c member
    rw [zeros c member]
    decide
  have whole := strtol_size last.size digits [] present
  rw [List.append_nil, decimal_zeros last.size zeros] at whole
  rw [atoi_size_line _ _ _ present digits last.extended, atoi, whole]
  decide

/-- A size that `atoi` reads as zero ends the loop, and so does a line end in the data. -/
def ReadWhole (chunk : Chunk) : Prop :=
  atoi chunk.size ≠ 0 ∧ ∀ c ∈ chunk.data, endsLine c = false

theorem atoi_chunk (chunk : Chunk) (rest : Bytes) :
    atoi (encodeChunk chunk ++ rest) = atoi chunk.size := by
  obtain ⟨present, digits⟩ := hex_number_digits chunk.stated
  have line : encodeChunk chunk ++ rest =
      chunk.size ++ chunk.extension ++ crlf ++ (chunk.data ++ crlf ++ rest) := by
    simp [encodeChunk]
  rw [line, atoi_size_line _ _ _ present digits chunk.extended]

theorem chunk_lines (chunk : Chunk) (rest : Bytes) (solid : ∀ c ∈ chunk.data, endsLine c = false) :
    chunkData (encodeChunk chunk ++ rest) = chunk.data ∧
      nextChunk (encodeChunk chunk ++ rest) = rest.dropWhile endsLine := by
  obtain ⟨-, digits⟩ := hex_number_digits chunk.stated
  have word : ∀ c ∈ chunk.size ++ chunk.extension, endsLine c = false := by
    intro c member
    rcases List.mem_append.mp member with inSize | inExtension
    · exact (hex_digit_facts c (digits c inSize)).2.2.2
    · exact chunk.extended.2 c inExtension
  have line : encodeChunk chunk ++ rest =
      chunk.size ++ chunk.extension ++ crlf ++ (chunk.data ++ crlf ++ rest) := by
    simp [encodeChunk]
  have begins : (chunk.data ++ crlf ++ rest).dropWhile endsLine = chunk.data ++ crlf ++ rest := by
    cases data : chunk.data with
    | nil => exact absurd data chunk.holds
    | cons c tail =>
        have first := solid c (by simp [data])
        simp [first]
  rw [chunkData, nextChunk, line, mg_skip_line _ _ word, begins, mg_skip_line _ _ solid]
  exact ⟨rfl, rfl⟩

theorem encode_cons (chunk : Chunk) (chunks : List Chunk) (last : LastChunk) :
    encode (chunk :: chunks) last = encodeChunk chunk ++ encode chunks last := by
  simp [encode]

theorem encode_begins (chunks : List Chunk) (last : LastChunk) :
    encode chunks last ≠ [] ∧ (encode chunks last).dropWhile endsLine = encode chunks last := by
  have begins : ∀ size rest : Bytes, size ≠ [] → (∀ c ∈ size, (hexDigit c).isSome) →
      size ++ rest ≠ [] ∧ (size ++ rest).dropWhile endsLine = size ++ rest := by
    intro size rest present digits
    cases size with
    | nil => exact absurd rfl present
    | cons c tail =>
        have first := (hex_digit_facts c (digits c (by simp))).2.2.2
        simp [first]
  cases chunks with
  | nil =>
      obtain ⟨present, zeros⟩ := last.stated
      have line : encode [] last = last.size ++ (last.extension ++ crlf ++ last.trailer) := by
        simp [encode]
      rw [line]
      apply begins _ _ present
      intro c member
      rw [zeros c member]
      decide
  | cons chunk chunks =>
      obtain ⟨present, digits⟩ := hex_number_digits chunk.stated
      have line : encode (chunk :: chunks) last =
          chunk.size ++ (chunk.extension ++ crlf ++ chunk.data ++ crlf ++ encode chunks last) := by
        simp [encode, encodeChunk]
      rw [line]
      exact begins _ _ present digits

/-- The loop takes the chunks up to the first size that it reads as zero. -/
theorem decodes_taken (behind : Bytes) (chunks : List Chunk) (last : LastChunk) (done : Bytes)
    (solid : ∀ chunk ∈ chunks, ∀ c ∈ chunk.data, endsLine c = false) :
    Ends (turn behind) ⟨encode chunks last, done⟩
      (done ++ payload (chunks.takeWhile fun chunk => atoi chunk.size ≠ 0)) := by
  induction chunks generalizing done with
  | nil =>
      have line : encode [] last ++ behind =
          last.size ++ last.extension ++ crlf ++ (last.trailer ++ behind) := by simp [encode]
      have zero : atoi (encode [] last ++ behind) = 0 := by rw [line, atoi_last_size]
      rw [List.takeWhile_nil, payload, List.flatMap_nil, List.append_nil]
      exact ends_exit (turn_ends zero)
  | cons chunk chunks ih =>
      have size : atoi (encode (chunk :: chunks) last ++ behind) = atoi chunk.size := by
        rw [encode_cons, List.append_assoc, atoi_chunk]
      by_cases zero : atoi chunk.size = 0
      · rw [List.takeWhile_cons_of_neg (by simp [zero]), payload, List.flatMap_nil, List.append_nil]
        exact ends_exit (turn_ends (size.trans zero))
      · obtain ⟨data, next⟩ := chunk_lines chunk (encode chunks last) (solid chunk (by simp))
        have goes : turn behind ⟨encode (chunk :: chunks) last, done⟩ =
            .inl ⟨nextChunk (encode (chunk :: chunks) last),
              done ++ chunkData (encode (chunk :: chunks) last)⟩ := turn_goes (by rwa [size])
        rw [encode_cons, data, next, (encode_begins chunks last).2, ← encode_cons] at goes
        have later := ih (done ++ chunk.data) (fun other member => solid other (List.mem_cons_of_mem _ member))
        rw [List.takeWhile_cons_of_pos (by simpa using zero), payload, List.flatMap_cons, ← List.append_assoc]
        exact ends_step goes later

theorem payload_append (first second : List Chunk) : payload (first ++ second) = payload first ++ payload second :=
  List.flatMap_append

theorem taken_all (chunks : List Chunk) (p : Chunk → Bool)
    (all : payload (chunks.takeWhile p) = payload chunks) : ∀ chunk ∈ chunks, p chunk = true := by
  have parts := congrArg payload (List.takeWhile_append_dropWhile (p := p) (l := chunks))
  rw [payload_append, all, List.append_right_eq_self] at parts
  apply List.dropWhile_eq_nil_iff.mp
  cases left : chunks.dropWhile p with
  | nil => rfl
  | cons chunk rest =>
      rw [left, payload, List.flatMap_cons] at parts
      exact absurd (List.append_eq_nil_iff.mp parts).1 chunk.holds

theorem body_solid {behind : Bytes} {state : ChunkLoop} {body : Bytes}
    (solid : ∀ c ∈ state.body, endsLine c = false) (ends : Ends (turn behind) state body) :
    ∀ c ∈ body, endsLine c = false := by
  obtain ⟨fuel, done⟩ := ends
  apply loop_result (fun later => ∀ c ∈ later.body, endsLine c = false)
    (fun body => ∀ c ∈ body, endsLine c = false) _ _ fuel state body solid done
  · intro before next held goes c member
    rw [turn_inl goes] at member
    rcases List.mem_append.mp member with old | new
    · exact held c old
    · exact mg_skip_word_ends _ c new
  · intro before last held leaves
    rw [(turn_inr leaves).2]
    exact held

/-- The chunks are decoded exactly when every size is read as a number and no
data holds a line end. -/
theorem decodes_payload_iff (behind : Bytes) (chunks : List Chunk) (last : LastChunk) :
    Decodes behind (encode chunks last) (payload chunks) ↔ ∀ chunk ∈ chunks, ReadWhole chunk := by
  rw [Decodes, if_neg (encode_begins chunks last).1]
  constructor
  · intro ends
    have solid := body_solid (by simp) ends
    have data : ∀ chunk ∈ chunks, ∀ c ∈ chunk.data, endsLine c = false := by
      intro chunk member c held
      exact solid c (List.mem_flatMap.mpr ⟨chunk, member, held⟩)
    have taken := ends_unique (decodes_taken behind chunks last [] data) ends
    rw [List.nil_append] at taken
    intro chunk member
    refine ⟨?_, data chunk member⟩
    simpa using taken_all chunks _ taken chunk member
  · intro whole
    have taken := decodes_taken behind chunks last [] (fun chunk member => (whole chunk member).2)
    have all : chunks.takeWhile (fun chunk => atoi chunk.size ≠ 0) = chunks := by
      apply List.takeWhile_eq_self_iff.mpr
      intro chunk member
      simpa using (whole chunk member).1
    rwa [all, List.nil_append] at taken

/-- The coded chunks are decoded exactly when `atoi` reads no size as zero and
no data holds a CR, LF or NUL; and the loop over any range ends in it exactly
when there is nothing to decode or a size of zero in it. -/
theorem chunked_bodies_law (behind : Bytes) :
    (∀ chunks last, Decodes behind (encode chunks last) (payload chunks) ↔
      ∀ chunk ∈ chunks, ReadWhole chunk) ∧
    ∀ s, ((∃ body, Decodes behind s body) ∧ StaysWithin behind s) ↔ s = [] ∨ HasLastSize s :=
  ⟨decodes_payload_iff behind, decodes_within_iff behind⟩

/-! A chunk of ten bytes, and a chunk that is cut off in front of a digit. -/

def tenBytes : Chunk where
  size := ascii "a"
  extension := []
  data := ascii "helloworld"
  stated := by decide
  extended := ⟨.inl rfl, by decide +kernel⟩
  holds := by decide

def lastChunk : LastChunk := ⟨ascii "0", [], crlf, by decide +kernel, .inl rfl, by decide +kernel⟩

def cutOff : Bytes := ascii "5\r\nhello"

theorem cut_off_turn :
    turn (ascii "5") ⟨cutOff, []⟩ = .inl ⟨[], ascii "hello"⟩ := by
  have more : atoi (cutOff ++ ascii "5") ≠ 0 := by decide
  have next : nextChunk cutOff = [] := by decide
  have data : chunkData cutOff = ascii "hello" := by decide
  have goes : turn (ascii "5") ⟨cutOff, []⟩ = .inl ⟨nextChunk cutOff, [] ++ chunkData cutOff⟩ :=
    turn_goes more
  rw [goes, next, data, List.nil_append]

theorem chunks_misread :
    (¬ ∀ behind chunks last, Decodes behind (encode chunks last) (payload chunks)) ∧
    (¬ ∀ behind s, ∃ body, Decodes behind s body) ∧ ¬ ∀ behind s, StaysWithin behind s := by
  refine ⟨?_, ?_, ?_⟩
  · intro law
    have read := (decodes_payload_iff [] [tenBytes] lastChunk).mp (law [] [tenBytes] lastChunk)
    have zero : atoi tenBytes.size = 0 := by decide
    exact (read tenBytes (by simp)).1 zero
  · intro law
    obtain ⟨body, ends⟩ := law (ascii "5") cutOff
    have some : cutOff ≠ [] := by decide
    rw [Decodes, if_neg some] at ends
    obtain ⟨fuel, done⟩ := ends_of_step cut_off_turn ends
    -- at its end the loop reads the same digit again and again
    have again : ∀ state : ChunkLoop, state.s = [] →
        ∃ next, turn (ascii "5") state = .inl next ∧ next.s = [] := by
      rintro ⟨s, body⟩ rfl
      have more : atoi ([] ++ ascii "5") ≠ 0 := by decide
      exact ⟨_, turn_goes more, rfl⟩
    have stuck := diverges (fun state : ChunkLoop => state.s = []) again ⟨[], ascii "hello"⟩ rfl fuel
    rw [stuck] at done
    cases done
  · intro law
    have within := law (ascii "5") cutOff (by decide)
    exact reads_within_here ((reads_within_step cut_off_turn).mp within).2 rfl

end GameBook.ChunkedBody
