import Mathlib.Algebra.Order.BigOperators.Group.List
import Mathlib.Algebra.Order.Group.Nat
import Mathlib.Data.List.Perm.Subperm
import Mathlib.Data.List.TakeWhile
import Mathlib.Algebra.Ring.Nat

/-!
The texts of http requests, as a reader takes them apart: hexadecimal digits,
percent-decoding, the pairs of a query and the grammar of a request. A reader
that finds given pairs in a query that is no longer than they are has found
them without decoding.
-/

namespace GameBook.HttpText

/-! Percent-decoding. -/

def hexDigit (c : UInt8) : Option Nat :=
  if 48 ≤ c ∧ c ≤ 57 then some (c.toNat - 48)
  else if 65 ≤ c ∧ c ≤ 70 then some (c.toNat - 55)
  else if 97 ≤ c ∧ c ≤ 102 then some (c.toNat - 87)
  else none

def escapeOf (percent high low : UInt8) : Option UInt8 :=
  if percent = 37 then
    (hexDigit high).bind fun first => (hexDigit low).map fun second => UInt8.ofNat (16 * first + second)
  else none

/-- What is no escape stands for itself. -/
def percentDecode : List UInt8 → List UInt8
  | [] => []
  | [a] => [a]
  | [a, b] => [a, b]
  | a :: b :: c :: rest =>
      match escapeOf a b c with
      | some byte => byte :: percentDecode rest
      | none => a :: percentDecode (b :: c :: rest)

def wellEscaped (allowed : UInt8 → Bool) : List UInt8 → Bool
  | [] => true
  | [a] => allowed a
  | [a, b] => allowed a && allowed b
  | a :: b :: c :: rest =>
      match escapeOf a b c with
      | some _ => wellEscaped allowed rest
      | none => allowed a && wellEscaped allowed (b :: c :: rest)

theorem escape_of_some {a b c byte : UInt8} (found : escapeOf a b c = some byte) :
    a = 37 ∧ (hexDigit b).isSome ∧ (hexDigit c).isSome := by
  unfold escapeOf at found
  split at found
  · rename_i percent
    obtain ⟨first, high, rest⟩ := Option.bind_eq_some_iff.mp found
    obtain ⟨second, low, -⟩ := Option.map_eq_some_iff.mp rest
    exact ⟨percent, by simp [high], by simp [low]⟩
  · cases found

/-! The weight of a text counts its bytes, but not its `=`. -/

def weight (s : List UInt8) : Nat := s.countP (· != 61)

@[simp] theorem weight_nil : weight [] = 0 := rfl

theorem weight_cons (c : UInt8) (s : List UInt8) :
    weight (c :: s) = weight s + if c = 61 then 0 else 1 := by
  rw [weight, weight, List.countP_cons]
  by_cases equals : c = 61
  · simp [equals]
  · simp [equals]

theorem weight_append (first second : List UInt8) : weight (first ++ second) = weight first + weight second :=
  List.countP_append

theorem hex_digit_weight {c : UInt8} (digit : (hexDigit c).isSome) (s : List UInt8) :
    weight (c :: s) = weight s + 1 := by
  have other : c ≠ 61 := by
    rintro rfl
    cases digit
  rw [weight_cons, if_neg other]

/-- An escape weighs more than the byte it stands for. -/
theorem escape_weight {a b c byte : UInt8} (found : escapeOf a b c = some byte) (rest : List UInt8) :
    weight (byte :: percentDecode rest) + 2 ≤ weight (percentDecode rest) + 3 ∧
      weight (a :: b :: c :: rest) = weight rest + 3 := by
  obtain ⟨percent, high, low⟩ := escape_of_some found
  subst percent
  have first : weight (37 :: b :: c :: rest) = weight (b :: c :: rest) + 1 := by
    rw [weight_cons]
    rfl
  rw [first, hex_digit_weight high, hex_digit_weight low, weight_cons]
  split <;> omega

theorem decode_weight (s : List UInt8) : weight (percentDecode s) ≤ weight s ∧
    (weight (percentDecode s) = weight s → percentDecode s = s) := by
  fun_induction percentDecode s with
  | case1 => simp
  | case2 a => simp
  | case3 a b => simp
  | case4 a b c rest byte found ih =>
      have lost := escape_weight found rest
      omega
  | case5 a b c rest none ih =>
      have before := weight_cons a (b :: c :: rest)
      have after := weight_cons a (percentDecode (b :: c :: rest))
      refine ⟨by omega, fun same => ?_⟩
      rw [ih.2 (by omega)]

theorem decode_plain (s : List UInt8) (plain : 37 ∉ s) : percentDecode s = s := by
  fun_induction percentDecode s with
  | case1 => rfl
  | case2 a => rfl
  | case3 a b => rfl
  | case4 a b c rest byte found ih => exact absurd (escape_of_some found).1 (by rintro rfl; simp at plain)
  | case5 a b c rest none ih => rw [ih (fun held => plain (List.mem_cons_of_mem a held))]

theorem well_escaped_plain {allowed : UInt8 → Bool} {s : List UInt8} (well : wellEscaped allowed s = true)
    (plain : percentDecode s = s) : ∀ c ∈ s, allowed c = true := by
  fun_induction wellEscaped allowed s with
  | case1 => simp
  | case2 a => simpa using well
  | case3 a b => simpa using well
  | case4 a b c rest byte found ih =>
      have lost := escape_weight found rest
      have less := (decode_weight rest).1
      rw [percentDecode, found] at plain
      have same := congrArg weight plain
      dsimp only at same
      omega
  | case5 a b c rest none ih =>
      rw [percentDecode, none] at plain
      simp only [Bool.and_eq_true] at well
      have later := ih well.2 (List.cons.inj plain).2
      intro byte member
      rcases List.mem_cons.mp member with rfl | held
      · exact well.1
      · exact later byte held

theorem well_escaped_of_allowed {allowed : UInt8 → Bool} (s : List UInt8)
    (all : ∀ c ∈ s, allowed c = true) : wellEscaped allowed s = true := by
  fun_induction wellEscaped allowed s with
  | case1 => rfl
  | case2 a => exact all a (by simp)
  | case3 a b => simp [all a, all b]
  | case4 a b c rest byte found ih => exact ih (fun other held => all other (by simp [held]))
  | case5 a b c rest none ih =>
      rw [all a (by simp), ih (fun other held => all other (List.mem_cons_of_mem a held))]
      rfl

theorem well_escaped_split {allowed : UInt8 → Bool} (stop : UInt8) (bare : hexDigit stop = none)
    (rest s : List UInt8) (well : wellEscaped allowed (s ++ stop :: rest) = true) :
    wellEscaped allowed s = true ∧ wellEscaped allowed (stop :: rest) = true := by
  have middle : ∀ a c, escapeOf a stop c = none := by
    intro a c
    simp [escapeOf, bare]
  have last : ∀ a b, escapeOf a b stop = none := by
    intro a b
    simp [escapeOf, bare]
  have after : ∀ a, wellEscaped allowed (a :: stop :: rest) = true →
      allowed a = true ∧ wellEscaped allowed (stop :: rest) = true := by
    intro a well
    cases rest with
    | nil => simpa [wellEscaped] using well
    | cons c rest => simpa [wellEscaped, middle] using well
  fun_induction wellEscaped allowed s with
  | case1 => exact ⟨rfl, well⟩
  | case2 a => exact after a well
  | case3 a b =>
      have parts : allowed a = true ∧ wellEscaped allowed (b :: stop :: rest) = true := by
        simpa [wellEscaped, last] using well
      obtain ⟨second, tail⟩ := after b parts.2
      simp [parts.1, second, tail]
  | case4 a b c s byte found ih =>
      have later : wellEscaped allowed (s ++ stop :: rest) = true := by
        simpa [wellEscaped, found] using well
      exact ih later
  | case5 a b c s none ih =>
      have parts : allowed a = true ∧ wellEscaped allowed (b :: c :: s ++ stop :: rest) = true := by
        simpa [wellEscaped, none] using well
      obtain ⟨front, tail⟩ := ih parts.2
      simp [parts.1, front, tail]

theorem well_escaped_tail {allowed : UInt8 → Bool} (stop : UInt8) (other : stop ≠ 37) (rest : List UInt8)
    (well : wellEscaped allowed (stop :: rest) = true) :
    allowed stop = true ∧ wellEscaped allowed rest = true := by
  have none : ∀ b c, escapeOf stop b c = none := fun b c => if_neg other
  match rest with
  | [] => exact ⟨well, rfl⟩
  | [b] => simpa [wellEscaped] using well
  | b :: c :: rest => simpa [wellEscaped, none] using well

/-! The pairs of a query, between its `&`. -/

def rawPair (piece : List UInt8) : List UInt8 × List UInt8 :=
  (piece.takeWhile (· != 61), (piece.dropWhile (· != 61)).drop 1)

def pairOf (piece : List UInt8) : List UInt8 × List UInt8 :=
  (percentDecode (rawPair piece).1, percentDecode (rawPair piece).2)

def pieces (query : List UInt8) : List (List UInt8) := (query.splitOn 38).filter (· ≠ [])

def decodeQuery (query : List UInt8) : List (List UInt8 × List UInt8) := (pieces query).map pairOf

def pairWeight (pair : List UInt8 × List UInt8) : Nat := weight pair.1 + weight pair.2 + 1

theorem raw_pair_weight (piece : List UInt8) : pairWeight (rawPair piece) = weight piece + 1 := by
  have parts := congrArg weight (List.takeWhile_append_dropWhile (p := (· != 61)) (l := piece))
  rw [weight_append] at parts
  have behind : weight ((piece.dropWhile (· != 61)).drop 1) = weight (piece.dropWhile (· != 61)) := by
    cases left : piece.dropWhile (· != 61) with
    | nil => rfl
    | cons c rest =>
        have stop := List.head?_dropWhile_not (· != 61) piece
        rw [left] at stop
        have equals : c = 61 := by simpa using stop
        rw [List.drop_one, List.tail_cons, weight_cons, if_pos equals]
        rfl
  rw [pairWeight, rawPair]
  dsimp only
  omega

theorem pair_of_weight (piece : List UInt8) : pairWeight (pairOf piece) ≤ weight piece + 1 ∧
    (pairWeight (pairOf piece) = weight piece + 1 → pairOf piece = rawPair piece) := by
  have raw := raw_pair_weight piece
  have name := decode_weight (rawPair piece).1
  have value := decode_weight (rawPair piece).2
  unfold pairWeight pairOf at *
  dsimp only at *
  refine ⟨by omega, fun same => ?_⟩
  rw [name.2 (by omega), value.2 (by omega)]

theorem split_weight (query : List UInt8) :
    ((query.splitOn 38).map fun piece => weight piece + 1).sum = weight query + 1 := by
  induction query with
  | nil => rfl
  | cons c rest ih =>
      rw [List.splitOn_cons_eq_if_modifyHead, weight_cons]
      by_cases separator : c = 38
      · subst separator
        simp [ih]
        omega
      · have other : ¬(c == 38) = true := by simpa using separator
        rw [if_neg other]
        obtain ⟨first, more, whole⟩ := List.exists_cons_of_ne_nil (List.splitOn_ne_nil 38 rest)
        rw [whole] at ih ⊢
        simp [weight_cons] at ih ⊢
        omega

theorem pieces_weight (query : List UInt8) :
    ((pieces query).map fun piece => weight piece + 1).sum ≤ weight query + 1 := by
  rw [← split_weight query]
  exact List.Sublist.sum_le_sum (List.Sublist.map _ List.filter_sublist) (by simp)

theorem summands_agree {α : Type} (f g : α → Nat) (l : List α) (below : ∀ x ∈ l, f x ≤ g x)
    (sums : (l.map g).sum ≤ (l.map f).sum) : ∀ x ∈ l, f x = g x := by
  induction l with
  | nil => simp
  | cons x rest ih =>
      have first := below x (by simp)
      have later := List.sum_le_sum fun y member => below y (List.mem_cons_of_mem x member)
      simp only [List.map_cons, List.sum_cons] at sums
      have agree := ih (fun y member => below y (List.mem_cons_of_mem x member)) (by omega)
      intro y member
      rcases List.mem_cons.mp member with rfl | held
      · omega
      · exact agree y held

theorem decoded_weight (query : List UInt8) : ((decodeQuery query).map pairWeight).sum ≤ weight query + 1 := by
  have each : ((pieces query).map (pairWeight ∘ pairOf)).sum ≤
      ((pieces query).map fun piece => weight piece + 1).sum :=
    List.sum_le_sum fun piece _ => (pair_of_weight piece).1
  rw [decodeQuery, List.map_map]
  exact each.trans (pieces_weight query)

theorem found_weight (query : List UInt8) (found : List (List UInt8 × List UInt8)) (nodup : found.Nodup)
    (held : ∀ pair ∈ found, pair ∈ decodeQuery query) :
    (found.map pairWeight).sum ≤ ((decodeQuery query).map pairWeight).sum := by
  obtain ⟨same, perm, part⟩ := List.subperm_of_subset nodup held
  rw [← (perm.map pairWeight).sum_eq]
  exact List.Sublist.sum_le_sum (part.map pairWeight) (by simp)

theorem split_solid (query : List UInt8) : ∀ piece ∈ query.splitOn 38, 38 ∉ piece := by
  induction query with
  | nil => simp
  | cons c rest ih =>
      rw [List.splitOn_cons_eq_if_modifyHead]
      split
      · simpa using ih
      · rename_i other
        obtain ⟨first, more, whole⟩ := List.exists_cons_of_ne_nil (List.splitOn_ne_nil 38 rest)
        rw [whole] at ih ⊢
        have apart : ¬38 = c := fun same => other (by simp [same])
        simp only [List.modifyHead_cons, List.mem_cons, forall_eq_or_imp] at ih ⊢
        exact ⟨by simp [apart, ih.1], ih.2⟩

/-- Pairs that weigh as much as the query they are found in stand in it as they are. -/
theorem found_raw (query : List UInt8) (found : List (List UInt8 × List UInt8)) (nodup : found.Nodup)
    (held : ∀ pair ∈ found, pair ∈ decodeQuery query)
    (heavy : weight query + 1 ≤ (found.map pairWeight).sum) :
    ∀ pair ∈ found, (38 ∉ pair.1 ∧ 61 ∉ pair.1 ∧ percentDecode pair.1 = pair.1) ∧
      38 ∉ pair.2 ∧ percentDecode pair.2 = pair.2 := by
  have total := pieces_weight query
  have least := found_weight query found nodup held
  rw [decodeQuery, List.map_map] at least
  have raw := summands_agree (pairWeight ∘ pairOf) (fun piece => weight piece + 1) (pieces query)
    (fun piece _ => (pair_of_weight piece).1) (by omega)
  intro pair member
  obtain ⟨piece, listed, rfl⟩ := List.mem_map.mp (held pair member)
  have same := (pair_of_weight piece).2 (raw piece listed)
  have solid := split_solid query piece (List.mem_of_mem_filter listed)
  have name := congrArg Prod.fst same
  have value := congrArg Prod.snd same
  rw [same]
  refine ⟨⟨fun inside => solid (List.takeWhile_subset _ inside), ?_, name⟩, ?_, value⟩
  · intro inside
    simpa using List.mem_takeWhile_imp inside
  · intro inside
    exact solid ((List.dropWhile_suffix _).subset (List.mem_of_mem_drop inside))

theorem decode_query_pair (name value rest : List UInt8) (plainName : 37 ∉ name ∧ 38 ∉ name ∧ 61 ∉ name)
    (plainValue : 37 ∉ value ∧ 38 ∉ value) :
    decodeQuery (name ++ 61 :: value ++ 38 :: rest) = (name, value) :: decodeQuery rest := by
  have solid : 38 ∉ name ++ 61 :: value := by simp [plainName, plainValue]
  have stays : ∀ c ∈ name, (c != 61) = true := by
    intro c member
    simpa using fun equals : c = 61 => plainName.2.2 (equals ▸ member)
  have raw : rawPair (name ++ 61 :: value) = (name, value) := by
    rw [rawPair, List.takeWhile_append_of_pos stays, List.dropWhile_append_of_pos stays]
    simp
  rw [decodeQuery, pieces, List.splitOn_append_cons_self_of_not_mem solid,
    List.filter_cons_of_pos (by simp), List.map_cons, pairOf, raw,
    decode_plain name plainName.1, decode_plain value plainValue.1]
  rfl

/-! A request without a body. -/

def isAlphaNum (c : UInt8) : Bool := (48 ≤ c && c ≤ 57) || (65 ≤ c && c ≤ 90) || (97 ≤ c && c ≤ 122)

/-- One of the bytes `- . _ ~`, `! $ & ' ( ) * + , ; =`, `: @` and `/`. -/
def isPathByte (c : UInt8) : Bool :=
  isAlphaNum c || [45, 46, 95, 126, 33, 36, 38, 39, 40, 41, 42, 43, 44, 59, 61, 58, 64, 47].contains c

def isQueryByte (c : UInt8) : Bool := isPathByte c || c == 63

/-- A letter, a digit or one of ``! # $ % & ' * + - . ^ _ ` | ~``. -/
def isTokenByte (c : UInt8) : Bool :=
  isAlphaNum c || [33, 35, 36, 37, 38, 39, 42, 43, 45, 46, 94, 95, 96, 124, 126].contains c

def isFieldByte (c : UInt8) : Bool := c == 9 || (32 ≤ c && c ≠ 127)

def IsToken (s : List UInt8) : Prop := s ≠ [] ∧ ∀ c ∈ s, isTokenByte c = true

structure Request where
  method : List UInt8
  path : List UInt8
  query : List UInt8
  fields : List (List UInt8 × List UInt8)
  called : IsToken method
  absolute : path.head? = some 47 ∧ wellEscaped isPathByte path = true
  asked : wellEscaped isQueryByte query = true
  told : ∀ field ∈ fields, IsToken field.1 ∧ ∀ c ∈ field.2, isFieldByte c = true

def lineEnd : List UInt8 := [13, 10]

def version : List UInt8 := [32, 72, 84, 84, 80, 47, 49, 46, 49]

def fieldLine (field : List UInt8 × List UInt8) : List UInt8 := field.1 ++ 58 :: field.2 ++ lineEnd

def Request.text (request : Request) : List UInt8 :=
  request.method ++ 32 :: request.path ++ 63 :: request.query ++ version ++ lineEnd ++
    request.fields.flatMap fieldLine ++ lineEnd

theorem well_escaped_free {allowed : UInt8 → Bool} (stop : UInt8) (outside : allowed stop = false)
    (other : stop ≠ 37) (bare : hexDigit stop = none) (s : List UInt8)
    (well : wellEscaped allowed s = true) : stop ∉ s := by
  intro member
  obtain ⟨front, rest, rfl⟩ := List.append_of_mem member
  have tail := (well_escaped_split stop bare rest front well).2
  rw [(well_escaped_tail stop other rest tail).1] at outside
  cases outside

theorem take_while_before (p : UInt8 → Bool) (s rest : List UInt8) (stop : UInt8) (leaves : ¬p stop = true) :
    (s ++ stop :: rest).takeWhile p = s.takeWhile p := by
  induction s with
  | nil => exact List.takeWhile_cons_of_neg leaves
  | cons c s ih => simp [List.takeWhile_cons, ih]

theorem take_while_free (stop : UInt8) (word : List UInt8) (free : stop ∉ word) :
    word.takeWhile (· != stop) = word := by
  apply List.takeWhile_eq_self_iff.mpr
  intro c member
  simpa using fun equals : c = stop => free (equals ▸ member)

theorem take_while_stop (stop : UInt8) (word rest : List UInt8) (free : stop ∉ word) :
    (word ++ stop :: rest).takeWhile (· != stop) = word := by
  rw [take_while_before _ _ _ _ (by simp), take_while_free stop word free]

theorem word_unique {stop : UInt8} {first second rest more : List UInt8} (one : stop ∉ first)
    (other : stop ∉ second) (same : first ++ stop :: rest = second ++ stop :: more) :
    first = second ∧ rest = more := by
  have words := congrArg (List.takeWhile (· != stop)) same
  rw [take_while_stop stop first rest one, take_while_stop stop second more other] at words
  subst words
  exact ⟨rfl, (List.cons.inj (List.append_cancel_left same)).2⟩

/-- A text is read as a request in one way up to its query: the method ends at
the first space, the path at the first `?`, and the query at the next space. -/
theorem request_text_reads (request : Request) (method path rest : List UInt8) (called : 32 ∉ method)
    (absolute : 63 ∉ path) (same : request.text = method ++ 32 :: path ++ 63 :: rest) :
    request.method = method ∧ request.path = path ∧ request.query = rest.takeWhile (· != 32) := by
  have token : 32 ∉ request.method := fun member => by
    have allowed := request.called.2 32 member
    revert allowed
    decide
  have solid : 63 ∉ request.path :=
    well_escaped_free 63 (by decide) (by decide) (by decide) _ request.absolute.2
  have asked : 32 ∉ request.query :=
    well_escaped_free 32 (by decide) (by decide) (by decide) _ request.asked
  have begins : request.method ++ 32 :: (request.path ++ 63 :: (request.query ++ 32 :: (version.tail ++ lineEnd ++
      request.fields.flatMap fieldLine ++ lineEnd))) = method ++ 32 :: (path ++ 63 :: rest) := by
    rw [Request.text] at same
    simpa [version] using same
  obtain ⟨sameMethod, behindMethod⟩ := word_unique token called begins
  obtain ⟨samePath, behindPath⟩ := word_unique solid absolute behindMethod
  refine ⟨sameMethod, samePath, ?_⟩
  rw [← behindPath, take_while_stop 32 _ _ asked]

end GameBook.HttpText
