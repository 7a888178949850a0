import GameBook.HttpText
import GameBook.RedisCommands

/-!
The request that asks the verification service for an account:
`MessageSystemHelp::SendHttpRequest`, and the parameters that `Account` gives
it. Names and values are written into the query as they are. It is read by the
rules of `HttpText`.
-/

namespace GameBook.LoginRequest

open Mongoose HttpText
open CString (cStr c_str_of_clean)
open RedisCommands (decimal decimalInt)

/-- `std::map<std::string, std::string>`, in the order of its names. -/
structure Params where
  entries : List (Bytes × Bytes)
  ascending : entries.Pairwise fun first second => first.1 < second.1

def queryText (params : Params) : Bytes :=
  params.entries.flatMap fun param => param.1 ++ ascii "=" ++ param.2 ++ ascii "&"

def sendHttpRequest (ip : Bytes) (port : Int) (method : Bytes) (pParams : Option Params) : Bytes :=
  let params :=
    match pParams with
    | none => []
    | some params => ascii "?" ++ queryText params
  ascii "GET " ++ method ++ params ++ ascii " HTTP/1.1" ++ ascii "\r\n" ++
    (ascii "Host: " ++ cStr ip ++ ascii ":" ++ decimalInt port ++ ascii "\r\n") ++
    (ascii "Content-Type: application/json; charset=utf-8" ++ ascii "\r\n") ++
    (ascii "Accept: */*,text/*,text/html" ++ ascii "\r\n") ++ ascii "\r\n"

def loginParams (account password : Bytes) : Params where
  entries := [(ascii "account", account), (ascii "password", password)]
  ascending := by
    have names : ascii "account" < ascii "password" := by decide
    exact List.pairwise_pair.mpr names

/-- A service that can be asked: a host that fits a field, and a path. -/
structure Endpoint where
  ip : Bytes
  port : Nat
  method : Bytes
  host : ∀ c ∈ ip, isFieldByte c = true
  absolute : method.head? = some 47 ∧ wellEscaped isPathByte method = true

def Endpoint.request (endpoint : Endpoint) (params : Params) : Bytes :=
  sendHttpRequest endpoint.ip endpoint.port endpoint.method (some params)

def Endpoint.fields (endpoint : Endpoint) : List (Bytes × Bytes) :=
  [(ascii "Host", ascii " " ++ endpoint.ip ++ ascii ":" ++ decimal endpoint.port),
    (ascii "Content-Type", ascii " application/json; charset=utf-8"),
    (ascii "Accept", ascii " */*,text/*,text/html")]

/-- The text is one request with the fields of the code, and the pairs of its
query are the parameters. -/
def Carries (endpoint : Endpoint) (params : Params) (text : Bytes) : Prop :=
  ∃ request : Request, request.text = text ∧ request.fields = endpoint.fields ∧
    (decodeQuery request.query).Perm params.entries

def PlainName (name : Bytes) : Prop := ∀ c ∈ name, isQueryByte c = true ∧ c ≠ 38 ∧ c ≠ 61

/-- A value may hold a `=`. -/
def PlainValue (value : Bytes) : Prop := ∀ c ∈ value, isQueryByte c = true ∧ c ≠ 38

def Plain (params : Params) : Prop := ∀ param ∈ params.entries, PlainName param.1 ∧ PlainValue param.2

theorem params_nodup (params : Params) : params.entries.Nodup := by
  apply params.ascending.imp
  rintro first second less rfl
  exact List.lt_irrefl _ less

/-! The query. -/

def pairsText (pairs : List (Bytes × Bytes)) : Bytes :=
  pairs.flatMap fun param => param.1 ++ 61 :: param.2 ++ [38]

theorem query_text_eq (params : Params) : queryText params = pairsText params.entries := by
  simp [queryText, pairsText, ascii]

theorem pairs_text_cons (param : Bytes × Bytes) (pairs : List (Bytes × Bytes)) :
    pairsText (param :: pairs) = param.1 ++ 61 :: param.2 ++ 38 :: pairsText pairs := by
  simp [pairsText]

theorem pairs_text_weight (pairs : List (Bytes × Bytes)) :
    weight (pairsText pairs) = (pairs.map pairWeight).sum := by
  induction pairs with
  | nil => rfl
  | cons param pairs ih =>
      rw [pairs_text_cons]
      simp [weight_append, weight_cons, ih, pairWeight]
      omega

theorem pairs_text_last (param : Bytes × Bytes) (pairs : List (Bytes × Bytes)) :
    ∃ front, pairsText (param :: pairs) = front ++ [38] := by
  induction pairs generalizing param with
  | nil => exact ⟨param.1 ++ 61 :: param.2, by simp [pairsText]⟩
  | cons next pairs ih =>
      obtain ⟨front, last⟩ := ih next
      refine ⟨param.1 ++ 61 :: param.2 ++ 38 :: front, ?_⟩
      rw [pairs_text_cons, last]
      simp

theorem decode_last (front : Bytes) : decodeQuery (front ++ [38]) = decodeQuery front := by
  rw [decodeQuery, decodeQuery, pieces, pieces, List.splitOn_append_cons_self, List.filter_append,
    List.splitOn_nil]
  simp

theorem decode_plain_pairs (pairs : List (Bytes × Bytes))
    (plain : ∀ param ∈ pairs, PlainName param.1 ∧ PlainValue param.2) :
    decodeQuery (pairsText pairs) = pairs := by
  induction pairs with
  | nil => rfl
  | cons param pairs ih =>
      obtain ⟨name, value⟩ := plain param (by simp)
      have free : ∀ stop : UInt8, isQueryByte stop = false → stop ∉ param.1 ∧ stop ∉ param.2 := by
        intro stop outside
        refine ⟨fun member => ?_, fun member => ?_⟩
        · rw [(name stop member).1] at outside
          cases outside
        · rw [(value stop member).1] at outside
          cases outside
      have percent := free 37 (by decide)
      rw [pairs_text_cons, decode_query_pair _ _ _
        ⟨percent.1, fun member => (name 38 member).2.1 rfl, fun member => (name 61 member).2.2 rfl⟩
        ⟨percent.2, fun member => (value 38 member).2 rfl⟩,
        ih (fun other member => plain other (List.mem_cons_of_mem param member))]

theorem plain_pairs_well (pairs : List (Bytes × Bytes))
    (plain : ∀ param ∈ pairs, PlainName param.1 ∧ PlainValue param.2) :
    ∀ c ∈ pairsText pairs, isQueryByte c = true := by
  intro c member
  obtain ⟨param, listed, inside⟩ := List.mem_flatMap.mp member
  obtain ⟨name, value⟩ := plain param listed
  have parts : c ∈ param.1 ∨ c = 61 ∨ c ∈ param.2 ∨ c = 38 := by
    simpa [or_assoc] using inside
  rcases parts with inName | rfl | inValue | rfl
  · exact (name c inName).1
  · decide
  · exact (value c inValue).1
  · decide

theorem pairs_well_escaped (pairs : List (Bytes × Bytes)) (well : wellEscaped isQueryByte (pairsText pairs) = true) :
    ∀ param ∈ pairs, wellEscaped isQueryByte param.1 = true ∧ wellEscaped isQueryByte param.2 = true := by
  induction pairs with
  | nil => simp
  | cons param pairs ih =>
      rw [pairs_text_cons] at well
      obtain ⟨front, behind⟩ := well_escaped_split 38 (by decide) _ _ well
      have later := (well_escaped_tail 38 (by decide) _ behind).2
      obtain ⟨name, rest⟩ := well_escaped_split 61 (by decide) _ _ front
      have value := (well_escaped_tail 61 (by decide) _ rest).2
      intro other member
      rcases List.mem_cons.mp member with rfl | held
      · exact ⟨name, value⟩
      · exact ih later other held

/-! The text. -/

theorem decimal_field (number : Nat) : ∀ c ∈ decimal number, isFieldByte c = true := by
  intro c member
  obtain ⟨digit, among, rfl⟩ := List.mem_map.mp member
  have isDigit := Nat.isDigit_of_mem_toDigits (by decide) (by decide) among
  have range : 48 ≤ digit.toNat ∧ digit.toNat ≤ 57 := by
    simpa [Char.isDigit, UInt32.le_iff_toNat_le] using isDigit
  have same : (UInt8.ofNat digit.toNat).toNat = digit.toNat := WireFormat.to_nat_of_nat _ (by omega)
  simp [isFieldByte, UInt8.le_iff_toNat_le, ← UInt8.toNat_inj, same]
  omega

theorem host_c_str (endpoint : Endpoint) : cStr endpoint.ip = endpoint.ip := by
  apply c_str_of_clean
  intro member
  have allowed := endpoint.host 0 member
  revert allowed
  decide

theorem request_eq (endpoint : Endpoint) (params : Params) :
    endpoint.request params = ascii "GET" ++ 32 :: endpoint.method ++ 63 :: pairsText params.entries ++
      version ++ lineEnd ++ endpoint.fields.flatMap fieldLine ++ lineEnd := by
  have number : decimalInt (endpoint.port : Int) = decimal endpoint.port := rfl
  rw [Endpoint.request, sendHttpRequest, host_c_str, number, query_text_eq]
  simp [Endpoint.fields, fieldLine, lineEnd, version, ascii]

/-- A query that is cut off at a space is too light to hold the parameters. -/
theorem pairs_found_whole (param : Bytes × Bytes) (pairs : List (Bytes × Bytes)) (nodup : (param :: pairs).Nodup)
    (found : ∀ other ∈ param :: pairs,
      other ∈ decodeQuery ((pairsText (param :: pairs)).takeWhile (· != 32))) :
    32 ∉ pairsText (param :: pairs) := by
  intro member
  obtain ⟨front, last⟩ := pairs_text_last param pairs
  obtain ⟨query, behind, whole, first⟩ := List.eq_append_cons_of_mem member
  have held : 38 ∈ behind := by
    have ends := congrArg List.getLast? (whole.symm.trans last)
    cases behind with
    | nil => simp at ends
    | cons c behind => exact List.mem_of_getLast? (by simpa using ends)
  have more : 0 < weight behind := List.countP_pos_iff.mpr ⟨38, held, by decide⟩
  have total := pairs_text_weight (param :: pairs)
  rw [whole, take_while_stop 32 query behind first] at found
  have light := (found_weight query (param :: pairs) nodup found).trans (decoded_weight query)
  rw [whole, weight_append, weight_cons, if_neg (by decide)] at total
  omega

theorem plain_of_found (pairs : List (Bytes × Bytes)) (nodup : pairs.Nodup)
    (found : ∀ param ∈ pairs, param ∈ decodeQuery (pairsText pairs))
    (well : wellEscaped isQueryByte (pairsText pairs) = true) :
    ∀ param ∈ pairs, PlainName param.1 ∧ PlainValue param.2 := by
  cases pairs with
  | nil => simp
  | cons first rest =>
      obtain ⟨front, last⟩ := pairs_text_last first rest
      have total := pairs_text_weight (first :: rest)
      rw [last, weight_append] at total
      have separator : weight [38] = 1 := rfl
      rw [last, decode_last] at found
      have raw := found_raw front (first :: rest) nodup found (by omega)
      have wells := pairs_well_escaped (first :: rest) well
      intro param member
      obtain ⟨⟨solid, short, name⟩, rest, value⟩ := raw param member
      obtain ⟨wellName, wellValue⟩ := wells param member
      constructor
      · intro c inside
        exact ⟨well_escaped_plain wellName name c inside, fun same => solid (same ▸ inside),
          fun same => short (same ▸ inside)⟩
      · intro c inside
        exact ⟨well_escaped_plain wellValue value c inside, fun same => rest (same ▸ inside)⟩

theorem plain_of_carries {endpoint : Endpoint} {params : Params}
    (carries : Carries endpoint params (endpoint.request params)) : Plain params := by
  obtain ⟨request, text, -, same⟩ := carries
  have path : 63 ∉ endpoint.method :=
    well_escaped_free 63 (by decide) (by decide) (by decide) _ endpoint.absolute.2
  rw [request_eq] at text
  have reads := request_text_reads request (ascii "GET") endpoint.method
    (pairsText params.entries ++ version ++ lineEnd ++ endpoint.fields.flatMap fieldLine ++ lineEnd)
    (by decide) path (by rw [text]; simp)
  have query : request.query = (pairsText params.entries).takeWhile (· != 32) := by
    rw [reads.2.2, List.append_assoc, List.append_assoc, List.append_assoc]
    exact take_while_before _ _ _ 32 (by decide)
  have found : ∀ param ∈ params.entries, param ∈ decodeQuery request.query :=
    fun param member => same.mem_iff.mpr member
  have asked := request.asked
  have nodup := params_nodup params
  unfold Plain
  cases entries : params.entries with
  | nil => simp
  | cons first rest =>
      rw [entries] at found query nodup
      rw [query] at found asked
      have whole := pairs_found_whole first rest nodup found
      rw [take_while_free 32 _ whole] at found asked
      exact plain_of_found (first :: rest) nodup found asked

theorem fields_told (endpoint : Endpoint) :
    ∀ field ∈ endpoint.fields, IsToken field.1 ∧ ∀ c ∈ field.2, isFieldByte c = true := by
  simp only [Endpoint.fields, List.mem_cons, List.not_mem_nil, or_false, forall_eq_or_imp, forall_eq]
  have host : IsToken (ascii "Host") := ⟨by decide, by decide +kernel⟩
  refine ⟨⟨host, ?_⟩, ⟨⟨by decide, by decide +kernel⟩, by decide +kernel⟩,
    ⟨by decide, by decide +kernel⟩, by decide +kernel⟩
  intro c member
  have parts : c ∈ ascii " " ∨ c ∈ endpoint.ip ∨ c ∈ ascii ":" ∨ c ∈ decimal endpoint.port := by
    simpa [or_assoc] using member
  have fixed : ∀ c ∈ ascii " " ++ ascii ":", isFieldByte c = true := by decide +kernel
  rcases parts with space | host | colon | number
  · exact fixed c (List.mem_append_left _ space)
  · exact endpoint.host c host
  · exact fixed c (List.mem_append_right _ colon)
  · exact decimal_field endpoint.port c number

theorem carries_of_plain {endpoint : Endpoint} {params : Params} (plain : Plain params) :
    Carries endpoint params (endpoint.request params) := by
  have well := well_escaped_of_allowed _ (plain_pairs_well params.entries plain)
  refine ⟨⟨ascii "GET", endpoint.method, pairsText params.entries, endpoint.fields, ?_, endpoint.absolute,
    well, fields_told endpoint⟩, (request_eq endpoint params).symm, rfl, ?_⟩
  · exact ⟨by decide, by decide +kernel⟩
  · dsimp only
    rw [decode_plain_pairs params.entries plain]

/-- The request carries its parameters exactly when they are plain. -/
theorem request_carries_iff (endpoint : Endpoint) (params : Params) :
    Carries endpoint params (endpoint.request params) ↔ Plain params :=
  ⟨plain_of_carries, carries_of_plain⟩

theorem login_carries_iff (endpoint : Endpoint) (account password : Bytes) :
    Carries endpoint (loginParams account password) (endpoint.request (loginParams account password)) ↔
      PlainValue account ∧ PlainValue password := by
  have first : PlainName (ascii "account") := by
    unfold PlainName
    decide +kernel
  have second : PlainName (ascii "password") := by
    unfold PlainName
    decide +kernel
  have pairs : Plain (loginParams account password) ↔ PlainValue account ∧ PlainValue password := by
    simp [Plain, loginParams, first, second]
  constructor
  · exact fun carries => pairs.mp (plain_of_carries carries)
  · exact fun plain => carries_of_plain (pairs.mpr plain)

/-! A password that gives another account. -/

def service : Endpoint where
  ip := ascii "192.168.0.120"
  port := 80
  method := ascii "/member_login_t.php"
  host := by decide +kernel
  absolute := by decide

def otherAccount : Params := loginParams (ascii "a") (ascii "x&account=b")

example : decodeQuery (queryText otherAccount) =
    [(ascii "account", ascii "a"), (ascii "password", ascii "x"), (ascii "account", ascii "b")] := by
  decide

theorem password_adds_account : ¬ ∀ endpoint params, Carries endpoint params (endpoint.request params) := by
  intro law
  have plain := plain_of_carries (law service otherAccount)
  have value := (plain (ascii "password", ascii "x&account=b") (by simp [otherAccount, loginParams])).2
  exact (value 38 (by decide)).2 rfl

end GameBook.LoginRequest
