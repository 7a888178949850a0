import Mathlib.Data.List.Basic

/-!
String literals of SQL between single quotes: a quote is doubled or stands
behind a backslash, and a backslash begins an escape. A text that is put between
quotes as it is stands for itself exactly when it has no quote, and a backslash
only where the escape is kept.
-/

namespace GameBook.SqlLiteral

/-- What a backslash and the byte behind it stand for. -/
def escaped (c : UInt8) : List UInt8 :=
  if c = 48 then [0]
  else if c = 98 then [8]
  else if c = 110 then [10]
  else if c = 114 then [13]
  else if c = 116 then [9]
  else if c = 90 then [26]
  -- those of patterns are kept with their backslash
  else if c = 37 ∨ c = 95 then [92, c]
  else [c]

/-- The literal behind its opening quote: its value and the text behind its
closing quote. Nothing where it is not closed. -/
def readLiteral : List UInt8 → Option (List UInt8 × List UInt8)
  | [] => none
  | [c] => if c = 39 then some ([], []) else none
  | c :: d :: rest =>
      if c = 39 then
        if d = 39 then (readLiteral rest).map fun read => (39 :: read.1, read.2)
        else some ([], d :: rest)
      else if c = 92 then (readLiteral rest).map fun read => (escaped d ++ read.1, read.2)
      else (readLiteral (d :: rest)).map fun read => (c :: read.1, read.2)

def Plain : List UInt8 → Prop
  | [] => True
  | [c] => c ≠ 39 ∧ c ≠ 92
  | c :: d :: rest => c ≠ 39 ∧ if c = 92 then (d = 37 ∨ d = 95) ∧ Plain rest else Plain (d :: rest)

theorem plain_of_bytes (s : List UInt8) (quote : 39 ∉ s) (backslash : 92 ∉ s) : Plain s := by
  induction s with
  | nil => trivial
  | cons c rest ih =>
      have later := ih (fun member => quote (List.mem_cons_of_mem c member))
        (fun member => backslash (List.mem_cons_of_mem c member))
      have noQuote : c ≠ 39 := fun same => quote (by simp [same])
      have noEscape : c ≠ 92 := fun same => backslash (by simp [same])
      cases rest with
      | nil => exact ⟨noQuote, noEscape⟩
      | cons d rest => exact ⟨noQuote, by rwa [if_neg noEscape]⟩

theorem escaped_length (c : UInt8) : (escaped c).length ≤ 2 ∧
    ((escaped c).length = 2 → escaped c = [92, c] ∧ (c = 37 ∨ c = 95)) := by
  unfold escaped
  repeat' split
  all_goals simp_all

theorem read_literal_length (s value rest : List UInt8) (read : readLiteral s = some (value, rest)) :
    value.length + rest.length + 1 ≤ s.length := by
  fun_induction readLiteral s generalizing value rest with
  | case1 => cases read
  | case2 =>
      cases read
      simp
  | case3 => cases read
  | case4 tail ih =>
      obtain ⟨inner, found, same⟩ := Option.map_eq_some_iff.mp read
      have shorter := ih inner.1 inner.2 found
      cases same
      simp only [List.length_cons] at shorter ⊢
      omega
  | case5 d tail _ =>
      cases read
      simp
  | case6 d tail _ ih =>
      obtain ⟨inner, found, same⟩ := Option.map_eq_some_iff.mp read
      have shorter := ih inner.1 inner.2 found
      have short := (escaped_length d).1
      cases same
      simp only [List.length_cons, List.length_append] at shorter ⊢
      omega
  | case7 c d tail _ _ ih =>
      obtain ⟨inner, found, same⟩ := Option.map_eq_some_iff.mp read
      have shorter := ih inner.1 inner.2 found
      cases same
      simp only [List.length_cons] at shorter ⊢
      omega

theorem read_itself_iff (s : List UInt8) : readLiteral (s ++ [39]) = some (s, []) ↔ Plain s := by
  induction s using Plain.induct with
  | case1 => simp [readLiteral, Plain]
  | case2 c =>
      by_cases quote : c = 39
      · simp [readLiteral, Plain, quote]
      · by_cases escape : c = 92
        · simp [readLiteral, Plain, escape]
        · simp [readLiteral, Plain, quote, escape]
  | case3 c d rest behind next =>
      have text : c :: d :: rest ++ [39] = c :: d :: (rest ++ [39]) := rfl
      rw [text, readLiteral, Plain]
      by_cases quote : c = 39
      · -- a quote is doubled or ends the literal
        rw [if_pos quote]
        refine iff_of_false ?_ fun plain => plain.1 quote
        split
        · intro read
          obtain ⟨inner, found, same⟩ := Option.map_eq_some_iff.mp read
          have shorter := read_literal_length _ _ _ found
          have count := congrArg (fun read => read.1.length) same
          simp only [List.length_cons, List.length_append, List.length_nil] at shorter count
          omega
        · intro read
          cases read
      · rw [if_neg quote]
        by_cases escape : c = 92
        · rw [if_pos escape, if_pos escape, Option.map_eq_some_iff]
          constructor
          · rintro ⟨inner, found, same⟩
            have shorter := read_literal_length _ _ _ found
            have count := congrArg (fun read => read.1.length) same
            obtain ⟨value, left⟩ := Prod.mk.inj same
            have bound := escaped_length d
            simp only [List.length_cons, List.length_append, List.length_nil] at shorter count
            obtain ⟨kept, pattern⟩ := bound.2 (by omega)
            rw [kept] at value
            have whole : [92, d] ++ inner.1 = [92, d] ++ rest := by
              rw [value, escape]
              rfl
            have read : inner = (rest, []) := Prod.ext (List.append_cancel_left whole) left
            rw [read] at found
            exact ⟨quote, pattern, behind.mp found⟩
          · rintro ⟨-, pattern, plain⟩
            refine ⟨(rest, []), behind.mpr plain, ?_⟩
            rcases pattern with rfl | rfl
            · simp [escaped, escape]
            · simp [escaped, escape]
        · rw [if_neg escape, if_neg escape, Option.map_eq_some_iff]
          constructor
          · rintro ⟨inner, found, same⟩
            obtain ⟨value, left⟩ := Prod.mk.inj same
            have read : inner = (d :: rest, []) := Prod.ext (List.cons.inj value).2 left
            rw [read] at found
            exact ⟨quote, next.mp found⟩
          · rintro ⟨-, plain⟩
            exact ⟨(d :: rest, []), next.mpr plain, rfl⟩

end GameBook.SqlLiteral
