import GameBook.RedisCommands

/-!
`strutil::format` of util_string.cpp on a `std::string` with its buffer and its
size. `vsnprintf` measures the text, and the string is resized only where its
capacity is too small; in both branches the bytes are then written behind the
string's back, with the capacity as the limit.
-/

namespace GameBook.StringFormat

open CString

/-- The buffer has room for a NUL behind the last character. -/
structure StdString where
  buffer : Bytes
  size : Nat
  fits : size < buffer.length

def capacity (str : StdString) : Nat := str.buffer.length - 1

def content (str : StdString) : Bytes := str.buffer.take str.size

def emptyString (spare : Bytes) : StdString := ⟨0 :: spare, 0, Nat.succ_pos _⟩

def padded (str : StdString) (count : Nat) : Bytes :=
  (content str ++ List.replicate count 0).take count

theorem padded_length (str : StdString) (count : Nat) : (padded str count).length = count := by
  simp [padded]

/-- `resize`. Where the capacity is too small the characters move to an
allocation with `spare` behind the closing NUL. -/
def resize (str : StdString) (count : Nat) (spare : Bytes) : StdString :=
  if count ≤ capacity str then
    ⟨padded str count ++ 0 :: str.buffer.drop (count + 1), count, by
      rw [List.length_append, padded_length, List.length_cons]
      omega⟩
  else
    ⟨padded str count ++ 0 :: spare, count, by
      rw [List.length_append, padded_length, List.length_cons]
      omega⟩

/-- What a library function leaves that writes to `data()`. -/
def overwrite (str : StdString) (bytes : Bytes) (inside : bytes.length ≤ str.buffer.length) :
    StdString :=
  ⟨bytes ++ str.buffer.drop bytes.length, str.size, by
    have fits := str.fits
    rw [List.length_append, List.length_drop]
    omega⟩

/-- The result of `vsnprintf`: the length of the whole text, or a negative
number where an int does not hold it. -/
def measured (text : Bytes) : Int := if text.length ≤ 2147483647 then text.length else -1

/-- What `vsnprintf` writes: the text as far as the limit goes, and a NUL. -/
def written (limit : Nat) (text : Bytes) : Bytes :=
  if limit = 0 then [] else text.take (limit - 1) ++ [0]

theorem written_length (limit : Nat) (text : Bytes) : (written limit text).length ≤ limit := by
  unfold written
  split
  · exact Nat.zero_le _
  · rw [List.length_append, List.length_take, List.length_singleton]
    omega

theorem written_inside (str : StdString) (text : Bytes) :
    (written (capacity str) text).length ≤ str.buffer.length := by
  have bound := written_length (capacity str) text
  have fits := str.fits
  unfold capacity at *
  omega

/-- A negative number is a huge `size_t`. -/
def numOfChars (text : Bytes) : UInt64 := UInt64.ofInt (measured text)

/-- `format`, where the format and the arguments give `text`. `spare` and
`allocated` are what the buffers hold behind the strings. -/
def format (spare allocated : Bytes) (text : Bytes) : StdString :=
  let str := emptyString spare
  let str :=
    if capacity str < (numOfChars text).toNat then
      resize str (numOfChars text + 1).toNat allocated
    else str
  overwrite str (written (capacity str) text) (written_inside str text)

/-! ### The two branches -/

theorem num_of_chars_small (text : Bytes) (small : text.length ≤ 2147483647) :
    (numOfChars text).toNat = text.length ∧ (numOfChars text + 1).toNat = text.length + 1 := by
  have exact : (numOfChars text).toNat = text.length := by
    rw [numOfChars, measured, if_pos small, UInt64.ofInt, UInt64.toNat_ofNat']
    omega
  refine ⟨exact, ?_⟩
  simp only [UInt64.toNat_add, exact, UInt64.reduceToNat]
  omega

theorem num_of_chars_large (text : Bytes) (large : 2147483647 < text.length) :
    numOfChars text + 1 = 0 := by
  rw [numOfChars, measured, if_neg (by omega)]
  rfl

theorem content_of_size_zero (str : StdString) (zero : str.size = 0) : content str = [] := by
  rw [content, zero, List.take_zero]

@[simp] theorem capacity_empty (spare : Bytes) : capacity (emptyString spare) = spare.length := by
  simp [capacity, emptyString]

@[simp] theorem size_overwrite (str : StdString) (bytes : Bytes)
    (inside : bytes.length ≤ str.buffer.length) : (overwrite str bytes inside).size = str.size := rfl

@[simp] theorem size_resize (str : StdString) (count : Nat) (spare : Bytes) :
    (resize str count spare).size = count := by
  unfold resize
  split <;> rfl

theorem room_behind {str : StdString} {count : Nat} {allocated : Bytes}
    (moved : ¬ count ≤ capacity str) :
    capacity (resize str count allocated) = count + allocated.length := by
  rw [capacity, resize, if_neg moved, List.length_append, padded_length, List.length_cons,
    ← Nat.add_assoc, Nat.add_sub_cancel]

/-- Below the capacity the string is not resized: it stays empty. -/
theorem format_short (spare allocated text : Bytes) (small : text.length ≤ 2147483647)
    (short : text.length ≤ spare.length) : content (format spare allocated text) = [] := by
  apply content_of_size_zero
  have enough : ¬ capacity (emptyString spare) < (numOfChars text).toNat := by
    rw [capacity_empty, (num_of_chars_small text small).1]
    omega
  simp only [format, if_neg enough, size_overwrite]
  rfl

/-- Above it the size counts the NUL of the terminator as a character. -/
theorem format_long (spare allocated text : Bytes) (small : text.length ≤ 2147483647)
    (long : spare.length < text.length) : content (format spare allocated text) = text ++ [0] := by
  obtain ⟨count, next⟩ := num_of_chars_small text small
  have grows : capacity (emptyString spare) < (numOfChars text).toNat := by
    rw [capacity_empty, count]
    exact long
  have moved : ¬ text.length + 1 ≤ capacity (emptyString spare) := by
    rw [capacity_empty]
    omega
  have room : capacity (resize (emptyString spare) (text.length + 1) allocated) = _ :=
    room_behind moved
  have whole : written (text.length + 1 + allocated.length) text = text ++ [0] := by
    rw [written, if_neg (by omega), List.take_of_length_le (by omega)]
  simp only [format, if_pos grows, next, content, overwrite, size_resize, room, whole]
  rw [List.take_append_of_le_length (by simp), List.take_of_length_le (by simp)]

/-- A text that an int cannot measure: the sum wraps and the string is resized
to nothing. -/
theorem format_huge (spare allocated text : Bytes) (large : 2147483647 < text.length) :
    content (format spare allocated text) = [] := by
  apply content_of_size_zero
  simp only [format, size_overwrite, num_of_chars_large text large]
  split
  · exact size_resize _ _ _
  · rfl

theorem format_content (spare allocated text : Bytes) :
    content (format spare allocated text) =
      if spare.length < text.length ∧ text.length ≤ 2147483647 then text ++ [0] else [] := by
  by_cases small : text.length ≤ 2147483647
  · by_cases long : spare.length < text.length
    · rw [if_pos ⟨long, small⟩, format_long spare allocated text small long]
    · rw [if_neg (fun both => long both.1), format_short spare allocated text small (by omega)]
  · rw [if_neg (fun both => small both.2), format_huge spare allocated text (by omega)]

/-- No text but the empty one is returned as it is, whatever the capacity. -/
theorem format_exact_iff (spare allocated text : Bytes) :
    content (format spare allocated text) = text ↔ text = [] := by
  rw [format_content]
  constructor
  · intro same
    split at same
    · exact absurd (congrArg List.length same) (by simp)
    · exact same.symm
  · rintro rfl
    rw [if_neg (by simp)]

/-- Inside the 15 bytes of an empty string "abc" comes back as nothing, and a
text of 16 comes back with a NUL as its seventeenth character. -/
theorem format_drops_and_adds :
    content (format (List.replicate 15 0) [] [97, 98, 99]) = [] ∧
      content (format (List.replicate 15 0) [] (List.replicate 16 97)) =
        List.replicate 16 97 ++ [0] ∧
      ¬ ∀ spare allocated text, content (format spare allocated text) = text := by
  have short : content (format (List.replicate 15 0) [] [97, 98, 99]) = [] := by decide
  refine ⟨short, by decide, ?_⟩
  intro always
  rw [always] at short
  cases short

/-! ### As a C string -/

/-- The commands of the redis connector read the buffer with `c_str()`: there a
short text is found in spite of the size, up to the capacity less one. -/
theorem format_c_str (spare allocated text : Bytes) (inline : spare.length = 15)
    (small : text.length ≤ 2147483647) :
    cStr (format spare allocated text).buffer = cStr (RedisCommands.format text) := by
  have cut : ∀ bytes rest : Bytes, cStr (bytes ++ [0] ++ rest) = cStr bytes := by
    intro bytes rest
    rw [List.append_assoc, List.singleton_append, c_str_cut]
  obtain ⟨count, next⟩ := num_of_chars_small text small
  by_cases long : 15 < text.length
  · have moved : ¬ text.length + 1 ≤ capacity (emptyString spare) := by
      rw [capacity_empty]
      omega
    have whole : written (capacity (resize (emptyString spare) (text.length + 1) allocated)) text =
        text ++ [0] := by
      rw [room_behind moved, written, if_neg (by omega), List.take_of_length_le (by omega)]
    simp only [format, capacity_empty, inline, count, if_pos long, next, overwrite, whole, cut,
      RedisCommands.format]
  · have first : written 15 text = text.take 14 ++ [0] := by
      rw [written, if_neg (by decide)]
    simp only [format, capacity_empty, inline, count, if_neg long, overwrite, first, cut,
      RedisCommands.format]

end GameBook.StringFormat
