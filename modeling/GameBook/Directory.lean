import Mathlib.Logic.Basic

/-!
A directory of what is alive: one address under each key. It is kept by notices
that are read one after another. A key that has an address keeps it when another
one is announced, and loses it when it is retired, whatever it was.
-/

namespace GameBook.Directory

variable {Key Address : Type}

/-- Each entry points to something alive, and what is alive has an entry for
its key. -/
structure Faithful (live : Key → Address → Prop) (entries : Key → Option Address) : Prop where
  sound : ∀ key address, entries key = some address → live key address
  complete : ∀ key address, live key address → entries key ≠ none

variable {live after : Key → Address → Prop} {entries : Key → Option Address}

theorem faithful_dropped (holds : Faithful live entries) (left : ∀ k a, after k a → live k a)
    (stays : ∀ k a, live k a → entries k = some a → after k a) : Faithful after entries := by
  constructor
  · intro k a held
    exact stays k a (holds.sound k a held) held
  · intro k a alive
    exact holds.complete k a (left k a alive)

theorem faithful_joined (key : Key) (holds : Faithful live entries) (known : entries key ≠ none)
    (kept : ∀ k a, live k a → after k a) (born : ∀ k a, after k a → live k a ∨ k = key) :
    Faithful after entries := by
  constructor
  · intro k a held
    exact kept k a (holds.sound k a held)
  · intro k a alive missing
    rcases born k a alive with old | rfl
    · exact holds.complete k a old missing
    · exact known missing

variable [DecidableEq Key]

inductive Notice (Key Address : Type) where
  | announce (key : Key) (address : Address)
  | retire (key : Key)

def readNotice (entries : Key → Option Address) : Notice Key Address → Key → Option Address
  | .announce key address =>
      fun other => if other = key then some ((entries key).getD address) else entries other
  | .retire key => fun other => if other = key then none else entries other

def readAll (entries : Key → Option Address) : List (Notice Key Address) → Key → Option Address
  | [] => entries
  | notice :: rest => readAll (readNotice entries notice) rest

def put (entries : Key → Option Address) (key : Key) (address : Address) : Key → Option Address :=
  fun other => if other = key then some address else entries other

theorem read_all_append (entries : Key → Option Address) (first second : List (Notice Key Address)) :
    readAll entries (first ++ second) = readAll (readAll entries first) second := by
  induction first generalizing entries with
  | nil => rfl
  | cons notice rest ih => exact ih (readNotice entries notice)

theorem read_all_local (notices : List (Notice Key Address)) (first second : Key → Option Address)
    (key : Key) (same : first key = second key) :
    readAll first notices key = readAll second notices key := by
  induction notices generalizing first second with
  | nil => exact same
  | cons notice rest ih =>
      apply ih
      cases notice with
      | announce named address =>
          simp only [readNotice]
          split
          · rename_i hit
            rw [← hit, same]
          · exact same
      | retire named =>
          simp only [readNotice]
          split
          · rfl
          · exact same

theorem read_all_held (notices : List (Notice Key Address)) (entries : Key → Option Address)
    (key : Key) (address : Address) (held : entries key = some address)
    (kept : Notice.retire key ∉ notices) : readAll entries notices key = some address := by
  induction notices generalizing entries with
  | nil => exact held
  | cons notice rest ih =>
      apply ih
      · cases notice with
        | announce named other =>
            simp only [readNotice]
            split
            · rename_i hit
              rw [← hit, held]
              rfl
            · exact held
        | retire named =>
            have differs : key ≠ named := by
              rintro rfl
              exact kept List.mem_cons_self
            exact (if_neg differs).trans held
      · exact fun later => kept (List.mem_cons_of_mem notice later)

theorem read_all_retired (notices : List (Notice Key Address)) (first second : Key → Option Address)
    (key : Key) (retired : Notice.retire key ∈ notices) :
    readAll first notices key = readAll second notices key := by
  induction notices generalizing first second with
  | nil => cases retired
  | cons notice rest ih =>
      rcases List.mem_cons.mp retired with rfl | later
      · apply read_all_local rest
        simp only [readNotice, if_true]
      · exact ih _ _ later

/-- What is put while no retirement of its key is on its way is there when all
notices are read, and the other keys see nothing of it. -/
theorem read_all_put (notices : List (Notice Key Address)) (entries : Key → Option Address)
    (key other : Key) (address : Address) (kept : Notice.retire key ∉ notices) :
    readAll (put entries key address) notices other =
      put (readAll entries notices) key address other := by
  by_cases hit : other = key
  · subst hit
    rw [put, if_pos rfl]
    exact read_all_held notices _ other address (if_pos rfl) kept
  · rw [put, if_neg hit]
    exact read_all_local notices _ entries other (if_neg hit)

theorem faithful_announced (key : Key) (address : Address) (holds : Faithful live entries)
    (born : ∀ k a, after k a ↔ live k a ∨ (k = key ∧ a = address)) :
    Faithful after (readNotice entries (.announce key address)) := by
  constructor
  · intro k a held
    simp only [readNotice] at held
    split at held
    · rename_i hit
      cases known : entries key with
      | none =>
          rw [known] at held
          cases held
          exact (born k _).mpr (Or.inr ⟨hit, rfl⟩)
      | some old =>
          rw [known] at held
          cases held
          rw [hit]
          exact (born key _).mpr (Or.inl (holds.sound key _ known))
    · exact (born k a).mpr (Or.inl (holds.sound k a held))
  · intro k a alive missing
    simp only [readNotice] at missing
    split at missing
    · cases missing
    · rename_i apart
      rcases (born k a).mp alive with old | ⟨same, _⟩
      · exact holds.complete k a old missing
      · exact apart same

theorem faithful_retired (key : Key) (holds : Faithful live entries)
    (left : ∀ k a, after k a → live k a ∧ k ≠ key)
    (stays : ∀ k a, live k a → k ≠ key → entries k = some a → after k a) :
    Faithful after (readNotice entries (.retire key)) := by
  constructor
  · intro k a held
    simp only [readNotice] at held
    split at held
    · cases held
    · rename_i apart
      exact stays k a (holds.sound k a held) apart held
  · intro k a alive missing
    obtain ⟨old, apart⟩ := left k a alive
    simp only [readNotice, if_neg apart] at missing
    exact holds.complete k a old missing

theorem faithful_put (key : Key) (address : Address) (holds : Faithful live entries)
    (born : ∀ k a, after k a ↔ live k a ∨ (k = key ∧ a = address)) :
    Faithful after (put entries key address) := by
  constructor
  · intro k a held
    simp only [put] at held
    split at held
    · rename_i hit
      cases held
      exact (born k _).mpr (Or.inr ⟨hit, rfl⟩)
    · exact (born k a).mpr (Or.inl (holds.sound k a held))
  · intro k a alive missing
    simp only [put] at missing
    split at missing
    · cases missing
    · rename_i apart
      rcases (born k a).mp alive with old | ⟨same, _⟩
      · exact holds.complete k a old missing
      · exact apart same

end GameBook.Directory
