import Mathlib.Data.List.DropRight
import Mathlib.Data.List.Infix

/-!
The nonempty stretches of a list between two occurrences of a separator: as
positions, as lists, and as what is left of the list when it is trimmed and its
runs of separators are collapsed. The three descriptions agree.
-/

namespace GameBook.Segments

variable {α : Type} {c : α}

def kept (piece : List α) : List (List α) := if piece = [] then [] else [piece]

theorem mem_kept {piece segment : List α} (member : segment ∈ kept piece) :
    segment ≠ [] ∧ segment = piece := by
  by_cases empty : piece = []
  · simp [kept, empty] at member
  · simp only [kept, empty, if_false, List.mem_singleton] at member
    exact ⟨member ▸ empty, member⟩

theorem r_drop_while_append (p : α → Bool) (front rest : List α) :
    (front ++ rest).rdropWhile p =
      if rest.rdropWhile p = [] then front.rdropWhile p else front ++ rest.rdropWhile p := by
  simp only [List.rdropWhile, List.reverse_append, List.dropWhile_append, List.reverse_eq_nil_iff,
    List.isEmpty_iff]
  split
  · rfl
  · rw [List.reverse_append, List.reverse_reverse]

section Lists

variable [DecidableEq α]

theorem split_induction {motive : List α → Prop} (last : ∀ piece, c ∉ piece → motive piece)
    (next : ∀ piece tail, c ∉ piece → motive tail → motive (piece ++ c :: tail)) (s : List α) :
    motive s := by
  generalize bound : s.length = n
  induction n using Nat.strongRecOn generalizing s with
  | ind n ih =>
      by_cases member : c ∈ s
      · obtain ⟨piece, tail, cut, absent⟩ := List.eq_append_cons_of_mem member
        subst cut
        have shorter : tail.length < n := by
          rw [← bound, List.length_append, List.length_cons]
          omega
        exact next piece tail absent (ih tail.length shorter tail rfl)
      · exact last s member

def segments (c : α) (s : List α) : List (List α) := (s.splitOn c).filter (· ≠ [])

theorem segments_last {piece : List α} (absent : c ∉ piece) : segments c piece = kept piece := by
  rw [segments, List.splitOn_eq_singleton absent]
  by_cases empty : piece = [] <;> simp [kept, empty]

theorem segments_next {piece : List α} (absent : c ∉ piece) (tail : List α) :
    segments c (piece ++ c :: tail) = kept piece ++ segments c tail := by
  rw [segments, List.splitOn_append_cons_self_of_not_mem absent]
  by_cases empty : piece = [] <;> simp [kept, segments, empty]

theorem mem_segments {s segment : List α} (member : segment ∈ segments c s) :
    segment ≠ [] ∧ c ∉ segment := by
  induction s using split_induction (c := c) with
  | last piece absent =>
      rw [segments_last absent] at member
      obtain ⟨solid, same⟩ := mem_kept member
      exact ⟨solid, same ▸ absent⟩
  | next piece tail absent ih =>
      rw [segments_next absent, List.mem_append] at member
      rcases member with here | later
      · obtain ⟨solid, same⟩ := mem_kept here
        exact ⟨solid, same ▸ absent⟩
      · exact ih later

end Lists

/-! ### As positions -/

/-- From `start` to `stop` there is no separator, and neither end can be moved
outwards. -/
structure Segment (c : α) (s : List α) (start stop : Nat) : Prop where
  nonempty : start < stop
  inside : stop ≤ s.length
  clean : ∀ position, start ≤ position → position < stop → s[position]? ≠ some c
  opened : start = 0 ∨ s[start - 1]? = some c
  closed : stop = s.length ∨ s[stop]? = some c

def stretch (s : List α) (span : Nat × Nat) : List α := (s.drop span.1).take (span.2 - span.1)

structure Spans (c : α) (s : List α) (start : Nat) (spans : List (Nat × Nat)) : Prop where
  ordered : spans.Pairwise fun first second => first.2 < second.1
  exact : ∀ first last, (first, last) ∈ spans ↔ start ≤ first ∧ Segment c s first last

/-- What may stand before a segment: nothing, or a list that ends in a separator. -/
def Closed (c : α) (front : List α) : Prop := front = [] ∨ ∃ before, front = before ++ [c]

theorem piece_clean (front piece rest : List α) (absent : c ∉ piece) {position : Nat}
    (after : front.length ≤ position) (before : position < front.length + piece.length) :
    (front ++ piece ++ rest)[position]? ≠ some c := by
  intro at_separator
  rw [List.append_assoc, List.getElem?_append_right after,
    List.getElem?_append_left (by omega)] at at_separator
  exact absent (List.mem_of_getElem? at_separator)

def Ended (c : α) (rest : List α) : Prop := rest = [] ∨ ∃ tail, rest = c :: tail

theorem segment_of_piece {front piece rest : List α} (closed : Closed c front) (solid : piece ≠ [])
    (absent : c ∉ piece) (ended : Ended c rest) :
    Segment c (front ++ piece ++ rest) front.length (front.length + piece.length) := by
  constructor
  · have long := List.length_pos_iff.mpr solid
    omega
  · simp only [List.length_append]
    omega
  · intro position after before
    exact piece_clean front piece rest absent after before
  · rcases closed with empty | ⟨before, ends⟩
    · exact Or.inl (by rw [empty, List.length_nil])
    · right
      simp [ends]
  · rcases ended with empty | ⟨tail, starts⟩
    · exact Or.inl (by simp [empty])
    · right
      simp [starts]

theorem piece_of_segment {front piece rest : List α} (absent : c ∉ piece) (ended : Ended c rest)
    {first last : Nat} (segment : Segment c (front ++ piece ++ rest) first last)
    (after : front.length ≤ first) (before : first ≤ front.length + piece.length) :
    first = front.length ∧ last = front.length + piece.length := by
  have clean := fun position => @piece_clean _ _ front piece rest absent position
  have nonempty := segment.nonempty
  have starts : first = front.length := by
    rcases segment.opened with zero | at_separator
    · omega
    · by_contra later
      exact clean (first - 1) (by omega) (by omega) at_separator
  have enough : front.length + piece.length ≤ last := by
    by_contra short
    rcases segment.closed with whole | at_separator
    · simp only [List.length_append] at whole
      omega
    · exact clean last (by omega) (by omega) at_separator
  refine ⟨starts, ?_⟩
  by_contra long
  rcases ended with empty | ⟨tail, continues⟩
  · have inside := segment.inside
    simp only [empty, List.append_nil, List.length_append] at inside
    omega
  · have separator : (front ++ piece ++ rest)[front.length + piece.length]? = some c := by
      rw [← List.length_append, continues, List.getElem?_append_right (Nat.le_refl _),
        Nat.sub_self, List.getElem?_cons_zero]
    exact segment.clean _ before (by omega) separator

theorem stretch_piece (front piece rest : List α) :
    stretch (front ++ piece ++ rest) (front.length, front.length + piece.length) = piece := by
  simp [stretch, List.append_assoc]

def keptSpan (start : Nat) (piece : List α) : List (Nat × Nat) :=
  if piece = [] then [] else [(start, start + piece.length)]

theorem mem_kept_span {start first last : Nat} {piece : List α} :
    (first, last) ∈ keptSpan start piece ↔
      piece ≠ [] ∧ first = start ∧ last = start + piece.length := by
  by_cases empty : piece = [] <;> simp [keptSpan, empty]

theorem kept_span_piece {front piece rest : List α} (closed : Closed c front) (absent : c ∉ piece)
    (ended : Ended c rest) (first last : Nat) :
    (first, last) ∈ keptSpan front.length piece ↔
      (front.length ≤ first ∧ first ≤ front.length + piece.length) ∧
        Segment c (front ++ piece ++ rest) first last := by
  rw [mem_kept_span]
  constructor
  · rintro ⟨solid, starts, stops⟩
    subst starts stops
    exact ⟨⟨Nat.le_refl _, Nat.le_add_right _ _⟩, segment_of_piece closed solid absent ended⟩
  · rintro ⟨⟨after, before⟩, segment⟩
    obtain ⟨starts, stops⟩ := piece_of_segment absent ended segment after before
    refine ⟨?_, starts, stops⟩
    intro empty
    have nonempty := segment.nonempty
    rw [empty, List.length_nil] at stops
    omega

theorem kept_stretches (front piece rest : List α) :
    (keptSpan front.length piece).map (stretch (front ++ piece ++ rest)) = kept piece := by
  by_cases empty : piece = []
  · simp [keptSpan, kept, empty]
  · simp only [keptSpan, kept, empty, if_false, List.map_cons, List.map_nil, stretch_piece]

variable [DecidableEq α]

theorem spans_from (s front : List α) (closed : Closed c front) :
    ∃ spans, Spans c (front ++ s) front.length spans ∧
      spans.map (stretch (front ++ s)) = segments c s := by
  induction s using split_induction (c := c) generalizing front with
  | last piece absent =>
      refine ⟨keptSpan front.length piece, ⟨?_, ?_⟩, ?_⟩
      · unfold keptSpan
        split
        · exact List.Pairwise.nil
        · exact List.pairwise_singleton _ _
      · intro first last
        have exact := kept_span_piece closed absent (Or.inl rfl) first last
        rw [List.append_nil] at exact
        rw [exact]
        constructor
        · rintro ⟨⟨after, -⟩, segment⟩
          exact ⟨after, segment⟩
        · rintro ⟨after, segment⟩
          have inside := segment.inside
          have nonempty := segment.nonempty
          rw [List.length_append] at inside
          exact ⟨⟨after, by omega⟩, segment⟩
      · have kept := kept_stretches front piece []
        rw [List.append_nil] at kept
        rw [kept, segments_last absent]
  | next piece tail absent ih =>
      have further : Closed c (front ++ piece ++ [c]) := Or.inr ⟨front ++ piece, rfl⟩
      obtain ⟨spans, all, stretches⟩ := ih (front ++ piece ++ [c]) further
      have same : front ++ piece ++ [c] ++ tail = front ++ piece ++ c :: tail := by simp
      have start : (front ++ piece ++ [c]).length = front.length + piece.length + 1 := by
        simp only [List.length_append, List.length_singleton]
      rw [same] at all stretches
      rw [start] at all
      rw [← List.append_assoc]
      refine ⟨keptSpan front.length piece ++ spans, ⟨?_, ?_⟩, ?_⟩
      · apply List.pairwise_append.mpr
        refine ⟨?_, all.ordered, ?_⟩
        · unfold keptSpan
          split
          · exact List.Pairwise.nil
          · exact List.pairwise_singleton _ _
        · rintro ⟨first, last⟩ here ⟨later, stop⟩ there
          have stops := (mem_kept_span.mp here).2.2
          have starts := ((all.exact later stop).mp there).1
          change last < later
          omega
      · intro first last
        rw [List.mem_append, kept_span_piece closed absent (Or.inr ⟨tail, rfl⟩), all.exact]
        constructor
        · rintro (⟨⟨after, -⟩, segment⟩ | ⟨after, segment⟩)
          · exact ⟨after, segment⟩
          · exact ⟨by omega, segment⟩
        · rintro ⟨after, segment⟩
          by_cases here : first ≤ front.length + piece.length
          · exact Or.inl ⟨⟨after, here⟩, segment⟩
          · exact Or.inr ⟨by omega, segment⟩
      · rw [List.map_append, kept_stretches, stretches, segments_next absent]

/-! ### As what is left of the list -/

/-- Every run of separators as one. -/
def collapse (c : α) : List α → List α
  | first :: second :: rest =>
      if first = c ∧ second = c then collapse c (second :: rest)
      else first :: collapse c (second :: rest)
  | s => s

/-- The list without separators at its ends. -/
def trimmed (c : α) (s : List α) : List α := (s.rdropWhile (· = c)).dropWhile (· = c)

theorem collapse_eq_nil {s : List α} (empty : collapse c s = []) : s = [] := by
  induction s with
  | nil => rfl
  | cons first rest ih =>
      cases rest with
      | nil => exact empty
      | cons second rest =>
          rw [collapse] at empty
          split at empty
          · cases ih empty
          · cases empty

theorem collapse_clean {piece : List α} (absent : c ∉ piece) : collapse c piece = piece := by
  induction piece with
  | nil => rfl
  | cons first rest ih =>
      rw [List.mem_cons, not_or] at absent
      cases rest with
      | nil => rfl
      | cons second rest =>
          have here : ¬ (first = c ∧ second = c) := fun both => absent.1 both.1.symm
          rw [collapse, if_neg here, ih absent.2]

theorem collapse_piece {piece : List α} (absent : c ∉ piece) (tail : List α) :
    collapse c (piece ++ c :: tail) = piece ++ collapse c (c :: tail) := by
  induction piece with
  | nil => rfl
  | cons first rest ih =>
      rw [List.mem_cons, not_or] at absent
      have here : ∀ second, ¬ (first = c ∧ second = c) := fun second both => absent.1 both.1.symm
      cases rest with
      | nil => rw [List.cons_append, List.nil_append, collapse, if_neg (here c), List.cons_append,
          List.nil_append]
      | cons second rest =>
          rw [List.cons_append, List.cons_append, collapse, if_neg (here second),
            ← List.cons_append, ih absent.2]
          rfl

theorem collapse_run (tail : List α) (solid : tail.dropWhile (· = c) ≠ []) :
    collapse c (c :: tail) = c :: collapse c (tail.dropWhile (· = c)) := by
  induction tail with
  | nil => exact absurd rfl solid
  | cons first rest ih =>
      by_cases separator : first = c
      · subst separator
        rw [List.dropWhile_cons_of_pos (by simp)] at solid ⊢
        rw [collapse, if_pos ⟨rfl, rfl⟩, ih solid]
      · rw [List.dropWhile_cons_of_neg (by simpa using separator), collapse,
          if_neg (fun both => separator both.2)]

theorem trimmed_nil_iff (s : List α) : trimmed c s = [] ↔ s.rdropWhile (· = c) = [] := by
  constructor
  · intro empty
    by_contra solid
    have last := List.rdropWhile_last_not (· = c) s solid
    exact last (List.dropWhile_eq_nil_iff.mp empty _ (List.getLast_mem solid))
  · intro empty
    rw [trimmed, empty, List.dropWhile_nil]

theorem r_drop_while_clean {piece : List α} (absent : c ∉ piece) :
    piece.rdropWhile (· = c) = piece := by
  rw [List.rdropWhile_eq_self_iff]
  intro solid separator
  exact absent (of_decide_eq_true separator ▸ List.getLast_mem solid)

theorem drop_while_piece {piece : List α} (absent : c ∉ piece) (solid : piece ≠ [])
    (rest : List α) : (piece ++ rest).dropWhile (· = c) = piece ++ rest := by
  cases piece with
  | nil => exact absurd rfl solid
  | cons first others =>
      apply List.dropWhile_cons_of_neg
      intro separator
      exact absent (of_decide_eq_true separator ▸ List.mem_cons_self)

theorem trimmed_separator (tail : List α) : trimmed c (c :: tail) = trimmed c tail := by
  have cut := r_drop_while_append (· = c) [c] tail
  rw [List.singleton_append] at cut
  rw [trimmed, trimmed, cut]
  split
  · rename_i empty
    rw [empty]
    simp [List.rdropWhile]
  · rw [List.singleton_append, List.dropWhile_cons_of_pos (by simp)]

theorem trimmed_piece {piece : List α} (absent : c ∉ piece) (solid : piece ≠ []) (tail : List α) :
    trimmed c (piece ++ c :: tail) =
      if trimmed c tail = [] then piece else piece ++ c :: tail.rdropWhile (· = c) := by
  have inner := r_drop_while_append (· = c) [c] tail
  have outer := r_drop_while_append (· = c) piece (c :: tail)
  rw [List.singleton_append] at inner
  simp only [trimmed_nil_iff]
  by_cases empty : tail.rdropWhile (· = c) = []
  · rw [if_pos empty]
    rw [if_pos empty, List.rdropWhile_singleton, if_pos (by simp)] at inner
    rw [if_pos inner, r_drop_while_clean absent] at outer
    have whole := drop_while_piece absent solid []
    rw [List.append_nil] at whole
    rw [trimmed, outer, whole]
  · rw [if_neg empty]
    rw [if_neg empty] at inner
    rw [inner, if_neg (by simp)] at outer
    rw [trimmed, outer, List.singleton_append, drop_while_piece absent solid]

theorem join_segments (s : List α) :
    [c].intercalate (segments c s) = collapse c (trimmed c s) := by
  induction s using split_induction (c := c) with
  | last piece absent =>
      have whole : trimmed c piece = piece := by
        rw [trimmed, r_drop_while_clean absent, List.dropWhile_eq_self_iff]
        intro long separator
        exact absent (of_decide_eq_true separator ▸ List.getElem_mem _)
      rw [segments_last absent, whole, collapse_clean absent]
      by_cases empty : piece = [] <;> simp [kept, empty]
  | next piece tail absent ih =>
      rw [segments_next absent]
      by_cases empty : piece = []
      · subst empty
        rw [List.nil_append, trimmed_separator, ← ih]
        rfl
      · have alone : kept piece = [piece] := if_neg empty
        rw [alone, trimmed_piece absent empty]
        cases later : segments c tail with
        | nil =>
            rw [later, List.intercalate_nil] at ih
            rw [if_pos (collapse_eq_nil ih.symm), collapse_clean absent, List.append_nil,
              List.intercalate_singleton]
        | cons segment rest =>
            have joined : [c].intercalate (segments c tail) ≠ [] := by
              have solid := (mem_segments (later ▸ List.mem_cons_self)).1
              rw [later]
              cases segment with
              | nil => exact absurd rfl solid
              | cons first others =>
                  rw [List.intercalate_cons_cons_left]
                  exact List.cons_ne_nil _ _
            have left : trimmed c tail ≠ [] := by
              intro nothing
              rw [ih, nothing] at joined
              exact joined rfl
            rw [if_neg left, collapse_piece absent, collapse_run _ left, ← trimmed, ← ih, later,
              List.singleton_append, List.intercalate_cons_cons, List.append_assoc,
              List.singleton_append]

theorem join_inj {first second : List (List α)}
    (left : ∀ segment ∈ first, segment ≠ [] ∧ c ∉ segment)
    (right : ∀ segment ∈ second, segment ≠ [] ∧ c ∉ segment)
    (same : [c].intercalate first = [c].intercalate second) : first = second := by
  have back : ∀ pieces : List (List α), (∀ segment ∈ pieces, segment ≠ [] ∧ c ∉ segment) →
      segments c ([c].intercalate pieces) = pieces := by
    intro pieces clean
    cases pieces with
    | nil => exact segments_last (List.not_mem_nil)
    | cons piece rest =>
        rw [segments, List.splitOn_intercalate c (fun segment member => (clean segment member).2)
          (List.cons_ne_nil _ _)]
        apply List.filter_eq_self.mpr
        intro segment member
        exact decide_eq_true (clean segment member).1
  rw [← back first left, same, back second right]

end GameBook.Segments
