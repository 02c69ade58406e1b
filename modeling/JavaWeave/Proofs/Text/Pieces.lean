import JavaWeave.Names

namespace JavaWeave

namespace Text

theorem pieces_ne_nil (mark : Char) (text : List Char) : pieces mark text ≠ [] := by
  cases text with
  | nil => simp [pieces]
  | cons c rest =>
    rw [pieces]
    split
    · simp
    · split <;> simp

theorem pieces_of_not_mem {mark : Char} : ∀ {front : List Char}, mark ∉ front → pieces mark front = [front]
  | [], _ => rfl
  | c :: rest, absent => by
    obtain ⟨other, absent⟩ := not_or.mp (fun found => absent (List.mem_cons.mpr found))
    simp [pieces, Ne.symm other, pieces_of_not_mem absent]

/-- A mark separates the pieces in front of it from those behind it. -/
theorem pieces_mark (mark : Char) (rest : List Char) : ∀ front : List Char,
    pieces mark (front ++ mark :: rest) = pieces mark front ++ pieces mark rest
  | [] => by simp [pieces]
  | c :: front => by
    rw [List.cons_append, pieces, pieces, pieces_mark mark rest front]
    split
    · rfl
    · cases found : pieces mark front with
      | nil => exact absurd found (pieces_ne_nil mark front)
      | cons head tail => rfl

theorem pieces_append {mark : Char} (rest : List Char) {front : List Char} (absent : mark ∉ front) :
    pieces mark (front ++ mark :: rest) = front :: pieces mark rest := by
  rw [pieces_mark, pieces_of_not_mem absent]
  rfl

theorem split_ne_nil (mark : Char) (text : String) : split mark text ≠ [] :=
  fun none => pieces_ne_nil mark text.toList (List.map_eq_nil_iff.mp none)

/-- A text without marks is one piece. -/
theorem split_of_not_mem {mark : Char} {text : String} (plain : mark ∉ text.toList) : split mark text = [text] := by
  rw [split, pieces_of_not_mem plain]
  simp

/-- A name that a number makes unique is one piece. -/
theorem split_numbered {letters : String} (plain : '.' ∉ letters.toList) (number : Nat) :
    split '.' (letters ++ toString number) = [letters ++ toString number] := by
  refine split_of_not_mem fun member => ?_
  have whole : (letters ++ toString number).toList = letters.toList ++ Nat.toDigits 10 number :=
    String.toList_append.trans (congrArg _ String.toList_ofList)
  rw [whole] at member
  rcases List.mem_append.mp member with letter | digit
  · exact plain letter
  · exact absurd (Nat.isDigit_of_mem_toDigits (by decide) (by decide) digit) (by decide)

theorem not_mem_pieces {mark : Char} : ∀ {text front : List Char}, front ∈ pieces mark text → mark ∉ front
  | [], front, member => by
    rw [List.mem_singleton.mp member]
    exact List.not_mem_nil
  | c :: rest, front, member => by
    rw [pieces] at member
    split at member
    · rcases List.mem_cons.mp member with rfl | later
      · exact List.not_mem_nil
      · exact not_mem_pieces later
    next other =>
      split at member
      · rw [List.mem_singleton.mp member]
        simpa using Ne.symm other
      next head tail found =>
        have apart (piece : List Char) (inside : piece ∈ head :: tail) : mark ∉ piece :=
          not_mem_pieces (found ▸ inside)
        rcases List.mem_cons.mp member with rfl | later
        · exact List.not_mem_cons_of_ne_of_not_mem (Ne.symm other) (apart head List.mem_cons_self)
        · exact apart front (List.mem_cons_of_mem _ later)

theorem not_mem_split {mark : Char} {text piece : String} (member : piece ∈ split mark text) :
    mark ∉ piece.toList := by
  obtain ⟨letters, inside, rfl⟩ := List.mem_map.mp member
  rw [String.toList_ofList]
  exact not_mem_pieces inside

/-- Pieces that are joined by dots are found again. -/
theorem split_intercalate : ∀ {front : String} {rest : List String}, (∀ piece ∈ front :: rest, '.' ∉ piece.toList) →
    split '.' (".".intercalate (front :: rest)) = front :: rest
  | front, [], plain => by
    rw [String.intercalate_singleton]
    exact split_of_not_mem (plain front List.mem_cons_self)
  | front, next :: rest, plain => by
    have text : (".".intercalate (front :: next :: rest)).toList =
        front.toList ++ '.' :: (".".intercalate (next :: rest)).toList := by
      simp [String.intercalate_cons_cons]
    have later := split_intercalate fun piece member => plain piece (List.mem_cons_of_mem _ member)
    rw [split] at later
    rw [split, text, pieces_append _ (plain front List.mem_cons_self), List.map_cons, later, String.ofList_toList]

end Text

namespace Names

/-- What stands in front of the last dot does not belong to the simple name. -/
theorem simple_qualified (outer name : String) : simple (outer ++ "." ++ name) = simple name := by
  have text : (outer ++ "." ++ name).toList = outer.toList ++ '.' :: name.toList := by simp
  have parts : Text.split '.' (outer ++ "." ++ name) = Text.split '.' outer ++ Text.split '.' name := by
    rw [Text.split, text, Text.pieces_mark, List.map_append]
    rfl
  obtain ⟨last, found⟩ := Option.isSome_iff_exists.mp
    (List.getLast?_isSome.mpr (Text.split_ne_nil '.' name))
  rw [simple, simple, parts, List.getLast?_append, found]
  rfl

end Names

end JavaWeave
