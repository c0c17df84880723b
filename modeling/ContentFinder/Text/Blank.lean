import ContentFinder.Text.Ranges

/-! Blank characters, and the two things done with them: trimming a text and cutting it into
words. -/

namespace ContentFinder.Text

/-- The property White_Space of the Unicode character database. -/
def blankRanges : List CodeRange := [
  (0x9, 0xD), (0x20, 0x20), (0x85, 0x85), (0xA0, 0xA0), (0x1680, 0x1680), (0x2000, 0x200A),
  (0x2028, 0x2029), (0x202F, 0x202F), (0x205F, 0x205F), (0x3000, 0x3000)]

def isBlank (c : Char) : Bool :=
  inRanges blankRanges c

def trimLeft (text : List Char) : List Char :=
  text.dropWhile isBlank

def trimRight (text : List Char) : List Char :=
  (text.reverse.dropWhile isBlank).reverse

def trim (text : List Char) : List Char :=
  trimRight (trimLeft text)

def splitOn (separates : Char → Bool) : List Char → List (List Char)
  | [] => [[]]
  | c :: rest =>
    match separates c, splitOn separates rest with
    | true, pieces => [] :: pieces
    | false, [] => [[c]]
    | false, piece :: pieces => (c :: piece) :: pieces

def pieces (separates : Char → Bool) (text : List Char) : List (List Char) :=
  (splitOn separates text).filter (! ·.isEmpty)

theorem ne_nil_of_mem_pieces {separates : Char → Bool} {text piece : List Char}
    (member : piece ∈ pieces separates text) : piece ≠ [] := by
  intro empty
  have kept := (List.mem_filter.1 member).2
  rw [empty] at kept
  exact Bool.false_ne_true kept

theorem splitOn_free {separates : Char → Bool} {text piece : List Char}
    (member : piece ∈ splitOn separates text) : ∀ c ∈ piece, separates c = false := by
  induction text generalizing piece with
  | nil =>
    intro c inside
    rw [List.mem_singleton.1 member] at inside
    exact absurd inside List.not_mem_nil
  | cons d rest ih =>
    unfold splitOn at member
    split at member
    · rcases List.mem_cons.1 member with same | old
      · intro c inside
        rw [same] at inside
        exact absurd inside List.not_mem_nil
      · exact ih old
    · rename_i free none
      intro c inside
      rw [List.mem_singleton.1 member, List.mem_singleton] at inside
      rw [inside, free]
    · rename_i first others free found
      rcases List.mem_cons.1 member with same | old
      · intro c inside
        rw [same] at inside
        rcases List.mem_cons.1 inside with front | later
        · rw [front, free]
        · exact ih (found ▸ List.mem_cons_self) c later
      · exact ih (found ▸ List.mem_cons_of_mem _ old)

theorem pieces_free {separates : Char → Bool} {text piece : List Char}
    (member : piece ∈ pieces separates text) : ∀ c ∈ piece, separates c = false :=
  splitOn_free (List.mem_filter.1 member).1

def words (text : List Char) : List (List Char) :=
  pieces isBlank text

end ContentFinder.Text
