import Mathlib.Data.List.DropRight
import ContentFinder.Proofs.IndexEntries
import ContentFinder.Proofs.LowerCase
import ContentFinder.Proofs.Matching
import ContentFinder.Proofs.Pieces

/-! The terms of a search text. The text is cut into words before its words are lowered, and a text
of the index is lowered as a whole. Both ways give the same tokens, so a text is found by itself. -/

namespace ContentFinder.Text

/-! Tokens. -/

def tokenPieces (text : List Char) : List (List Char) :=
  pieces (! isAlphanumeric ·) (lower text)

theorem tokens_ofList (text : List Char) :
    tokens (String.ofList text) = (tokenPieces text).map String.ofList := by
  rw [tokens, String.toList_ofList]
  rfl

theorem tokenPieces_separator {separator : Char} (separates : Separates separator)
    (front back : List Char) :
    tokenPieces (front ++ separator :: back) = tokenPieces front ++ tokenPieces back := by
  have cut : (!isAlphanumeric separator) = true := by rw [separates.notAlphanumeric]; rfl
  rw [tokenPieces, lower_separator separates]
  exact pieces_append cut (lower front) (lower back)

theorem tokenPieces_words (text : List Char) :
    (words text).flatMap tokenPieces = tokenPieces text := by
  refine flatMap_pieces (fun front c back blank => ?_) rfl text
  exact tokenPieces_separator (separates_of_isBlank blank) front back

theorem tokenPieces_star (word : List Char) : tokenPieces (word ++ ['*']) = tokenPieces word :=
  (tokenPieces_separator separates_star word []).trans (List.append_nil _)

theorem tokenPieces_rdropWhile (word : List Char) :
    tokenPieces (word.rdropWhile (· == '*')) = tokenPieces word := by
  induction word using List.reverseRecOn with
  | nil => rfl
  | append_singleton word c ih =>
    by_cases star : c = '*'
    · rw [List.rdropWhile_concat_pos _ _ _ (by simp [star]), ih, star, tokenPieces_star]
    · rw [List.rdropWhile_concat_neg _ _ _ (by simp [star])]

/-! Terms. -/

/-- The tokens of a word are its terms. Only the last one can be open, by a star at the end. -/
theorem wordTerms_eq (word : List Char) :
    wordTerms word =
      ((tokenPieces word).dropLast.map fun token => ⟨String.ofList token, false⟩) ++
        (tokenPieces word).getLast?.toList.map fun token =>
          ⟨String.ofList token, word.getLast? == some '*'⟩ := by
  have bare : tokens (String.ofList (word.rdropWhile (· == '*'))) =
      (tokenPieces word).map String.ofList := by
    rw [tokens_ofList, tokenPieces_rdropWhile]
  rw [List.rdropWhile] at bare
  simp only [wordTerms, bare, List.map_dropLast, List.getLast?_map, List.map_map]
  cases (tokenPieces word).getLast? <;> rfl

theorem map_token_wordTerms (word : List Char) :
    (wordTerms word).map (·.token) = (tokenPieces word).map String.ofList := by
  rw [wordTerms_eq]
  cases tokenPieces word using List.reverseRecOn <;> simp

theorem map_token_terms (text : String) : (terms text).map (·.token) = tokens text := by
  rw [terms, List.map_flatMap]
  simp only [map_token_wordTerms]
  rw [← List.map_flatMap, tokenPieces_words]
  rfl

theorem Term.accepts_token (term : Term) : term.accepts term.token = true := by
  cases opens : term.opens <;> simp [accepts, opens]

end ContentFinder.Text

namespace ContentFinder.IndexQuery

/-- The terms of a text are its tokens, so a text that has a token is found in every field that
holds it. -/
theorem isMatch_own_text (text : String) :
    (Text.terms text).map (·.token) = Text.tokens text ∧
      ∀ (fields : List String) (doc : Document) (field : String), Text.tokens text ≠ [] →
        field ∈ fields → .string text ∈ doc.get field →
          isMatch (.fullText fields text) doc = true := by
  have asked := Text.map_token_terms text
  refine ⟨asked, fun fields doc field someToken listed held => ?_⟩
  apply isMatch_fullText_iff.2
  constructor
  · intro none
    rw [none] at asked
    exact someToken asked.symm
  · intro term member
    have token : term.token ∈ Text.tokens text := by
      rw [← asked]
      exact List.mem_map_of_mem member
    exact ⟨field, listed, text, Document.mem_strings.2 held, term.token, token, term.accepts_token⟩

/-- Three capital sigmas at the end of a word, one of them before a star and one before a blank that
does not break lines, and a letter whose lower-case form has two characters. -/
theorem isMatch_own_text_starred :
    Text.tokens "ΟΔΟΣ* İΣ\u00a0ΣΑΣ" = ["οδος", "i", "ς", "σας"] ∧
      isMatch (.fullText ["text_main", "text_eng-GB"] "ΟΔΟΣ* İΣ\u00a0ΣΑΣ")
        ((Document.new "7").add "text_eng-GB" (.string "ΟΔΟΣ* İΣ\u00a0ΣΑΣ")) = true := by
  have read : Text.tokens "ΟΔΟΣ* İΣ\u00a0ΣΑΣ" = ["οδος", "i", "ς", "σας"] := by decide +kernel
  have someToken : Text.tokens "ΟΔΟΣ* İΣ\u00a0ΣΑΣ" ≠ [] := by simp [read]
  refine ⟨read, (isMatch_own_text _).2 _ _ "text_eng-GB" someToken (by simp) ?_⟩
  simp [Document.get_add_new]

end ContentFinder.IndexQuery
