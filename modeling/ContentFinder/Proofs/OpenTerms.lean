import ContentFinder.Proofs.SearchTerms

/-! Words with a star behind them. The beginning of a word is lowered without the rest of the word,
so a capital sigma at its end takes the form for the end of a word. The starred beginning finds the
word unless the cut gives a sigma that form: the main statement has both sides. -/

namespace ContentFinder.Text

/-! Cuts. -/

/-- Before the cut a capital sigma stands after a letter with a case and ends the word, and behind
the cut the word goes on with such a letter. Ignorable characters in between do not count. -/
def CutsSigma (front back : List Char) : Prop :=
  ∃ before after, front = before ++ 'Σ' :: after ∧ meetsCased before.reverse = true ∧
    after.all isIgnorable = true ∧ meetsCased back = true

theorem lowerSigma_append (before after back : List Char) :
    lowerSigma before (after ++ back) = lowerSigma before after ↔
      ¬(meetsCased before = true ∧ after.all isIgnorable = true ∧ meetsCased back = true) := by
  unfold lowerSigma
  rw [meetsCased_append]
  cases ignored : after.all isIgnorable with
  | true =>
    rw [meetsCased_of_all ignored]
    cases meetsCased before <;> cases meetsCased back <;> decide
  | false => simp

theorem lowerAt_append (before : List Char) (c : Char) (after back : List Char) :
    lowerAt before c (after ++ back) = lowerAt before c after ↔
      ¬(c = 'Σ' ∧ meetsCased before = true ∧ after.all isIgnorable = true ∧
        meetsCased back = true) := by
  unfold lowerAt
  by_cases sigma : c = 'Σ'
  · rw [if_pos sigma, if_pos sigma, List.singleton_inj, lowerSigma_append]
    simp [sigma]
  · simp [sigma]

/-- What follows matters to a text only for such a sigma. -/
theorem lowerWithin_eq_iff (before front back : List Char) :
    lowerWithin before front back = lowerAfter before front ↔
      ¬∃ middle after, front = middle ++ 'Σ' :: after ∧
        meetsCased (middle.reverse ++ before) = true ∧ after.all isIgnorable = true ∧
          meetsCased back = true := by
  induction front generalizing before with
  | nil => simp [lowerWithin, lowerAfter]
  | cons c rest ih =>
    have parts : lowerWithin before (c :: rest) back = lowerAfter before (c :: rest) ↔
        lowerAt before c (rest ++ back) = lowerAt before c rest ∧
          lowerWithin (c :: before) rest back = lowerAfter (c :: before) rest :=
      ⟨fun same => List.append_inj same (length_lowerAt before c _ _),
        fun same => congrArg₂ (· ++ ·) same.1 same.2⟩
    rw [parts, lowerAt_append, ih, ← not_or]
    apply not_congr
    constructor
    · rintro (⟨rfl, here⟩ | ⟨middle, after, rfl, later⟩)
      · exact ⟨[], rest, rfl, here⟩
      · exact ⟨c :: middle, after, rfl, by simpa using later⟩
    · rintro ⟨middle, after, split, found⟩
      cases middle with
      | nil =>
        cases split
        exact .inl ⟨rfl, found⟩
      | cons d middle =>
        cases split
        exact .inr ⟨middle, after, rfl, by simpa using found⟩

theorem lower_prefix_iff (front back : List Char) :
    lower front <+: lower (front ++ back) ↔ ¬CutsSigma front back := by
  have size : (lower front).length = (lowerWithin [] front back).length := by
    rw [lower, ← lowerWithin_nil]
    exact length_lowerWithin [] front [] back
  rw [lower_append, List.prefix_iff_eq_take, size, List.take_left, eq_comm, lower,
    lowerWithin_eq_iff]
  simp [CutsSigma]

/-! Terms. -/

theorem isBlank_of_isAlphanumeric {c : Char} (letter : isAlphanumeric c = true) :
    isBlank c = false := by
  apply Bool.eq_false_iff.2
  intro blank
  rw [(separates_of_isBlank blank).notAlphanumeric] at letter
  cases letter

theorem terms_starred {start : String} (letters : ∀ c ∈ start.toList, isAlphanumeric c = true) :
    terms (start ++ "*") =
      ((tokenPieces start.toList).dropLast.map fun token => ⟨String.ofList token, false⟩) ++
        (tokenPieces start.toList).getLast?.toList.map fun token =>
          ⟨String.ofList token, true⟩ := by
  have free : ∀ c ∈ start.toList ++ ['*'], isBlank c = false := by
    intro c member
    rcases List.mem_append.1 member with letter | star
    · exact isBlank_of_isAlphanumeric (letters c letter)
    · rw [List.mem_singleton.1 star]
      decide
  have word : words (start ++ "*").toList = [start.toList ++ ['*']] := by
    rw [String.toList_append]
    exact pieces_of_free free (by simp)
  rw [terms, word, List.flatMap_singleton, wordTerms_eq, tokenPieces_star, List.getLast?_concat]
  rfl

theorem tokenPieces_ne_nil {text : List Char} (nonempty : text ≠ [])
    (letters : ∀ c ∈ text, isAlphanumeric c = true) : tokenPieces text ≠ [] := by
  obtain ⟨c, rest, rfl⟩ := List.exists_cons_of_ne_nil nonempty
  obtain ⟨d, member, letter⟩ :=
    exists_isAlphanumeric_lowerAt (letters c List.mem_cons_self) [] rest
  have inside : d ∈ lower (c :: rest) := List.mem_append_left _ member
  exact pieces_ne_nil inside (by rw [letter]; rfl)

theorem tokenPieces_of_plain {text : List Char} (nonempty : text ≠ [])
    (letters : ∀ c ∈ text, isAlphanumeric c = true) (plain : 'İ' ∉ text) :
    tokenPieces text = [lower text] := by
  have free := isAlphanumeric_lowerAfter letters plain []
  apply pieces_of_free
  · intro d member
    rw [free d member]
    rfl
  · intro none
    apply tokenPieces_ne_nil nonempty letters
    rw [tokenPieces, none]
    rfl

theorem tokens_of_plain {text : String} (nonempty : text.toList ≠ [])
    (letters : ∀ c ∈ text.toList, isAlphanumeric c = true) (plain : 'İ' ∉ text.toList) :
    tokens text = [String.ofList (lower text.toList)] :=
  congrArg (List.map String.ofList) (tokenPieces_of_plain nonempty letters plain)

theorem Term.accepts_open {token other : List Char} :
    Term.accepts ⟨String.ofList token, true⟩ (String.ofList other) = true ↔ token <+: other := by
  simp [accepts]

section Starred

variable {start : String} (nonempty : start.toList ≠ [])
  (letters : ∀ c ∈ start.toList, isAlphanumeric c = true)

include nonempty letters

theorem terms_starred_ne_nil : terms (start ++ "*") ≠ [] := by
  have tokens := tokenPieces_ne_nil nonempty letters
  obtain ⟨whole, last, split⟩ := (List.eq_nil_or_concat' _).resolve_left tokens
  rw [terms_starred letters, split, List.getLast?_concat]
  exact List.append_ne_nil_of_right_ne_nil _ (List.cons_ne_nil _ _)

/-- When the form of a text begins that of another, the terms of its starred word accept tokens of
the other. -/
theorem exists_accepted {text : List Char} (begins : lower start.toList <+: lower text) :
    ∀ term ∈ terms (start ++ "*"), ∃ token ∈ tokenPieces text,
      term.accepts (String.ofList token) = true := by
  obtain ⟨back, longer⟩ := begins
  obtain ⟨whole, last, token, later, before, joined, opened⟩ :=
    exists_pieces_append (tokenPieces_ne_nil nonempty letters) back
  have startTokens : tokenPieces start.toList = whole ++ [last] := before
  have textTokens : tokenPieces text = whole ++ token :: later := by
    rw [tokenPieces, ← longer]
    exact joined
  rw [terms_starred letters, startTokens, textTokens, List.dropLast_concat, List.getLast?_concat]
  intro term member
  rcases List.mem_append.1 member with closed | final
  · obtain ⟨piece, inside, rfl⟩ := List.mem_map.1 closed
    exact ⟨piece, List.mem_append_left _ inside, Term.accepts_token _⟩
  · obtain rfl := List.mem_singleton.1 final
    exact ⟨token, List.mem_append_right _ List.mem_cons_self, Term.accepts_open.2 opened⟩

theorem terms_starred_of_plain (plain : 'İ' ∉ start.toList) :
    terms (start ++ "*") = [⟨String.ofList (lower start.toList), true⟩] := by
  rw [terms_starred letters, tokenPieces_of_plain nonempty letters plain]
  rfl

end Starred

end ContentFinder.Text

namespace ContentFinder.IndexQuery

open Text

/-- A starred beginning of a word finds every text that is the word, unless the cut behind the
beginning changes a sigma. Where it does, the word itself is not found, at least if no letter of it
falls apart into a letter and a mark. -/
theorem isMatch_starred (start rest : String) (someStart : start ≠ "")
    (letters : ∀ c ∈ (start ++ rest).toList, isAlphanumeric c = true) :
    (¬CutsSigma start.toList rest.toList →
      ∀ (fields : List String) (doc : Document) (field : String), field ∈ fields →
        .string (start ++ rest) ∈ doc.get field →
          isMatch (.fullText fields (start ++ "*")) doc = true) ∧
    (CutsSigma start.toList rest.toList → 'İ' ∉ (start ++ rest).toList →
      ∀ (fields : List String) (doc : Document),
        (∀ field ∈ fields, ∀ text, .string text ∈ doc.get field → text = start ++ rest) →
          isMatch (.fullText fields (start ++ "*")) doc = false) := by
  have nonempty : start.toList ≠ [] := by simpa using someStart
  have within : ∀ c ∈ start.toList, c ∈ (start ++ rest).toList := by
    intro c member
    rw [String.toList_append]
    exact List.mem_append_left _ member
  have startLetters : ∀ c ∈ start.toList, isAlphanumeric c = true :=
    fun c member => letters c (within c member)
  have begins_iff := lower_prefix_iff start.toList rest.toList
  rw [← String.toList_append] at begins_iff
  constructor
  · intro kept fields doc field listed held
    apply isMatch_fullText_iff.2
    refine ⟨terms_starred_ne_nil nonempty startLetters, fun term member => ?_⟩
    obtain ⟨token, inside, accepted⟩ :=
      exists_accepted nonempty startLetters (begins_iff.2 kept) term member
    have part : String.ofList token ∈ Text.tokens (start ++ rest) := List.mem_map_of_mem inside
    exact ⟨field, listed, start ++ rest, Document.mem_strings.2 held, _, part, accepted⟩
  · intro cut plain fields doc only
    apply Bool.eq_false_iff.2
    intro found
    have startPlain : 'İ' ∉ start.toList := fun member => plain (within _ member)
    have term := terms_starred_of_plain nonempty startLetters startPlain
    have tokens := tokens_of_plain (by simp [nonempty]) letters plain
    obtain ⟨field, listed, text, held, token, inside, accepted⟩ :=
      (isMatch_fullText_iff.1 found).2 _ (term ▸ List.mem_cons_self)
    obtain rfl := only field listed text (Document.mem_strings.1 held)
    rw [tokens, List.mem_singleton] at inside
    rw [inside] at accepted
    exact begins_iff.1 (Term.accepts_open.1 accepted) cut

/-! A document with one word. -/

def oneWord (word : String) : Document :=
  (Document.new "1").add "text_main" (.string word)

theorem mem_oneWord {word text : String} :
    .string text ∈ (oneWord word).get "text_main" ↔ text = word := by
  simp [oneWord, Document.get_add_new]

theorem isMatch_starred_words :
    isMatch (.fullText ["text_main"] "İΣΤΑ*") (oneWord "İΣΤΑΝΣ") = true ∧
      isMatch (.fullText ["text_main"] "ΜΕΣ*") (oneWord "ΜΕΣΑ") = false := by
  have long : ∀ c ∈ ("İΣΤΑ" ++ "ΝΣ").toList, isAlphanumeric c = true :=
    List.all_eq_true.1 (by decide +kernel)
  have short : ∀ c ∈ ("ΜΕΣ" ++ "Α").toList, isAlphanumeric c = true :=
    List.all_eq_true.1 (by decide +kernel)
  have kept : ¬CutsSigma "İΣΤΑ".toList "ΝΣ".toList := (lower_prefix_iff _ _).1 (by decide +kernel)
  have cut : CutsSigma "ΜΕΣ".toList "Α".toList := by
    refine ⟨['Μ', 'Ε'], [], rfl, ?_⟩
    decide +kernel
  constructor
  · exact (isMatch_starred "İΣΤΑ" "ΝΣ" (by decide) long).1 kept _ _ "text_main"
      List.mem_cons_self (mem_oneWord.2 rfl)
  · refine (isMatch_starred "ΜΕΣ" "Α" (by decide) short).2 cut (by decide) _ _ ?_
    intro field listed text held
    obtain rfl := List.mem_singleton.1 listed
    exact mem_oneWord.1 held

/-- A word of three letters that its first two do not find. -/
theorem not_isMatch_starred_sigma :
    (∀ c ∈ "ΑΣΑ".toList, isAlphanumeric c = true) ∧ "ΑΣ".toList <+: "ΑΣΑ".toList ∧
      .string "ΑΣΑ" ∈ (oneWord "ΑΣΑ").get "text_main" ∧
      isMatch (.fullText ["text_main"] "ΑΣ*") (oneWord "ΑΣΑ") = false := by
  have letters : "ΑΣΑ".toList.all isAlphanumeric = true := by decide +kernel
  exact ⟨List.all_eq_true.1 letters, by decide, mem_oneWord.2 rfl, by decide +kernel⟩

end ContentFinder.IndexQuery
