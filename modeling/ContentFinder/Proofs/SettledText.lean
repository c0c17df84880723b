import Mathlib.Data.Nat.ModEq
import ContentFinder.Proofs.OpenTerms

/-! Texts in lower case. No character of such a text has another lower-case form and none is a
capital sigma, so lowering it again changes nothing, whatever stands around it. A token is therefore
its own token, and the tokens of a text are those of the line that is written from them. -/

namespace ContentFinder.Text

variable {text piece : List Char} {c d : Char}

/-! Characters. -/

structure Settled (c : Char) : Prop where
  notSigma : c ≠ 'Σ'
  lowered : lowerChar c = [c]

/-- The letter with a lower-case form of two characters, as a run of its own. -/
def dottedRun : CaseRun := ⟨0x130, 0x130, 1, 0⟩

def CaseRun.image (run : CaseRun) : CaseRun :=
  ⟨(run.first + run.shift).toNat, (run.last + run.shift).toNat, run.step, 0⟩

/-- No character is in both runs: they lie apart, or differ in the remainders by a step. -/
def CaseRun.avoids (run other : CaseRun) : Bool :=
  run.last.blt other.first || other.last.blt run.first ||
    (run.last == run.first || run.step % other.step == 0) &&
      run.first % other.step != other.first % other.step

theorem nonneg_lowerRuns : ∀ run ∈ lowerRuns, 0 ≤ run.first + run.shift := by
  decide +kernel

/-- The lower-case forms are no letters with other forms. -/
theorem image_avoids_lowerRuns :
    lowerRuns.all (fun run => (dottedRun :: lowerRuns).all run.image.avoids) = true := by
  decide +kernel

theorem holds_iff {run : CaseRun} {code : Nat} :
    run.holds code = true ↔
      run.first ≤ code ∧ code ≤ run.last ∧ run.step ∣ code - run.first := by
  simp only [CaseRun.holds, Bool.and_eq_true, decide_eq_true_eq, beq_iff_eq, and_assoc,
    Nat.dvd_iff_mod_eq_zero]

theorem holds_image {run : CaseRun} {code : Nat} (nonneg : 0 ≤ run.first + run.shift)
    (held : run.holds code = true) : run.image.holds (code + run.shift).toNat = true := by
  obtain ⟨low, high, whole⟩ := holds_iff.1 held
  have same : (code + run.shift).toNat - run.image.first = code - run.first := by
    simp only [CaseRun.image]
    omega
  refine holds_iff.2 ⟨?_, ?_, same ▸ whole⟩ <;> simp only [CaseRun.image] <;> omega

theorem not_holds_of_avoids {run other : CaseRun} {code : Nat} (avoids : run.avoids other = true)
    (held : run.holds code = true) : other.holds code = false := by
  apply Bool.eq_false_iff.2
  intro shared
  obtain ⟨low, high, whole⟩ := holds_iff.1 held
  obtain ⟨above, below, others⟩ := holds_iff.1 shared
  simp only [CaseRun.avoids, Bool.or_eq_true, Bool.and_eq_true, Nat.blt_eq, beq_iff_eq,
    bne_iff_ne] at avoids
  obtain outside | ⟨regular, apart⟩ := avoids
  · omega
  · apply apart
    have divides : other.step ∣ code - run.first := by
      obtain single | multiple := regular
      · have first : code - run.first = 0 := by omega
        exact first ▸ Nat.dvd_zero _
      · exact Nat.dvd_trans (Nat.dvd_of_mod_eq_zero multiple) whole
    exact ((Nat.modEq_iff_dvd' low).2 divides).trans ((Nat.modEq_iff_dvd' above).2 others).symm

theorem settled_of_not_holds
    (unheld : ∀ run ∈ dottedRun :: lowerRuns, run.holds c.toNat = false) : Settled c where
  notSigma := by
    rintro rfl
    have held : lowerRuns.any (·.holds 'Σ'.toNat) = true := by decide
    obtain ⟨run, member, here⟩ := List.any_eq_true.1 held
    rw [unheld run (List.mem_cons_of_mem _ member)] at here
    cases here
  lowered := by
    refine lowerChar_of_not_holds ?_ fun run member => unheld run (List.mem_cons_of_mem _ member)
    rintro rfl
    cases unheld dottedRun List.mem_cons_self

theorem settled_forms : ∀ d ∈ ['i', '\u0307', 'ς', 'σ'], Settled d := by
  have unheld : ['i', '\u0307', 'ς', 'σ'].all (fun d =>
      (dottedRun :: lowerRuns).all (! ·.holds d.toNat)) = true := by decide +kernel
  intro d member
  have each := List.all_eq_true.1 (List.all_eq_true.1 unheld d member)
  exact settled_of_not_holds fun run listed => by simpa using each run listed

theorem settled_of_holds {run : CaseRun} (listed : run ∈ lowerRuns)
    (held : run.holds c.toNat = true) : Settled (Char.ofNat (c.toNat + run.shift).toNat) := by
  have nonneg := nonneg_lowerRuns run listed
  have avoids := List.all_eq_true.1 (List.all_eq_true.1 image_avoids_lowerRuns run listed)
  obtain ⟨low, high, -⟩ := holds_iff.1 held
  have place : (Char.ofNat (c.toNat + run.shift).toNat).toNat = (c.toNat + run.shift).toNat :=
    toNat_ofNat_of_covers (covers_lowerRuns run listed) (by omega) (by omega)
  apply settled_of_not_holds
  intro other also
  rw [place]
  exact not_holds_of_avoids (avoids other also) (holds_image nonneg held)

theorem settled_of_unlisted (undotted : c ≠ 'İ')
    (unheld : ∀ run ∈ lowerRuns, ¬run.holds c.toNat = true) : Settled c := by
  apply settled_of_not_holds
  refine List.forall_mem_cons.2 ⟨?_, fun run listed => Bool.eq_false_iff.2 (unheld run listed)⟩
  apply Bool.eq_false_iff.2
  intro held
  obtain ⟨low, high, -⟩ := holds_iff.1 held
  exact undotted (Char.toNat_inj.1 (Nat.le_antisymm high low))

theorem settled_of_mem_lowerChar (member : d ∈ lowerChar c) : Settled d := by
  unfold lowerChar at member
  split at member
  · exact settled_forms d (List.mem_append_left ['ς', 'σ'] member)
  · rename_i undotted
    split at member
    · rename_i run found
      have held := List.find?_some found
      rw [List.mem_singleton.1 member]
      exact settled_of_holds (List.mem_of_find?_eq_some found) held
    · rename_i none
      rw [List.mem_singleton.1 member]
      exact settled_of_unlisted undotted (List.find?_eq_none.1 none)

theorem settled_lowerSigma (before after : List Char) : Settled (lowerSigma before after) := by
  unfold lowerSigma
  split
  · exact settled_forms 'ς' (by decide)
  · exact settled_forms 'σ' (by decide)

/-! Texts. -/

theorem settled_of_mem_lowerAfter (before : List Char) (member : d ∈ lowerAfter before text) :
    Settled d := by
  induction text generalizing before with
  | nil => exact absurd member List.not_mem_nil
  | cons c rest ih =>
    rw [lowerAfter_cons] at member
    rcases List.mem_append.1 member with here | later
    · unfold lowerAt at here
      split at here
      · rw [List.mem_singleton.1 here]
        exact settled_lowerSigma before rest
      · exact settled_of_mem_lowerChar here
    · exact ih _ later

theorem settled_of_mem_lower (member : d ∈ lower text) : Settled d :=
  settled_of_mem_lowerAfter [] member

theorem lowerAfter_of_settled (settled : ∀ c ∈ text, Settled c) (before : List Char) :
    lowerAfter before text = text := by
  induction text generalizing before with
  | nil => rfl
  | cons c rest ih =>
    obtain ⟨here, later⟩ := List.forall_mem_cons.1 settled
    rw [lowerAfter_cons, lowerAt, if_neg here.notSigma, here.lowered, ih later,
      List.singleton_append]

/-! Tokens. -/

/-- A token is cut from a lowered text and has no separator in it, so it is its own token. -/
theorem tokenPieces_token (member : piece ∈ tokenPieces text) : tokenPieces piece = [piece] := by
  have settled : ∀ c ∈ piece, Settled c := fun c inside =>
    settled_of_mem_lower (mem_of_mem_pieces member inside)
  rw [tokenPieces, lower, lowerAfter_of_settled settled]
  exact pieces_of_free (pieces_free member) (ne_nil_of_mem_pieces member)

theorem tokenPieces_intercalate (parts : List (List Char)) :
    tokenPieces ([' '].intercalate parts) = parts.flatMap tokenPieces := by
  have blank : Separates ' ' := separates_of_isBlank (by decide)
  induction parts with
  | nil => rfl
  | cons part rest ih =>
    cases rest with
    | nil => rw [List.intercalate_singleton, List.flatMap_singleton]
    | cons next rest =>
      rw [List.intercalate_cons_cons, List.append_assoc, List.singleton_append,
        tokenPieces_separator blank, ih]
      rfl

theorem map_toList_tokens (text : String) :
    (tokens text).map String.toList = tokenPieces text.toList := by
  have back : ∀ parts : List (List Char),
      (parts.map String.ofList).map String.toList = parts := by simp
  exact back _

theorem tokenPieces_line (text : List Char) :
    tokenPieces ([' '].intercalate (tokenPieces text)) = tokenPieces text := by
  have single : ∀ piece ∈ tokenPieces text, tokenPieces piece = [piece] :=
    fun _ => tokenPieces_token
  rw [tokenPieces_intercalate, List.flatMap_congr single, List.flatMap_singleton']

theorem isAlphanumeric_of_mem_token (member : piece ∈ tokenPieces text) (inside : c ∈ piece) :
    isAlphanumeric c = true := by
  simpa using pieces_free member c inside

theorem terms_token (member : piece ∈ tokenPieces text) :
    terms (String.ofList piece) = [⟨String.ofList piece, false⟩] := by
  have letters : ∀ c ∈ piece, isAlphanumeric c = true :=
    fun _ => isAlphanumeric_of_mem_token member
  have word : words (String.ofList piece).toList = [piece] := by
    rw [String.toList_ofList]
    exact pieces_of_free (fun c inside => isBlank_of_isAlphanumeric (letters c inside))
      (ne_nil_of_mem_pieces member)
  have unstarred : (piece.getLast? == some '*') = false := by
    apply beq_eq_false_iff_ne.2
    intro starred
    have letter := letters '*' (List.mem_of_getLast? starred)
    rw [separates_star.notAlphanumeric] at letter
    cases letter
  rw [terms, word, List.flatMap_singleton, wordTerms_eq, tokenPieces_token member, unstarred]
  rfl

end ContentFinder.Text

namespace ContentFinder.IndexQuery

open Text

/-- A token of a text is its own only token and its own only term, so the line of all tokens has the
tokens of the text, and every token finds every field that holds the text. -/
theorem tokens_settled (text : String) :
    (∀ token ∈ Text.tokens text,
        Text.tokens token = [token] ∧ Text.terms token = [⟨token, false⟩]) ∧
      Text.tokens (" ".intercalate (Text.tokens text)) = Text.tokens text ∧
      ∀ token ∈ Text.tokens text, ∀ (fields : List String) (doc : Document) (field : String),
        field ∈ fields → .string text ∈ doc.get field →
          isMatch (.fullText fields token) doc = true := by
  have single : ∀ token ∈ Text.tokens text,
      Text.tokens token = [token] ∧ Text.terms token = [⟨token, false⟩] := by
    intro token member
    obtain ⟨piece, inside, rfl⟩ := List.mem_map.1 member
    refine ⟨?_, terms_token inside⟩
    rw [tokens_ofList, tokenPieces_token inside, List.map_singleton]
  refine ⟨single, ?_, fun token member fields doc field listed held => ?_⟩
  · have line : (" ".intercalate (Text.tokens text)).toList =
        [' '].intercalate (tokenPieces text.toList) := by
      rw [String.toList_intercalate, map_toList_tokens]
      rfl
    have same := tokenPieces_line text.toList
    rw [← line] at same
    exact congrArg (List.map String.ofList) same
  · obtain ⟨-, term⟩ := single token member
    rw [isMatch_fullText_iff, term]
    refine ⟨List.cons_ne_nil _ _, fun asked only => ?_⟩
    obtain rfl := List.mem_singleton.1 only
    exact ⟨field, listed, text, Document.mem_strings.2 held, token, member, Term.accepts_token _⟩

theorem tokens_settled_sigma :
    Text.tokens "ΛΟΓΟΣ İΣ Ⅷ_ΣΑ" = ["λογος", "i", "ς", "ⅷ", "σα"] ∧
      Text.tokens "ς" = ["ς"] ∧ Text.terms "ς" = [⟨"ς", false⟩] ∧
      Text.tokens "λογος i ς ⅷ σα" = ["λογος", "i", "ς", "ⅷ", "σα"] ∧
      isMatch (.fullText ["text_main"] "ς") (oneWord "ΛΟΓΟΣ İΣ Ⅷ_ΣΑ") = true := by
  have read : Text.tokens "ΛΟΓΟΣ İΣ Ⅷ_ΣΑ" = ["λογος", "i", "ς", "ⅷ", "σα"] := by decide +kernel
  have inside : "ς" ∈ Text.tokens "ΛΟΓΟΣ İΣ Ⅷ_ΣΑ" := by simp [read]
  obtain ⟨single, line, found⟩ := tokens_settled "ΛΟΓΟΣ İΣ Ⅷ_ΣΑ"
  rw [read] at line
  exact ⟨read, (single "ς" inside).1, (single "ς" inside).2, line,
    found "ς" inside _ _ "text_main" List.mem_cons_self (mem_oneWord.2 rfl)⟩

end ContentFinder.IndexQuery
