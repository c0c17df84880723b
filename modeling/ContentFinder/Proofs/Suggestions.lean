import Mathlib.Data.List.Nodup
import Mathlib.Data.List.Perm.Subperm
import ContentFinder.Index.Store
import ContentFinder.Proofs.OpenTerms
import ContentFinder.Proofs.Reading

/-! Suggestions. What was typed and what is stored are lowered apart from each other, so a stored
text that begins with the typed one is suggested unless its lowered form gives a capital sigma
another form than the typed beginning has. -/

namespace ContentFinder

open Text

theorem ranked_perm (texts : List String) :
    ((rankEntries (tally texts)).map (·.1)).Perm (IndexQuery.distinct texts) := by
  have sorted := (Sorting.sortBy_perm (fun x y : String × Nat =>
    y.2 < x.2 || x.2 == y.2 && x.1 < y.1) (tally texts)).map (·.1)
  have names : (tally texts).map (·.1) = IndexQuery.distinct texts := by
    rw [tally, List.map_map]
    exact List.map_id _
  rwa [names] at sorted

namespace Store

variable {store : Store} {typed text : String} {fields : List String} {filter : IndexQuery}

def texts (store : Store) : List String :=
  store.committed.values.flatMap fun doc =>
    doc.fields.values.flatten.filterMap IndexValue.string?

def Offers (store : Store) (fields : List String) (filter : IndexQuery) (text : String) : Prop :=
  ∃ doc ∈ store.committed.values, filter.isMatch doc = true ∧
    ∃ field ∈ fields, .string text ∈ doc.get field

theorem mem_texts_of_offers (offered : store.Offers fields filter text) : text ∈ store.texts := by
  obtain ⟨doc, committed, -, field, -, held⟩ := offered
  refine List.mem_flatMap.2 ⟨doc, committed, List.mem_filterMap.2 ⟨.string text, ?_, rfl⟩⟩
  cases present : doc.fields.get? field with
  | none => simp [Document.get, present] at held
  | some values =>
    have inside := (doc.fields.mem_entries_iff).2 present
    rw [Document.get, present] at held
    exact List.mem_flatten.2 ⟨values, List.mem_map_of_mem inside, held⟩

def opening (store : Store) (typed : String) (fields : List String) (filter : IndexQuery) :
    List String :=
  (store.committed.values.filter filter.isMatch).flatMap fun doc =>
    (fields.flatMap doc.strings).filter (opensWith typed)

theorem mem_opening : text ∈ store.opening typed fields filter ↔
    store.Offers fields filter text ∧ opensWith typed text = true := by
  simp only [opening, Offers, List.mem_flatMap, List.mem_filter, Document.mem_strings]
  constructor
  · rintro ⟨doc, ⟨committed, filtered⟩, held, opens⟩
    exact ⟨⟨doc, committed, filtered, held⟩, opens⟩
  · rintro ⟨⟨doc, committed, filtered, held⟩, opens⟩
    exact ⟨doc, ⟨committed, filtered⟩, held, opens⟩

theorem suggest_eq (online : store.offline = false) (limit : Nat) :
    store.suggest typed fields limit filter =
      .ok (((rankEntries (tally (store.opening typed fields filter))).map (·.1)).take limit) := by
  rw [suggest, requireOnline, online, ← List.map_take]
  rfl

theorem length_ranked_le : ((rankEntries (tally (store.opening typed fields filter))).map
    (·.1)).length ≤ (IndexQuery.distinct store.texts).length := by
  rw [(ranked_perm _).length_eq]
  refine ((IndexQuery.nodup_distinct _).subperm fun text member => ?_).length_le
  rw [IndexQuery.mem_distinct] at member ⊢
  exact mem_texts_of_offers (mem_opening.1 member).1

/-- A text opens with its beginning unless the cut behind that changes a sigma. -/
theorem opensWith_append (start rest : String) :
    opensWith start (start ++ rest) = true ↔ ¬CutsSigma start.toList rest.toList := by
  rw [opensWith, List.isPrefixOf_iff_prefix, String.toList_append, lower_prefix_iff]

/-- With room for all texts, a store that can be reached suggests just the offered texts that open
with what was typed, each once. Of the texts that begin with it character by character, these are
all but those in which the cut changes a sigma. -/
theorem suggest_offered (store : Store) (typed : String) (fields : List String)
    (filter : IndexQuery) (limit : Nat) (online : store.offline = false)
    (enough : (IndexQuery.distinct store.texts).length ≤ limit) :
    ∃ answer, store.suggest typed fields limit filter = .ok answer ∧ answer.Nodup ∧
      (∀ text, text ∈ answer ↔ store.Offers fields filter text ∧ opensWith typed text = true) ∧
      ∀ rest, store.Offers fields filter (typed ++ rest) →
        (typed ++ rest ∈ answer ↔ ¬CutsSigma typed.toList rest.toList) := by
  have ranked := ranked_perm (store.opening typed fields filter)
  have members : ∀ text, text ∈ (rankEntries (tally (store.opening typed fields filter))).map
      (·.1) ↔ store.Offers fields filter text ∧ opensWith typed text = true := by
    intro text
    rw [ranked.mem_iff, IndexQuery.mem_distinct, mem_opening]
  refine ⟨_, suggest_eq online limit, ?_⟩
  rw [List.take_of_length_le (length_ranked_le.trans enough)]
  refine ⟨ranked.nodup_iff.2 (IndexQuery.nodup_distinct _), members, fun rest offered => ?_⟩
  rw [members, opensWith_append, and_iff_right offered]

/-! A store with one word. -/

def withWord (word : String) : Store :=
  { empty with committed := Dict.empty.insert "1" (IndexQuery.oneWord word) }

theorem offers_withWord (word : String) :
    (withWord word).Offers ["text_main"] .matchAll word :=
  ⟨IndexQuery.oneWord word, List.mem_singleton.2 rfl, rfl, "text_main", List.mem_singleton.2 rfl,
    IndexQuery.mem_oneWord.2 rfl⟩

theorem suggest_offered_word : ∃ answer,
    (withWord "ΣΟΦΟΣ").suggest "ΣΟ" ["text_main"] 1 .matchAll = .ok answer ∧
      "ΣΟΦΟΣ" ∈ answer := by
  have kept : ¬CutsSigma "ΣΟ".toList "ΦΟΣ".toList := (lower_prefix_iff _ _).1 (by decide)
  obtain ⟨answer, suggested, -, -, begins⟩ := suggest_offered (withWord "ΣΟΦΟΣ") "ΣΟ"
    ["text_main"] .matchAll 1 rfl (by decide)
  exact ⟨answer, suggested, (begins "ΦΟΣ" (offers_withWord "ΣΟΦΟΣ")).2 kept⟩

/-- A stored text that its first two letters do not find. -/
theorem suggest_not_offered_sigma :
    "ΑΣ".toList <+: "ΑΣΑ".toList ∧ (withWord "ΑΣΑ").Offers ["text_main"] .matchAll "ΑΣΑ" ∧
      (IndexQuery.distinct (withWord "ΑΣΑ").texts).length = 1 ∧
      (withWord "ΑΣΑ").suggest "ΑΣ" ["text_main"] 1 .matchAll = .ok [] := by
  refine ⟨by decide, offers_withWord "ΑΣΑ", by decide, ?_⟩
  decide +kernel

end Store

end ContentFinder
