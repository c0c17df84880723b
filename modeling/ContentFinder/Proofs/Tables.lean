import Mathlib.Data.List.Nodup
import ContentFinder.Field.Schema

/-! Lists in the order of a text, and the tables that are kept so. Such a list is known by its
members, a table by its values, and entries for different fields can be made in any order. -/

namespace ContentFinder

section Ascending

variable {β : Type} (key : β → String) {items others sorted : List β}

theorem nodup_of_ascending (ascending : items.Pairwise fun a b => key a < key b) :
    items.Nodup := by
  refine ascending.imp fun below equal => ?_
  rw [equal] at below
  exact String.lt_irrefl _ below

/-- Items in ascending order are known by their members. -/
theorem eq_of_ascending (ascending : items.Pairwise fun a b => key a < key b)
    (othersAscending : others.Pairwise fun a b => key a < key b)
    (same : ∀ item, item ∈ items ↔ item ∈ others) : items = others := by
  have perm := (List.perm_ext_iff_of_nodup (nodup_of_ascending key ascending)
    (nodup_of_ascending key othersAscending)).2 same
  exact perm.eq_of_pairwise (fun a b _ _ below above => absurd above (String.lt_asymm below))
    ascending othersAscending

theorem mergeSort_pairwise (items : List β) :
    (items.mergeSort fun a b => key a ≤ key b).Pairwise fun a b => key a ≤ key b := by
  refine (List.pairwise_mergeSort ?_ ?_ _).imp of_decide_eq_true
  · intro a b c first second
    exact decide_eq_true (String.le_trans (of_decide_eq_true first) (of_decide_eq_true second))
  · intro a b
    simpa using String.le_total (key a) (key b)

/-- Items whose keys differ have one sorted arrangement. -/
theorem eq_of_sorted (perm : items.Perm sorted)
    (weakly : items.Pairwise fun a b => key a ≤ key b)
    (ascending : sorted.Pairwise fun a b => key a < key b) : items = sorted := by
  have keys : (sorted.map key).Nodup := by
    refine List.pairwise_map.2 (ascending.imp fun below equal => ?_)
    rw [equal] at below
    exact String.lt_irrefl _ below
  have sortedWeakly : sorted.Pairwise fun a b => key a ≤ key b :=
    ascending.imp fun below => String.not_lt.1 (String.lt_asymm below)
  refine perm.eq_of_pairwise (fun a b here there below above => ?_) weakly sortedWeakly
  exact List.inj_on_of_nodup_map keys (perm.subset here) there (String.le_antisymm below above)

theorem mergeSort_eq_of_ascending (perm : items.Perm sorted)
    (ascending : sorted.Pairwise fun a b => key a < key b) :
    (items.mergeSort fun a b => key a ≤ key b) = sorted :=
  eq_of_sorted key ((List.mergeSort_perm items _).trans perm) (mergeSort_pairwise key items)
    ascending

end Ascending

namespace Dict

variable {α : Type} {dict other : Dict α}

theorem find_eq_some_iff {entries : List (String × α)}
    (ascending : entries.Pairwise fun a b => a.1 < b.1) {key : String} {value : α} :
    find key entries = some value ↔ (key, value) ∈ entries := by
  induction entries with
  | nil => simp [find]
  | cons head rest ih =>
    obtain ⟨name, held⟩ := head
    obtain ⟨above, tail⟩ := List.pairwise_cons.1 ascending
    by_cases same : name = key
    · subst same
      have absent : (name, value) ∉ rest := fun member =>
        String.lt_irrefl name (above _ member)
      simp [find, absent, eq_comm]
    · simp [find, same, ih tail, Ne.symm same]

theorem mem_entries_iff (dict : Dict α) {key : String} {value : α} :
    (key, value) ∈ dict.entries ↔ dict.get? key = some value :=
  (find_eq_some_iff dict.ascending).symm

theorem ext_get? (same : ∀ key, dict.get? key = other.get? key) : dict = other := by
  have entries : dict.entries = other.entries := by
    refine eq_of_ascending Prod.fst dict.ascending other.ascending fun entry => ?_
    rw [mem_entries_iff dict, mem_entries_iff other, same]
  cases dict
  cases other
  cases entries
  rfl

theorem alter_comm {key another : String} (apart : key ≠ another) (next later : Option α → α) :
    (dict.alter key next).alter another later = (dict.alter another later).alter key next := by
  refine ext_get? fun name => ?_
  simp only [get?_alter]
  by_cases first : key = name
  · subst first
    simp [apart.symm]
  · by_cases second : another = name <;> simp [first, second]

theorem insert_comm {key another : String} (apart : key ≠ another) (value held : α) :
    (dict.insert key value).insert another held = (dict.insert another held).insert key value :=
  alter_comm apart _ _

end Dict

namespace FieldTable

variable {α : Type} {table : FieldTable α} {contentType identifier otherType other : String}
  {value : α}

theorem mem_having :
    (contentType, value) ∈ table.having identifier ↔
      table.get? contentType identifier = some value := by
  rw [having, List.mem_filterMap, get?, Option.bind_eq_some_iff]
  constructor
  · rintro ⟨⟨type, fields⟩, member, found⟩
    obtain ⟨held, got, same⟩ := Option.map_eq_some_iff.1 found
    obtain ⟨rfl, rfl⟩ := Prod.mk.inj same
    exact ⟨fields, table.types.mem_entries_iff.1 member, got⟩
  · rintro ⟨fields, found, got⟩
    exact ⟨(contentType, fields), table.types.mem_entries_iff.2 found, by rw [got]; rfl⟩

theorem having_ascending (table : FieldTable α) (identifier : String) :
    (table.having identifier).Pairwise fun a b => a.1 < b.1 := by
  refine table.types.ascending.filterMap _ fun a b below entry found later listed => ?_
  obtain ⟨value, -, rfl⟩ := Option.map_eq_some_iff.1 found
  obtain ⟨held, -, rfl⟩ := Option.map_eq_some_iff.1 listed
  exact below

theorem mem_ofType :
    (identifier, value) ∈ table.ofType contentType ↔
      table.get? contentType identifier = some value := by
  rw [ofType, get?]
  cases table.types.get? contentType with
  | none => simp
  | some fields => exact fields.mem_entries_iff

theorem ofType_ascending (table : FieldTable α) (contentType : String) :
    (table.ofType contentType).Pairwise fun a b => a.1 < b.1 := by
  rw [ofType]
  cases table.types.get? contentType with
  | none => exact .nil
  | some fields => exact fields.ascending

/-! Entries. -/

def entries (table : FieldTable α) : List (String × String × α) :=
  table.types.entries.flatMap fun type =>
    type.2.entries.map fun field => (type.1, field.1, field.2)

theorem mem_entries :
    (contentType, identifier, value) ∈ table.entries ↔
      table.get? contentType identifier = some value := by
  rw [entries, List.mem_flatMap, get?, Option.bind_eq_some_iff]
  constructor
  · rintro ⟨⟨type, fields⟩, member, listed⟩
    obtain ⟨⟨name, held⟩, inside, same⟩ := List.mem_map.1 listed
    cases same
    exact ⟨fields, table.types.mem_entries_iff.1 member, fields.mem_entries_iff.1 inside⟩
  · rintro ⟨fields, found, got⟩
    refine ⟨(contentType, fields), table.types.mem_entries_iff.2 found, ?_⟩
    exact List.mem_map.2 ⟨(identifier, value), fields.mem_entries_iff.2 got, rfl⟩

theorem nodup_entries (table : FieldTable α) : table.entries.Nodup := by
  refine List.nodup_flatMap.2 ⟨fun type _ => ?_, ?_⟩
  · apply (nodup_of_ascending Prod.fst type.2.ascending).map
    intro field later same
    exact (Prod.mk.inj same).2
  · refine table.types.ascending.imp fun {type later} below entry here there => ?_
    obtain ⟨field, -, rfl⟩ := List.mem_map.1 here
    obtain ⟨held, -, same⟩ := List.mem_map.1 there
    rw [(Prod.mk.inj same).1] at below
    exact String.lt_irrefl _ below

theorem size_eq_length (table : FieldTable α) : table.size = table.entries.length := by
  have sums : ∀ (types : List (String × Dict α)) (size : Nat),
      (types.map (·.2)).foldl (fun size fields => size + fields.size) size =
        size + (types.flatMap fun type =>
          type.2.entries.map fun field => (type.1, field.1, field.2)).length := by
    intro types
    induction types with
    | nil => exact fun size => rfl
    | cons type rest ih =>
      intro size
      rw [List.map_cons, List.foldl_cons, ih, List.flatMap_cons, List.length_append,
        List.length_map, ← Nat.add_assoc]
      rfl
  exact (sums table.types.entries 0).trans (Nat.zero_add _)

theorem having_insert_of_ne (apart : identifier ≠ other) (value : α) :
    (table.insert contentType identifier value).having other = table.having other := by
  refine eq_of_ascending Prod.fst (having_ascending _ _) (having_ascending _ _) fun entry => ?_
  rw [mem_having, mem_having, get?_insert, if_neg fun both => apart both.2]

theorem insert_comm (apart : contentType ≠ otherType ∨ identifier ≠ other) (value held : α) :
    (table.insert contentType identifier value).insert otherType other held =
      (table.insert otherType other held).insert contentType identifier value := by
  unfold insert
  by_cases types : contentType = otherType
  · have fields : identifier ≠ other := apart.resolve_left fun differ => differ types
    subst types
    refine congrArg mk (Dict.ext_get? fun name => ?_)
    by_cases here : contentType = name
    · simp [Dict.get?_alter, here, Dict.insert_comm fields]
    · simp [Dict.get?_alter, here]
  · exact congrArg mk (Dict.alter_comm types _ _)

end FieldTable

end ContentFinder
