/-! Dictionaries from names to values, kept in the order of the names. -/

namespace ContentFinder

/-- Names are compared character by character, and each occurs once. -/
structure Dict (α : Type) where
  entries : List (String × α)
  ascending : entries.Pairwise fun a b => a.1 < b.1

namespace Dict

variable {α : Type}

deriving instance DecidableEq for Dict

def empty : Dict α := ⟨[], .nil⟩

instance : Inhabited (Dict α) := ⟨empty⟩

def find (key : String) : List (String × α) → Option α
  | [] => none
  | (name, value) :: rest => if name = key then some value else find key rest

def get? (dict : Dict α) (key : String) : Option α :=
  find key dict.entries

def place (key : String) (next : Option α → α) : List (String × α) → List (String × α)
  | [] => [(key, next none)]
  | (name, value) :: rest =>
    if key < name then (key, next none) :: (name, value) :: rest
    else if key = name then (key, next (some value)) :: rest
    else (name, value) :: place key next rest

theorem mem_place {key : String} {next : Option α → α} {entries : List (String × α)}
    {entry : String × α} (member : entry ∈ place key next entries) :
    entry.1 = key ∨ entry ∈ entries := by
  induction entries with
  | nil =>
    simp only [place, List.mem_singleton] at member
    exact .inl (by rw [member])
  | cons head rest ih =>
    obtain ⟨name, value⟩ := head
    unfold place at member
    split at member
    · rcases List.mem_cons.1 member with same | old
      · exact .inl (by rw [same])
      · exact .inr old
    · split at member
      · rcases List.mem_cons.1 member with same | old
        · exact .inl (by rw [same])
        · exact .inr (List.mem_cons_of_mem _ old)
      · rcases List.mem_cons.1 member with same | old
        · exact .inr (by rw [same]; exact List.mem_cons_self)
        · exact (ih old).imp_right (List.mem_cons_of_mem _)

theorem place_ascending (key : String) (next : Option α → α) {entries : List (String × α)}
    (ascending : entries.Pairwise fun a b => a.1 < b.1) :
    (place key next entries).Pairwise fun a b => a.1 < b.1 := by
  induction entries with
  | nil => exact List.pairwise_singleton _ _
  | cons head rest ih =>
    obtain ⟨name, value⟩ := head
    obtain ⟨above, tail⟩ := List.pairwise_cons.1 ascending
    unfold place
    split
    · rename_i lower
      refine List.pairwise_cons.2 ⟨fun entry member => ?_, ascending⟩
      rcases List.mem_cons.1 member with same | old
      · rw [same]; exact lower
      · exact String.lt_trans lower (above entry old)
    · split
      · rename_i same
        subst same
        exact List.pairwise_cons.2 ⟨above, tail⟩
      · rename_i notLower different
        refine List.pairwise_cons.2 ⟨fun entry member => ?_, ih tail⟩
        rcases mem_place member with same | old
        · refine Decidable.byContradiction fun notAbove => different ?_
          rw [same] at notAbove
          exact String.le_antisymm (String.not_lt.1 notAbove) (String.not_lt.1 notLower)
        · exact above entry old

def alter (dict : Dict α) (key : String) (next : Option α → α) : Dict α :=
  ⟨place key next dict.entries, place_ascending key next dict.ascending⟩

def insert (dict : Dict α) (key : String) (value : α) : Dict α :=
  dict.alter key fun _ => value

def erase (dict : Dict α) (key : String) : Dict α :=
  ⟨dict.entries.filter (·.1 != key), dict.ascending.filter _⟩

def ofList (entries : List (String × α)) : Dict α :=
  entries.foldl (fun dict entry => dict.insert entry.1 entry.2) empty

def values (dict : Dict α) : List α :=
  dict.entries.map (·.2)

def size (dict : Dict α) : Nat :=
  dict.entries.length

def isEmpty (dict : Dict α) : Bool :=
  dict.entries.isEmpty

theorem get?_empty (key : String) : (empty : Dict α).get? key = none := rfl

theorem find_place (key other : String) (next : Option α → α) {entries : List (String × α)}
    (ascending : entries.Pairwise fun a b => a.1 < b.1) :
    find other (place key next entries) =
      if key = other then some (next (find key entries)) else find other entries := by
  induction entries with
  | nil => simp [place, find]
  | cons head rest ih =>
    obtain ⟨name, value⟩ := head
    obtain ⟨above, tail⟩ := List.pairwise_cons.1 ascending
    have absent : key < name → find key ((name, value) :: rest) = none := by
      intro lower
      have below : ∀ entry ∈ rest, key < entry.1 := fun entry member =>
        String.lt_trans lower (above entry member)
      have missing : ∀ list : List (String × α), (∀ entry ∈ list, key < entry.1) →
          find key list = none := by
        intro list bound
        induction list with
        | nil => rfl
        | cons first others step =>
          have apart : first.1 ≠ key := fun same =>
            String.lt_irrefl key (same ▸ bound first List.mem_cons_self)
          simp only [find, if_neg apart]
          exact step fun entry member => bound entry (List.mem_cons_of_mem _ member)
      refine missing _ fun entry member => ?_
      rcases List.mem_cons.1 member with same | old
      · rw [same]; exact lower
      · exact below entry old
    unfold place
    split
    · rename_i lower
      rw [absent lower]
      simp [find]
    · split
      · rename_i same
        subst same
        by_cases equal : key = other <;> simp [find, equal]
      · rename_i different
        have apart : name ≠ key := fun same => different same.symm
        by_cases equal : name = other
        · have keyApart : key ≠ other := fun same => different (same.trans equal.symm)
          simp [find, equal, keyApart]
        · simp only [find, if_neg equal, if_neg apart]
          exact ih tail

theorem get?_alter (dict : Dict α) (key other : String) (next : Option α → α) :
    (dict.alter key next).get? other =
      if key = other then some (next (dict.get? key)) else dict.get? other :=
  find_place key other next dict.ascending

theorem get?_insert (dict : Dict α) (key other : String) (value : α) :
    (dict.insert key value).get? other = if key = other then some value else dict.get? other :=
  get?_alter dict key other _

theorem get?_erase (dict : Dict α) (key other : String) :
    (dict.erase key).get? other = if key = other then none else dict.get? other := by
  obtain ⟨entries, ascending⟩ := dict
  simp only [get?, erase]
  induction entries with
  | nil => simp [find]
  | cons head rest ih =>
    have step := ih (List.pairwise_cons.1 ascending).2
    by_cases same : head.1 = key
    · have dropped : (head :: rest).filter (·.1 != key) = rest.filter (·.1 != key) := by
        simp [same]
      rw [dropped, step]
      by_cases equal : key = other
      · simp [equal]
      · have apart : head.1 ≠ other := fun h => equal (same.symm.trans h)
        simp [find, equal, apart]
    · have kept : (head :: rest).filter (·.1 != key) = head :: rest.filter (·.1 != key) := by
        simp [same]
      rw [kept]
      by_cases equal : head.1 = other
      · have apart : key ≠ other := fun h => same (equal.trans h.symm)
        simp [find, equal, apart]
      · simp only [find, if_neg equal]
        exact step

end Dict

end ContentFinder
