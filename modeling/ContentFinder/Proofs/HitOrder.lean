import Mathlib.Data.List.Induction
import ContentFinder.Proofs.FieldShape
import ContentFinder.Proofs.VisibleTotal

/-! The order of hits. The order of values is no preorder on all pairs of values, but it is one on
values of one shape, and the keys of a sort are of one shape. So the hits of a finder are arranged
by the first sort that tells two of them apart, and by the ids of their contents if none does. -/

namespace ContentFinder

open Outcome

namespace Sorting

variable {α : Type} {before : α → α → Bool}

theorem insertLast_pairwise {item : α} {sorted : List α}
    (trans : ∀ x ∈ sorted, ∀ y ∈ sorted,
      before x y = true → before y item = true → before x item = true)
    (total : ∀ other ∈ sorted, before item other = true ∨ before other item = true)
    (lastFirst : sorted.Pairwise fun x y => before y x = true) :
    (insertLast before item sorted).Pairwise fun x y => before y x = true := by
  -- The last item stands first, so what an item precedes is in front of it.
  induction sorted with
  | nil => exact List.pairwise_singleton _ _
  | cons last rest ih =>
    obtain ⟨earlier, others⟩ := List.pairwise_cons.1 lastFirst
    unfold insertLast
    split
    · rename_i here
      refine List.pairwise_cons.2 ⟨fun other member => ?_, ih ?_ ?_ others⟩
      · rcases List.mem_cons.1 ((insertLast_perm before item rest).mem_iff.1 member) with rfl | old
        · exact here
        · exact earlier other old
      · intro x xMember y yMember
        exact trans x (List.mem_cons_of_mem _ xMember) y (List.mem_cons_of_mem _ yMember)
      · exact fun other member => total other (List.mem_cons_of_mem _ member)
    · rename_i notHere
      have after : before last item = true :=
        (total last List.mem_cons_self).resolve_left notHere
      refine List.pairwise_cons.2 ⟨List.forall_mem_cons.2 ⟨after, fun other member => ?_⟩,
        lastFirst⟩
      exact trans other (List.mem_cons_of_mem _ member) last List.mem_cons_self
        (earlier other member) after

theorem sortBy_pairwise {items : List α}
    (trans : ∀ x ∈ items, ∀ y ∈ items, ∀ z ∈ items,
      before x y = true → before y z = true → before x z = true)
    (total : items.Pairwise fun x y => before x y = true ∨ before y x = true) :
    (sortBy before items).Pairwise fun x y => before x y = true := by
  -- The items are inserted from the front on, so the last one meets all others in order.
  induction items using List.reverseRecOn with
  | nil => exact .nil
  | append_singleton items item ih =>
    obtain ⟨totalBefore, -, totalItem⟩ := List.pairwise_append.1 total
    have inside : ∀ x ∈ items, x ∈ items ++ [item] := fun x member =>
      List.mem_append_left _ member
    have sorted := ih (fun x xMember y yMember z zMember =>
      trans x (inside x xMember) y (inside y yMember) z (inside z zMember)) totalBefore
    have kept : ∀ x, x ∈ (sortBy before items).reverse ↔ x ∈ items := fun x =>
      List.mem_reverse.trans (sortBy_perm before items).mem_iff
    have one : sortBy before (items ++ [item]) =
        (insertLast before item (sortBy before items).reverse).reverse := by
      simp [sortBy]
    rw [one, List.pairwise_reverse]
    refine insertLast_pairwise ?_ ?_ (List.pairwise_reverse.2 sorted)
    · intro x xMember y yMember
      exact trans x (inside x ((kept x).1 xMember)) y (inside y ((kept y).1 yMember)) item
        (List.mem_append_right _ List.mem_cons_self)
    · intro other member
      exact (totalItem other ((kept other).1 member) item List.mem_cons_self).symm

end Sorting

/-! Keys. -/

def IndexValue.weight : IndexValue → Int × String
  | .string text => (0, text)
  | .integer number | .date number => (number.toInt, "")
  | .float number => (number.place, "")
  | .boolean flag => (if flag then 1 else 0, "")
  | .point .. => (0, "")

theorem IndexValue.order_eq_of_shape {x y : IndexValue} (same : x.shape = y.shape) :
    x.order y = (compare x.weight.1 y.weight.1).then (compare x.weight.2 y.weight.2) := by
  cases x <;> cases y <;> simp [shape] at same
  case boolean.boolean x y => cases x <;> cases y <;> rfl
  all_goals simp [order, rank, compare?, integer?, number?, weight, Number.Binary.compareTotal]

theorem transCmp_comap {α β : Type} (cmp : β → β → Ordering) [Std.TransCmp cmp] (f : α → β) :
    Std.TransCmp fun x y => cmp (f x) (f y) where
  eq_swap := Std.OrientedCmp.eq_swap
  isLE_trans := Std.TransCmp.isLE_trans

namespace IndexSort

def weight : Option IndexValue → Int × String
  | none => (0, "")
  | some value => value.weight

def compareWeights : Option IndexValue → Option IndexValue → Ordering :=
  compareLex (compareOn fun key => (weight key).1) (compareOn fun key => (weight key).2)

instance : Std.TransCmp compareWeights :=
  inferInstanceAs (Std.TransCmp (compareLex _ _))

/-- Keys by their weights in a direction, missing ones last in both. -/
def weigh : Direction → Option IndexValue → Option IndexValue → Ordering
  | .ascending => compareLex (compareOn Option.isNone) compareWeights
  | .descending => compareLex (compareOn Option.isNone) fun x y => compareWeights y x

instance (direction : Direction) : Std.TransCmp (weigh direction) := by
  cases direction with
  | ascending => exact inferInstanceAs (Std.TransCmp (compareLex _ _))
  | descending => exact inferInstanceAs (Std.TransCmp (compareLex _ _))

theorem compareKeys_eq_weigh {direction : Direction} {x y : Option IndexValue}
    (same : ∀ value ∈ x, ∀ other ∈ y, value.shape = other.shape) :
    compareKeys direction x y = weigh direction x y := by
  cases x with
  | none => cases y <;> cases direction <;> rfl
  | some value =>
    cases y with
    | none => cases direction <;> rfl
    | some other =>
      have weights : value.order other = compareWeights (some value) (some other) :=
        IndexValue.order_eq_of_shape (same value rfl other rfl)
      cases direction with
      | ascending => exact weights
      | descending =>
        have swapped : compareWeights (some other) (some value) = (value.order other).swap := by
          rw [weights]
          exact Std.OrientedCmp.eq_swap
        exact swapped.symm

theorem mem_foldl_choice {α : Type} {choose : α → α → α}
    (either : ∀ kept next, choose kept next = kept ∨ choose kept next = next) (items : List α)
    (start : α) : items.foldl choose start ∈ start :: items := by
  refine List.foldlRecOn items choose List.mem_cons_self fun kept inside next member => ?_
  rcases either kept next with same | same
  · rw [same]
    exact inside
  · rw [same]
    exact List.mem_cons_of_mem _ member

theorem mem_of_firstLeast {α : Type} {order : α → α → Ordering} {items : List α} {item : α}
    (found : firstLeast order items = some item) : item ∈ items := by
  cases items with
  | nil => cases found
  | cons first rest =>
    cases found
    refine mem_foldl_choice (fun kept next => ?_) rest first
    split_ifs <;> simp

theorem mem_of_lastGreatest {α : Type} {order : α → α → Ordering} {items : List α} {item : α}
    (found : lastGreatest order items = some item) : item ∈ items := by
  cases items with
  | nil => cases found
  | cons first rest =>
    cases found
    refine mem_foldl_choice (fun kept next => ?_) rest first
    split_ifs <;> simp

theorem shape_key {doc other : Document} (shaped : doc.Shaped) (otherShaped : other.Shaped)
    (sort : IndexSort) (score otherScore : Score) :
    ∀ value ∈ sort.key doc score, ∀ second ∈ sort.key other otherScore,
      value.shape = second.shape := by
  cases sort with
  | field name direction =>
    have stored : ∀ {doc : Document} {score : Score} {value : IndexValue},
        value ∈ (field name direction).key doc score → value ∈ doc.get name := by
      intro doc score value found
      cases direction with
      | ascending => exact mem_of_firstLeast found
      | descending => exact mem_of_lastGreatest found
    intro value found second secondFound
    exact (otherShaped name second (stored secondFound)).unique (shaped name value (stored found))
  | geoDistance name latitude longitude direction =>
    have float : ∀ {doc : Document} {score : Score} {value : IndexValue},
        value ∈ (geoDistance name latitude longitude direction).key doc score →
          value.shape = .float := by
      intro doc score value found
      obtain ⟨away, -, rfl⟩ := Option.map_eq_some_iff.1 found
      rfl
    intro value found second secondFound
    rw [float found, float secondFound]
  | score direction =>
    intro value found second secondFound
    cases found
    cases secondFound
    rfl

def orScore (sorts : List IndexSort) : List IndexSort :=
  if sorts.isEmpty then [.score .descending] else sorts

def order (sort : IndexSort) (x y : Candidate) : Ordering :=
  compareKeys sort.direction (sort.key x.doc x.score) (sort.key y.doc y.score)

end IndexSort

/-! Candidates. -/

theorem compareIds_wordText (id other : Int64) :
    compareIds (Number.wordText id) (Number.wordText other) = compare id.toInt other.toInt := by
  rw [compareIds, Number.readWord_wordText, Number.readWord_wordText]

/-- The values of the document have the shapes of their names, and its id is the text of the number
that it holds as the id of its content. -/
structure Document.Sortable (doc : Document) : Prop where
  shaped : doc.Shaped
  numbered : ∃ id, doc.id = Number.wordText id ∧ doc.integer IndexName.id = .ok id

namespace Candidate

def number (candidate : Candidate) : Int :=
  (Number.readWord candidate.doc.id.toList).elim 0 Int64.toInt

/-- The order of candidates with keys compared by weight, which is a preorder on all of them. -/
def weigh : List IndexSort → Candidate → Candidate → Ordering
  | [] => compareOn number
  | sort :: rest =>
    compareLex (fun x y =>
      IndexSort.weigh sort.direction (sort.key x.doc x.score) (sort.key y.doc y.score))
      (weigh rest)

theorem transCmp_weigh (sorts : List IndexSort) : Std.TransCmp (weigh sorts) := by
  induction sorts with
  | nil => exact inferInstanceAs (Std.TransCmp (compareOn number))
  | cons sort rest ih =>
    have first := transCmp_comap (IndexSort.weigh sort.direction)
      fun x : Candidate => sort.key x.doc x.score
    exact inferInstanceAs (Std.TransCmp (compareLex _ _))

variable {sorts : List IndexSort} {x y : Candidate}

theorem order_eq_weigh (sortable : x.doc.Sortable) (otherSortable : y.doc.Sortable) :
    order sorts x y = weigh sorts x y := by
  induction sorts with
  | nil =>
    obtain ⟨id, text, -⟩ := sortable.numbered
    obtain ⟨other, otherText, -⟩ := otherSortable.numbered
    rw [order, weigh, compareOn, number, number, text, otherText, compareIds_wordText,
      Number.readWord_wordText, Number.readWord_wordText]
    rfl
  | cons sort rest ih =>
    have shapes := IndexSort.shape_key sortable.shaped otherSortable.shaped sort x.score y.score
    rw [order, IndexSort.compareKeys_eq_weigh shapes, ih]
    rfl

/-- The first sort that tells two candidates apart puts one before the other. If none does, then
the content of the one has the lesser id. -/
def Precedes (sorts : List IndexSort) (x y : Candidate) : Prop :=
  (∃ earlier sort later, sorts = earlier ++ sort :: later ∧
    (∀ equal ∈ earlier, equal.order x y = .eq) ∧ sort.order x y = .lt) ∨
  (∀ sort ∈ sorts, sort.order x y = .eq) ∧ ∃ id other,
    x.doc.integer IndexName.id = .ok id ∧ y.doc.integer IndexName.id = .ok other ∧ id < other

theorem precedes_of_order (sortable : x.doc.Sortable) (otherSortable : y.doc.Sortable)
    (before : order sorts x y = .lt) : Precedes sorts x y := by
  induction sorts with
  | nil =>
    obtain ⟨id, text, held⟩ := sortable.numbered
    obtain ⟨other, otherText, otherHeld⟩ := otherSortable.numbered
    refine .inr ⟨nofun, id, other, held, otherHeld, ?_⟩
    rw [order, text, otherText, compareIds_wordText] at before
    exact Int64.lt_iff_toInt_lt.2 (Std.compare_eq_lt.1 before)
  | cons sort rest ih =>
    have step : order (sort :: rest) x y = (sort.order x y).then (order rest x y) := rfl
    rw [step, Ordering.then_eq_lt] at before
    rcases before with decided | ⟨equal, later⟩
    · exact .inl ⟨[], sort, rest, rfl, nofun, decided⟩
    · rcases ih later with ⟨earlier, decisive, others, split, equals, decided⟩ | ⟨equals, ids⟩
      · exact .inl ⟨sort :: earlier, decisive, others, by rw [split, List.cons_append],
          List.forall_mem_cons.2 ⟨equal, equals⟩, decided⟩
      · exact .inr ⟨List.forall_mem_cons.2 ⟨equal, equals⟩, ids⟩

theorem order_swap (sortable : x.doc.Sortable) (otherSortable : y.doc.Sortable) :
    order sorts y x = (order sorts x y).swap := by
  have ordered := transCmp_weigh sorts
  rw [order_eq_weigh sortable otherSortable, order_eq_weigh otherSortable sortable]
  exact Std.OrientedCmp.eq_swap

theorem order_trans {z : Candidate} (xSortable : x.doc.Sortable) (ySortable : y.doc.Sortable)
    (zSortable : z.doc.Sortable) (first : order sorts x y = .lt) (second : order sorts y z = .lt) :
    order sorts x z = .lt := by
  have ordered := transCmp_weigh sorts
  rw [order_eq_weigh xSortable ySortable] at first
  rw [order_eq_weigh ySortable zSortable] at second
  rw [order_eq_weigh xSortable zSortable]
  exact Std.TransCmp.lt_trans first second

theorem order_ne_eq (sortable : x.doc.Sortable) (otherSortable : y.doc.Sortable)
    (different : x.doc.id ≠ y.doc.id) : order sorts x y ≠ .eq := by
  induction sorts with
  | nil =>
    intro same
    obtain ⟨id, text, -⟩ := sortable.numbered
    obtain ⟨other, otherText, -⟩ := otherSortable.numbered
    rw [order, text, otherText, compareIds_wordText] at same
    have equal : id = other := Int64.toInt_inj.1 (Std.compare_eq_iff_eq.1 same)
    exact different (by rw [text, otherText, equal])
  | cons sort rest ih =>
    intro same
    exact ih (Ordering.then_eq_eq.1 same).2

theorem order_total (sortable : x.doc.Sortable) (otherSortable : y.doc.Sortable)
    (different : x.doc.id ≠ y.doc.id) : order sorts x y = .lt ∨ order sorts y x = .lt := by
  rw [order_swap sortable otherSortable]
  cases position : order sorts x y with
  | lt => exact .inl rfl
  | eq => exact absurd position (order_ne_eq sortable otherSortable different)
  | gt => exact .inr rfl

/-! What the arranging of candidates asks. -/

theorem before_trans {z : Candidate} (xSortable : x.doc.Sortable) (ySortable : y.doc.Sortable)
    (zSortable : z.doc.Sortable) (first : (order sorts x y == .lt) = true)
    (second : (order sorts y z == .lt) = true) : (order sorts x z == .lt) = true := by
  rw [beq_iff_eq] at first second ⊢
  exact order_trans xSortable ySortable zSortable first second

theorem before_total {candidates : List Candidate}
    (sortable : ∀ candidate ∈ candidates, candidate.doc.Sortable)
    (distinct : (candidates.map (·.doc.id)).Nodup) :
    candidates.Pairwise fun x y =>
      (order sorts x y == .lt) = true ∨ (order sorts y x == .lt) = true := by
  refine (List.pairwise_map.1 distinct).imp_of_mem fun xMember yMember different => ?_
  rw [beq_iff_eq, beq_iff_eq]
  exact order_total (sortable _ xMember) (sortable _ yMember) different

/-- Candidates with different ids are arranged so that each precedes all that follow. -/
theorem arrange_pairwise {candidates : List Candidate}
    (sortable : ∀ candidate ∈ candidates, candidate.doc.Sortable)
    (distinct : (candidates.map (·.doc.id)).Nodup) :
    (arrange sorts candidates).Pairwise (Precedes (IndexSort.orScore sorts)) := by
  have sorted : (arrange sorts candidates).Pairwise fun x y =>
      (order (IndexSort.orScore sorts) x y == .lt) = true := by
    refine Sorting.sortBy_pairwise (fun x xMember y yMember z zMember => ?_)
      (before_total sortable distinct)
    exact before_trans (sortable x xMember) (sortable y yMember) (sortable z zMember)
  refine sorted.imp_of_mem fun xMember yMember before => ?_
  exact precedes_of_order (sortable _ (mem_arrange.1 xMember)) (sortable _ (mem_arrange.1 yMember))
    (beq_iff_eq.1 before)

end Candidate

namespace Finder

variable {finder : Finder} {acts : List Act}

theorem sortable_performAll (free : ∀ act ∈ acts, ∀ content ∈ act.contents,
      ∀ field ∈ content.fields, '_' ∉ field.language.toList) :
    ∀ doc ∈ (finder.performAll acts).committed.values, doc.Sortable := by
  refine (holdsOnly_performAll fun act member content given doc mapped => ?_).committed
  have id : (IndexName.id, .integer content.info.id) ∈ content.systemFields := List.mem_cons_self
  exact ⟨Content.shaped_toDocument mapped (free act member content given), content.id,
    Content.id_toDocument mapped, Document.integer_of_get (Content.get_single id mapped)⟩

/-- A search of a store that is online and answers in time finds a page of the matching documents,
arranged so that each precedes all that follow. -/
theorem search_arranges {request : SearchRequest}
    (free : ∀ act ∈ acts, ∀ content ∈ act.contents, ∀ field ∈ content.fields,
      '_' ∉ field.language.toList)
    (online : (finder.performAll acts).offline = false)
    (inTime : (finder.performAll acts).latency ≤ request.budget) :
    ∃ (response : SearchResponse) (arranged : List Candidate),
      (finder.performAll acts).search request = .ok response ∧
      (arranged.map Candidate.doc).Perm ((finder.performAll acts).committed.values.filter fun doc =>
        request.filter.isMatch doc && request.query.isMatch doc) ∧
      (∀ candidate ∈ arranged, request.query.score candidate.doc = some candidate.score) ∧
      arranged.Pairwise (Candidate.Precedes (IndexSort.orScore request.sorts)) ∧
      response.hits = (arranged.drop request.offset).take request.limit ∧
      (request.offset = 0 → response.total ≤ request.limit → response.hits = arranged) := by
  obtain ⟨response, searched⟩ := Store.exists_search online inTime
  have answer := Store.search_eq_ok searched
  have perm := Sorting.sortBy_perm (fun x y =>
    Candidate.order (IndexSort.orScore request.sorts) x y == .lt)
    ((finder.performAll acts).candidates request.filter request.query)
  have member : ∀ {candidate},
      candidate ∈ (finder.performAll acts).candidates request.filter request.query →
        candidate.doc ∈ (finder.performAll acts).committed.values ∧
          request.query.score candidate.doc = some candidate.score := by
    intro candidate listed
    obtain ⟨committed, -, scored⟩ := Store.mem_candidates.1 listed
    exact ⟨committed, scored⟩
  refine ⟨response, Candidate.arrange request.sorts
    ((finder.performAll acts).candidates request.filter request.query), searched,
    ?_, ?_, ?_, ?_, ?_⟩
  · rw [← Store.docs_candidates]
    exact perm.map _
  · exact fun candidate listed => (member (Candidate.mem_arrange.1 listed)).2
  · refine Candidate.arrange_pairwise (fun candidate listed => ?_) ?_
    · exact sortable_performAll free _ (member listed).1
    · exact (replays_performAll finder acts).ids_candidates request.filter request.query
  · rw [answer]
  · intro first enough
    rw [answer] at enough ⊢
    have length := perm.length_eq
    rw [first, List.drop_zero, List.take_of_length_le]
    exact (length.trans_le enough)

end Finder

namespace Sample

def byName : SearchRequest where
  filter := .matchAll
  query := .matchAll
  sorts := [.field IndexName.name .ascending]
  offset := 0
  limit := 10
  facets := []
  budget := 1000

end Sample

theorem Finder.search_arranges_byName :
    ∃ response, (Sample.finder.performAll Sample.bothActs).search Sample.byName = .ok response ∧
      response.hits.map (·.doc.id) = ["8", "7"] ∧
      response.hits.Pairwise (Candidate.Precedes [.field IndexName.name .ascending]) := by
  have free : ∀ act ∈ Sample.bothActs, ∀ content ∈ act.contents, ∀ field ∈ content.fields,
      '_' ∉ field.language.toList := by decide
  have inTime : (Sample.finder.performAll Sample.bothActs).latency ≤ Sample.byName.budget := by
    decide
  obtain ⟨response, arranged, searched, -, -, ordered, -, whole⟩ := search_arranges free rfl inTime
  cases searched
  refine ⟨_, rfl, rfl, ?_⟩
  rw [whole rfl (by decide)]
  exact ordered

end ContentFinder
