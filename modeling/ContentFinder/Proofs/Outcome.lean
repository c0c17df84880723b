import Mathlib.Data.List.Forall2

/-! Calls in sequence: what a success or a failure of the whole says about its parts. -/

namespace ContentFinder.Outcome

variable {ε α β : Type}

theorem ok_bind (value : α) (next : α → Except ε β) :
    (Except.ok value >>= next : Except ε β) = next value :=
  rfl

theorem bind_eq_ok {call : Except ε α} {next : α → Except ε β} {result : β} :
    call >>= next = .ok result ↔ ∃ value, call = .ok value ∧ next value = .ok result := by
  cases call <;> simp [bind, Except.bind]

theorem bind_eq_error {call : Except ε α} {next : α → Except ε β} {failure : ε} :
    call >>= next = .error failure ↔
      call = .error failure ∨ ∃ value, call = .ok value ∧ next value = .error failure := by
  cases call <;> simp [bind, Except.bind]

theorem map_eq_error {call : Except ε α} {f : α → β} {failure : ε} :
    f <$> call = .error failure ↔ call = .error failure := by
  cases call <;> simp [Functor.map, Except.map]

theorem mapError_eq_ok {δ : Type} {call : Except ε α} {f : ε → δ} {result : α} :
    call.mapError f = .ok result ↔ call = .ok result := by
  cases call <;> simp [Except.mapError]

theorem mapM_eq_ok {f : α → Except ε β} {items : List α} {results : List β} :
    items.mapM f = .ok results ↔
      List.Forall₂ (fun item result => f item = .ok result) items results := by
  induction items generalizing results with
  | nil => cases results <;> simp [pure, Except.pure]
  | cons item rest ih =>
    rw [List.mapM_cons, bind_eq_ok]
    constructor
    · rintro ⟨first, done, later⟩
      obtain ⟨others, rested, same⟩ := bind_eq_ok.1 later
      rw [← Except.ok.inj same]
      exact .cons done (ih.1 rested)
    · rintro (_ | ⟨done, later⟩)
      exact ⟨_, done, bind_eq_ok.2 ⟨_, ih.2 later, rfl⟩⟩

theorem exists_of_mem_mapM {f : α → Except ε β} {items : List α} {results : List β} {result : β}
    (done : items.mapM f = .ok results) (member : result ∈ results) :
    ∃ item ∈ items, f item = .ok result := by
  have each := mapM_eq_ok.1 done
  clear done
  induction each with
  | nil => cases member
  | cons first later ih =>
    rcases List.mem_cons.1 member with rfl | member
    · exact ⟨_, List.mem_cons_self, first⟩
    · obtain ⟨item, inside, made⟩ := ih member
      exact ⟨item, List.mem_cons_of_mem _ inside, made⟩

theorem exists_of_mem_items {f : α → Except ε β} {items : List α} {results : List β} {item : α}
    (done : items.mapM f = .ok results) (member : item ∈ items) :
    ∃ result ∈ results, f item = .ok result := by
  have each := mapM_eq_ok.1 done
  clear done
  induction each with
  | nil => cases member
  | cons first later ih =>
    rcases List.mem_cons.1 member with rfl | member
    · exact ⟨_, List.mem_cons_self, first⟩
    · obtain ⟨result, inside, made⟩ := ih member
      exact ⟨result, List.mem_cons_of_mem _ inside, made⟩

theorem forall_mem_results {f : α → Except ε β} {items : List α} {results : List β}
    {holds : β → Prop} (done : items.mapM f = .ok results)
    (each : ∀ item ∈ items, ∀ result, f item = .ok result → holds result) :
    ∀ result ∈ results, holds result := by
  intro result member
  obtain ⟨item, inside, made⟩ := exists_of_mem_mapM done member
  exact each item inside result made

section Results

variable {f : α → Except ε β} {items : List α} {results : List β}
  (done : items.mapM f = .ok results)

include done

theorem map_mapM {γ : Type} {g : β → γ} {h : α → γ}
    (agree : ∀ item ∈ items, ∀ result, f item = .ok result → g result = h item) :
    results.map g = items.map h := by
  have each := mapM_eq_ok.1 done
  clear done
  induction each with
  | nil => rfl
  | cons first later ih =>
    obtain ⟨here, others⟩ := List.forall_mem_cons.1 agree
    rw [List.map_cons, List.map_cons, here _ first, ih others]

theorem all_mapM {g : β → Bool} {h : α → Bool}
    (agree : ∀ item ∈ items, ∀ result, f item = .ok result → g result = h item) :
    results.all g = items.all h := by
  have same := congrArg (List.all · id) (map_mapM done agree)
  simpa only [List.all_map, Function.id_comp] using same

theorem any_mapM {g : β → Bool} {h : α → Bool}
    (agree : ∀ item ∈ items, ∀ result, f item = .ok result → g result = h item) :
    results.any g = items.any h := by
  have same := congrArg (List.any · id) (map_mapM done agree)
  simpa only [List.any_map, Function.id_comp] using same

end Results

/-- The failure of a list of calls is that of the first call that fails. -/
theorem mapM_eq_error {f : α → Except ε β} {items : List α} {failure : ε} :
    items.mapM f = .error failure ↔
      ∃ before item after, items = before ++ item :: after ∧
        (∀ earlier ∈ before, ∃ result, f earlier = .ok result) ∧ f item = .error failure := by
  induction items with
  | nil => simp [pure, Except.pure]
  | cons item rest ih =>
    rw [List.mapM_cons, bind_eq_error]
    constructor
    · rintro (failed | ⟨first, done, later⟩)
      · exact ⟨[], item, rest, rfl, by simp, failed⟩
      · rcases bind_eq_error.1 later with failed | ⟨others, -, impossible⟩
        · obtain ⟨before, culprit, after, split, fine, failed⟩ := ih.1 failed
          refine ⟨item :: before, culprit, after, by rw [split]; rfl, ?_, failed⟩
          exact List.forall_mem_cons.2 ⟨⟨first, done⟩, fine⟩
        · cases impossible
    · rintro ⟨before, culprit, after, split, fine, failed⟩
      cases before with
      | nil =>
        obtain ⟨rfl, rfl⟩ := List.cons.inj split
        exact .inl failed
      | cons head before =>
        obtain ⟨rfl, rfl⟩ := List.cons.inj split
        obtain ⟨⟨first, done⟩, others⟩ := List.forall_mem_cons.1 fine
        exact .inr ⟨first, done, bind_eq_error.2 (.inl (ih.2 ⟨_, _, _, rfl, others, failed⟩))⟩

theorem exists_mapM_eq_ok {f : α → Except ε β} {items : List α} :
    (∃ results, items.mapM f = .ok results) ↔ ∀ item ∈ items, ∃ result, f item = .ok result := by
  induction items with
  | nil => simp [pure, Except.pure]
  | cons item rest ih =>
    rw [List.mapM_cons, List.forall_mem_cons, ← ih]
    constructor
    · rintro ⟨results, done⟩
      obtain ⟨first, done, later⟩ := bind_eq_ok.1 done
      obtain ⟨others, rested, -⟩ := bind_eq_ok.1 later
      exact ⟨⟨first, done⟩, others, rested⟩
    · rintro ⟨⟨first, done⟩, others, rested⟩
      exact ⟨first :: others, bind_eq_ok.2 ⟨first, done, bind_eq_ok.2 ⟨others, rested, rfl⟩⟩⟩

section Alike

variable {γ δ : Type} {f : α → γ} {g : β → δ}

theorem map_bind_congr {call other : Except ε α} {next later : α → Except ε β}
    (same : f <$> call = f <$> other)
    (each : ∀ value second, f value = f second → g <$> next value = g <$> later second) :
    g <$> (call >>= next) = g <$> (other >>= later) := by
  cases call with
  | error failure =>
    cases other with
    | error second =>
      cases same
      rfl
    | ok value => cases same
  | ok value =>
    cases other with
    | error failure => cases same
    | ok second => exact each value second (Except.ok.inj same)

theorem map_mapM_congr {items others : List α} {next : α → Except ε β}
    (same : items.map f = others.map f)
    (each : ∀ item second, f item = f second → g <$> next item = g <$> next second) :
    List.map g <$> items.mapM next = List.map g <$> others.mapM next := by
  induction items generalizing others with
  | nil => rw [List.map_eq_nil_iff.1 same.symm]
  | cons item rest ih =>
    obtain ⟨second, others, rfl, here, later⟩ := List.map_eq_cons_iff.1 same.symm
    rw [List.mapM_cons, List.mapM_cons]
    apply map_bind_congr (each item second here.symm)
    intro result made first
    apply map_bind_congr (ih later.symm)
    intro results mades rested
    show Except.ok _ = Except.ok _
    rw [List.map_cons, List.map_cons, first, rested]

end Alike

section Told

variable {δ : Type} {tell : ε → δ}

theorem mapError_bind_congr {call other : Except ε α} {next later : α → Except ε β}
    (same : call.mapError tell = other.mapError tell)
    (each : ∀ value, call = .ok value → (next value).mapError tell = (later value).mapError tell) :
    (call >>= next).mapError tell = (other >>= later).mapError tell := by
  cases call with
  | error failure =>
    cases other with
    | error second => exact congrArg Except.error (Except.error.inj same)
    | ok value => cases same
  | ok value =>
    cases other with
    | error failure => cases same
    | ok second =>
      cases same
      exact each value rfl

theorem mapError_mapM_congr {items : List α} {next later : α → Except ε β}
    (each : ∀ item ∈ items, (next item).mapError tell = (later item).mapError tell) :
    (items.mapM next).mapError tell = (items.mapM later).mapError tell := by
  induction items with
  | nil => rfl
  | cons item rest ih =>
    obtain ⟨first, others⟩ := List.forall_mem_cons.1 each
    rw [List.mapM_cons, List.mapM_cons]
    exact mapError_bind_congr first fun value _ =>
      mapError_bind_congr (ih others) fun values _ => rfl

end Told

/-- Whether a call succeeds, and its failure if it does not. -/
def verdict (call : Except ε α) : Except ε Unit :=
  (fun _ => ()) <$> call

theorem verdict_eq_ok {call : Except ε α} :
    verdict call = .ok () ↔ ∃ value, call = .ok value := by
  cases call <;> simp [verdict, Functor.map, Except.map]

theorem verdict_eq_error {call : Except ε α} {failure : ε} :
    verdict call = .error failure ↔ call = .error failure :=
  map_eq_error

theorem verdict_bind_pure (call : Except ε α) (f : α → β) :
    verdict (call >>= fun value => pure (f value)) = verdict call := by
  cases call <;> rfl

theorem exists_bind_pure {call : Except ε α} {f : α → β} :
    (∃ result, (call >>= fun value => pure (f value)) = .ok result) ↔
      ∃ value, call = .ok value := by
  rw [← verdict_eq_ok, verdict_bind_pure, verdict_eq_ok]

theorem verdict_mapM_cons (f : α → Except ε β) (item : α) (rest : List α) :
    verdict ((item :: rest).mapM f) = verdict (f item) >>= fun _ => verdict (rest.mapM f) := by
  rw [List.mapM_cons]
  cases f item <;> cases rest.mapM f <;> rfl

theorem verdict_mapM_append (f : α → Except ε β) (items others : List α) :
    verdict ((items ++ others).mapM f) =
      verdict (items.mapM f) >>= fun _ => verdict (others.mapM f) := by
  rw [List.mapM_append]
  cases items.mapM f <;> cases others.mapM f <;> rfl

/-- Calls that each go as the calls for their parts go as those of all parts in order. -/
theorem verdict_mapM_flatMap {γ δ : Type} {f : α → Except ε β} {g : γ → Except ε δ}
    {parts : α → List γ} {items : List α}
    (agree : ∀ item ∈ items, verdict (f item) = verdict ((parts item).mapM g)) :
    verdict (items.mapM f) = verdict ((items.flatMap parts).mapM g) := by
  induction items with
  | nil => rfl
  | cons item rest ih =>
    obtain ⟨first, others⟩ := List.forall_mem_cons.1 agree
    rw [List.flatMap_cons, verdict_mapM_append, verdict_mapM_cons, first, ih others]

section Fate

variable {δ : Type} {tell : ε → δ}

/-- Whether a call succeeds, and what is told of its failure if it does not. -/
def fate (tell : ε → δ) (call : Except ε α) : Except δ Unit :=
  (verdict call).mapError tell

theorem fate_eq_ok {call : Except ε α} : fate tell call = .ok () ↔ ∃ value, call = .ok value := by
  rw [fate, mapError_eq_ok, verdict_eq_ok]

theorem fate_error (failure : ε) :
    fate tell (.error failure : Except ε α) = .error (tell failure) :=
  rfl

theorem fate_bind_pure (call : Except ε α) (f : α → β) :
    fate tell (call >>= fun value => pure (f value)) = fate tell call := by
  rw [fate, verdict_bind_pure, fate]

theorem fate_build {γ : Type} (call : Except ε α) (f : α → β) (g : α → γ) :
    fate tell (call >>= fun value => pure (f value)) =
      fate tell (call >>= fun value => pure (g value)) := by
  rw [fate_bind_pure, fate_bind_pure]

/-- A call that is followed by successes alone goes as if nothing followed it. -/
theorem fate_bind_of_ok {call : Except ε α} {next : α → Except ε β}
    (later : fate tell call = .ok () → ∀ value, fate tell (next value) = .ok ()) :
    fate tell (call >>= next) = fate tell call := by
  cases call with
  | error failure => rfl
  | ok value => exact later rfl value

theorem fate_bind_congr {call other : Except ε α} {next later : α → Except ε β}
    (same : fate tell call = fate tell other)
    (each : ∀ value second, fate tell (next value) = fate tell (later second)) :
    fate tell (call >>= next) = fate tell (other >>= later) := by
  cases call with
  | error failure =>
    cases other with
    | error second => exact congrArg Except.error (Except.error.inj same)
    | ok value => cases same
  | ok value =>
    cases other with
    | error failure => cases same
    | ok second => exact each value second

theorem fate_mapM_congr {f g : α → Except ε β} {items : List α}
    (each : ∀ item ∈ items, fate tell (f item) = fate tell (g item)) :
    fate tell (items.mapM f) = fate tell (items.mapM g) := by
  induction items with
  | nil => rfl
  | cons item rest ih =>
    obtain ⟨first, others⟩ := List.forall_mem_cons.1 each
    rw [List.mapM_cons, List.mapM_cons]
    refine fate_bind_congr first fun value second => ?_
    rw [fate_bind_pure, fate_bind_pure, ih others]

theorem fate_mapM_of_alike {f : α → Except ε β} {items : List α} {common : Except δ Unit}
    (some : items ≠ []) (each : ∀ item ∈ items, fate tell (f item) = common) :
    fate tell (items.mapM f) = common := by
  cases items with
  | nil => exact absurd rfl some
  | cons item rest =>
    obtain ⟨first, others⟩ := List.forall_mem_cons.1 each
    rw [List.mapM_cons, ← first]
    refine fate_bind_of_ok fun succeeds value => ?_
    rw [fate_bind_pure, fate_eq_ok, exists_mapM_eq_ok]
    intro other member
    rw [← fate_eq_ok, others other member, ← first, succeeds]

end Fate

def FailsOnly (among : ε → Prop) (call : Except ε α) : Prop :=
  ∀ failure, call = .error failure → among failure

section FailsOnly

variable {among : ε → Prop}

theorem failsOnly_ok (value : α) : FailsOnly among (.ok value) := nofun

theorem failsOnly_error {failure : ε} (member : among failure) :
    FailsOnly among (.error failure : Except ε α) := by
  intro other same
  cases same
  exact member

theorem failsOnly_bind {call : Except ε α} {next : α → Except ε β} (first : FailsOnly among call)
    (later : ∀ value, FailsOnly among (next value)) : FailsOnly among (call >>= next) := by
  intro failure failed
  rcases bind_eq_error.1 failed with failed | ⟨value, -, failed⟩
  · exact first failure failed
  · exact later value failure failed

theorem failsOnly_mapM {f : α → Except ε β} {items : List α}
    (each : ∀ item ∈ items, FailsOnly among (f item)) : FailsOnly among (items.mapM f) := by
  intro failure failed
  obtain ⟨before, item, after, split, -, failed⟩ := mapM_eq_error.1 failed
  exact each item (by simp [split]) failure failed

end FailsOnly

end ContentFinder.Outcome
