import Mathlib.Data.List.Forall2
import ContentFinder.Proofs.EventLog
import ContentFinder.Proofs.StoreRun

/-! The store is the replay of its log. Each call that succeeds leaves events behind, and the log
alone tells which documents can be found and which ones wait for the next refresh. -/

namespace ContentFinder

/-- How values with keys are stored as documents with ids. -/
structure Rendering (κ α : Type) where
  keyOf : α → κ
  idOf : κ → String
  /-- The document is that of the value. -/
  Renders : α → Document → Prop
  unique : ∀ {value doc other}, Renders value doc → Renders value other → doc = other
  named : ∀ {value doc}, Renders value doc → doc.id = idOf (keyOf value)
  apart : ∀ {key other}, idOf key = idOf other → key = other

namespace Rendering

def ofDocuments : Rendering String Document where
  keyOf := Document.id
  idOf := id
  Renders := Eq
  unique := fun same other => same.symm.trans other
  named := fun same => by rw [same]; rfl
  apart := fun same => same

variable {κ α : Type} {rendering : Rendering κ α} {told : α → Prop} {dict other : Dict Document}
  {value : α} {doc : Document}

def Fills (rendering : Rendering κ α) (told : α → Prop) (dict : Dict Document) : Prop :=
  ∀ id doc, dict.get? id = some doc ↔
    doc.id = id ∧ ∃ value, rendering.Renders value doc ∧ told value

theorem fills_empty : rendering.Fills (fun _ => False) .empty := by
  simp [Fills, Dict.get?_empty]

theorem fills_congr {others : α → Prop} (same : ∀ value, told value ↔ others value) :
    rendering.Fills told dict ↔ rendering.Fills others dict := by
  simp only [Fills, same]

theorem id_eq_iff {second : α} {back : Document} (rendered : rendering.Renders value doc)
    (renders : rendering.Renders second back) :
    doc.id = back.id ↔ rendering.keyOf value = rendering.keyOf second := by
  rw [rendering.named rendered, rendering.named renders]
  exact ⟨rendering.apart, fun same => by rw [same]⟩

theorem fills_insert (fills : rendering.Fills told dict) (rendered : rendering.Renders value doc) :
    rendering.Fills (fun second => second = value ∨
      told second ∧ rendering.keyOf value ≠ rendering.keyOf second)
      (dict.insert doc.id doc) := by
  intro id found
  rw [Dict.get?_insert]
  by_cases here : doc.id = id
  · rw [if_pos here]
    constructor
    · intro same
      obtain rfl := Option.some.inj same
      exact ⟨here, value, rendered, .inl rfl⟩
    · rintro ⟨same, second, renders, rfl | ⟨-, displaced⟩⟩
      · rw [rendering.unique rendered renders]
      · exact absurd ((id_eq_iff rendered renders).1 (here.trans same.symm)) displaced
  · rw [if_neg here, fills id found]
    constructor
    · rintro ⟨same, second, renders, is⟩
      refine ⟨same, second, renders, .inr ⟨is, fun sameKey => here ?_⟩⟩
      exact ((id_eq_iff rendered renders).2 sameKey).trans same
    · rintro ⟨same, second, renders, rfl | ⟨is, -⟩⟩
      · exact absurd (rendering.unique rendered renders ▸ same) here
      · exact ⟨same, second, renders, is⟩

theorem fills_erase (fills : rendering.Fills told dict) {key : κ}
    (erased : ∀ id, other.get? id = if rendering.idOf key = id then none else dict.get? id) :
    rendering.Fills (fun value => told value ∧ key ≠ rendering.keyOf value) other := by
  intro id doc
  rw [erased id]
  constructor
  · intro found
    split_ifs at found with here
    obtain ⟨same, value, renders, is⟩ := (fills id doc).1 found
    refine ⟨same, value, renders, is, fun sameKey => here ?_⟩
    rw [sameKey, ← rendering.named renders, same]
  · rintro ⟨same, value, renders, is, apart⟩
    have here : rendering.idOf key ≠ id := by
      intro equal
      rw [← same, rendering.named renders] at equal
      exact apart (rendering.apart equal)
    rw [if_neg here]
    exact (fills id doc).2 ⟨same, value, renders, is⟩

end Rendering

namespace Store

def commit (dict : Dict Document) (docs : List Document) : Dict Document :=
  docs.foldl (fun docs doc => docs.insert doc.id doc) dict

/-- Erasing a key before documents are put in comes to the same as erasing it afterwards, as long as
no document with this id is put in. -/
theorem get?_commit_filter {key : String} (docs : List Document) {dict other : Dict Document}
    (erased : ∀ id, other.get? id = if key = id then none else dict.get? id) (id : String) :
    (commit other (docs.filter (·.id != key))).get? id =
      if key = id then none else (commit dict docs).get? id := by
  induction docs generalizing dict other with
  | nil => exact erased id
  | cons doc rest ih =>
    by_cases same : doc.id = key
    · have dropped : (doc :: rest).filter (·.id != key) = rest.filter (·.id != key) := by
        simp [same]
      rw [dropped]
      have without : ∀ id, other.get? id =
          if key = id then none else (dict.insert doc.id doc).get? id := by
        intro id
        rw [erased id, Dict.get?_insert, same]
        split_ifs <;> rfl
      exact ih without
    · have kept : (doc :: rest).filter (·.id != key) = doc :: rest.filter (·.id != key) := by
        simp [same]
      rw [kept]
      have inserted : ∀ id, (other.insert doc.id doc).get? id =
          if key = id then none else (dict.insert doc.id doc).get? id := by
        intro id
        rw [Dict.get?_insert, Dict.get?_insert, erased id]
        by_cases here : doc.id = id
        · have apart : key ≠ id := fun equal => same (here.trans equal.symm)
          simp [here, apart]
        · simp [here]
      exact ih inserted

variable {κ α : Type} [DecidableEq κ]

/-- The store holds what a log tells: the standing values can be found, the latest ones could be
found after a refresh, and the waiting ones wait. -/
structure Replays (rendering : Rendering κ α) (log : Log κ α) (store : Store) : Prop where
  standing : rendering.Fills (log.Stands rendering.keyOf) store.committed
  latest : rendering.Fills (log.Latest rendering.keyOf) (commit store.committed store.pending)
  waiting : List.Forall₂ rendering.Renders (log.waiting rendering.keyOf) store.pending

variable {rendering : Rendering κ α} {log : Log κ α} {store : Store}

theorem replays_empty : Replays rendering [] empty where
  standing := (Rendering.fills_congr fun _ => iff_of_false Log.not_stands_nil id).2
    Rendering.fills_empty
  latest := (Rendering.fills_congr fun _ => iff_of_false Log.not_latest_nil id).2
    Rendering.fills_empty
  waiting := .nil

namespace Replays

/-! What each change of the store adds to the log. -/

theorem write (replays : Replays rendering log store) {value : α} {doc : Document}
    (rendered : rendering.Renders value doc) :
    Replays rendering (log ++ [.written value]) (store.awaiting [doc]) where
  standing := by
    refine (Rendering.fills_congr fun second => ?_).2 replays.standing
    simp [Log.stands_append_singleton, Event.Removes]
  latest := by
    have appended : commit store.committed (store.pending ++ [doc]) =
        (commit store.committed store.pending).insert doc.id doc := by
      simp only [commit, List.foldl_append, List.foldl_cons, List.foldl_nil]
    have inserted := Rendering.fills_insert replays.latest rendered
    rw [← appended] at inserted
    refine (Rendering.fills_congr fun second => ?_).2 inserted
    simp [Log.latest_append_singleton, Event.Displaces, Event.Removes, eq_comm]
  waiting := by
    have kept : (log.waiting rendering.keyOf).filter (fun held =>
        !(Event.written value : Event κ α).endsWait (rendering.keyOf held)) =
        log.waiting rendering.keyOf := by
      simp [Event.endsWait]
    rw [Log.waiting_append_singleton, kept]
    exact List.rel_append replays.waiting (.cons rendered .nil)

theorem writeAll (replays : Replays rendering log store) {values : List α} {docs : List Document}
    (rendered : List.Forall₂ rendering.Renders values docs) :
    Replays rendering (log ++ values.map .written) (store.awaiting docs) := by
  induction rendered generalizing log store with
  | nil => simpa [awaiting] using replays
  | cons first _ ih =>
    have later := ih (replays.write first)
    simpa [awaiting] using later

theorem commitAll (replays : Replays rendering log store) :
    Replays rendering (log ++ [.committed]) store.settled where
  standing := by
    refine (Rendering.fills_congr fun value => ?_).2 replays.latest
    exact Log.stands_append_committed
  latest := by
    refine (Rendering.fills_congr fun value => ?_).2 replays.latest
    simp [Log.latest_append_singleton, Event.Displaces, Event.Removes]
  waiting := by
    have none : (log.waiting rendering.keyOf).filter (fun held =>
        !(Event.committed : Event κ α).endsWait (rendering.keyOf held)) = [] := by
      simp [Event.endsWait]
    rw [Log.waiting_append_singleton, none]
    exact .nil

/-- Of what waits, the documents with the id of the key go, and these are those of the values with
the key. -/
theorem filter_waiting {values : List α} {docs : List Document} (key : κ)
    (rendered : List.Forall₂ rendering.Renders values docs) :
    List.Forall₂ rendering.Renders
      (values.filter fun value =>
        !(Event.removed key : Event κ α).endsWait (rendering.keyOf value))
      (docs.filter (·.id != rendering.idOf key)) := by
  induction rendered with
  | nil => exact .nil
  | @cons value doc values docs first later ih =>
    by_cases here : key = rendering.keyOf value
    · have gone : doc.id = rendering.idOf key := by rw [here, rendering.named first]
      simpa [Event.endsWait, ← here, gone] using ih
    · have stays : doc.id ≠ rendering.idOf key := by
        rw [rendering.named first]
        exact fun same => here (rendering.apart same).symm
      have both := List.Forall₂.cons first ih
      simpa [Event.endsWait, here, stays] using both

theorem remove (replays : Replays rendering log store) (key : κ) :
    Replays rendering (log ++ [.removed key]) { store with
      committed := store.committed.erase (rendering.idOf key)
      pending := store.pending.filter (·.id != rendering.idOf key) } where
  standing := by
    have erased := Rendering.fills_erase replays.standing
      (Dict.get?_erase store.committed (rendering.idOf key))
    refine (Rendering.fills_congr fun value => ?_).2 erased
    simp [Log.stands_append_singleton, Event.Removes]
  latest := by
    have erased := Rendering.fills_erase replays.latest
      (get?_commit_filter store.pending (Dict.get?_erase store.committed (rendering.idOf key)))
    refine (Rendering.fills_congr fun value => ?_).2 erased
    simp [Log.latest_append_singleton, Event.Displaces, Event.Removes]
  waiting := by
    rw [Log.waiting_append_singleton, List.append_nil]
    exact filter_waiting key replays.waiting

theorem clear (log : Log κ α) (store : Store) :
    Replays rendering (log ++ [.cleared]) { store with committed := .empty, pending := [] } where
  standing := by
    refine (Rendering.fills_congr fun value => ?_).2 Rendering.fills_empty
    simp [Log.stands_append_singleton, Event.Removes]
  latest := by
    refine (Rendering.fills_congr fun value => ?_).2 Rendering.fills_empty
    simp [Log.latest_append_singleton, Event.Displaces, Event.Removes]
  waiting := by
    rw [Log.waiting_append_singleton]
    simp [Event.endsWait]

end Replays

/-! Runs of calls. -/

section Trace

variable {γ : Type} (update : γ → Update Unit) (events : γ → Log κ α)

def next (store : Store) (call : γ) : Store :=
  ((update call).run store).2

def noted (store : Store) (call : γ) : Log κ α :=
  match ((update call).run store).1 with
  | .ok _ => events call
  | .error _ => []

def trace : Store → List γ → Log κ α
  | _, [] => []
  | store, call :: rest => noted update events store call ++ trace (next update store call) rest

variable {update events}

theorem replays_ifOnline {change : Store → Store} {call : γ}
    (does : update call = ifOnline change) (replays : Replays rendering log store)
    (changed : Replays rendering (log ++ events call) (change store)) :
    Replays rendering (log ++ noted update events store call) (next update store call) := by
  rw [noted, next, does, run_ifOnline]
  by_cases away : store.offline = true
  · simpa only [if_pos away, List.append_nil] using replays
  · simpa only [if_neg away] using changed

theorem replays_quiet {call : γ} (silent : noted update events store call = [])
    (committed : (next update store call).committed = store.committed)
    (pending : (next update store call).pending = store.pending)
    (replays : Replays rendering log store) :
    Replays rendering (log ++ noted update events store call) (next update store call) := by
  rw [silent, List.append_nil]
  refine ⟨?_, ?_, ?_⟩
  · rw [committed]
    exact replays.standing
  · rw [committed, pending]
    exact replays.latest
  · rw [pending]
    exact replays.waiting

/-- If every call keeps the store a replay of the log, then so does every run of calls. -/
theorem replays_trace
    (each : ∀ {log store}, Replays rendering log store → ∀ call,
      Replays rendering (log ++ noted update events store call) (next update store call))
    (replays : Replays rendering log store) (calls : List γ) :
    Replays rendering (log ++ trace update events store calls)
      (calls.foldl (next update) store) := by
  induction calls generalizing log store with
  | nil => simpa [trace] using replays
  | cons call rest ih =>
    have later := ih (each replays call)
    rwa [List.append_assoc] at later

end Trace

inductive Call where
  | index (docs : List Document)
  | refresh
  | delete (id : String)
  | purge
  | setOffline (offline : Bool)
  | setLatency (latency : Nat)

namespace Call

def update : Call → Update Unit
  | .index docs => Store.index docs
  | .refresh => Store.refresh
  | .delete id => Store.delete id
  | .purge => Store.purge
  | .setOffline offline => Store.setOffline offline
  | .setLatency latency => Store.setLatency latency

def events : Call → Log String Document
  | .index docs => docs.map .written
  | .refresh => [.committed]
  | .delete id => [.removed id]
  | .purge => [.cleared]
  | .setOffline _ | .setLatency _ => []

def reaches : Call → Bool
  | .index _ | .refresh | .delete _ | .purge => true
  | .setOffline _ | .setLatency _ => false

def offline? : Call → Option Bool
  | .setOffline offline => some offline
  | _ => none

theorem run_update (call : Call) (store : Store) :
    (call.update.run store).1 =
      if call.reaches && store.offline then .error (.unavailable .offline) else .ok () := by
  cases call with
  | index | refresh | delete | purge =>
    rw [update, reaches, Bool.true_and]
    exact (congrArg Prod.fst (run_ifOnline _ store)).trans (apply_ite Prod.fst _ _ _)
  | setOffline | setLatency => rfl

theorem offline_next (call : Call) (store : Store) :
    (next update store call).offline = call.offline?.getD store.offline := by
  cases call with
  | index | refresh | delete | purge => exact offline_ifOnline rfl
  | setOffline | setLatency => rfl

end Call

def afterAll (calls : List Call) : Store :=
  calls.foldl (next Call.update) .empty

def logOf (calls : List Call) : Log String Document :=
  trace Call.update Call.events .empty calls

def isAway (calls : List Call) : Bool :=
  (calls.filterMap Call.offline?).getLast?.getD false

theorem offline_afterAll (calls : List Call) : (afterAll calls).offline = isAway calls := by
  induction calls using List.reverseRecOn with
  | nil => rfl
  | append_singleton calls call ih =>
    have last : afterAll (calls ++ [call]) = next Call.update (afterAll calls) call := by
      rw [afterAll, List.foldl_append]
      rfl
    rw [last, Call.offline_next, ih, isAway, isAway, List.filterMap_append]
    cases said : call.offline? <;> simp [said]

theorem replays_call {log : Log String Document}
    (replays : Replays .ofDocuments log store) (call : Call) :
    Replays .ofDocuments (log ++ noted Call.update Call.events store call)
      (next Call.update store call) := by
  cases call with
  | index docs =>
    refine replays_ifOnline rfl replays (replays.writeAll ?_)
    exact List.forall₂_same.2 fun doc _ => rfl
  | refresh => exact replays_ifOnline rfl replays replays.commitAll
  | delete id => exact replays_ifOnline rfl replays (replays.remove id)
  | purge => exact replays_ifOnline rfl replays (.clear log store)
  | setOffline offline => exact replays_quiet rfl rfl rfl replays
  | setLatency latency => exact replays_quiet rfl rfl rfl replays

/-- What can be found are the standing documents of the log, each under its own id, and what waits
are the waiting ones, in order. A call fails only if it has to reach an index that is offline. -/
theorem afterAll_follows_log (calls : List Call) :
    (∀ id doc, (afterAll calls).get? id = some doc ↔
      doc.id = id ∧ (logOf calls).Stands Document.id doc) ∧
    (∀ entry ∈ (afterAll calls).committed.entries, entry.2.id = entry.1) ∧
    (afterAll calls).pending = (logOf calls).waiting Document.id ∧
    ∀ call : Call, (call.update.run (afterAll calls)).1 =
      if call.reaches && isAway calls then .error (.unavailable .offline) else .ok () := by
  have replays : Replays .ofDocuments ([] ++ logOf calls) (afterAll calls) :=
    replays_trace replays_call replays_empty calls
  rw [List.nil_append] at replays
  have found : ∀ id doc, (afterAll calls).get? id = some doc ↔
      doc.id = id ∧ (logOf calls).Stands Document.id doc := by
    intro id doc
    rw [get?, replays.standing id doc]
    simp [Rendering.ofDocuments]
  refine ⟨found, ?_, ?_, ?_⟩
  · intro entry member
    have held : (afterAll calls).get? entry.1 = some entry.2 := (Dict.mem_entries_iff _).1 member
    exact ((found entry.1 entry.2).1 held).1
  · exact (List.forall₂_eq_eq_eq ▸ replays.waiting).symm
  · intro call
    rw [call.run_update, offline_afterAll]

/-- A document that was deleted while it waited does not come with the next refresh. -/
example : (afterAll [.index [.new "7", .new "8"], .delete "7", .refresh]).get? "7" = none := rfl

end Store

end ContentFinder
