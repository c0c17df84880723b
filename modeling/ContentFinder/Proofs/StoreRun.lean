import ContentFinder.Finder
import ContentFinder.Proofs.Definitions

/-! Stores that were only written through a finder. A call that fails leaves the store as it is, and
the documents of a store are always those of contents that were handed in. -/

namespace ContentFinder

open Outcome

namespace Dict

variable {α : Type} {dict : Dict α} {key : String} {value other : α}

theorem mem_values_insert (member : other ∈ (dict.insert key value).values) :
    other = value ∨ other ∈ dict.values := by
  obtain ⟨⟨name, held⟩, inside, rfl⟩ := List.mem_map.1 member
  rw [mem_entries_iff, get?_insert] at inside
  split at inside
  · exact .inl (Option.some.inj inside).symm
  · exact .inr (List.mem_map_of_mem ((mem_entries_iff dict).2 inside))

theorem mem_values_erase (member : other ∈ (dict.erase key).values) : other ∈ dict.values := by
  obtain ⟨entry, inside, rfl⟩ := List.mem_map.1 member
  exact List.mem_map_of_mem (List.mem_filter.1 inside).1

end Dict

namespace Store

def awaiting (store : Store) (docs : List Document) : Store :=
  { store with pending := store.pending ++ docs }

def settled (store : Store) : Store :=
  { store with
    committed := store.pending.foldl (fun docs doc => docs.insert doc.id doc) store.committed
    pending := [] }

theorem offline_ifOnline {change : Store → Store} {store : Store}
    (keeps : (change store).offline = store.offline) :
    ((ifOnline change).run store).2.offline = store.offline := by
  rw [run_ifOnline]
  split
  · rfl
  · exact keeps

theorem run_ifOnline_eq_ok {change : Store → Store} {store : Store}
    (online : store.offline = false) : ((ifOnline change).run store).1 = .ok () := by
  rw [run_ifOnline, online]
  rfl

/-- Every document of the store is allowed, whether it can be found yet or not. -/
structure HoldsOnly (allowed : Document → Prop) (store : Store) : Prop where
  committed : ∀ doc ∈ store.committed.values, allowed doc
  pending : ∀ doc ∈ store.pending, allowed doc

variable {allowed : Document → Prop} {store : Store}

theorem holdsOnly_empty : HoldsOnly allowed empty := ⟨nofun, nofun⟩

theorem HoldsOnly.awaiting (held : store.HoldsOnly allowed) {docs : List Document}
    (new : ∀ doc ∈ docs, allowed doc) : (store.awaiting docs).HoldsOnly allowed := by
  refine ⟨held.committed, fun doc member => ?_⟩
  rcases List.mem_append.1 member with old | added
  · exact held.pending doc old
  · exact new doc added

theorem HoldsOnly.settled (held : store.HoldsOnly allowed) : store.settled.HoldsOnly allowed := by
  refine ⟨?_, nofun⟩
  refine List.foldlRecOn (motive := fun docs : Dict Document => ∀ doc ∈ docs.values, allowed doc)
    store.pending _ held.committed fun docs old first member doc inside => ?_
  rcases Dict.mem_values_insert inside with rfl | before
  · exact held.pending _ member
  · exact old doc before

end Store

namespace Finder

/-- What can be done to a store and to the finder that writes it. -/
inductive Act where
  | index (contents : List Content) (mode : CommitMode)
  | delete (id : Int64)
  | purge
  | refresh
  | setOffline (offline : Bool)
  | setLatency (latency : Nat)

def Act.contents : Act → List Content
  | .index contents _ => contents
  | _ => []

def update (finder : Finder) : Act → Store.Update Unit
  | .index contents mode => finder.index contents mode
  | .delete id => Finder.delete id
  | .purge => Store.purge
  | .refresh => Store.refresh
  | .setOffline offline => Store.setOffline offline
  | .setLatency latency => Store.setLatency latency

def perform (finder : Finder) (store : Store) (act : Act) : Store :=
  ((finder.update act).run store).2

def performAll (finder : Finder) (acts : List Act) : Store :=
  acts.foldl finder.perform .empty

/-- Indexing changes the store only if every content has a document and the store is online. -/
theorem run_index (finder : Finder) (contents : List Content) (mode : CommitMode) (store : Store) :
    (finder.index contents mode).run store =
      match contents.mapM (Content.toDocument finder.schema) with
      | .error failure => (.error failure, store)
      | .ok docs =>
        if store.offline then (.error (.unavailable .offline), store)
        else (.ok (), match mode with
          | .eventual => store.awaiting docs
          | .sync => (store.awaiting docs).settled) := by
  unfold index
  obtain ⟨committed, pending, offline, latency⟩ := store
  cases contents.mapM (Content.toDocument finder.schema) with
  | error failure => rfl
  | ok docs => cases offline <;> cases mode <;> rfl

theorem run_index_eq_ok_iff {finder : Finder} {contents : List Content} {mode : CommitMode}
    {store : Store} :
    ((finder.index contents mode).run store).1 = .ok () ↔ store.offline = false ∧
      ∀ content ∈ contents, ∃ doc, content.toDocument finder.schema = .ok doc := by
  rw [run_index, ← exists_mapM_eq_ok]
  cases contents.mapM (Content.toDocument finder.schema) with
  | error failure => simp
  | ok docs => cases store.offline <;> simp

variable {finder : Finder} {allowed : Document → Prop} {store : Store} {act : Act}

theorem holdsOnly_perform (held : store.HoldsOnly allowed)
    (new : ∀ content ∈ act.contents, ∀ doc, content.toDocument finder.schema = .ok doc →
      allowed doc) :
    (finder.perform store act).HoldsOnly allowed := by
  unfold perform
  cases act with
  | index contents mode =>
    rw [update, run_index]
    cases mapped : contents.mapM (Content.toDocument finder.schema) with
    | error failure => exact held
    | ok docs =>
      have fits : ∀ doc ∈ docs, allowed doc := by
        intro doc member
        obtain ⟨content, given, done⟩ := exists_of_mem_mapM mapped member
        exact new content given doc done
      dsimp only
      split
      · exact held
      · cases mode with
        | eventual => exact held.awaiting fits
        | sync => exact (held.awaiting fits).settled
  | delete id =>
    rw [update, Finder.delete, Store.delete, Store.run_ifOnline]
    split
    · exact held
    · exact ⟨fun doc member => held.committed doc (Dict.mem_values_erase member),
        fun doc member => held.pending doc (List.mem_filter.1 member).1⟩
  | purge =>
    rw [update, Store.purge, Store.run_ifOnline]
    split
    · exact held
    · exact ⟨nofun, nofun⟩
  | refresh =>
    rw [update, Store.refresh, Store.run_ifOnline]
    split
    · exact held
    · exact held.settled
  | setOffline offline => exact ⟨held.committed, held.pending⟩
  | setLatency latency => exact ⟨held.committed, held.pending⟩

theorem holdsOnly_performAll {acts : List Act}
    (new : ∀ act ∈ acts, ∀ content ∈ act.contents, ∀ doc,
      content.toDocument finder.schema = .ok doc → allowed doc) :
    (finder.performAll acts).HoldsOnly allowed :=
  List.foldlRecOn acts finder.perform Store.holdsOnly_empty fun _ held act member =>
    holdsOnly_perform held (new act member)

end Finder

end ContentFinder
