import ContentFinder.Proofs.Visibility

/-! Calls that fail. Whatever is asked of a finder, and for whatever reason it is refused, the store
is then as it was before the call. So a run of calls comes to the same without those that fail. -/

namespace ContentFinder

open Outcome

namespace Store

def ask {α : Type} (question : Store → Except Failure α) : Update α := do
  liftM (question (← get))

theorem run_ask {α : Type} (question : Store → Except Failure α) (store : Store) :
    (ask question).run store = (question store, store) := by
  show (liftM (question store) : Update α).run store = _
  cases question store <;> rfl

theorem run_return {α : Type} (call : Update Unit) (value : α) (store : Store) :
    (do call; return value : Update α).run store =
      ((fun _ => value) <$> (call.run store).1, (call.run store).2) := by
  rw [ExceptT.run_bind]
  show StateT.bind call.run _ store = _
  unfold StateT.bind
  cases call.run store with
  | mk result after => cases result <;> rfl

theorem run_ifOnline_of_error {change : Store → Store} {store : Store} {failure : Failure}
    (failed : ((ifOnline change).run store).1 = .error failure) :
    ((ifOnline change).run store).2 = store := by
  rw [run_ifOnline] at failed ⊢
  split at failed
  · rename_i away
    rw [if_pos away]
  · cases failed

end Store

namespace Finder

/-- What a caller may ask of a finder: an act on the store, or a question about it. -/
inductive Call where
  | act (act : Act)
  | find (query : Query) (filter : LanguageFilter)
  | findSingle (criterion : Criterion) (filter : LanguageFilter)
  | suggest (typed : String) (fields : List String) (limit : Nat) (criterion : Option Criterion)

inductive Reply where
  | done
  | found (result : SearchResult)
  | single (content : Content)
  | texts (texts : List String)

def answer (finder : Finder) : Call → Store.Update Reply
  | .act act => do
    finder.update act
    return .done
  | .find query filter => Store.ask fun store => .found <$> finder.find store query filter
  | .findSingle criterion filter =>
    Store.ask fun store => .single <$> finder.findSingle store criterion filter
  | .suggest typed fields limit criterion =>
    Store.ask fun store => .texts <$> finder.suggest store typed fields limit criterion

def reply (finder : Finder) (store : Store) (call : Call) : Except Failure Reply :=
  ((finder.answer call).run store).1

def after (finder : Finder) (store : Store) (call : Call) : Store :=
  ((finder.answer call).run store).2

def replies (finder : Finder) : List Call → Store → List (Except Failure Reply)
  | [], _ => []
  | call :: rest, store => finder.reply store call :: finder.replies rest (finder.after store call)

def afterAll (finder : Finder) (calls : List Call) (store : Store) : Store :=
  calls.foldl finder.after store

/-- Those of the calls that succeed when all are made in order. -/
def succeeding (finder : Finder) : List Call → Store → List Call
  | [], _ => []
  | call :: rest, store =>
    let later := finder.succeeding rest (finder.after store call)
    if (finder.reply store call).isOk then call :: later else later

variable {finder : Finder} {store : Store} {failure : Failure}

theorem perform_of_error {act : Act}
    (failed : ((finder.update act).run store).1 = .error failure) :
    finder.perform store act = store := by
  unfold perform
  cases act with
  | index contents mode =>
    rw [update, run_index] at failed ⊢
    cases mapped : contents.mapM (Content.toDocument finder.schema) with
    | error refused => rfl
    | ok docs =>
      rw [mapped] at failed
      by_cases away : store.offline = true
      · simp only [if_pos away]
      · simp only [if_neg away] at failed
        cases failed
  | delete id => exact Store.run_ifOnline_of_error failed
  | purge => exact Store.run_ifOnline_of_error failed
  | refresh => exact Store.run_ifOnline_of_error failed
  | setOffline offline => cases failed
  | setLatency latency => cases failed

theorem reply_act (finder : Finder) (act : Act) (store : Store) :
    finder.reply store (.act act) = (fun _ => .done) <$> ((finder.update act).run store).1 := by
  rw [reply, answer, Store.run_return]

theorem after_act (finder : Finder) (act : Act) (store : Store) :
    finder.after store (.act act) = finder.perform store act := by
  rw [after, answer, Store.run_return, perform]

theorem after_of_error {call : Call} (failed : finder.reply store call = .error failure) :
    finder.after store call = store := by
  cases call with
  | act act =>
    rw [reply_act] at failed
    rw [after_act]
    exact perform_of_error (map_eq_error.1 failed)
  | find query filter => rw [after, answer, Store.run_ask]
  | findSingle criterion filter => rw [after, answer, Store.run_ask]
  | suggest typed fields limit criterion => rw [after, answer, Store.run_ask]

/-- Without the calls that fail, the other replies and the last store stay the same. -/
theorem run_succeeding (finder : Finder) (calls : List Call) (store : Store) :
    finder.replies (finder.succeeding calls store) store =
        (finder.replies calls store).filter Except.isOk ∧
      finder.afterAll (finder.succeeding calls store) store = finder.afterAll calls store := by
  induction calls generalizing store with
  | nil => exact ⟨rfl, rfl⟩
  | cons call rest ih =>
    have later := ih (finder.after store call)
    rw [succeeding, replies]
    cases replied : finder.reply store call with
    | error failure =>
      have kept := after_of_error replied
      rw [kept] at later ⊢
      refine ⟨later.1, later.2.trans ?_⟩
      rw [afterAll, afterAll, List.foldl_cons, kept]
    | ok value =>
      refine ⟨?_, later.2⟩
      show replies finder (call :: _) store = .ok value :: List.filter _ _
      rw [replies, replied, later.1]

theorem run_index_of_mapped {contents : List Content} {mode : CommitMode} {docs : List Document}
    (online : store.offline = false)
    (mapped : List.Forall₂ (fun content doc => content.toDocument finder.schema = .ok doc)
      contents docs) :
    (finder.index contents mode).run store =
      (if mode = .sync then Store.refresh else pure ()).run (store.awaiting docs) := by
  have waiting : (store.awaiting docs).offline = false := online
  rw [run_index, mapM_eq_ok.2 mapped]
  cases mode with
  | eventual =>
    rw [online, if_neg CommitMode.noConfusion]
    rfl
  | sync =>
    rw [online, if_pos rfl, Store.refresh, Store.run_ifOnline,
      if_neg (Bool.eq_false_iff.1 waiting)]
    rfl

/-- A call that fails, for whatever reason, leaves the store as it was. So a run of calls has the
same last store, and for the others the same replies, without the calls that fail. Indexing succeeds
when the store is online and every content has a document, and then the documents of all contents
have been added in order to those that wait, before they are committed if that was asked for. -/
theorem failed_calls_keep_store (finder : Finder) (store : Store) :
    (∀ call failure, finder.reply store call = .error failure → finder.after store call = store) ∧
    (∀ calls, finder.replies (finder.succeeding calls store) store =
        (finder.replies calls store).filter Except.isOk ∧
      finder.afterAll (finder.succeeding calls store) store = finder.afterAll calls store) ∧
    ∀ contents mode,
      (((finder.index contents mode).run store).1 = .ok () ↔ store.offline = false ∧
        ∀ content ∈ contents, ∃ doc, content.toDocument finder.schema = .ok doc) ∧
      (((finder.index contents mode).run store).1 = .ok () → ∃ docs,
        List.Forall₂ (fun content doc => content.toDocument finder.schema = .ok doc)
          contents docs ∧
        (finder.index contents mode).run store =
          (if mode = .sync then Store.refresh else pure ()).run (store.awaiting docs)) := by
  refine ⟨fun call failure => after_of_error, fun calls => run_succeeding finder calls store, ?_⟩
  intro contents mode
  refine ⟨run_index_eq_ok_iff, fun succeeded => ?_⟩
  obtain ⟨online, each⟩ := run_index_eq_ok_iff.1 succeeded
  obtain ⟨docs, mapped⟩ := exists_mapM_eq_ok.2 each
  have pairs := mapM_eq_ok.1 mapped
  exact ⟨docs, pairs, run_index_of_mapped online pairs⟩

end Finder

namespace Sample

def misnumbered : Content :=
  { content with
    info := { content.info with id := 9 }
    fields := [⟨"title", "eng", .integer 5⟩] }

def stored : Store := finder.performAll [.index [content] .eventual]

end Sample

theorem Finder.failed_batch_keeps_store :
    (∃ failure, Sample.finder.reply Sample.stored
        (.act (.index [Sample.content, Sample.misnumbered] .sync)) = .error failure ∧
      Sample.finder.after Sample.stored
        (.act (.index [Sample.content, Sample.misnumbered] .sync)) = Sample.stored) ∧
    (Sample.finder.index [Sample.content] .sync).run Sample.stored =
      Store.refresh.run (Sample.stored.awaiting [Sample.document]) := by
  obtain ⟨kept, -, indexed⟩ := failed_calls_keep_store Sample.finder Sample.stored
  obtain ⟨succeeds, result⟩ := indexed [Sample.content] .sync
  have each : ∀ content ∈ [Sample.content],
      ∃ doc, content.toDocument Sample.finder.schema = .ok doc :=
    List.forall_mem_singleton.2 ⟨Sample.document, Sample.mapped⟩
  obtain ⟨docs, mapped, run⟩ := result (succeeds.2 ⟨rfl, each⟩)
  refine ⟨⟨_, rfl, kept _ _ rfl⟩, ?_⟩
  -- The one content has one document.
  cases mapped with
  | cons made rest =>
    cases rest
    rwa [Except.ok.inj (made.symm.trans Sample.mapped)] at run

end ContentFinder
