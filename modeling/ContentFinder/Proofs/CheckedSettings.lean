import ContentFinder.Finder
import ContentFinder.Proofs.DefinitionLists

/-! Settings that pass their check. The check keeps a list of names that it has seen, and the schema
is a table that grows, yet both accept the same lists of definitions and stop at the same place in
all others. So a finder that is made by settings fails by the check or not at all. -/

namespace ContentFinder

open Outcome

def Offence.fault : Offence → SettingsFault
  | .unnamed => .unnamedField
  | .repeated contentType identifier => .repeatedField contentType identifier

namespace Settings

variable {settings : Settings} {before definitions : List FieldDefinition}
  {definition : FieldDefinition} {place : Nat} {offence : Offence}

/-- What the check has seen behind some definitions, the names of the last one first. -/
def seenIn (definitions : List FieldDefinition) : List (String × String) :=
  definitions.reverse.map fun definition => (definition.contentType, definition.identifier)

theorem seenIn_append_singleton (before : List FieldDefinition) (definition : FieldDefinition) :
    seenIn (before ++ [definition]) =
      (definition.contentType, definition.identifier) :: seenIn before := by
  rw [seenIn, List.reverse_concat, List.map_cons, seenIn]

theorem contains_seenIn :
    (seenIn before).contains (definition.contentType, definition.identifier) = true ↔
      ∃ earlier ∈ before, earlier.SameNames definition := by
  simp [seenIn, FieldDefinition.SameNames]

/-! One definition behind others. -/

theorem checkFields_of_fits (fits : Fits before definition) (rest : List FieldDefinition) :
    checkFields (seenIn before) (definition :: rest) =
      checkFields (seenIn (before ++ [definition])) rest := by
  have fresh :
      ¬(seenIn before).contains (definition.contentType, definition.identifier) = true := by
    intro seen
    obtain ⟨earlier, member, same⟩ := contains_seenIn.1 seen
    exact fits.2 earlier member same
  rw [checkFields, if_neg (not_or.2 fits.1), if_neg fresh, seenIn_append_singleton]

theorem checkFields_of_offends (offends : Offends before definition offence)
    (rest : List FieldDefinition) :
    checkFields (seenIn before) (definition :: rest) = .error offence.fault := by
  rw [checkFields]
  cases offends with
  | unnamed nameless =>
    rw [if_pos (FieldDefinition.not_isNamed_iff.1 nameless)]
    rfl
  | repeated named member same =>
    rw [if_neg (not_or.2 named), if_pos (contains_seenIn.2 ⟨_, member, same⟩)]
    rfl

/-! Whole lists. -/

theorem checkFields_append (before : List FieldDefinition) {middle : List FieldDefinition}
    (fine : WellNamed (before ++ middle)) (after : List FieldDefinition) :
    checkFields (seenIn before) (middle ++ after) =
      checkFields (seenIn (before ++ middle)) after := by
  induction middle generalizing before with
  | nil => rw [List.nil_append, List.append_nil]
  | cons definition rest ih =>
    have joined : before ++ definition :: rest = (before ++ [definition]) ++ rest := by simp
    rw [joined] at fine ⊢
    have front := fine.sublist (List.sublist_append_left (before ++ [definition]) rest)
    rw [List.cons_append, checkFields_of_fits (wellNamed_append_singleton.1 front).2, ih _ fine]

theorem checkFields_of_wellNamed (fine : WellNamed definitions) :
    checkFields [] definitions = .ok () := by
  have whole : checkFields (seenIn []) (definitions ++ []) = .ok () :=
    checkFields_append [] fine []
  rwa [List.append_nil] at whole

theorem checkFields_of_firstOffence (first : FirstOffence definitions place offence) :
    checkFields [] definitions = .error offence.fault := by
  obtain ⟨before, definition, after, rfl, -, fine, offends⟩ := first.split
  have reached : checkFields (seenIn []) (before ++ definition :: after) =
      checkFields (seenIn before) (definition :: after) := checkFields_append [] fine _
  rw [checkFields_of_offends offends] at reached
  exact reached

theorem checkFields_eq_ok_iff : checkFields [] definitions = .ok () ↔ WellNamed definitions := by
  constructor
  · intro passed
    by_contra faulty
    obtain ⟨place, offence, first⟩ := exists_firstOffence faulty
    rw [checkFields_of_firstOffence first] at passed
    cases passed
  · exact checkFields_of_wellNamed

/-! Settings. -/

theorem wellNamed_of_check (passed : settings.check = .ok ()) : WellNamed settings.fields := by
  obtain ⟨-, -, rest⟩ := bind_eq_ok.1 passed
  obtain ⟨-, -, fields⟩ := bind_eq_ok.1 rest
  exact checkFields_eq_ok_iff.1 fields

theorem exists_schema_iff :
    (∃ schema, settings.schema = .ok schema) ↔ WellNamed settings.fields :=
  Schema.exists_ofDefinitions_iff

def keeping (settings : Settings) (count : Nat) : Settings :=
  { settings with fields := settings.fields.take count }

/-- The check and the schema accept all definitions in front of a place, and with that of the place
both refuse them by its offence. -/
structure BothStopAt (settings : Settings) (place : Nat) (offence : Offence) : Prop where
  pass : ∀ count ≤ place,
    (settings.keeping count).check = .ok () ∧ ∃ schema, (settings.keeping count).schema = .ok schema
  fail : ∀ count, place < count →
    (settings.keeping count).check = .error offence.fault ∧
      (settings.keeping count).schema = .error offence.failure

section Fine

variable (searchFine : checkSearch settings.search = .ok ())
  (logFine : checkLog settings.log = .ok ())

include searchFine logFine

theorem check_eq_checkFields : settings.check = checkFields [] settings.fields := by
  rw [check, searchFine, logFine]
  rfl

theorem check_eq_ok_iff : settings.check = .ok () ↔ WellNamed settings.fields := by
  rw [check_eq_checkFields searchFine logFine]
  exact checkFields_eq_ok_iff

theorem bothStopAt_of_firstOffence (first : FirstOffence settings.fields place offence) :
    settings.BothStopAt place offence where
  pass count early := by
    have fine : WellNamed (settings.keeping count).fields :=
      first.fine.sublist (List.take_sublist_take_left early)
    have passed : (settings.keeping count).check = .ok () ↔
        WellNamed (settings.keeping count).fields := check_eq_ok_iff searchFine logFine
    exact ⟨passed.2 fine, exists_schema_iff.2 fine⟩
  fail count reached := by
    have still : FirstOffence (settings.keeping count).fields place offence := first.take reached
    have checked : (settings.keeping count).check =
        checkFields [] (settings.keeping count).fields := check_eq_checkFields searchFine logFine
    exact ⟨checked.trans (checkFields_of_firstOffence still),
      Schema.ofDefinitions_of_firstOffence still⟩

end Fine

end Settings

namespace Finder

theorem ofSettings_eq_error_iff {connection : Connection} {settings : Settings}
    {failure : Failure} :
    ofSettings connection settings = .error failure ↔
      ∃ fault, settings.check = .error fault ∧ failure = .config (.settings fault) := by
  cases checked : settings.check with
  | error fault =>
    rw [ofSettings, checked]
    constructor
    · intro failed
      exact ⟨fault, rfl, (Except.error.inj failed).symm⟩
    · rintro ⟨other, same, rfl⟩
      cases same
      rfl
  | ok =>
    obtain ⟨schema, built⟩ := Settings.exists_schema_iff.2 (Settings.wellNamed_of_check checked)
    rw [ofSettings, checked, built]
    constructor
    · intro failed
      cases failed
    · rintro ⟨fault, failed, -⟩
      cases failed

end Finder

namespace Settings

/-- The check passes just when there is a schema, and otherwise both stop at the first definition
that offends. A finder fails by the check alone. -/
theorem check_agrees_with_schema (settings : Settings) :
    (checkSearch settings.search = .ok () → checkLog settings.log = .ok () →
      (settings.check = .ok () ↔ ∃ schema, settings.schema = .ok schema) ∧
      (settings.check ≠ .ok () → ∃ place offence, FirstOffence settings.fields place offence ∧
        settings.check = .error offence.fault ∧ settings.schema = .error offence.failure ∧
        settings.BothStopAt place offence)) ∧
    ∀ connection failure, Finder.ofSettings connection settings = .error failure ↔
      ∃ fault, settings.check = .error fault ∧ failure = .config (.settings fault) := by
  refine ⟨fun searchFine logFine => ⟨?_, fun refused => ?_⟩, fun connection failure =>
    Finder.ofSettings_eq_error_iff⟩
  · rw [exists_schema_iff]
    exact check_eq_ok_iff searchFine logFine
  · have faulty : ¬WellNamed settings.fields := mt (check_eq_ok_iff searchFine logFine).2 refused
    obtain ⟨place, offence, first⟩ := exists_firstOffence faulty
    have checked : settings.check = .error offence.fault :=
      (check_eq_checkFields searchFine logFine).trans (checkFields_of_firstOffence first)
    exact ⟨place, offence, first, checked, Schema.ofDefinitions_of_firstOffence first,
      bothStopAt_of_firstOffence searchFine logFine first⟩

def twoFolders : Settings :=
  { standard with fields := [
      ⟨"folder", "name", ⟨.string, true, true⟩⟩, ⟨"article", "name", ⟨.string, true, true⟩⟩,
      ⟨"folder", "name", ⟨.text, false, true⟩⟩, ⟨"", "title", ⟨.text, true, true⟩⟩] }

theorem check_agrees_twoFolders :
    checkSearch twoFolders.search = .ok () ∧ checkLog twoFolders.log = .ok () ∧
      twoFolders.check = .error (.repeatedField "folder" "name") ∧
      twoFolders.schema = .error (.config (.repeatedDefinition "folder" "name")) ∧
      Finder.ofSettings .direct twoFolders =
        .error (.config (.settings (.repeatedField "folder" "name"))) := by
  have searchFine : checkSearch twoFolders.search = .ok () := by decide
  have logFine : checkLog twoFolders.log = .ok () := by decide
  have checked : twoFolders.check = .error (.repeatedField "folder" "name") := by decide
  have refused : twoFolders.check ≠ .ok () := by
    rw [checked]
    exact nofun
  obtain ⟨lists, finders⟩ := check_agrees_with_schema twoFolders
  obtain ⟨place, offence, -, byFault, byFailure, -⟩ := (lists searchFine logFine).2 refused
  have same : SettingsFault.repeatedField "folder" "name" = offence.fault :=
    Except.error.inj (checked.symm.trans byFault)
  refine ⟨searchFine, logFine, checked, ?_, (finders _ _).2 ⟨_, checked, rfl⟩⟩
  cases offence with
  | unnamed => cases same
  | repeated contentType identifier =>
    cases same
    exact byFailure

end Settings

end ContentFinder
