import AdAway.Ui.ListScreens

/-!
# Saving an edited source

`SourceEditActivity` does not update a source: it deletes the one it was opened for, with its items,
and inserts another. Two things get lost on the way. The insert is ignored when its URL is taken, and
by then the deletion has been made, outside of any transaction. And the source inserted is a new one,
so it is enabled whatever the one before was.

The source is loaded on the thread that also saves it, so that it is there when it is saved. Another
screen may have changed its row in between, which is why what is saved is compared with the row at
the time it is saved.

## Main definitions

* `SourceEditScreenState`, `SourceEditScreenState.validate` — the screen, and its texts checked
* `saveSource` — the statements of `SourceEditActivity.saveSource`
* `SavesEdit` — what saving owes the edited source

## Main results

* `validate_snd` — the screen is left with a source exactly if it shows no error
* `savesEdit_iff` — when the edit is saved
-/

namespace AdAway

/-! ### The screen -/

/-- `SourceInputType`. -/
inductive SourceInputType
  | url
  | file
  deriving DecidableEq, Repr

/-- The errors of the screen, by the name of their text. -/
inductive SourceEditError
  /-- `R.string.source_edit_label_required`. -/
  | labelRequired
  /-- `R.string.source_edit_url_location_required`. -/
  | urlLocationRequired
  /-- `R.string.source_edit_location_invalid`. -/
  | locationInvalid
  deriving DecidableEq, Repr

/-- `SourceEditScreenState`. -/
structure SourceEditScreenState where
  label : String
  allowFormat : Bool
  type : SourceInputType
  urlLocation : String
  fileLocation : String
  redirectedHosts : Bool
  labelError : Option SourceEditError
  locationError : Option SourceEditError
  deriving DecidableEq, Repr

namespace SourceEditScreenState

/-- The text of the location that the type of the source selects. -/
def location (state : SourceEditScreenState) : String :=
  match state.type with
  | .url => state.urlLocation
  | .file => state.fileLocation

/-- The check of the label. -/
def checkLabel (state : SourceEditScreenState) : Option SourceEditError :=
  if trimWhitespace state.label = "" then some .labelRequired else none

/-- The check of the location. -/
def checkLocation (state : SourceEditScreenState) : Option SourceEditError :=
  let url := trimWhitespace state.location
  match state.type with
  | .url =>
    if url = "" then some .urlLocationRequired
    else if !isValidUrl url then some .locationInvalid
    else none
  | .file => if !isValidUrl url then some .locationInvalid else none

/-- `SourceEditActivity.validate`: the screen it leaves, and the source it returns. -/
def validate (state : SourceEditScreenState) : SourceEditScreenState × Option HostsSource :=
  ({ state with labelError := state.checkLabel, locationError := state.checkLocation },
    if state.checkLabel ≠ none ∨ state.checkLocation ≠ none then none
    else some (newSource (trimWhitespace state.label) (trimWhitespace state.location) true
      state.allowFormat (!state.allowFormat && state.redirectedHosts)))

theorem checkLabel_eq_none_iff (state : SourceEditScreenState) :
    state.checkLabel = none ↔ trimWhitespace state.label ≠ "" := by
  simp [checkLabel]

/-- An empty location is not valid, whatever the type. -/
theorem checkLocation_eq_none_iff (state : SourceEditScreenState) :
    state.checkLocation = none ↔ isValidUrl (trimWhitespace state.location) = true := by
  have hempty : isValidUrl "" = false := by decide
  rw [checkLocation]
  cases state.type with
  | url =>
    by_cases hurl : trimWhitespace state.location = ""
    · simp [hurl, hempty]
    · simp [hurl]
  | file => simp

/-- The source, if there is one, is made of the texts trimmed. -/
theorem validate_snd (state : SourceEditScreenState) :
    state.validate.2 =
      validateSource state.label state.location state.allowFormat state.redirectedHosts := by
  simp only [validate, validateSource, ← not_and_or, ne_eq, ite_not,
    checkLabel_eq_none_iff, checkLocation_eq_none_iff]

/-- The screen shows an error exactly if there is no source. -/
theorem validate_isSome_iff (state : SourceEditScreenState) :
    state.validate.2.isSome = true ↔
      state.validate.1.labelError = none ∧ state.validate.1.locationError = none := by
  rw [validate]
  dsimp only
  split
  next herror => simpa [imp_iff_not_or] using herror
  next hnone => simpa using hnone

end SourceEditScreenState

/-! ### Saving -/

/-- `SourceEditActivity.saveSource`, for the source the activity was opened for, if it was. -/
def saveSource (edited : Option ℤ) (source : HostsSource) (db : Database) : Database :=
  match edited with
  | none => insertSource source db
  | some id => insertSource source (deleteSource id db)

/-- The other sources and their items are still there. -/
structure KeepsOthers (db : Database) (edited : HostsSource) (db' : Database) : Prop where
  sources : ∀ other ∈ db.hostsSources.rows, other.id ≠ edited.id → other ∈ db'.hostsSources.rows
  items : ∀ item ∈ db.hostsLists.rows, item.sourceId ≠ edited.id → item ∈ db'.hostsLists.rows

/-- The edited source is stored with what the screen says and with its flag, under its own identifier
or a new one, and the others stay; or else the tables are as they were. -/
def SavesEdit (db : Database) (edited source : HostsSource) (db' : Database) : Prop :=
  (∃ r ∈ db'.hostsSources.rows, (r.id = edited.id ∨ db.source r.id = none) ∧
    r.label = source.label ∧ r.url = source.url ∧ r.allowEnabled = source.allowEnabled ∧
    r.redirectEnabled = source.redirectEnabled ∧ r.enabled = edited.enabled) ∧
      KeepsOthers db edited db' ∨ db' = db

section Save

variable {db : Database} {edited source r : HostsSource}

theorem mem_rows_deleteSource_sources {id : ℤ} :
    r ∈ (deleteSource id db).hostsSources.rows ↔ r ∈ db.hostsSources.rows ∧ r.id ≠ id := by
  show r ∈ db.hostsSources.rows.filter _ ↔ _
  simp [List.mem_filter]

/-- The source is stored unless its URL is that of another one. -/
theorem mem_rows_saveSource :
    r ∈ (saveSource (some edited.id) source db).hostsSources.rows ↔
      (r ∈ db.hostsSources.rows ∧ r.id ≠ edited.id) ∨
      (r = { source with id := db.hostsSources.sequence + 1 } ∧
        ∀ other ∈ db.hostsSources.rows, other.url = source.url → other.id = edited.id) := by
  have htaken : ((deleteSource edited.id db).hostsSources.rows.any fun s => s.url = source.url) =
        true ↔
      ¬ ∀ other ∈ db.hostsSources.rows, other.url = source.url → other.id = edited.id := by
    simp only [List.any_eq_true, mem_rows_deleteSource_sources, decide_eq_true_eq, not_forall]
    constructor
    · rintro ⟨other, ⟨hmem, hid⟩, hurl⟩
      exact ⟨other, hmem, hurl, hid⟩
    · rintro ⟨other, hmem, hurl, hid⟩
      exact ⟨other, ⟨hmem, hid⟩, hurl⟩
  rw [saveSource, insertSource]
  split
  next hother =>
    show r ∈ (deleteSource edited.id db).hostsSources.rows ↔ _
    rw [mem_rows_deleteSource_sources]
    simp [htaken.mp hother]
  next hfree =>
    have hfree := not_not.mp (mt htaken.mpr hfree)
    show r ∈ (deleteSource edited.id db).hostsSources.rows ++ [_] ↔ _
    rw [List.mem_append, List.mem_singleton, mem_rows_deleteSource_sources, and_iff_left hfree]
    rfl

/-- Saving a source removes the edited one only. -/
theorem keepsOthers_saveSource :
    KeepsOthers db edited (saveSource (some edited.id) source db) where
  sources := fun _ hother hne => mem_rows_saveSource.mpr (.inl ⟨hother, hne⟩)
  items := by
    intro item hitem hne
    rw [saveSource, rows_insertSource]
    exact mem_rows_deleteSource.mpr ⟨hitem, hne⟩

/-- The row of the edited source is gone, whether another is stored or not. -/
theorem source_saveSource (hedited : db.source edited.id = some edited) :
    (saveSource (some edited.id) source db).source edited.id = none := by
  refine KeyedTable.find?_eq_none_iff.mpr fun r hr hid => ?_
  rcases mem_rows_saveSource.mp hr with ⟨-, hne⟩ | ⟨rfl, -⟩
  · exact hne hid
  · have hle := db.hostsSources.key_le edited (KeyedTable.find?_eq_some_iff.mp hedited).1
    have hnew : db.hostsSources.sequence + 1 = edited.id := hid
    omega

/-- A source that is saved is new in the table: its URL was free, and it has its own flag. -/
theorem new_of_savesEdit (hedited : db.source edited.id = some edited)
    (h : SavesEdit db edited source (saveSource (some edited.id) source db)) :
    source.enabled = edited.enabled ∧
      ∀ other ∈ db.hostsSources.rows, other.url = source.url → other.id = edited.id := by
  rcases h with ⟨⟨r, hr, hid, -, -, -, -, hflag⟩, -⟩ | hsame
  · rcases mem_rows_saveSource.mp hr with ⟨hmem, hne⟩ | ⟨rfl, hfree⟩
    · have hnone := hid.resolve_left hne
      rw [show db.source r.id = some r from KeyedTable.mem_rows_iff.mp hmem] at hnone
      exact absurd hnone nofun
    · exact ⟨hflag, hfree⟩
  · have hgone : (saveSource (some edited.id) source db).source edited.id = none :=
      source_saveSource hedited
    rw [hsame, hedited] at hgone
    exact absurd hgone nofun

/-- **When an edit is saved.** Saving a valid edit of a source stores it and keeps the others, or
leaves the tables as they were, exactly if the source was enabled and no other source has the new URL. -/
theorem savesEdit_iff (hedited : db.source edited.id = some edited) {state : SourceEditScreenState}
    (hvalid : state.validate.2 = some source) :
    SavesEdit db edited source (saveSource (some edited.id) source db) ↔
      edited.enabled = true ∧
        ∀ other ∈ db.hostsSources.rows, other.url = source.url → other.id = edited.id := by
  have henabled : source.enabled = true := by
    rw [SourceEditScreenState.validate_snd, validateSource] at hvalid
    obtain ⟨-, rfl⟩ := by simpa using hvalid
    rfl
  constructor
  · intro hsaves
    obtain ⟨hflag, hfree⟩ := new_of_savesEdit hedited hsaves
    exact ⟨hflag.symm.trans henabled, hfree⟩
  · rintro ⟨hflag, hfree⟩
    refine .inl ⟨⟨_, mem_rows_saveSource.mpr (.inr ⟨rfl, hfree⟩), .inr ?_, rfl, rfl, rfl, rfl,
      henabled.trans hflag.symm⟩, keepsOthers_saveSource⟩
    refine KeyedTable.find?_eq_none_iff.mpr fun r hr hid => ?_
    have hle := db.hostsSources.key_le r hr
    have hnew : r.id = db.hostsSources.sequence + 1 := hid
    omega

end Save

/-- The screen with a label and a URL. -/
def urlScreen (label url : String) : SourceEditScreenState :=
  ⟨label, false, .url, url, "", false, none, none⟩

/-- The first source of the installation. -/
def adAwaySource : HostsSource :=
  { newSource "AdAway official hosts" "https://adaway.org/hosts.txt" true false false with id := 2 }

/-- It gets another label. -/
theorem savesEdit_iff_label :
    SavesEdit (initializedDatabase englishLabels) adAwaySource
      (newSource "AdAway" "https://adaway.org/hosts.txt" true false false)
      (saveSource (some 2) (newSource "AdAway" "https://adaway.org/hosts.txt" true false false)
        (initializedDatabase englishLabels)) := by
  have hvalid : (urlScreen " AdAway" "https://adaway.org/hosts.txt").validate.2 =
      some (newSource "AdAway" "https://adaway.org/hosts.txt" true false false) := by decide +kernel
  exact (@savesEdit_iff _ adAwaySource _ rfl _ hvalid).mpr ⟨rfl, by decide⟩

/-- It gets the URL of the next one, and is lost. -/
theorem not_savesEdit : ¬ ∀ (db : Database) (edited source : HostsSource)
    (state : SourceEditScreenState), db.source edited.id = some edited →
    state.validate.2 = some source →
    SavesEdit db edited source (saveSource (some edited.id) source db) := by
  intro h
  have hvalid : (urlScreen "AdAway"
      "https://raw.githubusercontent.com/StevenBlack/hosts/master/hosts").validate.2 =
      some (newSource "AdAway" "https://raw.githubusercontent.com/StevenBlack/hosts/master/hosts" true
        false false) := by decide +kernel
  have hsaves := h (initializedDatabase englishLabels) adAwaySource _ _ rfl hvalid
  exact absurd (new_of_savesEdit rfl hsaves).2 (by decide)

end AdAway
