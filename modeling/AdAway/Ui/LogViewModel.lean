import AdAway.Ui.HomeViewModel
import AdAway.Ui.LogEntrySort

/-!
# The entries of the log screen

The log screen reads the recorded requests on the thread of the disk, which sorts them and posts
them. The main thread sorts the entries again when the user asks for another order, and changes the
type of an entry when the user adds its host to a list. What is posted is shown some time later.

Whatever happens in between, each list that is shown is in one of the two orders: it has been sorted
as a whole, and a new type moves nothing. It may be the wrong one, though. An update takes the order
it finds when it begins, and what is computed from entries about to be replaced is in their order.
So the order is the chosen one as long as the user waits: for the update, and for what was posted.

## Main definitions

* `LogViewModel`, `stepLog` — the screen, with an update under way
* `InOrder` — a list is in the order of a sort
* `Waits` — the user waits for the update, and for what was posted

## Main results

* `LogViewModel.sorted_run` — what is shown is in one of the orders
* `LogViewModel.current_run` — it is in the chosen order if the user waits
-/

namespace AdAway

/-- The log screen. -/
structure LogViewModel where
  logEntries : LiveData (Option (List LogEntry))
  sort : LogEntrySort
  /-- The entries that an update has read and sorted, and has not posted yet. -/
  updated : Option (List LogEntry)

/-- What may happen next. -/
inductive LogAction
  /-- The thread of the disk reads the requests, in `updateLogs`, and sorts them. -/
  | readLogs (logItems : List LogEntry)
  /-- It posts them. -/
  | postLogs
  /-- The main thread calls `toggleSort`. -/
  | toggleSort
  /-- The main thread calls `updateLogEntryType`, in `addListItem` or `removeListItem`. -/
  | updateLogEntryType (host : String) (type : Option ListType)
  /-- The main thread calls `clearLogs`. -/
  | clearLogs
  /-- What has been posted is shown. -/
  | setPosted
  deriving DecidableEq, Repr

/-- The other order. -/
def LogEntrySort.toggle : LogEntrySort → LogEntrySort
  | .alphabetical => .topLevelDomain
  | .topLevelDomain => .alphabetical

namespace LogViewModel

/-- The constructor. -/
def create : LogViewModel := ⟨⟨none, none⟩, .topLevelDomain, none⟩

/-- The main thread posts what it computes from the entries that are shown, if there are any. -/
def postFromValue (s : LogViewModel) (f : List LogEntry → List LogEntry) : LogViewModel :=
  match s.logEntries.value with
  | none => s
  | some entries => { s with logEntries := s.logEntries.postValue (some (f entries)) }

end LogViewModel

/-- One step. -/
def stepLog (s : LogViewModel) : LogAction → Option LogViewModel
  | .readLogs logItems =>
    if s.updated = none then some { s with updated := some (sortDnsRequests s.sort logItems) }
    else none
  | .postLogs =>
    s.updated.map fun entries =>
      { s with logEntries := s.logEntries.postValue (some entries), updated := none }
  | .toggleSort =>
    some ({ s with sort := s.sort.toggle }.postFromValue (sortDnsRequests s.sort.toggle))
  | .updateLogEntryType host type =>
    some (s.postFromValue (AdAway.updateLogEntryType host type))
  | .clearLogs => some { s with logEntries := s.logEntries.postValue (some []) }
  | .setPosted => s.logEntries.setPosted.map fun logEntries => { s with logEntries := logEntries }

/-- The entries are in the order of the sort. -/
def InOrder (sort : LogEntrySort) (entries : List LogEntry) : Prop :=
  entries.Pairwise fun entry1 entry2 => sort.comparator entry1 entry2 ≤ 0

/-- The user waits for the update before asking for another order, and for what was posted before
changing what is shown. -/
def Waits (s : LogViewModel) : LogAction → Prop
  | .toggleSort => s.updated = none ∧ s.logEntries.pendingData = none
  | .updateLogEntryType _ _ => s.logEntries.pendingData = none
  | _ => True

namespace LogViewModel

/-- What is shown, what was posted and what is to be posted has the property. -/
structure All (P : List LogEntry → Prop) (s : LogViewModel) : Prop where
  value : ∀ entries, s.logEntries.value = some entries → P entries
  pendingData : ∀ entries, s.logEntries.pendingData = some (some entries) → P entries
  updated : ∀ entries, s.updated = some entries → P entries

theorem All.postValue {P : List LogEntry → Prop} {s : LogViewModel} (hs : s.All P)
    {entries : List LogEntry} (h : P entries) :
    ({ s with logEntries := s.logEntries.postValue (some entries) } : LogViewModel).All P :=
  ⟨hs.value, fun _ heq => by cases heq; exact h, hs.updated⟩

theorem All.postFromValue {P : List LogEntry → Prop} {s : LogViewModel} (hs : s.All P)
    {f : List LogEntry → List LogEntry} (hf : ∀ entries, P entries → P (f entries)) :
    (s.postFromValue f).All P := by
  rw [LogViewModel.postFromValue]
  split
  next => exact hs
  next entries heq => exact hs.postValue (hf entries (hs.value entries heq))

/-- A property of the lists that sorting gives, and that new types leave alone, is kept. -/
theorem All.step {P : List LogEntry → Prop}
    (hsort : ∀ sort entries, P (sortDnsRequests sort entries))
    (htype : ∀ host type entries, P entries → P (AdAway.updateLogEntryType host type entries))
    (hnil : P []) {s t : LogViewModel} {a : LogAction} (hs : s.All P) (h : stepLog s a = some t) :
    t.All P := by
  cases a with
  | readLogs logItems =>
    obtain ⟨-, rfl⟩ := by simpa [stepLog] using h
    exact ⟨hs.value, hs.pendingData, fun _ heq => by cases heq; exact hsort _ _⟩
  | postLogs =>
    obtain ⟨entries, hentries, rfl⟩ := Option.map_eq_some_iff.mp h
    have hposted := hs.postValue (hs.updated entries hentries)
    exact ⟨hposted.value, hposted.pendingData, nofun⟩
  | toggleSort =>
    cases h
    have hs' : ({ s with sort := s.sort.toggle } : LogViewModel).All P :=
      ⟨hs.value, hs.pendingData, hs.updated⟩
    exact hs'.postFromValue fun entries _ => hsort _ entries
  | updateLogEntryType host type =>
    cases h
    exact hs.postFromValue (htype host type)
  | clearLogs =>
    cases h
    exact hs.postValue hnil
  | setPosted =>
    obtain ⟨logEntries, hposted, rfl⟩ := Option.map_eq_some_iff.mp h
    obtain ⟨value, hpending, rfl⟩ := Option.map_eq_some_iff.mp hposted
    refine ⟨fun entries heq => hs.pendingData entries ?_, nofun, hs.updated⟩
    rw [hpending]
    exact congrArg some heq

/-- **What is shown is in one of the orders**, in every run. -/
theorem sorted_run {s : LogViewModel} {as : List LogAction}
    (h : ActionSystem.run stepLog create as = some s) {entries : List LogEntry}
    (hvalue : s.logEntries.value = some entries) : ∃ sort, InOrder sort entries := by
  have hcreate : create.All fun entries => ∃ sort, InOrder sort entries := ⟨nofun, nofun, nofun⟩
  have hall := ActionSystem.invariant_run
    (fun s a t (hs : s.All fun entries => ∃ sort, InOrder sort entries) hstep =>
      hs.step (fun sort entries => ⟨sort, pairwise_sortDnsRequests sort entries⟩)
        (fun host type entries ⟨sort, hsorted⟩ =>
          ⟨sort, pairwise_updateLogEntryType hsorted host type⟩)
        ⟨.alphabetical, List.Pairwise.nil⟩ hstep) hcreate h
  exact hall.value entries hvalue

/-- What is shown last, what was posted and what is to be posted is in the chosen order. -/
structure Current (s : LogViewModel) : Prop where
  value : s.logEntries.pendingData = none →
    ∀ entries, s.logEntries.value = some entries → InOrder s.sort entries
  pendingData : ∀ entries, s.logEntries.pendingData = some (some entries) → InOrder s.sort entries
  updated : ∀ entries, s.updated = some entries → InOrder s.sort entries

theorem Current.postValue {s : LogViewModel} {entries : List LogEntry}
    (h : InOrder s.sort entries)
    (hupdated : ∀ entries, s.updated = some entries → InOrder s.sort entries) :
    ({ s with logEntries := s.logEntries.postValue (some entries) } : LogViewModel).Current :=
  ⟨nofun, fun _ heq => by cases heq; exact h, hupdated⟩

/-- A step for which the user waits keeps the chosen order. -/
theorem Current.step {s t : LogViewModel} {a : LogAction} (hs : s.Current) (hwaits : Waits s a)
    (h : stepLog s a = some t) : t.Current := by
  cases a with
  | readLogs logItems =>
    obtain ⟨-, rfl⟩ := by simpa [stepLog] using h
    refine ⟨hs.value, hs.pendingData, fun _ heq => ?_⟩
    cases heq
    exact pairwise_sortDnsRequests s.sort logItems
  | postLogs =>
    obtain ⟨entries, hentries, rfl⟩ := Option.map_eq_some_iff.mp h
    have hposted := Current.postValue (hs.updated entries hentries) hs.updated
    exact ⟨nofun, hposted.pendingData, nofun⟩
  | toggleSort =>
    cases h
    obtain ⟨hupdated, hpending⟩ := hwaits
    rw [LogViewModel.postFromValue]
    split
    next hnone =>
      refine ⟨fun _ entries heq => ?_, fun entries heq => ?_, fun entries heq => ?_⟩
      · rw [hnone] at heq
        cases heq
      · exact absurd (hpending.symm.trans heq) nofun
      · exact absurd (hupdated.symm.trans heq) nofun
    next entries _ =>
      refine Current.postValue (pairwise_sortDnsRequests _ entries) fun entries heq => ?_
      exact absurd (hupdated.symm.trans heq) nofun
  | updateLogEntryType host type =>
    cases h
    rw [LogViewModel.postFromValue]
    split
    next => exact hs
    next entries heq =>
      have hsorted := pairwise_updateLogEntryType (hs.value hwaits entries heq) host type
      exact Current.postValue hsorted hs.updated
  | clearLogs =>
    cases h
    exact Current.postValue List.Pairwise.nil hs.updated
  | setPosted =>
    obtain ⟨logEntries, hposted, rfl⟩ := Option.map_eq_some_iff.mp h
    obtain ⟨value, hpending, rfl⟩ := Option.map_eq_some_iff.mp hposted
    refine ⟨fun _ entries heq => hs.pendingData entries ?_, nofun, hs.updated⟩
    rw [hpending]
    exact congrArg some heq

/-- **What is shown is in the chosen order** if the user waits. -/
theorem current_run {s : LogViewModel} {as : List LogAction}
    (hwaits : ActionSystem.StepsMeet stepLog Waits create as)
    (h : ActionSystem.run stepLog create as = some s) (hsettled : s.logEntries.pendingData = none)
    {entries : List LogEntry} (hvalue : s.logEntries.value = some entries) :
    InOrder s.sort entries := by
  have hcreate : create.Current := ⟨nofun, nofun, nofun⟩
  have hcurrent := ActionSystem.invariant_run_of_stepsMeet
    (fun _ _ _ hs hok hstep => Current.step hs hok hstep) hcreate hwaits h
  exact hcurrent.value hsettled entries hvalue

-- an update that began before the order was changed
example : (ActionSystem.run stepLog create
    [.readLogs [⟨"a.z", none⟩, ⟨"b.a", none⟩], .toggleSort, .postLogs, .setPosted]).map
      (fun s => (s.sort, s.logEntries.value)) =
    some (.alphabetical, some [⟨"b.a", none⟩, ⟨"a.z", none⟩]) := by
  decide

end LogViewModel

end AdAway
