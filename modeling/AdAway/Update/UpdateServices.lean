import AdAway.Library.ActionSystem
import Mathlib.Data.Nat.Notation

/-!
# The background checks for updates

The hosts sources and the application are checked for updates by periodic work, which the preferences
turn on and off. `SourceUpdateService` and `ApkUpdateService` enqueue and cancel it: when a row of the
preference screen is tapped, with the policy `UPDATE`, and when the application starts, with `KEEP`.

So a start brings work that is missing and cancels work that is not wanted, but it leaves work that is
there as it is. That is enough as long as the screen alone writes the preferences. A backup that is
restored writes them too: if it changes the network that the check may use, the work goes on using the
old one after the next start, until the row is tapped.

## What is left open

When the work runs. The screen shows what it has read when it was resumed last; there is one screen.
The platform restores a backup and then ends the process, so that nothing happens but further backups
until the application starts. `WorkManager` is a parameter, with what is documented of its policies.

## Main definitions

* `PeriodicWorkRequest`, `WorkManager` — the work
* `UpdateServices`, `stepUpdateServices` — the preferences, the work and the screen
* `Scheduled` — the work is what the preferences ask for
* `KeepsNetwork` — the condition on one step

## Main results

* `scheduled_iff` — in which runs the work is always what the preferences ask for
-/

namespace AdAway

/-! ### The work -/

/-- `androidx.work.NetworkType`: the networks that work may use. -/
inductive RequiredNetworkType
  | notRequired
  | connected
  | unmetered
  deriving DecidableEq, Repr

/-- A `PeriodicWorkRequest`, with the times in hours. -/
structure PeriodicWorkRequest where
  repeatInterval : ℕ
  initialDelay : ℕ
  requiredNetworkType : RequiredNetworkType
  requiresStorageNotLow : Bool
  deriving DecidableEq, Repr

/-- The policies for work that is enqueued already. -/
inductive ExistingPeriodicWorkPolicy
  | keep
  | update
  deriving DecidableEq, Repr

/-- The calls of `androidx.work.WorkManager`: what they make of the work of their name. -/
structure WorkManager where
  enqueueUniquePeriodicWork : Option PeriodicWorkRequest → ExistingPeriodicWorkPolicy →
    PeriodicWorkRequest → Option PeriodicWorkRequest
  cancelUniqueWork : Option PeriodicWorkRequest → Option PeriodicWorkRequest

/-- Work that is missing is enqueued. `KEEP` does nothing to work that is there, `UPDATE` gives it the
new request. -/
structure WorkManager.Lawful (workManager : WorkManager) : Prop where
  enqueue_none : ∀ policy workRequest,
    workManager.enqueueUniquePeriodicWork none policy workRequest = some workRequest
  enqueue_keep : ∀ work workRequest,
    workManager.enqueueUniquePeriodicWork (some work) .keep workRequest = some work
  enqueue_update : ∀ work workRequest,
    workManager.enqueueUniquePeriodicWork (some work) .update workRequest = some workRequest
  cancel : ∀ work, workManager.cancelUniqueWork work = none

theorem WorkManager.Lawful.update {workManager : WorkManager} (h : workManager.Lawful)
    (work : Option PeriodicWorkRequest) (workRequest : PeriodicWorkRequest) :
    workManager.enqueueUniquePeriodicWork work .update workRequest = some workRequest := by
  cases work with
  | none => exact h.enqueue_none .update workRequest
  | some work => exact h.enqueue_update work workRequest

/-- `SourceUpdateService.getWorkRequest`. -/
def sourceWorkRequest (unmeteredNetworkOnly : Bool) : PeriodicWorkRequest :=
  ⟨6, 3, if unmeteredNetworkOnly then .unmetered else .connected, true⟩

/-- The request of `ApkUpdateService.enqueueWork`. -/
def apkWorkRequest : PeriodicWorkRequest := ⟨24, 0, .notRequired, false⟩

/-- The preferences of the checks. -/
structure UpdatePreferences where
  updateCheckAppDaily : Bool
  updateCheckHostsDaily : Bool
  updateOnlyOnWifi : Bool
  deriving DecidableEq, Repr

/-- The defaults of `preferences.xml`. -/
def UpdatePreferences.default : UpdatePreferences := ⟨true, true, false⟩

/-- The work that the preferences ask for, of the sources. -/
def sourceWorkFor (preferences : UpdatePreferences) : Option PeriodicWorkRequest :=
  if preferences.updateCheckHostsDaily then some (sourceWorkRequest preferences.updateOnlyOnWifi)
  else none

/-- The work that the preferences ask for, of the application. -/
def apkWorkFor (preferences : UpdatePreferences) : Option PeriodicWorkRequest :=
  if preferences.updateCheckAppDaily then some apkWorkRequest else none

section Services

variable (workManager : WorkManager)

/-- `SourceUpdateService.syncPreferences`. -/
def syncSourcePreferences (preferences : UpdatePreferences) (work : Option PeriodicWorkRequest) :
    Option PeriodicWorkRequest :=
  if preferences.updateCheckHostsDaily then
    workManager.enqueueUniquePeriodicWork work .keep (sourceWorkRequest preferences.updateOnlyOnWifi)
  else workManager.cancelUniqueWork work

/-- `ApkUpdateService.syncPreferences`. -/
def syncApkPreferences (preferences : UpdatePreferences) (work : Option PeriodicWorkRequest) :
    Option PeriodicWorkRequest :=
  if preferences.updateCheckAppDaily then
    workManager.enqueueUniquePeriodicWork work .keep apkWorkRequest
  else workManager.cancelUniqueWork work

/-! ### The system -/

/-- The preferences, the work of each service, and what the screen shows. -/
structure UpdateServices where
  preferences : UpdatePreferences
  sourceWork : Option PeriodicWorkRequest
  apkWork : Option PeriodicWorkRequest
  screen : Option UpdatePreferences
  /-- The preferences with which the application has run last, from a restored backup to the next
  start. -/
  replaced : Option UpdatePreferences
  deriving DecidableEq

/-- What may happen next. -/
inductive UpdateServicesEvent
  /-- The application starts: the constructors of `SourceModel` and `UpdateModel`. -/
  | start
  /-- The screen is resumed: `reloadState`. -/
  | reloadState
  | leaveScreen
  /-- `onCheckAppDailyChanged`. -/
  | tapCheckAppDaily
  /-- `onCheckHostsDailyChanged`. -/
  | tapCheckHostsDaily
  /-- `onUpdateOnlyWifiChanged`. -/
  | tapUpdateOnlyOnWifi
  /-- A backup with these preferences is restored, and the process ends. -/
  | restore (preferences : UpdatePreferences)
  deriving DecidableEq

namespace UpdateServices

/-- Nothing is enqueued yet. -/
def installed : UpdateServices := ⟨.default, none, none, none, none⟩

/-- The application starts. -/
def start (s : UpdateServices) : UpdateServices :=
  { s with
    sourceWork := syncSourcePreferences workManager s.preferences s.sourceWork
    apkWork := syncApkPreferences workManager s.preferences s.apkWork
    screen := none
    replaced := none }

/-- The preferences with which the application runs, or has run last. -/
def lastRun (s : UpdateServices) : UpdatePreferences := s.replaced.getD s.preferences

/-- A backup is restored. -/
def restore (s : UpdateServices) (preferences : UpdatePreferences) : UpdateServices :=
  { s with preferences := preferences, screen := none, replaced := some s.lastRun }

/-- `onCheckAppDailyChanged`, of a screen that shows `shown`. -/
def onCheckAppDailyChanged (s : UpdateServices) (shown : UpdatePreferences) : UpdateServices :=
  let enabled := !shown.updateCheckAppDaily
  { s with
    screen := some { shown with updateCheckAppDaily := enabled }
    preferences := { s.preferences with updateCheckAppDaily := enabled }
    apkWork :=
      if enabled then workManager.enqueueUniquePeriodicWork s.apkWork .update apkWorkRequest
      else workManager.cancelUniqueWork s.apkWork }

/-- `onCheckHostsDailyChanged`, of a screen that shows `shown`. -/
def onCheckHostsDailyChanged (s : UpdateServices) (shown : UpdatePreferences) : UpdateServices :=
  let enabled := !shown.updateCheckHostsDaily
  { s with
    screen := some { shown with updateCheckHostsDaily := enabled }
    preferences := { s.preferences with updateCheckHostsDaily := enabled }
    sourceWork :=
      if enabled then
        workManager.enqueueUniquePeriodicWork s.sourceWork .update
          (sourceWorkRequest shown.updateOnlyOnWifi)
      else workManager.cancelUniqueWork s.sourceWork }

/-- `onUpdateOnlyWifiChanged`, of a screen that shows `shown`. -/
def onUpdateOnlyWifiChanged (s : UpdateServices) (shown : UpdatePreferences) : UpdateServices :=
  let enabled := !shown.updateOnlyOnWifi
  { s with
    screen := some { shown with updateOnlyOnWifi := enabled }
    preferences := { s.preferences with updateOnlyOnWifi := enabled }
    sourceWork :=
      workManager.enqueueUniquePeriodicWork s.sourceWork .update (sourceWorkRequest enabled) }

end UpdateServices

/-- One step. The row of the network is enabled while the screen shows that sources are checked. -/
def stepUpdateServices (s : UpdateServices) : UpdateServicesEvent → Option UpdateServices
  | .start => some (s.start workManager)
  | .reloadState => if s.replaced.isNone then some { s with screen := some s.preferences } else none
  | .leaveScreen => some { s with screen := none }
  | .tapCheckAppDaily => s.screen.map (s.onCheckAppDailyChanged workManager)
  | .tapCheckHostsDaily => s.screen.map (s.onCheckHostsDailyChanged workManager)
  | .tapUpdateOnlyOnWifi =>
    (s.screen.filter fun shown => shown.updateCheckHostsDaily).map
      (s.onUpdateOnlyWifiChanged workManager)
  | .restore preferences => some (s.restore preferences)

end Services

/-! ### What is scheduled -/

/-- While the application runs, the work is what the preferences ask for. -/
def Scheduled (s : UpdateServices) : Prop :=
  s.replaced = none → s.sourceWork = sourceWorkFor s.preferences ∧ s.apkWork = apkWorkFor s.preferences

/-- The work is what the preferences of the last run ask for. The screen shows the preferences, if it
is there. -/
structure ShownAndScheduled (s : UpdateServices) : Prop where
  sourceWork : s.sourceWork = sourceWorkFor s.lastRun
  apkWork : s.apkWork = apkWorkFor s.lastRun
  screen : ∀ shown ∈ s.screen, s.replaced = none ∧ shown = s.preferences

/-- When the application starts, the backups restored since it ran last have not changed the network
of a check that was on and still is. -/
def KeepsNetwork (s : UpdateServices) : UpdateServicesEvent → Prop
  | .start => s.lastRun.updateCheckHostsDaily = true → s.preferences.updateCheckHostsDaily = true →
      s.preferences.updateOnlyOnWifi = s.lastRun.updateOnlyOnWifi
  | _ => True

instance (s : UpdateServices) : (e : UpdateServicesEvent) → Decidable (KeepsNetwork s e)
  | .start => inferInstanceAs (Decidable (s.lastRun.updateCheckHostsDaily = true →
      s.preferences.updateCheckHostsDaily = true →
        s.preferences.updateOnlyOnWifi = s.lastRun.updateOnlyOnWifi))
  | .restore _ | .reloadState | .leaveScreen | .tapCheckAppDaily | .tapCheckHostsDaily
  | .tapUpdateOnlyOnWifi => isTrue trivial

section Steps

variable {workManager : WorkManager} {s t : UpdateServices}

theorem sourceWorkRequest_inj {a b : Bool} : sourceWorkRequest a = sourceWorkRequest b ↔ a = b := by
  cases a <;> cases b <;> decide

theorem ShownAndScheduled.scheduled (hs : ShownAndScheduled s) : Scheduled s := by
  intro hruns
  have hlast : s.lastRun = s.preferences := by rw [UpdateServices.lastRun, hruns, Option.getD_none]
  exact ⟨hlast ▸ hs.sourceWork, hlast ▸ hs.apkWork⟩

/-- A start brings or cancels the check of the application. -/
theorem syncApkPreferences_apkWorkFor (hwork : workManager.Lawful)
    (before preferences : UpdatePreferences) :
    syncApkPreferences workManager preferences (apkWorkFor before) = apkWorkFor preferences := by
  rw [syncApkPreferences, apkWorkFor, apkWorkFor]
  cases preferences.updateCheckAppDaily with
  | false => exact hwork.cancel _
  | true =>
    cases before.updateCheckAppDaily with
    | false => exact hwork.enqueue_none .keep apkWorkRequest
    | true => exact hwork.enqueue_keep apkWorkRequest apkWorkRequest

/-- A start keeps the check of the sources that is there. -/
theorem syncSourcePreferences_sourceWorkFor_iff (hwork : workManager.Lawful)
    (before preferences : UpdatePreferences) :
    syncSourcePreferences workManager preferences (sourceWorkFor before) = sourceWorkFor preferences ↔
      (before.updateCheckHostsDaily = true → preferences.updateCheckHostsDaily = true →
        preferences.updateOnlyOnWifi = before.updateOnlyOnWifi) := by
  rw [syncSourcePreferences, sourceWorkFor, sourceWorkFor]
  cases preferences.updateCheckHostsDaily with
  | false => simp [hwork.cancel]
  | true =>
    cases before.updateCheckHostsDaily with
    | false => simp [hwork.enqueue_none]
    | true => simp [hwork.enqueue_keep, sourceWorkRequest_inj, eq_comm]

theorem scheduled_start_iff (hwork : workManager.Lawful) (hs : ShownAndScheduled s) :
    Scheduled (s.start workManager) ↔ KeepsNetwork s .start := by
  have hapk := syncApkPreferences_apkWorkFor hwork s.lastRun s.preferences
  have hsource := syncSourcePreferences_sourceWorkFor_iff hwork s.lastRun s.preferences
  rw [← hs.apkWork] at hapk
  rw [← hs.sourceWork] at hsource
  exact ⟨fun h => hsource.mp (h rfl).1, fun h _ => ⟨hsource.mpr h, hapk⟩⟩

/-- **What one step does** to work that is what the preferences ask for. -/
theorem ShownAndScheduled.step (hwork : workManager.Lawful) {e : UpdateServicesEvent}
    (hs : ShownAndScheduled s) (hok : KeepsNetwork s e)
    (h : stepUpdateServices workManager s e = some t) : ShownAndScheduled t := by
  cases e with
  | start =>
    obtain rfl := Option.some.inj h
    obtain ⟨hsource, hapk⟩ := (scheduled_start_iff hwork hs).mpr hok rfl
    exact ⟨hsource, hapk, nofun⟩
  | reloadState =>
    obtain ⟨hruns, h⟩ := Option.ite_none_right_eq_some.mp h
    obtain rfl := Option.some.inj h
    exact ⟨hs.sourceWork, hs.apkWork, fun shown hshown =>
      ⟨Option.isNone_iff_eq_none.mp hruns, (Option.some.inj hshown).symm⟩⟩
  | leaveScreen =>
    obtain rfl := Option.some.inj h
    exact ⟨hs.sourceWork, hs.apkWork, nofun⟩
  | restore preferences =>
    obtain rfl := Option.some.inj h
    exact ⟨hs.sourceWork, hs.apkWork, nofun⟩
  | tapCheckAppDaily =>
    obtain ⟨shown, hshown, rfl⟩ := Option.map_eq_some_iff.mp h
    obtain ⟨hruns, rfl⟩ := hs.screen shown hshown
    obtain ⟨hsource, -⟩ := hs.scheduled hruns
    have hlast : (s.onCheckAppDailyChanged workManager s.preferences).lastRun
        = { s.preferences with updateCheckAppDaily := !s.preferences.updateCheckAppDaily } := by
      rw [UpdateServices.lastRun, UpdateServices.onCheckAppDailyChanged, hruns, Option.getD_none]
    refine ⟨hlast ▸ hsource, ?_, fun shown hshown => ⟨hruns, (Option.some.inj hshown).symm⟩⟩
    rw [hlast, UpdateServices.onCheckAppDailyChanged, apkWorkFor]
    dsimp only
    split
    · exact hwork.update s.apkWork apkWorkRequest
    · exact hwork.cancel s.apkWork
  | tapCheckHostsDaily =>
    obtain ⟨shown, hshown, rfl⟩ := Option.map_eq_some_iff.mp h
    obtain ⟨hruns, rfl⟩ := hs.screen shown hshown
    obtain ⟨-, hapk⟩ := hs.scheduled hruns
    have hlast : (s.onCheckHostsDailyChanged workManager s.preferences).lastRun
        = { s.preferences with updateCheckHostsDaily := !s.preferences.updateCheckHostsDaily } := by
      rw [UpdateServices.lastRun, UpdateServices.onCheckHostsDailyChanged, hruns, Option.getD_none]
    refine ⟨?_, hlast ▸ hapk, fun shown hshown => ⟨hruns, (Option.some.inj hshown).symm⟩⟩
    rw [hlast, UpdateServices.onCheckHostsDailyChanged, sourceWorkFor]
    dsimp only
    split
    · exact hwork.update s.sourceWork _
    · exact hwork.cancel s.sourceWork
  | tapUpdateOnlyOnWifi =>
    obtain ⟨shown, hfilter, rfl⟩ := Option.map_eq_some_iff.mp h
    obtain ⟨hshown, henabled⟩ := Option.filter_eq_some_iff.mp hfilter
    obtain ⟨hruns, rfl⟩ := hs.screen shown hshown
    obtain ⟨-, hapk⟩ := hs.scheduled hruns
    have hlast : (s.onUpdateOnlyWifiChanged workManager s.preferences).lastRun
        = { s.preferences with updateOnlyOnWifi := !s.preferences.updateOnlyOnWifi } := by
      rw [UpdateServices.lastRun, UpdateServices.onUpdateOnlyWifiChanged, hruns, Option.getD_none]
    refine ⟨?_, hlast ▸ hapk, fun shown hshown => ⟨hruns, (Option.some.inj hshown).symm⟩⟩
    -- the row is enabled only while the sources are checked
    rw [hlast, UpdateServices.onUpdateOnlyWifiChanged, sourceWorkFor, if_pos henabled]
    exact hwork.update s.sourceWork _

end Steps

/-- **The background checks follow the preferences.** In every state of a run from the first start of
the application in which it runs, each check is enqueued exactly if its preference is on, and for the
network of the preferences, exactly if no start follows on a backup that has changed the network of a
check that is on. -/
theorem scheduled_iff {workManager : WorkManager} (hwork : workManager.Lawful)
    {as : List UpdateServicesEvent} {u : UpdateServices}
    (h : ActionSystem.run (stepUpdateServices workManager) (UpdateServices.installed.start workManager)
      as = some u) :
    (∀ bs, bs <+: as → ∀ t,
      ActionSystem.run (stepUpdateServices workManager) (UpdateServices.installed.start workManager)
        bs = some t →
      t.replaced = none →
      t.sourceWork = sourceWorkFor t.preferences ∧ t.apkWork = apkWorkFor t.preferences) ↔
    ActionSystem.StepsMeet (stepUpdateServices workManager) KeepsNetwork
      (UpdateServices.installed.start workManager) as := by
  have hstart : ShownAndScheduled (UpdateServices.installed.start workManager) :=
    ⟨hwork.enqueue_none _ _, hwork.enqueue_none _ _, nofun⟩
  refine ActionSystem.stepsMeet_iff_forall_prefix_of (I := ShownAndScheduled) (P := Scheduled)
    (fun s hs => hs.scheduled) (fun s e t hs hok ht => hs.step hwork hok ht)
    (fun s e t hs ht hP => ?_) hstart h
  cases e with
  | start =>
    obtain rfl := Option.some.inj ht
    exact (scheduled_start_iff hwork hs).mp hP
  | _ => trivial

/-- A `WorkManager` with one work of each name. -/
def uniqueWorkManager : WorkManager where
  enqueueUniquePeriodicWork work policy workRequest :=
    match policy with
    | .keep => some (work.getD workRequest)
    | .update => some workRequest
  cancelUniqueWork _ := none

theorem lawful_uniqueWorkManager : uniqueWorkManager.Lawful where
  enqueue_none policy _ := by cases policy <;> rfl
  enqueue_keep _ _ := rfl
  enqueue_update _ _ := rfl
  cancel _ := rfl

/-- The network is changed on the screen, the check is turned off and on, and of two backups the last
one brings the same network. -/
def tappedEvents : List UpdateServicesEvent :=
  [.reloadState, .tapUpdateOnlyOnWifi, .tapCheckHostsDaily, .tapCheckHostsDaily,
    .restore ⟨true, true, false⟩, .restore ⟨false, true, true⟩, .start]

theorem scheduled_iff_tappedEvents : ∃ u,
    ActionSystem.run (stepUpdateServices uniqueWorkManager)
      (UpdateServices.installed.start uniqueWorkManager) tappedEvents = some u ∧
    u.sourceWork = some (sourceWorkRequest true) ∧ u.apkWork = none := by
  obtain ⟨u, hu⟩ : ∃ u, ActionSystem.run (stepUpdateServices uniqueWorkManager)
      (UpdateServices.installed.start uniqueWorkManager) tappedEvents = some u := ⟨_, rfl⟩
  have hruns : u.replaced = none := by
    obtain rfl := Option.some.inj hu
    rfl
  obtain ⟨hsource, hapk⟩ := (scheduled_iff lawful_uniqueWorkManager hu).mpr (by decide) tappedEvents
    (List.prefix_refl _) u hu hruns
  obtain rfl := Option.some.inj hu
  exact ⟨_, rfl, hsource, hapk⟩

end AdAway
