import AdAway.Library.ActionSystem
import Mathlib.Data.Finset.Basic
import Mathlib.Data.Finset.Image

/-!
# The applications that bypass the tunnel

When the tunnel is established, `VpnBuilder.excludeApplicationsFromVpn` goes through the applications
that are installed: a system application is excluded by a setting, another one if the preference has
its package name. A screen shows the applications of the user, and each tap writes the preference
anew, from what the screen shows.

So a tap forgets each package that the screen does not show, and the screen shows the applications
there were when it was opened. Yet no tap changes what was chosen for another application, as long as
that one stays installed.

## What is left open

The names and icons of the applications, and their order on the screen. There is one such screen. The
package manager lists an application once.

## Main definitions

* `excludeApplicationsFromVpn` — the applications that are excluded
* `VpnExclusions`, `stepExclusions` — the preferences, the applications and the screen
* `chosen` — what was chosen last

## Main results

* `excluded_iff` — which applications bypass a tunnel that is established after a run
-/

namespace AdAway

/-! ### The applications -/

/-- An `ApplicationInfo`, with the flag `FLAG_SYSTEM`. -/
structure ApplicationInfo where
  packageName : String
  isSystem : Bool
  deriving DecidableEq, Repr

/-- A `UserApp`. -/
structure UserApp where
  packageName : String
  excluded : Bool
  deriving DecidableEq, Repr

/-- The preferences, the applications that are installed, and the screen if it is open. -/
structure VpnExclusions where
  excludedApps : Finset String
  excludedSystemApps : String
  installedApplications : List ApplicationInfo
  userApplications : Option (List UserApp)

/-- The packages that `VpnBuilder.getWebBrowserPackageName` adds to those that open a link. -/
def webPackageNames : List String :=
  ["com.google.android.webview", "com.android.htmlviewer", "com.google.android.backuptransport",
    "com.google.android.gms", "com.google.android.gsf"]

/-- The setting excludes the system application; `browsers` are the packages that open a link. -/
def excludesSystemApp (setting : String) (browsers : List String) (packageName : String) : Bool :=
  setting = "all" ∨ setting = "allExceptBrowsers" ∧ packageName ∉ browsers ++ webPackageNames

/-- `VpnBuilder.excludeApplicationsFromVpn`: the packages that are passed to
`addDisallowedApplication`. -/
def excludeApplicationsFromVpn (self : String) (browsers : List String) (s : VpnExclusions) :
    List String :=
  (s.installedApplications.filter fun applicationInfo =>
    applicationInfo.packageName ≠ self ∧
      if applicationInfo.isSystem then
        excludesSystemApp s.excludedSystemApps browsers applicationInfo.packageName = true
      else applicationInfo.packageName ∈ s.excludedApps).map ApplicationInfo.packageName

/-! ### The screen -/

/-- What may happen next. -/
inductive ExclusionAction
  /-- `onCreate` of the screen. -/
  | open
  | close
  /-- `onToggleExcluded`, of a row of the screen. -/
  | toggleExcluded (packageName : String) (excluded : Bool)
  /-- `onSelectAll`. -/
  | selectAll
  /-- `onDeselectAll`. -/
  | deselectAll
  /-- `onExcludedSystemAppsChanged`. -/
  | excludedSystemAppsChanged (value : String)
  | install (applicationInfo : ApplicationInfo)
  | uninstall (packageName : String)
  deriving DecidableEq

namespace VpnExclusions

/-- `PrefsVpnExcludedAppsActivity.getUserApplications`, when it has not been called yet. -/
def getUserApplications (self : String) (s : VpnExclusions) : List UserApp :=
  (s.installedApplications.filter fun applicationInfo =>
    !applicationInfo.isSystem ∧ applicationInfo.packageName ≠ self).map fun applicationInfo =>
      ⟨applicationInfo.packageName, applicationInfo.packageName ∈ s.excludedApps⟩

/-- `excludeApplications` and `includeApplications`, of rows of the screen, with
`updatePreferences`. -/
def setExcluded (s : VpnExclusions) (applications : List UserApp) (selected : UserApp → Bool)
    (excluded : Bool) : VpnExclusions :=
  let applications := applications.map fun application =>
    if selected application then { application with excluded := excluded } else application
  { s with
    userApplications := some applications
    excludedApps :=
      ((applications.filter UserApp.excluded).map UserApp.packageName).toFinset }

end VpnExclusions

/-- One step. A row can be tapped while it is shown, and a package is installed once. -/
def stepExclusions (self : String) (s : VpnExclusions) : ExclusionAction → Option VpnExclusions
  | .open => some { s with userApplications := some (s.getUserApplications self) }
  | .close => some { s with userApplications := none }
  | .toggleExcluded packageName excluded =>
    s.userApplications.bind fun applications =>
      if packageName ∈ applications.map UserApp.packageName then
        some (s.setExcluded applications (fun application => application.packageName = packageName)
          excluded)
      else none
  | .selectAll =>
    s.userApplications.map fun applications => s.setExcluded applications (fun _ => true) true
  | .deselectAll =>
    s.userApplications.map fun applications => s.setExcluded applications (fun _ => true) false
  | .excludedSystemAppsChanged value => some { s with excludedSystemApps := value }
  | .install applicationInfo =>
    if applicationInfo.packageName ∈ s.installedApplications.map ApplicationInfo.packageName then none
    else some { s with installedApplications := s.installedApplications ++ [applicationInfo] }
  | .uninstall packageName =>
    some { s with installedApplications := s.installedApplications.filter fun applicationInfo =>
      applicationInfo.packageName ≠ packageName }

/-! ### What was chosen -/

/-- Whether a package is to be excluded after an action: what was chosen for it, or for all. -/
def chosen (packageName : String) (excluded : Bool) : ExclusionAction → Bool
  | .toggleExcluded tapped value => if tapped = packageName then value else excluded
  | .selectAll => true
  | .deselectAll => false
  | .open | .close | .excludedSystemAppsChanged _ | .install _ | .uninstall _ => excluded

/-- The application of the user is installed, and the preference and the screen have what was
chosen. -/
structure Follows (packageName : String) (excluded : Bool) (s : VpnExclusions) : Prop where
  installed : ∀ isSystem, ⟨packageName, isSystem⟩ ∈ s.installedApplications ↔ isSystem = false
  preference : packageName ∈ s.excludedApps ↔ excluded = true
  screen : ∀ applications ∈ s.userApplications, ∀ value,
    ⟨packageName, value⟩ ∈ applications ↔ value = excluded

section Steps

variable {self packageName : String} {excluded : Bool} {s t : VpnExclusions}

theorem mem_getUserApplications (hself : packageName ≠ self)
    (hs : Follows packageName excluded s) (value : Bool) :
    ⟨packageName, value⟩ ∈ s.getUserApplications self ↔ value = excluded := by
  rw [VpnExclusions.getUserApplications, List.mem_map]
  constructor
  · rintro ⟨applicationInfo, -, heq⟩
    obtain ⟨rfl, rfl⟩ := UserApp.mk.inj heq
    exact Bool.eq_iff_iff.mpr (decide_eq_true_iff.trans hs.preference)
  · rintro rfl
    refine ⟨⟨packageName, false⟩, List.mem_filter.mpr ⟨(hs.installed false).mpr rfl, ?_⟩, ?_⟩
    · exact decide_eq_true ⟨rfl, hself⟩
    · rw [UserApp.mk.injEq]
      exact ⟨rfl, Bool.eq_iff_iff.mpr (decide_eq_true_iff.trans hs.preference)⟩

/-- A tap writes what the screen shows. -/
theorem Follows.setExcluded (hs : Follows packageName excluded s)
    {applications : List UserApp} (hscreen : s.userApplications = some applications)
    (selected : UserApp → Bool) (value : Bool) :
    Follows packageName (if selected ⟨packageName, excluded⟩ then value else excluded)
      (s.setExcluded applications selected value) := by
  have hshown := hs.screen applications hscreen
  have hmem : ∀ b, ⟨packageName, b⟩ ∈ applications.map (fun application =>
      if selected application then { application with excluded := value } else application) ↔
      b = if selected ⟨packageName, excluded⟩ then value else excluded := by
    intro b
    rw [List.mem_map]
    constructor
    · rintro ⟨⟨name, shown⟩, happlication, heq⟩
      have hname : name = packageName := by
        split at heq <;> exact congrArg UserApp.packageName heq
      subst hname
      obtain rfl := (hshown shown).mp happlication
      split at heq
      next h => rw [if_pos h]; exact (congrArg UserApp.excluded heq).symm
      next h => rw [if_neg h]; exact (congrArg UserApp.excluded heq).symm
    · rintro rfl
      refine ⟨⟨packageName, excluded⟩, (hshown excluded).mpr rfl, ?_⟩
      split <;> rfl
  refine ⟨hs.installed, ?_, ?_⟩
  · rw [VpnExclusions.setExcluded, List.mem_toFinset, List.mem_map]
    constructor
    · rintro ⟨⟨name, b⟩, happlication, rfl⟩
      obtain ⟨happlication, hb⟩ := List.mem_filter.mp happlication
      exact ((hmem b).mp happlication).symm.trans hb
    · intro hchosen
      exact ⟨⟨packageName, true⟩, List.mem_filter.mpr ⟨(hmem true).mpr hchosen.symm, rfl⟩, rfl⟩
  · intro applications' happlications'
    obtain rfl := Option.some.inj happlications'
    exact hmem

/-- **One step**, while the application stays installed. -/
theorem Follows.step (hself : packageName ≠ self) (hs : Follows packageName excluded s)
    {a : ExclusionAction} (hkept : a ≠ .uninstall packageName)
    (h : stepExclusions self s a = some t) :
    Follows packageName (chosen packageName excluded a) t := by
  cases a with
  | «open» =>
    obtain rfl := Option.some.inj h
    refine ⟨hs.installed, hs.preference, fun applications happlications => ?_⟩
    obtain rfl := Option.some.inj happlications
    exact mem_getUserApplications hself hs
  | close =>
    obtain rfl := Option.some.inj h
    exact ⟨hs.installed, hs.preference, nofun⟩
  | toggleExcluded tapped value =>
    obtain ⟨applications, hscreen, h⟩ := Option.bind_eq_some_iff.mp h
    obtain ⟨-, h⟩ := Option.ite_none_right_eq_some.mp h
    obtain rfl := Option.some.inj h
    have hchosen : chosen packageName excluded (.toggleExcluded tapped value)
        = if decide (packageName = tapped) then value else excluded := by
      by_cases heq : packageName = tapped
      · rw [chosen, if_pos heq.symm, if_pos (decide_eq_true heq)]
      · rw [chosen, if_neg (Ne.symm heq), if_neg (by simp [heq])]
    rw [hchosen]
    exact hs.setExcluded hscreen (fun application => application.packageName = tapped) value
  | selectAll =>
    obtain ⟨applications, hscreen, rfl⟩ := Option.map_eq_some_iff.mp h
    exact hs.setExcluded hscreen (fun _ => true) true
  | deselectAll =>
    obtain ⟨applications, hscreen, rfl⟩ := Option.map_eq_some_iff.mp h
    exact hs.setExcluded hscreen (fun _ => true) false
  | excludedSystemAppsChanged value =>
    obtain rfl := Option.some.inj h
    exact ⟨hs.installed, hs.preference, hs.screen⟩
  | install applicationInfo =>
    obtain ⟨hnew, h⟩ := Option.ite_none_left_eq_some.mp h
    obtain rfl := Option.some.inj h
    refine ⟨fun isSystem => ?_, hs.preference, hs.screen⟩
    have hother : ⟨packageName, isSystem⟩ ≠ applicationInfo := by
      rintro rfl
      exact hnew (List.mem_map.mpr ⟨_, (hs.installed false).mpr rfl, rfl⟩)
    rw [List.mem_append, List.mem_singleton, hs.installed isSystem]
    exact or_iff_left hother
  | uninstall removed =>
    obtain rfl := Option.some.inj h
    refine ⟨fun isSystem => ?_, hs.preference, hs.screen⟩
    have hother : packageName ≠ removed := fun heq => hkept (heq ▸ rfl)
    rw [List.mem_filter, hs.installed isSystem]
    exact and_iff_left (decide_eq_true hother)

/-- A package is listed once. -/
theorem nodup_step {a : ExclusionAction}
    (hs : (s.installedApplications.map ApplicationInfo.packageName).Nodup)
    (h : stepExclusions self s a = some t) :
    (t.installedApplications.map ApplicationInfo.packageName).Nodup := by
  cases a with
  | «open» | close | excludedSystemAppsChanged =>
    obtain rfl := Option.some.inj h
    exact hs
  | toggleExcluded =>
    obtain ⟨applications, -, h⟩ := Option.bind_eq_some_iff.mp h
    obtain ⟨-, h⟩ := Option.ite_none_right_eq_some.mp h
    obtain rfl := Option.some.inj h
    exact hs
  | selectAll | deselectAll =>
    obtain ⟨applications, -, rfl⟩ := Option.map_eq_some_iff.mp h
    exact hs
  | install applicationInfo =>
    obtain ⟨hnew, h⟩ := Option.ite_none_left_eq_some.mp h
    obtain rfl := Option.some.inj h
    rw [List.map_append, List.map_singleton, ← List.concat_eq_append]
    exact List.Nodup.concat hnew hs
  | uninstall =>
    obtain rfl := Option.some.inj h
    exact hs.sublist (List.filter_sublist.map _)

theorem mem_excludeApplicationsFromVpn_iff {browsers : List String}
    (hinstalled : (s.installedApplications.map ApplicationInfo.packageName).Nodup)
    {applicationInfo : ApplicationInfo} (hmem : applicationInfo ∈ s.installedApplications) :
    applicationInfo.packageName ∈ excludeApplicationsFromVpn self browsers s ↔
      applicationInfo.packageName ≠ self ∧
        if applicationInfo.isSystem then
          excludesSystemApp s.excludedSystemApps browsers applicationInfo.packageName = true
        else applicationInfo.packageName ∈ s.excludedApps := by
  rw [excludeApplicationsFromVpn, List.mem_map]
  constructor
  · rintro ⟨other, hother, hname⟩
    obtain ⟨hother, hexcluded⟩ := List.mem_filter.mp hother
    obtain rfl := List.inj_on_of_nodup_map hinstalled hother hmem hname
    exact of_decide_eq_true hexcluded
  · intro hexcluded
    exact ⟨applicationInfo, List.mem_filter.mpr ⟨hmem, decide_eq_true hexcluded⟩, rfl⟩

theorem Follows.run (hself : packageName ≠ self) {as : List ExclusionAction}
    (hkept : .uninstall packageName ∉ as) (hs : Follows packageName excluded s)
    (h : ActionSystem.run (stepExclusions self) s as = some t) :
    Follows packageName (as.foldl (chosen packageName) excluded) t := by
  induction as generalizing s excluded with
  | nil =>
    obtain rfl := Option.some.inj h
    exact hs
  | cons a as ih =>
    obtain ⟨u, hstep, hrun⟩ := ActionSystem.run_cons_eq_some.mp h
    rw [List.mem_cons, not_or] at hkept
    exact ih hkept.2 (hs.step hself (Ne.symm hkept.1) hstep) hrun

end Steps

/-- **Which applications bypass the tunnel**, if it is established after a run. An application of the
user that stays installed is excluded exactly if the last tap that concerned it excluded it, or without
such a tap if it was at first, whatever was tapped for others and whichever of these came or went. A
system application is excluded by the setting alone, and the application itself never is. -/
theorem excluded_iff {self : String} (browsers : List String) {s t : VpnExclusions}
    (hinstalled : (s.installedApplications.map ApplicationInfo.packageName).Nodup)
    (hscreen : s.userApplications = none) {as : List ExclusionAction}
    (h : ActionSystem.run (stepExclusions self) s as = some t) :
    (∀ packageName, ⟨packageName, false⟩ ∈ s.installedApplications → packageName ≠ self →
      .uninstall packageName ∉ as →
      (packageName ∈ excludeApplicationsFromVpn self browsers t ↔
        as.foldl (chosen packageName) (packageName ∈ s.excludedApps) = true)) ∧
    (∀ packageName, ⟨packageName, true⟩ ∈ t.installedApplications → packageName ≠ self →
      (packageName ∈ excludeApplicationsFromVpn self browsers t ↔
        excludesSystemApp t.excludedSystemApps browsers packageName = true)) ∧
    self ∉ excludeApplicationsFromVpn self browsers t := by
  have hnodup : (t.installedApplications.map ApplicationInfo.packageName).Nodup :=
    ActionSystem.invariant_run
      (I := fun s => (s.installedApplications.map ApplicationInfo.packageName).Nodup)
      (fun _ _ _ => nodup_step) hinstalled h
  refine ⟨fun packageName hmem hself hkept => ?_, fun packageName hmem hself => ?_, ?_⟩
  · have hs : Follows packageName (packageName ∈ s.excludedApps) s := by
      refine ⟨fun isSystem => ⟨fun hmem' => ?_, ?_⟩, decide_eq_true_iff.symm, ?_⟩
      · exact congrArg ApplicationInfo.isSystem (List.inj_on_of_nodup_map hinstalled hmem' hmem rfl)
      · rintro rfl
        exact hmem
      · simp [hscreen]
    have ht := hs.run hself hkept h
    rw [mem_excludeApplicationsFromVpn_iff hnodup ((ht.installed false).mpr rfl)]
    exact (and_iff_right hself).trans ht.preference
  · rw [mem_excludeApplicationsFromVpn_iff hnodup hmem]
    exact and_iff_right hself
  · intro hself
    obtain ⟨applicationInfo, hfilter, heq⟩ := List.mem_map.mp hself
    exact (of_decide_eq_true (List.mem_filter.mp hfilter).2).1 heq

/-- A device with two applications of the user, one of which has been excluded, and a browser of the
system. -/
def excludingDevice : VpnExclusions where
  excludedApps := {"com.example.mail"}
  excludedSystemApps := "allExceptBrowsers"
  installedApplications := [⟨"com.example.mail", false⟩, ⟨"com.example.bank", false⟩,
    ⟨"com.example.browser", true⟩, ⟨"com.example.dialer", true⟩, ⟨"org.adaway", false⟩]
  userApplications := none

/-- All are excluded, one is included again, and an application is installed. -/
def exclusionActions : List ExclusionAction :=
  [.open, .selectAll, .toggleExcluded "com.example.mail" false,
    .install ⟨"com.example.game", false⟩, .close]

theorem excluded_iff_exclusionActions : ∃ t,
    ActionSystem.run (stepExclusions "org.adaway") excludingDevice exclusionActions = some t ∧
    "com.example.bank" ∈ excludeApplicationsFromVpn "org.adaway" ["com.example.browser"] t ∧
    "com.example.mail" ∉ excludeApplicationsFromVpn "org.adaway" ["com.example.browser"] t ∧
    "com.example.dialer" ∈ excludeApplicationsFromVpn "org.adaway" ["com.example.browser"] t ∧
    "org.adaway" ∉ excludeApplicationsFromVpn "org.adaway" ["com.example.browser"] t := by
  obtain ⟨t, ht⟩ : ∃ t, ActionSystem.run (stepExclusions "org.adaway") excludingDevice
    exclusionActions = some t := ⟨_, rfl⟩
  obtain ⟨huser, hsystem, hself⟩ :=
    excluded_iff ["com.example.browser"] (by decide) rfl ht
  refine ⟨t, ht, ?_, ?_, ?_, hself⟩
  · exact (huser "com.example.bank" (by decide) (by decide) (by decide)).mpr (by decide)
  · exact fun hmem => absurd
      ((huser "com.example.mail" (by decide) (by decide) (by decide)).mp hmem) (by decide)
  · obtain rfl := Option.some.inj ht
    exact (hsystem "com.example.dialer" (by decide) (by decide)).mpr (by decide)

end AdAway
