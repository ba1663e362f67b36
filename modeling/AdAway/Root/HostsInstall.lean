import AdAway.Root.HostsLookup

/-!
# Installing the hosts file

`RootModel.apply` writes a hosts file to private storage and copies it over `/system/etc/hosts` with
root commands; `revert` does the same with the default file. The partition is remounted for writing
if it has to be, and remounted read-only afterwards, also when something is thrown.

The commands `dd`, `chown` and `chmod` run in one shell job, whose result is the code of its last
command. So a copy is reported as done when `chmod` succeeds, whatever `dd` has left.

When the application starts, `checkApplied` looks for the header in the first line of the installed
file, on a thread of its own: it reads first and posts later.

## What is left open

The free space, the mount points, what each command does, and when the private file cannot be
written. The messages of the exceptions and the states posted on the way are left out.

## Main definitions

* `findPartition`, `copyHostsFile`, `RootModel.apply`, `RootModel.revert`, `stepRoot`
* `CopyRun.Honest` — the result of the job is the one of `dd`
* `InSync` — what is posted agrees with the installed file

## Main results

* `apply_outcomes` — each result of `apply`, and what it leaves
* `inSync_run` — what is posted agrees with the file in a run
* `apply_after_sync` — what the installed file answers for
-/

namespace AdAway

/-! ### The device -/

/-- The hosts file and whether its partition is mounted for writing. -/
structure HostsDevice where
  hosts : String
  writable : Bool
  deriving DecidableEq, Repr

/-- The paths of `/system/etc/hosts` and its parents. -/
def hostsPaths : List String := ["/system/etc/hosts", "/system/etc", "/system", "/"]

/-- `ShellUtils.findPartition`. -/
def findPartition (mounts : List String) : Option String :=
  hostsPaths.findSome? fun path => mounts.find? fun mount => path = mount

/-- What the device and the shell do during `copyHostsFile`. -/
structure CopyRun where
  freeSpace : ℕ
  /-- The mount points of `/proc/mounts`. -/
  mounts : List String
  /-- `mount -o rw,remount` succeeds. -/
  remountsReadWrite : Bool
  /-- What `dd` leaves, if it fails. -/
  ddLeaves : Option String
  /-- `chmod` succeeds. -/
  chmod : Bool
  /-- `mount -o ro,remount` succeeds. -/
  remountsReadOnly : Bool
  deriving DecidableEq, Repr

/-- `ShellUtils.remountPartition`. -/
def remountPartition (mounts : List String) (succeeds : Bool) : Bool :=
  (findPartition mounts).isSome && succeeds

/-- What `copyHostsFile` throws. -/
inductive CopyException
  /-- `HostErrorException` with `NOT_ENOUGH_SPACE`. -/
  | notEnoughSpace
  /-- `CommandException`. -/
  | command
  deriving DecidableEq, Repr

namespace CopyRun

/-- `RootModel.hasEnoughSpaceOnPartition`. -/
def hasEnoughSpace (r : CopyRun) (content : String) : Bool :=
  r.freeSpace = 0 ∨ content.utf8ByteSize < r.freeSpace

/-- The file can be written, after a remount if need be. -/
def canWrite (r : CopyRun) (d : HostsDevice) : Bool :=
  d.writable || remountPartition r.mounts r.remountsReadWrite

/-- The `try` of `copyHostsFile`: what is thrown, and the device. -/
def tryCopy (r : CopyRun) (content : String) (d : HostsDevice) :
    Option CopyException × HostsDevice :=
  if !d.writable && !remountPartition r.mounts r.remountsReadWrite then (some .command, d)
  else
    let hosts := r.ddLeaves.getD content
    (if r.chmod then none else some .command, ⟨hosts, true⟩)

/-- `RootModel.copyHostsFile`, for a private file of this content. -/
def copyHostsFile (r : CopyRun) (content : String) (d : HostsDevice) :
    Option CopyException × HostsDevice :=
  if !r.hasEnoughSpace content then (some .notEnoughSpace, d)
  else
    let writable := d.writable
    let (exception, d) := r.tryCopy content d
    if !writable && remountPartition r.mounts r.remountsReadOnly then
      (exception, { d with writable := false })
    else (exception, d)

end CopyRun

/-! ### The model -/

/-- The errors of the installation. -/
inductive HostError
  | privateFileFailed
  | notEnoughSpace
  | copyFail
  | revertFail
  deriving DecidableEq, Repr

/-- What `createNewHostsFile` writes. -/
structure HostsContent where
  date : DateFields
  sources : List HostsSource
  preferences : RedirectionPreferences
  entries : List HostEntry

/-- The file. -/
def HostsContent.text (content : HostsContent) : String :=
  createNewHostsFile content.date content.sources content.preferences content.entries

/-- The file of `RootModel.revertHostFile`. -/
def defaultHosts : String :=
  localhostIpv4 ++ " " ++ localhostHostname ++ "\n" ++
    (localhostIpv6 ++ " " ++ localhostHostname ++ "\n")

/-- The fields of `RootModel`, and the files. -/
structure RootModel where
  device : HostsDevice
  /-- The private file of `apply`. -/
  hostsFile : Option String
  /-- The private file of `revert`. -/
  defaultHostsFile : Option String
  /-- What was posted last, if anything. -/
  applied : Option Bool
  /-- What `checkApplied` has read and not posted yet. -/
  checked : Option Bool

namespace RootModel

/-- `RootModel.apply`. The private file may be left incomplete, with this text. -/
def apply (content : HostsContent) (incomplete : Option (Option String)) (copy : CopyRun)
    (s : RootModel) : Option HostError × RootModel :=
  match incomplete with
  | some hostsFile => (some .privateFileFailed, { s with hostsFile := hostsFile })
  | none =>
    let s := { s with hostsFile := some content.text }
    let (exception, device) := copy.copyHostsFile content.text s.device
    match exception with
    | none => (none, { s with device := device, applied := some true })
    | some .notEnoughSpace => (some .notEnoughSpace, { s with device := device })
    | some .command => (some .copyFail, { s with device := device })

/-- `RootModel.revert`. The private file may be left incomplete, with this text. -/
def revert (incomplete : Option (Option String)) (copy : CopyRun) (s : RootModel) :
    Option HostError × RootModel :=
  match incomplete with
  | some hostsFile => (some .revertFail, { s with defaultHostsFile := hostsFile })
  | none =>
    let s := { s with defaultHostsFile := some defaultHosts }
    let (exception, device) := copy.copyHostsFile defaultHosts s.device
    match exception with
    | none =>
      (none, { s with device := device, defaultHostsFile := none, applied := some false })
    | some _ => (some .revertFail, { s with device := device })

/-- The first line starts with `HEADER1`. -/
def startsWithHeader (hosts : String) : Bool :=
  header1.toList.isPrefixOf (hosts.toList.takeWhile fun c => c ≠ '\n')

end RootModel

/-- What may happen next. -/
inductive RootAction
  /-- The application starts and creates the model. -/
  | create
  /-- `checkApplied` runs `head`, which may fail. -/
  | head (succeeds : Bool)
  /-- `checkApplied` posts what it has read. -/
  | postChecked
  | apply (content : HostsContent) (incomplete : Option (Option String)) (copy : CopyRun)
  | revert (incomplete : Option (Option String)) (copy : CopyRun)

/-- One step. -/
def stepRoot (s : RootModel) : RootAction → Option RootModel
  | .create => some { s with applied := none, checked := none }
  | .head succeeds =>
    some { s with checked := some (succeeds && RootModel.startsWithHeader s.device.hosts) }
  | .postChecked => s.checked.map fun applied => { s with applied := some applied, checked := none }
  | .apply content incomplete copy => some (s.apply content incomplete copy).2
  | .revert incomplete copy => some (s.revert incomplete copy).2

/-! ### One call -/

/-- The partition that is found holds the file, and no mount point between them does. -/
theorem findPartition_eq_some {mounts : List String} {partition : String}
    (h : findPartition mounts = some partition) :
    partition ∈ mounts ∧ ∃ inner outer, hostsPaths = inner ++ partition :: outer ∧
      ∀ path ∈ inner, path ∉ mounts := by
  obtain ⟨inner, path, outer, heq, hfound, hinner⟩ := List.findSome?_eq_some_iff.mp h
  obtain rfl : path = partition := by simpa using List.find?_some hfound
  refine ⟨List.mem_of_find?_eq_some hfound, inner, outer, heq, fun path hpath hmem => ?_⟩
  exact List.find?_eq_none.mp (hinner path hpath) path hmem (by simp)

namespace CopyRun

/-- **What a copy can do**: nothing, or one run of `dd`. -/
theorem copyHostsFile_eq (r : CopyRun) (content : String) (d : HostsDevice) :
    r.copyHostsFile content d =
      if r.hasEnoughSpace content then
        if r.canWrite d then
          (if r.chmod then none else some .command,
            ⟨r.ddLeaves.getD content,
              d.writable || !remountPartition r.mounts r.remountsReadOnly⟩)
        else (some .command, d)
      else (some .notEnoughSpace, d) := by
  obtain ⟨hosts, writable⟩ := d
  rw [copyHostsFile, tryCopy, canWrite]
  cases r.hasEnoughSpace content with
  | false => rfl
  | true =>
    cases writable with
    | true => rfl
    | false =>
      cases remountPartition r.mounts r.remountsReadWrite with
      | false => cases remountPartition r.mounts r.remountsReadOnly <;> rfl
      | true => cases remountPartition r.mounts r.remountsReadOnly <;> rfl

/-- The job reports what `dd` does, and a `dd` that fails changes nothing. -/
def Honest (r : CopyRun) (d : HostsDevice) : Prop :=
  (r.chmod = true → r.ddLeaves = none) ∧ (r.chmod = false → r.ddLeaves = some d.hosts)

end CopyRun

/-- **The results of `apply`.** It returns exactly if the private file is written, there is space, the
partition can be written and `chmod` succeeds; each error stands for the first of these that fails.
The installed file changes only when `dd` runs, into what `dd` leaves, and the partition is left
writable only if it was before or the last remount fails. -/
theorem apply_outcomes (s : RootModel) (content : HostsContent)
    (incomplete : Option (Option String)) (copy : CopyRun) :
    let result := s.apply content incomplete copy
    let space := copy.hasEnoughSpace content.text = true
    let write := copy.canWrite s.device = true
    (result.1 = none ↔ incomplete = none ∧ space ∧ write ∧ copy.chmod = true) ∧
    (result.1 = some .privateFileFailed ↔ incomplete ≠ none) ∧
    (result.1 = some .notEnoughSpace ↔ incomplete = none ∧ ¬ space) ∧
    (result.1 = some .copyFail ↔
      incomplete = none ∧ space ∧ (write → copy.chmod = false)) ∧
    result.2.device.hosts = (if incomplete = none ∧ space ∧ write then
      copy.ddLeaves.getD content.text else s.device.hosts) ∧
    result.2.device.writable = (s.device.writable ||
      decide (incomplete = none ∧ space ∧ write) &&
        !remountPartition copy.mounts copy.remountsReadOnly) ∧
    result.2.applied = if result.1 = none then some true else s.applied := by
  intro result space write
  have hresult : result = s.apply content incomplete copy := rfl
  cases incomplete with
  | some hostsFile => simp [hresult, RootModel.apply]
  | none =>
    rw [RootModel.apply, CopyRun.copyHostsFile_eq] at hresult
    by_cases hspace : space
    · rw [if_pos hspace] at hresult
      by_cases hwrite : write
      · rw [if_pos hwrite] at hresult
        cases hchmod : copy.chmod <;> simp [hresult, hchmod, hspace, hwrite]
      · rw [if_neg hwrite] at hresult
        simp [hresult, hspace, hwrite]
    · rw [if_neg hspace] at hresult
      simp [hresult, hspace]

/-! ### Runs -/

/-- What stands in the installed file. -/
inductive InstalledFile
  /-- What was there before. -/
  | found (hosts : String)
  | default
  | generated (content : HostsContent)

namespace InstalledFile

/-- The text of the file. -/
def text : InstalledFile → String
  | .found hosts => hosts
  | .default => defaultHosts
  | .generated content => content.text

/-- What is to be posted for the file. -/
def isApplied : InstalledFile → Bool
  | .found hosts => RootModel.startsWithHeader hosts
  | .default => false
  | .generated _ => true

end InstalledFile

/-- The file that a call installs, if it returns. -/
def RootModel.installs (s : RootModel) : RootAction → Option InstalledFile
  | .apply content incomplete copy =>
    if (s.apply content incomplete copy).1 = none then some (.generated content) else none
  | .revert incomplete copy => if (s.revert incomplete copy).1 = none then some .default else none
  | _ => none

/-- A step, and the file of the last call that returned. -/
def stepInstall : RootModel × InstalledFile → RootAction → Option (RootModel × InstalledFile)
  | (s, file), a => (stepRoot s a).map fun t => (t, (s.installs a).getD file)

/-- The job reports what `dd` does, and the partition is remounted. -/
structure CopyRun.Reliable (r : CopyRun) (d : HostsDevice) : Prop where
  honest : r.Honest d
  remountsReadOnly : remountPartition r.mounts r.remountsReadOnly = true

/-- Copies are reliable, `head` succeeds, and no call runs while a check is under way. -/
def ReliableStep : RootModel × InstalledFile → RootAction → Prop
  | _, .head succeeds => succeeds = true
  | (s, _), .apply _ _ copy => copy.Reliable s.device ∧ s.checked = none
  | (s, _), .revert _ copy => copy.Reliable s.device ∧ s.checked = none
  | _, _ => True

/-- The file is the one of the last call that returned, and what is read of it and posted is what it
is. -/
structure InSync (writable : Bool) (s : RootModel) (file : InstalledFile) : Prop where
  device : s.device = ⟨file.text, writable⟩
  applied : ∀ applied, s.applied = some applied → applied = file.isApplied
  checked : ∀ applied, s.checked = some applied → applied = file.isApplied

section Runs

variable {s t : RootModel} {file : InstalledFile} {writable : Bool}

/-- An honest copy installs the file or changes nothing. -/
theorem CopyRun.Honest.hosts {r : CopyRun} {d : HostsDevice} (h : r.Honest d) (content : String) :
    (r.copyHostsFile content d).2.hosts =
      if (r.copyHostsFile content d).1 = none then content else d.hosts := by
  rw [copyHostsFile_eq]
  by_cases hspace : r.hasEnoughSpace content = true
  · rw [if_pos hspace]
    by_cases hwrite : r.canWrite d = true
    · rw [if_pos hwrite]
      cases hchmod : r.chmod with
      | true => simp [h.1 hchmod]
      | false => simp [h.2 hchmod]
    · rw [if_neg hwrite]
      rfl
  · rw [if_neg hspace]
    rfl

theorem CopyRun.Reliable.device {r : CopyRun} {d : HostsDevice} (h : r.Reliable d) (content : String) :
    (r.copyHostsFile content d).2 =
      ⟨if (r.copyHostsFile content d).1 = none then content else d.hosts, d.writable⟩ := by
  have hwritable : (r.copyHostsFile content d).2.writable = d.writable := by
    rw [copyHostsFile_eq, h.remountsReadOnly, Bool.not_true, Bool.or_false]
    split
    · split <;> rfl
    · rfl
  rw [← h.honest.hosts content, ← hwritable]

/-- The first line of a generated file starts with the header. -/
theorem startsWithHeader_text (content : HostsContent) :
    RootModel.startsWithHeader content.text = true := by
  have hend : '\n' ∉ header1.toList := by decide
  have hline : ∀ c ∈ header1.toList, c ≠ '\n' := fun c hc heq => hend (heq ▸ hc)
  obtain ⟨rest, htext⟩ : ∃ rest, content.text.toList = header1.toList ++ rest := by
    rw [HostsContent.text, createNewHostsFile, writeHostsHeader]
    simp only [List.cons_append, List.map_cons, String.join_cons, String.toList_append,
      List.append_assoc]
    exact ⟨_, rfl⟩
  rw [RootModel.startsWithHeader, htext, List.takeWhile_append_of_pos (by simpa using hline),
    List.isPrefixOf_iff_prefix]
  exact List.prefix_append _ _

theorem startsWithHeader_isApplied (file : InstalledFile) :
    RootModel.startsWithHeader file.text = file.isApplied := by
  cases file with
  | found hosts => rfl
  | default => decide
  | generated content => exact startsWithHeader_text content

theorem InSync.apply (hs : InSync writable s file) (content : HostsContent)
    (incomplete : Option (Option String)) {copy : CopyRun} (hcopy : copy.Reliable s.device)
    (hchecked : s.checked = none) :
    InSync writable (s.apply content incomplete copy).2
      ((s.installs (.apply content incomplete copy)).getD file) := by
  rw [RootModel.installs]
  cases incomplete with
  | some hostsFile => exact ⟨hs.device, hs.applied, hs.checked⟩
  | none =>
    have hdevice := hcopy.device content.text
    rw [RootModel.apply]
    generalize copy.copyHostsFile content.text s.device = result at hdevice ⊢
    obtain ⟨exception, device⟩ := result
    rw [hs.device] at hdevice
    cases exception with
    | none => exact ⟨hdevice, fun applied heq => (Option.some.inj heq).symm,
        fun applied heq => absurd (hchecked.symm.trans heq) nofun⟩
    | some exception =>
      cases exception with
      | notEnoughSpace => exact ⟨hdevice, hs.applied, hs.checked⟩
      | command => exact ⟨hdevice, hs.applied, hs.checked⟩

theorem InSync.revert (hs : InSync writable s file) (incomplete : Option (Option String))
    {copy : CopyRun} (hcopy : copy.Reliable s.device) (hchecked : s.checked = none) :
    InSync writable (s.revert incomplete copy).2
      ((s.installs (.revert incomplete copy)).getD file) := by
  rw [RootModel.installs]
  cases incomplete with
  | some hostsFile => exact ⟨hs.device, hs.applied, hs.checked⟩
  | none =>
    have hdevice := hcopy.device defaultHosts
    rw [RootModel.revert]
    generalize copy.copyHostsFile defaultHosts s.device = result at hdevice ⊢
    obtain ⟨exception, device⟩ := result
    rw [hs.device] at hdevice
    cases exception with
    | none => exact ⟨hdevice, fun applied heq => (Option.some.inj heq).symm,
        fun applied heq => absurd (hchecked.symm.trans heq) nofun⟩
    | some exception => exact ⟨hdevice, hs.applied, hs.checked⟩

theorem InSync.step {sf tf : RootModel × InstalledFile} {a : RootAction}
    (hs : InSync writable sf.1 sf.2) (hok : ReliableStep sf a) (h : stepInstall sf a = some tf) :
    InSync writable tf.1 tf.2 := by
  obtain ⟨s, file⟩ := sf
  obtain ⟨t, ht, rfl⟩ := Option.map_eq_some_iff.mp h
  cases a with
  | create =>
    obtain rfl := Option.some.inj ht
    exact ⟨hs.device, nofun, nofun⟩
  | head succeeds =>
    obtain rfl : succeeds = true := hok
    obtain rfl := Option.some.inj ht
    refine ⟨hs.device, hs.applied, fun applied heq => ?_⟩
    rw [← Option.some.inj heq, Bool.true_and, hs.device]
    exact startsWithHeader_isApplied file
  | postChecked =>
    obtain ⟨applied, hchecked, rfl⟩ := Option.map_eq_some_iff.mp ht
    exact ⟨hs.device, fun applied' heq => Option.some.inj heq ▸ hs.checked applied hchecked, nofun⟩
  | apply content incomplete copy =>
    obtain rfl := Option.some.inj ht
    exact hs.apply content incomplete hok.1 hok.2
  | revert incomplete copy =>
    obtain rfl := Option.some.inj ht
    exact hs.revert incomplete hok.1 hok.2

/-- The content can be written line by line. -/
structure HostsContent.Writable (content : HostsContent) : Prop where
  sources : ∀ source ∈ content.sources, OneLine source.label ∧ OneLine source.url
  preferences : WritablePreferences content.preferences
  entries : ∀ entry ∈ content.entries, WritableEntry entry

theorem readHosts_defaultHosts {isLineEnd : Char → Bool} (hends : IsLineEndOf isLineEnd) :
    readHosts isLineEnd defaultHosts = loopbackMappings := by
  have htext : defaultHosts = String.join (writeLoopbackToHosts.map fun line => line ++ "\n") := by
    decide
  rw [htext, readHosts_lines hends (by decide), mappings_writeLoopbackToHosts hends]

/-- **The installed file and what is posted of it**, in a run from the start of the application. The
file is the one of the last `apply` or `revert` that returned, or the one found at the start, and what
is posted says which: a file of entries, which reads as they say, or one that maps only the names of
the device. The partition is mounted as it was. -/
theorem inSync_run {as : List RootAction} {s t : RootModel} {file : InstalledFile}
    (happlied : s.applied = none) (hchecked : s.checked = none)
    (hok : ActionSystem.StepsMeet stepInstall ReliableStep (s, .found s.device.hosts) as)
    (hrun : ActionSystem.run stepInstall (s, .found s.device.hosts) as = some (t, file)) :
    t.device = ⟨file.text, s.device.writable⟩ ∧
    (∀ applied, t.applied = some applied → applied = file.isApplied) ∧
    ∀ isLineEnd, IsLineEndOf isLineEnd →
      (∀ content : HostsContent, content.Writable → file = .generated content →
        readHosts isLineEnd t.device.hosts
          = loopbackMappings ++ content.entries.flatMap (hostMappings content.preferences)) ∧
      (file = .default → readHosts isLineEnd t.device.hosts = loopbackMappings) := by
  have hs : InSync s.device.writable s (.found s.device.hosts) :=
    ⟨rfl, fun applied heq => absurd (happlied.symm.trans heq) nofun,
      fun applied heq => absurd (hchecked.symm.trans heq) nofun⟩
  have ht : InSync s.device.writable t file :=
    ActionSystem.invariant_run_of_stepsMeet
      (I := fun sf : RootModel × InstalledFile => InSync s.device.writable sf.1 sf.2)
      (fun _ _ _ hs hok hstep => InSync.step hs hok hstep) hs hok hrun
  refine ⟨ht.device, ht.applied,
    fun isLineEnd hends => ⟨fun content hcontent hfile => ?_, fun hfile => ?_⟩⟩
  · have htext : t.device.hosts = content.text := by rw [ht.device, hfile, InstalledFile.text]
    rw [htext, HostsContent.text]
    exact readHosts_of_writable hends content.date hcontent.sources hcontent.preferences
      hcontent.entries
  · have htext : t.device.hosts = defaultHosts := by rw [ht.device, hfile, InstalledFile.text]
    rw [htext]
    exact readHosts_defaultHosts hends

end Runs

/-- A copy on a partition that is mounted read-only. -/
def systemCopy (freeSpace : ℕ) : CopyRun :=
  ⟨freeSpace, ["/", "/system"], true, none, true, true⟩

/-- A file with two entries. -/
def writtenContent : HostsContent := ⟨someDate, [addedSource], defaultPreferences, writtenEntries⟩

/-- The application starts on a device with the default file. -/
def startedModel : RootModel := ⟨⟨defaultHosts, false⟩, none, none, none, none⟩

/-- The entries are installed, and there is no space to revert. -/
def installRun : List RootAction :=
  [.head true, .postChecked, .apply writtenContent none (systemCopy 0), .revert none (systemCopy 1)]

theorem inSync_run_installRun :
    readHosts (· = '\n') writtenContent.text
      = loopbackMappings ++ writtenEntries.flatMap (hostMappings defaultPreferences) := by
  have hcopy : ∀ freeSpace hosts, (systemCopy freeSpace).Reliable ⟨hosts, false⟩ :=
    fun _ _ => ⟨⟨fun _ => rfl, nofun⟩, rfl⟩
  have hrun : ActionSystem.run stepInstall (startedModel, .found startedModel.device.hosts) installRun
      = some (⟨⟨writtenContent.text, false⟩, some writtenContent.text, some defaultHosts, some true,
          none⟩, .generated writtenContent) := rfl
  have hok : ActionSystem.StepsMeet stepInstall ReliableStep
      (startedModel, .found startedModel.device.hosts) installRun := by
    refine ⟨rfl, fun _ h => ?_⟩
    obtain rfl := Option.some.inj h
    refine ⟨trivial, fun _ h => ?_⟩
    obtain rfl := Option.some.inj h
    refine ⟨⟨hcopy 0 _, rfl⟩, fun _ h => ?_⟩
    obtain rfl := Option.some.inj h
    exact ⟨⟨hcopy 1 _, rfl⟩, fun _ _ => trivial⟩
  have hcontent : writtenContent.Writable :=
    ⟨by decide, ⟨by decide, by decide⟩, by
      simp only [writtenContent, writtenEntries, List.forall_mem_cons]
      exact ⟨⟨by decide, nofun⟩, ⟨by decide, fun _ => ⟨"10.0.0.1", rfl, by decide⟩⟩,
        List.forall_mem_nil _⟩⟩
  obtain ⟨-, -, hread⟩ := inSync_run rfl rfl hok hrun
  exact (hread (· = '\n') ⟨rfl, fun c hc => Or.inl (by simpa using hc)⟩).1 writtenContent hcontent rfl

/-! ### After a `sync` -/

/-- **The configuration is applied**: `sync` rebuilds the table, and `apply` writes its file and copies
it. If that returns, the installed file answers for a name exactly if it is the one of the device or
the lists answer for it under some spelling. If it throws, the file is the one from before, and nothing
is posted. The job of the copy reports what `dd` does. -/
theorem apply_after_sync {items : List HostListItem} (hitems : ∀ i ∈ items, WritableItem i)
    {q : SyncAnswers items} {old t : HostEntries} (hsync : sync items q old = some t)
    {content : HostsContent} (hcontent : content.Writable) (hentries : IsEntriesAnswer t content.entries)
    (s : RootModel) (incomplete : Option (Option String)) {copy : CopyRun}
    (hcopy : copy.Honest s.device) :
    let result := s.apply content incomplete copy
    (result.1 = none → result.2.applied = some true ∧
      ∀ isLineEnd, IsLineEndOf isLineEnd → ∀ name,
        hostsAddresses (readHosts isLineEnd result.2.device.hosts) name ≠ [] ↔
          toLowerCase name = localhostHostname ∨
            ∃ host, toLowerCase host = toLowerCase name ∧ Overridden items host) ∧
    (result.1 ≠ none → result.2.device.hosts = s.device.hosts ∧ result.2.applied = s.applied) := by
  intro result
  have hresult : result = s.apply content incomplete copy := rfl
  cases incomplete with
  | some hostsFile => exact ⟨fun h => absurd h (by simp [hresult, RootModel.apply]), fun _ => ⟨rfl, rfl⟩⟩
  | none =>
    have hhosts := hcopy.hosts content.text
    rw [RootModel.apply] at hresult
    generalize copy.copyHostsFile content.text s.device = copied at hhosts hresult
    obtain ⟨exception, device⟩ := copied
    cases exception with
    | none =>
      refine ⟨fun _ => ⟨by rw [hresult], fun isLineEnd hends name => ?_⟩, fun h => absurd ?_ h⟩
      · have hinstalled : result.2.device.hosts = content.text := by
          rw [hresult]
          exact hhosts
        rw [hinstalled]
        exact (isRebuilt_of_sync hsync).hostsAddresses_ne_nil_iff hends hitems content.date
          hcontent.sources hcontent.preferences hentries name
      · rw [hresult]
    | some exception =>
      have hthrows : result.1 ≠ none ∧ result.2.device = device ∧ result.2.applied = s.applied := by
        rw [hresult]
        cases exception <;> exact ⟨Option.some_ne_none _, rfl, rfl⟩
      refine ⟨fun h => absurd h hthrows.1, fun _ => ⟨?_, hthrows.2.2⟩⟩
      rw [hthrows.2.1]
      exact hhosts

/-- The rows of the rebuilt table, in the order of `getAll`. -/
def mixedEntries : List HostEntry :=
  [⟨"ads.example", .redirected, some "10.0.0.1"⟩, ⟨"trk.example", .blocked, none⟩]

/-- The file of these rows. -/
def mixedContent : HostsContent := ⟨someDate, [], defaultPreferences, mixedEntries⟩

/-- An item that redirects nothing can be written as its host can. -/
theorem writableItem_of_ne {i : HostListItem} (hhost : i.type ≠ .allowed → IsField i.host)
    (hne : i.type ≠ .redirected) : WritableItem i :=
  ⟨hhost, fun h => absurd h hne⟩

theorem apply_after_sync_mixed :
    hostsAddresses (readHosts (· = '\n')
      (startedModel.apply mixedContent none (systemCopy 0)).2.device.hosts) "TRK.example" ≠ [] := by
  obtain ⟨t, ht⟩ : ∃ t, sync mixedItems mixedAnswers ∅ = some t := ⟨_, rfl⟩
  have hitems : ∀ i ∈ mixedItems, WritableItem i := by
    simp only [mixedItems, List.forall_mem_cons]
    exact ⟨writableItem_of_ne (fun _ => by decide) (by decide),
      writableItem_of_ne (fun _ => by decide) (by decide),
      writableItem_of_ne (fun _ => by decide) (by decide),
      writableItem_of_ne (fun h => absurd rfl h) (by decide),
      ⟨fun _ => by decide, fun _ => ⟨"10.0.0.1", rfl, by decide⟩⟩, List.forall_mem_nil _⟩
  have hanswer : IsEntriesAnswer t mixedEntries := by
    obtain rfl := Option.some.inj ht
    exact ⟨.swap _ _ _, by decide⟩
  have hover : Overridden mixedItems "trk.example" := by
    rw [Overridden, Listed, Listed, AllowMatches]
    decide
  have hcontent : mixedContent.Writable := by
    refine ⟨List.forall_mem_nil _, ⟨by decide, by decide⟩, ?_⟩
    simp only [mixedContent, mixedEntries, List.forall_mem_cons]
    exact ⟨⟨by decide, fun _ => ⟨"10.0.0.1", rfl, by decide⟩⟩, ⟨by decide, fun h => absurd h (by decide)⟩,
      List.forall_mem_nil _⟩
  have hcopy : (systemCopy 0).Honest startedModel.device := ⟨fun _ => rfl, fun h => absurd h (by decide)⟩
  obtain ⟨-, hread⟩ := (apply_after_sync hitems ht hcontent hanswer startedModel none hcopy).1 rfl
  exact (hread (· = '\n') ⟨rfl, fun c hc => Or.inl (by simpa using hc)⟩ "TRK.example").mpr
    (Or.inr ⟨"trk.example", by decide, hover⟩)

end AdAway
