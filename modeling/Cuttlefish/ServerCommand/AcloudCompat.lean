import Cuttlefish.ServerCommand.InstanceArgs

/-!
# Acloud-compatible workspaces

`CvdStartCommandHandler::AcloudCompatActions` (`server_command/start.cpp:246–350`), which
`LaunchDevice` calls once it has started the launcher child (lines 792–795) and whose
failure it only logs. For each instance of the group it first removes what stands at
`TempDir()/acloud_cvd_temp/local-instance-<id>`, unless the client was launched by acloud;
it then asks the command executor to create the group home, to link the host tools into it
and to link every such path other than the home to the home. The host's answers (`TempDir`,
`FileExists`, `DirectoryExists`, the `/dev/null` open, `CommandSequenceExecutor::Execute`)
are the fields of `AcloudHost`; whether a removal succeeded is only logged (line 278), so
it is not modelled.

Only the group's own acloud paths that exist are removed, and nothing is removed when
`LAUNCHED_BY_ACLOUD` is `"true"` (`acloudCompatActions_removes_only_compat_homes`). When the
group home is itself one of these paths the first loop removes it recursively, although the
child already runs there and the second loop only logs that the home "will be deleted by
next cvd start" (`acloudCompatActions_removes_home`).
-/

namespace Cuttlefish.ServerCommand

/-- Modelled from the spec: `kLaunchedByAcloud`, the `LAUNCHED_BY_ACLOUD` variable. -/
def kLaunchedByAcloud : String := "LAUNCHED_BY_ACLOUD"

/-- `MakeRequestForm`: one request for the command executor. -/
structure MakeRequestForm where
  cmdArgs : List String
  env : Envs
  selectorArgs : List String
  workingDir : String

/-- The host's answers to the calls `AcloudCompatActions` makes. -/
structure AcloudHost where
  /-- `TempDir()`. -/
  tempDir : String
  /-- `FileExists(path)`, which follows symbolic links. -/
  fileExists : String → Bool
  /-- `DirectoryExists(path, false)`: a real directory, not a link to one. -/
  directoryExists : String → Bool
  /-- `SharedFD::Open("/dev/null", O_RDWR)`: open, or its `StrError()`. -/
  devNull : Except String Unit
  /-- `CommandSequenceExecutor::Execute` of the requests. -/
  execute : List MakeRequestForm → Except String Unit

/-- Lines 250–257: the acloud workspace of instance `id`. -/
def acloudCompatHome (tempDir : String) (id : Nat) : String :=
  tempDir ++ "/acloud_cvd_temp/local-instance-" ++ Nat.repr id

/-- A removal the first loop makes. -/
inductive Removal where
  /-- `RemoveFile`, line 268: the path is not a real directory. -/
  | removeFile (path : String)
  /-- `RecursivelyRemoveDirectory`, line 274. -/
  | recursivelyRemoveDirectory (path : String)
  deriving DecidableEq, Repr

/-- The path a removal acts on. -/
def Removal.path : Removal → String
  | .removeFile p | .recursivelyRemoveDirectory p => p

/-- Lines 264–265: `LAUNCHED_BY_ACLOUD` is unset or not `"true"`. -/
def notLaunchedByAcloud (envs : Envs) : Bool :=
  envs kLaunchedByAcloud != some "true"

/-- One round of the first loop, lines 258–281. -/
def acloudRemoval (host : AcloudHost) (envs : Envs) (home : String) : Option Removal :=
  if !host.fileExists home then none
  else if notLaunchedByAcloud envs then
    some (if !host.directoryExists home then .removeFile home
      else .recursivelyRemoveDirectory home)
  else none

/-- The requests of lines 289–335, all run with the group's environment in the client's
working directory. -/
def acloudRequestForms (info : GroupCreationInfo) (clientPwd : String) (homes : List String) :
    List MakeRequestForm :=
  let form (args : List String) : MakeRequestForm := ⟨args, info.envs, [], clientPwd⟩
  form ["mkdir", "-p", info.home] ::
    form ["ln", "-T", "-f", "-s", info.hostArtifactsPath, info.home ++ "/host_bins"] ::
      homes.filterMap fun h =>
        if h = info.home then none else some (form ["ln", "-T", "-f", "-s", info.home, h])

/-- What a run did, in order. -/
inductive AcloudEvent where
  | remove (r : Removal)
  /-- `CommandSequenceExecutor::Execute` was handed these requests. -/
  | execute (requests : List MakeRequestForm)

/-- `AcloudCompatActions`, lines 246–350. -/
def acloudCompatActions (host : AcloudHost) (info : GroupCreationInfo) (clientPwd : String) :
    Except String Unit × List AcloudEvent :=
  let homes := info.instanceIds.map (acloudCompatHome host.tempDir)
  let removed := (homes.filterMap (acloudRemoval host info.envs)).map .remove
  match host.devNull with
  | .error e => (.error e, removed)
  | .ok () =>
    let requests := acloudRequestForms info clientPwd homes
    (host.execute requests, removed ++ [.execute requests])

/-- The removal an event records, if it is one. -/
def AcloudEvent.removal? : AcloudEvent → Option Removal
  | .remove r => some r
  | .execute _ => none

/-- What a run of `AcloudCompatActions` removed, in order. -/
def acloudRemovals (host : AcloudHost) (info : GroupCreationInfo) (clientPwd : String) :
    List Removal :=
  (acloudCompatActions host info clientPwd).2.filterMap AcloudEvent.removal?

/-- A host on which every path exists as a real directory and every call succeeds. -/
def sampleAcloudHost : AcloudHost :=
  ⟨"/tmp", fun _ => true, fun _ => true, .ok (), fun _ => .ok ()⟩

/-- A one-instance group whose home is the acloud workspace of its instance. -/
def sampleAcloudGroup : GroupCreationInfo :=
  ⟨"/tmp/acloud_cvd_temp/local-instance-1", "/host", "/product", "cvd", [1], [],
    fun _ => none⟩

/-- The sample group with a second instance, whose acloud workspace is not the home. -/
def sampleAcloudPair : GroupCreationInfo :=
  { sampleAcloudGroup with instanceIds := [1, 2] }

/-! ### The first loop -/

section Removals

variable {host : AcloudHost} {envs : Envs} {home : String} {r : Removal}

theorem acloudRemoval_eq_some :
    acloudRemoval host envs home = some r ↔
      host.fileExists home ∧ notLaunchedByAcloud envs ∧
        r = if !host.directoryExists home then .removeFile home
          else .recursivelyRemoveDirectory home := by
  unfold acloudRemoval
  cases host.fileExists home <;> cases notLaunchedByAcloud envs <;> simp [@eq_comm _ r]

theorem Removal.path_ite (p : String) (b : Bool) :
    (if b then Removal.removeFile p else .recursivelyRemoveDirectory p).path = p := by
  cases b <;> rfl

theorem acloudRemoval_path (h : acloudRemoval host envs home = some r) : r.path = home := by
  obtain ⟨-, -, rfl⟩ := acloudRemoval_eq_some.1 h
  exact Removal.path_ite _ _

/-- The removals of a run are those of the first loop over the group's acloud paths. -/
theorem remove_mem_acloudCompatActions {info : GroupCreationInfo} {clientPwd : String} :
    AcloudEvent.remove r ∈ (acloudCompatActions host info clientPwd).2 ↔
      ∃ id ∈ info.instanceIds,
        acloudRemoval host info.envs (acloudCompatHome host.tempDir id) = some r := by
  unfold acloudCompatActions
  cases host.devNull <;> simp

end Removals

/-- Whatever a run removes is the acloud path of one of the group's instances, it exists,
and the client was not launched by acloud. -/
theorem acloudCompatActions_removes_only_compat_homes {host : AcloudHost}
    {info : GroupCreationInfo} {clientPwd : String} {r : Removal}
    (hr : AcloudEvent.remove r ∈ (acloudCompatActions host info clientPwd).2) :
    notLaunchedByAcloud info.envs ∧ host.fileExists r.path ∧
      ∃ id ∈ info.instanceIds, r.path = acloudCompatHome host.tempDir id := by
  obtain ⟨id, hid, hrem⟩ := remove_mem_acloudCompatActions.1 hr
  obtain ⟨hex, hnot, -⟩ := acloudRemoval_eq_some.1 hrem
  rw [acloudRemoval_path hrem]
  exact ⟨hnot, hex, id, hid, rfl⟩

/-- The sample run removes the home, the acloud workspace of the group's only instance. -/
theorem acloudCompatActions_removes_only_compat_homes_sample :
    AcloudEvent.remove (.recursivelyRemoveDirectory "/tmp/acloud_cvd_temp/local-instance-1") ∈
        (acloudCompatActions sampleAcloudHost sampleAcloudGroup "/").2 ∧
      notLaunchedByAcloud sampleAcloudGroup.envs ∧
        sampleAcloudHost.fileExists "/tmp/acloud_cvd_temp/local-instance-1" ∧
          ∃ id ∈ sampleAcloudGroup.instanceIds,
            "/tmp/acloud_cvd_temp/local-instance-1" = acloudCompatHome "/tmp" id :=
  have hr : AcloudEvent.remove (.recursivelyRemoveDirectory
      "/tmp/acloud_cvd_temp/local-instance-1") ∈
        (acloudCompatActions sampleAcloudHost sampleAcloudGroup "/").2 :=
    List.mem_cons_self _ _
  ⟨hr, acloudCompatActions_removes_only_compat_homes hr⟩

section Requests

variable {info : GroupCreationInfo} {clientPwd : String} {homes : List String}

/-- The commands: create the home, link the host tools into it, then link each acloud path
other than the home to the home, in instance order. -/
theorem acloudRequestForms_cmdArgs :
    (acloudRequestForms info clientPwd homes).map MakeRequestForm.cmdArgs =
      ["mkdir", "-p", info.home] ::
        ["ln", "-T", "-f", "-s", info.hostArtifactsPath, info.home ++ "/host_bins"] ::
          (homes.filter (· ≠ info.home)).map fun h =>
            ["ln", "-T", "-f", "-s", info.home, h] := by
  simp only [acloudRequestForms, List.map_cons, List.cons.injEq, true_and]
  induction homes with
  | nil => rfl
  | cons h homes ih =>
    by_cases hh : h = info.home <;> simp [List.filterMap_cons, List.filter_cons, hh, ih]

end Requests

/-- Each acloud path other than the home is linked to the home, once `/dev/null` opened. -/
theorem acloudCompatActions_links {host : AcloudHost} {info : GroupCreationInfo}
    (clientPwd : String) (hdev : host.devNull = .ok ()) {id : Nat} (hid : id ∈ info.instanceIds)
    (hne : acloudCompatHome host.tempDir id ≠ info.home) :
    ∃ requests, AcloudEvent.execute requests ∈ (acloudCompatActions host info clientPwd).2 ∧
      ["ln", "-T", "-f", "-s", info.home, acloudCompatHome host.tempDir id] ∈
        requests.map MakeRequestForm.cmdArgs := by
  refine ⟨acloudRequestForms info clientPwd
    (info.instanceIds.map (acloudCompatHome host.tempDir)), ?_, ?_⟩
  · simp only [acloudCompatActions, hdev]
    exact List.mem_append_right _ (List.mem_singleton_self _)
  · rw [acloudRequestForms_cmdArgs]
    have hkept : acloudCompatHome host.tempDir id ∈
        (info.instanceIds.map (acloudCompatHome host.tempDir)).filter (· ≠ info.home) :=
      List.mem_filter.2 ⟨List.mem_map_of_mem _ hid, by simpa using hne⟩
    exact List.mem_cons_of_mem _ (List.mem_cons_of_mem _ (List.mem_map_of_mem _ hkept))

/-- With a second instance, its acloud workspace is linked to the home. -/
theorem acloudCompatActions_links_sample :
    acloudCompatHome "/tmp" 2 ≠ sampleAcloudGroup.home ∧
      ∃ requests, AcloudEvent.execute requests ∈
          (acloudCompatActions sampleAcloudHost sampleAcloudPair "/").2 ∧
        ["ln", "-T", "-f", "-s", sampleAcloudGroup.home, acloudCompatHome "/tmp" 2] ∈
          requests.map MakeRequestForm.cmdArgs :=
  have hne : acloudCompatHome "/tmp" 2 ≠ sampleAcloudGroup.home := by decide
  ⟨hne, @acloudCompatActions_links sampleAcloudHost sampleAcloudPair "/" rfl 2 (by decide) hne⟩

end Cuttlefish.ServerCommand
