import Cuttlefish.Common.Result
import Cuttlefish.Selector.InstanceRecord

/-!
# The instance database

`InstanceDatabase` of `selector/instance_database.cpp:43–255`. The viewer behind
`WithSharedLock` and `WithExclusiveLock` is outside this tree; §4.A of the design fixes
its contract, which `withExclusiveLock` follows. Each public operation is one atomic
step `PersistentData → result × PersistentData`: all registry mutations are ordered by
the exclusive lock, so the registry is the state of a machine whose transitions are the
operations, whatever the interleaving of request handlers.
-/

namespace Cuttlefish.Selector

open Cuttlefish

/-- `InstanceDatabase::FindParam`: every set field must match. -/
structure FindParam where
  home : Option String := none
  id : Option UInt32 := none
  groupName : Option String := none
  instanceName : Option String := none
  deriving DecidableEq, Repr

/-- Modelled from the spec: `WithExclusiveLock(fn)` (§4.A) runs `fn` on the registry and
replaces the backing file iff `fn` succeeds; on failure the file is not modified. -/
def withExclusiveLock {α : Type} (fn : PersistentData → Except DbError (α × PersistentData))
    (data : PersistentData) : Except DbError α × PersistentData :=
  match fn data with
  | .ok (a, data') => (.ok a, data')
  | .error e => (.error e, data)

@[simp] theorem withExclusiveLock_fst_eq_ok {α : Type}
    {fn : PersistentData → Except DbError (α × PersistentData)} {data : PersistentData}
    {a : α} :
    (withExclusiveLock fn data).1 = .ok a ↔ ∃ data', fn data = .ok (a, data') := by
  unfold withExclusiveLock
  split <;> simp_all

/-- A transaction commits exactly the data its closure produced. -/
theorem withExclusiveLock_of_ok {α : Type}
    {fn : PersistentData → Except DbError (α × PersistentData)} {data data' : PersistentData}
    {a : α} (hfn : fn data = .ok (a, data')) : withExclusiveLock fn data = (.ok a, data') := by
  simp [withExclusiveLock, hfn]

/-- A failed transaction leaves the file as it was. -/
theorem withExclusiveLock_of_error {α : Type}
    {fn : PersistentData → Except DbError (α × PersistentData)} {data : PersistentData}
    {e : DbError} (hfn : fn data = .error e) : withExclusiveLock fn data = (.error e, data) := by
  simp [withExclusiveLock, hfn]

variable (h : Helpers)

/-! ### Queries -/

/-- Loop body of `FindGroups(data, param)`, lines 161–179: skip, keep, or the `CHECK`. -/
def matchGroup (param : FindParam) (group : InstanceGroup) :
    Except DbError (Option (LocalInstanceGroup h)) :=
  if param.home.any (· != group.homeDirectory) then .ok none
  else if param.groupName.any (· != group.name) then .ok none
  else
    match LocalInstanceGroup.create group with
    | .error _ => .error (.failsValidation group.name)
    | .ok g =>
      if param.id.any (fun id => (g.findById id).isEmpty) then .ok none
      else if param.instanceName.any (fun n => (g.findByInstanceName n).isEmpty) then .ok none
      else .ok (some g)

/-- The loop of `FindGroups(data, param)` over a list of stored groups. -/
def findGroupsIn (param : FindParam) :
    List InstanceGroup → Except DbError (List (LocalInstanceGroup h))
  | [] => .ok []
  | group :: rest => do
    let found ← matchGroup h param group
    let others ← findGroupsIn param rest
    return found.toList ++ others

/-- `InstanceDatabase::FindGroups(data, param)`, lines 157–182. -/
def findGroups (data : PersistentData) (param : FindParam) :
    Except DbError (List (LocalInstanceGroup h)) :=
  findGroupsIn h param data.instanceGroups

/-- Loop body of `FindInstances(data, param)`, lines 188–206. -/
def matchInstances (param : FindParam) (group : InstanceGroup) :
    Except DbError (List LocalInstance) :=
  if param.groupName.any (· != group.name) then .ok []
  else if param.home.any (· != group.homeDirectory) then .ok []
  else
    match LocalInstanceGroup.create (h := h) group with
    | .error _ => .error (.failsValidation group.name)
    | .ok g => .ok (g.instances.filter fun i =>
        !param.id.any (· != i.instanceId) && !param.instanceName.any (· != i.perInstanceName))

/-- The loop of `FindInstances(data, param)` over a list of stored groups. -/
def findInstancesIn (param : FindParam) : List InstanceGroup → Except DbError (List LocalInstance)
  | [] => .ok []
  | group :: rest => do
    let found ← matchInstances h param group
    let others ← findInstancesIn param rest
    return found ++ others

/-- `InstanceDatabase::FindInstances(data, param)`, lines 184–209. -/
def findInstances (data : PersistentData) (param : FindParam) :
    Except DbError (List LocalInstance) :=
  findInstancesIn h param data.instanceGroups

/-- `InstanceDatabase::InstanceGroups`, lines 211–221. -/
def instanceGroups (data : PersistentData) : Except DbError (List (LocalInstanceGroup h)) :=
  data.instanceGroups.mapM LocalInstanceGroup.create

/-- `InstanceDatabase::IsEmpty`, lines 46–50. -/
def isEmpty (data : PersistentData) : Bool := data.instanceGroups.isEmpty

/-- `InstanceDatabase::GetAcloudTranslatorOptout`, lines 250–255. -/
def getAcloudTranslatorOptout (data : PersistentData) : Bool := data.acloudTranslatorOptout

/-! ### Mutations -/

/-- The checks of `AddInstanceGroup` before the lock, lines 67–78. -/
def addInstanceGroupChecks (group : InstanceGroup) : Except DbError Unit := do
  expect (h.isValidGroupName group.name) (.illFormedGroupName group.name)
  expect (h.ensureDirectoryExists group.homeDirectory) (.homeUnavailable group.homeDirectory)
  expect (h.potentiallyHostArtifactsPath group.hostArtifactsPath)
    (.notToolDirectory group.hostArtifactsPath)
  group.instances.forM fun i =>
    expect (h.isValidInstanceName i.name) (.invalidInstanceName i.name)

/-- The conflict check of lines 81–87: no stored group at this home with this name. -/
def checkGroupConflict (data : PersistentData) (group : InstanceGroup) : Except DbError Unit := do
  match ← findGroups h data
      { home := some group.homeDirectory, groupName := some group.name } with
  | [] => pure ()
  | other :: _ => throw (.groupConflict other.proto.name other.proto.homeDirectory)

/-- The id check of lines 88–96 for one new instance. -/
def checkInstanceId (data : PersistentData) (i : Instance) : Except DbError Unit := do
  match ← findInstances h data { id := some i.id } with
  | [] => pure ()
  | other :: _ => throw (.instanceConflict other.perInstanceName other.instanceId)

/-- The registry with groups appended, as `add_instance_groups` leaves it. -/
def PersistentData.append (data : PersistentData) (groups : List InstanceGroup) : PersistentData :=
  { data with instanceGroups := data.instanceGroups ++ groups }

/-- The closure `AddInstanceGroup` runs under the exclusive lock, lines 80–99. The proto
is appended before `Create` validates it. -/
def addInstanceGroupLocked (group : InstanceGroup) (data : PersistentData) :
    Except DbError (LocalInstanceGroup h × PersistentData) := do
  checkGroupConflict h data group
  group.instances.forM (checkInstanceId h data)
  let data' := data.append [group]
  let created ← LocalInstanceGroup.create group
  return (created, data')

/-- `InstanceDatabase::AddInstanceGroup`, lines 65–102. -/
def addInstanceGroup (group : InstanceGroup) (data : PersistentData) :
    Except DbError (LocalInstanceGroup h) × PersistentData :=
  match addInstanceGroupChecks h group with
  | .error e => (.error e, data)
  | .ok () => withExclusiveLock (addInstanceGroupLocked h group) data

/-- `InstanceDatabase::RemoveInstanceGroup`, lines 104–117: erase the first group with
that name and report whether there was one. -/
def removeInstanceGroup (groupName : String) (data : PersistentData) :
    Except DbError Bool × PersistentData :=
  withExclusiveLock (fun data =>
    .ok (data.instanceGroups.any (·.name == groupName),
      { data with instanceGroups := data.instanceGroups.eraseP (·.name == groupName) })) data

/-- `InstanceDatabase::Clear`, lines 52–63: empty the list, then revalidate the copies. -/
def clear (data : PersistentData) :
    Except DbError (List (LocalInstanceGroup h)) × PersistentData :=
  withExclusiveLock (fun data => do
    let copy := data.instanceGroups
    let data' := { data with instanceGroups := [] }
    let groups ← copy.mapM LocalInstanceGroup.create
    return (groups, data')) data

/-- `kJsonGroups`, line 39. -/
def kJsonGroups : String := "Groups"

/-- The part of `LoadFromJson` before the lock, lines 224–232. -/
def readJsonGroups (dbJson : Json) : Except DbError (List (LocalInstanceGroup h)) :=
  match dbJson.member? kJsonGroups with
  | none => .error .missingGroups
  | some (.arr elems) => elems.mapM LocalInstanceGroup.deserialize
  | some _ => .error .groupsNotArray

/-- `InstanceDatabase::LoadFromJson`, lines 223–240: append every deserialized group. -/
def loadFromJson (dbJson : Json) (data : PersistentData) : Except DbError Unit × PersistentData :=
  match readJsonGroups h dbJson with
  | .error e => (.error e, data)
  | .ok newGroups =>
    withExclusiveLock (fun data =>
      .ok ((), { data with
        instanceGroups := data.instanceGroups ++ newGroups.map (·.proto) })) data

/-- `InstanceDatabase::SetAcloudTranslatorOptout`, lines 242–248. -/
def setAcloudTranslatorOptout (optout : Bool) (data : PersistentData) :
    Except DbError Unit × PersistentData :=
  withExclusiveLock (fun data => .ok ((), { data with acloudTranslatorOptout := optout })) data

/-! ### Queries on a registry whose groups all pass `Create` -/

/-- §4.C on a group: every set field of the filter holds of it. -/
def FindParam.selectsGroup (param : FindParam) (g : InstanceGroup) : Bool :=
  param.home.all (· == g.homeDirectory) && param.groupName.all (· == g.name) &&
    param.id.all (fun id => g.instances.any (·.id == id)) &&
    param.instanceName.all (fun n => g.instances.any (·.name == n))

/-- §4.C on an instance: its group meets the group fields, it meets the others. -/
def FindParam.selectsInstance (param : FindParam) (g : InstanceGroup) (i : Instance) : Bool :=
  param.groupName.all (· == g.name) && param.home.all (· == g.homeDirectory) &&
    param.id.all (· == i.id) && param.instanceName.all (· == i.name)

/-- The instances of one stored group that §4.C selects, seen through their group. -/
def FindParam.instancesOf (param : FindParam) (g : InstanceGroup) : List LocalInstance :=
  (g.instances.filter (param.selectsInstance g)).map fun i => ⟨i.id, g.name, i.name⟩

private theorem any_bne_eq {α : Type} [BEq α] (o : Option α) (x : α) :
    o.any (· != x) = !o.all (· == x) := by
  cases o <;> rfl

private theorem any_not_eq {α : Type} (o : Option α) (p : α → Bool) :
    o.any (fun a => !p a) = !o.all p := by
  cases o <;> rfl

private theorem ite_not_chain {β : Type} (a b c d : Bool) (x y : β) :
    (if (!a) = true then y else if (!b) = true then y else if (!c) = true then y
      else if (!d) = true then y else x) = (if (a && b && c && d) = true then x else y) := by
  cases a <;> cases b <;> cases c <;> cases d <;> rfl

/-- The loop body of `FindGroups` on a valid group is the §4.C test. -/
theorem matchGroup_of_valid {param : FindParam} {g : InstanceGroup} (hv : h.createValid g = true) :
    matchGroup h param g = if param.selectsGroup g then .ok (some ⟨g, hv⟩) else .ok none := by
  simp only [matchGroup, LocalInstanceGroup.create_of_valid hv, LocalInstanceGroup.findById_isEmpty,
    LocalInstanceGroup.findByInstanceName_isEmpty, any_bne_eq, any_not_eq, FindParam.selectsGroup]
  exact ite_not_chain _ _ _ _ _ _

/-- On groups that all pass `Create`, the loop keeps exactly the selected ones, in order. -/
theorem findGroupsIn_of_valid {param : FindParam} {gs : List InstanceGroup}
    (hv : ∀ g ∈ gs, h.createValid g = true) :
    ∃ found, findGroupsIn h param gs = .ok found ∧
      found.map (·.proto) = gs.filter param.selectsGroup := by
  induction gs with
  | nil => exact ⟨[], rfl, rfl⟩
  | cons g gs ih =>
    simp only [List.mem_cons, forall_eq_or_imp] at hv
    obtain ⟨found, hfound, hmap⟩ := ih hv.2
    refine ⟨(if param.selectsGroup g then [⟨g, hv.1⟩] else []) ++ found, ?_, ?_⟩
    · simp only [findGroupsIn, matchGroup_of_valid h hv.1, hfound]
      split <;> rfl
    · simp only [List.map_append, hmap, List.filter_cons]
      split <;> rfl

/-- The loop body of `FindInstances` on a valid group is the §4.C test. -/
theorem matchInstances_of_valid {param : FindParam} {g : InstanceGroup}
    (hv : h.createValid g = true) : matchInstances h param g = .ok (param.instancesOf g) := by
  unfold matchInstances FindParam.instancesOf FindParam.selectsInstance
  simp only [LocalInstanceGroup.create_of_valid hv, any_bne_eq, any_not_eq,
    LocalInstanceGroup.instances, List.filter_map]
  cases param.groupName.all (· == g.name) <;> cases param.home.all (· == g.homeDirectory) <;>
    simp [Function.comp_def]

/-- On groups that all pass `Create`, `FindInstances` concatenates the selected instances. -/
theorem findInstancesIn_of_valid {param : FindParam} {gs : List InstanceGroup}
    (hv : ∀ g ∈ gs, h.createValid g = true) :
    findInstancesIn h param gs = .ok (gs.flatMap param.instancesOf) := by
  induction gs with
  | nil => rfl
  | cons g gs ih =>
    simp only [List.mem_cons, forall_eq_or_imp] at hv
    simp [findInstancesIn, matchInstances_of_valid h hv.1, ih hv.2]

/-- On groups that all pass `Create`, the empty filter lists them all, like `InstanceGroups`. -/
theorem findGroupsIn_empty_of_valid {gs : List InstanceGroup}
    (hv : ∀ g ∈ gs, h.createValid g = true) :
    findGroupsIn h {} gs = gs.mapM LocalInstanceGroup.create := by
  induction gs with
  | nil => rfl
  | cons g gs ih =>
    simp only [List.mem_cons, forall_eq_or_imp] at hv
    rw [List.mapM_cons, LocalInstanceGroup.create_of_valid hv.1, ← ih hv.2]
    simp [findGroupsIn, matchGroup_of_valid h hv.1, FindParam.selectsGroup]

/-! ### Mutations, one inversion lemma each -/

theorem checkGroupConflict_eq_ok {data : PersistentData} {group : InstanceGroup} {u : Unit} :
    checkGroupConflict h data group = .ok u ↔
      findGroups h data { home := some group.homeDirectory, groupName := some group.name } =
        .ok [] := by
  unfold checkGroupConflict
  cases findGroups h data { home := some group.homeDirectory, groupName := some group.name } with
  | error e => simp
  | ok found => cases found <;> simp [throw, throwThe, MonadExceptOf.throw]

theorem checkInstanceId_eq_ok {data : PersistentData} {i : Instance} {u : Unit} :
    checkInstanceId h data i = .ok u ↔ findInstances h data { id := some i.id } = .ok [] := by
  unfold checkInstanceId
  cases findInstances h data { id := some i.id } with
  | error e => simp
  | ok found => cases found <;> simp [throw, throwThe, MonadExceptOf.throw]

/-- `AddInstanceGroup` succeeds exactly when every check passes; `Create` keeps the proto. -/
theorem addInstanceGroup_eq_ok {group : InstanceGroup} {data : PersistentData}
    {g : LocalInstanceGroup h} :
    (addInstanceGroup h group data).1 = .ok g ↔ addInstanceGroupChecks h group = .ok () ∧
      checkGroupConflict h data group = .ok () ∧
      group.instances.forM (checkInstanceId h data) = .ok () ∧ g.proto = group := by
  unfold addInstanceGroup
  cases hc : addInstanceGroupChecks h group with
  | error e => simp
  | ok u =>
    simp only [withExclusiveLock_fst_eq_ok, addInstanceGroupLocked, except_bind_eq_ok, true_and,
      ← LocalInstanceGroup.create_eq_ok]
    constructor
    · rintro ⟨_, ⟨⟩, hgroup, ⟨⟩, hforM, _, hcreate, ⟨⟩⟩
      exact ⟨hgroup, hforM, hcreate⟩
    · rintro ⟨hgroup, hforM, hcreate⟩
      exact ⟨_, (), hgroup, (), hforM, g, hcreate, rfl⟩

/-- A successful `AddInstanceGroup` appends the group and nothing else. -/
theorem addInstanceGroup_snd_of_ok {group : InstanceGroup} {data : PersistentData}
    {g : LocalInstanceGroup h} (hok : (addInstanceGroup h group data).1 = .ok g) :
    (addInstanceGroup h group data).2 = data.append [group] := by
  obtain ⟨hc, hgroup, hforM, hproto⟩ := (addInstanceGroup_eq_ok h).mp hok
  have hcreate : LocalInstanceGroup.create group = .ok g :=
    LocalInstanceGroup.create_eq_ok.mpr hproto
  simp [addInstanceGroup, hc, withExclusiveLock, addInstanceGroupLocked, hgroup, hforM, hcreate]

/-- A failed `AddInstanceGroup` leaves the registry as it was. -/
theorem addInstanceGroup_snd_of_error {group : InstanceGroup} {data : PersistentData}
    {e : DbError} (herr : (addInstanceGroup h group data).1 = .error e) :
    (addInstanceGroup h group data).2 = data := by
  unfold addInstanceGroup at herr ⊢
  split
  · rfl
  · unfold withExclusiveLock at herr ⊢
    split <;> simp_all

/-- `RemoveInstanceGroup` never fails, and erases the first group of that name. -/
theorem removeInstanceGroup_eq (groupName : String) (data : PersistentData) :
    removeInstanceGroup groupName data = (.ok (data.instanceGroups.any (·.name == groupName)),
      { data with instanceGroups := data.instanceGroups.eraseP (·.name == groupName) }) := rfl

/-- `SetAcloudTranslatorOptout` never fails and touches only the opt-out bit. -/
theorem setAcloudTranslatorOptout_eq (optout : Bool) (data : PersistentData) :
    setAcloudTranslatorOptout optout data =
      (.ok (), { data with acloudTranslatorOptout := optout }) :=
  rfl

/-- `Clear` either empties the group list or, when a copy fails `Create`, changes nothing. -/
theorem clear_snd (data : PersistentData) :
    (clear h data).2 = { data with instanceGroups := [] } ∨ (clear h data).2 = data := by
  cases hm : data.instanceGroups.mapM (LocalInstanceGroup.create (h := h)) <;>
    simp only [clear, withExclusiveLock, hm, except_bind_ok, except_bind_error] <;> simp

/-- `LoadFromJson` either appends every deserialized group, each valid, or changes nothing. -/
theorem loadFromJson_snd (dbJson : Json) (data : PersistentData) :
    (∃ groups : List (LocalInstanceGroup h), readJsonGroups h dbJson = .ok groups ∧
      (loadFromJson h dbJson data).2 = data.append (groups.map (·.proto))) ∨
    (loadFromJson h dbJson data).2 = data := by
  unfold loadFromJson
  cases readJsonGroups h dbJson with
  | error e => exact .inr rfl
  | ok groups => exact .inl ⟨groups, rfl, rfl⟩

end Cuttlefish.Selector
