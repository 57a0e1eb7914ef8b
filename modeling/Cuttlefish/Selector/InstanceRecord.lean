import Mathlib.Data.List.Basic

/-!
# Instance records of the persistent registry

The part of `cvd_persistent_data.proto` that
`src/base/cvd/cuttlefish/host/commands/cvd/selector/instance_database.cpp` reads: an
`InstanceGroup` with its instances, and `PersistentData`, the backing file's contents.
`LocalInstanceGroup` is a group that passed `LocalInstanceGroup::Create`; that check, the
name rules and the filesystem probes live outside this tree and are the fields of
`Helpers`. `LocalInstance` follows `src/cvd/host/commands/cvd/selector/instance_record.cpp`.
-/

namespace Cuttlefish.Selector

/-- `cvd::Instance`, the fields the database reads. -/
structure Instance where
  id : UInt32
  name : String
  deriving DecidableEq, Repr

/-- `cvd::InstanceGroup`, the fields the database reads. -/
structure InstanceGroup where
  name : String
  homeDirectory : String
  hostArtifactsPath : String
  instances : List Instance
  deriving DecidableEq, Repr

/-- `cvd::PersistentData`: the groups in file order and the acloud opt-out bit. -/
structure PersistentData where
  instanceGroups : List InstanceGroup
  acloudTranslatorOptout : Bool
  deriving DecidableEq, Repr

/-- A fresh backing file: no group, opt-out unset. -/
def PersistentData.empty : PersistentData := ⟨[], false⟩

/-- `Json::Value`, the shapes `LoadFromJson` tells apart. -/
inductive Json where
  | null
  | num (n : Nat)
  | str (s : String)
  | arr (elems : List Json)
  | obj (members : List (String × Json))

/-- `Json::Value::operator[]` on an object; `none` where `isMember` is false. -/
def Json.member? : Json → String → Option Json
  | .obj members, key => (members.find? (·.1 == key)).map (·.2)
  | _, _ => none

@[simp] theorem Json.member?_obj_cons_self (key : String) (value : Json)
    (rest : List (String × Json)) :
    (Json.obj ((key, value) :: rest)).member? key = some value := by
  simp [Json.member?]

/-- What `instance_database.cpp` calls outside this tree. The two filesystem probes are
outcomes of the host; the rest is code of `instance_database_utils.cpp` and
`instance_group_record.cpp`. -/
structure Helpers where
  isValidGroupName : String → Bool
  ensureDirectoryExists : String → Bool
  potentiallyHostArtifactsPath : String → Bool
  isValidInstanceName : String → Bool
  /-- The checks `LocalInstanceGroup::Create` makes before wrapping a proto. -/
  createValid : InstanceGroup → Bool
  /-- The JSON-to-proto half of `LocalInstanceGroup::Deserialize`. -/
  groupFromJson : Json → Option InstanceGroup

/-- Errors of the database, one per failing `CF_EXPECT` or `CHECK` of the source. -/
inductive DbError where
  | illFormedGroupName (name : String)
  | homeUnavailable (home : String)
  | notToolDirectory (path : String)
  | invalidInstanceName (name : String)
  | groupConflict (name home : String)
  | instanceConflict (name : String) (id : UInt32)
  | createFailed (name : String)
  | deserializeFailed
  | missingGroups
  | groupsNotArray
  /-- The `CHECK` of `FindGroups` and `FindInstances`: the daemon aborts. -/
  | failsValidation (name : String)
  deriving DecidableEq, Repr

/-- The texts of `instance_database.cpp`, with the formatted values in place. -/
def DbError.message : DbError → String
  | .illFormedGroupName name => "GroupName \"" ++ name ++ "\" is ill-formed."
  | .homeUnavailable home => "HOME dir, \"" ++ home ++ "\" neither exists nor can be created."
  | .notToolDirectory path => "ANDROID_HOST_OUT, \"" ++ path ++ "\" is not a tool directory"
  | .invalidInstanceName name => "instance_name \"" ++ name ++ "\" is invalid"
  | .groupConflict name home =>
    "New group conflicts with existing group: " ++ name ++ " at " ++ home
  | .instanceConflict name id =>
    "New instance conflicts with existing instance: " ++ name ++ " with id " ++ toString id
  | .createFailed name => "LocalInstanceGroup::Create failed for " ++ name
  | .deserializeFailed => "LocalInstanceGroup::Deserialize failed"
  | .missingGroups => "db_json.isMember(kJsonGroups)"
  | .groupsNotArray => "group_array.isArray()"
  | .failsValidation name => "Instance group from database fails validation: " ++ name

/-- `LocalInstance`: an instance seen through its group. The device names of
`instance_record.cpp` are derived from these by a rule outside the repository. -/
structure LocalInstance where
  instanceId : UInt32
  groupName : String
  perInstanceName : String
  deriving DecidableEq, Repr

/-- `LocalInstance::InternalName`: the constructor's `std::to_string` of the id. -/
def LocalInstance.internalName (i : LocalInstance) : String := toString i.instanceId

variable (h : Helpers)

/-- A group that passed `LocalInstanceGroup::Create`; no other value can be built. -/
structure LocalInstanceGroup where
  proto : InstanceGroup
  valid : h.createValid proto = true

namespace LocalInstanceGroup

variable {h}

/-- `LocalInstanceGroup::Create`: validate, then wrap the proto. -/
def create (group : InstanceGroup) : Except DbError (LocalInstanceGroup h) :=
  if hv : h.createValid group = true then .ok ⟨group, hv⟩ else .error (.createFailed group.name)

/-- `LocalInstanceGroup::Deserialize`: parse the proto, then `Create`. -/
def deserialize (json : Json) : Except DbError (LocalInstanceGroup h) :=
  match h.groupFromJson json with
  | some group => create group
  | none => .error .deserializeFailed

/-- `LocalInstanceGroup::Instances`, in proto order. -/
def instances (g : LocalInstanceGroup h) : List LocalInstance :=
  g.proto.instances.map fun i => ⟨i.id, g.proto.name, i.name⟩

/-- `LocalInstanceGroup::FindById`. -/
def findById (g : LocalInstanceGroup h) (id : UInt32) : List LocalInstance :=
  g.instances.filter (·.instanceId == id)

/-- `LocalInstanceGroup::FindByInstanceName`. -/
def findByInstanceName (g : LocalInstanceGroup h) (name : String) : List LocalInstance :=
  g.instances.filter (·.perInstanceName == name)

private theorem isEmpty_filter_map {α β : Type} (l : List α) (f : α → β) (p : β → Bool) :
    ((l.map f).filter p).isEmpty = !l.any (fun a => p (f a)) := by
  induction l with
  | nil => rfl
  | cons a l ih => cases hp : p (f a) <;> simp [List.filter_cons, hp, ih]

@[ext] theorem ext {a b : LocalInstanceGroup h} (hp : a.proto = b.proto) : a = b := by
  cases a; cases b; cases hp; rfl

/-- `Create` succeeds exactly on the groups its checks accept, and keeps the proto. -/
theorem create_eq_ok {group : InstanceGroup} {g : LocalInstanceGroup h} :
    create group = .ok g ↔ g.proto = group := by
  unfold create
  split
  · next hv =>
    exact ⟨fun he => by cases he; rfl, fun hp => by rw [Except.ok.injEq]; ext; exact hp.symm⟩
  · next hv => exact ⟨nofun, fun hp => absurd (hp ▸ g.valid) hv⟩

theorem create_of_valid {group : InstanceGroup} (hv : h.createValid group = true) :
    create group = .ok ⟨group, hv⟩ := by
  simp [create, hv]

theorem create_of_invalid {group : InstanceGroup} (hv : h.createValid group = false) :
    create (h := h) group = .error (.createFailed group.name) := by
  simp [create, hv]

/-- `FindById` is non-empty exactly when some instance of the proto has that id. -/
theorem findById_isEmpty (g : LocalInstanceGroup h) (id : UInt32) :
    (g.findById id).isEmpty = !g.proto.instances.any (·.id == id) :=
  isEmpty_filter_map _ _ _

/-- `FindByInstanceName` is non-empty exactly when some instance has that name. -/
theorem findByInstanceName_isEmpty (g : LocalInstanceGroup h) (name : String) :
    (g.findByInstanceName name).isEmpty = !g.proto.instances.any (·.name == name) :=
  isEmpty_filter_map _ _ _

end LocalInstanceGroup

/-! ### A host on which the rules of §3 hold -/

/-- Modelled from the spec: the name rule of §3 R4, `[A-Za-z_][A-Za-z0-9_]*`. -/
def isWellFormedName (s : String) : Bool :=
  match s.data with
  | [] => false
  | c :: cs => (c.isAlpha || c == '_') && cs.all fun c => c.isAlphanum || c == '_'

/-- Modelled from the spec: one serialized instance, an object with `id` and `name`. -/
def instanceOfJson (json : Json) : Option Instance :=
  match json.member? "id", json.member? "name" with
  | some (.num id), some (.str name) =>
    if id < UInt32.size then some ⟨id.toUInt32, name⟩ else none
  | _, _ => none

/-- Modelled from the spec: one serialized group as §6's import format holds it. -/
def groupOfJson (json : Json) : Option InstanceGroup :=
  match json.member? "name", json.member? "home_directory", json.member? "host_artifacts_path",
      json.member? "instances" with
  | some (.str name), some (.str home), some (.str host), some (.arr elems) =>
    (elems.mapM instanceOfJson).map (⟨name, home, host, ·⟩)
  | _, _, _, _ => none

/-- Modelled from the spec: names follow R4, every home can be created, every artifacts
path is a toolkit, and `Create` re-checks the names and that the home is absolute (R3). -/
def specHelpers : Helpers where
  isValidGroupName := isWellFormedName
  ensureDirectoryExists _ := true
  potentiallyHostArtifactsPath _ := true
  isValidInstanceName := isWellFormedName
  createValid g := isWellFormedName g.name && g.homeDirectory.data.head? == some '/' &&
    g.instances.all (isWellFormedName ·.name)
  groupFromJson := groupOfJson

end Cuttlefish.Selector
