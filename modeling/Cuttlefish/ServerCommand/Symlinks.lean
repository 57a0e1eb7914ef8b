import Mathlib.Data.List.Basic
import Cuttlefish.Common.Decimal
import Cuttlefish.ServerCommand.InstanceArgs

/-!
# Symlinks of the default group

`EnsureSymlink` and `CvdStartCommandHandler::CreateSymlinks` (`server_command/start.cpp:142–157`
and `602–634`), which `LaunchDeviceInterruptible` runs for a default group once the launch
succeeded (lines 834–840). The host filesystem is a map from literal paths, probed without
following a final link as `DirectoryExists` and `FileExists` do here; every call may fail,
with the text of `errno` the host answers.

When every call succeeds, `EnsureSymlink` leaves a link at its path and touches nothing
outside that path and what lay under it (`ensureLink_self`, `ensureLink_frame`); whichever
call fails, its error names the link (`ensureSymlink_error_names_link`).
`CreateSymlinks` folds the minimum id from `std::numeric_limits<unsigned>::max()` and takes
that value as the sign of an empty group (line 627): a group whose ids are all the maximum
makes it fail although the group has instances (`createSymlinks_max_id`). Otherwise every
link of §6 holds at the end, the runtime link on the smallest id (`createSymlinks_links`).
-/

namespace Cuttlefish.ServerCommand

open Cuttlefish

/-! ### The host filesystem -/

/-- What a path names, looked at without following a final symbolic link. -/
inductive FsEntry where
  | directory
  | file
  | symlink (target : String)
  deriving DecidableEq, Repr

/-- Modelled from the spec: the host filesystem by literal path; §6 probes links without
following them. -/
abbrev HostFs := String → Option FsEntry

/-- `path` lies inside the directory `dir`. -/
def IsUnder (dir path : String) : Prop := (dir ++ "/").data <+: path.data

instance (dir path : String) : Decidable (IsUnder dir path) :=
  inferInstanceAs (Decidable ((dir ++ "/").data <+: path.data))

/-- Modelled from the spec: `EnsureDirectoryExists(path)` that succeeded; a missing path is
then a directory. -/
def HostFs.ensureDirectory (fs : HostFs) (path : String) : HostFs :=
  fun p => if p = path ∧ fs p = none then some .directory else fs p

/-- `RecursivelyRemoveDirectory(dir)` that succeeded: the directory and all it held are gone. -/
def HostFs.removeTree (fs : HostFs) (dir : String) : HostFs :=
  fun p => if p = dir ∨ IsUnder dir p then none else fs p

/-- `RemoveFile(path)` that succeeded. -/
def HostFs.remove (fs : HostFs) (path : String) : HostFs :=
  fun p => if p = path then none else fs p

/-- `symlink(target, link)` that succeeded. -/
def HostFs.link (fs : HostFs) (target link : String) : HostFs :=
  fun p => if p = link then some (.symlink target) else fs p

/-- A filesystem call of `CreateSymlinks`. -/
inductive FsCall where
  | ensureDirectoryExists (path : String)
  | recursivelyRemoveDirectory (path : String)
  | removeFile (path : String)
  | symlink (target link : String)
  deriving DecidableEq, Repr

/-- The host's answers to the calls `CreateSymlinks` makes. -/
structure SymlinkHost where
  /-- `SystemWideUserHome()`. -/
  systemWideUserHome : Except String String
  /-- `none` when the call succeeds, otherwise its error: the text of `errno` it left, or
  the message of `EnsureDirectoryExists`. -/
  fails : FsCall → Option String

/-! ### The source -/

/-- `EnsureSymlink(target, link)`, lines 144–157. -/
def ensureSymlink (host : SymlinkHost) (target link : String) (fs : HostFs) :
    Except String HostFs := do
  let fs ← if fs link = some .directory then
      match host.fails (.recursivelyRemoveDirectory link) with
      | some _ => throw ("Failed to remove legacy directory \"" ++ link ++ "\"")
      | none => pure (fs.removeTree link)
    else pure fs
  let fs ← if (fs link).isSome then
      match host.fails (.removeFile link) with
      | some err => throw ("Failed to remove file \"" ++ link ++ "\": " ++ err)
      | none => pure (fs.remove link)
    else pure fs
  match host.fails (.symlink target link) with
  | some err => throw ("symlink(\"" ++ target ++ "\", \"" ++ link ++ "\") failed: " ++ err)
  | none => pure (fs.link target link)

/-- `std::numeric_limits<unsigned>::max()`. -/
def unsignedMax : Nat := 4294967295

/-- The loop of lines 609–624: fold the smallest id, and ensure the three links of each
instance in turn. -/
def createSymlinksLoop (host : SymlinkHost) (home systemWideHome : String) :
    List Nat → Nat → HostFs → Except String (Nat × HostFs)
  | [], smallestId, fs => .ok (smallestId, fs)
  | id :: rest, smallestId, fs => do
    let smallestId := min smallestId id
    let fs ← ensureSymlink host (home ++ "/cuttlefish/instances/cvd-" ++ Nat.repr id)
      (systemWideHome ++ "/cuttlefish_runtime." ++ Nat.repr id) fs
    let fs ← ensureSymlink host (home ++ "/cuttlefish") (systemWideHome ++ "/cuttlefish") fs
    let fs ← ensureSymlink host (home ++ "/cuttlefish/assembly/cuttlefish_config.json")
      (systemWideHome ++ "/.cuttlefish_config.json") fs
    createSymlinksLoop host home systemWideHome rest smallestId fs

/-- `CvdStartCommandHandler::CreateSymlinks`, lines 604–634. The message of line 628 is the
one `CF_EXPECT_NE` is given. -/
def createSymlinks (host : SymlinkHost) (info : GroupCreationInfo) (fs : HostFs) :
    Except String HostFs := do
  match host.fails (.ensureDirectoryExists info.home) with
  | some err => throw err
  | none =>
    let systemWideHome ← host.systemWideUserHome
    let (smallestId, fs) ← createSymlinksLoop host info.home systemWideHome info.instanceIds
      unsignedMax (fs.ensureDirectory info.home)
    expect (unsignedMax != smallestId)
      "The group did not have any instance, which is not expected."
    ensureSymlink host (systemWideHome ++ "/cuttlefish_runtime." ++ Nat.repr smallestId)
      (systemWideHome ++ "/cuttlefish_runtime") fs

/-! ### When every call succeeds -/

/-- What `EnsureSymlink(target, link)` leaves when every call succeeds. -/
def HostFs.ensureLink (fs : HostFs) (target link : String) : HostFs :=
  let cleared := if fs link = some .directory then fs.removeTree link else fs
  (if (cleared link).isSome then cleared.remove link else cleared).link target link

/-- The links `(target, link)` ensured in order, when every call succeeds. -/
def HostFs.applyLinks (fs : HostFs) (links : List (String × String)) : HostFs :=
  links.foldl (fun fs l => fs.ensureLink l.1 l.2) fs

theorem ensureSymlink_ok {host : SymlinkHost} (hok : ∀ c, host.fails c = none)
    (target link : String) (fs : HostFs) :
    ensureSymlink host target link fs = .ok (fs.ensureLink target link) := by
  unfold ensureSymlink HostFs.ensureLink
  simp only [hok, apply_ite (· >>= _), pure_bind]
  split_ifs <;> rfl

/-- Every error of `EnsureSymlink` names the link it was making. -/
theorem ensureSymlink_error_names_link {host : SymlinkHost} {target link : String}
    {fs : HostFs} {e : String} (h : ensureSymlink host target link fs = .error e) :
    ∃ pre post, e = pre ++ link ++ post := by
  unfold ensureSymlink at h
  simp only [pure_bind, throw, throwThe, MonadExceptOf.throw, except_bind_error] at h
  repeat' split at h
  all_goals cases h
  all_goals first | exact ⟨_, _, String.append_assoc _ _ _⟩ | exact ⟨_, _, rfl⟩

/-- The link is made. -/
@[simp] theorem HostFs.ensureLink_self (fs : HostFs) (target link : String) :
    fs.ensureLink target link link = some (.symlink target) := by
  simp [HostFs.ensureLink, HostFs.link]

/-- Nothing outside the link's path and what lay under it changes. -/
theorem HostFs.ensureLink_frame {p link : String} (hne : p ≠ link) (hunder : ¬ IsUnder link p)
    (fs : HostFs) (target : String) : fs.ensureLink target link p = fs p := by
  simp only [HostFs.ensureLink, HostFs.link, if_neg hne]
  split_ifs <;> simp only [HostFs.remove, HostFs.removeTree, hne, hunder, or_self, if_false]

theorem HostFs.applyLinks_frame {p : String} {links : List (String × String)}
    (h : ∀ l ∈ links, p ≠ l.2 ∧ ¬ IsUnder l.2 p) (fs : HostFs) :
    fs.applyLinks links p = fs p := by
  induction links generalizing fs with
  | nil => rfl
  | cons l rest ih =>
    simp only [List.mem_cons, forall_eq_or_imp] at h
    rw [HostFs.applyLinks, List.foldl_cons, ← HostFs.applyLinks, ih h.2,
      HostFs.ensureLink_frame h.1.1 h.1.2]

/-- A path that every link naming it points at one target, and that no other link contains,
ends up a link to that target. -/
theorem HostFs.applyLinks_last {target p : String} {links : List (String × String)}
    (hmem : (target, p) ∈ links) (htarget : ∀ l ∈ links, l.2 = p → l.1 = target)
    (hothers : ∀ l ∈ links, l.2 ≠ p → ¬ IsUnder l.2 p) (fs : HostFs) :
    fs.applyLinks links p = some (.symlink target) := by
  induction links generalizing fs with
  | nil => cases hmem
  | cons l rest ih =>
    simp only [List.mem_cons, forall_eq_or_imp] at htarget hothers
    rw [HostFs.applyLinks, List.foldl_cons, ← HostFs.applyLinks]
    by_cases hrest : (target, p) ∈ rest
    · exact ih hrest htarget.2 hothers.2 _
    · obtain rfl : l = (target, p) := ((List.mem_cons.1 hmem).resolve_right hrest).symm
      rw [HostFs.applyLinks_frame (fun l hl => ?_), HostFs.ensureLink_self]
      have hne : p ≠ l.2 := fun h => hrest (by rw [← htarget.2 l hl h.symm, h]; exact hl)
      exact ⟨hne, hothers.2 l hl (Ne.symm hne)⟩

/-! ### Paths of one directory -/

/-- Two paths of `dir` are the same only for the same leaf. -/
theorem sibling_eq_iff {dir a b : String} : dir ++ "/" ++ a = dir ++ "/" ++ b ↔ a = b := by
  simp only [String.ext_iff, String.data_append, List.append_assoc, List.append_cancel_left_eq]

/-- A path of `dir` whose leaf has no `/` lies under no path of `dir`. -/
theorem not_isUnder_sibling {dir a b : String} (hb : '/' ∉ b.data) :
    ¬ IsUnder (dir ++ "/" ++ a) (dir ++ "/" ++ b) := by
  intro h
  simp only [IsUnder, String.data_append, List.append_assoc, List.prefix_append_right_inj] at h
  exact hb (h.subset (List.mem_append_right _ (by decide)))

/-- The leaf of the runtime link of instance `id` (line 617) has no `/`. -/
theorem slash_not_mem_runtime (id : Nat) : '/' ∉ ("cuttlefish_runtime." ++ Nat.repr id).data := by
  simp only [String.data_append, List.mem_append, not_or]
  exact ⟨by decide, fun h => absurd (isDigit_of_mem_repr h) (by decide)⟩

/-- Runtime links of two instances are the same only for the same id. -/
theorem runtime_leaf_inj {a b : Nat}
    (h : "cuttlefish_runtime." ++ Nat.repr a = "cuttlefish_runtime." ++ Nat.repr b) : a = b := by
  rw [String.ext_iff, String.data_append, String.data_append, List.append_cancel_left_eq,
    ← String.ext_iff] at h
  simpa using congrArg parseUnsigned h

/-! The system-wide links of lines 617, 620, 623 and 631 as paths of the system-wide home. -/

theorem runtime_path (dir : String) (id : Nat) :
    dir ++ "/cuttlefish_runtime." ++ Nat.repr id =
      dir ++ "/" ++ ("cuttlefish_runtime." ++ Nat.repr id) := by
  simp only [String.append_assoc]; rfl

theorem cuttlefish_path (dir : String) : dir ++ "/cuttlefish" = dir ++ "/" ++ "cuttlefish" := by
  rw [String.append_assoc]; rfl

theorem config_path (dir : String) :
    dir ++ "/.cuttlefish_config.json" = dir ++ "/" ++ ".cuttlefish_config.json" := by
  rw [String.append_assoc]; rfl

theorem runtime_link_path (dir : String) :
    dir ++ "/cuttlefish_runtime" = dir ++ "/" ++ "cuttlefish_runtime" := by
  rw [String.append_assoc]; rfl

/-- Links side by side in one directory, no path linked to two targets, all hold at the end. -/
theorem HostFs.applyLinks_of_mem {dir : String} {links : List (String × String)}
    (hdir : ∀ l ∈ links, ∃ b, l.2 = dir ++ "/" ++ b ∧ '/' ∉ b.data)
    (hfun : ∀ l ∈ links, ∀ l' ∈ links, l.2 = l'.2 → l.1 = l'.1) {target link : String}
    (hmem : (target, link) ∈ links) (fs : HostFs) :
    fs.applyLinks links link = some (.symlink target) := by
  refine HostFs.applyLinks_last hmem (fun l hl h => hfun l hl _ hmem h) (fun l hl _ => ?_) fs
  obtain ⟨a, ha, -⟩ := hdir l hl
  obtain ⟨b, hb, hslash⟩ := hdir _ hmem
  rw [ha, show link = _ from hb]
  exact not_isUnder_sibling hslash

/-! ### The loop -/

/-- The links `(target, link)` one round of the loop ensures, lines 615–623. -/
def instanceLinks (home systemWideHome : String) (id : Nat) : List (String × String) :=
  [(home ++ "/cuttlefish/instances/cvd-" ++ Nat.repr id,
      systemWideHome ++ "/cuttlefish_runtime." ++ Nat.repr id),
    (home ++ "/cuttlefish", systemWideHome ++ "/cuttlefish"),
    (home ++ "/cuttlefish/assembly/cuttlefish_config.json",
      systemWideHome ++ "/.cuttlefish_config.json")]

/-- When every call succeeds, the loop folds the minimum and ensures the links of every id. -/
theorem createSymlinksLoop_ok {host : SymlinkHost} (hok : ∀ c, host.fails c = none)
    (home systemWideHome : String) (ids : List Nat) (smallestId : Nat) (fs : HostFs) :
    createSymlinksLoop host home systemWideHome ids smallestId fs =
      .ok (ids.foldl min smallestId,
        fs.applyLinks (ids.flatMap (instanceLinks home systemWideHome))) := by
  induction ids generalizing smallestId fs with
  | nil => rfl
  | cons id rest ih =>
    simp only [createSymlinksLoop, ensureSymlink_ok hok, except_bind_ok, ih, List.foldl_cons,
      List.flatMap_cons, HostFs.applyLinks, List.foldl_append]
    rfl

/-- The folded minimum is below its start. -/
theorem foldl_min_le_init (ids : List Nat) (m : Nat) : ids.foldl min m ≤ m := by
  induction ids generalizing m with
  | nil => exact le_rfl
  | cons x rest ih => exact (ih _).trans (Nat.min_le_left m x)

/-- The folded minimum is below every id. -/
theorem foldl_min_le_of_mem {ids : List Nat} {id : Nat} (h : id ∈ ids) (m : Nat) :
    ids.foldl min m ≤ id := by
  induction ids generalizing m with
  | nil => cases h
  | cons x rest ih =>
    rcases List.mem_cons.1 h with rfl | h
    · exact (foldl_min_le_init rest _).trans (Nat.min_le_right m _)
    · exact ih h _

/-- The folded minimum is its start or one of the ids. -/
theorem foldl_min_mem {ids : List Nat} {m : Nat} :
    ids.foldl min m = m ∨ ids.foldl min m ∈ ids := by
  induction ids generalizing m with
  | nil => exact Or.inl rfl
  | cons x rest ih =>
    rw [List.foldl_cons, List.mem_cons]
    rcases ih with h | h
    · rcases Nat.le_total m x with hm | hm
      · exact Or.inl (h.trans (Nat.min_eq_left hm))
      · exact Or.inr (Or.inl (h.trans (Nat.min_eq_right hm)))
    · exact Or.inr (Or.inr h)

/-! ### The whole run -/

/-- The links `CreateSymlinks` ensures when every call succeeds, `m` being the smallest id:
those of the loop, then the runtime link of lines 629–632. -/
def runLinks (home systemWideHome : String) (ids : List Nat) (m : Nat) :
    List (String × String) :=
  ids.flatMap (instanceLinks home systemWideHome) ++
    [(systemWideHome ++ "/cuttlefish_runtime." ++ Nat.repr m,
      systemWideHome ++ "/cuttlefish_runtime")]

theorem mem_runLinks {home systemWideHome : String} {ids : List Nat} {m : Nat}
    {l : String × String} (hl : l ∈ runLinks home systemWideHome ids m) :
    (∃ id ∈ ids, l = (home ++ "/cuttlefish/instances/cvd-" ++ Nat.repr id,
        systemWideHome ++ "/cuttlefish_runtime." ++ Nat.repr id)) ∨
      l = (home ++ "/cuttlefish", systemWideHome ++ "/cuttlefish") ∨
      l = (home ++ "/cuttlefish/assembly/cuttlefish_config.json",
        systemWideHome ++ "/.cuttlefish_config.json") ∨
      l = (systemWideHome ++ "/cuttlefish_runtime." ++ Nat.repr m,
        systemWideHome ++ "/cuttlefish_runtime") := by
  simp only [runLinks, instanceLinks, List.mem_append, List.mem_flatMap, List.mem_cons,
    List.mem_singleton, List.not_mem_nil, or_false] at hl
  rcases hl with ⟨id, hid, rfl | rfl | rfl⟩ | rfl
  · exact Or.inl ⟨id, hid, rfl⟩
  · exact Or.inr (Or.inl rfl)
  · exact Or.inr (Or.inr (Or.inl rfl))
  · exact Or.inr (Or.inr (Or.inr rfl))

/-- Every link of the run is a path of the system-wide home whose leaf has no `/`. -/
theorem runLinks_in_home {home systemWideHome : String} {ids : List Nat} {m : Nat} :
    ∀ l ∈ runLinks home systemWideHome ids m,
      ∃ b, l.2 = systemWideHome ++ "/" ++ b ∧ '/' ∉ b.data := by
  intro l hl
  rcases mem_runLinks hl with ⟨id, -, rfl⟩ | rfl | rfl | rfl
  · exact ⟨_, runtime_path _ id, slash_not_mem_runtime id⟩
  · exact ⟨_, cuttlefish_path _, by decide⟩
  · exact ⟨_, config_path _, by decide⟩
  · exact ⟨_, runtime_link_path _, by decide⟩

/-- No path of the run is linked to two targets: leaves name their links. -/
theorem runLinks_functional {home systemWideHome : String} {ids : List Nat} {m : Nat} :
    ∀ l ∈ runLinks home systemWideHome ids m, ∀ l' ∈ runLinks home systemWideHome ids m,
      l.2 = l'.2 → l.1 = l'.1 := by
  intro l hl l' hl' h
  rcases mem_runLinks hl with ⟨id, -, rfl⟩ | rfl | rfl | rfl <;>
    rcases mem_runLinks hl' with ⟨id', -, rfl⟩ | rfl | rfl | rfl <;>
    simp only [runtime_path, cuttlefish_path, config_path, runtime_link_path,
      sibling_eq_iff] at h ⊢
  all_goals first | rfl | rw [runtime_leaf_inj h] | exact absurd h (of_decide_eq_true rfl)

/-- When every call succeeds and the smallest id is not the sentinel, `CreateSymlinks` ensures
the links of the run in order. -/
theorem createSymlinks_eq_ok {host : SymlinkHost} {systemWideHome : String}
    (hhome : host.systemWideUserHome = .ok systemWideHome) (hok : ∀ c, host.fails c = none)
    {info : GroupCreationInfo} (hm : unsignedMax ≠ info.instanceIds.foldl min unsignedMax)
    (fs : HostFs) :
    createSymlinks host info fs = .ok ((fs.ensureDirectory info.home).applyLinks
      (runLinks info.home systemWideHome info.instanceIds
        (info.instanceIds.foldl min unsignedMax))) := by
  simp only [createSymlinks, hok, hhome, except_bind_ok, createSymlinksLoop_ok hok]
  rw [bne_iff_ne.2 hm, expect_true, except_bind_ok, ensureSymlink_ok hok]
  simp only [runLinks, HostFs.applyLinks, List.foldl_append, List.foldl_cons, List.foldl_nil]

/-! ### Ids at the top of the unsigned range -/

theorem createSymlinks_max_id {host : SymlinkHost} {systemWideHome : String}
    (hhome : host.systemWideUserHome = .ok systemWideHome) (hok : ∀ c, host.fails c = none)
    {info : GroupCreationInfo} (hmax : ∀ id ∈ info.instanceIds, id = unsignedMax)
    (fs : HostFs) :
    createSymlinks host info fs =
      .error "The group did not have any instance, which is not expected." := by
  have hsmallest : info.instanceIds.foldl min unsignedMax = unsignedMax :=
    le_antisymm (foldl_min_le_init _ _) (foldl_min_mem.elim (·.ge) fun h => (hmax _ h).ge)
  simp only [createSymlinks, hok, hhome, except_bind_ok, createSymlinksLoop_ok hok]
  rw [hsmallest, bne_self_eq_false, expect_false]
  rfl

/-- A group whose one instance has id `4294967295`, every call succeeding. -/
theorem createSymlinks_max_id_single :
    createSymlinks ⟨.ok "/home/user", fun _ => none⟩
        ⟨"/home/cvd", "/host", "/product", "cvd", [4294967295], [], fun _ => none⟩
        (fun _ => none) =
      .error "The group did not have any instance, which is not expected." :=
  createSymlinks_max_id rfl (fun _ => rfl) (by decide) _

/-! ### Every other group -/

/-- When every call succeeds and some id is below the sentinel, `CreateSymlinks` succeeds and
every link of §6 holds: the runtime link of each instance, the `cuttlefish` and configuration
links, and `cuttlefish_runtime` on the smallest id. -/
theorem createSymlinks_links {host : SymlinkHost} {systemWideHome : String}
    (hhome : host.systemWideUserHome = .ok systemWideHome) (hok : ∀ c, host.fails c = none)
    {info : GroupCreationInfo} (hbelow : ∃ id ∈ info.instanceIds, id < unsignedMax)
    (fs : HostFs) :
    ∃ fs', createSymlinks host info fs = .ok fs' ∧
      (∀ id ∈ info.instanceIds, fs' (systemWideHome ++ "/cuttlefish_runtime." ++ Nat.repr id) =
        some (.symlink (info.home ++ "/cuttlefish/instances/cvd-" ++ Nat.repr id))) ∧
      fs' (systemWideHome ++ "/cuttlefish") = some (.symlink (info.home ++ "/cuttlefish")) ∧
      fs' (systemWideHome ++ "/.cuttlefish_config.json") =
        some (.symlink (info.home ++ "/cuttlefish/assembly/cuttlefish_config.json")) ∧
      ∃ m ∈ info.instanceIds, (∀ id ∈ info.instanceIds, m ≤ id) ∧
        fs' (systemWideHome ++ "/cuttlefish_runtime") =
          some (.symlink (systemWideHome ++ "/cuttlefish_runtime." ++ Nat.repr m)) := by
  obtain ⟨id₀, hid₀, hlt⟩ := hbelow
  have hm_lt : info.instanceIds.foldl min unsignedMax < unsignedMax :=
    (foldl_min_le_of_mem hid₀ _).trans_lt hlt
  set links := runLinks info.home systemWideHome info.instanceIds
    (info.instanceIds.foldl min unsignedMax)
  have hholds : ∀ {target link}, (target, link) ∈ links →
      (fs.ensureDirectory info.home).applyLinks links link = some (.symlink target) :=
    fun h => HostFs.applyLinks_of_mem runLinks_in_home runLinks_functional h _
  refine ⟨_, createSymlinks_eq_ok hhome hok hm_lt.ne' fs, fun id hid => hholds ?_, hholds ?_,
    hholds ?_, _, foldl_min_mem.resolve_left hm_lt.ne, fun id hid => foldl_min_le_of_mem hid _,
    hholds (List.mem_append_right _ (List.mem_singleton_self _))⟩
  · exact List.mem_append_left _ (List.mem_flatMap.2 ⟨id, hid, .head _⟩)
  · exact List.mem_append_left _ (List.mem_flatMap.2 ⟨id₀, hid₀, .tail _ (.head _)⟩)
  · exact List.mem_append_left _
      (List.mem_flatMap.2 ⟨id₀, hid₀, .tail _ (.tail _ (.head _))⟩)

/-- A group of the instances `3` and `1`: `cuttlefish_runtime` names instance `1`. -/
theorem createSymlinks_links_pair :
    ∃ fs', createSymlinks ⟨.ok "/home/user", fun _ => none⟩
        ⟨"/home/cvd", "/host", "/product", "cvd", [3, 1], [], fun _ => none⟩ (fun _ => none) =
        .ok fs' ∧
      (∀ id ∈ [3, 1], fs' ("/home/user" ++ "/cuttlefish_runtime." ++ Nat.repr id) =
        some (.symlink ("/home/cvd" ++ "/cuttlefish/instances/cvd-" ++ Nat.repr id))) ∧
      fs' ("/home/user" ++ "/cuttlefish") = some (.symlink ("/home/cvd" ++ "/cuttlefish")) ∧
      fs' ("/home/user" ++ "/.cuttlefish_config.json") =
        some (.symlink ("/home/cvd" ++ "/cuttlefish/assembly/cuttlefish_config.json")) ∧
      ∃ m ∈ [3, 1], (∀ id ∈ [3, 1], m ≤ id) ∧
        fs' ("/home/user" ++ "/cuttlefish_runtime") =
          some (.symlink ("/home/user" ++ "/cuttlefish_runtime." ++ Nat.repr m)) :=
  createSymlinks_links rfl (fun _ => rfl) ⟨1, by decide, by decide⟩ _

end Cuttlefish.ServerCommand
