import Mathlib.Data.List.Basic
import Cuttlefish.Selector.InstanceDatabase

/-!
# Filters built from query lists

`InstanceDatabase::ParamFromQueries` (`selector/instance_database.cpp:119–139`) folds a
client's list of `(field name, field value)` queries into one `FindParam`, each query
setting the field it names. `android::base::ParseInt`, which reads an `instance_id` value,
is outside the repository: every result below ranges over any parser.

The fold fails exactly on an unknown field name or an id `ParseInt` rejects
(`paramFromQueries_isOk_iff`). A later query on a field replaces an earlier one, so the
filter holds the last value of each field (`paramFromQueries_eq_lastValues`), and a group or
an instance meets it exactly when it meets, one by one, the queries that are the last of
their field (`paramFromQueries_last_wins`); earlier queries on a repeated field are dropped
(`paramFromQueries_repeated_field`).
-/

namespace Cuttlefish.Selector

/-- `selector::Query`: the field a client asks about and the value it asks for. -/
structure Query where
  fieldName : String
  fieldValue : String
  deriving DecidableEq, Repr

/-- Modelled from the spec: `kHomeField`, one of §4.C's field-name constants. -/
def kHomeField : String := "home"

/-- Modelled from the spec: `kInstanceIdField`. -/
def kInstanceIdField : String := "instance_id"

/-- Modelled from the spec: `kGroupNameField`. -/
def kGroupNameField : String := "group_name"

/-- Modelled from the spec: `kInstanceNameField`. -/
def kInstanceNameField : String := "instance_name"

/-- The field names `ParamFromQueries` knows, in the order it tests them. -/
def knownFields : List String :=
  [kHomeField, kInstanceIdField, kGroupNameField, kInstanceNameField]

/-- Line 129: the `int` that `ParseInt` read, stored in the `unsigned` field `FindParam::id`,
is its value modulo 2^32. -/
def intToUnsigned (n : Int) : UInt32 := UInt32.ofNat (n % 4294967296).toNat

/-- Why `ParamFromQueries` failed. -/
inductive QueryError where
  /-- Line 127: `ParseInt` rejected the value of an `instance_id` query. -/
  | idNotANumber
  /-- Line 135: a field name none of the four constants. -/
  | unrecognizedFieldName (name : String)
  deriving DecidableEq, Repr

/-- The texts of lines 128 and 135. Line 128 formats `id`, which the failed `ParseInt` left
unwritten, and not the rejected value: `uninitializedId` stands for whatever `id` held. -/
def QueryError.message (uninitializedId : Int) : QueryError → String
  | .idNotANumber => "Id is not a number: " ++ toString uninitializedId
  | .unrecognizedFieldName name => "Unrecognized field name: " ++ name

/-- One round of the loop of lines 122–137. -/
def paramFromQuery (parseInt : String → Option Int) (param : FindParam) (query : Query) :
    Except QueryError FindParam :=
  if query.fieldName = kHomeField then .ok { param with home := some query.fieldValue }
  else if query.fieldName = kInstanceIdField then
    match parseInt query.fieldValue with
    | some id => .ok { param with id := some (intToUnsigned id) }
    | none => .error .idNotANumber
  else if query.fieldName = kGroupNameField then
    .ok { param with groupName := some query.fieldValue }
  else if query.fieldName = kInstanceNameField then
    .ok { param with instanceName := some query.fieldValue }
  else .error (.unrecognizedFieldName query.fieldName)

/-- `InstanceDatabase::ParamFromQueries`, lines 119–139. -/
def paramFromQueries (parseInt : String → Option Int) (queries : List Query) :
    Except QueryError FindParam :=
  queries.foldlM (paramFromQuery parseInt) {}

/-! ### What the fold computes -/

/-- A query `ParamFromQueries` refuses: an unknown field name, or an `instance_id` value
`ParseInt` rejects. -/
def Query.Rejected (parseInt : String → Option Int) (q : Query) : Prop :=
  q.fieldName ∉ knownFields ∨ q.fieldName = kInstanceIdField ∧ parseInt q.fieldValue = none

instance (parseInt : String → Option Int) (q : Query) : Decidable (q.Rejected parseInt) :=
  inferInstanceAs (Decidable (_ ∨ _))

/-- The last query of `queries` that names the field `name`. -/
def lastQuery (name : String) (queries : List Query) : Option Query :=
  queries.reverse.find? (·.fieldName == name)

/-- `q` is the last query of `queries` that names its field. -/
def Query.IsLastIn (queries : List Query) (q : Query) : Prop :=
  lastQuery q.fieldName queries = some q

/-- The filter whose every field holds the value of the last query naming it. -/
def lastValues (parseInt : String → Option Int) (queries : List Query) : FindParam where
  home := (lastQuery kHomeField queries).map (·.fieldValue)
  id := (lastQuery kInstanceIdField queries).bind fun q =>
    (parseInt q.fieldValue).map intToUnsigned
  groupName := (lastQuery kGroupNameField queries).map (·.fieldValue)
  instanceName := (lastQuery kInstanceNameField queries).map (·.fieldValue)

/-! ### One round -/

section Round

variable {parseInt : String → Option Int} {param param' : FindParam} {q : Query}

theorem paramFromQuery_isOk_iff :
    (∃ p, paramFromQuery parseInt param q = .ok p) ↔ ¬ q.Rejected parseInt := by
  unfold paramFromQuery Query.Rejected knownFields
  split_ifs with h₁ h₂ h₃ h₄
  · simp [h₁, kHomeField, kInstanceIdField]
  · cases hp : parseInt q.fieldValue <;> simp [h₂, hp]
  · simp [h₃, kGroupNameField, kInstanceIdField]
  · simp [h₄, kInstanceNameField, kInstanceIdField]
  · simp [h₁, h₂, h₃, h₄]

/-- A round sets the field its query names and keeps the others. -/
theorem paramFromQuery_eq_ok (h : paramFromQuery parseInt param q = .ok param') :
    param' = ⟨if q.fieldName = kHomeField then some q.fieldValue else param.home,
      if q.fieldName = kInstanceIdField then (parseInt q.fieldValue).map intToUnsigned
        else param.id,
      if q.fieldName = kGroupNameField then some q.fieldValue else param.groupName,
      if q.fieldName = kInstanceNameField then some q.fieldValue else param.instanceName⟩ := by
  unfold paramFromQuery at h
  split_ifs at h with h₁ h₂ h₃ h₄ <;> try cases h
  all_goals try cases hp : parseInt q.fieldValue <;> rw [hp] at h <;> cases h
  all_goals simp [*, kHomeField, kInstanceIdField, kGroupNameField, kInstanceNameField]

end Round

/-! ### The whole fold -/

section Fold

variable {parseInt : String → Option Int}

theorem foldlM_paramFromQuery_isOk_iff (queries : List Query) (param : FindParam) :
    (∃ p, queries.foldlM (paramFromQuery parseInt) param = .ok p) ↔
      ∀ q ∈ queries, ¬ q.Rejected parseInt := by
  induction queries generalizing param with
  | nil => exact ⟨fun _ => by simp, fun _ => ⟨param, rfl⟩⟩
  | cons q rest ih =>
    simp only [List.foldlM_cons, List.mem_cons, forall_eq_or_imp]
    rw [← @paramFromQuery_isOk_iff parseInt param q]
    cases paramFromQuery parseInt param q with
    | error e => simp
    | ok p₁ => simp [ih p₁]

/-- `ParamFromQueries` succeeds exactly when no query is refused. -/
theorem paramFromQueries_isOk_iff {queries : List Query} :
    (∃ p, paramFromQueries parseInt queries = .ok p) ↔
      ∀ q ∈ queries, ¬ q.Rejected parseInt :=
  foldlM_paramFromQuery_isOk_iff queries {}

theorem lastQuery_append_singleton (name : String) (queries : List Query) (q : Query) :
    lastQuery name (queries ++ [q]) =
      if q.fieldName = name then some q else lastQuery name queries := by
  by_cases h : q.fieldName = name <;> simp [lastQuery, h]

/-- A successful fold holds, in each field, the value of the last query naming it. -/
theorem paramFromQueries_eq_lastValues {queries : List Query} {p : FindParam}
    (h : paramFromQueries parseInt queries = .ok p) : p = lastValues parseInt queries := by
  induction queries using List.reverseRecOn generalizing p with
  | nil => cases h; rfl
  | append_singleton queries q ih =>
    simp only [paramFromQueries, List.foldlM_append, List.foldlM_cons, List.foldlM_nil,
      bind_pure] at h
    obtain ⟨p₀, h₀, hq⟩ := except_bind_eq_ok.1 h
    rw [paramFromQuery_eq_ok hq, ih h₀]
    simp only [lastValues, lastQuery_append_singleton]
    split_ifs <;> rfl

end Fold

/-! ### What the filter selects -/

/-- The tests §4.C makes of a filter's set fields, one per field. -/
structure FieldTest where
  home : String → Bool
  id : UInt32 → Bool
  groupName : String → Bool
  instanceName : String → Bool

/-- Every set field of the filter passes its test. -/
def FieldTest.holds (t : FieldTest) (p : FindParam) : Bool :=
  p.home.all t.home && p.groupName.all t.groupName && p.id.all t.id &&
    p.instanceName.all t.instanceName

/-- §4.C's tests on a group. -/
def FieldTest.ofGroup (g : InstanceGroup) : FieldTest :=
  ⟨(· == g.homeDirectory), fun id => g.instances.any (·.id == id), (· == g.name),
    fun n => g.instances.any (·.name == n)⟩

/-- §4.C's tests on an instance of a group. -/
def FieldTest.ofInstance (g : InstanceGroup) (i : Instance) : FieldTest :=
  ⟨(· == g.homeDirectory), (· == i.id), (· == g.name), (· == i.name)⟩

theorem selectsGroup_eq_holds (p : FindParam) (g : InstanceGroup) :
    p.selectsGroup g = (FieldTest.ofGroup g).holds p := rfl

theorem selectsInstance_eq_holds (p : FindParam) (g : InstanceGroup) (i : Instance) :
    p.selectsInstance g i = (FieldTest.ofInstance g i).holds p := by
  simp only [FindParam.selectsInstance, FieldTest.holds, FieldTest.ofInstance, Bool.and_assoc,
    Bool.and_left_comm (p.groupName.all _)]

/-- §4.C on one query: the test of the field the query names, on its value, an `instance_id`
value as `ParseInt` reads it and the `unsigned` field stores it. A query on no known field,
or an id `ParseInt` rejects, passes nothing. -/
def Query.passes (parseInt : String → Option Int) (t : FieldTest) (q : Query) : Bool :=
  if q.fieldName = kHomeField then t.home q.fieldValue
  else if q.fieldName = kInstanceIdField then
    match parseInt q.fieldValue with
    | some id => t.id (intToUnsigned id)
    | none => false
  else if q.fieldName = kGroupNameField then t.groupName q.fieldValue
  else if q.fieldName = kInstanceNameField then t.instanceName q.fieldValue
  else false

/-- A group meets query `q` on its own. -/
def Query.selectsGroup (parseInt : String → Option Int) (q : Query) (g : InstanceGroup) : Bool :=
  q.passes parseInt (FieldTest.ofGroup g)

/-- An instance of group `g` meets query `q` on its own. -/
def Query.selectsInstance (parseInt : String → Option Int) (q : Query) (g : InstanceGroup)
    (i : Instance) : Bool :=
  q.passes parseInt (FieldTest.ofInstance g i)

/-! ### The last query of each field decides -/

section Last

variable {parseInt : String → Option Int}

theorem lastQuery_singleton (name : String) (q : Query) :
    lastQuery name [q] = if q.fieldName = name then some q else none := by
  simpa using lastQuery_append_singleton name [] q

theorem lastQuery_eq_some {name : String} {queries : List Query} {q : Query}
    (h : lastQuery name queries = some q) : q ∈ queries ∧ q.fieldName = name := by
  unfold lastQuery at h
  exact ⟨List.mem_reverse.1 (List.mem_of_find?_eq_some h), by simpa using List.find?_some h⟩

theorem option_all_map {α β : Type} (o : Option α) (f : α → β) (p : β → Bool) :
    (o.map f).all p = o.all (p ∘ f) := by
  cases o <;> rfl

theorem option_all_bind {α β : Type} (o : Option α) (f : α → Option β) (p : β → Bool) :
    (o.bind f).all p = o.all fun a => (f a).all p := by
  cases o <;> rfl

/-- The filter of the last values tests each field on the last query naming it. -/
theorem holds_lastValues (t : FieldTest) (queries : List Query) :
    t.holds (lastValues parseInt queries) =
      (((lastQuery kHomeField queries).all fun q => t.holds (lastValues parseInt [q])) &&
        ((lastQuery kGroupNameField queries).all fun q => t.holds (lastValues parseInt [q])) &&
        ((lastQuery kInstanceIdField queries).all fun q => t.holds (lastValues parseInt [q])) &&
        ((lastQuery kInstanceNameField queries).all fun q =>
          t.holds (lastValues parseInt [q]))) := by
  have key : ∀ name (P : Query → Bool),
      (∀ q, q.fieldName = name → t.holds (lastValues parseInt [q]) = P q) →
      ((lastQuery name queries).all fun q => t.holds (lastValues parseInt [q])) =
        (lastQuery name queries).all P := by
    intro name P hP
    cases hq : lastQuery name queries with
    | none => rfl
    | some q => exact hP q (lastQuery_eq_some hq).2
  rw [key kHomeField (fun q => t.home q.fieldValue) ?home,
    key kGroupNameField (fun q => t.groupName q.fieldValue) ?group,
    key kInstanceIdField (fun q => ((parseInt q.fieldValue).map intToUnsigned).all t.id) ?id,
    key kInstanceNameField (fun q => t.instanceName q.fieldValue) ?inst]
  · simp only [FieldTest.holds, lastValues, option_all_map, option_all_bind]; rfl
  all_goals intro q hf; simp [FieldTest.holds, lastValues, lastQuery_singleton, hf, kHomeField,
    kGroupNameField, kInstanceIdField, kInstanceNameField]

theorem option_all_iff {α : Type} (o : Option α) (p : α → Bool) :
    o.all p = true ↔ ∀ a, o = some a → p a = true := by
  cases o <;> simp

/-- On queries none of which is refused, the filter of the last values passes the tests
exactly when each query that is the last of its field passes them on its own. -/
theorem holds_lastValues_iff {queries : List Query} (hq : ∀ q ∈ queries, ¬ q.Rejected parseInt)
    (t : FieldTest) :
    t.holds (lastValues parseInt queries) = true ↔
      ∀ q ∈ queries, q.IsLastIn queries → t.holds (lastValues parseInt [q]) = true := by
  rw [holds_lastValues]
  simp only [Bool.and_eq_true, option_all_iff]
  constructor
  · rintro ⟨⟨⟨hhome, hgroup⟩, hid⟩, hinst⟩ q hmem hlast
    have hknown : q.fieldName ∈ knownFields := by
      simpa [Query.Rejected] using (not_or.1 (hq q hmem)).1
    simp only [knownFields, List.mem_cons, List.mem_singleton, List.not_mem_nil, or_false]
      at hknown
    unfold Query.IsLastIn at hlast
    rcases hknown with h | h | h | h <;> rw [h] at hlast
    · exact hhome q hlast
    · exact hid q hlast
    · exact hgroup q hlast
    · exact hinst q hlast
  · intro H
    have last : ∀ name q, lastQuery name queries = some q →
        t.holds (lastValues parseInt [q]) = true := fun name q hlast =>
      H q (lastQuery_eq_some hlast).1
        (by rw [Query.IsLastIn, (lastQuery_eq_some hlast).2]; exact hlast)
    exact ⟨⟨⟨last _, last _⟩, last _⟩, last _⟩

/-- A query that is not refused passes the tests on its own exactly when the filter of its
value does. -/
theorem holds_lastValues_singleton {q : Query} (hq : ¬ q.Rejected parseInt) (t : FieldTest) :
    t.holds (lastValues parseInt [q]) = q.passes parseInt t := by
  have hknown : q.fieldName ∈ knownFields := by simpa [Query.Rejected] using (not_or.1 hq).1
  simp only [knownFields, List.mem_cons, List.mem_singleton, List.not_mem_nil, or_false]
    at hknown
  rcases hknown with h | h | h | h
  case inr.inl =>
    obtain ⟨n, hn⟩ := Option.ne_none_iff_exists'.1 (not_and.1 (not_or.1 hq).2 h)
    simp [FieldTest.holds, lastValues, lastQuery_singleton, Query.passes, h, hn, kHomeField,
      kInstanceIdField, kGroupNameField, kInstanceNameField]
  all_goals simp [FieldTest.holds, lastValues, lastQuery_singleton, Query.passes, h,
    kHomeField, kInstanceIdField, kGroupNameField, kInstanceNameField]

theorem Query.selectsGroup_of_not_rejected {q : Query} (hq : ¬ q.Rejected parseInt)
    (g : InstanceGroup) :
    q.selectsGroup parseInt g = (FieldTest.ofGroup g).holds (lastValues parseInt [q]) :=
  (holds_lastValues_singleton hq _).symm

theorem Query.selectsInstance_of_not_rejected {q : Query} (hq : ¬ q.Rejected parseInt)
    (g : InstanceGroup) (i : Instance) :
    q.selectsInstance parseInt g i =
      (FieldTest.ofInstance g i).holds (lastValues parseInt [q]) :=
  (holds_lastValues_singleton hq _).symm

end Last

/-- `ParamFromQueries` fails exactly on a refused query. When it succeeds, a group (and an
instance in its group) meets the filter exactly when it meets, one by one, the queries that
are the last of their field. -/
theorem paramFromQueries_last_wins (parseInt : String → Option Int) (queries : List Query) :
    ((∃ e, paramFromQueries parseInt queries = .error e) ↔
      ∃ q ∈ queries, q.Rejected parseInt) ∧
    ∀ p, paramFromQueries parseInt queries = .ok p →
      (∀ g, p.selectsGroup g = true ↔
        ∀ q ∈ queries, q.IsLastIn queries → q.selectsGroup parseInt g = true) ∧
      (∀ g i, p.selectsInstance g i = true ↔
        ∀ q ∈ queries, q.IsLastIn queries → q.selectsInstance parseInt g i = true) := by
  refine ⟨?_, fun p hp => ?_⟩
  · have hok := @paramFromQueries_isOk_iff parseInt queries
    revert hok
    cases paramFromQueries parseInt queries <;> simp
  · have hq := paramFromQueries_isOk_iff.1 ⟨p, hp⟩
    rw [paramFromQueries_eq_lastValues hp]
    refine ⟨fun g => ?_, fun g i => ?_⟩
    · rw [selectsGroup_eq_holds, holds_lastValues_iff hq]
      refine forall₂_congr fun q hmem => ?_
      rw [Query.selectsGroup_of_not_rejected (hq q hmem)]
    · rw [selectsInstance_eq_holds, holds_lastValues_iff hq]
      refine forall₂_congr fun q hmem => ?_
      rw [Query.selectsInstance_of_not_rejected (hq q hmem)]

/-- A group-name query and an id query, read by a parser that accepts `"1"`: the filter holds
both, and selects the groups that both queries select. -/
theorem paramFromQueries_last_wins_group_and_id :
    paramFromQueries (fun s => if s = "1" then some 1 else none)
        [⟨kGroupNameField, "cvd"⟩, ⟨kInstanceIdField, "1"⟩] =
        .ok { id := some (intToUnsigned 1), groupName := some "cvd" } ∧
      ∀ g, FindParam.selectsGroup { id := some (intToUnsigned 1), groupName := some "cvd" } g =
          true ↔
        ∀ q ∈ [(⟨kGroupNameField, "cvd"⟩ : Query), ⟨kInstanceIdField, "1"⟩],
          q.IsLastIn [⟨kGroupNameField, "cvd"⟩, ⟨kInstanceIdField, "1"⟩] →
            q.selectsGroup (fun s => if s = "1" then some 1 else none) g = true :=
  ⟨rfl, ((paramFromQueries_last_wins (fun s => if s = "1" then some 1 else none)
    [⟨kGroupNameField, "cvd"⟩, ⟨kInstanceIdField, "1"⟩]).2 _ rfl).1⟩

/-- Two group-name queries: the filter keeps only the second, and selects a group named
after it that the first query alone does not select (no id is read, so any parser will do). -/
theorem paramFromQueries_repeated_field :
    paramFromQueries (fun _ => none) [⟨kGroupNameField, "a"⟩, ⟨kGroupNameField, "b"⟩] =
        .ok { groupName := some "b" } ∧
      FindParam.selectsGroup { groupName := some "b" } ⟨"b", "/home/b", "/host", []⟩ = true ∧
      Query.selectsGroup (fun _ => none) ⟨kGroupNameField, "a"⟩ ⟨"b", "/home/b", "/host", []⟩ =
        false :=
  ⟨rfl, rfl, rfl⟩

end Cuttlefish.Selector
