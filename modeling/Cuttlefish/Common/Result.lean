import Mathlib.Data.List.Basic

/-!
# `Result` and `CF_EXPECT`

`common/libs/utils/result.h` is not in this tree. Its `Result<T>` is modelled by
`Except ε T`, `CF_EXPECT(cond, msg)` by `expect`, and `CF_EXPECT(result)` by `bind`.
The lemmas below peel a successful computation apart, so that callers never unfold a
callee: each bind, each `expect` and each loop over a list is inverted once, here.
-/

namespace Cuttlefish

/-- `CF_EXPECT(cond, msg)`: fail with `e` unless `cond` holds. -/
def expect {ε : Type} (cond : Bool) (e : ε) : Except ε Unit :=
  if cond then .ok () else .error e

variable {ε α β : Type}

@[simp] theorem expect_eq_ok {cond : Bool} {e : ε} {u : Unit} :
    expect cond e = .ok u ↔ cond = true := by
  cases cond <;> simp [expect]

@[simp] theorem expect_true (e : ε) : expect true e = .ok () := rfl

@[simp] theorem expect_false (e : ε) : expect false e = .error e := rfl

@[simp] theorem except_bind_ok (a : α) (f : α → Except ε β) :
    (Except.ok a >>= f) = f a := rfl

@[simp] theorem except_bind_error (e : ε) (f : α → Except ε β) :
    (Except.error e >>= f) = .error e := rfl

@[simp] theorem except_pure (a : α) : (pure a : Except ε α) = .ok a := rfl

/-- A successful bind had a successful first step. -/
theorem except_bind_eq_ok {x : Except ε α} {f : α → Except ε β} {b : β} :
    (x >>= f) = .ok b ↔ ∃ a, x = .ok a ∧ f a = .ok b := by
  cases x <;> simp

/-- A loop of checks over a list succeeds exactly when every check does. -/
theorem forM_eq_ok {l : List α} {f : α → Except ε Unit} :
    l.forM f = .ok () ↔ ∀ a ∈ l, f a = .ok () := by
  induction l with
  | nil => simp [List.forM]
  | cons a l ih =>
    simp only [List.forM, List.mem_cons, forall_eq_or_imp, ← ih]
    cases f a <;> simp

end Cuttlefish
