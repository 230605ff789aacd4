import Kotlinize.Kotlin.Code

/-!
# Null along chains of accesses

An expression that ends a chain of accesses and calls, as `a.b().c`, may be null
because some part of the chain was. Two recursions deal with this: `Expr.isNullable`
says of each part whether null is expected of it, and the writer asks it for every
receiver and writes a safe call where it says so. Here both are held against what
the code does when it runs.

A run is known by which expressions are null in it, and `IsEvaluation` says what any
run obeys: flags say where null may arise, and a safe call on null is null. The flag
of a member says nothing about its receiver, and nullability is the flag alone. So
the null that a safe call passes on is not expected of its result
(`safe_call_result_is_unexpected`), and this is the one way in which null can arise
unexpectedly: behind a safe call on null whose member has no flag
(`Access.PassesNull`). Every other null is expected, and no plain access meets it
(`null_is_expected_up_to_safe_calls`).
-/

namespace Kotlinize.Kotlin

/-! ## Accesses

An access is known by its receiver and its name. Whether it is safe is said about
its code, which holds the code of the receiver and the name around one of two
separators; since these differ, the code tells what the writer was told about the
receiver. -/

/-- **An access to a member of a receiver.** -/
structure Access where
  receiver : Expr
  name : Identifier

namespace Access

/-- The expression that an access is. -/
def toExpr (a : Access) : Expr :=
  .member a.receiver a.name

/-- **An access that is written as a safe call.** -/
def IsSafe (a : Access) : Prop :=
  a.toExpr.toKotlin = a.receiver.toKotlin ++ "?." ++ a.name.text

/-- **An access that is written with a dot alone.** -/
def IsPlain (a : Access) : Prop :=
  a.toExpr.toKotlin = a.receiver.toKotlin ++ "." ++ a.name.text

/-- The code of an access, with its separator. -/
theorem toKotlin_toExpr (a : Access) :
    a.toExpr.toKotlin
      = a.receiver.toKotlin ++ (if a.receiver.isNullable then "?." else ".") ++ a.name.text :=
  rfl

/-- The code of an access tells which of the two was written. -/
theorem isSafe_iff (a : Access) : a.IsSafe ↔ a.receiver.isNullable = true := by
  rw [IsSafe, toKotlin_toExpr, String.append_left_inj, String.append_right_inj]
  cases a.receiver.isNullable <;> decide

/-- An access is plain if null is not expected of its receiver. -/
theorem isPlain_iff (a : Access) : a.IsPlain ↔ a.receiver.isNullable = false := by
  rw [IsPlain, toKotlin_toExpr, String.append_left_inj, String.append_right_inj]
  cases a.receiver.isNullable <;> decide

end Access

/-- **The accesses of the chain that an expression ends**, the last one first. -/
def Expr.accesses : Expr → List Access
  | .literal _ => []
  | .ident _ => []
  | .member receiver name => ⟨receiver, name⟩ :: receiver.accesses
  | .call callee _ _ _ => callee.accesses
  | .newArray _ _ => []
  | .anonymous _ _ _ => []

/-! ## Running the code

Nothing is said about how a run comes about. A run may make anything null that its
rules leave open, and one run makes everything null that can be (`Expr.mayBeNull`).
It shows that the rules can be met, and that every safe call can be null. -/

/-- **What any run obeys**, as far as it is known which expressions are null in it. Of a plain
access to a member of null nothing is asked, since it has no value. -/
structure IsEvaluation (isNull : Expr → Prop) : Prop where
  literal : ∀ value : Literal, isNull (.literal value) ↔ value = .null
  ident : ∀ name, isNull (.ident name) → name.nullable = true
  /-- A safe call on null is null. -/
  safe : ∀ a : Access, a.IsSafe → isNull a.receiver → isNull a.toExpr
  /-- On any other receiver an access is null only if its member may be. -/
  member : ∀ a : Access, ¬isNull a.receiver → isNull a.toExpr → a.name.nullable = true
  call : ∀ callee typeArguments arguments resultNullable,
    isNull (.call callee typeArguments arguments resultNullable) →
      isNull callee ∨ resultNullable = true
  newArray : ∀ type sizes, ¬isNull (.newArray type sizes)
  anonymous : ∀ supertype arguments members, ¬isNull (.anonymous supertype arguments members)

/-- **An access that passes null on unexpectedly**: a safe call on null, although null is not
expected of its member. -/
def Access.PassesNull (isNull : Expr → Prop) (a : Access) : Prop :=
  a.IsSafe ∧ isNull a.receiver ∧ a.name.nullable = false

/-- **Null is expected, or a safe call has passed it on.** -/
theorem IsEvaluation.isNullable_or_passesNull {isNull : Expr → Prop} (h : IsEvaluation isNull) :
    ∀ e : Expr, isNull e → e.isNullable = true ∨ ∃ a ∈ e.accesses, a.PassesNull isNull
  | .literal value, hnull => by
    rw [(h.literal value).mp hnull]
    exact .inl rfl
  | .ident name, hnull => .inl (h.ident name hnull)
  | .member receiver name, hnull => by
    cases hname : name.nullable with
    | true => exact .inl hname
    | false =>
      have hreceiver : isNull receiver := by
        refine Classical.byContradiction fun hnot => ?_
        exact Bool.eq_false_iff.mp hname (h.member ⟨receiver, name⟩ hnot hnull)
      -- the receiver is null: either that was expected, and this access is a safe call, or not
      rcases h.isNullable_or_passesNull receiver hreceiver with hnullable | ⟨a, ha, hpasses⟩
      · exact .inr ⟨_, List.mem_cons_self, (Access.isSafe_iff _).mpr hnullable, hreceiver, hname⟩
      · exact .inr ⟨a, List.mem_cons_of_mem _ ha, hpasses⟩
  | .call callee _ _ resultNullable, hnull => by
    rw [Expr.isNullable, Expr.accesses, Bool.or_eq_true]
    rcases h.call _ _ _ _ hnull with hcallee | hresult
    · exact (h.isNullable_or_passesNull callee hcallee).imp_left .inl
    · exact .inl (.inr hresult)
  | .newArray type sizes, hnull => absurd hnull (h.newArray type sizes)
  | .anonymous supertype arguments members, hnull =>
    absurd hnull (h.anonymous supertype arguments members)

/-- **The run in which everything is null that can be.** -/
def Expr.mayBeNull : Expr → Bool
  | .literal value => value.isNull
  | .ident name => name.nullable
  | .member receiver name => receiver.mayBeNull || name.nullable
  | .call callee _ _ resultNullable => callee.mayBeNull || resultNullable
  | .newArray _ _ => false
  | .anonymous _ _ _ => false

/-- The run in which everything is null that can be obeys the rules. -/
theorem isEvaluation_mayBeNull : IsEvaluation fun e => e.mayBeNull = true where
  literal value := by cases value <;> simp [Expr.mayBeNull, Literal.isNull]
  ident _ hnull := hnull
  safe a _ hreceiver := by
    rw [Access.toExpr, Expr.mayBeNull, hreceiver, Bool.true_or]
  member a hreceiver hnull := by
    rw [Access.toExpr, Expr.mayBeNull, Bool.or_eq_true] at hnull
    exact hnull.resolve_left hreceiver
  call callee _ _ resultNullable hnull := by
    rwa [Expr.mayBeNull, Bool.or_eq_true] at hnull
  newArray _ _ := Bool.false_ne_true
  anonymous _ _ _ := Bool.false_ne_true

/-- Whatever null is expected of can be null. -/
theorem Expr.mayBeNull_of_isNullable : ∀ e : Expr, e.isNullable = true → e.mayBeNull = true
  | .literal _, h => h
  | .ident _, h => h
  | .member receiver name, h => by
    rw [Expr.isNullable] at h
    rw [Expr.mayBeNull, h, Bool.or_true]
  | .call callee _ _ resultNullable, h => by
    rw [Expr.isNullable, Bool.or_eq_true] at h
    rw [Expr.mayBeNull, Bool.or_eq_true]
    exact h.imp_left callee.mayBeNull_of_isNullable
  | .newArray _ _, h => h
  | .anonymous _ _ _, h => h

/-- **Null is expected wherever it arises, up to what safe calls pass on.** In any run an expression
that is null is expected to be, unless in the chain that it ends a safe call on null has a member
that null is not expected of. So an access to a member of null is written with a dot alone only
behind such a safe call. And every safe call is null in some run, whatever its member says. -/
theorem null_is_expected_up_to_safe_calls :
    (∀ isNull : Expr → Prop, IsEvaluation isNull → ∀ e : Expr,
      (isNull e → e.isNullable = true ∨ ∃ a ∈ e.accesses, a.PassesNull isNull)
        ∧ ∀ a ∈ e.accesses, isNull a.receiver → a.IsPlain →
          ∃ b ∈ a.receiver.accesses, b.PassesNull isNull)
      ∧ ∀ a : Access, a.IsSafe → ∃ isNull, IsEvaluation isNull ∧ isNull a.toExpr := by
  refine ⟨fun isNull h e => ⟨h.isNullable_or_passesNull e, fun a _ hreceiver hplain => ?_⟩,
    fun a hsafe => ⟨_, isEvaluation_mayBeNull, ?_⟩⟩
  · refine (h.isNullable_or_passesNull a.receiver hreceiver).resolve_left ?_
    exact Bool.eq_false_iff.mp (a.isPlain_iff.mp hplain)
  · have hreceiver := a.receiver.mayBeNull_of_isNullable (a.isSafe_iff.mp hsafe)
    exact isEvaluation_mayBeNull.safe a hsafe hreceiver

/-- A chain with a safe call in the middle: null that came through it meets a plain access. -/
theorem null_is_expected_up_to_safe_calls_chain :
    let isNull : Expr → Prop := fun e => e.mayBeNull = true
    let safe : Expr := .member (.ident (.maybeNull "a")) (.plain "b")
    let e : Expr := .member (.call safe [] [] false) (.plain "c")
    IsEvaluation isNull ∧ isNull e ∧ e.isNullable = false ∧ e.toKotlin = "a?.b().c"
      ∧ ∃ a ∈ e.accesses, a.PassesNull isNull := by
  intro isNull safe e
  refine ⟨isEvaluation_mayBeNull, rfl, rfl, by decide +kernel, ?_⟩
  have hexpected := (null_is_expected_up_to_safe_calls.1 isNull isEvaluation_mayBeNull e).1 rfl
  exact hexpected.resolve_left Bool.false_ne_true

/-- **Null is not expected of a safe call whose member has no flag**, although the safe call is null
if its receiver is; and a further access to it is written with a dot alone. -/
theorem safe_call_result_is_unexpected :
    let isNull : Expr → Prop := fun e => e.mayBeNull = true
    let e : Expr := .member (.ident (.maybeNull "a")) (.plain "b")
    IsEvaluation isNull ∧ isNull e ∧ e.isNullable = false
      ∧ Access.IsPlain ⟨e, .plain "c"⟩ ∧ (Expr.member e (.plain "c")).toKotlin = "a?.b.c" :=
  ⟨isEvaluation_mayBeNull, rfl, rfl, (Access.isPlain_iff _).mpr rfl, by decide +kernel⟩

end Kotlinize.Kotlin
