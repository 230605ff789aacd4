import Kotlinize.Kotlin.Expr
import Kotlinize.Notice

/-!
# Notices of writing code

Writing an array creation that has more sizes than its type has levels is remarked upon, at the
level where the sizes run over. Sizes that are not written are not looked into, so notices come
in the order in which the code is written.
-/

namespace Kotlinize.Kotlin

/-- The notices of an array creation, given those of its sizes. -/
def creationNotices : Ty → List (List Notice) → List Notice
  | .array (.array e m) _, size :: next :: rest =>
    size ++ creationNotices (.array e m) (next :: rest)
  | .array e n, size :: next :: rest =>
    .surplusSizes (next :: rest).length.succ (Ty.array e n).arrayDepth :: size
  | .array _ _, [size] => size
  | _, _ => []

theorem creationNotices_last {e : Ty} {n : Bool} {size : List Notice} {rest : List (List Notice)}
    (h : e.isArray = false ∨ rest = []) :
    creationNotices (.array e n) (size :: rest)
      = (if rest.isEmpty then []
          else [.surplusSizes (rest.length + 1) (Ty.array e n).arrayDepth]) ++ size := by
  rcases h with h | rfl
  · cases e with
    | array e m => cases h
    | _ => cases rest <;> rfl
  · cases e <;> rfl

theorem creationNotices_bare {t : Ty} {sizes : List (List Notice)}
    (h : t.isArray = false ∨ sizes = []) : creationNotices t sizes = [] := by
  rcases h with h | rfl
  · cases t with
    | array e n => cases h
    | _ => rfl
  · cases t with
    | array e n => cases e <;> rfl
    | _ => rfl

mutual

/-- **The notices of writing an expression.** -/
def Expr.notices : Expr → List Notice
  | .literal _ => []
  | .ident _ => []
  | .member receiver _ => receiver.notices
  | .call callee _ arguments _ => callee.notices ++ (Expr.noticesOfAll arguments).flatten
  | .newArray type sizes => creationNotices type (Expr.noticesOfAll sizes)
  | .anonymous _ arguments members =>
    (Expr.noticesOfAll arguments).flatten ++ Member.noticesOfAll members

/-- The notices of writing each of several expressions. -/
def Expr.noticesOfAll : List Expr → List (List Notice)
  | [] => []
  | e :: rest => e.notices :: Expr.noticesOfAll rest

/-- The notices of writing a member. -/
def Member.notices : Member → List Notice
  | .property _ _ none _ => []
  | .property _ _ (some initializer) _ => initializer.notices
  | .classMember declaration => declaration.notices
  | .verbatim _ => []

/-- The notices of writing several members. -/
def Member.noticesOfAll : List Member → List Notice
  | [] => []
  | m :: rest => m.notices ++ Member.noticesOfAll rest

/-- The notices of writing a class declaration. The arguments of a superclass are written only if
there is one. -/
def Class.notices : Class → List Notice
  | ⟨_, _, _, superclass, _, superArguments, members⟩ =>
    (match superclass with
      | none => []
      | some _ => (Expr.noticesOfAll superArguments).flatten) ++ Member.noticesOfAll members

end

end Kotlinize.Kotlin
