import Kotlinize.Java.Descriptor.Encoding
import Kotlinize.Proofs.Levels

/-!
# Descriptors are read back

A type or an expression that was written as a descriptor is read from it
unchanged. The two directions were defined apart: writing follows the nodes and
puts down every field, reading follows the descriptions of the records and looks
each field up by its key. What ties them together is said once for each node, in
an induction over all of them at the same time, since types, class types,
declarations and type parameters contain one another.

The decoders are opened by their equations without levels (`Ty.decoder_eq` and
its companions), so that nothing here speaks of how deep a descriptor nests.
Only numbers need a word more: JSON has no form for infinities and for NaN, and
an expression is read back if none of its literals is one.
-/

namespace Kotlinize.Java

/-! ## References

A reference nests to the left: its qualifier is a reference again, and it is missing
where the descriptor has `null`. So it matters that no reference is written as
`null`. -/

/-- A reference that is there is not taken for one that is missing. -/
theorem Reference.toJson_ne_null (r : Reference) : r.toJson ≠ .null := by
  obtain ⟨name, qualifier⟩ := r
  cases qualifier with
  | none => exact Json.noConfusion
  | some q => exact Json.noConfusion

/-- **A reference is read back.** -/
theorem Reference.decoder_toJson (scope : Scope) : ∀ r : Reference,
    Reference.decoder scope r.toJson = .ok r
  | ⟨name, none⟩ => by
    rw [Reference.decoder_eq]
    exact Decoder.record_obj (.seq (.map _ (.required rfl rfl)) (.defaulted rfl rfl))
  | ⟨name, some qualifier⟩ => by
    rw [Reference.decoder_eq]
    have hqualifier := Decoder.nullable_of_ne_null qualifier.toJson_ne_null
      (qualifier.decoder_toJson scope)
    exact Decoder.record_obj (.seq (.map _ (.required rfl rfl)) (.defaulted rfl hqualifier))

/-! ## Types

The members of a class type are written in two ways, beside the kind of a type and
on their own as the bound of a type parameter. What is shown of them is therefore
said of anything that has these members under their keys. -/

/-- Nor is the bound of a wildcard. -/
theorem Bound.toJson_ne_null (b : Bound) : b.toJson ≠ .null := by
  cases b with
  | upper t => exact Json.noConfusion
  | lower t => exact Json.noConfusion

mutual

/-- **A type is read back.** -/
theorem Ty.decoder_toJson : ∀ (scope : Scope) (t : Ty), Ty.decoder scope t.toJson = .ok t
  | scope, .primitive name => by
    rw [Ty.decoder_eq]
    exact Decoder.tagged_obj rfl rfl (.map _ (.required rfl rfl))
  | scope, .array component => by
    have hcomponent := Ty.decoder_toJson .inner component
    rw [Ty.decoder_eq]
    exact Decoder.tagged_obj rfl rfl (.map _ (.required rfl hcomponent))
  | scope, .classType c => by
    -- the members of the class type stand after the kind, and later members count
    have hclass := ClassTy.reads_members .inner c
      (Json.get? · (("kind", .str "class") :: c.members)) (Json.get?_cons_of_some _)
    have hkind : Json.get? Decoder.kindKey (("kind", .str "class") :: c.members)
        = some (.str "class") := by
      cases c
      rfl
    rw [Ty.decoder_eq]
    exact Decoder.tagged_obj hkind rfl (.map _ hclass)
  | scope, .wildcard none => by
    rw [Ty.decoder_eq]
    exact Decoder.tagged_obj rfl rfl (.map _ (.defaulted rfl rfl))
  | scope, .wildcard (some bound) => by
    have hbound := Decoder.nullable_of_ne_null bound.toJson_ne_null
      (Bound.decoder_toJson .inner bound)
    rw [Ty.decoder_eq]
    exact Decoder.tagged_obj rfl rfl (.map _ (.defaulted rfl hbound))
  | scope, .ellipsis component => by
    have hcomponent := Ty.decoder_toJson .inner component
    rw [Ty.decoder_eq]
    exact Decoder.tagged_obj rfl rfl (.map _ (.required rfl hcomponent))

/-- The bound of a wildcard is read back. -/
theorem Bound.decoder_toJson : ∀ (scope : Scope) (b : Bound),
    Bound.decoder Ty.decoder scope b.toJson = .ok b
  | scope, .upper t => Decoder.variant_obj rfl (Decoder.map_of_ok _ (Ty.decoder_toJson scope t))
  | scope, .lower t => Decoder.variant_obj rfl (Decoder.map_of_ok _ (Ty.decoder_toJson scope t))

/-- **The fields of a class type are read back** from whatever has its members. -/
theorem ClassTy.reads_members : ∀ (scope : Scope) (c : ClassTy) (get : String → Option Json),
    (∀ {key v}, Json.get? key c.members = some v → get key = some v) →
    (ClassTy.record Ty.decoder Reference.decoder ClassTy.decoder).fields.Reads scope get c
  | scope, ⟨_, className, parameters, reference, none⟩, _, hget =>
    .seq (.seq (.seq (.seq (.map _ (.required (hget rfl) rfl))
      (.defaulted (hget rfl) (Decoder.nullable_ofOption (fun _ => Json.noConfusion)
        (fun _ => rfl) className)))
      (.defaulted (hget rfl) (Ty.mapM_allToJson scope parameters)))
      (.defaulted (hget rfl) (Decoder.nullable_ofOption Reference.toJson_ne_null
        (Reference.decoder_toJson scope) reference)))
      (.defaulted (hget rfl) rfl)
  | scope, ⟨_, className, parameters, reference, some declaration⟩, _, hget =>
    .seq (.seq (.seq (.seq (.map _ (.required (hget rfl) rfl))
      (.defaulted (hget rfl) (Decoder.nullable_ofOption (fun _ => Json.noConfusion)
        (fun _ => rfl) className)))
      (.defaulted (hget rfl) (Ty.mapM_allToJson scope parameters)))
      (.defaulted (hget rfl) (Decoder.nullable_ofOption Reference.toJson_ne_null
        (Reference.decoder_toJson scope) reference)))
      (.defaulted (hget rfl) (Declaration.decoder_toJson scope declaration))

/-- A declaration is read back, in the place where it may be missing. -/
theorem Declaration.decoder_toJson : ∀ (scope : Scope) (d : Declaration),
    Decoder.nullable (.record (Declaration.record ClassTy.decoder)) scope d.toJson = .ok (some d)
  | scope, ⟨qualifiedName, typeParameters⟩ =>
    Decoder.nullable_of_ne_null Json.noConfusion (Decoder.record_obj
      (.seq (.map _ (.defaulted rfl (Decoder.nullable_ofOption (fun _ => Json.noConfusion)
        (fun _ => rfl) qualifiedName)))
        (.defaulted rfl (TypeParameter.mapM_allToJson scope typeParameters))))

/-- Several types are read back. -/
theorem Ty.mapM_allToJson : ∀ (scope : Scope) (ts : List Ty),
    (Ty.allToJson ts).mapM (Ty.decoder scope) = .ok ts
  | _, [] => rfl
  | scope, t :: rest =>
    Decoder.mapM_cons_eq_ok (Ty.decoder_toJson scope t) (Ty.mapM_allToJson scope rest)

/-- Several type parameters are read back. -/
theorem TypeParameter.mapM_allToJson : ∀ (scope : Scope) (ps : List TypeParameter),
    (TypeParameter.allToJson ps).mapM
      (Decoder.record (TypeParameter.record ClassTy.decoder) scope) = .ok ps
  | _, [] => rfl
  | scope, ⟨_, bounds⟩ :: rest =>
    Decoder.mapM_cons_eq_ok (Decoder.record_obj (.seq (.map _ (.required rfl rfl))
      (.defaulted rfl (ClassTy.mapM_allToJson scope bounds))))
      (TypeParameter.mapM_allToJson scope rest)

/-- Several class types are read back. -/
theorem ClassTy.mapM_allToJson : ∀ (scope : Scope) (cs : List ClassTy),
    (ClassTy.allToJson cs).mapM (ClassTy.decoder scope) = .ok cs
  | _, [] => rfl
  | scope, c :: rest => by
    have hclass := ClassTy.reads_members scope c (Json.get? · c.members) id
    refine Decoder.mapM_cons_eq_ok ?_ (ClassTy.mapM_allToJson scope rest)
    rw [ClassTy.decoder_eq]
    exact Decoder.record_obj hclass

end

/-- A class type is read back. -/
theorem ClassTy.decoder_toJson (scope : Scope) (c : ClassTy) :
    ClassTy.decoder scope c.toJson = .ok c := by
  rw [ClassTy.decoder_eq]
  exact Decoder.record_obj (ClassTy.reads_members scope c (Json.get? · c.members) id)

/-! ## Expressions

Expressions contain types and class types, which were read back in any scope, and
literals, whose finiteness is the only assumption. -/

mutual

/-- **The literals of an expression**, in the order in which they stand. -/
def Expr.literals : Expr → List Literal
  | .literal value => [value]
  | .name _ _ => []
  | .fieldAccess receiver _ _ => receiver.literals
  | .methodCall callee _ arguments _ => callee.literals ++ Expr.literalsOfAll arguments
  | .newArray _ dimensions => Expr.literalsOfAll dimensions
  | .newAnonymous _ arguments _ => Expr.literalsOfAll arguments

/-- The literals of several expressions. -/
def Expr.literalsOfAll : List Expr → List Literal
  | [] => []
  | e :: rest => e.literals ++ Expr.literalsOfAll rest

end

mutual

/-- **An expression is read back** if its literals are finite. -/
theorem Expr.decoder_toJson : ∀ (scope : Scope) (e : Expr),
    (∀ l ∈ e.literals, l.isFinite = true) → Expr.decoder scope e.toJson = .ok e
  | scope, .literal value, hfinite => by
    have hvalue : Literal.decoder id .inner (value.toJson id) = .ok value :=
      Literal.decoder_toJson (by decide) .inner (hfinite value List.mem_cons_self)
    rw [Expr.decoder_eq]
    exact Decoder.tagged_obj rfl rfl (.map _ (.required rfl hvalue))
  | scope, .name ident nullable, _ => by
    rw [Expr.decoder_eq]
    exact Decoder.tagged_obj rfl rfl (.seq (.map _ (.required rfl rfl)) (.defaulted rfl rfl))
  | scope, .fieldAccess receiver field nullable, hfinite => by
    have hreceiver := Expr.decoder_toJson .inner receiver hfinite
    rw [Expr.decoder_eq]
    exact Decoder.tagged_obj rfl rfl (.seq (.seq (.map _ (.required rfl hreceiver))
      (.required rfl rfl)) (.defaulted rfl rfl))
  | scope, .methodCall callee typeArguments arguments resultNullable, hfinite => by
    obtain ⟨hfiniteCallee, hfiniteArguments⟩ := List.forall_mem_append.mp hfinite
    have hcallee := Expr.decoder_toJson .inner callee hfiniteCallee
    have htypes := Ty.mapM_allToJson .inner typeArguments
    have harguments := Expr.mapM_allToJson .inner arguments hfiniteArguments
    rw [Expr.decoder_eq]
    exact Decoder.tagged_obj rfl rfl (.seq (.seq (.seq (.map _ (.required rfl hcallee))
      (.defaulted rfl htypes)) (.defaulted rfl harguments)) (.defaulted rfl rfl))
  | scope, .newArray type dimensions, hfinite => by
    have htype := Ty.decoder_toJson .inner type
    have hdimensions := Expr.mapM_allToJson .inner dimensions hfinite
    rw [Expr.decoder_eq]
    exact Decoder.tagged_obj rfl rfl (.seq (.map _ (.required rfl htype))
      (.required rfl hdimensions))
  | scope, .newAnonymous supertype arguments members, hfinite => by
    have hsupertype := ClassTy.decoder_toJson .inner supertype
    have harguments := Expr.mapM_allToJson .inner arguments hfinite
    rw [Expr.decoder_eq]
    exact Decoder.tagged_obj rfl rfl (.seq (.seq (.map _ (.required rfl hsupertype))
      (.defaulted rfl harguments)) (.defaulted rfl (Decoder.mapM_map_eq_ok fun _ _ => rfl)))

/-- Several expressions are read back. -/
theorem Expr.mapM_allToJson : ∀ (scope : Scope) (es : List Expr),
    (∀ l ∈ Expr.literalsOfAll es, l.isFinite = true) →
    (Expr.allToJson es).mapM (Expr.decoder scope) = .ok es
  | _, [], _ => rfl
  | scope, e :: rest, hfinite => by
    obtain ⟨hfiniteHead, hfiniteRest⟩ := List.forall_mem_append.mp hfinite
    exact Decoder.mapM_cons_eq_ok (Expr.decoder_toJson scope e hfiniteHead)
      (Expr.mapM_allToJson scope rest hfiniteRest)

end

/-- **Descriptors are read back.** Every type is read from its descriptor unchanged, and so is
every expression whose literals are finite. -/
theorem descriptors_read_back :
    (∀ t : Ty, readType t.toJson = .ok t)
      ∧ ∀ e : Expr, (∀ l ∈ e.literals, l.isFinite = true) → readExpr e.toJson = .ok e := by
  refine ⟨fun t => ?_, fun e hfinite => ?_⟩
  · exact mapError_eq_ok.mpr (Ty.decoder_toJson .outer t)
  · exact mapError_eq_ok.mpr (Expr.decoder_toJson .outer e hfinite)

/-- A call on a field, with a wildcard as its type argument and a number as its argument. -/
theorem descriptors_read_back_call :
    let receiver : Expr := .fieldAccess (.name "list" true) "size" false
    let call : Expr := .methodCall receiver [.wildcard (some (.lower (.primitive "int")))]
      [.literal (.double 1.5), .literal (.char 'x')] true
    (∀ l ∈ call.literals, l.isFinite = true) ∧ readExpr call.toJson = .ok call := by
  intro receiver call
  have hfinite : ∀ l ∈ call.literals, l.isFinite = true := by decide
  exact ⟨hfinite, descriptors_read_back.2 call hfinite⟩

end Kotlinize.Java
