import Kotlinize.Proofs.Levels
import Kotlinize.Proofs.Parts

/-!
# Kotlin syntax is read back

Every node of Kotlin syntax has a JSON form, and reading that form at the same
kind of node gives the node back. Expressions, members and class declarations
contain one another – an anonymous object has members, a property has an
initializer, a member may be a class – so that the statement is one induction
over the three of them and over lists of them; the other nodes are records of
these.

As for descriptors, numbers are the only condition: a literal that is infinite or
not a number has no JSON form, and the literals of a node (`Expr.literals` and
its companions) are asked to be finite.
-/

namespace Kotlinize.Kotlin

/-! ## Names and types

A node with several constructors is read by `Decoder.variant_obj` or
`Decoder.variant_str`, according to whether the constructor has fields, and then
each field is found under its name. What is left to say for every constructor is in
which order the fields are read. -/

/-- **An identifier is read back.** -/
theorem Identifier.decoder_toJson (scope : Scope) (id : Identifier) :
    Identifier.decoder scope id.toJson = .ok id :=
  Decoder.record_obj (.seq (.seq (.map _ (.required rfl rfl)) (.required rfl rfl))
    (.required rfl rfl))

mutual

/-- **A type is read back.** -/
theorem Ty.decoder_toJson (scope : Scope) : ∀ t : Ty, Ty.decoder scope t.toJson = .ok t
  | .primitive name => by
    rw [Ty.decoder_eq]
    exact Decoder.variant_obj rfl (Decoder.map_of_ok _ (name.decoder_toJson scope))
  | .array element nullable => by
    have helement := Ty.decoder_toJson scope element
    rw [Ty.decoder_eq]
    exact Decoder.variant_obj rfl (Decoder.payload_fields (.seq (.map _ (.required rfl helement))
      (.required rfl rfl)))
  | .classType name arguments nullable => by
    have hname := name.decoder_toJson scope
    have harguments := Ty.mapM_allToJson scope arguments
    rw [Ty.decoder_eq]
    exact Decoder.variant_obj rfl (Decoder.payload_fields (.seq (.seq (.map _ (.required rfl hname))
      (.required rfl harguments)) (.required rfl rfl)))
  | .starProjection => by
    rw [Ty.decoder_eq]
    exact Decoder.variant_str rfl
  | .outProjection bound => by
    have hbound := Ty.decoder_toJson scope bound
    rw [Ty.decoder_eq]
    exact Decoder.variant_obj rfl (Decoder.map_of_ok _ hbound)
  | .inProjection bound => by
    have hbound := Ty.decoder_toJson scope bound
    rw [Ty.decoder_eq]
    exact Decoder.variant_obj rfl (Decoder.map_of_ok _ hbound)
  | .vararg component => by
    have hcomponent := Ty.decoder_toJson scope component
    rw [Ty.decoder_eq]
    exact Decoder.variant_obj rfl (Decoder.map_of_ok _ hcomponent)

/-- Several types are read back. -/
theorem Ty.mapM_allToJson (scope : Scope) : ∀ ts : List Ty,
    (Ty.allToJson ts).mapM (Ty.decoder scope) = .ok ts
  | [] => rfl
  | t :: rest => Decoder.mapM_cons_eq_ok (Ty.decoder_toJson scope t) (Ty.mapM_allToJson scope rest)

end

/-- A type is never taken for an absent one. -/
theorem Ty.toJson_ne_null (t : Ty) : t.toJson ≠ .null := by
  cases t <;> exact Json.noConfusion

/-! ## Parts of classes

The bound of a type parameter may be absent, and then its form is null. It can be
told from a bound because no type has the form null (`Ty.toJson_ne_null`). -/

/-- A modifier is read back. -/
theorem Modifier.decoder_toJson (scope : Scope) (m : Modifier) :
    Modifier.decoder scope m.toJson = .ok m := by
  have hmem : m ∈ Modifier.all := by cases m <;> decide
  exact Decoder.variant_str (List.lookup_of_mem (by decide) (List.mem_map.mpr ⟨m, hmem, rfl⟩))

/-- A type parameter is read back. -/
theorem TypeParameter.record_toJson (scope : Scope) (p : TypeParameter) :
    Decoder.record (TypeParameter.record Ty.decoder) scope p.toJson = .ok p :=
  Decoder.record_obj (.seq (.map _ (.required rfl (p.name.decoder_toJson scope)))
    (.optional rfl (Decoder.nullable_ofOption Ty.toJson_ne_null (Ty.decoder_toJson scope) p.bound)))

/-! ## Expressions, members and classes

A call, an array creation and the body of an anonymous object are nodes of their own
besides being expressions, with the same fields. The lemmas about these forms take
for granted that the parts are read back, so that they serve inside the induction,
where that is the hypothesis, and outside. -/

/-- An expression is never taken for an absent one. -/
theorem Expr.toJson_ne_null (e : Expr) : e.toJson ≠ .null := by
  cases e <;> exact Json.noConfusion

/-- The form of a call is read back if its parts are. -/
theorem callForm_reads {scope : Scope} {callee : Expr} {arguments : List Expr}
    (typeArguments : List Ty) (resultNullable : Bool)
    (hcallee : Expr.decoder scope callee.toJson = .ok callee)
    (harguments : (Expr.allToJson arguments).mapM (Expr.decoder scope) = .ok arguments) :
    Decoder.record (Call.record Expr.decoder Ty.decoder) scope
        (callForm callee.toJson typeArguments (Expr.allToJson arguments) resultNullable)
      = .ok ⟨callee, typeArguments, arguments, resultNullable⟩ :=
  Decoder.record_obj (.seq (.seq (.seq (.map _ (.required rfl hcallee))
    (.required rfl (Ty.mapM_allToJson scope typeArguments))) (.required rfl harguments))
    (.required rfl rfl))

/-- The form of an array creation is read back if its sizes are. -/
theorem creationForm_reads {scope : Scope} {sizes : List Expr} (type : Ty)
    (hsizes : (Expr.allToJson sizes).mapM (Expr.decoder scope) = .ok sizes) :
    Decoder.record (ArrayCreation.record Expr.decoder Ty.decoder) scope
        (creationForm type (Expr.allToJson sizes)) = .ok ⟨type, sizes⟩ :=
  Decoder.record_obj (.seq (.map _ (.required rfl (Ty.decoder_toJson scope type)))
    (.required rfl hsizes))

/-- The form of the body of an anonymous object is read back if its members are. -/
theorem objectBodyForm_reads {scope : Scope} {members : List Member}
    (hmembers : (Member.allToJson members).mapM (Member.decoder scope) = .ok members) :
    Decoder.record (ObjectBody.record Member.decoder) scope
        (objectBodyForm (Member.allToJson members)) = .ok ⟨members⟩ :=
  Decoder.record_obj (.map _ (.required rfl hmembers))

mutual

/-- **An expression is read back** if its literals are finite. -/
theorem Expr.decoder_toJson (scope : Scope) : ∀ e : Expr,
    (∀ l ∈ e.literals, l.isFinite = true) → Expr.decoder scope e.toJson = .ok e
  | .literal value, hfinite => by
    have hvalue : Literal.decoder Text.capitalized scope (value.toJson Text.capitalized)
        = .ok value :=
      Literal.decoder_toJson (by decide) scope (hfinite value List.mem_cons_self)
    rw [Expr.decoder_eq]
    exact Decoder.variant_obj rfl (Decoder.map_of_ok _ hvalue)
  | .ident name, _ => by
    rw [Expr.decoder_eq]
    exact Decoder.variant_obj rfl (Decoder.map_of_ok _ (name.decoder_toJson scope))
  | .member receiver name, hfinite => by
    have hreceiver := Expr.decoder_toJson scope receiver hfinite
    have hname := name.decoder_toJson scope
    rw [Expr.decoder_eq]
    exact Decoder.variant_obj rfl (Decoder.payload_fields (.seq
      (.map _ (.required rfl hreceiver)) (.required rfl hname)))
  | .call callee typeArguments arguments resultNullable, hfinite => by
    obtain ⟨hfiniteCallee, hfiniteArguments⟩ := List.forall_mem_append.mp hfinite
    have hcall := callForm_reads typeArguments resultNullable
      (Expr.decoder_toJson scope callee hfiniteCallee)
      (Expr.mapM_allToJson scope arguments hfiniteArguments)
    rw [Expr.decoder_eq]
    exact Decoder.variant_obj rfl (Decoder.map_of_ok Call.toExpr hcall)
  | .newArray type sizes, hfinite => by
    have hcreation := creationForm_reads type (Expr.mapM_allToJson scope sizes hfinite)
    rw [Expr.decoder_eq]
    exact Decoder.variant_obj rfl (Decoder.map_of_ok ArrayCreation.toExpr hcreation)
  | .anonymous supertype arguments members, hfinite => by
    obtain ⟨hfiniteArguments, hfiniteMembers⟩ := List.forall_mem_append.mp hfinite
    have hsupertype := Ty.decoder_toJson scope supertype
    have harguments := Expr.mapM_allToJson scope arguments hfiniteArguments
    have hbody := objectBodyForm_reads (Member.mapM_allToJson scope members hfiniteMembers)
    rw [Expr.decoder_eq]
    exact Decoder.variant_obj rfl (Decoder.payload_fields (.seq (.seq
      (.map _ (.required rfl hsupertype)) (.required rfl harguments)) (.required rfl hbody)))

/-- Several expressions are read back. -/
theorem Expr.mapM_allToJson (scope : Scope) : ∀ es : List Expr,
    (∀ l ∈ Expr.literalsOfAll es, l.isFinite = true) →
    (Expr.allToJson es).mapM (Expr.decoder scope) = .ok es
  | [], _ => rfl
  | e :: rest, hfinite => by
    obtain ⟨hfiniteHead, hfiniteRest⟩ := List.forall_mem_append.mp hfinite
    exact Decoder.mapM_cons_eq_ok (Expr.decoder_toJson scope e hfiniteHead)
      (Expr.mapM_allToJson scope rest hfiniteRest)

/-- **A member is read back** if its literals are finite. -/
theorem Member.decoder_toJson (scope : Scope) : ∀ m : Member,
    (∀ l ∈ m.literals, l.isFinite = true) → Member.decoder scope m.toJson = .ok m
  | .property name type none mutable, _ => by
    have hname := name.decoder_toJson scope
    have htype := Ty.decoder_toJson scope type
    rw [Member.decoder_eq]
    exact Decoder.variant_obj rfl (Decoder.payload_fields (.seq (.seq (.seq
      (.map _ (.required rfl hname)) (.required rfl htype)) (.optional rfl rfl))
      (.required rfl rfl)))
  | .property name type (some initializer) mutable, hfinite => by
    have hname := name.decoder_toJson scope
    have htype := Ty.decoder_toJson scope type
    have hinitializer := Decoder.nullable_of_ne_null initializer.toJson_ne_null
      (Expr.decoder_toJson scope initializer hfinite)
    rw [Member.decoder_eq]
    exact Decoder.variant_obj rfl (Decoder.payload_fields (.seq (.seq (.seq
      (.map _ (.required rfl hname)) (.required rfl htype)) (.optional rfl hinitializer))
      (.required rfl rfl)))
  | .classMember declaration, hfinite => by
    have hclass := Class.decoder_toJson scope declaration hfinite
    rw [Member.decoder_eq]
    exact Decoder.variant_obj rfl (Decoder.map_of_ok _ hclass)
  | .verbatim code, _ => by
    rw [Member.decoder_eq]
    exact Decoder.variant_obj rfl (Decoder.map_of_ok _ rfl)

/-- Several members are read back. -/
theorem Member.mapM_allToJson (scope : Scope) : ∀ ms : List Member,
    (∀ l ∈ Member.literalsOfAll ms, l.isFinite = true) →
    (Member.allToJson ms).mapM (Member.decoder scope) = .ok ms
  | [], _ => rfl
  | m :: rest, hfinite => by
    obtain ⟨hfiniteHead, hfiniteRest⟩ := List.forall_mem_append.mp hfinite
    exact Decoder.mapM_cons_eq_ok (Member.decoder_toJson scope m hfiniteHead)
      (Member.mapM_allToJson scope rest hfiniteRest)

/-- **A class declaration is read back** if its literals are finite. -/
theorem Class.decoder_toJson (scope : Scope) : ∀ c : Class,
    (∀ l ∈ c.literals, l.isFinite = true) → Class.decoder scope c.toJson = .ok c
  | ⟨name, modifiers, typeParameters, superclass, interfaces, superArguments, members⟩,
      hfinite => by
    obtain ⟨hfiniteArguments, hfiniteMembers⟩ := List.forall_mem_append.mp hfinite
    have hname := name.decoder_toJson scope
    have hmodifiers : (modifiers.map Modifier.toJson).mapM (Modifier.decoder scope)
        = .ok modifiers :=
      Decoder.mapM_map_eq_ok fun m _ => m.decoder_toJson scope
    have hparameters := Decoder.mapM_map_eq_ok fun p (_ : p ∈ typeParameters) =>
      p.record_toJson scope
    have hsuperclass := Decoder.nullable_ofOption Ty.toJson_ne_null (Ty.decoder_toJson scope)
      superclass
    have hinterfaces := Ty.mapM_allToJson scope interfaces
    have harguments := Expr.mapM_allToJson scope superArguments hfiniteArguments
    have hmembers := Member.mapM_allToJson scope members hfiniteMembers
    rw [Class.decoder_eq]
    exact Decoder.record_obj (.seq (.seq (.seq (.seq (.seq (.seq (.map _ (.required rfl hname))
      (.required rfl hmodifiers)) (.required rfl hparameters)) (.optional rfl hsuperclass))
      (.required rfl hinterfaces)) (.required rfl harguments)) (.required rfl hmembers))

end

/-! ## Files -/

/-- An import is read back. -/
theorem Import.decoder_toJson (scope : Scope) (i : Import) :
    Import.decoder scope i.toJson = .ok i :=
  Decoder.record_obj (.map _ (.required rfl rfl))

/-- **A file is read back** if its literals are finite. -/
theorem File.decoder_toJson (scope : Scope) (f : File)
    (hfinite : ∀ l ∈ f.literals, l.isFinite = true) : File.decoder scope f.toJson = .ok f := by
  have himports := Decoder.mapM_map_eq_ok fun i (_ : i ∈ f.imports) => i.decoder_toJson scope
  have hclasses : (f.classes.map Class.toJson).mapM (Class.decoder scope) = .ok f.classes := by
    refine Decoder.mapM_map_eq_ok fun c hc => c.decoder_toJson scope fun l hl => ?_
    exact hfinite l (List.mem_flatMap.mpr ⟨c, hc, hl⟩)
  exact Decoder.record_obj (.seq (.seq (.seq (.map _ (.required rfl rfl))
    (.required rfl himports)) (.required rfl hclasses)) (.required rfl rfl))

/-! ## All nodes

What was shown in any scope is gathered for the outermost one, in which a node is
read by itself. -/

/-- **Kotlin syntax is read back.** A node of any kind is read from its JSON form unchanged; where
a node can contain literals, they have to be finite. -/
theorem syntax_read_back :
    (∀ id : Identifier, Identifier.decoder .outer id.toJson = .ok id)
      ∧ (∀ t : Ty, Ty.decoder .outer t.toJson = .ok t)
      ∧ (∀ m : Modifier, Modifier.decoder .outer m.toJson = .ok m)
      ∧ (∀ p : TypeParameter, TypeParameter.decoder .outer p.toJson = .ok p)
      ∧ (∀ i : Import, Import.decoder .outer i.toJson = .ok i)
      ∧ (∀ e : Expr, (∀ l ∈ e.literals, l.isFinite = true) →
          Expr.decoder .outer e.toJson = .ok e)
      ∧ (∀ c : Call, (∀ l ∈ c.literals, l.isFinite = true) →
          Call.decoder .outer c.toJson = .ok c)
      ∧ (∀ a : ArrayCreation, (∀ l ∈ a.literals, l.isFinite = true) →
          ArrayCreation.decoder .outer a.toJson = .ok a)
      ∧ (∀ m : Member, (∀ l ∈ m.literals, l.isFinite = true) →
          Member.decoder .outer m.toJson = .ok m)
      ∧ (∀ c : Class, (∀ l ∈ c.literals, l.isFinite = true) →
          Class.decoder .outer c.toJson = .ok c)
      ∧ (∀ b : ObjectBody, (∀ l ∈ b.literals, l.isFinite = true) →
          ObjectBody.decoder .outer b.toJson = .ok b)
      ∧ ∀ f : File, (∀ l ∈ f.literals, l.isFinite = true) →
          File.decoder .outer f.toJson = .ok f := by
  refine ⟨Identifier.decoder_toJson .outer, Ty.decoder_toJson .outer,
    Modifier.decoder_toJson .outer, TypeParameter.record_toJson .outer,
    Import.decoder_toJson .outer, Expr.decoder_toJson .outer, fun c hfinite => ?_,
    fun a hfinite => ?_, Member.decoder_toJson .outer, Class.decoder_toJson .outer,
    fun b hfinite => ?_, File.decoder_toJson .outer⟩
  · obtain ⟨hfiniteCallee, hfiniteArguments⟩ := List.forall_mem_append.mp hfinite
    exact callForm_reads c.typeArguments c.resultNullable
      (Expr.decoder_toJson .outer c.callee hfiniteCallee)
      (Expr.mapM_allToJson .outer c.arguments hfiniteArguments)
  · exact creationForm_reads a.type (Expr.mapM_allToJson .outer a.sizes hfinite)
  · exact objectBodyForm_reads (Member.mapM_allToJson .outer b.members hfinite)

/-- A file with a class whose property is initialized by an anonymous object. -/
theorem syntax_read_back_file :
    let object : Expr := .anonymous (.ofClass "Point" [.starProjection])
      [.literal (.double 1.5), .literal .null] [.verbatim "fun f() {}"]
    let body : List Member := [.val "origin" (.ofClass "Point" []) (some object)]
    let file : File := ⟨"geometry", [⟨"java.util.List"⟩],
      [⟨.plain "Plane", [.openClass], [.of "T" none], none, [], [], body⟩], ""⟩
    (∀ l ∈ file.literals, l.isFinite = true) ∧ File.decoder .outer file.toJson = .ok file := by
  intro object body file
  have hfinite : ∀ l ∈ file.literals, l.isFinite = true := by decide
  obtain ⟨_, _, _, _, _, _, _, _, _, _, _, hfile⟩ := syntax_read_back
  exact ⟨hfinite, hfile file hfinite⟩

end Kotlinize.Kotlin
