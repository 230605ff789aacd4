import Kotlinize.Java.Descriptor.Decoding
import Kotlinize.Kotlin.JsonForm.Decoding
import Kotlinize.Proofs.Decoders
import Mathlib.Data.List.Forall2

/-!
# Looking deep enough

The decoders of recursive nodes are recursions on a number of levels, and the
reader of a whole value looks one level deeper than the value nests. Nothing
about a node depends on that number: a decoder that looks `n` levels deep and
one that looks `m` levels deep return the same, mismatches included, on every
value that nests less deep than both.

`Decoder.AgreeBelow n` is that relation, and each way to build a decoder from
others keeps it. Records and variants gain a level, since the values inside an
object or an array nest less deep than the whole. An induction on the bound then
gives, for each recursive node, the equation that its decoder would have without
any levels: `Reference.decoder_eq`, `Ty.decoder_eq`, `ClassTy.decoder_eq`,
`Expr.decoder_eq` and their counterparts for Kotlin syntax. Whatever is said
about reading uses these equations only.
-/

namespace Kotlinize

namespace Json

/-! ## Depth

What a decoder passes on to another one is an element of an array or the value of a
member. Either nests less deep than the value it was taken from. -/

/-- The depth of the elements is that of the deepest one. -/
theorem depth_le_depthOfElements {v : Json} {vs : List Json} (h : v ∈ vs) :
    v.depth ≤ depthOfElements vs := by
  induction vs with
  | nil => cases h
  | cons w vs ih =>
    rw [depthOfElements]
    cases h with
    | head => exact Nat.le_max_left _ _
    | tail _ h => exact Nat.le_trans (ih h) (Nat.le_max_right _ _)

/-- An element nests less deep than its array. -/
theorem depth_lt_of_mem {v : Json} {vs : List Json} (h : v ∈ vs) :
    v.depth < (Json.arr vs).depth := by
  rw [depth]
  exact Nat.lt_succ_of_le (depth_le_depthOfElements h)

theorem depth_le_depthOfMembers {m : String × Json} {ms : List (String × Json)} (h : m ∈ ms) :
    m.2.depth ≤ depthOfMembers ms := by
  induction ms with
  | nil => cases h
  | cons l ms ih =>
    rw [depthOfMembers]
    cases h with
    | head => exact Nat.le_max_left _ _
    | tail _ h => exact Nat.le_trans (ih h) (Nat.le_max_right _ _)

/-- The value of a member nests less deep than its object. -/
theorem depth_lt_of_mem_members {m : String × Json} {ms : List (String × Json)} (h : m ∈ ms) :
    m.2.depth < (Json.obj ms).depth := by
  rw [depth]
  exact Nat.lt_succ_of_le (depth_le_depthOfMembers h)

/-- What is found under a key is a member. -/
theorem mem_of_get? {key : String} {ms : List (String × Json)} {v : Json}
    (h : get? key ms = some v) : (key, v) ∈ ms := by
  induction ms with
  | nil => cases h
  | cons m ms ih =>
    rw [get?] at h
    split at h
    next w hw =>
      cases h
      exact List.mem_cons_of_mem m (ih hw)
    next =>
      split at h
      next hkey =>
        cases h
        rw [← hkey]
        exact List.mem_cons_self
      next => cases h

/-- The sole key and its value are a member. -/
theorem mem_of_sole? {ms : List (String × Json)} {m : String × Json} (h : sole? ms = some m) :
    m ∈ ms := by
  cases ms with
  | nil => cases h
  | cons l ms =>
    rw [sole?] at h
    split at h
    next =>
      cases h
      cases hget : get? l.1 ms with
      | none => exact List.mem_cons_self
      | some w => exact List.mem_cons_of_mem l (mem_of_get? hget)
    next => cases h

end Json

/-! ## Agreement of decoders

The relation is stated for decoders, for descriptions of fields and for the cases of
a choice, because a decoder is built from all of these. It asks for equal results,
so mismatches are covered and the two decoders reject the same values in the same
words. -/

variable {α β γ : Type}

/-- **Decoders that agree on all values that nest less deep than a bound.** -/
def Decoder.AgreeBelow (n : Nat) (d e : Decoder α) : Prop :=
  ∀ scope (v : Json), v.depth < n → d scope v = e scope v

/-- **Descriptions of fields that agree** where all values nest less deep than a bound. -/
structure Fields.AgreeBelow (n : Nat) (fs gs : Fields α) : Prop where
  arity : fs.arity = gs.arity
  ofMembers : ∀ scope get, (∀ key v, get key = some v → v.depth < n) →
    fs.ofMembers scope get = gs.ofMembers scope get
  ofElements : ∀ tooShort scope index elements, (∀ v ∈ elements, v.depth < n) →
    fs.ofElements tooShort scope index elements = gs.ofElements tooShort scope index elements
  /-- What is left of the elements was among them. -/
  rest_subset : ∀ tooShort scope index elements a rest,
    gs.ofElements tooShort scope index elements = .ok (a, rest) → rest ⊆ elements

/-- Records that agree: the same title, and fields that agree. -/
structure Record.AgreeBelow (n : Nat) (r s : Record α) : Prop where
  title : r.title = s.title
  fields : r.fields.AgreeBelow n s.fields

/-- Data of variants that agree. -/
inductive Payload.AgreeBelow (n : Nat) : Payload α → Payload α → Prop
  | unit {a : α} : Payload.AgreeBelow n (.unit a) (.unit a)
  | value {d e : Decoder α} : d.AgreeBelow n e → Payload.AgreeBelow n (.value d) (.value e)
  | fields {fs gs : Fields α} : fs.AgreeBelow n gs → Payload.AgreeBelow n (.fields fs) (.fields gs)

/-- **Named cases that agree**: the same names in the same order, for related things. -/
def CasesAgree (related : β → γ → Prop) (cs : List (String × β)) (ds : List (String × γ)) : Prop :=
  List.Forall₂ (fun c d => c.1 = d.1 ∧ related c.2 d.2) cs ds

/-- The same mismatch, or related choices. -/
inductive ChoicesAgree (related : β → γ → Prop) : Except Mismatch β → Except Mismatch γ → Prop
  | ok {b : β} {c : γ} : related b c → ChoicesAgree related (.ok b) (.ok c)
  | error {e : Mismatch} : ChoicesAgree related (.error e) (.error e)

namespace CasesAgree

variable {related : β → γ → Prop} {cs : List (String × β)} {ds : List (String × γ)}

/-- Cases that agree have the same names, so a mismatch lists the same ones. -/
theorem names_eq (h : CasesAgree related cs ds) : cs.map Prod.fst = ds.map Prod.fst := by
  induction h with
  | nil => rfl
  | cons hhead _ ih => rw [List.map_cons, List.map_cons, hhead.1, ih]

/-- Choosing by name. -/
theorem choose (h : CasesAgree related cs ds) (name : String) :
    ChoicesAgree related (Decoder.choose name cs) (Decoder.choose name ds) := by
  have hlookup : Option.Rel related (cs.lookup name) (ds.lookup name) := by
    induction h with
    | nil => exact .none
    | @cons c d cs ds hhead _ ih =>
      obtain ⟨c, b⟩ := c
      obtain ⟨d, b'⟩ := d
      obtain ⟨rfl, hrelated⟩ := hhead
      rw [List.lookup_cons, List.lookup_cons]
      cases name == c with
      | true => exact .some hrelated
      | false => exact ih
  unfold Decoder.choose
  rw [h.names_eq]
  -- the two lookups are now anything that is related, so that both succeed or neither does
  generalize cs.lookup name = x, ds.lookup name = y at hlookup
  cases hlookup with
  | none => exact .error
  | some hrelated => exact .ok hrelated

/-- Choosing by name or number. -/
theorem chooseKind (h : CasesAgree related cs ds) (scope : Scope) (v : Json) :
    ChoicesAgree related (Decoder.chooseKind scope cs v) (Decoder.chooseKind scope ds v) := by
  unfold Decoder.chooseKind
  split
  next name => exact h.choose name
  next n =>
    -- both lists are equally long, and their cases are related at each number
    have hnumber : Option.Rel (fun c d => related c.2 d.2) cs[n]? ds[n]? := by
      by_cases hn : n < cs.length
      · have hn' : n < ds.length := h.length_eq ▸ hn
        rw [List.getElem?_eq_getElem hn, List.getElem?_eq_getElem hn']
        exact .some (h.get hn hn').2
      · have hn' : ¬n < ds.length := h.length_eq ▸ hn
        rw [List.getElem?_eq_none (Nat.le_of_not_lt hn),
          List.getElem?_eq_none (Nat.le_of_not_lt hn')]
        exact .none
    rw [h.length_eq]
    generalize cs[n]? = x, ds[n]? = y at hnumber
    cases hnumber with
    | none => exact .error
    | some hrelated => exact .ok hrelated
  next => exact .error

end CasesAgree

namespace Fields.AgreeBelow

variable {n : Nat}

/-- Nothing is read where there are no fields. -/
theorem done (a : α) : (Fields.done a).AgreeBelow n (.done a) where
  arity := rfl
  ofMembers _ _ _ := rfl
  ofElements _ _ _ _ _ := rfl
  rest_subset := by
    intro _ _ _ elements _ rest h
    cases h
    exact List.Subset.refl elements

/-- **A field agrees** if its decoder does, since its value is below the bound. -/
theorem field {key : String} {d e : Decoder α} {absent short : Option α} (h : d.AgreeBelow n e) :
    (Fields.field key d absent short).AgreeBelow n (.field key e absent short) where
  arity := rfl
  ofMembers scope get hget := by
    cases hv : get key with
    | none => simp only [Fields.field, hv]
    | some v => simp only [Fields.field, hv, h scope v (hget key v hv)]
  ofElements tooShort scope index elements helements := by
    cases elements with
    | nil => rfl
    | cons v rest =>
      show (d scope v).map _ = (e scope v).map _
      rw [h scope v (helements v List.mem_cons_self)]
  rest_subset tooShort scope index elements a rest hread := by
    obtain ⟨v, rfl, _⟩ | ⟨_, rfl, _⟩ := Fields.ofElements_field_eq_ok.mp hread
    · exact List.subset_cons_self v rest
    · exact List.nil_subset elements

theorem required {key : String} {d e : Decoder α} (h : d.AgreeBelow n e) :
    (Fields.required key d).AgreeBelow n (.required key e) :=
  field h

theorem defaulted {key : String} {d e : Decoder α} {default : α} (h : d.AgreeBelow n e) :
    (Fields.defaulted key d default).AgreeBelow n (.defaulted key e default) :=
  field h

/-- **Two descriptions agree one after the other.** The second is given what the
first leaves over, which is below the bound because it was among the elements. -/
theorem both {fs fs' : Fields (α → β)} {gs gs' : Fields α} (hfs : fs.AgreeBelow n fs')
    (hgs : gs.AgreeBelow n gs') : (fs.both gs).AgreeBelow n (fs'.both gs') where
  arity := by
    show fs.arity + gs.arity = fs'.arity + gs'.arity
    rw [hfs.arity, hgs.arity]
  ofMembers scope get hget := by
    unfold Fields.both
    simp only [hfs.ofMembers scope get hget, hgs.ofMembers scope get hget]
  ofElements tooShort scope index elements helements := by
    show (fs.ofElements tooShort scope index elements >>= _)
      = (fs'.ofElements tooShort scope index elements >>= _)
    rw [hfs.ofElements tooShort scope index elements helements, hfs.arity]
    cases hfirst : fs'.ofElements tooShort scope index elements with
    | error e => rfl
    | ok first =>
      obtain ⟨f, rest⟩ := first
      -- what the first leaves over was among the elements, and is as shallow as they are
      have hsubset := hfs.rest_subset _ _ _ _ _ _ hfirst
      show (gs.ofElements tooShort scope (index + fs'.arity) rest >>= _)
        = (gs'.ofElements tooShort scope (index + fs'.arity) rest >>= _)
      rw [hgs.ofElements _ _ _ rest fun v hv => helements v (hsubset hv)]
  rest_subset tooShort scope index elements b rest h := by
    obtain ⟨f, a, middle, hfirst, hsecond, _⟩ := Fields.ofElements_both_eq_ok.mp h
    exact List.Subset.trans (hgs.rest_subset _ _ _ _ _ _ hsecond)
      (hfs.rest_subset _ _ _ _ _ _ hfirst)

theorem map (f : α → β) {fs gs : Fields α} (h : fs.AgreeBelow n gs) :
    (f <$> fs).AgreeBelow n (f <$> gs) :=
  (done f).both h

theorem seq {fs fs' : Fields (α → β)} {gs gs' : Fields α} (hfs : fs.AgreeBelow n fs')
    (hgs : gs.AgreeBelow n gs') : (fs <*> gs).AgreeBelow n (fs' <*> gs') :=
  hfs.both hgs

end Fields.AgreeBelow

namespace Decoder.AgreeBelow

variable {n m : Nat} {d e : Decoder α}

theorem refl (d : Decoder α) : d.AgreeBelow n d :=
  fun _ _ _ => rfl

/-- A smaller bound asks for less. -/
theorem mono (h : d.AgreeBelow n e) (hle : m ≤ n) : d.AgreeBelow m e :=
  fun scope v hv => h scope v (Nat.lt_of_lt_of_le hv hle)

/-- The elements of a list nest less deep than the list. -/
theorem list (h : d.AgreeBelow n e) : (Decoder.list d).AgreeBelow n (.list e) := by
  intro scope v hv
  cases v with
  | arr elements =>
    show elements.mapM (d scope) = elements.mapM (e scope)
    have hall : ∀ w ∈ elements, w.depth < n :=
      fun w hw => Nat.lt_trans (Json.depth_lt_of_mem hw) hv
    clear hv
    induction elements with
    | nil => rfl
    | cons w rest ih =>
      rw [List.mapM_cons, List.mapM_cons, h scope w (hall w List.mem_cons_self),
        ih fun x hx => hall x (List.mem_cons_of_mem w hx)]
  | _ => rfl

theorem nullable (h : d.AgreeBelow n e) : (Decoder.nullable d).AgreeBelow n (.nullable e) := by
  intro scope v hv
  unfold Decoder.nullable
  split
  · rfl
  · rw [h scope v hv]

theorem map (f : α → β) (h : d.AgreeBelow n e) : (d.map f).AgreeBelow n (e.map f) := by
  intro scope v hv
  unfold Decoder.map
  rw [h scope v hv]

/-- The fields of an object. -/
theorem ofObject {fs gs : Fields α} (h : fs.AgreeBelow n gs) {members : List (String × Json)}
    (hdepth : (Json.obj members).depth < n + 1) (scope : Scope) :
    fs.ofObject scope members = gs.ofObject scope members := by
  unfold Fields.ofObject
  rw [h.ofMembers]
  intro key v hv
  exact Nat.lt_of_lt_of_le (Json.depth_lt_of_mem_members (Json.mem_of_get? hv))
    (Nat.le_of_lt_succ hdepth)

/-- The fields of an array. -/
theorem ofArray {fs gs : Fields α} (h : fs.AgreeBelow n gs) {elements : List Json}
    (hdepth : ∀ v ∈ elements, v.depth < n) (title : String) (scope : Scope) :
    fs.ofArray title scope elements = gs.ofArray title scope elements := by
  unfold Fields.ofArray
  rw [h.arity]
  dsimp only
  rw [h.ofElements _ _ _ _ hdepth]

/-- **A record gains a level.** -/
theorem record {r s : Record α} (h : r.AgreeBelow n s) :
    (Decoder.record r).AgreeBelow (n + 1) (.record s) := by
  intro scope v hv
  unfold Decoder.record
  split
  next members => exact ofObject h.fields hv scope
  next elements =>
    rw [h.title]
    refine ofArray h.fields (fun w hw => ?_) s.title scope
    have hlt := Json.depth_lt_of_mem hw
    omega
  next => rw [h.title]

/-- **A tagged record gains a level.** -/
theorem tagged {name : String} {cs ds : List (String × Record α)}
    (h : CasesAgree (Record.AgreeBelow n) cs ds) :
    (Decoder.tagged name cs).AgreeBelow (n + 1) (.tagged name ds) := by
  intro scope v hv
  unfold Decoder.tagged
  split
  next members =>
    cases Json.get? kindKey members with
    | none => rfl
    | some kind =>
      show (chooseKind scope cs kind >>= _) = (chooseKind scope ds kind >>= _)
      generalize chooseKind scope cs kind = x, chooseKind scope ds kind = y,
        h.chooseKind scope kind = hchoice
      cases hchoice with
      | error => rfl
      | ok hrecord => exact ofObject hrecord.fields hv .inner
  next => rfl
  next kind elements =>
    generalize chooseKind scope cs kind = x, chooseKind scope ds kind = y,
      h.chooseKind scope kind = hchoice
    cases hchoice with
    | error => rfl
    | @ok r s hrecord =>
      show r.fields.ofArray r.title .inner elements = s.fields.ofArray s.title .inner elements
      rw [hrecord.title]
      refine ofArray hrecord.fields (fun w hw => ?_) s.title .inner
      -- an element of the array nests less deep than the array, which is where the level is gained
      have hlt := Json.depth_lt_of_mem (List.mem_cons_of_mem kind hw)
      omega
  next => rfl

/-- The data of a variant. -/
theorem payload {p q : Payload α} (h : p.AgreeBelow n q) :
    (Decoder.payload p).AgreeBelow n (.payload q) := by
  intro scope v hv
  cases h with
  | unit => rfl
  | value h => exact h scope v hv
  | fields h =>
    cases v with
    | obj members => exact ofObject h (Nat.lt_succ_of_lt hv) scope
    | _ => rfl

/-- Whether a name alone is enough does not depend on a decoder. -/
theorem bare_eq {p q : Payload α} (h : p.AgreeBelow n q) : bare p = bare q := by
  cases h <;> rfl

/-- **A variant gains a level.** -/
theorem variant {cs ds : List (String × Payload α)} (h : CasesAgree (Payload.AgreeBelow n) cs ds) :
    (Decoder.variant cs).AgreeBelow (n + 1) (.variant ds) := by
  intro scope v hv
  unfold Decoder.variant
  split
  next name =>
    generalize choose name cs = x, choose name ds = y, h.choose name = hchoice
    cases hchoice with
    | error => rfl
    | ok hpayload => exact bare_eq hpayload
  next members =>
    cases hsole : Json.sole? members with
    | none => rfl
    | some m =>
      have hlt := Json.depth_lt_of_mem_members (Json.mem_of_sole? hsole)
      show (choose m.1 cs >>= _) = (choose m.1 ds >>= _)
      generalize choose m.1 cs = x, choose m.1 ds = y, h.choose m.1 = hchoice
      cases hchoice with
      | error => rfl
      | ok hpayload => exact payload hpayload scope m.2 (by omega)
  next => rfl

/-- If looking deeper changes nothing, looking so many levels deep agrees with looking as deep as
each value nests. -/
theorem of_levels {level : Nat → Decoder α}
    (h : ∀ {k n m : Nat}, k ≤ n → k ≤ m → (level n).AgreeBelow k (level m)) (n : Nat) :
    (level n).AgreeBelow n fun scope v => level (v.depth + 1) scope v :=
  fun scope v hv => h hv (Nat.le_refl (v.depth + 1)) scope v (Nat.lt_succ_self v.depth)

/-- A decoder that agrees with every level is the one that looks as deep as each value nests. -/
theorem eq_of_levels {level : Nat → Decoder α}
    (h : ∀ n, (level (n + 1)).AgreeBelow (n + 1) d) :
    (fun scope v => level (v.depth + 1) scope v) = d := by
  funext scope v
  exact h v.depth scope v (Nat.lt_succ_self v.depth)

end Decoder.AgreeBelow

theorem Fields.AgreeBelow.optional {n : Nat} {key : String} {d e : Decoder α}
    (h : d.AgreeBelow n e) : (Fields.optional key d).AgreeBelow n (.optional key e) :=
  .field h.nullable

open Decoder.AgreeBelow (of_levels eq_of_levels)

/-! ## Descriptors

Every record that contains decoders of other nodes is shown to agree if these do.
The levels are then compared by induction on the bound: at each step the decoder one
level down stands in for the others. -/

namespace Java

variable {n : Nat} {d e : Decoder Reference} {bound bound' : Decoder ClassTy}
  {type type' : Decoder Ty} {expr expr' : Decoder Expr}

/-- A reference contains one decoder, that of its qualifier. -/
theorem Reference.record_agreeBelow (h : d.AgreeBelow n e) :
    (Reference.record d).AgreeBelow n (Reference.record e) where
  title := rfl
  fields := .seq (.map _ (.required (.refl _))) (.defaulted h.nullable)

/-- **Looking deeper changes nothing.** The induction is on the bound: below zero
there is no value, and below a successor each decoder is a record of decoders one
level down. -/
theorem Reference.decoderAt_agreeBelow : ∀ {k n m : Nat}, k ≤ n → k ≤ m →
    (Reference.decoderAt n).AgreeBelow k (Reference.decoderAt m)
  | 0, _, _, _, _ => fun _ _ hv => absurd hv (Nat.not_lt_zero _)
  | _ + 1, _ + 1, _ + 1, hn, hm =>
    .record (Reference.record_agreeBelow (Reference.decoderAt_agreeBelow
      (Nat.le_of_succ_le_succ hn) (Nat.le_of_succ_le_succ hm)))

/-- **Reading a reference**, without levels. -/
theorem Reference.decoder_eq : Reference.decoder = .record (Reference.record Reference.decoder) :=
  eq_of_levels fun n =>
    .record (Reference.record_agreeBelow (of_levels Reference.decoderAt_agreeBelow n))

theorem TypeParameter.record_agreeBelow (h : bound.AgreeBelow n bound') :
    (TypeParameter.record bound).AgreeBelow n (TypeParameter.record bound') where
  title := rfl
  fields := .seq (.map _ (.required (.refl _))) (.defaulted h.list)

theorem Declaration.record_agreeBelow (h : bound.AgreeBelow n bound') :
    (Declaration.record bound).AgreeBelow n (Declaration.record bound') where
  title := rfl
  fields := .seq (.map _ (.defaulted (.refl _)))
    (.defaulted (.list ((Decoder.AgreeBelow.record (TypeParameter.record_agreeBelow h)).mono
      (Nat.le_succ n))))

theorem ClassTy.record_agreeBelow (htype : type.AgreeBelow n type') (href : d.AgreeBelow n e)
    (hbound : bound.AgreeBelow n bound') :
    (ClassTy.record type d bound).AgreeBelow n (ClassTy.record type' e bound') where
  title := rfl
  fields := .seq (.seq (.seq (.seq (.map _ (.required (.refl _))) (.defaulted (.refl _)))
    (.defaulted htype.list)) (.defaulted href.nullable))
    (.defaulted (.nullable ((Decoder.AgreeBelow.record
      (Declaration.record_agreeBelow hbound)).mono (Nat.le_succ n))))

/-- The bound of a wildcard, which is a variant and gains a level. -/
theorem Bound.decoder_agreeBelow (h : type.AgreeBelow n type') :
    (Bound.decoder type).AgreeBelow (n + 1) (Bound.decoder type') :=
  .variant (.cons ⟨rfl, .value (h.map _)⟩ (.cons ⟨rfl, .value (h.map _)⟩ .nil))

/-- The kinds of types, case by case. -/
theorem Ty.cases_agree (htype : type.AgreeBelow n type') (href : d.AgreeBelow n e)
    (hbound : bound.AgreeBelow n bound') :
    CasesAgree (Record.AgreeBelow n) (Ty.cases type d bound) (Ty.cases type' e bound') :=
  .cons ⟨rfl, rfl, .map _ (.required (.refl _))⟩
    (.cons ⟨rfl, rfl, .map _ (.required htype)⟩
    (.cons ⟨rfl, rfl, .map _ (ClassTy.record_agreeBelow htype href hbound).fields⟩
    (.cons ⟨rfl, rfl, .map _ (.defaulted
      (.nullable ((Bound.decoder_agreeBelow htype).mono (Nat.le_succ n))))⟩
    (.cons ⟨rfl, rfl, .map _ (.required htype)⟩ .nil))))

mutual

theorem Ty.decoderAt_agreeBelow : ∀ {k n m : Nat}, k ≤ n → k ≤ m →
    (Ty.decoderAt n).AgreeBelow k (Ty.decoderAt m)
  | 0, _, _, _, _ => fun _ _ hv => absurd hv (Nat.not_lt_zero _)
  | _ + 1, _ + 1, _ + 1, hn, hm =>
    have hn := Nat.le_of_succ_le_succ hn
    have hm := Nat.le_of_succ_le_succ hm
    .tagged (Ty.cases_agree (Ty.decoderAt_agreeBelow hn hm) (Reference.decoderAt_agreeBelow hn hm)
      (ClassTy.decoderAt_agreeBelow hn hm))

theorem ClassTy.decoderAt_agreeBelow : ∀ {k n m : Nat}, k ≤ n → k ≤ m →
    (ClassTy.decoderAt n).AgreeBelow k (ClassTy.decoderAt m)
  | 0, _, _, _, _ => fun _ _ hv => absurd hv (Nat.not_lt_zero _)
  | _ + 1, _ + 1, _ + 1, hn, hm =>
    have hn := Nat.le_of_succ_le_succ hn
    have hm := Nat.le_of_succ_le_succ hm
    .record (ClassTy.record_agreeBelow (Ty.decoderAt_agreeBelow hn hm)
      (Reference.decoderAt_agreeBelow hn hm) (ClassTy.decoderAt_agreeBelow hn hm))

end

/-- **Reading a type**, without levels. -/
theorem Ty.decoder_eq :
    Ty.decoder = .tagged "SourceType" (Ty.cases Ty.decoder Reference.decoder ClassTy.decoder) :=
  eq_of_levels fun n => .tagged (Ty.cases_agree (of_levels Ty.decoderAt_agreeBelow n)
    (of_levels Reference.decoderAt_agreeBelow n) (of_levels ClassTy.decoderAt_agreeBelow n))

/-- **Reading a class type**, without levels. -/
theorem ClassTy.decoder_eq :
    ClassTy.decoder = .record (ClassTy.record Ty.decoder Reference.decoder ClassTy.decoder) :=
  eq_of_levels fun n => .record (ClassTy.record_agreeBelow (of_levels Ty.decoderAt_agreeBelow n)
    (of_levels Reference.decoderAt_agreeBelow n) (of_levels ClassTy.decoderAt_agreeBelow n))

/-- The kinds of expressions, case by case. -/
theorem Expr.cases_agree (hexpr : expr.AgreeBelow n expr') (htype : type.AgreeBelow n type')
    (hclass : bound.AgreeBelow n bound') :
    CasesAgree (Record.AgreeBelow n) (Expr.cases expr type bound) (Expr.cases expr' type' bound') :=
  .cons ⟨rfl, rfl, .map _ (.required (.refl _))⟩
    (.cons ⟨rfl, rfl, .seq (.map _ (.required (.refl _))) (.defaulted (.refl _))⟩
    (.cons ⟨rfl, rfl, .seq (.seq (.map _ (.required hexpr)) (.required (.refl _)))
      (.defaulted (.refl _))⟩
    (.cons ⟨rfl, rfl, .seq (.seq (.seq (.map _ (.required hexpr)) (.defaulted htype.list))
      (.defaulted hexpr.list)) (.defaulted (.refl _))⟩
    (.cons ⟨rfl, rfl, .seq (.map _ (.required htype)) (.required hexpr.list)⟩
    (.cons ⟨rfl, rfl, .seq (.seq (.map _ (.required hclass)) (.defaulted hexpr.list))
      (.defaulted (.refl _))⟩ .nil)))))

theorem Expr.decoderAt_agreeBelow : ∀ {k n m : Nat}, k ≤ n → k ≤ m →
    (Expr.decoderAt n).AgreeBelow k (Expr.decoderAt m)
  | 0, _, _, _, _ => fun _ _ hv => absurd hv (Nat.not_lt_zero _)
  | _ + 1, _ + 1, _ + 1, hn, hm =>
    have hn := Nat.le_of_succ_le_succ hn
    have hm := Nat.le_of_succ_le_succ hm
    .tagged (Expr.cases_agree (Expr.decoderAt_agreeBelow hn hm) (Ty.decoderAt_agreeBelow hn hm)
      (ClassTy.decoderAt_agreeBelow hn hm))

/-- **Reading an expression**, without levels. -/
theorem Expr.decoder_eq :
    Expr.decoder = .tagged "SourceExpr" (Expr.cases Expr.decoder Ty.decoder ClassTy.decoder) :=
  eq_of_levels fun n => .tagged (Expr.cases_agree (of_levels Expr.decoderAt_agreeBelow n)
    (of_levels Ty.decoderAt_agreeBelow n) (of_levels ClassTy.decoderAt_agreeBelow n))

end Java

/-! ## Kotlin syntax

The same for the nodes of Kotlin syntax, whose variants are objects with a single
key. Expressions, members and class declarations contain one another, so their
levels are compared together. -/

namespace Kotlin

variable {n : Nat} {type type' : Decoder Ty} {expr expr' : Decoder Expr}
  {member member' : Decoder Member} {declaration declaration' : Decoder Class}

/-- The variants of types, case by case. -/
theorem Ty.cases_agree (h : type.AgreeBelow n type') :
    CasesAgree (Payload.AgreeBelow n) (Ty.cases type) (Ty.cases type') :=
  .cons ⟨rfl, .value (.refl _)⟩
    (.cons ⟨rfl, .fields (.seq (.map _ (.required h)) (.required (.refl _)))⟩
    (.cons ⟨rfl, .fields (.seq (.seq (.map _ (.required (.refl _))) (.required h.list))
      (.required (.refl _)))⟩
    (.cons ⟨rfl, .unit⟩
    (.cons ⟨rfl, .value (h.map _)⟩
    (.cons ⟨rfl, .value (h.map _)⟩
    (.cons ⟨rfl, .value (h.map _)⟩ .nil))))))

theorem Ty.decoderAt_agreeBelow : ∀ {k n m : Nat}, k ≤ n → k ≤ m →
    (Ty.decoderAt n).AgreeBelow k (Ty.decoderAt m)
  | 0, _, _, _, _ => fun _ _ hv => absurd hv (Nat.not_lt_zero _)
  | _ + 1, _ + 1, _ + 1, hn, hm =>
    .variant (Ty.cases_agree (Ty.decoderAt_agreeBelow (Nat.le_of_succ_le_succ hn)
      (Nat.le_of_succ_le_succ hm)))

/-- **Reading a type**, without levels. -/
theorem Ty.decoder_eq : Ty.decoder = .variant (Ty.cases Ty.decoder) :=
  eq_of_levels fun n => .variant (Ty.cases_agree (of_levels Ty.decoderAt_agreeBelow n))

/-- The variants of expressions. Calls, array creations and the bodies of anonymous
objects are records inside their variants, and a level of theirs is given away. -/
theorem Expr.cases_agree (hexpr : expr.AgreeBelow n expr') (hmember : member.AgreeBelow n member')
    (htype : type.AgreeBelow n type') :
    CasesAgree (Payload.AgreeBelow n) (Expr.cases expr member type)
      (Expr.cases expr' member' type') :=
  .cons ⟨rfl, .value (.refl _)⟩
    (.cons ⟨rfl, .value (.refl _)⟩
    (.cons ⟨rfl, .fields (.seq (.map _ (.required hexpr)) (.required (.refl _)))⟩
    (.cons ⟨rfl, .value (.map _ (.mono (.record ⟨rfl, .seq (.seq (.seq (.map _ (.required hexpr))
      (.required htype.list)) (.required hexpr.list)) (.required (.refl _))⟩) (Nat.le_succ n)))⟩
    (.cons ⟨rfl, .value (.map _ (.mono (.record ⟨rfl, .seq (.map _ (.required htype))
      (.required hexpr.list)⟩) (Nat.le_succ n)))⟩
    (.cons ⟨rfl, .fields (.seq (.seq (.map _ (.required htype)) (.required hexpr.list))
      (.required (.mono (.record ⟨rfl, .map _ (.required hmember.list)⟩) (Nat.le_succ n))))⟩
    .nil)))))

/-- The variants of members, case by case. -/
theorem Member.cases_agree (hexpr : expr.AgreeBelow n expr')
    (hclass : declaration.AgreeBelow n declaration') (htype : type.AgreeBelow n type') :
    CasesAgree (Payload.AgreeBelow n) (Member.cases expr declaration type)
      (Member.cases expr' declaration' type') :=
  .cons ⟨rfl, .fields (.seq (.seq (.seq (.map _ (.required (.refl _))) (.required htype))
      (.optional hexpr)) (.required (.refl _)))⟩
    (.cons ⟨rfl, .value (hclass.map _)⟩
    (.cons ⟨rfl, .value (.refl _)⟩ .nil))

theorem TypeParameter.record_agreeBelow (h : type.AgreeBelow n type') :
    (TypeParameter.record type).AgreeBelow n (TypeParameter.record type') where
  title := rfl
  fields := .seq (.map _ (.required (.refl _))) (.optional h)

theorem Class.record_agreeBelow (hexpr : expr.AgreeBelow n expr')
    (hmember : member.AgreeBelow n member') (htype : type.AgreeBelow n type') :
    (Class.record expr member type).AgreeBelow n
      (Class.record expr' member' type') where
  title := rfl
  fields := .seq (.seq (.seq (.seq (.seq (.seq (.map _ (.required (.refl _)))
    (.required (.refl _))) (.required (.list ((Decoder.AgreeBelow.record
      (TypeParameter.record_agreeBelow htype)).mono (Nat.le_succ n))))) (.optional htype))
    (.required htype.list)) (.required hexpr.list)) (.required hmember.list)

mutual

theorem Expr.decoderAt_agreeBelow : ∀ {k n m : Nat}, k ≤ n → k ≤ m →
    (Expr.decoderAt n).AgreeBelow k (Expr.decoderAt m)
  | 0, _, _, _, _ => fun _ _ hv => absurd hv (Nat.not_lt_zero _)
  | _ + 1, _ + 1, _ + 1, hn, hm =>
    have hn := Nat.le_of_succ_le_succ hn
    have hm := Nat.le_of_succ_le_succ hm
    .variant (Expr.cases_agree (Expr.decoderAt_agreeBelow hn hm)
      (Member.decoderAt_agreeBelow hn hm) (Ty.decoderAt_agreeBelow hn hm))

theorem Member.decoderAt_agreeBelow : ∀ {k n m : Nat}, k ≤ n → k ≤ m →
    (Member.decoderAt n).AgreeBelow k (Member.decoderAt m)
  | 0, _, _, _, _ => fun _ _ hv => absurd hv (Nat.not_lt_zero _)
  | _ + 1, _ + 1, _ + 1, hn, hm =>
    have hn := Nat.le_of_succ_le_succ hn
    have hm := Nat.le_of_succ_le_succ hm
    .variant (Member.cases_agree (Expr.decoderAt_agreeBelow hn hm)
      (Class.decoderAt_agreeBelow hn hm) (Ty.decoderAt_agreeBelow hn hm))

theorem Class.decoderAt_agreeBelow : ∀ {k n m : Nat}, k ≤ n → k ≤ m →
    (Class.decoderAt n).AgreeBelow k (Class.decoderAt m)
  | 0, _, _, _, _ => fun _ _ hv => absurd hv (Nat.not_lt_zero _)
  | _ + 1, _ + 1, _ + 1, hn, hm =>
    have hn := Nat.le_of_succ_le_succ hn
    have hm := Nat.le_of_succ_le_succ hm
    .record (Class.record_agreeBelow (Expr.decoderAt_agreeBelow hn hm)
      (Member.decoderAt_agreeBelow hn hm) (Ty.decoderAt_agreeBelow hn hm))

end

/-- **Reading an expression**, without levels. -/
theorem Expr.decoder_eq :
    Expr.decoder = .variant (Expr.cases Expr.decoder Member.decoder Ty.decoder) :=
  eq_of_levels fun n => .variant (Expr.cases_agree (of_levels Expr.decoderAt_agreeBelow n)
    (of_levels Member.decoderAt_agreeBelow n) (of_levels Ty.decoderAt_agreeBelow n))

/-- **Reading a member**, without levels. -/
theorem Member.decoder_eq :
    Member.decoder = .variant (Member.cases Expr.decoder Class.decoder Ty.decoder) :=
  eq_of_levels fun n => .variant (Member.cases_agree (of_levels Expr.decoderAt_agreeBelow n)
    (of_levels Class.decoderAt_agreeBelow n) (of_levels Ty.decoderAt_agreeBelow n))

/-- **Reading a class declaration**, without levels. -/
theorem Class.decoder_eq :
    Class.decoder = .record (Class.record Expr.decoder Member.decoder Ty.decoder) :=
  eq_of_levels fun n => .record (Class.record_agreeBelow (of_levels Expr.decoderAt_agreeBelow n)
    (of_levels Member.decoderAt_agreeBelow n) (of_levels Ty.decoderAt_agreeBelow n))

end Kotlin

end Kotlinize
