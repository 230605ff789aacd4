import Kotlinize.Conversion.Expressions
import Kotlinize.Kotlin.Code
import Mathlib.Data.List.Forall2

/-!
# What flags change in the code

Whether a name, a field or the result of a call may be null is said by a flag, and
the conversion keeps the flags. In the code of an expression they show in one place
only: the dot of a member access is written as a safe call if the flags say that
the receiver may be null.

To say so, the code of a Kotlin expression is cut into pieces, in which the dots of
the member accesses stand apart from all other code (`Expr.pieces`); put together
again the pieces are the code (`Expr.text_eq_join_pieces`). Setting flags in a Java
expression, any of them and anywhere inside it, then keeps every piece, but for
dots that become safe calls (`setting_flags_makes_safe_calls`). A dot inside a name,
a literal or the code of a member is part of another piece and stays.
-/

namespace Kotlinize

namespace Kotlin

/-! ## Code in pieces

The code of an expression as a list, in which one can point at the dot of a member
access and say of everything else that it stays. The pieces follow the writer: what
it puts between the codes of the parts is a piece here, and a part is the list of
its own pieces. -/

/-- **A piece of the code of an expression.** -/
inductive Piece where
  /-- Any code but the dot of a member access. -/
  | code (text : String)
  /-- The dot of a member access, which may be that of a safe call. -/
  | dot (safe : Bool)

namespace Piece

/-- The code of a piece. -/
def text : Piece → String
  | code text => text
  | dot safe => if safe then "?." else "."

/-- **The code that pieces make up.** -/
def join (pieces : List Piece) : String :=
  String.join (pieces.map text)

@[simp] theorem text_code (s : String) : (code s).text = s := rfl

@[simp] theorem join_nil : join [] = "" := String.join_nil

@[simp] theorem join_cons (p : Piece) (ps : List Piece) : join (p :: ps) = p.text ++ join ps :=
  String.join_cons

@[simp] theorem join_append (ps qs : List Piece) : join (ps ++ qs) = join ps ++ join qs := by
  rw [join, List.map_append, String.join_append, join, join]

/-- With a separator between the parts. -/
theorem join_intercalate (separator : String) (parts : List (List Piece)) :
    join ([code separator].intercalate parts) = separator.intercalate (parts.map join) := by
  induction parts with
  | nil => simp
  | cons first rest ih =>
    cases rest with
    | nil => simp
    | cons second rest =>
      rw [List.map_cons] at ih
      simp [List.intercalate_cons_cons, String.intercalate_cons_cons, ih, String.append_assoc]

end Piece

/-- Arguments in parentheses, given their pieces. -/
def argumentPieces (arguments : List (List Piece)) : List Piece :=
  .code "(" :: [.code ", "].intercalate arguments ++ [.code ")"]

/-- The creation of an array of the given type, given the pieces of its sizes. -/
def creationPieces : Ty → List (List Piece) → List Piece
  | .array (.array e m) n, size :: next :: rest =>
    .code ((Ty.array (.array e m) n).constructorText ++ "(") :: size ++ [.code ", \x7b"]
      ++ creationPieces (.array e m) (next :: rest) ++ [.code "\x7d)"]
  | .array e n, size :: _ =>
    .code ((Ty.array e n).constructorText ++ "(") :: size ++ [.code ")"]
  | t, _ => [.code t.constructorText]

mutual

/-- **The pieces of an expression.** The body of an anonymous object is one piece, because a
conversion takes its members over as they are. -/
def Expr.pieces : Expr → List Piece
  | .literal value => [.code value.text]
  | .ident name => [.code name.text]
  | .member receiver name => receiver.pieces ++ [.dot receiver.isNullable, .code name.text]
  | .call callee typeArguments arguments _ =>
    callee.pieces ++ [.code (Ty.argumentList (Ty.texts typeArguments))]
      ++ argumentPieces (Expr.piecesOfAll arguments)
  | .newArray type sizes => creationPieces type (Expr.piecesOfAll sizes)
  | .anonymous supertype arguments members =>
    .code ("object : " ++ supertype.constructorText) :: argumentPieces (Expr.piecesOfAll arguments)
      ++ [.code (" " ++ bodyText 0 (Member.texts 1 members))]

/-- The pieces of each of several expressions. -/
def Expr.piecesOfAll : List Expr → List (List Piece)
  | [] => []
  | e :: rest => e.pieces :: Expr.piecesOfAll rest

end

/-- The pieces of arguments make up their code. -/
theorem join_argumentPieces (arguments : List (List Piece)) :
    Piece.join (argumentPieces arguments) = argumentText (arguments.map Piece.join) := by
  simp [argumentPieces, argumentText, Piece.join_intercalate, String.append_assoc]

theorem creationPieces_last {e : Ty} {n : Bool} {size : List Piece} {rest : List (List Piece)}
    (h : e.isArray = false ∨ rest = []) :
    creationPieces (.array e n) (size :: rest)
      = .code ((Ty.array e n).constructorText ++ "(") :: size ++ [.code ")"] := by
  rcases h with h | rfl
  · cases e with
    | array e m => cases h
    | _ => rfl
  · cases e <;> rfl

theorem creationPieces_bare {t : Ty} {sizes : List (List Piece)}
    (h : t.isArray = false ∨ sizes = []) : creationPieces t sizes = [.code t.constructorText] := by
  rcases h with h | rfl
  · cases t with
    | array e n => cases h
    | _ => rfl
  · cases t with
    | array e n => cases e <;> rfl
    | _ => rfl

/-- **The pieces of an array creation make up its code**, with the same sizes dropped. -/
theorem join_creationPieces (t : Ty) (sizes : List (List Piece)) :
    Piece.join (creationPieces t sizes) = creationText t (sizes.map Piece.join) := by
  induction t, sizes using Ty.levels_induction with
  | nested e m n size next rest ih =>
    rw [List.map_cons] at ih
    simp [creationPieces, creationText, ih, String.append_assoc]
  | last e n size rest hlast =>
    rw [creationPieces_last hlast, List.map_cons,
      creationText_last (hlast.imp_right List.map_eq_nil_iff.mpr)]
    simp [String.append_assoc]
  | bare t sizes hbare =>
    rw [creationPieces_bare hbare, creationText_bare (hbare.imp_right List.map_eq_nil_iff.mpr)]
    simp

mutual

/-- **The code of an expression is made up of its pieces.** -/
theorem Expr.text_eq_join_pieces : ∀ e : Expr, e.text 0 = Piece.join e.pieces
  | .literal value => by simp [text, pieces]
  | .ident name => by simp [text, pieces]
  | .member receiver name => by
    have hreceiver := text_eq_join_pieces receiver
    simp [text, pieces, hreceiver, Piece.text, String.append_assoc]
  | .call callee typeArguments arguments _ => by
    have hcallee := text_eq_join_pieces callee
    have harguments := texts_eq_map_join arguments
    simp [text, pieces, hcallee, harguments, join_argumentPieces, String.append_assoc]
  | .newArray type sizes => by
    rw [text, pieces, join_creationPieces, texts_eq_map_join sizes]
  | .anonymous supertype arguments members => by
    have harguments := texts_eq_map_join arguments
    simp [text, pieces, harguments, join_argumentPieces, String.append_assoc]

/-- Several expressions, each made up of its own pieces. -/
theorem Expr.texts_eq_map_join : ∀ es : List Expr,
    Expr.texts 0 es = (Expr.piecesOfAll es).map Piece.join
  | [] => rfl
  | e :: rest => by
    rw [texts, piecesOfAll, List.map_cons, text_eq_join_pieces e, texts_eq_map_join rest]

end

/-! ## Dots that become safe calls

Setting a flag can only make more receivers nullable, so a dot can only change in
one direction. Two lists of pieces are compared place by place. The relation
composes like the lists do, and the induction over the expression has nothing else
to carry. -/

namespace Piece

/-- **What a piece may become when flags are set**: a dot may become that of a safe call, and all
else stays as it is. -/
inductive RaisedTo : Piece → Piece → Prop
  | code (text : String) : RaisedTo (.code text) (.code text)
  | dot {safe safe' : Bool} : (safe = true → safe' = true) → RaisedTo (.dot safe) (.dot safe')

end Piece

/-- Pieces that become others one by one. -/
def Raised (ps qs : List Piece) : Prop :=
  List.Forall₂ Piece.RaisedTo ps qs

/-- Several lists of pieces that become others. -/
def AllRaised (parts parts' : List (List Piece)) : Prop :=
  List.Forall₂ Raised parts parts'

namespace Raised

variable {ps ps' qs qs' : List Piece}

/-- Pieces behind other pieces. -/
theorem append (h : Raised ps ps') (h' : Raised qs qs') : Raised (ps ++ qs) (ps' ++ qs') :=
  List.rel_append h h'

theorem piece (s : String) : Raised [.code s] [.code s] :=
  .cons (.code s) .nil

theorem append_piece (h : Raised ps ps') (s : String) :
    Raised (ps ++ [.code s]) (ps' ++ [.code s]) :=
  h.append (piece s)

theorem cons_piece (s : String) (h : Raised ps ps') :
    Raised (.code s :: ps) (.code s :: ps') :=
  .cons (.code s) h

end Raised

namespace AllRaised

variable {parts parts' : List (List Piece)}

/-- Parts with a separator between them, which stays. -/
theorem joined (h : AllRaised parts parts') (separator : String) :
    Raised ([.code separator].intercalate parts) ([.code separator].intercalate parts') := by
  induction h with
  | nil => exact .nil
  | cons hfirst hrest ih =>
    cases hrest with
    | nil =>
      rw [List.intercalate_singleton, List.intercalate_singleton]
      exact hfirst
    | cons hsecond hrest =>
      rw [List.intercalate_cons_cons, List.intercalate_cons_cons]
      exact (hfirst.append_piece separator).append ih

theorem arguments (h : AllRaised parts parts') :
    Raised (argumentPieces parts) (argumentPieces parts') :=
  ((h.joined ", ").cons_piece "(").append_piece ")"

/-- **The same sizes are written and dropped**, whatever becomes of them. -/
theorem creation (h : AllRaised parts parts') (t : Ty) :
    Raised (creationPieces t parts) (creationPieces t parts') := by
  -- whether sizes are left does not change, so both sides fall into the same case
  have hnil {ps ps' : List (List Piece)} (h : AllRaised ps ps') (hps : ps = []) : ps' = [] :=
    List.forall₂_nil_left_iff.mp (hps ▸ h)
  induction t, parts using Ty.levels_induction generalizing parts' with
  | nested e m n size next rest ih =>
    cases h with
    | cons hsize hrest =>
      have hhead := Raised.cons_piece ((Ty.array (.array e m) n).constructorText ++ "(") hsize
      cases hrest with
      | cons hnext hrest =>
        exact ((hhead.append_piece ", \x7b").append (ih (.cons hnext hrest))).append_piece "\x7d)"
  | last e n size rest hlast =>
    cases h with
    | cons hsize hrest =>
      rw [creationPieces_last hlast, creationPieces_last (hlast.imp_right (hnil hrest))]
      exact (Raised.cons_piece _ hsize).append_piece ")"
  | bare t parts hbare =>
    rw [creationPieces_bare hbare, creationPieces_bare (hbare.imp_right (hnil h))]
    exact .piece _

end AllRaised

end Kotlin

namespace Java

mutual

/-- **Expressions that are equal but for flags that are set in the second only.** -/
inductive Expr.RaisedTo : Expr → Expr → Prop
  | literal {value : Literal} : Expr.RaisedTo (.literal value) (.literal value)
  | name {ident : String} {flag flag' : Bool} :
    (flag = true → flag' = true) → Expr.RaisedTo (.name ident flag) (.name ident flag')
  | fieldAccess {receiver receiver' : Expr} {field : String} {flag flag' : Bool} :
    Expr.RaisedTo receiver receiver' → (flag = true → flag' = true) →
    Expr.RaisedTo (.fieldAccess receiver field flag) (.fieldAccess receiver' field flag')
  | methodCall {callee callee' : Expr} {ts : List Ty} {es es' : List Expr} {flag flag' : Bool} :
    Expr.RaisedTo callee callee' → Expr.AllRaisedTo es es' → (flag = true → flag' = true) →
    Expr.RaisedTo (.methodCall callee ts es flag) (.methodCall callee' ts es' flag')
  | newArray {t : Ty} {es es' : List Expr} :
    Expr.AllRaisedTo es es' → Expr.RaisedTo (.newArray t es) (.newArray t es')
  | newAnonymous {c : ClassTy} {es es' : List Expr} {codes : List String} :
    Expr.AllRaisedTo es es' → Expr.RaisedTo (.newAnonymous c es codes) (.newAnonymous c es' codes)

/-- Lists of such expressions. -/
inductive Expr.AllRaisedTo : List Expr → List Expr → Prop
  | nil : Expr.AllRaisedTo [] []
  | cons {e e' : Expr} {es es' : List Expr} :
    Expr.RaisedTo e e' → Expr.AllRaisedTo es es' → Expr.AllRaisedTo (e :: es) (e' :: es')

end

/-- **Setting flags takes no nullability away.** -/
theorem Expr.RaisedTo.isNullable_convert (config : Config) : ∀ {e e' : Expr}, e.RaisedTo e' →
    (e.convert config).isNullable = true → (e'.convert config).isNullable = true
  | _, _, .literal, h => h
  | _, _, .name hflag, h => hflag h
  | _, _, .fieldAccess _ hflag, h => hflag h
  | _, _, .methodCall hcallee _ hflag, h => by
    rw [Expr.convert, Kotlin.Expr.isNullable, Bool.or_eq_true] at h ⊢
    exact h.imp (hcallee.isNullable_convert config) hflag
  | _, _, .newArray _, h => h
  | _, _, .newAnonymous _, h => h

mutual

/-- **Setting flags keeps the pieces**, but for dots that become safe calls. -/
theorem Expr.RaisedTo.pieces_convert (config : Config) : ∀ {e e' : Expr}, e.RaisedTo e' →
    Kotlin.Raised (e.convert config).pieces (e'.convert config).pieces
  | _, _, .literal => .piece _
  | _, _, .name _ => .piece _
  | _, _, .fieldAccess hreceiver _ => by
    -- the separator is decided by the receiver, of which null may be expected only now
    have hdot := hreceiver.isNullable_convert config
    exact (hreceiver.pieces_convert config).append (.cons (.dot hdot) (Kotlin.Raised.piece _))
  | _, _, .methodCall hcallee harguments _ =>
    ((hcallee.pieces_convert config).append_piece _).append
      (harguments.pieces_convertAll config).arguments
  | _, _, .newArray hsizes => (hsizes.pieces_convertAll config).creation _
  | _, _, .newAnonymous harguments =>
    ((harguments.pieces_convertAll config).arguments.cons_piece _).append_piece _

/-- The pieces of several expressions, one expression after another. -/
theorem Expr.AllRaisedTo.pieces_convertAll (config : Config) : ∀ {es es' : List Expr},
    Expr.AllRaisedTo es es' →
    Kotlin.AllRaised (Kotlin.Expr.piecesOfAll (Expr.convertAll config es))
      (Kotlin.Expr.piecesOfAll (Expr.convertAll config es'))
  | _, _, .nil => .nil
  | _, _, .cons he hes => .cons (he.pieces_convert config) (hes.pieces_convertAll config)

end

/-- **Flags only turn dots into safe calls.** If more flags are set in a Java expression, its Kotlin
expression may still be null if it could before, and its code consists of the same pieces as before,
except that the dots of some member accesses have become those of safe calls. -/
theorem setting_flags_makes_safe_calls (config : Config) {e e' : Expr} (h : e.RaisedTo e') :
    ((e.convert config).isNullable = true → (e'.convert config).isNullable = true)
      ∧ List.Forall₂ Kotlin.Piece.RaisedTo (e.convert config).pieces (e'.convert config).pieces
      ∧ (e.convert config).toKotlin = Kotlin.Piece.join (e.convert config).pieces
      ∧ (e'.convert config).toKotlin = Kotlin.Piece.join (e'.convert config).pieces :=
  ⟨h.isNullable_convert config, h.pieces_convert config,
    (e.convert config).text_eq_join_pieces, (e'.convert config).text_eq_join_pieces⟩

/-- Flags on a variable, on a member and on an array size, with dots that are no accesses beside. -/
theorem setting_flags_makes_safe_calls_chain :
    let e (flag : Bool) : Expr := .methodCall
      (.fieldAccess (.fieldAccess (.name "a" flag) "b" flag) "put" false) []
      [.literal (.string "x.y"),
        .newArray (.array (.primitive "int")) [.fieldAccess (.name "o" flag) "size" false]] flag
    (e false).RaisedTo (e true)
      ∧ List.Forall₂ Kotlin.Piece.RaisedTo ((e false).convert {}).pieces ((e true).convert {}).pieces
      ∧ ((e false).convert {}).toKotlin = "a.b.put(\"x.y\", IntArray(o.size))"
      ∧ ((e true).convert {}).toKotlin = "a?.b?.put(\"x.y\", IntArray(o?.size))" := by
  intro e
  have hraised : (e false).RaisedTo (e true) :=
    .methodCall (.fieldAccess (.fieldAccess (.name fun _ => rfl) fun _ => rfl) id)
      (.cons .literal (.cons (.newArray (.cons (.fieldAccess (.name fun _ => rfl) id) .nil)) .nil))
      fun _ => rfl
  obtain ⟨-, hpieces, -, -⟩ := setting_flags_makes_safe_calls {} hraised
  exact ⟨hraised, hpieces, by decide +kernel, by decide +kernel⟩

end Java

end Kotlinize
