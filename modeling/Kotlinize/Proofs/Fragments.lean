import Kotlinize.Kotlin.Remarks
import Kotlinize.Proofs.ArrayCreation
import Kotlinize.Proofs.Sequences

/-!
# Fragments of code while they are written

The code of a node and the notices of writing it are two functions that know
nothing of each other. The layout of a node brings them together: a list of
chunks, in the order in which they come, each of which is a piece of code, a node
inside that is written as a whole, or a notice.

A layout is right in three ways. Its chunks make up the code
(`Fragment.join_layout`) and raise the notices (`Fragment.notices_layout`), and
the nodes that it writes are the parts of the node (`Fragment.parts_layout`), each
of them once and in order. Of an array creation these are the sizes for which its
type has a level.

Layouts are followed inwards along a path of indices. At its end stands a node
with the code before it (`Fragment.at?`), and both its code and its notices are a
piece of those of the whole (`Fragment.exists_around`).
-/

namespace Kotlinize.Kotlin

/-! ## Layouts

A chunk is one thing that the writer does for a node. Chunks are simpler than the
code: each is either given or left to a part of the node, so that statements about a
layout need no recursion. -/

/-- **A node in which expressions may stand.** -/
inductive Fragment where
  | expr (e : Expr)
  | member (m : Member)
  | declaration (c : Class)

namespace Fragment

/-- The code of a fragment at the given level. -/
def text (level : Nat) : Fragment → String
  | expr e => e.text level
  | member m => m.text level
  | declaration c => c.text level

/-- The notices of writing a fragment. -/
def notices : Fragment → List Notice
  | expr e => e.notices
  | member m => m.notices
  | declaration c => c.notices

end Fragment

/-- **What happens while a fragment is written.** -/
inductive Chunk where
  /-- Code of the fragment itself is written. -/
  | code (text : String)
  /-- A fragment inside it is written, at the given level. -/
  | part (level : Nat) (f : Fragment)
  /-- A notice is raised. -/
  | notice (n : Notice)

namespace Chunk

/-- The code that is written. -/
def text : Chunk → String
  | code s => s
  | part level f => f.text level
  | notice _ => ""

/-- The notices that are raised. -/
def notices : Chunk → List Notice
  | code _ => []
  | part _ f => f.notices
  | notice n => [n]

/-- Whether a fragment is written. -/
def isPart : Chunk → Bool
  | part _ _ => true
  | _ => false

/-- The code that several chunks make up. -/
def join (chunks : List Chunk) : String :=
  String.join (chunks.map text)

@[simp] theorem join_nil : join [] = "" := String.join_nil

@[simp] theorem join_cons (c : Chunk) (cs : List Chunk) : join (c :: cs) = c.text ++ join cs :=
  String.join_cons

@[simp] theorem join_append (cs ds : List Chunk) : join (cs ++ ds) = join cs ++ join ds := by
  rw [join, List.map_append, String.join_append, join, join]

/-- The code of chunks that are made for each element of a list. -/
theorem join_flatMap {α : Type} (as : List α) (chunks : α → List Chunk) :
    join (as.flatMap chunks) = String.join (as.map fun a => join (chunks a)) := by
  induction as with
  | nil => rfl
  | cons a as ih => rw [List.flatMap_cons, join_append, ih, List.map_cons, String.join_cons]

end Chunk

/-- An expression inside a fragment. -/
def exprPart (level : Nat) (e : Expr) : Chunk :=
  .part level (.expr e)

/-- A member inside a fragment. -/
def memberPart (level : Nat) (m : Member) : Chunk :=
  .part level (.member m)

namespace Chunk

@[simp] theorem text_code (s : String) : (code s).text = s := rfl

@[simp] theorem text_notice (n : Notice) : (notice n).text = "" := rfl

@[simp] theorem text_exprPart (level : Nat) (e : Expr) :
    (exprPart level e).text = e.text level := rfl

@[simp] theorem text_memberPart (level : Nat) (m : Member) :
    (memberPart level m).text = m.text level := rfl

@[simp] theorem notices_code (s : String) : (code s).notices = [] := rfl

@[simp] theorem notices_notice (n : Notice) : (notice n).notices = [n] := rfl

@[simp] theorem notices_exprPart (level : Nat) (e : Expr) :
    (exprPart level e).notices = e.notices := rfl

@[simp] theorem notices_memberPart (level : Nat) (m : Member) :
    (memberPart level m).notices = m.notices := rfl

@[simp] theorem isPart_code (s : String) : (code s).isPart = false := rfl

@[simp] theorem isPart_notice (n : Notice) : (notice n).isPart = false := rfl

@[simp] theorem isPart_exprPart (level : Nat) (e : Expr) : (exprPart level e).isPart = true := rfl

@[simp] theorem isPart_memberPart (level : Nat) (m : Member) :
    (memberPart level m).isPart = true := rfl

theorem isPart_of_mem_map_exprPart {level : Nat} {es : List Expr} :
    ∀ c ∈ es.map (exprPart level), c.isPart = true := by
  intro c hc
  obtain ⟨e, -, rfl⟩ := List.mem_map.mp hc
  rfl

/-- A part is no notice. -/
theorem notice_ne_of_isPart {c : Chunk} (h : c.isPart = true) (n : Notice) : notice n ≠ c := by
  rintro rfl
  cases h

end Chunk

/-- Arguments in parentheses. -/
def argumentChunks (level : Nat) : List Expr → List Chunk
  | [] => [.code "()"]
  | e :: rest =>
    .code "(" :: exprPart level e :: rest.flatMap (fun e => [.code ", ", exprPart level e])
      ++ [.code ")"]

/-- The creation of an array of the given type, given what happens for its sizes. The level that
has no level inside it, but is not given the last size, raises a notice. -/
def creationChunks : Ty → List Chunk → List Chunk
  | .array e n, size :: rest =>
    if e.isArray && !rest.isEmpty then
      .code ((Ty.array e n).constructorText ++ "(") :: size :: .code ", \x7b"
        :: creationChunks e rest ++ [.code "\x7d)"]
    else
      (if rest.isEmpty then []
        else [.notice (.surplusSizes (rest.length + 1) (Ty.array e n).arrayDepth)])
        ++ [.code ((Ty.array e n).constructorText ++ "("), size, .code ")"]
  | t, _ => [.code t.constructorText]

/-- A level with a level inside it that is given a size. -/
theorem creationChunks_nested (e : Ty) (m n : Bool) (size next : Chunk) (rest : List Chunk) :
    creationChunks (.array (.array e m) n) (size :: next :: rest)
      = .code ((Ty.array (.array e m) n).constructorText ++ "(") :: size :: .code ", \x7b"
        :: creationChunks (.array e m) (next :: rest) ++ [.code "\x7d)"] := rfl

/-- The last level that is constructed, with the notice if sizes are left. -/
theorem creationChunks_last {e : Ty} {n : Bool} {size : Chunk} {rest : List Chunk}
    (h : e.isArray = false ∨ rest = []) :
    creationChunks (.array e n) (size :: rest)
      = (if rest.isEmpty then []
          else [.notice (.surplusSizes (rest.length + 1) (Ty.array e n).arrayDepth)])
        ++ [.code ((Ty.array e n).constructorText ++ "("), size, .code ")"] := by
  refine if_neg fun hnested => ?_
  rcases h with h | rfl
  · rw [h] at hnested
    cases hnested
  · rw [List.isEmpty_nil, Bool.not_true, Bool.and_false] at hnested
    cases hnested

/-- Without a level or without a size only the name of the type is written. -/
theorem creationChunks_bare {t : Ty} {sizes : List Chunk} (h : t.isArray = false ∨ sizes = []) :
    creationChunks t sizes = [.code t.constructorText] := by
  rcases h with h | rfl
  · cases t with
    | array e n => cases h
    | _ => rfl
  · cases t <;> rfl

/-- The supertypes of a class. Without a superclass there are no arguments for one. -/
def supertypeChunks (level : Nat) (superclass : Option Ty) (superArguments : List Expr)
    (interfaces : List Ty) : List Chunk :=
  match superclass with
  | none => [.code (supertypeText none [] interfaces)]
  | some t =>
    .code (" : " ++ t.constructorText) :: argumentChunks level superArguments
      ++ [.code (String.join (interfaces.map fun i => ", " ++ i.constructorText))]

/-- A body in braces. -/
def bodyChunks (level : Nat) (members : List Member) : List Chunk :=
  .code "\x7b\n"
    :: members.flatMap (fun m =>
      [.code (indentation (level + 1)), memberPart (level + 1) m, .code "\n"])
    ++ [.code (indentation level ++ "\x7d")]

/-- **What happens while a fragment is written**, in this order. -/
def Fragment.layout (level : Nat) : Fragment → List Chunk
  | expr (.literal value) => [.code value.text]
  | expr (.ident name) => [.code name.text]
  | expr (.member receiver name) =>
    [exprPart level receiver, .code ((if receiver.isNullable then "?." else ".") ++ name.text)]
  | expr (.call callee typeArguments arguments _) =>
    exprPart level callee :: .code (Ty.argumentList (Ty.texts typeArguments))
      :: argumentChunks level arguments
  | expr (.newArray type sizes) => creationChunks type (sizes.map (exprPart level))
  | expr (.anonymous supertype arguments members) =>
    .code ("object : " ++ supertype.constructorText) :: argumentChunks level arguments
      ++ .code " " :: bodyChunks level members
  | member (.property name type none mutable) =>
    [.code ((Member.property name type none mutable).text level)]
  | member (.property name type (some initializer) mutable) =>
    [.code ((Member.property name type none mutable).text level ++ " = "),
      exprPart level initializer]
  | member (.classMember c) => [.part level (.declaration c)]
  | member (.verbatim code) => [.code (verbatimText level code)]
  | declaration ⟨name, modifiers, typeParameters, superclass, interfaces, superArguments,
      members⟩ =>
    .code (headText name modifiers typeParameters)
      :: supertypeChunks level superclass superArguments interfaces
      ++ .code " " :: bodyChunks level members

/-! ## Layouts make up the code

The code of a node is a concatenation, and its layout is a list with the same
summands. What differs is the way in which lists are joined, and in array creations
the way in which a level is found to be the last one. -/

theorem Expr.texts_eq_map (level : Nat) (es : List Expr) :
    Expr.texts level es = es.map (Expr.text level) := by
  induction es with
  | nil => rfl
  | cons e rest ih => rw [Expr.texts, ih, List.map_cons]

theorem Member.texts_eq_map (level : Nat) (ms : List Member) :
    Member.texts level ms = ms.map (Member.text level) := by
  induction ms with
  | nil => rfl
  | cons m rest ih => rw [Member.texts, ih, List.map_cons]

/-- The codes of expressions that are parts. -/
theorem map_text_exprPart (level : Nat) (es : List Expr) :
    (es.map (exprPart level)).map Chunk.text = Expr.texts level es := by
  rw [Expr.texts_eq_map, List.map_map]
  rfl

/-- Arguments are separated by commas, which stand before all but the first. -/
theorem join_argumentChunks (level : Nat) (es : List Expr) :
    Chunk.join (argumentChunks level es) = argumentText (Expr.texts level es) := by
  cases es with
  | nil => simp [argumentChunks, argumentText, Expr.texts]
  | cons e rest =>
    simp [argumentChunks, argumentText, Expr.texts, Expr.texts_eq_map,
      String.intercalate_cons_eq_join, Chunk.join_flatMap, Function.comp_def, String.append_assoc]

/-- **The chunks of an array creation make up its code**, whatever becomes of its sizes. -/
theorem join_creationChunks (t : Ty) (sizes : List Chunk) :
    Chunk.join (creationChunks t sizes) = creationText t (sizes.map Chunk.text) := by
  induction t, sizes using Ty.levels_induction with
  | nested e m n size next rest ih =>
    rw [List.map_cons] at ih
    simp [creationChunks_nested, creationText, ih, String.append_assoc]
  | last e n size rest hlast =>
    rw [creationChunks_last hlast, List.map_cons,
      creationText_last (hlast.imp_right List.map_eq_nil_iff.mpr), Chunk.join_append]
    split <;> simp [String.append_assoc]
  | bare t sizes hbare =>
    rw [creationChunks_bare hbare, creationText_bare (hbare.imp_right List.map_eq_nil_iff.mpr)]
    simp

/-- The chunks of the supertypes make up their code. -/
theorem join_supertypeChunks (level : Nat) (superclass : Option Ty) (superArguments : List Expr)
    (interfaces : List Ty) :
    Chunk.join (supertypeChunks level superclass superArguments interfaces)
      = supertypeText superclass (Expr.texts level superArguments) interfaces := by
  cases superclass with
  | none => simp [supertypeChunks, supertypeText]
  | some t =>
    simp [supertypeChunks, supertypeText, join_argumentChunks, String.intercalate_cons_eq_join,
      String.append_assoc, Function.comp_def]

/-- The chunks of a body make up its code. -/
theorem join_bodyChunks (level : Nat) (members : List Member) :
    Chunk.join (bodyChunks level members) = bodyText level (Member.texts (level + 1) members) := by
  simp [bodyChunks, bodyText, Member.texts_eq_map, Chunk.join_flatMap, Function.comp_def,
    String.append_assoc]

/-- **The chunks of a fragment make up its code.** -/
theorem Fragment.join_layout (level : Nat) (f : Fragment) :
    Chunk.join (f.layout level) = f.text level := by
  cases f with
  | expr e =>
    cases e with
    | literal value => simp [layout, text, Expr.text]
    | ident name => simp [layout, text, Expr.text]
    | member receiver name =>
      simp [layout, text, Expr.text, String.append_assoc]
    | call callee typeArguments arguments resultNullable =>
      simp [layout, text, Expr.text, join_argumentChunks, String.append_assoc]
    | newArray type sizes =>
      rw [layout, join_creationChunks, map_text_exprPart]
      rfl
    | anonymous supertype arguments members =>
      simp [layout, text, Expr.text, join_argumentChunks, join_bodyChunks, String.append_assoc]
  | member m =>
    cases m with
    | property name type initializer mutable =>
      cases initializer with
      | none => simp [layout, text, Chunk.text]
      | some initializer =>
        simp [layout, text, Member.text, String.append_assoc]
    | classMember c => simp [layout, text, Chunk.text, Member.text]
    | verbatim code => simp [layout, text, Member.text]
  | declaration c =>
    obtain ⟨name, modifiers, typeParameters, superclass, interfaces, superArguments, members⟩ := c
    simp [layout, text, Class.text, join_supertypeChunks, join_bodyChunks, String.append_assoc]

/-! ## Layouts raise the notices

The notices of a node are those of its parts in the order in which they are written.
The only notices besides are raised by array creations, and they come before the
size of the innermost level is written. -/

theorem Expr.noticesOfAll_eq_map (es : List Expr) :
    Expr.noticesOfAll es = es.map Expr.notices := by
  induction es with
  | nil => rfl
  | cons e rest ih => rw [Expr.noticesOfAll, ih, List.map_cons]

theorem Member.noticesOfAll_eq_flatMap (ms : List Member) :
    Member.noticesOfAll ms = ms.flatMap Member.notices := by
  induction ms with
  | nil => rfl
  | cons m rest ih => rw [Member.noticesOfAll, ih, List.flatMap_cons]

/-- The notices of arguments are raised one argument after another. -/
theorem notices_argumentChunks (level : Nat) (es : List Expr) :
    (argumentChunks level es).flatMap Chunk.notices = (Expr.noticesOfAll es).flatten := by
  rw [Expr.noticesOfAll_eq_map, ← List.flatMap_def]
  cases es with
  | nil => rfl
  | cons e rest => simp [argumentChunks, List.flatMap_assoc]

/-- **The chunks of an array creation raise its notices**, in the order in which they come. -/
theorem notices_creationChunks (t : Ty) (sizes : List Chunk) :
    (creationChunks t sizes).flatMap Chunk.notices
      = creationNotices t (sizes.map Chunk.notices) := by
  induction t, sizes using Ty.levels_induction with
  | nested e m n size next rest ih =>
    rw [List.map_cons] at ih
    simp [creationChunks_nested, creationNotices, ih]
  | last e n size rest hlast =>
    rw [creationChunks_last hlast, List.map_cons,
      creationNotices_last (hlast.imp_right List.map_eq_nil_iff.mpr), List.flatMap_append,
      List.isEmpty_map, List.length_map]
    split <;> simp
  | bare t sizes hbare =>
    rw [creationChunks_bare hbare, creationNotices_bare (hbare.imp_right List.map_eq_nil_iff.mpr)]
    simp

/-- The notices of a body are raised one member after another. -/
theorem notices_bodyChunks (level : Nat) (members : List Member) :
    (bodyChunks level members).flatMap Chunk.notices = Member.noticesOfAll members := by
  simp [bodyChunks, List.flatMap_assoc, Member.noticesOfAll_eq_flatMap]

/-- **The notices of a fragment are raised by its chunks**, one after another. -/
theorem Fragment.notices_layout (level : Nat) (f : Fragment) :
    (f.layout level).flatMap Chunk.notices = f.notices := by
  cases f with
  | expr e =>
    cases e with
    | literal value => rfl
    | ident name => rfl
    | member receiver name => simp [layout, notices, Expr.notices]
    | call callee typeArguments arguments resultNullable =>
      simp [layout, notices, Expr.notices, notices_argumentChunks]
    | newArray type sizes =>
      rw [layout, notices_creationChunks, List.map_map, notices, Expr.notices,
        Expr.noticesOfAll_eq_map]
      rfl
    | anonymous supertype arguments members =>
      simp [layout, notices, Expr.notices, notices_argumentChunks, notices_bodyChunks]
  | member m =>
    cases m with
    | property name type initializer mutable =>
      cases initializer with
      | none => rfl
      | some initializer => simp [layout, notices, Member.notices]
    | classMember c => simp [layout, notices, Chunk.notices, Member.notices]
    | verbatim code => rfl
  | declaration c =>
    obtain ⟨name, modifiers, typeParameters, superclass, interfaces, superArguments, members⟩ := c
    cases superclass with
    | none =>
      simp [layout, notices, supertypeChunks, Class.notices, notices_bodyChunks]
    | some t =>
      simp [layout, notices, supertypeChunks, Class.notices, notices_bodyChunks,
        notices_argumentChunks]

/-! ## The parts of a fragment

The parts are listed once more without the code around them, now by what the node
has and not by what is written. Comparing the two says what is dropped: sizes for
which there is no level, and arguments for a superclass that is not there. Parts are
smaller than the whole, which gives an induction over layouts. -/

/-- **The fragments that are written for a fragment**, in their order. Sizes beyond the levels of an
array are not among them, and neither are arguments for a superclass that is not there. -/
def Fragment.parts (level : Nat) : Fragment → List Chunk
  | expr (.literal _) => []
  | expr (.ident _) => []
  | expr (.member receiver _) => [exprPart level receiver]
  | expr (.call callee _ arguments _) => exprPart level callee :: arguments.map (exprPart level)
  | expr (.newArray type sizes) => (sizes.take type.arrayDepth).map (exprPart level)
  | expr (.anonymous _ arguments members) =>
    arguments.map (exprPart level) ++ members.map (memberPart (level + 1))
  | member (.property _ _ none _) => []
  | member (.property _ _ (some initializer) _) => [exprPart level initializer]
  | member (.classMember c) => [.part level (.declaration c)]
  | member (.verbatim _) => []
  | declaration ⟨_, _, _, none, _, _, members⟩ => members.map (memberPart (level + 1))
  | declaration ⟨_, _, _, some _, _, superArguments, members⟩ =>
    superArguments.map (exprPart level) ++ members.map (memberPart (level + 1))

/-- Every argument is written. -/
theorem parts_argumentChunks (level : Nat) (es : List Expr) :
    (argumentChunks level es).filter Chunk.isPart = es.map (exprPart level) := by
  cases es with
  | nil => rfl
  | cons e rest =>
    simp [argumentChunks, List.filter_cons, List.filter_flatMap, List.map_eq_flatMap]

/-- **A creation writes as many sizes as its type has levels**, if there are so many. -/
theorem parts_creationChunks (t : Ty) (sizes : List Chunk)
    (hsizes : ∀ c ∈ sizes, c.isPart = true) :
    (creationChunks t sizes).filter Chunk.isPart = sizes.take t.arrayDepth := by
  induction t, sizes using Ty.levels_induction with
  | nested e m n size next rest ih =>
    obtain ⟨hsize, hrest⟩ := List.forall_mem_cons.mp hsizes
    rw [Ty.arrayDepth, List.take_succ_cons, ← ih hrest]
    simp [creationChunks_nested, hsize]
  | last e n size rest hlast =>
    have hsize := hsizes size List.mem_cons_self
    -- the level takes the first size: there is no other, or no level for it
    have htake : rest.take e.arrayDepth = [] := by
      rcases hlast with he | rfl
      · rw [Ty.arrayDepth_of_not_isArray he, List.take_zero]
      · exact List.take_nil
    rw [creationChunks_last hlast, Ty.arrayDepth, List.take_succ_cons, htake, List.filter_append]
    split <;> simp [hsize]
  | bare t sizes hbare =>
    rw [creationChunks_bare hbare]
    rcases hbare with ht | rfl
    · simp [Ty.arrayDepth_of_not_isArray ht]
    · simp

/-- Every member is written. -/
theorem parts_bodyChunks (level : Nat) (members : List Member) :
    (bodyChunks level members).filter Chunk.isPart = members.map (memberPart (level + 1)) := by
  simp [bodyChunks, List.filter_cons, List.filter_flatMap, List.map_eq_flatMap]

/-- **What a layout writes are the parts of the fragment.** -/
theorem Fragment.parts_layout (level : Nat) (f : Fragment) :
    (f.layout level).filter Chunk.isPart = f.parts level := by
  cases f with
  | expr e =>
    cases e with
    | literal value => rfl
    | ident name => rfl
    | member receiver name => rfl
    | call callee typeArguments arguments resultNullable =>
      simp [layout, parts, List.filter_cons, parts_argumentChunks]
    | newArray type sizes =>
      rw [layout, parts_creationChunks _ _ Chunk.isPart_of_mem_map_exprPart, parts, List.map_take]
    | anonymous supertype arguments members =>
      simp [layout, parts, parts_argumentChunks, parts_bodyChunks]
  | member m =>
    cases m with
    | property name type initializer mutable => cases initializer <;> rfl
    | classMember c => rfl
    | verbatim code => rfl
  | declaration c =>
    obtain ⟨name, modifiers, typeParameters, superclass, interfaces, superArguments, members⟩ := c
    cases superclass with
    | none => simp [layout, parts, supertypeChunks, parts_bodyChunks]
    | some t => simp [layout, parts, supertypeChunks, parts_argumentChunks, parts_bodyChunks]

/-- **A part is smaller than the whole**, by the size of the syntax tree. -/
theorem Fragment.sizeOf_lt_of_mem_parts {level inner : Nat} {f g : Fragment}
    (h : .part inner g ∈ f.parts level) : sizeOf g < sizeOf f := by
  -- expressions and members stand in lists, where each is smaller than the list
  have hexprs {es : List Expr} (hmem : Chunk.part inner g ∈ es.map (exprPart level)) :
      sizeOf g < 1 + sizeOf es := by
    obtain ⟨e, he, heq⟩ := List.mem_map.mp hmem
    cases heq
    exact Nat.add_lt_add_left (List.sizeOf_lt_of_mem he) 1
  have hmembers {ms : List Member} (hmem : Chunk.part inner g ∈ ms.map (memberPart (level + 1))) :
      sizeOf g < 1 + sizeOf ms := by
    obtain ⟨m, hm, heq⟩ := List.mem_map.mp hmem
    cases heq
    exact Nat.add_lt_add_left (List.sizeOf_lt_of_mem hm) 1
  cases f with
  | expr e =>
    cases e with
    | literal value => cases h
    | ident name => cases h
    | member receiver name =>
      cases List.mem_singleton.mp h
      simp +arith
    | call callee typeArguments arguments resultNullable =>
      rcases List.mem_cons.mp h with heq | h
      · cases heq
        simp +arith
      · exact Nat.lt_of_lt_of_le (hexprs h) (by simp +arith)
    | newArray type sizes =>
      rw [parts, List.map_take] at h
      exact Nat.lt_of_lt_of_le (hexprs (List.mem_of_mem_take h)) (by simp +arith)
    | anonymous supertype arguments members =>
      rcases List.mem_append.mp h with h | h
      · exact Nat.lt_of_lt_of_le (hexprs h) (by simp +arith)
      · exact Nat.lt_of_lt_of_le (hmembers h) (by simp +arith)
  | member m =>
    cases m with
    | property name type initializer mutable =>
      cases initializer with
      | none => cases h
      | some initializer =>
        cases List.mem_singleton.mp h
        simp +arith
    | classMember c =>
      cases List.mem_singleton.mp h
      simp +arith
    | verbatim code => cases h
  | declaration c =>
    obtain ⟨name, modifiers, typeParameters, superclass, interfaces, superArguments, members⟩ := c
    cases superclass with
    | none =>
      exact Nat.lt_of_lt_of_le (hmembers h) (by simp +arith)
    | some t =>
      rcases List.mem_append.mp h with h | h
      · exact Nat.lt_of_lt_of_le (hexprs h) (by simp +arith)
      · exact Nat.lt_of_lt_of_le (hmembers h) (by simp +arith)

/-- **Induction from the parts to the whole.** -/
theorem Fragment.parts_induction {P : Nat → Fragment → Prop}
    (step : ∀ level f, (∀ inner g, Chunk.part inner g ∈ f.layout level → P inner g) → P level f)
    (level : Nat) (f : Fragment) : P level f :=
  step level f fun inner g h =>
    have : sizeOf g < sizeOf f :=
      sizeOf_lt_of_mem_parts (parts_layout level f ▸ List.mem_filter.mpr ⟨h, rfl⟩)
    parts_induction step inner g
termination_by sizeOf f

/-! ## Places

A path picks a chunk in the layout of the whole, then a chunk in the layout of that
part, and so on. What was written before the place it leads to adds up along the
path. -/

/-- **A fragment while it is written**: the code that stands before it, and its level. -/
structure Spot where
  before : String
  level : Nat
  fragment : Fragment

/-- **The fragment at the end of a path** through the chunks of layouts. -/
def Fragment.at? : Nat → Fragment → List Nat → Option Spot
  | level, f, [] => some ⟨"", level, f⟩
  | level, f, i :: path =>
    match (f.layout level)[i]? with
    | some (.part inner g) => (g.at? inner path).map fun s =>
      ⟨Chunk.join ((f.layout level).take i) ++ s.before, s.level, s.fragment⟩
    | _ => none

/-- A path leads through a part of the layout, and from there on as it would by itself. -/
theorem Fragment.at?_cons_eq_some {level : Nat} {f : Fragment} {i : Nat} {path : List Nat}
    {s : Spot} : f.at? level (i :: path) = some s ↔
      ∃ inner g t, (f.layout level)[i]? = some (.part inner g) ∧ g.at? inner path = some t
        ∧ s = ⟨Chunk.join ((f.layout level).take i) ++ t.before, t.level, t.fragment⟩ := by
  rw [Fragment.at?]
  constructor
  · intro h
    split at h
    · rename_i inner g hi
      obtain ⟨t, ht, rfl⟩ := Option.map_eq_some_iff.mp h
      exact ⟨inner, g, t, hi, ht, rfl⟩
    · cases h
  · rintro ⟨inner, g, t, hi, ht, rfl⟩
    rw [hi]
    simp [ht]

/-- **The code and the notices of a fragment stand where the fragment is written.** -/
theorem Fragment.exists_around {level : Nat} {f : Fragment} {path : List Nat} {s : Spot}
    (h : f.at? level path = some s) :
    (∃ after, f.text level = s.before ++ s.fragment.text s.level ++ after)
      ∧ ∃ earlier later, f.notices = earlier ++ s.fragment.notices ++ later := by
  induction path generalizing level f s with
  | nil =>
    cases h
    exact ⟨⟨"", by simp⟩, [], [], by simp⟩
  | cons i path ih =>
    obtain ⟨inner, g, t, hi, ht, rfl⟩ := at?_cons_eq_some.mp h
    obtain ⟨⟨after, hafter⟩, earlier, later, hnotices⟩ := ih ht
    -- the layout is cut at the chunk that is entered, for the code and for the notices
    have hsplit := List.eq_take_append_cons_drop hi
    constructor
    · have hjoin := congrArg Chunk.join hsplit
      rw [join_layout, Chunk.join_append, Chunk.join_cons] at hjoin
      refine ⟨after ++ Chunk.join ((f.layout level).drop (i + 1)), hjoin.trans ?_⟩
      show _ ++ (g.text inner ++ _) = _
      rw [hafter]
      simp only [String.append_assoc]
    · have hflat := congrArg (List.flatMap Chunk.notices) hsplit
      rw [notices_layout, List.flatMap_append, List.flatMap_cons] at hflat
      refine ⟨((f.layout level).take i).flatMap Chunk.notices ++ earlier,
        later ++ ((f.layout level).drop (i + 1)).flatMap Chunk.notices, hflat.trans ?_⟩
      show _ ++ (g.notices ++ _) = _
      rw [hnotices]
      simp only [List.append_assoc]

end Kotlinize.Kotlin
