import Kotlinize.Kotlin.Writer

/-!
# Writing is appending

The code of a node was defined twice: as a function of the node and of the level
it stands at, and as a list of steps that a writer takes. The second reading
threads a level through all the steps of a node, raises and lowers it, and hands
the same writer from one node to the next; a body that failed to come out again
would spoil everything written after it.

That it never happens is said by `Writes steps code`: from whatever writer the
steps are taken, they append the code of the level they began at and end at that
level, and on the way they never leave a level that was not entered before. The
relation is closed under the ways in which steps are put together – one after
another, with separators, one level further in – so that the steps of a node of
any kind have it by an induction that follows the node (`Node.writes_steps`).
Nodes written one after another onto a new writer are then the concatenation of
their code.
-/

namespace Kotlinize.Kotlin

/-! ## Steps and levels

A writer that leaves the outermost level stays there, so leaving too often would go
unnoticed in the level at the end. What is said about levels is therefore said about
every part of the steps that may have been taken. -/

namespace Writer

@[simp] theorem run_nil (w : Writer) : w.run [] = w := rfl

@[simp] theorem run_cons (w : Writer) (s : Step) (rest : List Step) :
    w.run (s :: rest) = (w.step s).run rest := rfl

/-- Steps one after another, taken by one writer. -/
theorem run_append (w : Writer) (steps rest : List Step) :
    w.run (steps ++ rest) = (w.run steps).run rest :=
  List.foldl_append

/-- **Steps that stay above a level**: a level is left only where the writer stands further in. -/
def StaysAbove (bound : Nat) : Writer → List Step → Prop
  | _, [] => True
  | w, s :: rest => (s = .leave → bound < w.level) ∧ StaysAbove bound (w.step s) rest

/-- The further steps begin where the first ones ended. -/
theorem staysAbove_append {bound : Nat} {steps rest : List Step} {w : Writer} :
    StaysAbove bound w (steps ++ rest)
      ↔ StaysAbove bound w steps ∧ StaysAbove bound (w.run steps) rest := by
  induction steps generalizing w with
  | nil => simp [StaysAbove]
  | cons s steps ih =>
    rw [List.cons_append, StaysAbove, StaysAbove, ih, run_cons, and_assoc]

/-- Staying above a level is staying above every lower one. -/
theorem StaysAbove.mono {bound bound' : Nat} (hle : bound ≤ bound') {steps : List Step}
    {w : Writer} (h : StaysAbove bound' w steps) : StaysAbove bound w steps := by
  induction steps generalizing w with
  | nil => trivial
  | cons s steps ih => exact ⟨fun hs => Nat.lt_of_le_of_lt hle (h.1 hs), ih h.2⟩

/-- One step keeps the level at or above the bound. -/
theorem StaysAbove.le_step {bound : Nat} {s : Step} {rest : List Step} {w : Writer}
    (hle : bound ≤ w.level) (h : StaysAbove bound w (s :: rest)) : bound ≤ (w.step s).level := by
  cases s with
  | put code => exact hle
  | indent => exact hle
  | enter => exact Nat.le_succ_of_le hle
  | leave => exact Nat.le_sub_one_of_lt (h.1 rfl)

/-- **Steps that stay above a level never reach a lower one**, whatever part of them was taken. -/
theorem StaysAbove.le_run {bound : Nat} {steps taken : List Step} {w : Writer}
    (hle : bound ≤ w.level) (h : StaysAbove bound w steps) (htaken : taken <+: steps) :
    bound ≤ (w.run taken).level := by
  induction taken generalizing w steps with
  | nil => exact hle
  | cons s taken ih =>
    obtain ⟨rest, rfl⟩ := htaken
    exact ih (h.le_step hle) h.2 (List.prefix_append taken rest)

/-- And they leave a level only after one was entered. -/
theorem StaysAbove.lt_run {bound : Nat} {steps taken : List Step} {w : Writer}
    (h : StaysAbove bound w steps) (htaken : taken ++ [.leave] <+: steps) :
    bound < (w.run taken).level := by
  obtain ⟨rest, rfl⟩ := htaken
  have hleave := (staysAbove_append.mp (staysAbove_append.mp h).1).2
  exact hleave.1 rfl

end Writer

/-! ## Steps that write code

One statement about a list of steps, with both halves in it, since each way to
compose steps needs both. The code may depend on the level, as the code of a body
does; most code does not and is a constant function. -/

/-- **Steps that write a given code**, as a function of the level they begin at. -/
structure Writes (steps : List Step) (code : Nat → String) : Prop where
  /-- The code is appended, and the level is the one at the beginning. -/
  run_eq : ∀ w : Writer, w.run steps = ⟨w.output ++ code w.level, w.level⟩
  /-- The writer stays above the level at the beginning. -/
  staysAbove : ∀ w : Writer, w.StaysAbove w.level steps

namespace Writes

variable {steps rest : List Step} {code further : Nat → String}

theorem nil : Writes [] fun _ => "" where
  run_eq w := by rw [Writer.run_nil, String.append_empty]
  staysAbove _ := trivial

theorem put (piece : String) : Writes [.put piece] fun _ => piece where
  run_eq _ := rfl
  staysAbove _ := ⟨fun h => Step.noConfusion h, trivial⟩

theorem indent : Writes [.indent] indentation where
  run_eq _ := rfl
  staysAbove _ := ⟨fun h => Step.noConfusion h, trivial⟩

/-- One thing after another. -/
theorem append (h : Writes steps code) (hrest : Writes rest further) :
    Writes (steps ++ rest) fun k => code k ++ further k where
  run_eq w := by
    rw [Writer.run_append, h.run_eq, hrest.run_eq]
    simp only [String.append_assoc]
  staysAbove w := by
    refine Writer.staysAbove_append.mpr ⟨h.staysAbove w, ?_⟩
    rw [h.run_eq]
    exact hrest.staysAbove ⟨w.output ++ code w.level, w.level⟩

/-- **One level further in.** -/
theorem nested (h : Writes steps code) :
    Writes (.enter :: steps ++ [.leave]) fun k => code (k + 1) where
  run_eq w := by
    rw [List.cons_append, Writer.run_cons, Writer.run_append, h.run_eq]
    rfl
  staysAbove w := by
    refine ⟨fun h => Step.noConfusion h, Writer.staysAbove_append.mpr ⟨?_, ?_⟩⟩
    · -- staying above the inner level is more than staying above the outer one
      exact (h.staysAbove (w.step .enter)).mono (Nat.le_succ w.level)
    · rw [h.run_eq]
      exact ⟨fun _ => Nat.lt_succ_self w.level, trivial⟩

theorem cons_put (piece : String) (h : Writes steps code) :
    Writes (.put piece :: steps) fun k => piece ++ code k :=
  (put piece).append h

theorem append_put (h : Writes steps code) (piece : String) :
    Writes (steps ++ [.put piece]) fun k => code k ++ piece :=
  h.append (put piece)

/-- One thing after another, as many as there are. -/
theorem flatMap {α : Type} {steps : α → List Step} {code : α → Nat → String} {as : List α}
    (h : ∀ a ∈ as, Writes (steps a) (code a)) :
    Writes (as.flatMap steps) fun k => String.join (as.map fun a => code a k) := by
  induction as with
  | nil =>
    simp only [List.map_nil, String.join_nil]
    exact nil
  | cons a as ih =>
    simp only [List.map_cons, String.join_cons, List.flatMap_cons]
    exact (h a List.mem_cons_self).append (ih fun b hb => h b (List.mem_cons_of_mem a hb))

/-- A writer of its own writes the code of the outermost level. -/
theorem emit_eq (h : Writes steps code) : Writer.emit steps = code 0 := by
  rw [Writer.emit, h.run_eq]
  exact String.empty_append

end Writes

/-! ## Several things

The parts of a list are written one after another, with something between them that
belongs to none. `WritesAll` keeps the parts apart until it is known what that
is. -/

/-- **Steps that write several things**, each of them given by its own steps. -/
inductive WritesAll : List (List Step) → (Nat → List String) → Prop
  | nil : WritesAll [] fun _ => []
  | cons {steps : List Step} {code : Nat → String} {parts : List (List Step)}
      {codes : Nat → List String} :
    Writes steps code → WritesAll parts codes →
    WritesAll (steps :: parts) fun k => code k :: codes k

namespace WritesAll

variable {parts : List (List Step)} {codes : Nat → List String}

/-- The parts that are made of each element of a list. -/
theorem map {α : Type} {steps : α → List Step} {code : α → Nat → String} {as : List α}
    (h : ∀ a ∈ as, Writes (steps a) (code a)) :
    WritesAll (as.map steps) fun k => as.map fun a => code a k := by
  induction as with
  | nil => exact nil
  | cons a as ih =>
    exact cons (h a List.mem_cons_self) (ih fun b hb => h b (List.mem_cons_of_mem a hb))

/-- With a separator between them. -/
theorem joined (h : WritesAll parts codes) (separator : String) :
    Writes (joinedSteps separator parts) fun k => separator.intercalate (codes k) := by
  induction h with
  | nil =>
    simp only [String.intercalate_nil]
    exact Writes.nil
  | cons hfirst hrest ih =>
    cases hrest with
    | nil =>
      simp only [joinedSteps, List.intercalate_singleton, String.intercalate_singleton]
      exact hfirst
    | cons hsecond hrest =>
      simp only [joinedSteps, List.intercalate_cons_cons, String.intercalate_cons_cons] at ih ⊢
      exact (hfirst.append_put separator).append ih

/-- As type arguments. -/
theorem argumentList (h : WritesAll parts codes) :
    Writes (Ty.argumentListSteps parts) fun k => Ty.argumentList (codes k) := by
  cases h with
  | nil => exact Writes.nil
  | cons hfirst hrest => exact (((cons hfirst hrest).joined ", ").cons_put "<").append_put ">"

/-- As arguments of a call. -/
theorem arguments (h : WritesAll parts codes) :
    Writes (argumentSteps parts) fun k => argumentText (codes k) :=
  ((h.joined ", ").cons_put "(").append_put ")"

/-- Each on lines of its own. -/
theorem onLines (h : WritesAll parts codes) :
    Writes (parts.flatMap fun m => .indent :: m ++ [.put "\n"])
      fun k => String.join ((codes k).map fun m => indentation k ++ m ++ "\n") := by
  induction h with
  | nil =>
    simp only [List.map_nil, String.join_nil]
    exact Writes.nil
  | cons hfirst hrest ih =>
    simp only [List.map_cons, String.join_cons, List.flatMap_cons]
    exact ((Writes.indent.append hfirst).append_put "\n").append ih

/-- **As the members of a body.** The level is raised for them and lowered again. -/
theorem body (h : WritesAll parts codes) :
    Writes (bodySteps parts) fun k => bodyText k (codes (k + 1)) := by
  have hend : Writes [.indent, .put "\x7d"] fun k => indentation k ++ "\x7d" :=
    Writes.indent.append_put "\x7d"
  -- the closing brace comes after the level was left, so it stands at the outer one
  have hbody := ((h.onLines.nested).cons_put "\x7b\n").append hend
  simp only [← String.append_assoc] at hbody
  simpa only [bodySteps, bodyText, List.cons_append, List.append_assoc, List.nil_append] using hbody

end WritesAll

/-! ## Types

A type is written at any level alike. Where it stands for a constructor, it is first
written by a writer of its own, so that its question mark can be taken off. -/

/-- A name is written in one step. -/
theorem Identifier.writes_steps (id : Identifier) : Writes id.steps fun _ => id.text :=
  Writes.put id.text

namespace Ty

theorem writes_markSteps (nullable : Bool) :
    Writes (markSteps nullable) fun _ => nullMark nullable := by
  cases nullable with
  | false => exact Writes.nil
  | true => exact Writes.put "?"

mutual

/-- **The steps of a type write its code.** -/
theorem writes_steps : ∀ t : Ty, Writes t.steps fun _ => t.text
  | .primitive name => name.writes_steps
  | .array element nullable => by
    have hmark := writes_markSteps nullable
    have helement := writes_steps element
    cases element with
    | primitive name => exact (name.writes_steps.append_put "Array").append hmark
    | _ => exact ((helement.cons_put "Array<").append_put ">").append hmark
  | .classType name arguments nullable =>
    (name.writes_steps.append (writesAll_stepsOfAll arguments).argumentList).append
      (writes_markSteps nullable)
  | .starProjection => Writes.put "*"
  | .outProjection bound => bound.writes_steps.cons_put "out "
  | .inProjection bound => bound.writes_steps.cons_put "in "
  | .vararg component => component.writes_steps

/-- The steps of several types. -/
theorem writesAll_stepsOfAll : ∀ ts : List Ty, WritesAll (stepsOfAll ts) fun _ => texts ts
  | [] => .nil
  | t :: rest => .cons t.writes_steps (writesAll_stepsOfAll rest)

end

/-- The writer of its own that a type in the place of a constructor is written by makes no
difference. -/
theorem writes_constructorSteps (t : Ty) :
    Writes t.constructorSteps fun _ => t.constructorText := by
  rw [constructorSteps, t.writes_steps.emit_eq]
  exact Writes.put t.constructorText

end Ty

/-- Where there are no parts, there is no code. -/
theorem WritesAll.eq_nil {codes : Nat → List String} (h : WritesAll [] codes) (k : Nat) :
    codes k = [] := by
  cases h
  rfl

/-- **The steps of an array creation** write its code, if those of its sizes do. -/
theorem WritesAll.creation {parts : List (List Step)} {codes : Nat → List String}
    (h : WritesAll parts codes) (t : Ty) :
    Writes (creationSteps t parts) fun k => creationText t (codes k) := by
  induction t, parts using Ty.levels_induction generalizing codes with
  | nested e m n size next rest ih =>
    cases h with
    | cons hsize hrest =>
      have hhead := ((Ty.array (.array e m) n).writes_constructorSteps.append_put "(").append hsize
      cases hrest with
      | cons hnext hrest =>
        exact ((hhead.append_put ", \x7b").append (ih (.cons hnext hrest))).append_put "\x7d)"
  | last e n size rest hlast =>
    cases h with
    | cons hsize hrest =>
      have hhead := ((Ty.array e n).writes_constructorSteps.append_put "(").append hsize
      have hcodes (k : Nat) := hlast.imp_right fun hnil => WritesAll.eq_nil (hnil ▸ hrest) k
      rw [creationSteps_last hlast]
      simp only [creationText_last (hcodes _)]
      exact hhead.append_put ")"
  | bare t parts hbare =>
    have hcodes (k : Nat) := hbare.imp_right fun hnil => WritesAll.eq_nil (hnil ▸ h) k
    rw [creationSteps_bare hbare]
    simp only [creationText_bare (hcodes _)]
    exact t.writes_constructorSteps

/-! ## Expressions and declarations

The remaining functions of the writer, one statement for each, and then the
induction over expressions, members and class declarations, which contain one
another. -/

/-- A line is indented if there is something in it. -/
theorem writes_lineSteps (line : String) :
    Writes (lineSteps line)
      fun k => "\n" ++ (if line.isEmpty then "" else indentation k) ++ line := by
  unfold lineSteps
  split
  · simp only [String.append_empty]
    exact (Writes.put "\n").append_put line
  · exact ((Writes.put "\n").append Writes.indent).append_put line

/-- **The steps of code made elsewhere** write its lines, the first one where it stands. -/
theorem writes_verbatimSteps (code : String) :
    Writes (verbatimSteps code) fun k => verbatimText k code := by
  unfold verbatimSteps verbatimText
  cases Text.lines code with
  | nil => exact Writes.nil
  | cons first rest => exact (Writes.flatMap fun line _ => writes_lineSteps line).cons_put first

theorem TypeParameter.writes_steps (p : TypeParameter) : Writes p.steps fun _ => p.text := by
  obtain ⟨name, bound⟩ := p
  cases bound with
  | none => exact name.writes_steps.append Writes.nil
  | some bound => exact name.writes_steps.append (bound.writes_steps.cons_put " : ")

/-- The separator is written if something follows. -/
theorem joinedSteps_cons (separator : String) (first : List Step) (rest : List (List Step)) :
    joinedSteps separator (first :: rest)
      = first ++ (if rest.isEmpty then [] else [.put separator]) ++ joinedSteps separator rest := by
  cases rest with
  | nil => simp [joinedSteps]
  | cons second rest => simp [joinedSteps, List.intercalate_cons_cons]

/-- The supertypes of a class are the superclass and the interfaces in one list. -/
theorem WritesAll.supertypes {parts : List (List Step)} {codes : Nat → List String}
    (h : WritesAll parts codes) (superclass : Option Ty) (interfaces : List Ty) :
    Writes (supertypeSteps superclass parts interfaces)
      fun k => supertypeText superclass (codes k) interfaces := by
  have hinterfaces : WritesAll (interfaces.map Ty.constructorSteps)
      fun _ => interfaces.map Ty.constructorText :=
    .map fun t _ => t.writes_constructorSteps
  cases superclass with
  | none =>
    cases interfaces with
    | nil => exact Writes.nil
    | cons t rest => exact (hinterfaces.joined ", ").cons_put " : "
  | some t =>
    -- the steps treat the superclass apart, the code has one list of supertypes
    have hbase := t.writes_constructorSteps.append h.arguments
    have hall := ((WritesAll.cons hbase hinterfaces).joined ", ").cons_put " : "
    rw [joinedSteps_cons] at hall
    simpa [supertypeSteps, supertypeText] using hall

/-- What a class declaration says before its supertypes. -/
theorem writes_headSteps (name : Identifier) (modifiers : List Modifier)
    (typeParameters : List TypeParameter) :
    Writes (headSteps name modifiers typeParameters)
      fun _ => headText name modifiers typeParameters := by
  have hmodifiers : Writes (modifiers.flatMap fun m => [.put m.keyword, .put " "])
      fun _ => String.join (modifiers.map fun m => m.keyword ++ " ") :=
    .flatMap fun m _ => (Writes.put m.keyword).append_put " "
  have hparameters : WritesAll (typeParameters.map TypeParameter.steps)
      fun _ => typeParameters.map TypeParameter.text :=
    .map fun p _ => p.writes_steps
  exact ((hmodifiers.append_put "class ").append name.writes_steps).append hparameters.argumentList

mutual

/-- **The steps of an expression write its code.** -/
theorem Expr.writes_steps : ∀ e : Expr, Writes e.steps fun k => e.text k
  | .literal value => Writes.put value.text
  | .ident name => name.writes_steps
  | .member receiver name => (receiver.writes_steps.append_put _).append name.writes_steps
  | .call callee typeArguments arguments _ =>
    (callee.writes_steps.append (Ty.writesAll_stepsOfAll typeArguments).argumentList).append
      (Expr.writesAll_stepsOfAll arguments).arguments
  | .newArray type sizes => (Expr.writesAll_stepsOfAll sizes).creation type
  | .anonymous supertype arguments members =>
    (((supertype.writes_constructorSteps.cons_put "object : ").append
      (Expr.writesAll_stepsOfAll arguments).arguments).append_put " ").append
      (Member.writesAll_stepsOfAll members).body

/-- The steps of several expressions. -/
theorem Expr.writesAll_stepsOfAll : ∀ es : List Expr,
    WritesAll (Expr.stepsOfAll es) fun k => Expr.texts k es
  | [] => .nil
  | e :: rest => .cons e.writes_steps (Expr.writesAll_stepsOfAll rest)

/-- **The steps of a member write its code.** -/
theorem Member.writes_steps : ∀ m : Member, Writes m.steps fun k => m.text k
  | .property name type none _ =>
    ((name.writes_steps.cons_put _).append_put ": ").append type.writes_steps
  | .property name type (some initializer) _ =>
    ((((name.writes_steps.cons_put _).append_put ": ").append type.writes_steps).append_put
      " = ").append initializer.writes_steps
  | .classMember declaration => declaration.writes_steps
  | .verbatim code => writes_verbatimSteps code

/-- The steps of several members. -/
theorem Member.writesAll_stepsOfAll : ∀ ms : List Member,
    WritesAll (Member.stepsOfAll ms) fun k => Member.texts k ms
  | [] => .nil
  | m :: rest => .cons m.writes_steps (Member.writesAll_stepsOfAll rest)

/-- **The steps of a class declaration write its code.** -/
theorem Class.writes_steps : ∀ c : Class, Writes c.steps fun k => c.text k
  | ⟨name, modifiers, typeParameters, superclass, interfaces, superArguments, members⟩ =>
    (((writes_headSteps name modifiers typeParameters).append
      ((Expr.writesAll_stepsOfAll superArguments).supertypes superclass interfaces)).append_put
      " ").append (Member.writesAll_stepsOfAll members).body

end

/-- **The steps of a body write its code.** -/
theorem ObjectBody.writes_steps (b : ObjectBody) : Writes b.steps fun k => b.text k :=
  (Member.writesAll_stepsOfAll b.members).body

/-- **The steps of a file write its code.** -/
theorem File.writes_steps (f : File) : Writes f.steps fun k => f.text k := by
  have hpackage : Writes
      (if f.packageName.isEmpty then [] else [.put "package ", .put f.packageName, .put "\n"])
      fun _ => if f.packageName.isEmpty then "" else "package " ++ f.packageName ++ "\n" := by
    split
    · exact Writes.nil
    · exact ((Writes.put "package ").append_put f.packageName).append_put "\n"
  have himports : WritesAll (f.imports.map Import.steps) fun _ => f.imports.map Import.text :=
    .map fun i _ => (Writes.put "import ").append_put i.name
  have hclasses : WritesAll (f.classes.map Class.steps) fun k => f.classes.map (Class.text k) :=
    .map fun c _ => c.writes_steps
  have hall := (((hpackage.append (himports.joined "\n")).append_put "\n\n").append
    (hclasses.joined "\n")).append_put "\n" |>.append_put f.mainFunction
  simpa only [File.steps, File.text, List.append_assoc, List.cons_append, List.nil_append]
    using hall

/-! ## Nodes of any kind

The nodes that a writer can be given have different types. `Node` is their sum, so
that the main statement can speak about a list of nodes of any kinds. -/

/-- **A node of any kind that can be written.** -/
inductive Node where
  | identifier (id : Identifier)
  | type (t : Ty)
  | expr (e : Expr)
  | call (c : Call)
  | arrayCreation (a : ArrayCreation)
  | importLine (i : Import)
  | member (m : Member)
  | classDeclaration (c : Class)
  | objectBody (b : ObjectBody)
  | file (f : File)

namespace Node

/-- Writes a node. -/
def write (w : Writer) : Node → Writer
  | identifier id => id.write w
  | type t => t.write w
  | expr e => e.write w
  | call c => c.write w
  | arrayCreation a => a.write w
  | importLine i => i.write w
  | member m => m.write w
  | classDeclaration c => c.write w
  | objectBody b => b.write w
  | file f => f.write w

/-- The steps in which a node is written. -/
def steps : Node → List Step
  | identifier id => id.steps
  | type t => t.steps
  | expr e => e.steps
  | call c => c.toExpr.steps
  | arrayCreation a => a.toExpr.steps
  | importLine i => i.steps
  | member m => m.steps
  | classDeclaration c => c.steps
  | objectBody b => b.steps
  | file f => f.steps

/-- The code of a node at the given level. -/
def text (level : Nat) : Node → String
  | identifier id => id.text
  | type t => t.text
  | expr e => e.text level
  | call c => c.toExpr.text level
  | arrayCreation a => a.toExpr.text level
  | importLine i => i.text
  | member m => m.text level
  | classDeclaration c => c.text level
  | objectBody b => b.text level
  | file f => f.text level

/-- The code of a node on its own. -/
def toKotlin : Node → String
  | identifier id => id.text
  | type t => t.text
  | expr e => e.toKotlin
  | call c => c.toKotlin
  | arrayCreation a => a.toKotlin
  | importLine i => i.text
  | member m => m.toKotlin
  | classDeclaration c => c.toKotlin
  | objectBody b => b.toKotlin
  | file f => f.toKotlin

theorem write_eq_run (n : Node) (w : Writer) : n.write w = w.run n.steps := by
  cases n <;> rfl

theorem text_zero (n : Node) : n.text 0 = n.toKotlin := by
  cases n <;> rfl

/-- **The steps of a node write its code**, whatever its kind. -/
theorem writes_steps (n : Node) : Writes n.steps fun k => n.text k := by
  cases n with
  | identifier id => exact id.writes_steps
  | type t => exact t.writes_steps
  | expr e => exact e.writes_steps
  | call c => exact c.toExpr.writes_steps
  | arrayCreation a => exact a.toExpr.writes_steps
  | importLine i => exact (Writes.put "import ").append_put i.name
  | member m => exact m.writes_steps
  | classDeclaration c => exact c.writes_steps
  | objectBody b => exact b.writes_steps
  | file f => exact f.writes_steps

/-- **Writing a node appends its code** and changes nothing else. -/
theorem write_eq (n : Node) (w : Writer) :
    n.write w = ⟨w.output ++ n.text w.level, w.level⟩ := by
  rw [write_eq_run, n.writes_steps.run_eq]

/-- Nodes written one after another at the outermost level. -/
theorem foldl_write (ns : List Node) (code : String) :
    ns.foldl write ⟨code, 0⟩ = ⟨code ++ String.join (ns.map toKotlin), 0⟩ := by
  induction ns generalizing code with
  | nil => simp
  | cons n ns ih =>
    rw [List.foldl_cons, n.write_eq, ih, n.text_zero, List.map_cons, String.join_cons,
      String.append_assoc]

/-- **One writer behaves like many.** Writing a node of any kind ends at the level it began at, has
at no point in between come below it nor left a level that it had not entered, and appends code
that depends on the node and the level only. So nodes of any kinds, written one after another onto
a new writer, give the concatenation of their code. -/
theorem write_appends_code :
    (∀ (n : Node) (w : Writer),
      (n.write w).level = w.level
        ∧ (∀ taken, taken <+: n.steps → w.level ≤ (w.run taken).level)
        ∧ (∀ taken, taken ++ [.leave] <+: n.steps → w.level < (w.run taken).level)
        ∧ n.write w = w.run n.steps
        ∧ (n.write w).output = w.output ++ n.text w.level)
      ∧ ∀ ns : List Node, (ns.foldl write Writer.new).output = String.join (ns.map toKotlin) := by
  refine ⟨fun n w => ?_, fun ns => ?_⟩
  · have habove := n.writes_steps.staysAbove w
    refine ⟨?_, fun _ => habove.le_run (Nat.le_refl w.level), fun _ => habove.lt_run,
      n.write_eq_run w, ?_⟩
    · rw [n.write_eq]
    · rw [n.write_eq]
  · rw [Writer.new, foldl_write, String.empty_append]

end Node

end Kotlinize.Kotlin
