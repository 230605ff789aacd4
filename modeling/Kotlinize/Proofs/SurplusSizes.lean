import Kotlinize.Proofs.Fragments

/-!
# Notices of surplus sizes

An array creation whose type has `d` levels writes `d` sizes at most. If it has
more, say `n`, the innermost level is left with `n - d + 1` sizes where it takes
one, and raises a notice that says so. The notice comes after all that is raised
for the first `d - 1` sizes and before what is raised for the last one that is
written (`Expr.notices_newArray_of_hasSurplus`). Nothing else raises a notice
itself (`Fragment.eq_newArray_of_notice_mem`).

In a whole expression a notice is known with its place, as a `Remark`: the path
through the layouts that leads to it, and the code that was written before it.
`Fragment.exists_enumerates` puts all remarks of a fragment into one list. Their
places increase along it, so no remark is there twice, and with them grows the
code before; their notices are those of writing the fragment.

The main statement, `surplus_sizes_noticed_once`, joins the two: the remarks of
an expression are those of the creations with surplus sizes that are written in
it, one for each.
-/

namespace Kotlinize.Kotlin

/-! ## The notices of a creation

The levels of the type and the sizes are gone through together, from the outermost
level in. Each level but the innermost takes one size away from those that are left,
so the number of surplus sizes stays the same on the way, and the notice can be
given in terms of the whole type. -/

/-- **A creation has surplus sizes** if its type is an array and has fewer levels. -/
def HasSurplus (t : Ty) (count : Nat) : Prop :=
  t.isArray = true ∧ t.arrayDepth < count

instance (t : Ty) (count : Nat) : Decidable (HasSurplus t count) :=
  inferInstanceAs (Decidable (_ ∧ _))

/-- The notice of surplus sizes: those that are left for the innermost level. -/
def surplusNotice (t : Ty) (count : Nat) : Notice :=
  .surplusSizes (count - t.arrayDepth + 1) 1

/-- **One notice is raised for surplus sizes**, after all sizes but the last that is written. -/
theorem exists_notice_of_hasSurplus (t : Ty) (sizes : List Chunk)
    (hsizes : ∀ c ∈ sizes, c.isPart = true) (h : HasSurplus t sizes.length) :
    ∃ opening closing,
      creationChunks t sizes = opening ++ .notice (surplusNotice t sizes.length) :: closing
        ∧ (∀ n, .notice n ∉ opening ++ closing)
        ∧ opening.filter Chunk.isPart = sizes.take (t.arrayDepth - 1)
        ∧ closing.filter Chunk.isPart = (sizes.drop (t.arrayDepth - 1)).take 1 := by
  obtain ⟨harray, hlt⟩ := h
  induction t, sizes using Ty.levels_induction with
  | nested e m n size next rest ih =>
    obtain ⟨hsize, hrest⟩ := List.forall_mem_cons.mp hsizes
    rw [Ty.arrayDepth, List.length_cons] at hlt
    -- the level inside is left with one size less, and raises the same notice
    obtain ⟨opening, closing, hsplit, hnone, hopening, hclosing⟩ :=
      ih hrest rfl (Nat.lt_of_succ_lt_succ hlt)
    refine ⟨.code ((Ty.array (.array e m) n).constructorText ++ "(") :: size :: .code ", \x7b"
      :: opening, closing ++ [.code "\x7d)"], ?_, ?_, ?_, ?_⟩
    · rw [creationChunks_nested, hsplit]
      simp [surplusNotice, Ty.arrayDepth]
    · intro n'
      have hinner := hnone n'
      rw [List.mem_append, not_or] at hinner
      simp [Chunk.notice_ne_of_isPart hsize n', hinner]
    · rw [Ty.arrayDepth, Nat.add_sub_cancel] at hopening
      simp [hsize, hopening, Ty.arrayDepth]
    · rw [Ty.arrayDepth, Nat.add_sub_cancel] at hclosing
      simp [hclosing, Ty.arrayDepth]
  | last e n size rest hlast =>
    have hsize := hsizes size List.mem_cons_self
    have hrest : rest ≠ [] := by
      rintro rfl
      rw [Ty.arrayDepth, List.length_singleton] at hlt
      omega
    have he : e.isArray = false := hlast.resolve_right hrest
    have hd : (Ty.array e n).arrayDepth = 1 := by
      rw [Ty.arrayDepth, Ty.arrayDepth_of_not_isArray he]
    refine ⟨[], [.code ((Ty.array e n).constructorText ++ "("), size, .code ")"], ?_, ?_, ?_, ?_⟩
    · rw [creationChunks_last hlast]
      simp [hrest, hd, surplusNotice]
    · intro n'
      simp [Chunk.notice_ne_of_isPart hsize n']
    · simp [hd]
    · simp [hd, hsize]
  | bare t sizes hbare =>
    rcases hbare with ht | rfl
    · rw [ht] at harray
      cases harray
    · cases hlt

/-- **Otherwise no notice is raised.** -/
theorem notice_notMem_of_not_hasSurplus (t : Ty) (sizes : List Chunk)
    (hsizes : ∀ c ∈ sizes, c.isPart = true) (h : ¬HasSurplus t sizes.length) (n : Notice) :
    .notice n ∉ creationChunks t sizes := by
  induction t, sizes using Ty.levels_induction with
  | nested e m n' size next rest ih =>
    obtain ⟨hsize, hrest⟩ := List.forall_mem_cons.mp hsizes
    have hinner : ¬HasSurplus (.array e m) (next :: rest).length := fun hsurplus =>
      h ⟨rfl, Nat.succ_lt_succ hsurplus.2⟩
    simp [creationChunks_nested, Chunk.notice_ne_of_isPart hsize n, ih hrest hinner]
  | last e n' size rest hlast =>
    have hsize := hsizes size List.mem_cons_self
    have hrest : rest = [] := by
      rcases hlast with he | hrest
      · rw [HasSurplus, Ty.arrayDepth, Ty.arrayDepth_of_not_isArray he, List.length_cons] at h
        refine List.length_eq_zero_iff.mp (Nat.eq_zero_of_not_pos fun hpos => h ⟨rfl, ?_⟩)
        exact Nat.succ_lt_succ hpos
      · exact hrest
    rw [creationChunks_last hlast]
    simp [hrest, Chunk.notice_ne_of_isPart hsize n]
  | bare t sizes hbare =>
    rw [creationChunks_bare hbare]
    simp

/-- Arguments raise what is raised inside them, and nothing themselves. -/
theorem notice_notMem_argumentChunks (level : Nat) (es : List Expr) (n : Notice) :
    .notice n ∉ argumentChunks level es := by
  cases es with
  | nil => simp [argumentChunks]
  | cons e rest => simp [argumentChunks, exprPart]

/-- Nor does the body of a class or of an anonymous object. -/
theorem notice_notMem_bodyChunks (level : Nat) (members : List Member) (n : Notice) :
    .notice n ∉ bodyChunks level members := by
  simp [bodyChunks, memberPart]

/-- **Nothing but a creation raises a notice itself.** -/
theorem Fragment.eq_newArray_of_notice_mem {level : Nat} {f : Fragment} {n : Notice}
    (h : .notice n ∈ f.layout level) : ∃ type sizes, f = .expr (.newArray type sizes) := by
  cases f with
  | expr e =>
    cases e with
    | newArray type sizes => exact ⟨type, sizes, rfl⟩
    | literal value => simp [layout] at h
    | ident name => simp [layout] at h
    | member receiver name => simp [layout, exprPart] at h
    | call callee typeArguments arguments resultNullable =>
      simp [layout, exprPart, notice_notMem_argumentChunks] at h
    | anonymous supertype arguments members =>
      simp [layout, notice_notMem_argumentChunks, notice_notMem_bodyChunks] at h
  | member m =>
    cases m with
    | property name type initializer mutable => cases initializer <;> simp [layout, exprPart] at h
    | classMember c => simp [layout] at h
    | verbatim code => simp [layout] at h
  | declaration c =>
    obtain ⟨name, modifiers, typeParameters, superclass, interfaces, superArguments, members⟩ := c
    cases superclass <;>
      simp [layout, supertypeChunks, notice_notMem_argumentChunks, notice_notMem_bodyChunks] at h

/-! ## Remarks

A chunk inside a fragment is found by a path, one index for every layout on the way.
The remarks of a fragment are put together from those of its chunks, each behind the
code of the chunks before it (`Fragment.raises_iff`, `raisesAll_cons`). -/

/-- **A notice with its place**: the path to the chunk that raises it, and the code that was written
before. -/
@[ext] structure Remark where
  place : List Nat
  before : String
  notice : Notice

namespace Remark

/-- **One remark before another**, both by its place and in the code. -/
def Precedes (r r' : Remark) : Prop :=
  r.place < r'.place ∧ ∃ code, r'.before = r.before ++ code

/-- The remark behind the given code, inside the chunk with the given index. -/
def behind (i : Nat) (code : String) (r : Remark) : Remark :=
  ⟨i :: r.place, code ++ r.before, r.notice⟩

/-- Remarks stay in order if the same code is put before both. -/
theorem Precedes.behind {r r' : Remark} (h : r.Precedes r') (i : Nat) (code : String) :
    (r.behind i code).Precedes (r'.behind i code) := by
  obtain ⟨hplace, further, hbefore⟩ := h
  refine ⟨List.cons_lt_cons_iff.mpr (.inr ⟨rfl, hplace⟩), further, ?_⟩
  show code ++ r'.before = code ++ r.before ++ further
  rw [hbefore, String.append_assoc]

end Remark

/-- **A remark that is raised while a fragment is written.** -/
def Fragment.Raises (level : Nat) (f : Fragment) (r : Remark) : Prop :=
  ∃ path i s, f.at? level path = some s
    ∧ (s.fragment.layout s.level)[i]? = some (.notice r.notice)
    ∧ r.place = path ++ [i]
    ∧ r.before = s.before ++ Chunk.join ((s.fragment.layout s.level).take i)

/-- A remark that a chunk raises. -/
def Chunk.Raises : Chunk → Remark → Prop
  | code _, _ => False
  | part level f, r => f.Raises level r
  | notice n, r => r = ⟨[], "", n⟩

/-- The remarks of chunks one after another, the first of which has the given index and stands
behind the given code. -/
def RaisesAll (start : Nat) (code : String) (cs : List Chunk) (r : Remark) : Prop :=
  ∃ (i : Nat) (c : Chunk) (r' : Remark), cs[i]? = some c ∧ c.Raises r'
    ∧ r = r'.behind (start + i) (code ++ Chunk.join (cs.take i))

/-- **The remarks of a fragment are those of its chunks.** -/
theorem Fragment.raises_iff {level : Nat} {f : Fragment} {r : Remark} :
    f.Raises level r ↔ RaisesAll 0 "" (f.layout level) r := by
  constructor
  · rintro ⟨path, i, s, hs, hi, hplace, hbefore⟩
    cases path with
    | nil =>
      cases hs
      refine ⟨i, _, ⟨[], "", r.notice⟩, hi, rfl, Remark.ext ?_ ?_ rfl⟩
      · simp [Remark.behind, hplace]
      · simp [Remark.behind, hbefore]
    | cons j path =>
      obtain ⟨inner, g, t, hj, ht, rfl⟩ := at?_cons_eq_some.mp hs
      refine ⟨j, _, ⟨path ++ [i], _, r.notice⟩, hj, ⟨path, i, t, ht, hi, rfl, rfl⟩,
        Remark.ext ?_ ?_ rfl⟩
      · simp [Remark.behind, hplace]
      · simp [Remark.behind, hbefore, String.append_assoc]
  · rintro ⟨i, c, r', hi, hraises, rfl⟩
    cases c with
    | code s => cases hraises
    | notice n =>
      cases hraises
      exact ⟨[], i, _, rfl, hi, by simp [Remark.behind], by simp [Remark.behind]⟩
    | part inner g =>
      obtain ⟨path, j, s, hs, hj, hplace, hbefore⟩ := hraises
      refine ⟨i :: path, j, _, at?_cons_eq_some.mpr ⟨inner, g, s, hi, hs, rfl⟩, hj, ?_, ?_⟩
      · simp [Remark.behind, hplace]
      · simp [Remark.behind, hbefore, String.append_assoc]

/-- The remarks of a chunk and of those after it. -/
theorem raisesAll_cons {start : Nat} {code : String} {c : Chunk} {cs : List Chunk} {r : Remark} :
    RaisesAll start code (c :: cs) r ↔
      (∃ r', c.Raises r' ∧ r = r'.behind start code)
        ∨ RaisesAll (start + 1) (code ++ c.text) cs r := by
  constructor
  · rintro ⟨i, d, r', hi, hraises, rfl⟩
    cases i with
    | zero =>
      cases hi
      exact .inl ⟨r', hraises, by simp⟩
    | succ i =>
      refine .inr ⟨i, d, r', hi, hraises, ?_⟩
      simp [String.append_assoc, Nat.add_assoc, Nat.add_comm 1 i]
  · rintro (⟨r', hraises, rfl⟩ | ⟨i, d, r', hi, hraises, rfl⟩)
    · exact ⟨0, c, r', rfl, hraises, by simp⟩
    · refine ⟨i + 1, d, r', hi, hraises, ?_⟩
      simp [String.append_assoc, Nat.add_assoc, Nat.add_comm 1 i]

/-- What was written before a remark is written by the chunk that raises it. -/
theorem Chunk.Raises.exists_text_eq {c : Chunk} {r : Remark} (h : c.Raises r) :
    ∃ after, c.text = r.before ++ after := by
  cases c with
  | code s => cases h
  | notice n =>
    cases h
    exact ⟨"", rfl⟩
  | part level f =>
    obtain ⟨path, i, s, hs, hi, hplace, hbefore⟩ := h
    obtain ⟨⟨after, hafter⟩, -⟩ := Fragment.exists_around hs
    refine ⟨Chunk.join ((s.fragment.layout s.level).drop i) ++ after, ?_⟩
    show f.text level = _
    have hjoin := s.fragment.join_layout s.level
    rw [← List.take_append_drop i (s.fragment.layout s.level), Chunk.join_append] at hjoin
    rw [hafter, hbefore, ← hjoin]
    simp only [String.append_assoc]

/-! ## All remarks in their order

Places are compared as lists: first by the chunk of the outermost layout, then
inside it. Remarks of different chunks are in order because the code before the
first is within its own chunk (`Chunk.Raises.exists_text_eq`), and remarks of one
chunk are in order by induction. -/

/-- **Remarks that are all there are of a kind**, in their order and with the given notices. -/
structure Enumerates (rs : List Remark) (raises : Remark → Prop) (notices : List Notice) :
    Prop where
  notices_eq : rs.map Remark.notice = notices
  ordered : rs.Pairwise Remark.Precedes
  mem_iff : ∀ r, r ∈ rs ↔ raises r

/-- The remarks of chunks are those of each, one chunk after another. -/
theorem exists_enumerates_of_forall {cs : List Chunk}
    (h : ∀ c ∈ cs, ∃ rs, Enumerates rs c.Raises c.notices) (start : Nat) (code : String) :
    ∃ rs, Enumerates rs (RaisesAll start code cs) (cs.flatMap Chunk.notices) := by
  induction cs generalizing start code with
  | nil =>
    refine ⟨[], rfl, .nil, fun r => ⟨nofun, ?_⟩⟩
    rintro ⟨i, c, r', hi, -⟩
    cases hi
  | cons c cs ih =>
    obtain ⟨hc, hcs⟩ := List.forall_mem_cons.mp h
    obtain ⟨rs, hrs⟩ := hc
    obtain ⟨rest, hrest⟩ := ih hcs (start + 1) (code ++ c.text)
    refine ⟨rs.map (Remark.behind start code) ++ rest, ?_, ?_, ?_⟩
    · rw [List.map_append, List.map_map, List.flatMap_cons, ← hrs.notices_eq, hrest.notices_eq]
      rfl
    · refine List.pairwise_append.mpr ⟨?_, hrest.ordered, ?_⟩
      · exact List.pairwise_map.mpr (hrs.ordered.imp fun hr => hr.behind start code)
      · -- the code before a remark of the first chunk is within that chunk
        intro a ha b hb
        obtain ⟨r, hr, rfl⟩ := List.mem_map.mp ha
        obtain ⟨i, d, r', -, -, rfl⟩ := (hrest.mem_iff b).mp hb
        obtain ⟨after, hafter⟩ := ((hrs.mem_iff r).mp hr).exists_text_eq
        refine ⟨List.cons_lt_cons_iff.mpr (.inl (by omega)),
          after ++ Chunk.join (cs.take i) ++ r'.before, ?_⟩
        simp [Remark.behind, hafter, String.append_assoc]
    · intro r
      rw [raisesAll_cons, List.mem_append, List.mem_map, hrest.mem_iff]
      refine or_congr ⟨?_, ?_⟩ Iff.rfl
      · rintro ⟨r', hr', rfl⟩
        exact ⟨r', (hrs.mem_iff r').mp hr', rfl⟩
      · rintro ⟨r', hr', rfl⟩
        exact ⟨r', (hrs.mem_iff r').mpr hr', rfl⟩

/-- **The remarks of a fragment stand in the order of its code**, and their notices are those of
writing it. -/
theorem Fragment.exists_enumerates (level : Nat) (f : Fragment) :
    ∃ rs, Enumerates rs (f.Raises level) f.notices := by
  induction level, f using Fragment.parts_induction with
  | step level f ih =>
    have hchunks : ∀ c ∈ f.layout level, ∃ rs, Enumerates rs c.Raises c.notices := by
      intro c hc
      cases c with
      | code s => exact ⟨[], rfl, .nil, fun r => ⟨nofun, nofun⟩⟩
      | part inner g => exact ih inner g hc
      | notice n =>
        exact ⟨[⟨[], "", n⟩], rfl, List.pairwise_singleton _ _, fun r => List.mem_singleton⟩
    obtain ⟨rs, hnotices, hordered, hmem⟩ := exists_enumerates_of_forall hchunks 0 ""
    exact ⟨rs, hnotices.trans (f.notices_layout level), hordered,
      fun r => (hmem r).trans Fragment.raises_iff.symm⟩

/-! ## Creations with surplus sizes

What is known about the chunks of a creation is now brought to the remarks of an
expression. A layout in which one chunk is a notice has one place for it, so a
creation has at most one remark; it has one if and only if it has surplus sizes. -/

/-- Chunks that raise no notice themselves have the notices of the fragments that they write. -/
theorem flatMap_notices_of_notMem {cs : List Chunk} (h : ∀ n, .notice n ∉ cs) :
    cs.flatMap Chunk.notices = (cs.filter Chunk.isPart).flatMap Chunk.notices := by
  induction cs with
  | nil => rfl
  | cons c cs ih =>
    have hcs : ∀ n, .notice n ∉ cs := fun n hn => h n (List.mem_cons_of_mem c hn)
    cases c with
    | code s => simp [ih hcs]
    | part level f => rw [List.flatMap_cons, ih hcs, List.filter_cons_of_pos rfl, List.flatMap_cons]
    | notice n => exact absurd List.mem_cons_self (h n)

/-- The notices of chunks that write expressions are those of the expressions. -/
theorem flatMap_notices_exprPart (level : Nat) (es : List Expr) :
    (es.map (exprPart level)).flatMap Chunk.notices = es.flatMap Expr.notices := by
  simp [List.flatMap_map]

/-- Surplus sizes in the layout of a creation. -/
theorem Fragment.exists_notice_of_hasSurplus {type : Ty} {sizes : List Expr}
    (h : HasSurplus type sizes.length) (level : Nat) :
    ∃ opening closing,
      (Fragment.expr (.newArray type sizes)).layout level
          = opening ++ .notice (surplusNotice type sizes.length) :: closing
        ∧ (∀ n, .notice n ∉ opening ++ closing)
        ∧ opening.filter Chunk.isPart
          = (sizes.take (type.arrayDepth - 1)).map (exprPart level)
        ∧ closing.filter Chunk.isPart
          = ((sizes.drop (type.arrayDepth - 1)).take 1).map (exprPart level) := by
  have hsplit := Kotlin.exists_notice_of_hasSurplus type (sizes.map (exprPart level))
    Chunk.isPart_of_mem_map_exprPart (by rwa [List.length_map])
  rwa [List.length_map, ← List.map_take, ← List.map_drop, ← List.map_take] at hsplit

/-- **The notice of surplus sizes comes between those of the sizes**: before those of the last size
that is written. -/
theorem Expr.notices_newArray_of_hasSurplus {type : Ty} {sizes : List Expr}
    (h : HasSurplus type sizes.length) :
    ∃ size, sizes[type.arrayDepth - 1]? = some size
      ∧ (Expr.newArray type sizes).notices
        = (sizes.take (type.arrayDepth - 1)).flatMap Expr.notices
          ++ surplusNotice type sizes.length :: size.notices := by
  obtain ⟨opening, closing, hlayout, hnone, hopening, hclosing⟩ :=
    Fragment.exists_notice_of_hasSurplus h 0
  have hlt : type.arrayDepth - 1 < sizes.length := Nat.lt_of_le_of_lt (Nat.sub_le _ _) h.2
  rw [List.drop_eq_getElem_cons hlt, List.take_succ_cons, List.take_zero] at hclosing
  refine ⟨_, List.getElem?_eq_getElem hlt, ?_⟩
  have hnotices := (Fragment.expr (.newArray type sizes)).notices_layout 0
  rw [hlayout, List.flatMap_append, List.flatMap_cons,
    flatMap_notices_of_notMem fun n hn => hnone n (List.mem_append_left _ hn),
    flatMap_notices_of_notMem fun n hn => hnone n (List.mem_append_right _ hn),
    hopening, hclosing, flatMap_notices_exprPart, flatMap_notices_exprPart,
    List.flatMap_singleton] at hnotices
  exact hnotices.symm

/-- **Otherwise the notices are those of the sizes that are written.** -/
theorem Expr.notices_newArray_of_not_hasSurplus {type : Ty} {sizes : List Expr}
    (h : ¬HasSurplus type sizes.length) :
    (Expr.newArray type sizes).notices = (sizes.take type.arrayDepth).flatMap Expr.notices := by
  have hnone := notice_notMem_of_not_hasSurplus type (sizes.map (exprPart 0))
    Chunk.isPart_of_mem_map_exprPart (by rwa [List.length_map])
  have hnotices := (Fragment.expr (.newArray type sizes)).notices_layout 0
  rw [Fragment.layout, flatMap_notices_of_notMem hnone,
    parts_creationChunks _ _ Chunk.isPart_of_mem_map_exprPart, ← List.map_take,
    flatMap_notices_exprPart] at hnotices
  exact hnotices.symm

/-- The place of a notice among chunks that raise no other. -/
theorem eq_of_getElem?_eq_notice {opening closing : List Chunk} {n m : Notice} {i : Nat}
    (hnone : ∀ n, .notice n ∉ opening ++ closing)
    (h : (opening ++ .notice n :: closing)[i]? = some (.notice m)) :
    i = opening.length ∧ m = n := by
  have hopening : .notice m ∉ opening := fun hm => hnone m (List.mem_append_left _ hm)
  have hclosing : .notice m ∉ closing := fun hm => hnone m (List.mem_append_right _ hm)
  rcases Nat.lt_trichotomy i opening.length with hlt | rfl | hgt
  · rw [List.getElem?_append_left hlt] at h
    exact absurd (List.mem_of_getElem? h) hopening
  · rw [List.getElem?_append_right (Nat.le_refl _), Nat.sub_self] at h
    cases h
    exact ⟨rfl, rfl⟩
  · obtain ⟨j, rfl⟩ := Nat.exists_eq_add_of_lt hgt
    rw [List.getElem?_append_right (by omega)] at h
    rw [show opening.length + j + 1 - opening.length = j + 1 by omega] at h
    exact absurd (List.mem_of_getElem? (List.getElem?_cons_succ ▸ h)) hclosing

/-- **The remark of a creation with surplus sizes** that is written at the end of a path. -/
def Expr.IsSurplusRemark (e : Expr) (path : List Nat) (type : Ty) (sizes : List Expr)
    (r : Remark) : Prop :=
  ∃ s opening closing, (Fragment.expr e).at? 0 path = some s
    ∧ s.fragment = .expr (.newArray type sizes)
    ∧ HasSurplus type sizes.length
    ∧ s.fragment.layout s.level = opening ++ .notice r.notice :: closing
    ∧ r = ⟨path ++ [opening.length], s.before ++ Chunk.join opening,
      .surplusSizes (sizes.length - type.arrayDepth + 1) 1⟩

/-- **A creation with surplus sizes has one remark.** -/
theorem Expr.exists_isSurplusRemark_iff {e : Expr} {path : List Nat} {s : Spot} {type : Ty}
    {sizes : List Expr} (hs : (Fragment.expr e).at? 0 path = some s)
    (hcreation : s.fragment = .expr (.newArray type sizes)) (h : HasSurplus type sizes.length) :
    ∃ r, ∀ r', e.IsSurplusRemark path type sizes r' ↔ r' = r := by
  obtain ⟨opening, closing, hlayout, hnone, -⟩ := Fragment.exists_notice_of_hasSurplus h s.level
  rw [← hcreation] at hlayout
  refine ⟨⟨path ++ [opening.length], s.before ++ Chunk.join opening,
    surplusNotice type sizes.length⟩, fun r' => ⟨?_, ?_⟩⟩
  · rintro ⟨t, opening', closing', ht, -, -, hlayout', hr'⟩
    cases hs.symm.trans ht
    -- both ways of taking the layout apart do so at the one notice in it
    have hat : (opening ++ .notice (surplusNotice type sizes.length) :: closing)[opening'.length]?
        = some (.notice r'.notice) := by
      rw [← hlayout, hlayout', List.getElem?_append_right (Nat.le_refl _), Nat.sub_self]
      rfl
    have hlength := (eq_of_getElem?_eq_notice hnone hat).1
    have hopening : opening' = opening :=
      (List.append_inj (hlayout'.symm.trans hlayout) hlength).1
    rw [hr', hopening]
    rfl
  · rintro rfl
    exact ⟨s, opening, closing, hs, hcreation, h, hlayout, rfl⟩

/-- **What raises a remark is a creation with surplus sizes.** -/
theorem Expr.raises_iff_isSurplusRemark (e : Expr) (r : Remark) :
    (Fragment.expr e).Raises 0 r ↔ ∃ path type sizes, e.IsSurplusRemark path type sizes r := by
  constructor
  · rintro ⟨path, i, s, hs, hi, hplace, hbefore⟩
    obtain ⟨type, sizes, hcreation⟩ :=
      Fragment.eq_newArray_of_notice_mem (List.mem_of_getElem? hi)
    have hsurplus : HasSurplus type sizes.length := by
      refine Decidable.byContradiction fun hnot => ?_
      rw [hcreation] at hi
      exact notice_notMem_of_not_hasSurplus type _ Chunk.isPart_of_mem_map_exprPart
        (by rwa [List.length_map]) r.notice (List.mem_of_getElem? hi)
    obtain ⟨opening, closing, hlayout, hnone, -⟩ :=
      Fragment.exists_notice_of_hasSurplus hsurplus s.level
    rw [← hcreation] at hlayout
    rw [hlayout] at hi hbefore
    obtain ⟨rfl, hnotice⟩ := eq_of_getElem?_eq_notice hnone hi
    refine ⟨path, type, sizes, s, opening, closing, hs, hcreation, hsurplus, ?_,
      Remark.ext hplace ?_ hnotice⟩
    · rw [hlayout, hnotice]
    · rw [hbefore, List.take_left]
  · rintro ⟨path, type, sizes, s, opening, closing, hs, -, -, hlayout, hr⟩
    refine ⟨path, opening.length, s, hs, ?_, congrArg Remark.place hr, ?_⟩
    · rw [hlayout, List.getElem?_append_right (Nat.le_refl _), Nat.sub_self]
      rfl
    · rw [hlayout, List.take_left]
      exact congrArg Remark.before hr

/-- **Surplus sizes are noticed once, where they are written.** The notices of writing an expression
are those of its remarks in the order of the code, and each remark is that of one creation with
surplus sizes that is written. A fragment that is written has its code and its notices in one piece
of those of the expression, and what it writes are its parts: of a creation with `d` levels the
first `d` sizes. With more than `d` sizes the creation has exactly one remark, whose notice comes
between those of the first `d - 1` sizes and those of the last one that is written; otherwise it
has no remark, and no notices but those of the sizes that are written. -/
theorem surplus_sizes_noticed_once (e : Expr) :
    (∃ remarks : List Remark, remarks.map Remark.notice = e.notices
      ∧ remarks.Pairwise Remark.Precedes
      ∧ ∀ r, r ∈ remarks ↔ ∃ path type sizes, e.IsSurplusRemark path type sizes r)
    ∧ (∀ path s, (Fragment.expr e).at? 0 path = some s →
      (∃ after, e.toKotlin = s.before ++ s.fragment.text s.level ++ after)
      ∧ (∃ earlier later, e.notices = earlier ++ s.fragment.notices ++ later)
      ∧ (s.fragment.layout s.level).filter Chunk.isPart = s.fragment.parts s.level)
    ∧ ∀ path s type sizes, (Fragment.expr e).at? 0 path = some s →
      s.fragment = .expr (.newArray type sizes) →
      s.fragment.parts s.level = (sizes.take type.arrayDepth).map (exprPart s.level)
      ∧ (HasSurplus type sizes.length →
        (∃ r, ∀ r', e.IsSurplusRemark path type sizes r' ↔ r' = r)
        ∧ ∃ size, sizes[type.arrayDepth - 1]? = some size
          ∧ s.fragment.notices = (sizes.take (type.arrayDepth - 1)).flatMap Expr.notices
            ++ .surplusSizes (sizes.length - type.arrayDepth + 1) 1 :: size.notices)
      ∧ (¬HasSurplus type sizes.length →
        (∀ r, ¬e.IsSurplusRemark path type sizes r)
        ∧ s.fragment.notices = (sizes.take type.arrayDepth).flatMap Expr.notices) := by
  refine ⟨?_, ?_, ?_⟩
  · obtain ⟨remarks, hnotices, hordered, hmem⟩ := Fragment.exists_enumerates 0 (.expr e)
    exact ⟨remarks, hnotices, hordered, fun r => (hmem r).trans (e.raises_iff_isSurplusRemark r)⟩
  · intro path s hs
    obtain ⟨hcode, hnotices⟩ := Fragment.exists_around hs
    exact ⟨hcode, hnotices, s.fragment.parts_layout s.level⟩
  · intro path s type sizes hs hcreation
    refine ⟨by rw [hcreation, Fragment.parts], fun h => ⟨?_, ?_⟩, fun h => ⟨?_, ?_⟩⟩
    · exact Expr.exists_isSurplusRemark_iff hs hcreation h
    · rw [hcreation]
      exact Expr.notices_newArray_of_hasSurplus h
    · rintro r ⟨-, -, -, -, -, hsurplus, -⟩
      exact h hsurplus
    · rw [hcreation]
      exact Expr.notices_newArray_of_not_hasSurplus h

/-- Creations as sizes of a creation that has one size too many. The first has two too many, and the
last would have one, but is not written. -/
theorem surplus_sizes_noticed_once_nested :
    let line : Ty := .arrayOf (.ofPrimitive "Int")
    let n : Expr := .ident (.plain "n")
    let e : Expr := .newArray (.arrayOf line)
      [.newArray line [n, n, n], .newArray line [n], .newArray line [n, n]]
    e.notices = [.surplusSizes 3 1, .surplusSizes 2 1]
    ∧ (∃ r, ∀ r', e.IsSurplusRemark [1] line [n, n, n] r' ↔ r' = r)
    ∧ ∀ r, ¬e.IsSurplusRemark [5] line [n] r := by
  intro line n e
  obtain ⟨-, -, hcreations⟩ := surplus_sizes_noticed_once e
  refine ⟨rfl, ?_, ?_⟩
  · exact ((hcreations [1] _ line [n, n, n] rfl rfl).2.1 (by decide)).1
  · exact ((hcreations [5] _ line [n] rfl rfl).2.2 (by decide)).1

end Kotlinize.Kotlin
