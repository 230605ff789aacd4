import Kotlinize.Kotlin.Name
import Kotlinize.Proofs.Sequences

/-!
# Dotted names and their segments

A dotted name can be given as a text or as the list of its segments. Cutting a text at its dots and
joining the segments again gives the text back (`dotted_segments`). The other way around the list
comes back if there is a segment at all and none has a dot of its own (`segments_dotted`).

So a change that is made to every segment, and that makes no dots, can be followed through the text.
Deleting a character is such a change (`without_dotted`), and so is putting the keywords in
backquotes (`segments_escapeDotted`).
-/

namespace Kotlinize

namespace Text

/-! ## Cutting and joining

Every text has a segment, the empty text an empty one, so that the list of no
segments is the one list that cutting never gives. -/

/-- **A text is made of its segments.** -/
@[simp] theorem dotted_segments (s : String) : dotted (segments s) = s := by
  have hchars : (segments s).map String.toList = s.toList.splitOn '.' := by
    simp [segments, Function.comp_def]
  rw [← String.toList_inj, dotted, String.toList_intercalate, hchars]
  exact List.intercalate_splitOn '.'

/-- **Names without dots are the segments of what they make.** -/
theorem segments_dotted {names : List String} (hne : names ≠ [])
    (h : ∀ name ∈ names, '.' ∉ name.toList) : segments (dotted names) = names := by
  have hsplit : (['.'].intercalate (names.map String.toList)).splitOn '.'
      = names.map String.toList :=
    List.splitOn_intercalate '.' (by simpa using h) (by simpa using hne)
  rw [segments, dotted, String.toList_intercalate]
  show (List.splitOn '.' (['.'].intercalate _)).map String.ofList = names
  rw [hsplit]
  simp [Function.comp_def]

/-- There is at least one segment. -/
theorem segments_ne_nil (s : String) : segments s ≠ [] := by
  simp [segments]

/-- A text with one segment is that segment. -/
theorem eq_of_segments_eq_singleton {s name : String} (h : segments s = [name]) : s = name := by
  rw [← dotted_segments s, h]
  exact String.intercalate_singleton

/-- A segment holds no dot, and nothing that the text does not hold. -/
theorem mem_and_ne_dot_of_mem_segments {c : Char} {s name : String} (hname : name ∈ segments s)
    (hc : c ∈ name.toList) : c ∈ s.toList ∧ c ≠ '.' := by
  obtain ⟨cs, hcs, rfl⟩ := List.mem_map.mp hname
  rw [String.toList_ofList] at hc
  exact List.mem_and_ne_of_mem_splitOn hcs hc

theorem dot_notMem_of_mem_segments {s name : String} (h : name ∈ segments s) :
    '.' ∉ name.toList :=
  fun hdot => (mem_and_ne_dot_of_mem_segments h hdot).2 rfl

theorem notMem_of_mem_segments {c : Char} {s name : String} (h : c ∉ s.toList)
    (hname : name ∈ segments s) : c ∉ name.toList :=
  fun hc => h (mem_and_ne_dot_of_mem_segments hname hc).1

/-! ## Appending

What is put behind a dotted name without a dot belongs to its last segment. -/

/-- What is appended to the joined names is appended to the last of them. -/
theorem dotted_concat_append (names : List String) (last suffix : String) :
    dotted (names ++ [last]) ++ suffix = dotted (names ++ [last ++ suffix]) := by
  unfold dotted
  by_cases hnames : names = []
  · rw [hnames, List.nil_append, List.nil_append, String.intercalate_singleton,
      String.intercalate_singleton]
  · rw [String.intercalate_append_of_ne_nil hnames (List.cons_ne_nil _ _),
      String.intercalate_append_of_ne_nil hnames (List.cons_ne_nil _ _),
      String.intercalate_singleton, String.intercalate_singleton, String.append_assoc]

/-- **A suffix without dots goes to the last segment.** -/
theorem segments_append {s suffix : String} (h : '.' ∉ suffix.toList) :
    segments (s ++ suffix)
      = (segments s).dropLast ++ [(segments s).getLast (segments_ne_nil s) ++ suffix] := by
  have hne := segments_ne_nil s
  calc segments (s ++ suffix)
      = segments (dotted ((segments s).dropLast ++ [(segments s).getLast hne ++ suffix])) := by
        rw [← dotted_concat_append, List.dropLast_concat_getLast, dotted_segments]
    _ = (segments s).dropLast ++ [(segments s).getLast hne ++ suffix] := by
        refine segments_dotted (by simp) fun name hname => ?_
        rcases List.mem_append.mp hname with hname | hname
        · exact dot_notMem_of_mem_segments (List.dropLast_subset _ hname)
        · rw [List.mem_singleton.mp hname, String.toList_append, List.mem_append, not_or]
          exact ⟨dot_notMem_of_mem_segments (List.getLast_mem hne), h⟩

/-! ## Deleting a character -/

/-- A text without the occurrences of a character. -/
def without (c : Char) (s : String) : String :=
  String.ofList (s.toList.filter (· != c))

theorem without_append (c : Char) (s t : String) :
    without c (s ++ t) = without c s ++ without c t := by
  rw [without, String.toList_append, List.filter_append, String.ofList_append]
  rfl

/-- Deleting a character that does not occur changes nothing. -/
theorem without_of_notMem {c : Char} {s : String} (h : c ∉ s.toList) : without c s = s := by
  have hall : ∀ d ∈ s.toList, (d != c) = true := by
    intro d hd
    rw [bne_iff_ne]
    rintro rfl
    exact h hd
  rw [without, List.filter_eq_self.mpr hall, String.ofList_toList]

/-- What is deleted from a dotted name is deleted from its segments, unless it is the dot. -/
theorem without_dotted {c : Char} (hc : c ≠ '.') (names : List String) :
    without c (dotted names) = dotted (names.map (without c)) := by
  have hdot : without c "." = "." := without_of_notMem (by simpa using hc)
  unfold dotted
  induction names with
  | nil => rfl
  | cons name rest ih =>
    cases rest with
    | nil => rw [List.map_singleton, String.intercalate_singleton, String.intercalate_singleton]
    | cons next rest =>
      rw [List.map_cons] at ih
      rw [String.intercalate_cons_cons, without_append, without_append, hdot, ih, List.map_cons,
        List.map_cons, String.intercalate_cons_cons]

end Text

namespace Kotlin

/-! ## Escaping

A keyword has no dots and gets none from its backquotes, so a dotted name can be escaped without
losing track of its segments. -/

/-- **The segments of names that were escaped one by one are the escaped names.** -/
theorem segments_escapeSegments {names : List String} (hne : names ≠ [])
    (h : ∀ name ∈ names, '.' ∉ name.toList) :
    Text.segments (escapeSegments names) = names.map escapeKeyword := by
  refine Text.segments_dotted (by simpa using hne) fun segment hsegment => ?_
  obtain ⟨name, hname, rfl⟩ := List.mem_map.mp hsegment
  exact dot_notMem_escapeKeyword (h name hname)

/-- **The segments of an escaped name are the escaped segments.** -/
theorem segments_escapeDotted (s : String) :
    Text.segments (escapeDotted s) = (Text.segments s).map escapeKeyword :=
  segments_escapeSegments (Text.segments_ne_nil s) fun _ => Text.dot_notMem_of_mem_segments

end Kotlin

end Kotlinize
