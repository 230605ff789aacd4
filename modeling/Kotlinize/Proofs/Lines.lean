import Kotlinize.Proofs.Sequences
import Kotlinize.Text.Lines

/-!
# Shifting lines

Code that stands further in is the same code with blanks at the beginning of its
lines. `shifted` puts them there: after every line feed, unless the line that it
begins is empty. The first line is left alone, since what stands before it is not
part of the text.

Shifting twice is shifting by the sum (`shiftedChars_shiftedChars`). It does not distribute
over concatenation in general, because whether the last line feed of a text
begins an empty line is decided by what follows; it does as soon as the left text
does not end in a line feed, or the right one is empty or begins with one
(`shiftedChars_append`).
-/

namespace Kotlinize.Text

/-! ## Lines

Codes are put together from fixed pieces and from what the nodes hold. Whether a
fixed piece is one line is decided when the lemma is applied, by `decide`. -/

/-- A text without line feeds. -/
def OneLine (s : String) : Prop :=
  '\n' ∉ s.toList

instance (s : String) : Decidable (OneLine s) :=
  inferInstanceAs (Decidable (¬ '\n' ∈ s.toList))

namespace OneLine

variable {s t : String}

theorem append (hs : OneLine s) (ht : OneLine t) : OneLine (s ++ t) := by
  rw [OneLine, String.toList_append, List.mem_append]
  exact not_or.mpr ⟨hs, ht⟩

/-- A fixed piece in front. -/
theorem cons_piece (piece : String) (hs : OneLine s) (hpiece : OneLine piece := by decide) :
    OneLine (piece ++ s) :=
  hpiece.append hs

/-- A fixed piece behind. -/
theorem append_piece (hs : OneLine s) (piece : String) (hpiece : OneLine piece := by decide) :
    OneLine (s ++ piece) :=
  hs.append hpiece

theorem join {ss : List String} (h : ∀ s ∈ ss, OneLine s) : OneLine (String.join ss) :=
  String.join_induction (by decide) (fun _ _ hs ht => hs.append ht) h

theorem intercalate (separator : String) {ss : List String} (h : ∀ t ∈ ss, OneLine t)
    (hseparator : OneLine separator := by decide) : OneLine (separator.intercalate ss) :=
  String.intercalate_induction (by decide) (fun _ _ hs ht => (hs.append hseparator).append ht) h

end OneLine

/-- Taking away a carriage return adds no character. -/
theorem mem_of_mem_withoutReturn {c : Char} {cs : List Char} (h : c ∈ withoutReturn cs) :
    c ∈ cs := by
  unfold withoutReturn at h
  split at h
  · exact List.dropLast_subset cs h
  · exact h

/-- The lines made of pieces hold nothing but what the pieces hold. -/
theorem notMem_of_mem_linesOfPieces {c : Char} {pieces : List (List Char)}
    (hpieces : ∀ piece ∈ pieces, c ∉ piece) : ∀ line ∈ linesOfPieces pieces, c ∉ line := by
  induction pieces with
  | nil => exact fun line h => absurd h List.not_mem_nil
  | cons piece rest ih =>
    have hpiece : c ∉ piece := hpieces piece List.mem_cons_self
    intro line h
    cases rest with
    | nil =>
      rw [linesOfPieces] at h
      split at h
      · exact absurd h List.not_mem_nil
      · rw [List.mem_singleton.mp h]
        exact hpiece
    | cons next rest =>
      rw [linesOfPieces] at h
      · rcases List.mem_cons.mp h with rfl | h
        · exact fun hc => hpiece (mem_of_mem_withoutReturn hc)
        · exact ih (fun p hp => hpieces p (List.mem_cons_of_mem piece hp)) line h
      · exact List.cons_ne_nil next rest

/-- **The lines of a text hold no line feeds.** -/
theorem oneLine_of_mem_lines {s line : String} (h : line ∈ lines s) : OneLine line := by
  obtain ⟨cs, hcs, rfl⟩ := List.mem_map.mp h
  rw [OneLine, String.toList_ofList]
  exact notMem_of_mem_linesOfPieces (fun _ hpiece => List.notMem_of_mem_splitOn hpiece) cs hcs

/-! ## Shifting

Shifting goes character by character. After each of them stand the blanks that are
due there, and they depend on the character and on the one that follows it in the
text, not on anything before. This makes shifting twice and shifting a concatenation
inductions over the characters with one case of interest, the line feed. -/

/-- Whether characters begin a line that is not empty. -/
def beginsLine : List Char → Bool
  | [] => false
  | c :: _ => c != '\n'

/-- The blanks after a character, given what follows it: none unless it is a line feed that begins
a line which is not empty. -/
def gap (width : Nat) (c : Char) (rest : List Char) : List Char :=
  if c = '\n' ∧ beginsLine rest then List.replicate width ' ' else []

/-- Characters with the blanks after each of them. -/
def shiftedChars (width : Nat) : List Char → List Char
  | [] => []
  | c :: rest => c :: gap width c rest ++ shiftedChars width rest

/-- **A text with its lines shifted.** The first line stays where it is. -/
def shifted (width : Nat) (s : String) : String :=
  String.ofList (shiftedChars width s.toList)

/-- Blanks come after line feeds only. -/
theorem gap_of_ne {width : Nat} {c : Char} (hc : c ≠ '\n') (rest : List Char) :
    gap width c rest = [] :=
  if_neg fun h => hc h.1

/-- A line feed before a line that is not empty has all the blanks after it. -/
theorem gap_of_beginsLine {width : Nat} {rest : List Char} (h : beginsLine rest = true) :
    gap width '\n' rest = List.replicate width ' ' :=
  if_pos ⟨rfl, h⟩

/-- Before an empty line there are no blanks. -/
theorem gap_of_not_beginsLine {width : Nat} {c : Char} {rest : List Char}
    (h : beginsLine rest = false) : gap width c rest = [] :=
  if_neg fun h' => absurd h'.2 (by rw [h]; decide)

/-- Shifting leaves the first character where it is. -/
theorem beginsLine_shiftedChars (width : Nat) (cs : List Char) :
    beginsLine (shiftedChars width cs) = beginsLine cs := by
  cases cs <;> rfl

/-- **Shifting distributes over concatenation** where no line feed stands right before a line that
is not empty. -/
theorem shiftedChars_append {width : Nat} {cs ds : List Char}
    (h : cs.getLast? = some '\n' → beginsLine ds = false) :
    shiftedChars width (cs ++ ds) = shiftedChars width cs ++ shiftedChars width ds := by
  induction cs with
  | nil => rfl
  | cons c cs ih =>
    cases cs with
    | nil =>
      have hgap : gap width c ds = [] := by
        by_cases hc : c = '\n'
        · exact gap_of_not_beginsLine (h (by rw [hc]; rfl))
        · exact gap_of_ne hc ds
      rw [List.cons_append, List.nil_append, shiftedChars, shiftedChars, hgap,
        gap_of_not_beginsLine rfl]
      rfl
    | cons d cs =>
      -- the blanks after `c` are decided by `d` on both sides
      have hgap : gap width c (d :: cs ++ ds) = gap width c (d :: cs) := rfl
      rw [List.getLast?_cons_cons] at h
      rw [List.cons_append, shiftedChars, ih h, hgap, shiftedChars.eq_2 width c (d :: cs),
        List.append_assoc]

/-- Characters without line feeds stay where they are. -/
theorem shiftedChars_of_notMem {width : Nat} {cs : List Char} (h : '\n' ∉ cs) :
    shiftedChars width cs = cs := by
  induction cs with
  | nil => rfl
  | cons c cs ih =>
    rw [List.mem_cons, not_or] at h
    rw [shiftedChars, gap_of_ne (Ne.symm h.1), ih h.2]
    rfl

/-- Shifting what follows characters without line feeds. -/
theorem shiftedChars_append_of_notMem {width : Nat} {cs : List Char} (h : '\n' ∉ cs)
    (ds : List Char) : shiftedChars width (cs ++ ds) = cs ++ shiftedChars width ds := by
  rw [shiftedChars_append fun hlast => absurd hlast (List.getLast?_ne_of_notMem h),
    shiftedChars_of_notMem h]

theorem lineFeed_notMem_replicate (width : Nat) : '\n' ∉ List.replicate width ' ' := by
  rw [List.mem_replicate]
  exact fun h => absurd h.2 (by decide)

/-- Blanks in front of a line that is not empty leave it so. -/
theorem beginsLine_replicate_append (width : Nat) {cs : List Char} (h : beginsLine cs = true) :
    beginsLine (List.replicate width ' ' ++ cs) = true := by
  cases width with
  | zero => exact h
  | succ width => rfl

/-- **Shifting twice is shifting by the sum.** -/
theorem shiftedChars_shiftedChars (width width' : Nat) (cs : List Char) :
    shiftedChars width (shiftedChars width' cs) = shiftedChars (width + width') cs := by
  induction cs with
  | nil => rfl
  | cons c cs ih =>
    by_cases hline : c = '\n' ∧ beginsLine cs = true
    · obtain ⟨rfl, hbegins⟩ := hline
      -- the inner blanks are part of the line that the outer ones are put before
      have hinner : beginsLine (List.replicate width' ' ' ++ shiftedChars width' cs) = true :=
        beginsLine_replicate_append width' (by rw [beginsLine_shiftedChars, hbegins])
      rw [shiftedChars, gap_of_beginsLine hbegins, List.cons_append, shiftedChars,
        gap_of_beginsLine hinner,
        shiftedChars_append_of_notMem (lineFeed_notMem_replicate width'), ih, shiftedChars,
        gap_of_beginsLine hbegins, ← List.replicate_append_replicate]
      simp only [List.cons_append, List.append_assoc]
    · have hgap : gap width' c cs = [] := if_neg hline
      have hgap' : gap (width + width') c cs = [] := if_neg hline
      have hgap'' : gap width c (shiftedChars width' cs) = [] :=
        if_neg (by rwa [beginsLine_shiftedChars])
      rw [shiftedChars, hgap, List.cons_append, List.nil_append, shiftedChars,
        hgap'', ih, shiftedChars, hgap']

end Kotlinize.Text
