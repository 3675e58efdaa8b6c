import EntityBase.Failure
import EntityBase.Proofs.Token.Coverage

/-!
# Places in a source — what a failure points at

A failure that is about a text names a line and a column, shows the line and puts carets
under it. The three are read off the text on either side of the place, each on its own, and
fit together: the lines in front, each with its line end, and what the line has in front of
the column are all that stands in front of the place (`Span.Located`). The carets begin
under the column and end with the line (`Span.Marks`). Columns and carets count bytes.
-/

namespace EntityBase

variable {before after line : List Char} {n : Nat} {s : Span} {source : String}

/-! ## Lines -/

/-- The lines of a text, which its line ends stand between. -/
def linesOf (text : List Char) : List (List Char) := text.splitOn '\n'

/-- The bytes of some lines, each with its line end. -/
def lineBytes : List (List Char) → Nat
  | [] => 0
  | line :: lines => byteLength line + 1 + lineBytes lines

theorem linesOf_cons (c : Char) (text : List Char) :
    linesOf (c :: text)
      = if c = '\n' then [] :: linesOf text else (linesOf text).modifyHead (c :: ·) := by
  simp [linesOf, List.splitOn_cons_eq_if_modifyHead]

theorem linesOf_append_newline (before after : List Char) :
    linesOf (before ++ '\n' :: after) = linesOf before ++ linesOf after :=
  List.splitOn_append_cons_self ..

/-- A text begins with its first line, and so does what stands in front of it in that
line. -/
theorem exists_linesOf_append (hline : '\n' ∉ line) (text : List Char) :
    ∃ rest, linesOf (line ++ text) = (line ++ firstLine text) :: rest := by
  obtain ⟨hfirst, tail, htext, hend⟩ := Lexer.firstLine_append text
  have hboth : '\n' ∉ line ++ firstLine text := by
    rw [List.mem_append]
    exact not_or.2 ⟨hline, hfirst⟩
  generalize firstLine text = first at htext hboth ⊢
  rw [htext, ← List.append_assoc]
  cases tail with
  | nil => exact ⟨[], by rw [List.append_nil, linesOf, List.splitOn_eq_singleton hboth]⟩
  | cons c tail =>
    obtain rfl := hend c rfl
    exact ⟨_, List.splitOn_append_cons_self_of_not_mem hboth ..⟩

theorem length_linesOf (text : List Char) : (linesOf text).length = text.count '\n' + 1 := by
  induction text with
  | nil => rfl
  | cons c text ih =>
    rw [linesOf_cons, List.count_cons]
    split
    · rename_i hc
      rw [List.length_cons, ih, if_pos (beq_iff_eq.2 hc)]
    · rename_i hc
      rw [List.length_modifyHead, ih, if_neg (mt beq_iff_eq.1 hc), Nat.add_zero]

theorem byteLength_newline (text : List Char) : byteLength ('\n' :: text) = byteLength text + 1 :=
  Nat.add_comm ..

/-- The lines of a text, with one line end too many, take its bytes. -/
theorem lineBytes_linesOf (text : List Char) : lineBytes (linesOf text) = byteLength text + 1 := by
  induction text with
  | nil => rfl
  | cons c text ih =>
    rw [linesOf_cons]
    split
    · rename_i hc
      subst hc
      rw [lineBytes, ih, byteLength_newline, byteLength]
      omega
    · obtain ⟨first, rest, hlines⟩ := List.exists_cons_of_ne_nil (List.splitOn_ne_nil '\n' text)
      have hsum : lineBytes (first :: rest) = byteLength text + 1 := hlines ▸ ih
      rw [linesOf, hlines, List.modifyHead_cons]
      simp only [lineBytes, byteLength] at hsum ⊢
      omega

/-- The last line of a text is all of it, or what is behind the last line end. -/
theorem lastLine_cases (text : List Char) :
    '\n' ∉ lastLine text ∧
      (text = lastLine text ∨ ∃ front, text = front ++ '\n' :: lastLine text) := by
  induction text with
  | nil => simp [lastLine]
  | cons c text ih =>
    obtain ⟨hline, hcases⟩ := ih
    rw [lastLine]
    split
    · rename_i hc
      subst hc
      refine ⟨hline, .inr ?_⟩
      rcases hcases with h | ⟨front, h⟩
      · exact ⟨[], congrArg ('\n' :: ·) h⟩
      · exact ⟨'\n' :: front, congrArg ('\n' :: ·) h⟩
    · rename_i hc
      split
      · rename_i hmem
        refine ⟨hline, .inr ?_⟩
        rcases hcases with h | ⟨front, h⟩
        · rw [h] at hmem
          exact absurd (List.contains_iff_mem.1 hmem) hline
        · exact ⟨c :: front, congrArg (c :: ·) h⟩
      · rename_i hmem
        refine ⟨fun h => ?_, .inl rfl⟩
        rcases List.mem_cons.1 h with h | h
        · exact hc h.symm
        · exact hmem (List.contains_iff_mem.2 h)

/-- **The line around a place.** It is made of the last line in front of the place and the
first one behind it. As many lines stand above it as there are line ends in front of the
place, and with the part of the line they take all bytes in front of the place. -/
theorem exists_lines_around (before after : List Char) :
    ∃ above below, linesOf (before ++ after)
        = above ++ (lastLine before ++ firstLine after) :: below ∧
      above.length = before.count '\n' ∧
      lineBytes above + byteLength (lastLine before) = byteLength before := by
  obtain ⟨hline, hcases⟩ := lastLine_cases before
  generalize lastLine before = line at hline hcases ⊢
  obtain ⟨below, hbelow⟩ := exists_linesOf_append hline after
  rcases hcases with rfl | ⟨front, rfl⟩
  · exact ⟨[], below, hbelow, (List.count_eq_zero.2 hline).symm, Nat.zero_add _⟩
  · refine ⟨linesOf front, below, ?_, ?_, ?_⟩
    · rw [List.append_assoc, List.cons_append, linesOf_append_newline, hbelow]
    · rw [length_linesOf, List.count_append, List.count_cons_self, List.count_eq_zero.2 hline]
    · rw [lineBytes_linesOf, byteLength_append, byteLength_newline]
      omega

/-! ## Places -/

/-- A text is cut at a place between two characters into what is on either side. -/
theorem cutBytes_append (h : byteLength before = min n (byteLength (before ++ after))) :
    cutBytes n (before ++ after) = (before, after) := by
  induction before generalizing n with
  | nil =>
    cases after with
    | nil => rfl
    | cons c after =>
      have := c.utf8Size_pos
      simp only [List.nil_append, byteLength] at h
      rw [List.nil_append, cutBytes, if_neg (by omega)]
  | cons c before ih =>
    simp only [List.cons_append, byteLength] at h
    rw [List.cons_append, cutBytes, if_pos (by omega), ih (by omega)]

namespace Span

/-- Where a span starts in a source: one that starts past the end starts at the end. -/
def offset (s : Span) (source : String) : Nat := min s.start source.utf8ByteSize

/-- Whether a span starts between two characters of a source, or at either end. -/
def OnBoundary (s : Span) (source : String) : Prop :=
  ∃ before after, source = before ++ after ∧ before.utf8ByteSize = s.offset source

/-- Whether line, column and line text are those of the start of the span: the line of that
number is the text, and the lines above it, each with its line end, and what the line has in
front of the column take the bytes in front of the start. -/
structure Located (s : Span) (source : String) : Prop where
  line_pos : 1 ≤ s.line source.toList
  column_pos : 1 ≤ s.column source.toList
  sourceLine : (linesOf source.toList)[s.line source.toList - 1]?
    = some (s.sourceLine source.toList)
  single : '\n' ∉ s.sourceLine source.toList
  offset : lineBytes ((linesOf source.toList).take (s.line source.toList - 1))
    + (s.column source.toList - 1) = s.offset source

/-- Whether a number of carets, from the column of the span on, marks what of the span is in
its line: there is one at least, they take all bytes that both have, and none is behind the
line, unless the line has nothing at the column and is marked by one caret behind it. -/
structure Marks (s : Span) (source : String) (carets : Nat) : Prop where
  pos : 0 < carets
  covers : min s.length (byteLength (s.sourceLine source.toList) - (s.column source.toList - 1))
    ≤ carets
  inside : s.column source.toList ≤ byteLength (s.sourceLine source.toList) →
    s.column source.toList - 1 + carets ≤ byteLength (s.sourceLine source.toList)
  behind : byteLength (s.sourceLine source.toList) < s.column source.toList → carets = 1

theorem located (h : s.OnBoundary source) : s.Located source := by
  obtain ⟨before, after, rfl, hbytes⟩ := h
  have hcut : cutBytes s.start (before ++ after).toList = (before.toList, after.toList) := by
    rw [String.toList_append]
    refine cutBytes_append ?_
    rw [← String.toList_append, ← utf8ByteSize_ofList, ← utf8ByteSize_ofList, String.ofList_toList,
      String.ofList_toList]
    exact hbytes
  obtain ⟨above, below, hlines, hlength, hsum⟩ := exists_lines_around before.toList after.toList
  rw [← String.toList_append] at hlines
  have hline : s.line (before ++ after).toList - 1 = above.length := by
    rw [line, hcut, Nat.add_sub_cancel, hlength]
  have hcolumn : s.column (before ++ after).toList - 1 = byteLength (lastLine before.toList) := by
    rw [column, hcut, Nat.add_sub_cancel]
  have hsource : s.sourceLine (before ++ after).toList
      = lastLine before.toList ++ firstLine after.toList := by
    rw [sourceLine, hcut]
  exact {
    line_pos := Nat.le_add_left 1 _
    column_pos := Nat.le_add_left 1 _
    sourceLine := by
      rw [hline, hlines, hsource, List.getElem?_append_right (Nat.le_refl _), Nat.sub_self]
      rfl
    single := by
      rw [hsource, List.mem_append]
      exact not_or.2 ⟨(lastLine_cases _).1, (Lexer.firstLine_append _).1⟩
    offset := by
      rw [hline, hcolumn, hlines, List.take_left, hsum, ← hbytes, ← utf8ByteSize_ofList,
        String.ofList_toList] }

theorem marks_caretCount (s : Span) (source : String) :
    s.Marks source (s.caretCount source.toList) := by
  have hcolumn : 1 ≤ s.column source.toList := Nat.le_add_left 1 _
  unfold caretCount
  constructor <;> omega

end Span

/-- **Positions are faithful.** Let the span of a failure start between two characters of
the source, or anywhere past its end. Then line and column are those of the start, and the
failure is shown with this line and, under it, carets from this column on that mark what of
the span is in the line. -/
theorem Failure.positions_faithful {f : Failure} (hspan : f.span? = some s)
    (hstart : s.OnBoundary source) :
    s.Located source ∧ ∃ carets, s.Marks source carets ∧
      f.context source = "Error at line " ++ toString (s.line source.toList) ++ ", column "
        ++ toString (s.column source.toList) ++ ":\n  " ++ f.message ++ "\n\n  "
        ++ String.ofList (s.sourceLine source.toList) ++ "\n  "
        ++ String.ofList (List.replicate (s.column source.toList - 1) ' '
          ++ List.replicate carets '^') ++ "\n" := by
  refine ⟨Span.located hstart, _, s.marks_caretCount source, ?_⟩
  rw [Failure.context, hspan]
  rfl

/-- A span that goes on behind its line, in a line with a character of two bytes; and one
past the end of a source that ends with a line end, where the line is empty. -/
theorem Failure.positions_faithful_edges :
    let source := "1\né [2\n"
    let opened : Span := ⟨5, 9⟩
    let closed : Span := ⟨100, 101⟩
    opened.OnBoundary source ∧ opened.Located source ∧ opened.Marks source 2 ∧
      closed.OnBoundary source ∧ closed.Located source ∧ closed.Marks source 1 ∧
      (Failure.unclosedScope opened).context source
        = "Error at line 2, column 4:\n  Unclosed scope opened at "
          ++ "Span \x7b start: 5, end: 9 \x7d\n\n  é [2\n     ^^\n" := by
  intro source opened closed
  have hopened : opened.OnBoundary source := ⟨"1\né ", "[2\n", rfl, rfl⟩
  have hclosed : closed.OnBoundary source := ⟨source, "", rfl, rfl⟩
  obtain ⟨hlocated, -⟩ := Failure.positions_faithful (f := .unclosedScope opened) rfl hopened
  obtain ⟨hlocated', -⟩ := Failure.positions_faithful (f := .unexpectedClose closed) rfl hclosed
  have hcarets : opened.caretCount source.toList = 2 := by decide +kernel
  have hcarets' : closed.caretCount source.toList = 1 := by decide +kernel
  exact ⟨hopened, hlocated, hcarets ▸ opened.marks_caretCount source, hclosed, hlocated',
    hcarets' ▸ closed.marks_caretCount source, by decide +kernel⟩

end EntityBase
