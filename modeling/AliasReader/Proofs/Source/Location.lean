import AliasReader.Proofs.Source.Boundary
import AliasReader.Proofs.Text.ByteSearch
import Mathlib.Data.List.TakeWhile

/-!
# Locations in a Text

A line of a text has no newline in it, and on either side it reaches to a newline or to an end of the
text. Two lines of a text are the same one, or one of them ends before the other starts, and then it
has the smaller number. An offset between two characters therefore stands in one line only, which is
the one that is located: with a newline on either side of the offset, at the end of the text, and in
a line without characters, too.

The line may also be looked for in bytes, backward from the offset for its start and forward for its
end. `Line.search` does so, and cuts the text where the two searches end. It never cuts inside a
character, and it finds the same line.

## Main definitions

* `IsLine`: a line of a text, with what stands in front of it and behind it;
* `Line.IsAt`: the line of a text that an offset stands in, with its number and column;
* `Line.search`: looking for a line in bytes.

## Main results

* `IsLine.eq_or_before`: two lines of a text are the same one or one is in front of the other;
* `Line.IsAt.unique` and `Line.IsAt.offset_inj`: an offset stands in one line, and the number of the
  line and the column tell the offset;
* `Line.search_eq`: looking for a line in bytes;
* `Line.locate_exact`: the line of an offset is located, and it is the only one.
-/

namespace AliasReader

/-! ## Lines of a text -/

/-- A line of a text, with the parts of the text in front of it and behind it. -/
structure IsLine (source before text after : List Char) : Prop where
  /-- The text consists of the line and what stands around it. -/
  source_eq : source = before ++ text ++ after
  /-- The line starts the text or follows a newline. -/
  starts : before = [] ∨ before.getLast? = some '\n'
  /-- The line ends the text or a newline follows it. -/
  ends : after = [] ∨ after.head? = some '\n'
  /-- The line has no newline. -/
  newline_notMem : '\n' ∉ text

/-- Without a newline all of a text is taken, and a newline behind it ends the run. -/
theorem takeWhile_append_of_newline {line rest : List Char} (hline : '\n' ∉ line)
    (hrest : rest = [] ∨ rest.head? = some '\n') :
    (line ++ rest).takeWhile (· ≠ '\n') = line := by
  have hall : ∀ c ∈ line, (decide (c ≠ '\n')) = true := by
    intro c hc
    exact decide_eq_true fun heq => hline (heq ▸ hc)
  rw [List.takeWhile_append_of_pos hall]
  rcases hrest with rfl | hhead
  · simp
  · obtain ⟨tail, rfl⟩ := List.head?_eq_some_iff.1 hhead
    simp

/-- Every text starts with a run without newlines that ends the text or is followed by one. -/
theorem exists_run_of_no_newline (cs : List Char) :
    ∃ run rest, cs = run ++ rest ∧ '\n' ∉ run ∧ (rest = [] ∨ rest.head? = some '\n') := by
  induction cs with
  | nil => exact ⟨[], [], rfl, List.not_mem_nil, Or.inl rfl⟩
  | cons c cs ih =>
    by_cases hc : c = '\n'
    · subst hc
      exact ⟨[], '\n' :: cs, rfl, List.not_mem_nil, Or.inr rfl⟩
    · obtain ⟨run, rest, rfl, hrun, hrest⟩ := ih
      exact ⟨c :: run, rest, rfl, by simp [hrun, Ne.symm hc], hrest⟩

/-- Around any place of a text, the nearest newlines on both sides cut a line out of it. -/
theorem exists_isLine (first second : List Char) :
    ∃ before lead trail after, first = before ++ lead ∧ second = trail ++ after ∧
      IsLine (first ++ second) before (lead ++ trail) after := by
  obtain ⟨trail, after, rfl, htrail, hends⟩ := exists_run_of_no_newline second
  -- backward, the run is one of the reversed text
  obtain ⟨run, rest, hfirst, hrun, hstarts⟩ := exists_run_of_no_newline first.reverse
  obtain rfl : first = rest.reverse ++ run.reverse := by
    rw [← List.reverse_append, ← hfirst, List.reverse_reverse]
  refine ⟨rest.reverse, run.reverse, trail, after, rfl, rfl, ?_, ?_, hends, ?_⟩
  · simp only [List.append_assoc]
  · rwa [List.reverse_eq_nil_iff, List.getLast?_reverse]
  · simp [hrun, htrail]

section IsLine

variable {source before text after before' text' after' : List Char}

/-- Of two lines of a text, the one with more of the text in front of it is the same line as the
other one, or it starts behind the other one's end. -/
theorem IsLine.eq_or_before_of_prefix (h : IsLine source before text after)
    (h' : IsLine source before' text' after') (hfront : before <+: before') :
    (before = before' ∧ text = text' ∧ after = after') ∨
      (byteLength (before ++ text) < byteLength before' ∧
        before.count '\n' < before'.count '\n') := by
  obtain ⟨between, rfl⟩ := hfront
  have hrest : text ++ after = between ++ (text' ++ after') := by
    have hsource := h.source_eq.symm.trans h'.source_eq
    simpa only [List.append_assoc, List.append_cancel_left_eq] using hsource
  rcases between.eq_nil_or_concat with rfl | ⟨init, last, hbetween⟩
  · -- from one place on, both lines reach to the next newline
    have htext : text = text' := by
      rw [← takeWhile_append_of_newline h.newline_notMem h.ends, hrest, List.nil_append,
        takeWhile_append_of_newline h'.newline_notMem h'.ends]
    subst htext
    exact Or.inl ⟨(List.append_nil before).symm, rfl, List.append_cancel_left hrest⟩
  · -- the newline in front of the second line is not in the first one, so it stands behind it
    right
    obtain rfl : between = init ++ [last] := hbetween.trans List.concat_eq_append
    obtain rfl : last = '\n' := by simpa using h'.starts
    have hnewline : '\n' ∈ init ++ ['\n'] := by simp
    have hpositive : 0 < (init ++ ['\n']).count '\n' := List.count_pos_iff.2 hnewline
    have hcount : (before ++ (init ++ ['\n'])).count '\n' =
        before.count '\n' + (init ++ ['\n']).count '\n' := List.count_append
    refine ⟨?_, by omega⟩
    rcases List.append_eq_append_iff.1 hrest with ⟨gap, hgap, -⟩ | ⟨gap, hgap, -⟩
    · have hne : gap ≠ [] := by
        rintro rfl
        rw [List.append_nil] at hgap
        exact h.newline_notMem (hgap ▸ hnewline)
      have hpos : byteLength gap ≠ 0 := mt (byteLength_eq_zero_iff gap).1 hne
      rw [hgap]
      simp only [byteLength_append]
      omega
    · refine absurd ?_ h.newline_notMem
      rw [hgap]
      exact List.mem_append_left gap hnewline

/-- Two lines of a text are the same one, or one of them ends before the other starts and has fewer
newlines in front of it. -/
theorem IsLine.eq_or_before (h : IsLine source before text after)
    (h' : IsLine source before' text' after') :
    (before = before' ∧ text = text' ∧ after = after') ∨
      (byteLength (before ++ text) < byteLength before' ∧
        before.count '\n' < before'.count '\n') ∨
      (byteLength (before' ++ text') < byteLength before ∧
        before'.count '\n' < before.count '\n') := by
  have hbefore : before <+: source := by
    rw [h.source_eq, List.append_assoc]
    exact List.prefix_append before _
  have hbefore' : before' <+: source := by
    rw [h'.source_eq, List.append_assoc]
    exact List.prefix_append before' _
  rcases List.prefix_or_prefix_of_prefix hbefore hbefore' with hfront | hfront
  · rcases h.eq_or_before_of_prefix h' hfront with heq | hlt
    · exact Or.inl heq
    · exact Or.inr (Or.inl hlt)
  · rcases h'.eq_or_before_of_prefix h hfront with ⟨rfl, rfl, rfl⟩ | hlt
    · exact Or.inl ⟨rfl, rfl, rfl⟩
    · exact Or.inr (Or.inr hlt)

end IsLine

namespace Line

variable {source before lead trail after before' after' : List Char} {line line' : Line}
  {offset other : Nat}

/-! ## The line of an offset -/

/-- An offset of a text stands in a line, which has the parts `before` and `after` around it. Its
number counts the newlines in front of it, from 1, and its column the bytes between its start and
the offset. -/
structure IsAt (line : Line) (source : List Char) (offset : Nat) (before after : List Char) :
    Prop where
  /-- The line is one of the text. -/
  isLine : IsLine source before line.text after
  /-- Each line in front of this one ends with a newline. -/
  number_eq : line.number = before.count '\n' + 1
  /-- The offset is `column` bytes behind the start of the line. -/
  offset_eq : offset = byteLength before + line.column
  /-- The offset is not behind the end of the line. -/
  column_le : line.column ≤ byteLength line.text

/-- An offset stands in one line only. -/
theorem IsAt.unique (h : line.IsAt source offset before after)
    (h' : line'.IsAt source offset before' after') :
    line = line' ∧ before = before' ∧ after = after' := by
  have hoffset := h.offset_eq.symm.trans h'.offset_eq
  have hcolumn := h.column_le
  have hcolumn' := h'.column_le
  rcases h.isLine.eq_or_before h'.isLine with ⟨rfl, htext, rfl⟩ | ⟨hlt, -⟩ | ⟨hlt, -⟩
  · have hnumber : line.number = line'.number := h.number_eq.trans h'.number_eq.symm
    have hsame : line.column = line'.column := Nat.add_left_cancel hoffset
    obtain ⟨number, column, text⟩ := line
    obtain ⟨number', column', text'⟩ := line'
    simp only at hnumber hsame htext
    exact ⟨by rw [hnumber, hsame, htext], rfl, rfl⟩
  · -- the offset would stand in the first line, and not in front of the second one
    rw [byteLength_append] at hlt
    omega
  · rw [byteLength_append] at hlt
    omega

/-- The number of a line and a column tell the offset. -/
theorem IsAt.offset_inj (h : line.IsAt source offset before after)
    (h' : line'.IsAt source other before' after') (hnumber : line.number = line'.number)
    (hcolumn : line.column = line'.column) : offset = other := by
  have hcount := h.number_eq.symm.trans (hnumber.trans h'.number_eq)
  rcases h.isLine.eq_or_before h'.isLine with ⟨rfl, -, -⟩ | ⟨-, hlt⟩ | ⟨-, hlt⟩
  · rw [h.offset_eq, h'.offset_eq, hcolumn]
  · omega
  · omega

section AtPlace

variable (h : IsLine source before (lead ++ trail) after)

include h

/-- A place in a line of a text stands in that line. -/
theorem isAt_of_isLine :
    IsAt ⟨before.count '\n' + 1, byteLength lead, lead ++ trail⟩ source
      (byteLength (before ++ lead)) before after := by
  refine ⟨h, rfl, byteLength_append before lead, ?_⟩
  show byteLength lead ≤ byteLength (lead ++ trail)
  rw [byteLength_append]
  exact Nat.le_add_right _ _

theorem source_eq_of_isLine : source = (before ++ lead) ++ (trail ++ after) := by
  rw [h.source_eq]
  simp only [List.append_assoc]

theorem newline_notMem_of_isLine : '\n' ∉ lead ∧ '\n' ∉ trail := by
  simpa only [List.mem_append, not_or] using h.newline_notMem

/-- A line is located at each of its places. -/
theorem locate_of_isLine :
    locate source (byteLength (before ++ lead)) =
      .inLine ⟨before.count '\n' + 1, byteLength lead, lead ++ trail⟩ := by
  obtain ⟨hlead, htrail⟩ := newline_notMem_of_isLine h
  -- going back from the place, the line starts behind the nearest newline
  have hback : (before ++ lead).reverse.takeWhile (· ≠ '\n') = lead.reverse := by
    rw [List.reverse_append]
    apply takeWhile_append_of_newline (mt List.mem_reverse.1 hlead)
    rw [List.reverse_eq_nil_iff, List.head?_reverse]
    exact h.starts
  have hforth : (trail ++ after).takeWhile (· ≠ '\n') = trail :=
    takeWhile_append_of_newline htrail h.ends
  have hcount : (before ++ lead).count '\n' = before.count '\n' := by
    rw [List.count_append, List.count_eq_zero.2 hlead, Nat.add_zero]
  rw [source_eq_of_isLine h, locate_append, between, hback, hforth, hcount, byteLength_reverse,
    List.reverse_reverse]

end AtPlace

/-- What is located at an offset is the line that it stands in, and the offset is a place between
two characters. -/
theorem locate_eq_inLine_iff :
    locate source offset = .inLine line ↔
      (∃ first second, source = first ++ second ∧ byteLength first = offset) ∧
        ∃ before after, line.IsAt source offset before after := by
  constructor
  · intro h
    unfold locate at h
    split at h
    next => cases h
    next =>
      rcases hcut : splitAtByte? source offset with _ | ⟨first, second⟩
      · rw [hcut] at h
        cases h
      · obtain ⟨rfl, rfl⟩ := splitAtByte?_eq_some hcut
        rw [hcut] at h
        obtain rfl : between first second = line := Location.inLine.inj h
        obtain ⟨before, lead, trail, after, rfl, rfl, hline⟩ := exists_isLine first second
        have hlocate := locate_of_isLine hline
        rw [locate_append] at hlocate
        rw [Location.inLine.inj hlocate]
        exact ⟨⟨_, _, rfl, rfl⟩, before, after, isAt_of_isLine hline⟩
  · rintro ⟨⟨first, second, rfl, rfl⟩, before, after, h⟩
    obtain ⟨before', lead, trail, after', rfl, rfl, hline⟩ := exists_isLine first second
    rw [(h.unique (isAt_of_isLine hline)).1]
    exact locate_of_isLine hline

theorem locate_eq_outside_iff : locate source offset = .outside ↔ byteLength source < offset := by
  unfold locate
  split
  next h => simp [h]
  next h => rcases splitAtByte? source offset with _ | ⟨first, second⟩ <;> simp [h]

/-! ## Looking for a line in bytes -/

/-- The offset behind the last newline of what stands in front of a place. -/
def searchStart (first : List Char) : Nat :=
  match lastByteIndex? '\n' first with
  | some index => index + 1
  | none => 0

/-- The offset of the first newline of what stands behind a place, or the end of the text. -/
def searchStop (source : List Char) (offset : Nat) (second : List Char) : Nat :=
  match byteIndex? '\n' second with
  | some index => offset + index
  | none => byteLength source

/-- Look for the line of a byte offset from there, backward for its start and forward for its end,
and cut the text at both. -/
def search (source : List Char) (offset : Nat) : Location :=
  if byteLength source < offset then .outside
  else match splitAtByte? source offset with
    | none => .insideCharacter
    | some (first, second) =>
        let start := searchStart first
        let stop := searchStop source offset second
        match slice? source 0 start, slice? source start stop with
        | some front, some text => .inLine ⟨front.count '\n' + 1, offset - start, text⟩
        | _, _ => .insideCharacter

section AtPlace

variable (h : IsLine source before (lead ++ trail) after)

include h

/-- Backward from a place in a line, the search ends at the start of the line. -/
theorem searchStart_of_isLine : searchStart (before ++ lead) = byteLength before := by
  obtain ⟨hlead, -⟩ := newline_notMem_of_isLine h
  rcases h.starts with rfl | hlast
  · rw [List.nil_append, searchStart, lastByteIndex?_eq_none hlead]
    rfl
  · obtain ⟨init, rfl⟩ := List.getLast?_eq_some_iff.1 hlast
    rw [List.append_assoc, List.singleton_append, searchStart, lastByteIndex?_append init hlead,
      byteLength_append]
    rfl

/-- Forward from a place in a line, the search ends at the end of the line. -/
theorem searchStop_of_isLine :
    searchStop source (byteLength (before ++ lead)) (trail ++ after) =
      byteLength (before ++ (lead ++ trail)) := by
  obtain ⟨-, htrail⟩ := newline_notMem_of_isLine h
  rcases h.ends with rfl | hhead
  · rw [List.append_nil, searchStop, byteIndex?_eq_none htrail, h.source_eq, List.append_nil]
  · obtain ⟨rest, rfl⟩ := List.head?_eq_some_iff.1 hhead
    rw [searchStop, byteIndex?_append htrail, ← List.append_assoc, byteLength_append _ trail]

/-- A line is found by a search from each of its places. -/
theorem search_of_isLine :
    search source (byteLength (before ++ lead)) =
      .inLine ⟨before.count '\n' + 1, byteLength lead, lead ++ trail⟩ := by
  have hle : ¬ byteLength source < byteLength (before ++ lead) := by
    rw [source_eq_of_isLine h, byteLength_append _ (trail ++ after)]
    omega
  have hcut : splitAtByte? source (byteLength (before ++ lead)) =
      some (before ++ lead, trail ++ after) := by
    rw [source_eq_of_isLine h]
    exact splitAtByte?_append _ _
  -- both cuts are made at an end of the line
  have hfront : slice? source 0 (byteLength before) = some before := by
    rw [h.source_eq, List.append_assoc]
    exact slice?_append [] before _
  have htext : slice? source (byteLength before) (byteLength (before ++ (lead ++ trail))) =
      some (lead ++ trail) := by
    rw [h.source_eq]
    exact slice?_append before (lead ++ trail) after
  have hcolumn : byteLength (before ++ lead) - byteLength before = byteLength lead := by
    rw [byteLength_append]
    omega
  rw [search, if_neg hle, hcut]
  simp only [searchStart_of_isLine h, searchStop_of_isLine h, hfront, htext, hcolumn]

end AtPlace

/-- A search in bytes finds the line that is located, and cuts the text inside a character only if
the offset is there. -/
theorem search_eq (source : List Char) (offset : Nat) :
    search source offset = locate source offset := by
  rcases hcut : splitAtByte? source offset with _ | ⟨first, second⟩
  · rw [search, locate, hcut]
  · obtain ⟨rfl, rfl⟩ := splitAtByte?_eq_some hcut
    obtain ⟨before, lead, trail, after, rfl, rfl, hline⟩ := exists_isLine first second
    rw [search_of_isLine hline, locate_of_isLine hline]

/-! ## Every offset of a text -/

/-- What is located at an offset of a text, for every text. At each place between two characters,
its ends included, there is a line: the text consists of the line and what stands around it, the
line reaches to a newline or to an end of the text on either side and has none in it, its number is
one more than the newlines in front of it, and the offset is as many bytes behind its start as the
column says, which is not behind its end. No other line is like this, with other parts of the text
around it or not. No line is located inside a character, and behind the end of the text there is
nothing. Two offsets with the same number and column are the same. A search in bytes, backward and
forward from the offset, leads to the same. -/
theorem locate_exact (source : String) :
    (∀ offset, String.Pos.Raw.IsValid source ⟨offset⟩ →
      ∃ line before after, locate source.toList offset = .inLine line ∧
        line.IsAt source.toList offset before after ∧
        ∀ (line' : Line) before' after', line'.IsAt source.toList offset before' after' →
          line' = line ∧ before' = before ∧ after' = after) ∧
    (∀ offset line, locate source.toList offset = .inLine line →
      String.Pos.Raw.IsValid source ⟨offset⟩) ∧
    (∀ offset, locate source.toList offset = .outside ↔ source.utf8ByteSize < offset) ∧
    (∀ offset other line line', locate source.toList offset = .inLine line →
      locate source.toList other = .inLine line' → line.number = line'.number →
      line.column = line'.column → offset = other) ∧
    ∀ offset, search source.toList offset = locate source.toList offset := by
  refine ⟨?_, ?_, ?_, ?_, search_eq source.toList⟩
  · intro offset hvalid
    obtain ⟨line, hline⟩ := exists_locate hvalid
    obtain ⟨-, before, after, h⟩ := locate_eq_inLine_iff.1 hline
    exact ⟨line, before, after, hline, h, fun line' before' after' h' => h'.unique h⟩
  · intro offset line hline
    exact isValid_iff_exists.2 (locate_eq_inLine_iff.1 hline).1
  · intro offset
    rw [locate_eq_outside_iff, byteLength_toList]
  · intro offset other line line' hline hline' hnumber hcolumn
    obtain ⟨-, before, after, h⟩ := locate_eq_inLine_iff.1 hline
    obtain ⟨-, before', after', h'⟩ := locate_eq_inLine_iff.1 hline'
    exact h.offset_inj h' hnumber hcolumn

/-- Behind a letter of two bytes come a newline, a line without characters, and a line that ends the
text. The newlines belong to the lines in front of them, and between the two stands the second
line. -/
theorem locate_exact_emptyLine :
    let source := "λ\n\nbμ"
    (∀ offset ∈ [2, 3, 4, 7], String.Pos.Raw.IsValid source ⟨offset⟩) ∧
      locate source.toList 2 = .inLine ⟨1, 2, ['λ']⟩ ∧
      locate source.toList 3 = .inLine ⟨2, 0, []⟩ ∧
      locate source.toList 4 = .inLine ⟨3, 0, ['b', 'μ']⟩ ∧
      locate source.toList 7 = .inLine ⟨3, 3, ['b', 'μ']⟩ ∧
      (∀ (line : Line) before after, line.IsAt source.toList 3 before after →
        line = ⟨2, 0, []⟩ ∧ before = ['λ', '\n'] ∧ after = ['\n', 'b', 'μ']) ∧
      locate source.toList 8 = .outside ∧ search source.toList 3 = .inLine ⟨2, 0, []⟩ := by
  intro source
  obtain ⟨hline, hvalid, houtside, -, hsearch⟩ := locate_exact source
  have hlocate : locate source.toList 3 = .inLine ⟨2, 0, []⟩ := by decide
  have hoffsets : ∀ offset ∈ [2, 3, 4, 7], String.Pos.Raw.IsValid source ⟨offset⟩ := by
    have hfound : ∀ offset ∈ [2, 3, 4, 7],
        ∃ line ∈ [Line.mk 1 2 ['λ'], ⟨2, 0, []⟩, ⟨3, 0, ['b', 'μ']⟩, ⟨3, 3, ['b', 'μ']⟩],
          locate source.toList offset = .inLine line := by decide
    intro offset hoffset
    obtain ⟨line, -, h⟩ := hfound offset hoffset
    exact hvalid offset line h
  have hempty : IsAt ⟨2, 0, []⟩ source.toList 3 ['λ', '\n'] ['\n', 'b', 'μ'] :=
    ⟨⟨by decide, by decide, by decide, by decide⟩, by decide, by decide, by decide⟩
  have hunique : ∀ (line : Line) before after, line.IsAt source.toList 3 before after →
      line = ⟨2, 0, []⟩ ∧ before = ['λ', '\n'] ∧ after = ['\n', 'b', 'μ'] := by
    obtain ⟨found, front, back, -, -, hall⟩ := hline 3 (hoffsets 3 (by decide))
    obtain ⟨rfl, rfl, rfl⟩ := hall _ _ _ hempty
    exact hall
  exact ⟨hoffsets, by decide, hlocate, by decide, by decide, hunique,
    (houtside 8).2 (by decide), (hsearch 3).trans hlocate⟩

end Line

end AliasReader
