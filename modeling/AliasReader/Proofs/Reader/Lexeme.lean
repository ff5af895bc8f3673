import AliasReader.Proofs.Reader.Walk

/-!
# Lexemes of the Standard Syntax

A source text falls into lexemes, from left to right: parentheses and quotes stand alone, a text
goes from a double quote to the next one that no backslash makes literal, and everything else
between white space, comments and the five bound characters is a token. This is stated on the
characters alone, without a reader. Every lexeme carries the byte offset at which it starts.

## Main definitions

* `Lexeme.splitText`: the content of a text and what follows it;
* `Lexeme.scan`: the lexemes of a list of characters;
* `Lexeme.ofSource`: the lexemes of a source text.
-/

namespace AliasReader

/-- A lexeme of the standard syntax. -/
inductive Lexeme where
  /-- An opening parenthesis. -/
  | opening
  /-- A closing parenthesis. -/
  | closing
  /-- A quote. -/
  | quote
  /-- A text that is closed. -/
  | text (content : String)
  /-- A text that goes on to the end of the input. -/
  | unclosed
  /-- A maximal run of other characters. -/
  | token (name : String)
deriving DecidableEq, Repr

/-- A lexeme and the offset of its first character. -/
structure PlacedLexeme where
  /-- The lexeme. -/
  lexeme : Lexeme
  /-- The byte offset at which it starts. -/
  start : Nat
deriving DecidableEq, Repr

namespace Lexeme

/-- The characters that the standard syntax binds. -/
def boundChars : List Char := ['(', ')', '"', '\'', ';']

/-- Whether a character goes on a token. -/
def isPlain (c : Char) : Bool := !(Unicode.isWhitespace c || c ∈ boundChars)

/-- The content of a text behind its opening quote, and what stands behind the closing one. There
is no answer when the text is not closed. -/
def splitText : List Char → Option (List Char × List Char)
  | [] => none
  | c :: cs =>
      if c = '"' then some ([], cs)
      else if c = '\\' then
        match cs with
        | [] => none
        | literal :: rest =>
            (splitText rest).map fun (content, behind) => (literal :: content, behind)
      else (splitText cs).map fun (content, behind) => (c :: content, behind)

/-- What stands behind a text is shorter than what stands behind its opening quote. -/
theorem length_of_splitText {cs content behind : List Char}
    (h : splitText cs = some (content, behind)) : behind.length < cs.length := by
  fun_induction splitText cs generalizing content behind with
  | case1 => cases h
  | case2 cs => simp_all
  | case3 => cases h
  | case4 literal rest _ ih =>
    obtain ⟨⟨inner, after⟩, hinner, hpair⟩ := Option.map_eq_some_iff.1 h
    obtain ⟨-, rfl⟩ := Prod.mk.inj hpair
    have hlength := ih hinner
    simp only [List.length_cons]
    omega
  | case5 c cs _ _ ih =>
    obtain ⟨⟨inner, after⟩, hinner, hpair⟩ := Option.map_eq_some_iff.1 h
    obtain ⟨-, rfl⟩ := Prod.mk.inj hpair
    have hlength := ih hinner
    simp only [List.length_cons]
    omega

/-- The lexemes of the characters at the end of a source of `total` bytes. -/
def scan (total : Nat) : List Char → List PlacedLexeme
  | [] => []
  | c :: cs =>
      let start := total - byteLength (c :: cs)
      if Unicode.isWhitespace c then scan total cs
      else if c = '(' then ⟨.opening, start⟩ :: scan total cs
      else if c = ')' then ⟨.closing, start⟩ :: scan total cs
      else if c = '\'' then ⟨.quote, start⟩ :: scan total cs
      -- a comment goes up to the end of its line
      else if c = ';' then scan total (cs.dropWhile (· ≠ '\n'))
      else if c = '"' then
        match _hsplit : splitText cs with
        | some (content, behind) =>
            ⟨.text (String.ofList content), start⟩ :: scan total behind
        | none => [⟨.unclosed, start⟩]
      else
        ⟨.token (String.ofList (c :: cs.takeWhile isPlain)), start⟩ ::
          scan total (cs.dropWhile isPlain)
termination_by cs => cs.length
decreasing_by
  all_goals simp only [List.length_cons]
  · omega
  · omega
  · omega
  · omega
  · have hlength := (List.dropWhile_suffix (· ≠ '\n') (l := cs)).length_le
    omega
  · have hlength := length_of_splitText _hsplit
    omega
  · have hlength := (List.dropWhile_suffix isPlain (l := cs)).length_le
    omega

/-- The lexemes of a source text. -/
def ofSource (source : String) : List PlacedLexeme :=
  scan (byteLength source.toList) source.toList

/-- Leading white space holds no lexeme. -/
theorem scan_dropWhile_isWhitespace (total : Nat) (cs : List Char) :
    scan total (cs.dropWhile Unicode.isWhitespace) = scan total cs := by
  induction cs with
  | nil => rfl
  | cons c cs ih =>
    by_cases h : Unicode.isWhitespace c = true
    · rw [List.dropWhile_cons_of_pos h, ih, scan, if_pos h]
    · rw [List.dropWhile_cons_of_neg h]

/-! The scanner of a reader counts characters where `splitText` keeps what stands behind the text;
both find the same texts. -/

/-- Scanning a text finds its content and the characters that it takes. -/
theorem scanText_of_splitText {cs content behind : List Char}
    (h : splitText cs = some (content, behind)) :
    ∃ count, scanText '"' cs = some (content, count) ∧ cs.drop count = behind := by
  fun_induction splitText cs generalizing content behind with
  | case1 => cases h
  | case2 cs =>
    obtain ⟨rfl, rfl⟩ := Prod.mk.inj (Option.some.inj h)
    exact ⟨1, scanText_quote _ _, rfl⟩
  | case3 => cases h
  | case4 literal rest hquote ih =>
    obtain ⟨⟨inner, after⟩, hinner, hpair⟩ := Option.map_eq_some_iff.1 h
    obtain ⟨rfl, rfl⟩ := Prod.mk.inj hpair
    obtain ⟨count, hscan, hdrop⟩ := ih hinner
    exact ⟨count + 2, by simp [scanText, hscan], hdrop⟩
  | case5 c cs hquote hescape ih =>
    obtain ⟨⟨inner, after⟩, hinner, hpair⟩ := Option.map_eq_some_iff.1 h
    obtain ⟨rfl, rfl⟩ := Prod.mk.inj hpair
    obtain ⟨count, hscan, hdrop⟩ := ih hinner
    exact ⟨count + 1, by rw [scanText_cons hquote hescape, hscan]; rfl, hdrop⟩

theorem scanText_of_splitText_eq_none {cs : List Char} (h : splitText cs = none) :
    scanText '"' cs = none := by
  fun_induction splitText cs with
  | case1 => rfl
  | case2 cs => cases h
  | case3 => simp [scanText]
  | case4 literal rest hquote ih => simp [scanText, ih (Option.map_eq_none_iff.1 h)]
  | case5 c cs hquote hescape ih =>
    rw [scanText_cons hquote hescape, ih (Option.map_eq_none_iff.1 h), Option.map_none]

end Lexeme

/-! ## The lexemes in front of a cursor -/

namespace Cursor

/-- The offset behind the source text. -/
def stop (cursor : Cursor) : Nat := byteLength cursor.source.toList

/-- No offset lies behind the source text. -/
theorem offset_le_stop (cursor : Cursor) : cursor.offset ≤ cursor.stop := by
  rw [offset_eq, stop]
  exact Nat.sub_le _ _

/-- A span up to the end of the input reaches to the end of the source text. -/
theorem spanFrom_of_end {cursor : Cursor} (hend : cursor.remaining = []) {start : Nat}
    (hstart : start ≤ cursor.stop) : cursor.spanFrom start = ⟨start, cursor.stop⟩ := by
  -- at the end of the input no byte remains
  have hoffset : cursor.offset = cursor.stop := by
    rw [offset_eq, hend, byteLength_nil, Nat.sub_zero, stop]
  rw [spanFrom, hoffset, Nat.max_eq_left hstart]

/-- The span of a closing parenthesis is one byte long. -/
theorem spanFrom_closing {cursor : Cursor} (hwithin : cursor.remaining <:+ cursor.source.toList)
    (hpeek : cursor.peek? = some ')') :
    cursor.advance.spanFrom cursor.offset = ⟨cursor.offset, cursor.offset + 1⟩ := by
  -- the offset counts the bytes in front, as nothing was put in front of the source
  obtain ⟨front, hfront⟩ := hwithin
  have hbytes := congrArg byteLength hfront
  have hsize : ')'.utf8Size = 1 := by decide
  rw [byteLength_append, remaining_of_peek? hpeek, byteLength_cons, hsize] at hbytes
  have hoffset : cursor.advance.offset = cursor.offset + 1 := by
    rw [offset_eq, offset_eq, source_advance, remaining_advance, remaining_of_peek? hpeek,
      List.tail_cons, byteLength_cons, hsize]
    omega
  rw [spanFrom, hoffset, Nat.max_eq_left (Nat.le_succ _)]

/-- The lexemes that are still to be read. -/
def lexemes (cursor : Cursor) : List PlacedLexeme :=
  Lexeme.scan cursor.stop cursor.remaining

/-- Passing over white space passes over no lexeme. -/
theorem lexemes_skipWhile_isWhitespace (cursor : Cursor) :
    (cursor.skipWhile Unicode.isWhitespace).lexemes = cursor.lexemes := by
  rw [lexemes, remaining_skipWhile, Lexeme.scan_dropWhile_isWhitespace, stop, skipWhile,
    source_drop, lexemes, stop]

theorem lexemes_of_end {cursor : Cursor} (h : cursor.peek? = none) : cursor.lexemes = [] := by
  rw [lexemes, List.head?_eq_none_iff.1 h, Lexeme.scan]

variable {cursor : Cursor} {c : Char} (h : cursor.peek? = some c)

include h

/-- The next lexeme starts at the offset of the cursor. -/
theorem lexemes_of_peek? (hwhite : Unicode.isWhitespace c = false) :
    cursor.lexemes =
      if c = '(' then ⟨.opening, cursor.offset⟩ :: cursor.advance.lexemes
      else if c = ')' then ⟨.closing, cursor.offset⟩ :: cursor.advance.lexemes
      else if c = '\'' then ⟨.quote, cursor.offset⟩ :: cursor.advance.lexemes
      else if c = ';' then (cursor.advance.skipWhile (· ≠ '\n')).lexemes
      else if c = '"' then
        match scanText '"' cursor.advance.remaining with
        | some (content, count) =>
            ⟨.text (String.ofList content), cursor.offset⟩ :: (cursor.advance.drop count).lexemes
        | none => [⟨.unclosed, cursor.offset⟩]
      else
        ⟨.token (String.ofList (cursor.remaining.takeWhile Lexeme.isPlain)), cursor.offset⟩ ::
          (cursor.skipWhile Lexeme.isPlain).lexemes := by
  have hremaining : cursor.remaining = c :: cursor.advance.remaining := by
    rw [remaining_advance]
    exact remaining_of_peek? h
  have hoffset : cursor.offset = cursor.stop - byteLength (c :: cursor.advance.remaining) := by
    rw [offset_eq, hremaining, stop]
  -- every later cursor of the source has its lexemes placed from the same end
  have hlater : ∀ {later : Cursor}, later.source = cursor.source →
      later.lexemes = Lexeme.scan cursor.stop later.remaining := by
    intro later hsource
    rw [lexemes, stop, hsource, stop]
  have hskip : (cursor.advance.skipWhile (· ≠ '\n')).source = cursor.source := by
    rw [skipWhile, source_drop, source_advance]
  have htoken : (cursor.skipWhile Lexeme.isPlain).source = cursor.source := by
    rw [skipWhile, source_drop]
  rw [hlater (source_advance cursor), hlater hskip, hlater htoken, lexemes, hoffset,
    remaining_skipWhile, remaining_skipWhile, hremaining, Lexeme.scan, if_neg (by simp [hwhite])]
  -- both sides ask for the same characters in the same order
  refine ite_congr rfl (fun _ => rfl) fun hopening => ?_
  refine ite_congr rfl (fun _ => rfl) fun hclosing => ?_
  refine ite_congr rfl (fun _ => rfl) fun hquote => ?_
  refine ite_congr rfl (fun _ => rfl) fun hcomment => ?_
  refine ite_congr rfl (fun _ => ?_) fun htext => ?_
  · -- both sides scan the text up to the same quote
    split
    next content behind hsplit =>
      obtain ⟨count, hscan, hdrop⟩ := Lexeme.scanText_of_splitText hsplit
      have hbehind : (cursor.advance.drop count).source = cursor.source := by
        rw [source_drop, source_advance]
      rw [hscan]
      dsimp only
      rw [hlater hbehind, remaining_drop, hdrop]
    next hsplit => rw [Lexeme.scanText_of_splitText_eq_none hsplit]
  · -- no test has held, so the token starts with this character
    have hplain : Lexeme.isPlain c = true := by
      simp [Lexeme.isPlain, Lexeme.boundChars, hwhite, hopening, hclosing, hquote, hcomment, htext]
    rw [List.takeWhile_cons_of_pos hplain, List.dropWhile_cons_of_pos hplain]

omit h in
/-- A text is a lexeme up to its closing quote. -/
theorem lexemes_of_scanText (hpeek : cursor.peek? = some '"') {content : List Char} {count : Nat}
    (hscan : scanText '"' cursor.advance.remaining = some (content, count)) :
    cursor.lexemes =
      ⟨.text (String.ofList content), cursor.offset⟩ :: (cursor.advance.drop count).lexemes := by
  have htext := lexemes_of_peek? hpeek (by decide)
  rw [hscan] at htext
  exact htext

omit h in
theorem lexemes_of_scanText_eq_none (hpeek : cursor.peek? = some '"')
    (hscan : scanText '"' cursor.advance.remaining = none) :
    cursor.lexemes = [⟨.unclosed, cursor.offset⟩] := by
  have htext := lexemes_of_peek? hpeek (by decide)
  rw [hscan] at htext
  exact htext

end Cursor

end AliasReader
