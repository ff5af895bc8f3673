import AliasReader.Proofs.Source.Location
import AliasReader.Report.Terminal
import Mathlib.Data.List.Forall2

/-!
# Coloured and Plain Reports

Colours are sequences of characters around parts of a report. Where neither the report nor the source
has an escape character of its own, all escapes of a rendered report belong to such sequences, and
without them the coloured report is the plain one.

A part of a coloured report and the same part of a plain one are related by `Terminal.FadesTo`, which
goes through concatenation, so that one lemma is needed for each part and none for the ways in which
the parts may be combined.

## Main definitions

* `Terminal.stripColors`: a text without its colour sequences;
* `Terminal.FadesTo`: a text without its colour sequences is another text, whatever follows it;
* `Diagnostic.EscapeFree`: no text of a report has an escape character.

## Main results

* `Terminal.dropColors_append_of_isColor`: a colour sequence is deleted as a whole;
* `Terminal.FadesTo.append` and `Terminal.fadesTo_emphasize`: the parts of a report;
* `Terminal.stripColors_render`: without its colours a coloured report is the plain one.
-/

namespace AliasReader

namespace Terminal

/-! ## Colour sequences -/

/-- The character that starts a colour sequence. -/
def escape : Char := '\x1b'

/-- The characters between the bracket and the end of a colour sequence. -/
def isParameter (c : Char) : Bool :=
  c.isDigit || c == ';'

/-- A sequence that sets or resets colours: an escape, a bracket, numbers with semicolons, and
an `m`. -/
inductive IsColor : List Char → Prop
  /-- The sequence with the given numbers and semicolons. -/
  | mk (parameters : List Char) : (∀ c ∈ parameters, isParameter c = true) →
      IsColor (escape :: '[' :: (parameters ++ ['m']))

/-- The number of characters of the colour sequence that a text starts with. -/
def colorLength? : List Char → Option Nat
  | first :: second :: rest =>
      if first = escape ∧ second = '[' ∧ (rest.dropWhile isParameter).head? = some 'm' then
        some ((rest.takeWhile isParameter).length + 3)
      else none
  | _ => none

/-- A text without its colour sequences and without its first `skipped` characters. -/
def dropColors : Nat → List Char → List Char
  | _, [] => []
  | skipped + 1, _ :: cs => dropColors skipped cs
  | 0, c :: cs =>
      match colorLength? (c :: cs) with
      | some length => dropColors (length - 1) cs
      | none => c :: dropColors 0 cs

/-- A text without its colour sequences. -/
def stripColors (shown : String) : String :=
  String.ofList (dropColors 0 shown.toList)

theorem dropColors_length_append (front rest : List Char) :
    dropColors front.length (front ++ rest) = dropColors 0 rest := by
  induction front with
  | nil => rfl
  | cons c cs ih => exact ih

theorem colorLength?_append {parameters : List Char} (h : ∀ c ∈ parameters, isParameter c = true)
    (rest : List Char) :
    colorLength? (escape :: '[' :: (parameters ++ ['m'] ++ rest)) =
      some (parameters.length + 3) := by
  have hend : parameters ++ ['m'] ++ rest = parameters ++ 'm' :: rest := by simp
  have htake : (parameters ++ 'm' :: rest).takeWhile isParameter = parameters := by
    rw [List.takeWhile_append_of_pos h]
    exact List.append_nil parameters
  have hdrop : (parameters ++ 'm' :: rest).dropWhile isParameter = 'm' :: rest := by
    rw [List.dropWhile_append_of_pos h]
    rfl
  rw [hend, colorLength?, htake, hdrop, if_pos ⟨rfl, rfl, rfl⟩]

theorem dropColors_of_colorLength? {c : Char} {cs : List Char} {length : Nat}
    (h : colorLength? (c :: cs) = some (length + 1)) :
    dropColors 0 (c :: cs) = dropColors length cs := by
  rw [dropColors, h]
  rfl

/-- A colour sequence is deleted as a whole. -/
theorem dropColors_append_of_isColor {sequence : List Char} (h : IsColor sequence)
    (rest : List Char) : dropColors 0 (sequence ++ rest) = dropColors 0 rest := by
  cases h with
  | mk parameters hparameters =>
    -- the escape is found, and as many characters are passed over as there are behind it
    have hlength : ('[' :: (parameters ++ ['m'])).length = parameters.length + 2 := by simp
    calc dropColors 0 (escape :: '[' :: (parameters ++ ['m']) ++ rest)
        = dropColors (parameters.length + 2) ('[' :: (parameters ++ ['m']) ++ rest) :=
          dropColors_of_colorLength? (colorLength?_append hparameters rest)
      _ = dropColors 0 rest := by
          rw [← hlength]
          exact dropColors_length_append _ rest

/-- What does not start with an escape stays. -/
theorem dropColors_cons {c : Char} (h : c ≠ escape) (rest : List Char) :
    dropColors 0 (c :: rest) = c :: dropColors 0 rest := by
  have hnone : colorLength? (c :: rest) = none := by
    cases rest with
    | nil => rfl
    | cons d rest => exact if_neg fun hcolor => h hcolor.1
  rw [dropColors, hnone]

/-- A text without escapes stays. -/
theorem dropColors_append {cs : List Char} (h : escape ∉ cs) (rest : List Char) :
    dropColors 0 (cs ++ rest) = cs ++ dropColors 0 rest := by
  induction cs with
  | nil => rfl
  | cons c cs ih =>
    rw [List.mem_cons, not_or] at h
    obtain ⟨hc, hcs⟩ := h
    rw [List.cons_append, dropColors_cons (Ne.symm hc), ih hcs, List.cons_append]

theorem isColor_start (emphasis : Emphasis) : IsColor emphasis.start.toList := by
  cases emphasis with
  | error => exact .mk ['1', ';', '3', '1'] (List.all_eq_true.1 rfl)
  | context => exact .mk ['1', ';', '3', '4'] (List.all_eq_true.1 rfl)
  | help => exact .mk ['1', ';', '3', '2'] (List.all_eq_true.1 rfl)
  | bold => exact .mk ['1'] (List.all_eq_true.1 rfl)

theorem isColor_reset : IsColor reset.toList :=
  .mk ['0'] (List.all_eq_true.1 rfl)

/-! ## Texts without escapes -/

/-- A text has no escape character. -/
def EscapeFree (text : String) : Prop :=
  escape ∉ text.toList

instance (text : String) : Decidable (EscapeFree text) :=
  inferInstanceAs (Decidable (escape ∉ text.toList))

theorem escapeFree_append {first second : String} :
    EscapeFree (first ++ second) ↔ EscapeFree first ∧ EscapeFree second := by
  unfold EscapeFree
  rw [String.toList_append, List.mem_append, not_or]

theorem escapeFree_toString (number : Nat) : EscapeFree (toString number) := by
  unfold EscapeFree
  rw [Nat.toString_eq_repr, Nat.toList_repr]
  intro hmem
  exact absurd (Nat.isDigit_of_mem_toDigits (by decide) (by decide) hmem) (by decide)

theorem escapeFree_run {c : Char} (h : c ≠ escape) (count : Nat) : EscapeFree (run c count) := by
  unfold EscapeFree
  rw [run, String.toList_ofList]
  intro hmem
  exact h (List.eq_of_mem_replicate hmem).symm

theorem escapeFree_inspect (span : Span) : EscapeFree span.inspect := by
  simp only [Span.inspect, escapeFree_append, escapeFree_toString, true_and, and_true]
  decide

/-- The line that an offset stands in is a part of the text. -/
theorem escapeFree_of_locate {source : String} {offset : Nat} {line : Line}
    (hsource : EscapeFree source) (h : Line.locate source.toList offset = .inLine line) :
    EscapeFree (String.ofList line.text) := by
  obtain ⟨-, before, after, hline⟩ := Line.locate_eq_inLine_iff.1 h
  unfold EscapeFree at hsource ⊢
  rw [String.toList_ofList]
  intro hmem
  apply hsource
  rw [hline.isLine.source_eq]
  exact List.mem_append_left after (List.mem_append_right before hmem)

/-! ## Fading -/

/-- Without its colour sequences, and whatever follows it, a text is another one, which has no escape
character. -/
structure FadesTo (colored plain : String) : Prop where
  /-- The colour sequences end in the text. -/
  dropColors_append : ∀ rest,
    dropColors 0 (colored.toList ++ rest) = plain.toList ++ dropColors 0 rest
  /-- The other text has no escape. -/
  escapeFree : EscapeFree plain

theorem FadesTo.stripColors_eq {colored plain : String} (h : FadesTo colored plain) :
    stripColors colored = plain := by
  have hwhole := h.dropColors_append []
  rw [List.append_nil] at hwhole
  rw [stripColors, hwhole, dropColors, List.append_nil, String.ofList_toList]

theorem FadesTo.append {first plain second plain' : String} (h : FadesTo first plain)
    (h' : FadesTo second plain') : FadesTo (first ++ second) (plain ++ plain') := by
  refine ⟨fun rest => ?_, escapeFree_append.2 ⟨h.escapeFree, h'.escapeFree⟩⟩
  rw [String.toList_append, List.append_assoc, h.dropColors_append, h'.dropColors_append,
    String.toList_append, List.append_assoc]

/-- A text without escapes is the same with and without colours. -/
theorem EscapeFree.fadesTo {text : String} (h : EscapeFree text) : FadesTo text text :=
  ⟨fun rest => Terminal.dropColors_append h rest, h⟩

theorem fadesTo_join {colored plain : List String} (h : List.Forall₂ FadesTo colored plain) :
    FadesTo (String.join colored) (String.join plain) := by
  induction h with
  | nil =>
    have hempty : EscapeFree "" := by decide
    exact hempty.fadesTo
  | cons hfirst _ ih =>
    rw [String.join_cons, String.join_cons]
    exact hfirst.append ih

/-- An emphasised part of a report fades to the part. -/
theorem fadesTo_emphasize (emphasis : Emphasis) {part : String} (h : EscapeFree part) :
    FadesTo (emphasize true emphasis part) (emphasize false emphasis part) := by
  refine ⟨fun rest => ?_, h⟩
  show dropColors 0 ((emphasis.start ++ part ++ reset).toList ++ rest) = part.toList ++ _
  rw [String.toList_append, String.toList_append, List.append_assoc, List.append_assoc,
    dropColors_append_of_isColor (isColor_start emphasis), Terminal.dropColors_append h,
    dropColors_append_of_isColor isColor_reset]

/-! ## Parts that may be missing -/

section Rel

variable {α β γ δ : Type} {r : α → β → Prop} {s : γ → δ → Prop}

theorem rel_bind {a : Option α} {b : Option β} (h : Option.Rel r a b) {f : α → Option γ}
    {g : β → Option δ} (hfg : ∀ x y, r x y → Option.Rel s (f x) (g y)) :
    Option.Rel s (a.bind f) (b.bind g) := by
  cases h with
  | none => exact .none
  | some hxy => exact hfg _ _ hxy

theorem rel_map {a : Option α} {b : Option β} (h : Option.Rel r a b) {f : α → γ} {g : β → δ}
    (hfg : ∀ x y, r x y → s (f x) (g y)) : Option.Rel s (a.map f) (b.map g) := by
  cases h with
  | none => exact .none
  | some hxy => exact .some (hfg _ _ hxy)

/-- Going through a list in two ways, related at each item. -/
theorem rel_mapM {items : List α} {f : α → Option γ} {g : α → Option δ}
    (h : ∀ item ∈ items, Option.Rel s (f item) (g item)) :
    Option.Rel (List.Forall₂ s) (items.mapM f) (items.mapM g) := by
  induction items with
  | nil => exact .some .nil
  | cons item rest ih =>
    rw [List.mapM_cons, List.mapM_cons]
    refine rel_bind (h item List.mem_cons_self) fun x y hxy => ?_
    refine rel_bind (ih fun other hother => h other (List.mem_cons_of_mem item hother)) ?_
    intro xs ys hrest
    exact .some (.cons hxy hrest)

end Rel

/-! ## Parts of a report -/

theorem fadesTo_snippet (emphasis : Emphasis) (span : Span) {line : Line}
    (h : EscapeFree (String.ofList line.text)) :
    FadesTo (snippet true emphasis span line) (snippet false emphasis span line) := by
  have hblank : ' ' ≠ escape := by decide
  -- the carets are the only coloured part
  have hfront : EscapeFree ("  " ++ run ' ' (toString line.number).length ++ " |\n" ++
      "  " ++ toString line.number ++ " | " ++ String.ofList line.text ++ "\n" ++
      "  " ++ run ' ' (toString line.number).length ++ " | " ++ run ' ' line.column) := by
    simp only [escapeFree_append, escapeFree_run hblank, escapeFree_toString, h, and_true]
    decide
  have hcarets : EscapeFree (run '^' (caretCount span line)) := escapeFree_run (by decide) _
  have hend : EscapeFree "\n" := by decide
  exact (hfront.fadesTo.append (fadesTo_emphasize emphasis hcarets)).append hend.fadesTo

variable {source : Option String} (hsource : ∀ text ∈ source, EscapeFree text)

include hsource

/-- The place of a label has no colours, and its snippet fades. -/
theorem rel_place? (emphasis : Emphasis) (span : Span) :
    Option.Rel (fun colored plain => colored.1 = plain.1 ∧ EscapeFree plain.1 ∧
        FadesTo colored.2 plain.2)
      (place? true source emphasis span) (place? false source emphasis span) := by
  have hnowhere : Option.Rel (fun colored plain : String × String => colored.1 = plain.1 ∧
      EscapeFree plain.1 ∧ FadesTo colored.2 plain.2) (some (span.inspect, ""))
        (some (span.inspect, "")) := by
    have hempty : EscapeFree "" := by decide
    exact .some ⟨rfl, escapeFree_inspect span, hempty.fadesTo⟩
  cases source with
  | none => exact hnowhere
  | some text =>
    unfold place?
    dsimp only
    cases hline : Line.locate text.toList span.start with
    | outside => exact hnowhere
    | insideCharacter => exact .none
    | inLine line =>
      dsimp only
      split
      next =>
        have htext := escapeFree_of_locate (hsource text rfl) hline
        refine .some ⟨rfl, ?_, fadesTo_snippet emphasis span htext⟩
        simp only [escapeFree_append, escapeFree_toString, true_and, and_true]
        decide
      next => exact .none

theorem rel_label? (primary : Bool) {label : Label} (h : EscapeFree label.message) :
    Option.Rel FadesTo (label? true source primary label) (label? false source primary label) := by
  have hmarker : EscapeFree ("  " ++ (if primary then "-->" else "   ") ++ " ") := by
    cases primary <;> decide
  have hcolon : EscapeFree ": " := by decide
  have hend : EscapeFree "\n" := by decide
  refine rel_map (rel_place? hsource _ label.span) ?_
  rintro ⟨position, colored⟩ ⟨_, plain⟩ ⟨rfl, hposition, hbelow⟩
  have hfront := escapeFree_append.2 ⟨escapeFree_append.2 ⟨hmarker, hposition⟩, hcolon⟩
  exact ((hfront.fadesTo.append (fadesTo_emphasize _ h)).append hend.fadesTo).append hbelow

theorem rel_labels? {labels : List Label} (h : ∀ label ∈ labels, EscapeFree label.message) :
    Option.Rel FadesTo (labels? true source labels) (labels? false source labels) := by
  cases labels with
  | nil =>
    have hempty : EscapeFree "" := by decide
    exact .some hempty.fadesTo
  | cons first rest =>
    refine rel_bind (rel_label? hsource true (h first List.mem_cons_self)) fun head head' hhead => ?_
    have hrest := rel_mapM fun label hlabel =>
      rel_label? hsource false (h label (List.mem_cons_of_mem first hlabel))
    refine rel_bind hrest fun tail tail' htail => ?_
    exact .some (hhead.append (fadesTo_join htail))

omit hsource in
theorem fadesTo_remark (emphasis : Emphasis) {keyword content : String}
    (hkeyword : EscapeFree keyword) (hcontent : EscapeFree content) :
    FadesTo (remark true emphasis keyword content) (remark false emphasis keyword content) := by
  have hfront : EscapeFree "  = " := by decide
  have hcolon : EscapeFree ": " := by decide
  have hend : EscapeFree "\n" := by decide
  exact ((((hfront.fadesTo.append (fadesTo_emphasize emphasis hkeyword)).append
    hcolon.fadesTo).append hcontent.fadesTo).append hend.fadesTo)

omit hsource in
theorem fadesTo_remarks (emphasis : Emphasis) {keyword : String} (hkeyword : EscapeFree keyword)
    {contents : List String} (h : ∀ content ∈ contents, EscapeFree content) :
    FadesTo (String.join (contents.map (remark true emphasis keyword)))
      (String.join (contents.map (remark false emphasis keyword))) := by
  apply fadesTo_join
  rw [List.forall₂_map_left_iff, List.forall₂_map_right_iff, List.forall₂_same]
  intro content hcontent
  exact fadesTo_remark emphasis hkeyword (h content hcontent)

omit hsource in
theorem fadesTo_header {report : Diagnostic} (h : EscapeFree report.message) :
    FadesTo (header true report) (header false report) := by
  have herror : EscapeFree "error" := by decide
  have hcode : EscapeFree ("[" ++ report.code.text ++ "]") := by
    cases report.code <;> decide
  have hcolon : EscapeFree ": " := by decide
  have hend : EscapeFree "\n" := by decide
  exact ((((fadesTo_emphasize .error herror).append (fadesTo_emphasize .bold hcode)).append
    hcolon.fadesTo).append h.fadesTo).append hend.fadesTo

end Terminal

/-- No text of a report has an escape character. -/
structure Diagnostic.EscapeFree (report : Diagnostic) : Prop where
  /-- The message has none. -/
  message : Terminal.EscapeFree report.message
  /-- The labels have none. -/
  labels : ∀ label ∈ report.labels, Terminal.EscapeFree label.message
  /-- The notes have none. -/
  notes : ∀ note ∈ report.notes, Terminal.EscapeFree note
  /-- The suggestions have none. -/
  suggestions : ∀ suggestion ∈ report.suggestions, Terminal.EscapeFree suggestion

namespace Terminal

variable {source : Option String} {report : Diagnostic}

/-- A coloured report fades to the plain one, or neither is rendered. -/
theorem rel_render (hreport : report.EscapeFree) (hsource : ∀ text ∈ source, EscapeFree text) :
    Option.Rel FadesTo (render true source report) (render false source report) := by
  have hnote : EscapeFree "note" := by decide
  have hhelp : EscapeFree "help" := by decide
  have hend : EscapeFree "\n" := by decide
  refine rel_map (rel_labels? hsource hreport.labels) fun labels labels' hlabels => ?_
  exact ((((fadesTo_header hreport.message).append hlabels).append
    (fadesTo_remarks .bold hnote hreport.notes)).append
    (fadesTo_remarks .help hhelp hreport.suggestions)).append hend.fadesTo

/-- A coloured report starts with a colour sequence. -/
theorem escape_mem_render {shown : String} (h : render true source report = some shown) :
    escape ∈ shown.toList := by
  obtain ⟨labels, -, rfl⟩ := Option.map_eq_some_iff.1 h
  have hstart : escape ∈ (emphasize true .error "error").toList := by decide
  simp only [header, String.toList_append, List.mem_append]
  simp [hstart]

/-- Where neither a report nor its source has an escape character, the report is rendered with
colours if and only if it is rendered without them, and then the plain report is the coloured one
without its colour sequences. The plain report has no escape character, the coloured one has. -/
theorem stripColors_render (hreport : report.EscapeFree)
    (hsource : ∀ text ∈ source, EscapeFree text) :
    (render true source report).map stripColors = render false source report ∧
      (∀ shown, render false source report = some shown → EscapeFree shown) ∧
      ∀ shown, render true source report = some shown → ¬ EscapeFree shown := by
  have hrel := rel_render hreport hsource
  refine ⟨?_, ?_, fun shown hshown hfree => hfree (escape_mem_render hshown)⟩
  · generalize render true source report = colored, render false source report = plain at hrel ⊢
    cases hrel with
    | none => rfl
    | some h => exact congrArg some h.stripColors_eq
  · intro shown hshown
    rw [hshown] at hrel
    generalize render true source report = colored at hrel
    cases hrel with
    | some h => exact h.escapeFree

/-- A report with labels in two lines of its source and behind its end, a note with brackets and an
`m` as in a colour sequence, and a suggestion. -/
theorem stripColors_render_labels :
    let source := "(λ\n  $u:helper)"
    let report : Diagnostic :=
      { code := .notExternal, message := "not external",
        labels := [⟨⟨6, 15⟩, "here"⟩, ⟨⟨1, 3⟩, "inside"⟩, ⟨⟨40, 41⟩, "outside"⟩],
        notes := ["[1m"], suggestions := ["write ;31m"] }
    report.EscapeFree ∧ (∀ text ∈ some source, EscapeFree text) ∧
      ∃ colored plain, render true (some source) report = some colored ∧
        render false (some source) report = some plain ∧ stripColors colored = plain ∧
        plain = "error[E0104]: not external\n" ++
          "  --> 2:3: here\n    |\n  2 |   $u:helper)\n    |   ^^^^^^^^^\n" ++
          "      1:2: inside\n    |\n  1 | (λ\n    |  ^^\n" ++
          "      40..41: outside\n" ++
          "  = note: [1m\n  = help: write ;31m\n\n" := by
  intro source report
  have hreport : report.EscapeFree := ⟨by decide, by decide, by decide, by decide⟩
  have hsource : ∀ text ∈ some source, EscapeFree text := by decide
  obtain ⟨hstrip, -, -⟩ := stripColors_render hreport hsource
  have hplain : render false (some source) report = some ("error[E0104]: not external\n" ++
      "  --> 2:3: here\n    |\n  2 |   $u:helper)\n    |   ^^^^^^^^^\n" ++
      "      1:2: inside\n    |\n  1 | (λ\n    |  ^^\n" ++
      "      40..41: outside\n" ++
      "  = note: [1m\n  = help: write ;31m\n\n") := by decide +kernel
  rw [hplain] at hstrip
  obtain ⟨colored, hcolored, hfaded⟩ := Option.map_eq_some_iff.1 hstrip
  exact ⟨hreport, hsource, colored, _, hcolored, hplain, hfaded, rfl⟩

end Terminal

end AliasReader
