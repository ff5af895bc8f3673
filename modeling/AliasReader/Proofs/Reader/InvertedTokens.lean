import AliasReader.Proofs.Namespace.SymbolHistory
import AliasReader.Proofs.Text.InvertedCase
import AliasReader.Reader.State

/-!
# Inverted Tokens

Under any policy a plain token is the symbol of its folded text in the current namespace, and it
stays that symbol: whatever is requested later, no other name and no other namespace is answered
with it. So two tokens are one symbol exactly when they are folded alike in the same namespace.
ASCII tokens that are inverted are folded alike only if they are written alike, so that inverting
loses nothing of them.

## Main definitions

* `Reader.plainToken`: the plain token in front of a reader;
* `CasePolicy.LosesNothing`: all that tells two texts apart is kept when they are inverted.

## Main results

* `SymbolTable.symbol_eq_iff`: when two names are answered with one symbol;
* `Reader.symbol_eq_iff_of_takeSymbol`: when two tokens are one symbol;
* `CasePolicy.losesNothing_of_isAscii`: inverting ASCII texts loses nothing.
-/

namespace AliasReader

/-- Two names that are interned, with any requests in between, are answered with the same symbol
exactly when they are the same name in the same namespace. -/
theorem SymbolTable.symbol_eq_iff {table mid last : SymbolTable} {id otherId : NamespaceId}
    {name otherName : String} {symbol otherSymbol : SymbolId} (h : table.Reachable)
    (hintern : table.intern id name = (some symbol, mid)) {requests : List Request}
    (hother : (mid.performAll requests).intern otherId otherName = (some otherSymbol, last)) :
    symbol = otherSymbol ↔ id = otherId ∧ name = otherName := by
  obtain ⟨hmid, howns⟩ := h.of_intern hintern
  obtain ⟨hlast, hownsOther⟩ := (hmid.performAll requests).of_intern hother
  -- the first symbol is still there when the second name has been interned
  have hkept : last.Owns id name symbol := by
    have hrequested := hmid.owns_performAll howns (requests ++ [.intern otherId otherName])
    have hfinal : (mid.performAll requests).perform (.intern otherId otherName) = last :=
      congrArg Prod.snd hother
    rwa [performAll_concat, hfinal] at hrequested
  constructor
  · rintro rfl
    exact hkept.unique hownsOther
  · rintro ⟨rfl, rfl⟩
    exact hlast.wellFormed.owns_inj hkept hownsOther

namespace Reader

/-- The plain token in front of a reader. -/
def plainToken (reader : Reader) : String :=
  String.ofList (reader.cursor.takeWhile (continuesToken reader.table)).1

/-- The symbol of a plain token is that of its folded text in the current namespace. -/
theorem intern_of_takeSymbol {reader after : Reader} {symbol : SymbolId}
    (h : reader.takeSymbol = .value (.symbol symbol) after) :
    reader.host.intern reader.current (reader.table.case.fold reader.plainToken) =
      (some symbol, after.host) := by
  unfold takeSymbol at h
  unfold plainToken
  dsimp only at h
  split at h
  next found host hintern =>
    obtain ⟨hdatum, rfl⟩ := Outcome.value.inj h
    obtain rfl := Datum.symbol.inj hdatum
    exact hintern
  next => cases h

/-- In a namespace that exists every plain token is a symbol. -/
theorem exists_takeSymbol {reader : Reader}
    (h : reader.host.hasNamespace reader.current = true) :
    ∃ symbol after, reader.takeSymbol = .value (.symbol symbol) after := by
  obtain ⟨symbol, hsymbol, -⟩ :=
    SymbolTable.intern_spec h (reader.table.case.fold reader.plainToken)
  unfold plainToken at hsymbol
  unfold takeSymbol
  dsimp only
  split
  next found host hintern => exact ⟨found, _, rfl⟩
  next host hintern =>
    rw [hintern] at hsymbol
    cases hsymbol

/-- Two plain tokens that are taken, with any requests in between, are the same symbol exactly when
they are folded alike in the same namespace. -/
theorem symbol_eq_iff_of_takeSymbol {first second after last : Reader}
    {symbol otherSymbol : SymbolId} (h : first.host.Reachable)
    (hfirst : first.takeSymbol = .value (.symbol symbol) after)
    {requests : List SymbolTable.Request}
    (hhost : second.host = after.host.performAll requests)
    (hsecond : second.takeSymbol = .value (.symbol otherSymbol) last) :
    symbol = otherSymbol ↔ first.current = second.current ∧
      first.table.case.fold first.plainToken = second.table.case.fold second.plainToken := by
  have hother := intern_of_takeSymbol hsecond
  rw [hhost] at hother
  -- what is taken are the folded tokens, so the question is one of names
  exact SymbolTable.symbol_eq_iff h (intern_of_takeSymbol hfirst) hother

/-- A text stands as a plain token in front of a reader that inverts tokens. -/
structure InvertsToken (reader : Reader) (text : String) : Prop where
  /-- Tokens are inverted. -/
  case : reader.table.case = .invert
  /-- The text is the next token. -/
  token : reader.plainToken = text

end Reader

namespace CasePolicy

/-- What inverting makes of two texts, if it keeps all that tells them apart. -/
structure LosesNothing (text other : String) : Prop where
  /-- Inverting twice gives the text back. -/
  fold_fold : invert.fold (invert.fold text) = text
  /-- Texts that are inverted to the same text are the same. -/
  eq_of_fold_eq : invert.fold text = invert.fold other → text = other
  /-- Exactly a text with letters of both cases or without letters stays as it is written. -/
  fold_eq_self_iff : invert.fold text = text ↔
    ((∃ c ∈ text.toList, c.isUpper = true) ∧ ∃ c ∈ text.toList, c.isLower = true) ∨
      ∀ c ∈ text.toList, c.isAlpha = false
  /-- Any token with characters of both cases or of neither, ASCII or not, stays so too. -/
  fold_eq_self : ∀ token : String,
    ((∃ c ∈ token.toList, Unicode.isUppercase c = true) ∧
        ∃ c ∈ token.toList, Unicode.isLowercase c = true) ∨
      (∀ c ∈ token.toList, Unicode.isUppercase c = false ∧ Unicode.isLowercase c = false) →
    invert.fold token = token
  /-- In a namespace that exists the text is taken for a symbol. -/
  taken : ∀ reader : Reader, reader.InvertsToken text →
    reader.host.hasNamespace reader.current = true →
    ∃ symbol after, reader.takeSymbol = .value (.symbol symbol) after
  /-- If the text is taken for a symbol and the other one later, whatever was requested in between,
  the symbols are the same only if the texts are, in the same namespace. -/
  symbol_eq_iff : ∀ (first second after last : Reader) (symbol otherSymbol : SymbolId)
    (requests : List SymbolTable.Request), first.host.Reachable →
    first.InvertsToken text → first.takeSymbol = .value (.symbol symbol) after →
    second.host = after.host.performAll requests →
    second.InvertsToken other → second.takeSymbol = .value (.symbol otherSymbol) last →
    (symbol = otherSymbol ↔ first.current = second.current ∧ text = other)

/-- Inverting loses nothing of ASCII texts. -/
theorem losesNothing_of_isAscii {text other : String} (htext : IsAscii text)
    (hother : IsAscii other) : LosesNothing text other where
  fold_fold := fold_invert_fold_invert htext
  eq_of_fold_eq := fun heq => fold_invert_injOn htext hother heq
  fold_eq_self_iff :=
    (fold_eq_self_iff_foldChars invert text).trans (foldChars_invert_eq_self_iff htext)
  fold_eq_self := by
    intro token htoken
    refine (fold_eq_self_iff_foldChars invert token).2 (foldChars_invert_of_any_eq ?_)
    -- in both cases the two looks at the token see the same
    rcases htoken with ⟨hupper, hlower⟩ | hneither
    · rw [List.any_eq_true.2 hupper, List.any_eq_true.2 hlower]
    · have hupper : token.toList.any Unicode.isUppercase = false :=
        List.any_eq_false.2 fun c hc => by simp [(hneither c hc).1]
      have hlower : token.toList.any Unicode.isLowercase = false :=
        List.any_eq_false.2 fun c hc => by simp [(hneither c hc).2]
      rw [hupper, hlower]
  taken := fun _ _ hcurrent => Reader.exists_takeSymbol hcurrent
  symbol_eq_iff := by
    intro first second after last symbol otherSymbol requests hreachable hfirst htake hhost
      hsecond htakeOther
    rw [Reader.symbol_eq_iff_of_takeSymbol hreachable htake hhost htakeOther, hfirst.case,
      hfirst.token, hsecond.case, hsecond.token]
    exact and_congr_right' (fold_invert_injOn.eq_iff htext hother)

/-- Two spellings with one letter case each. The second one is read after the namespace was renamed
and a third spelling, which has both cases, was interned in it. -/
theorem losesNothing_of_isAscii_renamed :
    let table := ReadTable.standard.withCase .invert
    let host := SymbolTable.empty.performAll [.create "USER"]
    let requests : List SymbolTable.Request := [.rename ⟨0⟩ "LIB" ["USER"], .intern ⟨0⟩ "Go-2"]
    let later := (host.perform (.intern ⟨0⟩ "GO-2")).performAll requests
    let first := Reader.ofSource "go-2 (x" table host ⟨0⟩
    let second := Reader.ofSource "GO-2)" table later ⟨0⟩
    IsAscii "go-2" ∧ IsAscii "GO-2" ∧ LosesNothing "go-2" "GO-2" ∧ host.Reachable ∧
      first.InvertsToken "go-2" ∧ second.InvertsToken "GO-2" ∧
      ∃ symbol otherSymbol after last, first.takeSymbol = .value (.symbol symbol) after ∧
        later = after.host.performAll requests ∧
        second.takeSymbol = .value (.symbol otherSymbol) last ∧ symbol ≠ otherSymbol := by
  intro table host requests later first second
  have htext : IsAscii "go-2" := by decide
  have hother : IsAscii "GO-2" := by decide
  have hloses := losesNothing_of_isAscii htext hother
  have hhost : host.Reachable := SymbolTable.Reachable.empty.performAll _
  have hfirst : first.InvertsToken "go-2" := ⟨rfl, by decide +kernel⟩
  have hsecond : second.InvertsToken "GO-2" := ⟨rfl, by decide +kernel⟩
  obtain ⟨symbol, after, htake⟩ := hloses.taken first hfirst (by decide)
  obtain ⟨otherSymbol, last, htakeOther⟩ := @Reader.exists_takeSymbol second (by decide)
  -- the first reader leaves the table in which the requests were made
  have hlater : later = after.host.performAll requests := by
    have hintern := Reader.intern_of_takeSymbol htake
    have hfold : invert.fold "go-2" = "GO-2" := by decide
    rw [hfirst.case, hfirst.token, hfold] at hintern
    exact congrArg (fun answer => answer.2.performAll requests) hintern
  refine ⟨htext, hother, hloses, hhost, hfirst, hsecond, symbol, otherSymbol, after, last, htake,
    hlater, htakeOther, fun hsame => ?_⟩
  have hspelling := (hloses.symbol_eq_iff first second after last symbol otherSymbol requests hhost
    hfirst htake hlater hsecond htakeOther).1 hsame
  exact absurd hspelling.2 (by decide)

end CasePolicy

end AliasReader
