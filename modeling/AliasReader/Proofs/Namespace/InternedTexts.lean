import AliasReader.Proofs.Namespace.History
import Mathlib.Data.Finset.Card
import Mathlib.Data.List.Nodup

/-!
# Interned Texts and Their Handles

An interner answers from two tables: an index from texts to handles, and the texts in the order of
their handles. This module follows both through any course of requests. As long as there is a handle
of 32 bits for every text, the two tables stay inverse to each other, and what they say can be told
from the list of texts alone.

## Main definitions

* `Interner.Request`, `Interner.Answer` and `Interner.serve`: requests, answers and the run of one
  request after the other;
* `IndexedInterner`: the interner as a hash index beside an array of texts, with its limit on the
  number of handles;
* `Interner.StableBijection`: what a course of requests leads to.

## Main results

* `IndexedInterner.Represents.answer`: a request is answered from the two tables as it is from the
  list of texts;
* `Interner.texts_serve`: the interned texts are the requested ones in the order of their first
  occurrence;
* `Interner.stableBijection`: texts and handles correspond one to one, and a handle keeps its text.
-/

namespace AliasReader

/-- The reason why a text gets no handle: there are as many texts as handles. -/
structure InternFailure where
  /-- The number of interned texts. -/
  count : Nat
deriving DecidableEq, Repr

/-- The failure as it is reported. -/
def InternFailure.message (failure : InternFailure) : String :=
  "interner exceeded capacity: " ++ toString failure.count ++ " strings, max is " ++
    toString (UInt32.size - 1)

namespace Interner

/-! ## Requests -/

/-- A request to an interner. -/
inductive Request where
  /-- The handle of a text, which is interned if it is new; a failure stops the program. -/
  | intern (text : String)
  /-- The handle of a text, which is interned if it is new; a failure is an answer. -/
  | tryIntern (text : String)
  /-- The handle of a text that is interned already. -/
  | get (text : String)
deriving DecidableEq, Repr

/-- The answer to a request. -/
inductive Answer where
  /-- The text has this handle. -/
  | handle (name : Name)
  /-- The text is not interned. -/
  | absent
  /-- The text cannot be interned. -/
  | refused (failure : InternFailure)
  /-- The program stops with a message. -/
  | stopped (message : String)
deriving DecidableEq, Repr

/-- The text that a request is about. -/
def Request.text : Request → String
  | .intern text | .tryIntern text | .get text => text

/-- The text that a request puts into the interner. -/
def Request.interned? : Request → Option String
  | .intern text | .tryIntern text => some text
  | .get _ => none

/-- The texts that requests put into the interner, in order and with repetitions. -/
def interned (requests : List Request) : List String :=
  requests.filterMap Request.interned?

/-- Whether no request is answered after this answer. -/
def Answer.isStop : Answer → Bool
  | .stopped _ => true
  | _ => false

/-- The answers to requests that are made one after the other, and the interner that they leave. -/
def serve {σ : Type} (answer : σ → Request → Answer × σ) : σ → List Request → List Answer × σ
  | state, [] => ([], state)
  | state, request :: requests =>
    if (answer state request).1.isStop then
      ([(answer state request).1], (answer state request).2)
    else
      ((answer state request).1 :: (serve answer (answer state request).2 requests).1,
        (serve answer (answer state request).2 requests).2)

/-- The answer to a request, and the interner that it leaves. -/
def answer (interner : Interner) : Request → Answer × Interner
  | .intern text | .tryIntern text =>
    (.handle (interner.intern text).1, (interner.intern text).2)
  | .get text =>
    match interner.get? text with
    | some name => (.handle name, interner)
    | none => (.absent, interner)

/-- The answers of a new interner to requests that are made one after the other. -/
def answersTo (requests : List Request) : List Answer := (serve answer new requests).1

/-- The interner that requests to a new one leave. -/
def after (requests : List Request) : Interner := (serve answer new requests).2

end Interner

/-! ## The two tables -/

/-- An interner as a hash index beside the texts. -/
structure IndexedInterner where
  /-- The handle of each text. -/
  index : Std.HashMap String Name
  /-- The text of each handle. -/
  texts : Array String

namespace IndexedInterner

/-- The interner that holds the empty text only. -/
def new : IndexedInterner :=
  ⟨(∅ : Std.HashMap String Name).insert "" Name.empty, #[""]⟩

/-- The handle of a text that is interned already. -/
def get? (interner : IndexedInterner) (text : String) : Option Name :=
  interner.index[text]?

/-- The text of a handle. -/
def lookup? (interner : IndexedInterner) (name : Name) : Option String :=
  interner.texts[name.index]?

/-- The number of interned texts, the empty one included. -/
def size (interner : IndexedInterner) : Nat := interner.texts.size

/-- The handle of a text, which is interned if it is new and a handle is left for it. -/
def tryIntern (interner : IndexedInterner) (text : String) :
    Except InternFailure Name × IndexedInterner :=
  match interner.get? text with
  | some name => (.ok name, interner)
  | none =>
    if interner.size < UInt32.size then
      (.ok ⟨interner.size⟩,
        ⟨interner.index.insert text ⟨interner.size⟩, interner.texts.push text⟩)
    else
      (.error ⟨interner.size⟩, interner)

/-- A text is refused only when it is new and no handle is left, and then nothing changes. -/
theorem tryIntern_error {interner : IndexedInterner} {text : String} {failure : InternFailure}
    (h : (interner.tryIntern text).1 = .error failure) :
    interner.get? text = none ∧ UInt32.size ≤ interner.size ∧ failure.count = interner.size ∧
      (interner.tryIntern text).2 = interner := by
  unfold tryIntern at *
  cases hget : interner.get? text with
  | some name => simp [hget] at h
  | none =>
    by_cases hroom : interner.size < UInt32.size
    · simp [hget, hroom] at h
    · obtain rfl : ⟨interner.size⟩ = failure := by simpa [hget, hroom] using h
      refine ⟨rfl, Nat.le_of_not_lt hroom, rfl, ?_⟩
      simp only [if_neg hroom]

/-- The answer to a request, and the interner that it leaves. -/
def answer (interner : IndexedInterner) : Interner.Request → Interner.Answer × IndexedInterner
  | .intern text =>
    match interner.tryIntern text with
    | (.ok name, after) => (.handle name, after)
    | (.error failure, after) => (.stopped failure.message, after)
  | .tryIntern text =>
    match interner.tryIntern text with
    | (.ok name, after) => (.handle name, after)
    | (.error failure, after) => (.refused failure, after)
  | .get text =>
    match interner.get? text with
    | some name => (.handle name, interner)
    | none => (.absent, interner)

end IndexedInterner

namespace Interner

variable {interner : Interner}

/-! ## Handles and texts at one time -/

/-- Where no text stands twice, the handle that leads to a text is the one that it has. -/
theorem lookup?_eq_some_iff (distinct : interner.texts.Nodup) (name : Name) (text : String) :
    interner.lookup? name = some text ↔ interner.get? text = some name := by
  refine ⟨fun hlookup => ?_, lookup?_of_get?⟩
  obtain ⟨hindex, htext⟩ := List.getElem?_eq_some_iff.1 hlookup
  have hmem : text ∈ interner.texts := htext ▸ List.getElem_mem hindex
  cases hget : interner.get? text with
  | none => exact absurd hmem ((interner.get?_eq_none_iff text).1 hget)
  | some other =>
    -- both handles lead to the text, which stands in one place only
    have hsame : interner.texts[name.index]? = interner.texts[other.index]? :=
      hlookup.trans (lookup?_of_get? hget).symm
    have hindices : name.index = other.index := (List.getElem?_inj hindex distinct).1 hsame
    obtain ⟨index⟩ := name
    obtain ⟨_⟩ := other
    exact congrArg (fun index => some (Name.mk index)) hindices.symm

/-- The handles once a new text is put behind those that are there. -/
theorem get?_append {text : String} (hnew : interner.get? text = none) (other : String) :
    (⟨interner.texts ++ [text]⟩ : Interner).get? other =
      if text = other then some ⟨interner.size⟩ else interner.get? other := by
  by_cases hsame : text = other
  · subst hsame
    have hnone : interner.texts.findIdx? (· = text) = none := Option.map_eq_none_iff.1 hnew
    simp [get?, size, List.findIdx?_append, hnone]
  · simp [get?, List.findIdx?_append, hsame]

/-! ## Interning -/

/-- A text gets the handle that it has, or else the next one. -/
theorem intern_handle (interner : Interner) (text : String) :
    (interner.intern text).1 = (interner.get? text).getD ⟨interner.size⟩ := by
  unfold intern
  cases interner.get? text <;> rfl

/-- The handle that a text gets leads to it. -/
theorem lookup?_intern (interner : Interner) (text : String) :
    (interner.intern text).2.lookup? (interner.intern text).1 = some text := by
  unfold intern
  cases hget : interner.get? text with
  | none => simp [lookup?]
  | some name => exact lookup?_of_get? hget

/-- The texts that are there stay in front of the new ones. -/
theorem texts_prefix_internAll (interner : Interner) (texts : List String) :
    interner.texts <+: (interner.internAll texts).texts := by
  induction texts generalizing interner with
  | nil => exact List.prefix_rfl
  | cons text texts ih =>
    refine List.IsPrefix.trans ?_ (ih _)
    rw [texts_intern]
    split
    · exact List.prefix_rfl
    · exact List.prefix_append _ _

/-- A handle keeps its text. -/
theorem lookup?_internAll {name : Name} {text : String} (h : interner.lookup? name = some text)
    (texts : List String) : (interner.internAll texts).lookup? name = some text := by
  obtain ⟨more, hmore⟩ := interner.texts_prefix_internAll texts
  rw [lookup?, ← hmore, List.getElem?_append_left (List.getElem?_eq_some_iff.1 h).1]
  exact h

/-- No text is put in twice. -/
theorem nodup_internAll (distinct : interner.texts.Nodup) (texts : List String) :
    (interner.internAll texts).texts.Nodup := by
  induction texts generalizing interner with
  | nil => exact distinct
  | cons text texts ih =>
    refine ih ?_
    rw [texts_intern]
    split
    case isTrue => exact distinct
    case isFalse hnew =>
      exact List.nodup_append.2 ⟨distinct, List.nodup_singleton _, by grind⟩

/-- The texts stand in the order of their first occurrence. -/
theorem texts_internAll {seen : List String} (hseen : interner.texts = seen.eraseDups)
    (texts : List String) : (interner.internAll texts).texts = (seen ++ texts).eraseDups := by
  induction texts generalizing interner seen with
  | nil => simpa [internAll] using hseen
  | cons text texts ih =>
    -- a text that was seen is dropped on both sides
    have hnext : (interner.intern text).2.texts = (seen ++ [text]).eraseDups := by
      rw [texts_intern, hseen, List.eraseDups_append]
      by_cases hmem : text ∈ seen <;> simp [hmem, List.removeAll, List.eraseDups_cons]
    rw [internAll_cons, ih hnext, List.append_assoc, List.singleton_append]

/-! ## Requests one after the other -/

/-- Of a request the interner keeps the text that it puts in. -/
theorem answer_interner (interner : Interner) (request : Request) :
    (interner.answer request).2 = interner.internAll request.interned?.toList := by
  cases request with
  | intern text => rfl
  | tryIntern text => rfl
  | get text =>
    rw [answer]
    split <;> rfl

/-- A request that puts a text in is answered with the handle of the text. -/
theorem answer_of_interned? {request : Request} {text : String}
    (h : request.interned? = some text) :
    (interner.answer request).1 = .handle ((interner.get? text).getD ⟨interner.size⟩) := by
  rw [← intern_handle]
  cases request with
  | intern text => cases h; rfl
  | tryIntern text => cases h; rfl
  | get text => cases h

/-- A request to look is answered with the handle that the text has. -/
theorem answer_get (interner : Interner) (text : String) :
    (interner.answer (.get text)).1 = (interner.get? text).elim .absent .handle := by
  rw [answer]
  cases interner.get? text <;> rfl

/-- The handle in an answer leads to the text of the request. -/
theorem lookup?_of_answer {request : Request} {name : Name}
    (h : (interner.answer request).1 = .handle name) :
    (interner.answer request).2.lookup? name = some request.text := by
  cases request with
  | intern text => cases h; exact interner.lookup?_intern text
  | tryIntern text => cases h; exact interner.lookup?_intern text
  | get text =>
    rw [answer_get] at h
    cases hget : interner.get? text with
    | none => simp [hget] at h
    | some found =>
      obtain rfl : found = name := by simpa [hget] using h
      rw [answer_interner]
      exact lookup?_of_get? hget

/-- No answer ends the run. -/
theorem isStop_answer (interner : Interner) (request : Request) :
    (interner.answer request).1.isStop = false := by
  cases request with
  | intern text => rfl
  | tryIntern text => rfl
  | get text =>
    rw [answer_get]
    cases interner.get? text <;> rfl

/-- Requests are answered one after the other. -/
theorem serve_cons (interner : Interner) (request : Request) (requests : List Request) :
    serve answer interner (request :: requests) =
      ((interner.answer request).1 :: (serve answer (interner.answer request).2 requests).1,
        (serve answer (interner.answer request).2 requests).2) := by
  rw [serve, isStop_answer]
  rfl

theorem interned_cons (request : Request) (requests : List Request) :
    interned (request :: requests) = request.interned?.toList ++ interned requests := by
  cases hrequest : request.interned? <;> simp [interned, hrequest]

theorem interned_append (before later : List Request) :
    interned (before ++ later) = interned before ++ interned later :=
  List.filterMap_append

/-- Requests leave the interner with the texts that they put in. -/
theorem serve_interner (interner : Interner) (requests : List Request) :
    (serve answer interner requests).2 = interner.internAll (interned requests) := by
  induction requests generalizing interner with
  | nil => rfl
  | cons request requests ih =>
    rw [serve_cons, ih, answer_interner, interned_cons]
    simp [internAll, List.foldl_append]

/-- The requests behind others are answered from the interner that those leave. -/
theorem serve_append (interner : Interner) (before later : List Request) :
    (serve answer interner (before ++ later)).1 =
      (serve answer interner before).1 ++
        (serve answer (serve answer interner before).2 later).1 := by
  induction before generalizing interner with
  | nil => rfl
  | cons request before ih =>
    rw [List.cons_append, serve_cons, serve_cons, ih]
    rfl

/-- Every request gets an answer. -/
theorem length_serve (interner : Interner) (requests : List Request) :
    (serve answer interner requests).1.length = requests.length := by
  induction requests generalizing interner with
  | nil => rfl
  | cons request requests ih => rw [serve_cons, List.length_cons, List.length_cons, ih]

/-- The handles in the answers lead to the texts of the requests. -/
theorem lookup?_of_mem_zip {request : Request} {name : Name} {requests : List Request}
    (h : (request, .handle name) ∈ requests.zip (serve answer interner requests).1) :
    (serve answer interner requests).2.lookup? name = some request.text := by
  induction requests generalizing interner with
  | nil => cases h
  | cons first requests ih =>
    rw [serve_cons] at h ⊢
    rw [List.zip_cons_cons, List.mem_cons] at h
    obtain hfirst | hlater := h
    · obtain ⟨rfl, hanswer⟩ := Prod.mk.inj hfirst
      -- the requests that follow leave the handle its text
      rw [serve_interner]
      exact lookup?_internAll (lookup?_of_answer hanswer.symm) _
    · exact ih hlater

end Interner

/-! ## The two tables together -/

namespace IndexedInterner

/-- The two tables say what the list of texts says. -/
structure Represents (indexed : IndexedInterner) (interner : Interner) : Prop where
  /-- The array holds the texts in their order. -/
  texts_eq : indexed.texts.toList = interner.texts
  /-- The index has the handle of each text, and no others. -/
  get?_eq : ∀ text, indexed.get? text = interner.get? text

namespace Represents

variable {indexed : IndexedInterner} {interner : Interner}

/-- The new tables hold the empty text only. -/
theorem new : Represents .new .new where
  texts_eq := rfl
  get?_eq := by
    intro text
    by_cases hempty : "" = text
    · subst hempty
      simp [IndexedInterner.get?, IndexedInterner.new, Interner.get?_new_empty]
    · simp [IndexedInterner.get?, IndexedInterner.new, Interner.get?, Interner.new, hempty]

theorem size_eq (h : Represents indexed interner) : indexed.size = interner.size := by
  rw [IndexedInterner.size, ← Array.length_toList, h.texts_eq, Interner.size]

theorem lookup?_eq (h : Represents indexed interner) (name : Name) :
    indexed.lookup? name = interner.lookup? name := by
  rw [IndexedInterner.lookup?, ← Array.getElem?_toList, h.texts_eq, Interner.lookup?]

/-- While a handle is left, a text is interned in both tables as it is in the list. -/
theorem tryIntern (h : Represents indexed interner) (text : String)
    (room : (interner.intern text).2.size ≤ UInt32.size) :
    ∃ after, indexed.tryIntern text = (.ok (interner.intern text).1, after) ∧
      Represents after (interner.intern text).2 := by
  unfold IndexedInterner.tryIntern Interner.intern at *
  rw [h.get?_eq, h.size_eq]
  cases hget : interner.get? text with
  | some name => exact ⟨indexed, rfl, h⟩
  | none =>
    have hroom : interner.size < UInt32.size := by
      simpa [hget, Interner.size, Nat.succ_le_iff] using room
    simp only [if_pos hroom]
    refine ⟨_, rfl, ⟨by rw [Array.toList_push, h.texts_eq], fun other => ?_⟩⟩
    -- the index has the new handle under the new text only
    rw [Interner.get?_append hget, ← h.get?_eq, IndexedInterner.get?, Std.HashMap.getElem?_insert]
    simp only [beq_iff_eq]
    rfl

/-- A request is answered from the two tables as it is from the list of texts. -/
theorem answer (h : Represents indexed interner) (request : Interner.Request)
    (room : (interner.answer request).2.size ≤ UInt32.size) :
    (indexed.answer request).1 = (interner.answer request).1 ∧
      Represents (indexed.answer request).2 (interner.answer request).2 := by
  cases request with
  | intern text =>
    obtain ⟨after, htry, hafter⟩ := h.tryIntern text room
    rw [IndexedInterner.answer, htry]
    exact ⟨rfl, hafter⟩
  | tryIntern text =>
    obtain ⟨after, htry, hafter⟩ := h.tryIntern text room
    rw [IndexedInterner.answer, htry]
    exact ⟨rfl, hafter⟩
  | get text =>
    rw [IndexedInterner.answer, Interner.answer, h.get?_eq]
    split <;> exact ⟨rfl, h⟩

/-- Requests are answered from the two tables as they are from the list of texts, if there is a
handle for every text. -/
theorem serve (h : Represents indexed interner) (requests : List Interner.Request)
    (room : (Interner.serve Interner.answer interner requests).2.size ≤ UInt32.size) :
    (Interner.serve IndexedInterner.answer indexed requests).1 =
        (Interner.serve Interner.answer interner requests).1 ∧
      Represents (Interner.serve IndexedInterner.answer indexed requests).2
        (Interner.serve Interner.answer interner requests).2 := by
  induction requests generalizing indexed interner with
  | nil => exact ⟨rfl, h⟩
  | cons request requests ih =>
    rw [Interner.serve_cons] at room ⊢
    -- the first request leaves no more texts than all of them do
    have hsize : (interner.answer request).2.size ≤ UInt32.size := by
      refine Nat.le_trans ?_ room
      rw [Interner.serve_interner]
      exact (Interner.texts_prefix_internAll _ _).length_le
    obtain ⟨hanswer, hafter⟩ := h.answer request hsize
    obtain ⟨hanswers, hlast⟩ := ih hafter room
    rw [Interner.serve, hanswer, Interner.isStop_answer]
    exact ⟨congrArg _ hanswers, hlast⟩

end Represents

end IndexedInterner

namespace Interner

/-! ## Any course of requests -/

/-- What requests to a new interner lead to: texts and handles correspond one to one. -/
structure StableBijection (requests : List Request) : Prop where
  /-- The hash index and the array give the same answers, so that no text is refused. -/
  answers_indexed : (serve IndexedInterner.answer .new requests).1 = answersTo requests
  /-- The hash index has the handles of the texts. -/
  get?_indexed : ∀ text,
    (serve IndexedInterner.answer .new requests).2.get? text = (after requests).get? text
  /-- The array has the texts of the handles. -/
  lookup?_indexed : ∀ name,
    (serve IndexedInterner.answer .new requests).2.lookup? name = (after requests).lookup? name
  /-- The array has as many texts. -/
  size_indexed : (serve IndexedInterner.answer .new requests).2.size = (after requests).size
  /-- A handle leads to a text exactly when the text has the handle. -/
  lookup?_iff_get? : ∀ name text,
    (after requests).lookup? name = some text ↔ (after requests).get? text = some name
  /-- The handles count the texts in the order of their first occurrence, the empty text first. -/
  issued : ∀ index,
    (after requests).lookup? ⟨index⟩ = ("" :: interned requests).eraseDups[index]?
  /-- Interning a text answers with the handle that the text has then, or else the next one. -/
  interned_at : ∀ before request text later, requests = before ++ request :: later →
    request.interned? = some text →
      (answersTo requests)[before.length]? =
        some (.handle (((after before).get? text).getD ⟨(after before).size⟩))
  /-- Looking for a text answers with the handle that the text has then, and adds nothing. -/
  got_at : ∀ before text later, requests = before ++ .get text :: later →
    (answersTo requests)[before.length]? =
        some (((after before).get? text).elim .absent .handle) ∧
      after (before ++ [.get text]) = after before ∧ after requests = after (before ++ later)
  /-- A handle that was given leads to its text, now and after any further requests. -/
  handle_text : ∀ later request name,
    (request, .handle name) ∈ requests.zip (answersTo requests) →
      (after (requests ++ later)).lookup? name = some request.text
  /-- Requests that were given the same handle are about the same text. -/
  same_text : ∀ first second name,
    (first, .handle name) ∈ requests.zip (answersTo requests) →
      (second, .handle name) ∈ requests.zip (answersTo requests) → first.text = second.text
  /-- There is one text more than different texts other than the empty one were put in. -/
  size_eq : (after requests).size = 1 + ((interned requests).toFinset.erase "").card

/-- The interner that requests leave holds the texts that they put in. -/
theorem after_eq (requests : List Request) : after requests = new.internAll (interned requests) :=
  serve_interner new requests

/-- The texts of an interner are different. -/
theorem nodup_after (requests : List Request) : (after requests).texts.Nodup := by
  rw [after_eq]
  exact nodup_internAll (List.nodup_singleton _) _

/-- The interner after further requests. -/
theorem after_append (before later : List Request) :
    after (before ++ later) = (after before).internAll (interned later) := by
  rw [after_eq, after_eq, interned_append, internAll, List.foldl_append]
  rfl

/-- A request is answered from the interner that the requests before it leave. -/
theorem getElem?_answersTo (before : List Request) (request : Request) (later : List Request) :
    (answersTo (before ++ request :: later))[before.length]? =
      some ((after before).answer request).1 := by
  have hlength : before.length = (serve answer new before).1.length :=
    (length_serve new before).symm
  rw [answersTo, serve_append, serve_cons, hlength, List.getElem?_append_right Nat.le.refl,
    Nat.sub_self, List.getElem?_cons_zero]
  rfl

/-- The number of interned texts is told by the different texts that were put in. -/
theorem size_after (requests : List Request) :
    (after requests).size = 1 + ((interned requests).toFinset.erase "").card := by
  -- the empty text counts once, whether or not it was put in
  have htexts : (after requests).texts.toFinset =
      insert "" ((interned requests).toFinset.erase "") := by
    ext text
    rw [after_eq, List.mem_toFinset, mem_texts_internAll]
    by_cases hempty : text = "" <;> simp [hempty, new]
  rw [size, ← List.toFinset_card_of_nodup (nodup_after requests), htexts,
    Finset.card_insert_of_notMem (Finset.notMem_erase _ _), Nat.add_comm]

/-- After any requests to a new interner that leave a handle for every text, texts and handles
correspond one to one, and so they stay. -/
theorem stableBijection (requests : List Request)
    (room : (after requests).size ≤ UInt32.size) : StableBijection requests := by
  obtain ⟨hanswers, hindexed⟩ := IndexedInterner.Represents.new.serve requests room
  -- a handle in an answer keeps its text through whatever follows
  have hkept (later : List Request) (request : Request) (name : Name)
      (h : (request, .handle name) ∈ requests.zip (answersTo requests)) :
      (after (requests ++ later)).lookup? name = some request.text := by
    rw [after_append]
    exact lookup?_internAll (lookup?_of_mem_zip h) _
  exact {
    answers_indexed := hanswers
    get?_indexed := hindexed.get?_eq
    lookup?_indexed := hindexed.lookup?_eq
    size_indexed := hindexed.size_eq
    lookup?_iff_get? := lookup?_eq_some_iff (nodup_after requests)
    issued := by
      intro index
      have htexts : (after requests).texts = ("" :: interned requests).eraseDups := by
        have hnew : new.texts = [""].eraseDups := by simp [new, List.eraseDups_cons]
        rw [after_eq, texts_internAll hnew, List.singleton_append]
      rw [lookup?, htexts]
    interned_at := by
      rintro before request text later rfl hrequest
      rw [getElem?_answersTo, answer_of_interned? hrequest]
    got_at := by
      rintro before text later rfl
      rw [getElem?_answersTo, answer_get, after_append, after_append, after_append,
        interned_cons]
      exact ⟨rfl, rfl, rfl⟩
    handle_text := hkept
    same_text := by
      intro first second name hfirst hsecond
      exact Option.some.inj ((hkept [] first name hfirst).symm.trans (hkept [] second name hsecond))
    size_eq := size_after requests }

/-- A text that is put in twice with another one and a look in between. -/
theorem stableBijection_again :
    (after [.intern "b", .get "a", .tryIntern "a", .intern "b", .intern ""]).size ≤ UInt32.size ∧
      StableBijection [.intern "b", .get "a", .tryIntern "a", .intern "b", .intern ""] :=
  have room : (after [.intern "b", .get "a", .tryIntern "a", .intern "b", .intern ""]).size ≤
      UInt32.size := by
    decide +kernel
  ⟨room, stableBijection _ room⟩

end Interner

end AliasReader
