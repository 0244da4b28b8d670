import CallbackGate.Proofs.ReplySignatures

/-!
# What a sealed reply is read back as

The four texts of a sealed reply are arbitrary.  Those that are written in sections are
read back as they were.  The timestamp is written with escapes, and is read back as its
core: what is left of it without the white space of markup at its ends.

There are two groups.

* Cores of texts.  `IsCore` says what a core is without trimming anything, and
  `isCore_iff` says that each text has one, which is what trimming leaves of it.
* Sealed replies.  `ofBody_toBody_core` is what a reply is read back as, and which replies
  are read back as they were.
-/

namespace CallbackGate

open Markup (Draft)

/-! ## Cores of texts -/

namespace Text

/-- The white space of markup. -/
def markupSpaces : List Char := [' ', '\t', '\n', '\r']

theorem mem_markupSpaces_iff {c : Char} : c ∈ markupSpaces ↔ isMarkupSpace c = true := by
  simp [markupSpaces, isMarkupSpace, or_assoc]

theorem not_mem_markupSpaces_iff {c : Char} : c ∉ markupSpaces ↔ isMarkupSpace c = false := by
  rw [mem_markupSpaces_iff, Bool.not_eq_true]

/-- A text is another one with white space of markup before and after it, and the other
one neither begins nor ends with such white space. -/
structure IsCore (core text : String) : Prop where
  parts : ∃ before after : List Char, text.toList = before ++ core.toList ++ after ∧
    (∀ c ∈ before, c ∈ markupSpaces) ∧ ∀ c ∈ after, c ∈ markupSpaces
  head : ∀ c ∈ core.toList.head?, c ∉ markupSpaces
  last : ∀ c ∈ core.toList.getLast?, c ∉ markupSpaces

/-- The core of a text is what trimming leaves of it. -/
theorem isCore_iff {core text : String} :
    IsCore core text ↔ core = String.ofList (Draft.stripped text) := by
  have hstrip := strip_eq_iff isMarkupSpace text.toList core.toList
  simp only [← mem_markupSpaces_iff, ← not_mem_markupSpaces_iff] at hstrip
  rw [← String.toList_inj, String.toList_ofList, Draft.stripped, eq_comm, hstrip]
  constructor
  · rintro ⟨hparts, hhead, hlast⟩
    exact ⟨hparts, hhead, hlast⟩
  · rintro ⟨hparts, hhead, hlast⟩
    exact ⟨hparts, hhead, hlast⟩

/-- A text is tight if it neither begins nor ends with one of the four characters. -/
theorem tight_iff {text : String} :
    Tight text ↔ (∀ c ∈ text.toList.head?, c ∉ markupSpaces) ∧
      ∀ c ∈ text.toList.getLast?, c ∉ markupSpaces := by
  simp only [Tight, not_mem_markupSpaces_iff]

end Text

/-! ## Sealed replies -/

/-- A sealed reply is read back with the core of its timestamp, of which there is exactly
one, and with its other texts as they were.  So it is read back as it was exactly if its
timestamp neither begins nor ends with white space of markup. -/
theorem SealedReply.ofBody_toBody_core (reply : SealedReply) :
    ∃ timestamp, (∀ text, Text.IsCore text reply.timestamp ↔ text = timestamp) ∧
      ofBody reply.toBody = .ok { reply with timestamp } ∧
      (ofBody reply.toBody = .ok reply ↔
        (∀ c ∈ reply.timestamp.toList.head?, c ∉ Text.markupSpaces) ∧
          ∀ c ∈ reply.timestamp.toList.getLast?, c ∉ Text.markupSpaces) := by
  refine ⟨String.ofList (Draft.stripped reply.timestamp), fun text => Text.isCore_iff,
    reply.ofBody_toBody, ?_⟩
  rw [reply.ofBody_toBody, ← Text.tight_iff, ← Text.ofList_stripped_eq_iff, Except.ok.injEq]
  constructor
  · intro h
    exact congrArg SealedReply.timestamp h
  · intro h
    rw [h]

end CallbackGate
