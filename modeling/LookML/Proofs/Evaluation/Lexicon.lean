import LookML.Proofs.Text.Case
import LookML.Rule.Naming
/-!
# Forbidden phrases

A forbidden phrase that stands in a text as it is configured is reported, unless the phrase has a
capital sigma at one of its ends and the text goes on there within the word: then the sigma lowers
to something else in the text than in the phrase.
-/

namespace LookML.Rules

open Text

/-- What is reported about a phrase in one of the texts of a field. -/
def phraseFinding (f : Member) (what phrase : String) : Finding :=
  .ofField f s!"{what} of '{f.name}' contains '{phrase}'"

/-- Where the phrase is bound to be found in the text. -/
structure FindsPhrase (f : Member) (what text phrase : String) (findings : List Finding) : Prop where
  kept : ∀ before after, text.toList = before ++ phrase.toList ++ after →
    KeepsSigmas before phrase.toList after → phraseFinding f what phrase ∈ findings
  apart : ∀ before after, text.toList = before ++ phrase.toList ++ after →
    beginsCased before.reverse = false → beginsCased after = false →
      phraseFinding f what phrase ∈ findings
  shielded : ShieldsSigmas phrase.toList → phrase.toList <:+: text.toList →
    phraseFinding f what phrase ∈ findings

/-- What the rule reports about a field. -/
structure ReportsPhrases (forbidden : List String) (f : Member) (findings : List Finding) : Prop where
  finds : ∀ what text, (what, text) ∈ readTexts f → ∀ phrase ∈ forbidden, phrase ≠ "" →
    FindsPhrase f what text phrase findings
  only : ∀ finding ∈ findings, ∃ what text, (what, text) ∈ readTexts f ∧
    ∃ phrase ∈ forbidden, phrase ≠ "" ∧ lowerCase phrase.toList <:+: lowerCase text.toList ∧
      finding = phraseFinding f what phrase

variable {forbidden : List String} {f : Member} {what text phrase : String} {finding : Finding}

theorem mem_lexiconFindings_iff : finding ∈ lexiconFindings forbidden f ↔
    ∃ what text, (what, text) ∈ readTexts f ∧ ∃ phrase ∈ forbidden, phrase ≠ "" ∧
      lowerCase phrase.toList <:+: lowerCase text.toList ∧
        finding = phraseFinding f what phrase := by
  simp only [lexiconFindings, List.mem_flatMap, Prod.exists, List.mem_map, List.mem_filter,
    Bool.and_eq_true, decide_eq_true_eq, contains_eq_true_iff, phraseFinding, and_assoc,
    @eq_comm _ finding]

theorem findsPhrase_lexicon (htext : (what, text) ∈ readTexts f) (hphrase : phrase ∈ forbidden)
    (hne : phrase ≠ "") : FindsPhrase f what text phrase (lexiconFindings forbidden f) := by
  have hkept : ∀ before after, text.toList = before ++ phrase.toList ++ after →
      KeepsSigmas before phrase.toList after →
        phraseFinding f what phrase ∈ lexiconFindings forbidden f := by
    intro before after hsplit hsigmas
    have hinfix := hsigmas.lowerCase_infix
    rw [← hsplit] at hinfix
    exact mem_lexiconFindings_iff.2 ⟨what, text, htext, phrase, hphrase, hne, hinfix, rfl⟩
  refine ⟨hkept, fun before after hsplit hbefore hafter => ?_, fun hshields => ?_⟩
  · exact hkept before after hsplit (.of_apart hbefore hafter)
  · rintro ⟨before, after, hsplit⟩
    exact hkept before after hsplit.symm (hshields.keepsSigmas before after)

/-- Every forbidden phrase that stands in a text of a field is reported, where its capital sigmas
are final in the text if they are so in the phrase. -/
theorem lexicon_reports (forbidden : List String) (f : Member) :
    ReportsPhrases forbidden f (lexiconFindings forbidden f) where
  finds := fun _ _ htext _ hphrase hne => findsPhrase_lexicon htext hphrase hne
  only := fun _ => mem_lexiconFindings_iff.1

def greekLabel : Member :=
  let location : Location := ⟨"a.view.lkml", 2, 3, 4, 4⟩
  let label : Property := .mk "label" (.text "ΑΣΑ") ⟨"a.view.lkml", 3, 5, 3, 17⟩
  ⟨"x", ⟨"a", by decide⟩, ⟨"a", by decide⟩, .mk .dimension (some "x") [label] [] location, []⟩

/-- The sigma is final in the phrase, but not in the text. -/
theorem overlooked_greekLabel :
    ("label", "ΑΣΑ") ∈ readTexts greekLabel ∧ "ΑΣ".toList <:+: "ΑΣΑ".toList ∧
      lexiconFindings ["ΑΣ"] greekLabel = [] := by
  refine ⟨?_, ⟨[], ['Α'], ?_⟩, ?_⟩
  · decide
  · decide
  · decide +kernel

end LookML.Rules
