import Mathlib.Data.List.Basic
import SlashCommands.Definition
import SlashCommands.Proofs.Text.Casing

/-!
# Suggestions from a list while somebody is typing

A list offers the texts that begin, in lower case, with what has been typed.  Typing more should
leave fewer of them and never lose the one that is being typed.  The main statement,
`Completer.followsTyping_ofList`, says that this is so except in a word, after a capital sigma:
there the sigma is taken to be final, and texts that go on within the word are not offered until
their next letter is typed (`Completer.ofList_hides_after_sigma`).
-/

namespace SlashCommands

/-- Holds of an option in which a text has been typed. -/
def SuppliedOption.Shows (o : SuppliedOption) (typed : String) : Prop :=
  ∃ value, o.value = some value ∧ value.display = typed

/-- Holds of a completer that offers texts of a list, in the order of the list and as often as they
are there: all of them as long as nothing is typed, then those that what is typed begins, and fewer
the more is typed.  Only in a word, right after a capital sigma, is a text not offered although its
beginning is typed, and nothing that goes on within the word is. -/
structure Completer.FollowsTyping (completer : Completer) (texts : List String) : Prop where
  sublist : ∀ o i, ∃ found, completer o i = .finish (.ok found) ∧ found.Sublist texts
  untyped : ∀ o i, o.value = none → completer o i = .finish (.ok texts)
  offers_iff : ∀ o i p q found, o.Shows p → completer o i = .finish (.ok found) → p ++ q ∈ texts →
    (p ++ q ∈ found ↔ ¬ Text.CutsAfterSigma p.toList q.toList)
  narrows_iff : ∀ o o' i i' p q found found', o.Shows p → o'.Shows (p ++ q) →
    completer o i = .finish (.ok found) → completer o' i' = .finish (.ok found') →
    (found'.Sublist found ↔ (Text.CutsAfterSigma p.toList q.toList → found' = []))

namespace Completer

/-- The texts of a list that begin, in lower case, with what is typed. -/
def matching (texts : List String) (typed : String) : List String :=
  texts.filter fun text => (Text.lower typed.toList).isPrefixOf (Text.lower text.toList)

variable {texts : List String} {o : SuppliedOption} {p q text : String}

theorem mem_matching_iff :
    text ∈ matching texts p ↔ text ∈ texts ∧ Text.lower p.toList <+: Text.lower text.toList := by
  rw [matching, List.mem_filter, List.isPrefixOf_iff_prefix]

theorem ofList_of_none (h : o.value = none) (i : Interaction) :
    ofList texts o i = .finish (.ok texts) := by
  rw [ofList, h]
  exact congrArg (Consultation.finish <| .ok ·) (List.filter_eq_self.mpr fun _ _ => rfl)

theorem ofList_of_shows (h : o.Shows p) (i : Interaction) :
    ofList texts o i = .finish (.ok (matching texts p)) := by
  obtain ⟨value, hvalue, rfl⟩ := h
  rw [ofList, hvalue]
  rfl

/-- The text that is being typed is offered, unless it is cut off after a sigma. -/
theorem append_mem_matching_iff (h : p ++ q ∈ texts) :
    p ++ q ∈ matching texts p ↔ ¬ Text.CutsAfterSigma p.toList q.toList := by
  rw [mem_matching_iff, and_iff_right h, String.toList_append,
    Text.lower_prefix_lower_append_iff]

/-- What is offered for a longer text is offered for its beginning, unless that is cut off after a
sigma; then nothing is offered for both. -/
theorem mem_matching_of_append (h : text ∈ matching texts (p ++ q)) :
    text ∈ matching texts p ↔ ¬ Text.CutsAfterSigma p.toList q.toList := by
  obtain ⟨hmem, hprefix⟩ := mem_matching_iff.mp h
  rw [String.toList_append] at hprefix
  rw [mem_matching_iff, and_iff_right hmem, Text.lower_prefix_of_append hprefix]

theorem matching_append_sublist_iff :
    (matching texts (p ++ q)).Sublist (matching texts p) ↔
      (Text.CutsAfterSigma p.toList q.toList → matching texts (p ++ q) = []) := by
  constructor
  · intro hsub hcut
    refine List.eq_nil_iff_forall_not_mem.mpr fun text htext => ?_
    exact (mem_matching_of_append htext).mp (hsub.subset htext) hcut
  · intro h
    by_cases hcut : Text.CutsAfterSigma p.toList q.toList
    · rw [h hcut]
      exact List.nil_sublist _
    · refine List.monotone_filter_right texts fun text => ?_
      rw [List.isPrefixOf_iff_prefix, List.isPrefixOf_iff_prefix, String.toList_append]
      exact fun hprefix => (Text.lower_prefix_of_append hprefix).mpr hcut

/-- **Suggestions from a list follow what is typed**, except within a word after a capital sigma. -/
theorem followsTyping_ofList (texts : List String) : (ofList texts).FollowsTyping texts where
  sublist := fun o i => ⟨_, rfl, List.filter_sublist⟩
  untyped := fun _ i h => ofList_of_none h i
  offers_iff := fun o i p q found hshows hfound hmem => by
    rw [ofList_of_shows hshows] at hfound
    cases hfound
    exact append_mem_matching_iff hmem
  narrows_iff := fun o o' i i' p q found found' hshows hshows' hfound hfound' => by
    rw [ofList_of_shows hshows] at hfound
    rw [ofList_of_shows hshows'] at hfound'
    cases hfound
    cases hfound'
    exact matching_append_sublist_iff

/-- A text that begins with what is typed is not offered, and is offered again when it has been
typed to its end. -/
theorem ofList_hides_after_sigma :
    let completer := ofList ["ΑΣΑ"]
    let i : Interaction := ⟨"1", "pick", .chatInput, none, [], ⟨"7", none⟩, none, none⟩
    "ΑΣ".toList <+: "ΑΣΑ".toList ∧
      completer ⟨"word", some (.string "ΑΣ"), true⟩ i = .finish (.ok []) ∧
      completer ⟨"word", some (.string "ΑΣΑ"), true⟩ i = .finish (.ok ["ΑΣΑ"]) := by
  intro completer i
  have shows (typed : String) :
      (⟨"word", some (.string typed), true⟩ : SuppliedOption).Shows typed := ⟨_, rfl, rfl⟩
  have hhidden : matching ["ΑΣΑ"] "ΑΣ" = [] := by decide +kernel
  have hshown : matching ["ΑΣΑ"] "ΑΣΑ" = ["ΑΣΑ"] := by decide +kernel
  refine ⟨by decide, ?_, ?_⟩
  · rw [← hhidden]
    exact ofList_of_shows (shows _) i
  · rw [← hshown]
    exact ofList_of_shows (shows _) i

end Completer

end SlashCommands
