import RecordQuery.Proofs.Engine.Terms

/-!
# Searching for a piece of a text

A piece of a value's text is looked for in lower case, each lowered by itself.
It is found where it stands unless one of its capital sigmas takes another
form there, as at the end of a word that goes on in the value.
-/

namespace RecordQuery

variable {before after : List Char} {query : String}

theorem searchTerms_unbroken (hn : query ≠ "") (hb : ∀ c ∈ query.toList, Text.isBlank c = false) :
    searchTerms query.toList = [Text.lower query.toList] := by
  rw [searchTerms_eq, Text.words_unbroken (mt String.toList_eq_nil_iff.mp hn) hb]
  rfl

theorem Record.mentions_of_keepsSigmas {record : Record} {field : String × Value}
    (hf : field ∈ record)
    (ht : field.2.searchText = .ok (before ++ query.toList ++ after))
    (hk : Text.KeepsSigmas before query.toList after) :
    record.mentions (Text.lower query.toList) = true :=
  mentions_iff.mpr ⟨field, hf, _, ht, Text.lower_isInfix hk⟩

namespace Engine

variable {engine : Engine} {keys : List Value}

/-- A search for a text without blanks lists the records that mention its
lower case. Where the text stands in a value, its lower case stands in the
lower case of the value if and only if none of its capital sigmas changes form
there; then the record is listed, and so it is wherever the text has no
capital sigma at all. -/
theorem search_literal (hn : query ≠ "") (hb : ∀ c ∈ query.toList, Text.isBlank c = false)
    (h : engine.search query = .ok keys) :
    keys = (engine.records.filter fun record =>
      record.mentions (Text.lower query.toList)).map (Record.key engine.keyField) ∧
    ∀ record ∈ engine.records, ∀ field ∈ record, ∀ before after,
      field.2.searchText = .ok (before ++ query.toList ++ after) →
        (Text.lower query.toList <+:
            (Text.lower (before ++ query.toList ++ after)).drop (Text.lower before).length ↔
          Text.KeepsSigmas before query.toList after) ∧
        (Text.KeepsSigmas before query.toList after ∨ 'Σ' ∉ query.toList →
          record.mentions (Text.lower query.toList) = true) := by
  have hk := (search_ok_iff.mp h).2
  rw [searchTerms_unbroken hn hb] at hk
  refine ⟨?_, fun record _ field hf before after ht => ⟨Text.lower_isPrefix_drop_iff, ?_⟩⟩
  · rw [hk, mentioning]
    simp only [List.all_cons, List.all_nil, Bool.and_true]
  · rintro (hs | hs)
    · exact Record.mentions_of_keepsSigmas hf ht hs
    · exact Record.mentions_of_keepsSigmas hf ht (Text.keepsSigmas_of_notMem hs)

def philosopher : Record := [("id", .text "a"), ("name", .text "ΦΙΛΟΣΟΦΟΣ")]

def friend : Record := [("id", .text "b"), ("name", .text "ΦΙΛΟΣ")]

/-- The word for a friend ends in a sigma, and that for a philosopher goes on
from there. -/
theorem search_friend :
    (new [philosopher, friend] (some "id")).search "ΦΙΛΟΣ" = .ok [.text "b"] ∧
    friend.mentions (Text.lower "ΦΙΛΟΣ".toList) = true ∧
    ¬ Text.KeepsSigmas [] "ΦΙΛΟΣ".toList "ΟΦΟΣ".toList := by
  have hu : "ΦΙΛΟΣ".toList.all (fun c => !Text.isBlank c) = true := by decide +kernel
  have hb : ∀ c ∈ "ΦΙΛΟΣ".toList, Text.isBlank c = false := by simpa using hu
  have hp : philosopher.mentions (Text.lower "ΦΙΛΟΣ".toList) = false := by decide +kernel
  have hs : ∀ record ∈ [philosopher, friend], record.HasText := by
    simp only [List.forall_mem_cons, Record.HasText, philosopher, friend]
    exact ⟨⟨⟨_, rfl⟩, ⟨_, rfl⟩, nofun⟩, ⟨⟨_, rfl⟩, ⟨_, rfl⟩, nofun⟩, nofun⟩
  have hk : (new [philosopher, friend] (some "id")).search "ΦΙΛΟΣ" = .ok [.text "b"] := by
    refine search_ok_iff.mpr ⟨.inr hs, ?_⟩
    have hf : friend.mentions (Text.lower "ΦΙΛΟΣ".toList) = true := by decide +kernel
    rw [searchTerms_unbroken (by decide) hb]
    simp only [mentioning, new, List.filter_cons, List.all_cons, hp, hf]
    rfl
  have ht : "ΦΙΛΟΣΟΦΟΣ".toList = [] ++ "ΦΙΛΟΣ".toList ++ "ΟΦΟΣ".toList := by decide +kernel
  obtain ⟨-, hf⟩ := search_literal (by decide) hb hk
  have hn := hf philosopher (by simp [new]) ("name", .text "ΦΙΛΟΣΟΦΟΣ") (by simp [philosopher]) []
    "ΟΦΟΣ".toList (congrArg Except.ok ht)
  have hy := hf friend (by simp [new]) ("name", .text "ΦΙΛΟΣ") (by simp [friend]) [] []
    (congrArg Except.ok (List.append_nil _).symm)
  refine ⟨hk, hy.2 (.inl ?_), fun h => ?_⟩
  · intro first second _
    simp
  · rw [hn.2 (.inl h)] at hp
    cases hp

end Engine

end RecordQuery
