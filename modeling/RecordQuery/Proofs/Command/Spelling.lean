import Mathlib.Data.List.Perm.Basic
import Mathlib.Data.List.TakeWhile
import RecordQuery.Command.Invocation
import RecordQuery.Proofs.Attempt

/-!
# Options written in full

A long option may be written with its value in one argument or in two. Such
options are read whatever their order, and what has no other argument is read
to the end: nothing is left over.
-/

namespace RecordQuery.Command

/-- How an option and its value may be written: joined by an equals sign, or
apart where the value does not look like an option. -/
inductive Spelled (name value : String) : List String → Prop
  | joined : Spelled name value [name ++ "=" ++ value]
  | apart : value.toList.head? ≠ some '-' → Spelled name value [name, value]

variable {options : List Opt} {name : List Char}

-- ---------------------------------------------------------------------------
-- What an argument is taken for
-- ---------------------------------------------------------------------------

theorem splitValue_joined (h : '=' ∉ name) (value : List Char) :
    splitValue (name ++ '=' :: value) = (name, some value) := by
  have hn : ∀ c ∈ name, (c != '=') = true := fun c hc =>
    bne_iff_ne.mpr fun he => h (he ▸ hc)
  rw [splitValue, List.dropWhile_append_of_pos hn, List.takeWhile_append_of_pos hn]
  simp

theorem splitValue_plain (h : '=' ∉ name) : splitValue name = (name, none) := by
  have hn : ∀ c ∈ name, (c != '=') = true := fun c hc =>
    bne_iff_ne.mpr fun he => h (he ▸ hc)
  rw [splitValue, List.dropWhile_eq_nil_iff.mpr hn]

theorem isLong_append (h : isLong name = true) (rest : List Char) :
    isLong (name ++ rest) = true :=
  List.isPrefixOf_iff_prefix.mpr
    ((List.isPrefixOf_iff_prefix.mp h).trans (List.prefix_append _ _))

def AreWhole (options : List Opt) : Prop := ∀ entry ∈ namesOf options, '=' ∉ entry.1

instance (options : List Opt) : Decidable (AreWhole options) :=
  inferInstanceAs (Decidable (∀ entry ∈ namesOf options, '=' ∉ entry.1))

theorem named?_joined (hw : AreWhole options) (value : List Char) :
    named? options (name ++ '=' :: value) = none := by
  refine List.lookup_eq_none_iff.mpr fun entry he => bne_iff_ne.mpr fun h => hw entry he ?_
  rw [← h]
  exact List.mem_append_right _ List.mem_cons_self

theorem classify_value {argument : List Char} (h : argument.head? ≠ some '-') :
    classify options argument = .ok .value := by
  unfold classify
  split
  · exact absurd rfl h
  · rfl

theorem exists_of_isLong (h : isLong name = true) : ∃ rest, name = '-' :: '-' :: rest := by
  obtain ⟨rest, rfl⟩ := List.isPrefixOf_iff_prefix.mp h
  exact ⟨rest, rfl⟩

theorem classify_written {mention : Mention} (hl : isLong name = true)
    (h : written? options name = some mention) : classify options name = .ok (.mention mention) := by
  obtain ⟨rest, rfl⟩ := exists_of_isLong hl
  rw [classify, h]

theorem classify_foreign (hl : isLong name = true) (hw : written? options name = none)
    (hc : candidates options name = []) : ∃ token, classify options name = .ok token := by
  obtain ⟨rest, rfl⟩ := exists_of_isLong hl
  rw [classify, hw, hc]
  dsimp only
  split <;> exact ⟨_, rfl⟩

section
variable {opt : Opt} {value : List Char}

theorem written?_name (hl : isLong name = true) (ho : named? options name = some opt) :
    written? options name = some ⟨opt, false, none⟩ := by
  rw [written?, ho, hl]
  rfl

theorem written?_joined (hl : isLong name = true) (hn : '=' ∉ name) (hw : AreWhole options)
    (ho : named? options name = some opt) :
    written? options (name ++ '=' :: value) = some ⟨opt, false, some value⟩ := by
  rw [written?, named?_joined hw, splitValue_joined hn]
  show (named? options name).map _ = _
  rw [ho, hl]
  rfl

end

/-- A name that none of the options has or begins with. -/
structure Foreign (options : List Opt) (name : List Char) : Prop where
  unnamed : named? options name = none
  unbegun : ∀ entry ∈ namesOf options, name.isPrefixOf entry.1 = false

theorem Foreign.candidates {argument : List Char} {text : Option (List Char)}
    (h : Foreign options name) (hl : isLong argument = true)
    (hs : splitValue argument = (name, text)) : candidates options argument = [] := by
  rw [Command.candidates, if_pos hl, hs]
  refine List.filterMap_eq_nil_iff.mpr fun entry he => ?_
  simp only [h.unbegun entry he, Bool.false_eq_true, ↓reduceIte]

theorem Foreign.classify_name (h : Foreign options name) (hl : isLong name = true)
    (hn : '=' ∉ name) : ∃ token, classify options name = .ok token := by
  refine classify_foreign hl ?_ (h.candidates hl (splitValue_plain hn))
  rw [written?, h.unnamed, splitValue_plain hn]

theorem Foreign.classify_joined (h : Foreign options name) (hl : isLong name = true)
    (hn : '=' ∉ name) (hw : AreWhole options) (value : List Char) :
    ∃ token, classify options (name ++ '=' :: value) = .ok token := by
  have hj := splitValue_joined hn value
  refine classify_foreign (isLong_append hl _) ?_ (h.candidates (isLong_append hl _) hj)
  rw [written?, named?_joined hw, hj]
  show (named? options name).map _ = _
  rw [h.unnamed]
  rfl

-- ---------------------------------------------------------------------------
-- Reading
-- ---------------------------------------------------------------------------

/-- Arguments that are told to be what stands with them. -/
def Told (options : List Opt) (read : List (String × Token)) : Prop :=
  ∀ token ∈ read, token.1 ≠ "--" ∧ classify options token.1.toList = .ok token.2

theorem tokens_cons {argument : String} {token : Token} (hd : argument ≠ "--")
    (hc : classify options argument.toList = .ok token) (rest : List String) :
    tokens options (argument :: rest) = (tokens options rest).map ((argument, token) :: ·) := by
  rw [tokens, hc]
  · cases tokens options rest <;> rfl
  · exact hd

theorem Told.tokens {read : List (String × Token)} (h : Told options read) :
    tokens options (read.map Prod.fst) = .ok read := by
  induction read with
  | nil => rfl
  | cons token rest ih =>
    obtain ⟨⟨hd, hc⟩, hr⟩ := List.forall_mem_cons.mp h
    rw [List.map_cons, tokens_cons hd hc, ih hr]
    rfl

theorem exists_told {arguments : List String} (h : ∀ argument ∈ arguments,
    argument ≠ "--" ∧ ∃ token, classify options argument.toList = .ok token) :
    ∃ read, read.map Prod.fst = arguments ∧ Told options read := by
  induction arguments with
  | nil => exact ⟨[], rfl, fun _ hm => (by cases hm)⟩
  | cons argument rest ih =>
    obtain ⟨⟨hd, token, hc⟩, hr⟩ := List.forall_mem_cons.mp h
    obtain ⟨read, rfl, ht⟩ := ih hr
    exact ⟨(argument, token) :: read, rfl, List.forall_mem_cons.mpr ⟨⟨hd, hc⟩, ht⟩⟩

/-- What follows a command is left to it, as long as it can be told. -/
theorem read_command {command : String} {arguments : List String} (hd : command ≠ "--")
    (hc : classify options command.toList = .ok .value) (h : ∀ argument ∈ arguments,
      argument ≠ "--" ∧ ∃ token, classify options argument.toList = .ok token) :
    read options true (command :: arguments) = .ok ⟨[], some (command, arguments), false⟩ := by
  obtain ⟨found, rfl, ht⟩ := exists_told h
  have htold : Told options ((command, .value) :: found) := List.forall_mem_cons.mpr ⟨⟨hd, hc⟩, ht⟩
  rw [read, ← List.map_cons (f := Prod.fst) (a := (command, Token.value)), htold.tokens]
  rfl

def Gives (options : List Opt) (entry : String × String) (arguments : List String) : Prop :=
  ∃ read, read.map Prod.fst = arguments ∧ Told options read ∧
    ∀ given leftOver rest, readTokens options false 0 given leftOver (read ++ rest) =
      readTokens options false 0 ((entry.1, [entry.2]) :: given) leftOver rest

theorem note_value {opt : Opt} {form : Form} {value : String} (ht : opt.takes = .one form)
    (ha : form.accepts value = true) (given : Given) :
    note given opt [value] = .ok ((opt.key, [value]) :: given) := by
  unfold note
  simp only [ht, List.all_cons, List.all_nil, ha, Bool.and_self, ↓reduceIte]

theorem readTokens_mention {opt : Opt} {form : Form} {value argument : String} {mention : Mention}
    {text : Option (List Char)} {taken : Nat} {rest : List (String × Token)}
    (ht : opt.takes = .one form) (ha : form.accepts value = true)
    (hm : mentioned options mention = .ok ⟨[], opt, text⟩)
    (hv : valuesOf opt text rest = .ok ([value], taken)) (given : Given) (leftOver : Bool) :
    readTokens options false 0 given leftOver ((argument, .mention mention) :: rest) =
      readTokens options false taken ((opt.key, [value]) :: given) leftOver rest := by
  rw [readTokens, hm]
  show (valuesOf opt text rest >>= _) = _
  rw [hv]
  show (note given opt [value] >>= _) = _
  rw [note_value ht ha]
  rfl

structure IsName (name : String) : Prop where
  long : isLong name.toList = true
  whole : '=' ∉ name.toList
  more : name ≠ "--"

theorem toList_joined (name value : String) :
    (name ++ "=" ++ value).toList = name.toList ++ '=' :: value.toList := by
  simp [String.toList_append]

theorem joined_ne (name value : String) : name ++ "=" ++ value ≠ "--" := by
  intro h
  have hc : '=' ∈ "--".toList := by
    rw [← h, toList_joined]
    exact List.mem_append_right _ List.mem_cons_self
  exact absurd hc (by decide)

theorem mentioned_long {opt : Opt} {form : Form} (ht : opt.takes = .one form)
    (text : Option (List Char)) : mentioned options ⟨opt, false, text⟩ = .ok ⟨[], opt, text⟩ := by
  cases text with
  | none => rfl
  | some text =>
    rw [mentioned, ht]
    rfl

theorem Spelled.gives {form : Form} {name value : String} {arguments : List String}
    (h : Spelled name value arguments) (opt : Opt) (hn : IsName name) (hw : AreWhole options)
    (ho : named? options name.toList = some opt) (ht : opt.takes = .one form)
    (ha : form.accepts value = true) : Gives options (opt.key, value) arguments := by
  cases h with
  | joined =>
    refine ⟨[(name ++ "=" ++ value, .mention ⟨opt, false, some value.toList⟩)], rfl, ?_, ?_⟩
    · refine List.forall_mem_singleton.mpr ⟨joined_ne name value, ?_⟩
      rw [toList_joined]
      exact classify_written (isLong_append hn.long _) (written?_joined hn.long hn.whole hw ho)
    · intro given leftOver rest
      refine readTokens_mention ht ha (mentioned_long ht _) ?_ given leftOver
      simp only [valuesOf, ht, String.ofList_toList]
  | apart hv =>
    refine ⟨[(name, .mention ⟨opt, false, none⟩), (value, .value)], rfl, ?_, ?_⟩
    · refine List.forall_mem_cons.mpr ⟨⟨hn.more, ?_⟩, List.forall_mem_singleton.mpr ⟨?_, ?_⟩⟩
      · exact classify_written hn.long (written?_name hn.long ho)
      · rintro rfl
        exact hv rfl
      · exact classify_value hv
    · intro given leftOver rest
      have hr : valuesOf opt none ((value, .value) :: rest) = .ok ([value], 1) := by
        simp only [valuesOf, ht]
      exact readTokens_mention ht ha (mentioned_long ht _) hr given leftOver

theorem Spelled.foreign {name value : String} {arguments : List String}
    (h : Spelled name value arguments) (hn : IsName name) (hw : AreWhole options)
    (hf : Foreign options name.toList) : ∀ argument ∈ arguments,
      argument ≠ "--" ∧ ∃ token, classify options argument.toList = .ok token := by
  cases h with
  | joined =>
    refine List.forall_mem_singleton.mpr ⟨joined_ne name value, ?_⟩
    rw [toList_joined]
    exact hf.classify_joined hn.long hn.whole hw _
  | apart hv =>
    refine List.forall_mem_cons.mpr ⟨⟨hn.more, hf.classify_name hn.long hn.whole⟩,
      List.forall_mem_singleton.mpr ⟨?_, _, classify_value hv⟩⟩
    rintro rfl
    exact hv rfl

theorem read_of_gives {entries : List (String × String)} {pieces : List (List String)}
    (h : List.Forall₂ (Gives options) entries pieces) :
    read options false pieces.flatten =
      .ok ⟨(entries.map fun entry => (entry.1, [entry.2])).reverse, none, false⟩ := by
  have ht : ∃ read, read.map Prod.fst = pieces.flatten ∧ Told options read ∧
      ∀ given, readTokens options false 0 given false read =
        .ok ⟨(entries.map fun entry => (entry.1, [entry.2])).reverse ++ given, none, false⟩ := by
    induction h with
    | nil => exact ⟨[], rfl, fun _ hm => (by cases hm), fun _ => rfl⟩
    | cons hg _ ih =>
      obtain ⟨first, rfl, ht, hr⟩ := hg
      obtain ⟨others, ho, hto, hro⟩ := ih
      refine ⟨first ++ others, by rw [List.map_append, ho, List.flatten_cons],
        List.forall_mem_append.mpr ⟨ht, hto⟩, fun given => ?_⟩
      rw [hr, hro]
      simp
  obtain ⟨found, hf, htold, hr⟩ := ht
  rw [read, ← hf, htold.tokens]
  show readTokens options false 0 [] false found = _
  rw [hr, List.append_nil]

namespace Given

theorem values?_cons (entry : String × List String) (given : Given) (key : String) :
    values? (entry :: given) key = if key = entry.1 then some entry.2 else given.values? key := by
  rw [values?, values?, List.lookup_cons]
  by_cases h : key = entry.1
  · rw [if_pos h, beq_iff_eq.mpr h]
  · rw [if_neg h, beq_false_of_ne h]

theorem values?_of_perm {given other : Given} (h : given.Perm other)
    (hn : (given.map Prod.fst).Nodup) (key : String) : given.values? key = other.values? key := by
  induction h with
  | nil => rfl
  | cons entry _ ih => rw [values?_cons, values?_cons, ih (List.nodup_cons.mp hn).2]
  | swap first second rest =>
    have hne : second.1 ≠ first.1 := fun he =>
      (List.nodup_cons.mp hn).1 (he ▸ List.mem_cons_self)
    simp only [values?_cons]
    split
    · next he => rw [if_neg (he ▸ hne)]
    · rfl
  | trans hf _ ihf ihs => exact (ihf hn).trans (ihs ((hf.map Prod.fst).nodup_iff.mp hn))

end Given

end RecordQuery.Command
