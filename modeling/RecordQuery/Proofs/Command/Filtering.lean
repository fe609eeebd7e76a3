import RecordQuery.Command
import RecordQuery.Proofs.Command.Spelling
import RecordQuery.Proofs.Json.Line
import RecordQuery.Proofs.Limits.Loading
import RecordQuery.Proofs.Table.Refusal

/-!
# Filtering at the command line

Filtering a JSON source ends with code 1 and prints nothing if the source is
not loaded or the query is refused, for there is no falling back here. Else
it prints the keys of the selected records, one in a line. In either case the
stack has to have room for the document and for the groups of the query: its
end is not reported, and so ends the command without a code.
-/

namespace RecordQuery.Command

-- ---------------------------------------------------------------------------
-- Reading the command line
-- ---------------------------------------------------------------------------

def SourceChoice.ofPath (path : String) : SourceChoice := ⟨path, none, none, []⟩

def Selection.asKeys (query : String) : Selection := ⟨query, none, none, some "ids", none⟩

/-- The command that prints the keys of the records of a source that match a
query. -/
def printKeys (path query : String) : Invocation :=
  ⟨none, some (.filter (.ofPath path) (.asKeys query))⟩

def keysEntries (path query : String) : List (String × String) :=
  [("data-source", path), ("query", query), ("output-format", "ids")]

section
variable {path query : String} {source format : List String} {pieces : List (List String)}

theorem spelled_query (query : String) : Spelled "--query" query ["--query=" ++ query] := by
  have h : "--query" ++ "=" = "--query=" := by decide
  rw [← h]
  exact .joined

theorem areWhole_options : AreWhole filterOptions ∧ AreWhole mainOptions := by decide

theorem isName_options : IsName "--data-source" ∧ IsName "--query" ∧ IsName "--output-format" :=
  ⟨⟨rfl, by decide, by decide⟩, ⟨rfl, by decide, by decide⟩, ⟨rfl, by decide, by decide⟩⟩

theorem foreign_options : Foreign mainOptions "--data-source".toList ∧
    Foreign mainOptions "--query".toList ∧ Foreign mainOptions "--output-format".toList :=
  ⟨⟨rfl, by decide⟩, ⟨rfl, by decide⟩, ⟨rfl, by decide⟩⟩

theorem gives_entries (hs : Spelled "--data-source" path source)
    (hf : Spelled "--output-format" "ids" format) :
    List.Forall₂ (Gives filterOptions) (keysEntries path query)
      [source, ["--query=" ++ query], format] := by
  have hw := areWhole_options.1
  obtain ⟨hns, hnq, hnf⟩ := isName_options
  refine .cons ?_ (.cons ?_ (.cons ?_ .nil))
  · exact hs.gives ⟨"data-source", ["--data-source"], .one .text⟩ hns hw rfl rfl rfl
  · exact (spelled_query query).gives ⟨"query", ["--query", "-q"], .one .text⟩ hnq hw rfl rfl rfl
  · exact hf.gives ⟨"output-format", ["--output-format"],
      .one (.oneOf ["console", "json", "csv", "ids"])⟩ hnf hw rfl rfl rfl

theorem readAction_keys (hs : Spelled "--data-source" path source)
    (hf : Spelled "--output-format" "ids" format)
    (hp : pieces.Perm [source, ["--query=" ++ query], format]) :
    readAction "filter" pieces.flatten =
      .ok (.filter (.ofPath path) (.asKeys query), false) := by
  obtain ⟨entries, hpieces, hentries⟩ := List.perm_comp_forall₂ hp (gives_entries hs hf).flip
  have hread := read_of_gives hpieces.flip
  generalize hg : (entries.map fun entry => (entry.1, [entry.2])).reverse = given at hread
  have hperm : given.Perm ((keysEntries path query).map fun entry => (entry.1, [entry.2])) :=
    hg ▸ (List.reverse_perm _).trans (hentries.map _)
  have hkeys : (given.map Prod.fst).Nodup := (hperm.map Prod.fst).nodup_iff.mpr
    (by decide : ["data-source", "query", "output-format"].Nodup)
  have hv := Given.values?_of_perm hperm hkeys
  have hsource : sourceChoice given = .ok (.ofPath path) := by
    simp only [sourceChoice, Given.value?, hv]
    rfl
  have hselection : selection given = .asKeys query := by
    simp only [selection, integerOption, Given.value?, hv]
    rfl
  refine Attempt.bind_ok.mpr ⟨_, hread, Attempt.bind_ok.mpr ⟨_, hsource, ?_⟩⟩
  rw [hselection]

theorem foreign_pieces (hs : Spelled "--data-source" path source)
    (hf : Spelled "--output-format" "ids" format)
    (hp : pieces.Perm [source, ["--query=" ++ query], format]) :
    ∀ argument ∈ pieces.flatten,
      argument ≠ "--" ∧ ∃ token, classify mainOptions argument.toList = .ok token := by
  have hw := areWhole_options.2
  obtain ⟨hns, hnq, hnf⟩ := isName_options
  obtain ⟨hms, hmq, hmf⟩ := foreign_options
  have h : ∀ piece ∈ [source, ["--query=" ++ query], format], ∀ argument ∈ piece,
      argument ≠ "--" ∧ ∃ token, classify mainOptions argument.toList = .ok token :=
    List.forall_mem_cons.mpr ⟨hs.foreign hns hw hms, List.forall_mem_cons.mpr
      ⟨(spelled_query query).foreign hnq hw hmq,
        List.forall_mem_singleton.mpr (hf.foreign hnf hw hmf)⟩⟩
  intro argument hm
  obtain ⟨piece, hpiece, ha⟩ := List.mem_flatten.mp hm
  exact h piece (hp.mem_iff.mp hpiece) argument ha

theorem parse_keys (hs : Spelled "--data-source" path source)
    (hf : Spelled "--output-format" "ids" format)
    (hp : pieces.Perm [source, ["--query=" ++ query], format]) :
    parse ("filter" :: pieces.flatten) = .ok (printKeys path query) := by
  have hr := read_command (show "filter" ≠ "--" by decide) rfl (foreign_pieces hs hf hp)
  exact Attempt.bind_ok.mpr ⟨_, hr, Attempt.bind_ok.mpr ⟨_, readAction_keys hs hf hp, rfl⟩⟩

end

-- ---------------------------------------------------------------------------
-- Running
-- ---------------------------------------------------------------------------

/-- The default settings less the fallback. -/
def strictSettings : Settings := Settings.default.setEngine "fallback_on_error" (.bool false)

/-- Code units of a document: the ones that are escaped, and its characters. -/
def escapedUnits : List Char → List Nat
  | '\\' :: 'u' :: a :: b :: c :: d :: rest => (Json.unitOf? a b c d).getD 0 :: escapedUnits rest
  | '\\' :: c :: rest => c.toNat :: escapedUnits rest
  | c :: rest => c.toNat :: escapedUnits rest
  | [] => []

/-- A JSON source in which surrogates come in pairs and every integer has a
float near to it, beside default settings, and room for lists of scalars. -/
structure Suits (limits : Limits) (files : Files) (path : String) : Prop where
  settings : limits.loadSettings files none = .ok .default
  isJson : SourceKind.ofExtension? (Path.extension path) = some .json
  paired : ∀ text,
    Source.Holds files path (Settings.default.providers.get SourceKind.json.name).fields text →
      Encoding.isPaired (escapedUnits text) = true
  convertible : ∀ kind collection,
    limits.loadWith files path none .default = .ok (kind, collection) →
      ∀ record ∈ collection.records, record.isConvertible = true
  searched : 1 ≤ limits.searched
  printed : 1 ≤ limits.printed

section
variable {limits : Limits} {files : Files} {path query : String} {failure : Failure}
  {kind : SourceKind} {collection : Collection}

theorem isReported_of_loadWith (hj : SourceKind.ofExtension? (Path.extension path) = some .json)
    (h : Source.loadWith files path none .default = .error failure) :
    failure.isReported = true := by
  have hl : ∀ kind, Source.kindOf files path none = .ok kind → ∃ found,
      Source.load files kind path (Settings.default.providers.get kind.name).fields = .ok found := by
    intro kind hk
    rw [Source.kindOf, Source.validate, hj] at hk
    split at hk
    · cases hk
    · cases hk
      have he : Source.encodingOf (Source.encodingName? .json
          (Settings.default.providers.get SourceKind.json.name).fields) = .ok .utf8 := rfl
      exact Source.load_json_total he
  obtain ⟨problem, rfl⟩ := Source.exists_problem hl h
  rfl

theorem validate_of_loadWith {settings : Settings}
    (h : Source.loadWith files path none settings = .ok (kind, collection)) :
    Source.validate files path = .ok kind := by
  rw [Source.loadWith, Source.kindOf] at h
  split at h
  · cases h
  · next hk =>
    obtain ⟨found, -, h⟩ := Attempt.bind_ok.mp h
    cases found with
    | none => cases h
    | some other =>
      cases h
      exact hk

theorem isPresent_of_validate (h : Source.validate files path = .ok kind) :
    files.isPresent path = true := by
  rw [Source.validate] at h
  by_contra hn
  rw [Bool.not_eq_true] at hn
  rw [hn] at h
  cases h

theorem problem?_of_isPresent (query : String) (h : files.isPresent path = true) :
    Action.problem? files (.filter (.ofPath path) (.asKeys query)) = none := by
  have hm : Action.problem?.missing? files (.ofPath path) = none := by
    rw [Action.problem?.missing?, SourceChoice.ofPath, h, Bool.or_true, if_pos rfl]
  rw [Action.problem?, hm]
  rfl

section
variable {columns : Int} {output : List Char} (hd : limits.loadSettings files none = .ok .default)
  (hn : Action.problem? files (.filter (.ofPath path) (.asKeys query)) = none)
include hd hn

theorem run_started :
    runWithin limits files columns (printKeys path query) =
      reported files ((runFilter limits files columns .default (.ofPath path)
        (.asKeys query)).map (Outcome.printed files)) := by
  rw [runWithin, printKeys]
  dsimp only
  rw [hn, hd]
  show reported files (runFilter _ _ _ _ _ _ >>= _) = _
  cases runFilter limits files columns .default (.ofPath path) (.asKeys query) <;> rfl

theorem run_printed
    (h : runFilter limits files columns .default (.ofPath path) (.asKeys query) = .ok output) :
    runWithin limits files columns (printKeys path query) = .ok ⟨0, output, [], files⟩ := by
  rw [run_started hd hn, h]
  rfl

theorem run_failed (hr : failure.isReported = true)
    (h : runFilter limits files columns .default (.ofPath path) (.asKeys query) =
      .error failure) :
    ∃ errors, runWithin limits files columns (printKeys path query) =
      .ok ⟨1, [], errors, files⟩ := by
  refine ⟨("Error: " ++ failure.message ++ "\n").toList, ?_⟩
  rw [run_started hd hn, h]
  exact if_pos hr

theorem run_passed (hr : failure.isReported = false)
    (h : runFilter limits files columns .default (.ofPath path) (.asKeys query) =
      .error failure) :
    runWithin limits files columns (printKeys path query) = .error failure := by
  rw [run_started hd hn, h]
  exact if_neg (Bool.eq_false_iff.mp hr)

end

theorem loadTable_strict (h : limits.loadWith files path none .default = .ok (kind, collection)) :
    loadTable limits files (.ofPath path) strictSettings =
      .ok (.new collection.records .null strictSettings) :=
  Attempt.bind_ok.mpr ⟨_, h, rfl⟩

theorem runFilter_keys {columns : Int} {records : List Record}
    {answer : Except Failure (List Record)}
    (hl : loadTable limits files (.ofPath path) strictSettings =
      .ok (.new records .null strictSettings))
    (ha : (limits.host.apply (.new records .null strictSettings) (some query)).2 = answer) :
    runFilter limits files columns .default (.ofPath path) (.asKeys query) =
      answer.map (keyLines (some "id")) := by
  rw [runFilter, show Settings.default.setEngine _ _ = strictSettings from rfl, hl]
  rcases limits.host.apply_cases (.new records .null strictSettings) (some query) with
    ⟨selected, he⟩ | ⟨failure, he⟩
  · have hk : selected.mapM (Record.lookUp (Table.new records .null strictSettings).keyName) =
        .ok (selected.map (Record.key (some "id"))) :=
      (Limits.keys_near fun _ => rfl).eq
    rw [he] at ha
    obtain rfl : .ok selected = answer := ha
    dsimp only [bind, Except.bind, Selection.asKeys]
    rw [he]
    dsimp only [Table.select, Table.asking]
    rw [hk]
    rfl
  · rw [he] at ha
    obtain rfl : .error failure = answer := ha
    dsimp only [bind, Except.bind, Selection.asKeys]
    rw [he]
    rfl

/-- A source that is not loaded ends the command with code 1, before it is
started or once it is, unless it ends the stack. -/
theorem run_unloaded {columns : Int} (ht : Suits limits files path)
    (h : limits.loadWith files path none .default = .error failure) :
    (failure.isReported = true → ∃ errors,
      runWithin limits files columns (printKeys path query) = .ok ⟨1, [], errors, files⟩) ∧
    (failure.isReported = false → (∃ descent, failure = .stackEnded descent) ∧
      runWithin limits files columns (printKeys path query) = .error failure) := by
  have hl : loadTable limits files (.ofPath path) strictSettings = .error failure :=
    Attempt.bind_error.mpr (.inl h)
  refine ⟨fun hr => ?_, fun hr => ?_⟩
  · cases hp : Action.problem? files (.filter (.ofPath path) (.asKeys query)) with
    | some message =>
      refine ⟨("Error: " ++ message ++ "\n").toList, ?_⟩
      rw [runWithin, printKeys]
      dsimp only
      rw [hp]
      rfl
    | none => exact run_failed ht.settings hp hr (Attempt.bind_error.mpr (.inl hl))
  · rcases Limits.loadWith_error h with ⟨hp, hd⟩ | hs
    · exact ⟨hd, run_passed ht.settings (problem?_of_isPresent query hp) hr
        (Attempt.bind_error.mpr (.inl hl))⟩
    · rw [isReported_of_loadWith ht.isJson hs] at hr
      cases hr

theorem answers_strict (ht : Suits limits files path)
    (h : limits.loadWith files path none .default = .ok (kind, collection)) :
    limits.Answers (.new collection.records .null strictSettings) := by
  have hs := Limits.loadWith_ok h
  have hk : kind = .json := by
    have hv := validate_of_loadWith hs
    rw [Source.validate, ht.isJson] at hv
    split at hv
    · cases hv
    · exact (Except.ok.inj hv).symm
  subst hk
  have hd : limits.Shallow collection.records := fun record hr field hm => by
    have hf := (Source.isFlat_of_load (Source.load_of_loadWith hs) record hr field hm)
    exact ⟨(Value.depth_flat_le hf).trans ht.searched, (Value.depth_flat_le hf).trans ht.printed⟩
  exact Limits.answers_of_shallow rfl rfl rfl hd (ht.convertible _ _ h)

/-- Filtering with the default settings prints nothing and ends with code 1 if
the source is not loaded, or if the query is refused. It prints the key of every
record that a table with the default settings selects, in the order of the
source and each in a line of its own, and ends with code 0 otherwise. Only the
end of the stack is passed on, as the source is loaded or the query compiled. -/
theorem run_printKeys {source format : List String} {pieces : List (List String)} (columns : Int)
    (hs : Spelled "--data-source" path source) (hf : Spelled "--output-format" "ids" format)
    (hp : pieces.Perm [source, ["--query=" ++ query], format]) (ht : Suits limits files path) :
    parse ("filter" :: pieces.flatten) = .ok (printKeys path query) ∧
    (∀ failure, limits.loadWith files path none .default = .error failure →
      (failure.isReported = true → ∃ errors,
        runWithin limits files columns (printKeys path query) = .ok ⟨1, [], errors, files⟩) ∧
      (failure.isReported = false → (∃ descent, failure = .stackEnded descent) ∧
        runWithin limits files columns (printKeys path query) = .error failure)) ∧
    ∀ kind collection, limits.loadWith files path none .default = .ok (kind, collection) →
      let table := Table.new collection.records .null .default
      (limits.Overwhelms 1000 query → runWithin limits files columns (printKeys path query) =
        .error (.stackEnded .compiling)) ∧
      (¬ limits.Overwhelms 1000 query →
        (table.Refuses 1000 query → ∃ errors,
          runWithin limits files columns (printKeys path query) = .ok ⟨1, [], errors, files⟩) ∧
        (¬ table.Refuses 1000 query → ∃ selected, selected.Sublist collection.records ∧
          (limits.host.apply table (some query)).2 = .ok selected ∧ ∃ output,
            runWithin limits files columns (printKeys path query) = .ok ⟨0, output, [], files⟩ ∧
            Text.cut ['\n'] output =
              (selected.map fun record => Json.write false (table.key record)) ++ [[]])) := by
  refine ⟨parse_keys hs hf hp, fun failure => run_unloaded ht, fun kind collection hl => ?_⟩
  have hn := problem?_of_isPresent query
    (isPresent_of_validate (validate_of_loadWith (Limits.loadWith_ok hl)))
  obtain ⟨hdeep, hrest⟩ := Limits.apply_refusing Settings.default (answers_strict ht hl) ⟨rfl, rfl⟩
    rfl rfl (show (1000 : Int) ≤ 4300 by decide) rfl (ht.convertible kind collection hl) query
  refine ⟨fun ho => ?_, fun ho => ⟨fun h => ?_, fun h => ?_⟩⟩
  · exact run_passed ht.settings hn rfl (runFilter_keys (loadTable_strict hl) (hdeep ho))
  · obtain ⟨failure, ha, hr⟩ := (hrest ho).1 h
    exact run_failed ht.settings hn hr (runFilter_keys (loadTable_strict hl) ha)
  · obtain ⟨selected, hsub, ha, hdefault⟩ := (hrest ho).2 h
    refine ⟨selected, hsub, hdefault, _,
      run_printed ht.settings hn (runFilter_keys (loadTable_strict hl) ha), ?_⟩
    refine Report.cut_lines fun line hm => ?_
    obtain ⟨record, -, rfl⟩ := List.mem_map.mp hm
    exact Json.isLine_write _

end

def named : List Record := [[("id", .text "a"), ("name", .text "x")],
  [("id", .text "b"), ("name", .text "y")]]

def namedText : List Char := Report.json true (named.map Value.object)

def namedFiles : Files := ⟨[(["r.json"], (String.ofList namedText).toUTF8)], []⟩

theorem find?_namedFiles :
    namedFiles.find? "r.json" = some (.file (String.ofList namedText).toUTF8) :=
  (Files.find?_plain (by decide) (by decide)).trans rfl

def jsonOptions : Record := (Settings.default.providers.get SourceKind.json.name).fields

theorem holds_namedFiles : Source.Holds namedFiles "r.json" jsonOptions namedText :=
  ⟨rfl, _, .utf8, find?_namedFiles, rfl, Encoding.utf8?_ofList namedText⟩

theorem load_namedFiles : Limits.standard.loadSettings namedFiles none = .ok .default := by
  have h : namedFiles.find? Settings.defaultFile = none :=
    (Files.find?_plain (by decide) (by decide)).trans rfl
  have ht : Settings.storedText? namedFiles none = none := by
    unfold Settings.storedText?
    dsimp only
    rw [h]
  rw [Limits.loadSettings, ht, Settings.load, Files.isPresent, h]
  rfl

theorem loadWith_namedFiles : Limits.standard.loadWith namedFiles "r.json" none .default =
    .ok (.json, ⟨["id", "name"], named⟩) := by
  have hk : Source.kindOf namedFiles "r.json" none = .ok .json := by
    rw [Source.kindOf, Source.validate, Files.isPresent, find?_namedFiles]
    rfl
  have hs : (Value.list (named.map Value.object)).isStorable = true := by decide +kernel
  have hl : Source.load namedFiles .json "r.json" jsonOptions =
        .ok (some ⟨["id", "name"], named⟩) :=
    Source.load_json_iff.mpr ⟨namedText, holds_namedFiles,
      Source.readJson_iff.mpr ⟨_, Json.read?_write hs, rfl⟩⟩
  have ht : Source.jsonText? namedFiles "r.json" jsonOptions = some namedText := by
    rw [Source.jsonText?, find?_namedFiles]
    exact Encoding.utf8?_ofList namedText
  have hc : Limits.standard.checkSource namedFiles .json "r.json" jsonOptions = .ok () := by
    unfold Limits.checkSource
    rw [ht]
    exact Value.checked_iff.mpr (by decide +kernel)
  rw [Limits.loadWith, hk]
  refine Attempt.then_ok.mpr ⟨hc, ?_⟩
  rw [Source.loadWith, hk]
  exact Attempt.bind_ok.mpr ⟨_, hl, rfl⟩

theorem suits_namedFiles : Suits Limits.standard namedFiles "r.json" where
  settings := load_namedFiles
  isJson := rfl
  paired text h := by
    obtain ⟨-, contents, encoding, hf, he, ht⟩ := h
    rw [find?_namedFiles] at hf
    cases hf
    cases he
    obtain rfl : namedText = text :=
      Option.some.inj ((Encoding.utf8?_ofList namedText).symm.trans ht)
    decide +kernel
  convertible kind collection h := by
    rw [loadWith_namedFiles] at h
    cases h
    exact List.all_eq_true.mp (by decide +kernel)
  searched := by decide
  printed := by decide

theorem apply_named : (Limits.standard.host.apply (.new named .null .default) (some "x")).2 =
    .ok [[("id", .text "a"), ("name", .text "x")]] := by
  have hc : ∀ record ∈ named, record.isConvertible = true :=
    List.all_eq_true.mp (by decide +kernel)
  have hd : ∀ record ∈ named, ∀ field ∈ record, field.2.depth ≤ 485 ∧ field.2.depth ≤ 970 := by
    decide +kernel
  have hl : (Table.new named .null .default).limit = .int 1000 := rfl
  have he : Query.exceeds "x".length (Table.new named .null .default).limit = false := by
    rw [hl, Table.exceeds_int]
    rfl
  have ho : ¬ Limits.standard.Overwhelms 1000 "x" := fun ho => absurd ho.structured (by decide)
  have hk : (Table.new named .null .default).engine.filter "x" = .ok [.text "a"] := rfl
  have hs : Limits.standard.Answers (.new named .null .default) :=
    Limits.answers_of_shallow hl rfl rfl hd hc
  rw [hs.apply_of_not_overwhelms ⟨rfl, rfl⟩ hl ho, Table.apply_short _ rfl he hk]
  rfl

theorem refuses_named : ¬ (Table.new named .null .default).Refuses 1000 "x" ∧
    (Table.new named .null .default).Refuses 1000 "a = u OR x" := by
  constructor
  · rintro ⟨-, hl | hf⟩
    · exact absurd hl (by decide)
    · exact absurd hf.1 (by decide)
  · refine ⟨rfl, .inr ⟨rfl, _, List.mem_cons_self, .invalidCondition "x", ?_⟩⟩
    exact Record.satisfies_of_parse rfl Engine.parse_halfStated _

/-- A search prints the key of the record that it finds, a query that fails on
a record prints nothing, and one that is nested too deep ends the stack. -/
theorem run_named :
    parse ["filter", "--query=x", "--output-format", "ids", "--data-source=r.json"] =
      .ok (printKeys "r.json" "x") ∧
    (∃ output, run namedFiles 80 (printKeys "r.json" "x") = .ok ⟨0, output, [], namedFiles⟩ ∧
      Text.cut ['\n'] output = ["\"a\"".toList, []]) ∧
    (∃ errors, run namedFiles 80 (printKeys "r.json" "a = u OR x") =
      .ok ⟨1, [], errors, namedFiles⟩) ∧
    run namedFiles 80 (printKeys "r.json" (String.ofList (grouped 326))) =
      .error (.stackEnded .compiling) := by
  have hs : Spelled "--data-source" "r.json" ["--data-source=r.json"] := .joined
  have hf : Spelled "--output-format" "ids" ["--output-format", "ids"] := .apart (by decide)
  have hp : [["--query=x"], ["--output-format", "ids"], ["--data-source=r.json"]].Perm
      [["--data-source=r.json"], ["--query=" ++ "x"], ["--output-format", "ids"]] := by decide
  have ho (query : String) (h : nesting query.toList = 0) :
      ¬ Limits.standard.Overwhelms 1000 query := fun ho => by
    have hd := ho.deep
    rw [h] at hd
    cases hd
  have hrun (query : String) := (run_printKeys 80 hs hf (List.Perm.refl
    [["--data-source=r.json"], ["--query=" ++ query], ["--output-format", "ids"]])
      suits_namedFiles).2.2 _ _ loadWith_namedFiles
  refine ⟨(run_printKeys 80 hs hf hp suits_namedFiles).1, ?_,
    ((hrun _).2 (ho _ (by decide +kernel))).1 refuses_named.2,
    (hrun _).1 (Limits.standard.overwhelms_grouped (by decide))⟩
  obtain ⟨selected, -, hs, output, hr, ho⟩ :=
    ((hrun "x").2 (ho _ (by decide +kernel))).2 refuses_named.1
  rw [apply_named] at hs
  cases hs
  exact ⟨output, hr, ho⟩

end RecordQuery.Command
