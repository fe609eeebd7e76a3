import Mathlib
import RecordQuery.Files

/-!
# Written files

A file that could be written is found under the same written path, with what
was written. Every path that led through folders before still does. A name
without slashes leads to what the working folder holds under it.
-/

namespace RecordQuery.Files

variable {files saved : Files} {path : Path} {contents : ByteArray}

-- ---------------------------------------------------------------------------
-- Writing
-- ---------------------------------------------------------------------------

theorem lookup_put (path : Path) (contents : ByteArray) (entries : List (Path × ByteArray)) :
    (put path contents entries).lookup path = some contents := by
  induction entries with
  | nil => simp [put]
  | cons entry rest ih =>
    obtain ⟨other, old⟩ := entry
    by_cases h : other = path
    · simp [put, h]
    · simp [put, h, List.lookup_cons, beq_false_of_ne (Ne.symm h), ih]

theorem exists_mem_put {entries : List (Path × ByteArray)} {entry : Path × ByteArray}
    (h : entry ∈ entries) (path : Path) (contents : ByteArray) :
    ∃ kept ∈ put path contents entries, kept.1 = entry.1 := by
  induction entries with
  | nil => cases h
  | cons first rest ih =>
    obtain ⟨other, old⟩ := first
    rw [put]
    split
    · next he =>
      obtain rfl := eq_of_beq he
      rcases List.mem_cons.mp h with rfl | h
      · exact ⟨_, List.mem_cons_self, rfl⟩
      · exact ⟨entry, List.mem_cons_of_mem _ h, rfl⟩
    · rcases List.mem_cons.mp h with rfl | h
      · exact ⟨_, List.mem_cons_self, rfl⟩
      · obtain ⟨kept, hk, he⟩ := ih h
        exact ⟨kept, List.mem_cons_of_mem _ hk, he⟩

theorem isFolder_add {folder : Path} (h : files.isFolder folder = true) :
    (files.add path contents).isFolder folder = true := by
  rw [isFolder, Bool.or_eq_true] at h ⊢
  refine h.imp id fun h => ?_
  obtain ⟨entry, he, hp⟩ := List.any_eq_true.mp h
  obtain ⟨kept, hk, hpath⟩ := exists_mem_put he path contents
  exact List.any_eq_true.mpr ⟨kept, hk, hpath ▸ hp⟩

theorem follow_add {start target : Path} {parts : List String}
    (h : files.follow start parts = some target) :
    (files.add path contents).follow start parts = some target := by
  induction parts generalizing start with
  | nil => exact h
  | cons part parts ih =>
    rw [follow] at h ⊢
    split at h
    · next hf =>
      rw [if_pos (isFolder_add hf)]
      exact ih h
    · cases h

theorem resolve?_add {written : String} {target : Path} (h : files.resolve? written = some target) :
    (files.add path contents).resolve? written = some target := by
  obtain ⟨⟨start, parts⟩, hr, hf⟩ := Option.bind_eq_some_iff.mp h
  exact Option.bind_eq_some_iff.mpr ⟨_, hr, follow_add hf⟩

theorem find?_write? {written : String} (h : files.write? written contents = some saved) :
    saved.find? written = some (.file contents) := by
  obtain ⟨path, hp, h⟩ := Option.bind_eq_some_iff.mp h
  split at h
  · cases h
  · cases h
    have hn : (files.add path contents).node? path = some (.file contents) := by
      rw [node?, add, lookup_put]
    exact Option.bind_eq_some_iff.mpr ⟨path, resolve?_add hp, hn⟩

-- ---------------------------------------------------------------------------
-- Names
-- ---------------------------------------------------------------------------

theorem splitOnAux_plain (before after : List Char) (h : '/' ∉ after) :
    String.splitOnAux (String.ofList (before ++ after)) "/" 0 ⟨String.utf8Len before⟩ 0 [] =
      [String.ofList (before ++ after)] := by
  induction after generalizing before with
  | nil =>
    have he := (String.atEnd_of_valid before []).mpr rfl
    have hx := String.extract_of_valid [] before []
    rw [String.splitOnAux, if_pos he]
    simpa using hx
  | cons c after ih =>
    obtain ⟨hc, hr⟩ := not_or.mp (fun hm => h (List.mem_cons.mpr hm))
    have he : ¬ String.Pos.Raw.atEnd (String.ofList (before ++ c :: after))
        ⟨String.utf8Len before⟩ = true := fun he =>
      List.cons_ne_nil _ _ ((String.atEnd_of_valid before (c :: after)).mp he)
    have hg : String.Pos.Raw.get (String.ofList (before ++ c :: after))
        ⟨String.utf8Len before⟩ = c := String.get_of_valid before (c :: after)
    have hs : String.Pos.Raw.get "/" 0 = '/' := String.get_of_valid [] ['/']
    have hi := ih (before ++ [c]) hr
    simp only [List.append_assoc, List.singleton_append, String.utf8Len_append,
      String.utf8Len_cons, String.utf8Len_nil, Nat.zero_add] at hi
    rw [String.splitOnAux, if_neg he, hg, hs, if_neg (by simpa using Ne.symm hc)]
    show String.splitOnAux _ "/" 0 (String.Pos.Raw.next _ ⟨String.utf8Len before⟩) 0 [] = _
    rw [String.next_of_valid before c after, hi]

theorem parts_plain {name : String} (h : '/' ∉ name.toList) : Path.parts name = [name] := by
  have hs := splitOnAux_plain [] name.toList h
  rw [List.nil_append, String.ofList_toList] at hs
  exact hs

/-- A name that leads nowhere else is looked for in the working folder. -/
theorem find?_plain {name : String} (h : '/' ∉ name.toList) (hn : name ∉ ["", ".", ".."]) :
    files.find? name = files.node? [name] := by
  simp only [List.mem_cons, List.not_mem_nil, or_false, not_or] at hn
  obtain ⟨he, hd, hu⟩ := hn
  have hr : Path.route? name = some ([], [name]) := by
    unfold Path.route?
    rw [parts_plain h]
    split
    · next h => exact absurd (List.cons.inj h).1 he
    · next h => exact absurd (List.cons.inj h).1 he
    · rfl
  have hs : Path.step [] name = [name] := by
    rw [Path.step, if_neg (by simp [he, hd]), if_neg (by simpa using hu), List.nil_append]
  have hf : files.isFolder [] = true := rfl
  rw [find?, resolve?, hr]
  show (files.follow [] [name] >>= _) = _
  rw [follow, if_pos hf, hs]
  rfl

-- ---------------------------------------------------------------------------
-- One file
-- ---------------------------------------------------------------------------

def single (contents : ByteArray) : Files := ⟨[(["r"], contents)], []⟩

theorem write?_single (contents : ByteArray) :
    empty.write? "r" contents = some (single contents) := by
  cbv

theorem find?_single (contents : ByteArray) :
    (single contents).find? "r" = some (.file contents) :=
  find?_write? (write?_single contents)

end RecordQuery.Files
