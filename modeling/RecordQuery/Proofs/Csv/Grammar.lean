import RecordQuery.Csv.Rows

/-!
# The grammar of separated fields

Commas separate the fields of a row, and a carriage return with a line feed
ends it; the last row may lack its end. A field that holds no comma, no quote
and no character of a line end may stand as it is, and any field may stand in
quotes, where each of its own quotes is written twice.

A text has at most one reading. Rows that hold a field each are read back as
they were written, whatever the fields hold; a row without fields is not, as
an empty line holds one empty field.
-/

namespace RecordQuery.Csv

-- ---------------------------------------------------------------------------
-- Grammar
-- ---------------------------------------------------------------------------

def isBare (c : Char) : Bool := c != ',' && c != '"' && c != '\r' && c != '\n'

/-- What follows an opening quote, the closing one included, and the field it
stands for. -/
inductive QuotedText : List Char → List Char → Prop
  | close : QuotedText ['"'] []
  | char : c ≠ '"' → QuotedText text field → QuotedText (c :: text) (c :: field)
  | quote : QuotedText text field → QuotedText ('"' :: '"' :: text) ('"' :: field)

inductive FieldText : List Char → List Char → Prop
  | bare : (∀ c ∈ field, isBare c = true) → FieldText field field
  | quoted : QuotedText text field → FieldText ('"' :: text) field

inductive RowText : List Char → List (List Char) → Prop
  | last : FieldText text field → RowText text [field]
  | next : FieldText text field → RowText rest fields →
    RowText (text ++ ',' :: rest) (field :: fields)

inductive TableText : List Char → List (List (List Char)) → Prop
  | nil : TableText [] []
  | unended : RowText text fields → text ≠ [] → TableText text [fields]
  | row : RowText text fields → TableText rest rows →
    TableText (text ++ '\r' :: '\n' :: rest) (fields :: rows)

-- ---------------------------------------------------------------------------
-- One reading
-- ---------------------------------------------------------------------------

variable {first second field other rest tail : List Char}

theorem QuotedText.unique (h : QuotedText first field) (ho : QuotedText second other)
    (ht : rest.head? ≠ some '"') (hs : tail.head? ≠ some '"')
    (he : first ++ rest = second ++ tail) : field = other ∧ rest = tail := by
  induction h generalizing second other with
  | close =>
    cases ho with
    | close => exact ⟨rfl, (List.cons.inj he).2⟩
    | char hc _ => exact absurd (List.cons.inj he).1.symm hc
    | quote _ =>
      obtain ⟨-, rfl⟩ := List.cons.inj he
      exact absurd rfl ht
  | char hc _ ih =>
    cases ho with
    | close => exact absurd (List.cons.inj he).1 hc
    | char _ ho =>
      obtain ⟨rfl, hc⟩ := List.cons.inj he
      obtain ⟨rfl, hr⟩ := ih ho hc
      exact ⟨rfl, hr⟩
    | quote _ => exact absurd (List.cons.inj he).1 hc
  | quote _ ih =>
    cases ho with
    | close =>
      obtain ⟨-, rfl⟩ := List.cons.inj he
      exact absurd rfl hs
    | char hc _ => exact absurd (List.cons.inj he).1.symm hc
    | quote ho =>
      obtain ⟨rfl, hr⟩ := ih ho (List.cons.inj (List.cons.inj he).2).2
      exact ⟨rfl, hr⟩

/-- What may follow a field: a comma, the end of a row or nothing. -/
def EndsField (rest : List Char) : Prop := ∀ c ∈ rest.head?, c = ',' ∨ c = '\r'

theorem EndsField.head?_ne (h : EndsField rest) : rest.head? ≠ some '"' := fun hq =>
  (h '"' hq).elim (by decide) (by decide)

theorem EndsField.takeWhile (h : EndsField rest) (hb : ∀ c ∈ field, isBare c = true) :
    (field ++ rest).takeWhile isBare = field := by
  rw [List.takeWhile_append_of_pos hb]
  cases rest with
  | nil => simp
  | cons c rest =>
    have hc : isBare c = false := by
      rcases h c rfl with rfl | rfl <;> rfl
    rw [List.takeWhile_cons_of_neg (by simp [hc]), List.append_nil]

theorem EndsField.ne_quoted (h : EndsField rest) (hb : ∀ c ∈ field, isBare c = true) :
    field ++ rest ≠ '"' :: tail := by
  intro he
  cases field with
  | nil => exact h.head?_ne (by rw [show rest = _ from he]; rfl)
  | cons c field =>
    obtain ⟨rfl, -⟩ := List.cons.inj he
    exact absurd (hb '"' List.mem_cons_self) (by decide)

theorem FieldText.unique (h : FieldText first field) (ho : FieldText second other)
    (ht : EndsField rest) (hs : EndsField tail) (he : first ++ rest = second ++ tail) :
    field = other ∧ rest = tail := by
  cases h with
  | bare hb =>
    cases ho with
    | bare hc =>
      have hf := (ht.takeWhile hb).symm.trans
        ((congrArg (List.takeWhile isBare) he).trans (hs.takeWhile hc))
      exact ⟨hf, List.append_cancel_left (hf ▸ he)⟩
    | quoted _ => exact absurd he (ht.ne_quoted hb)
  | quoted hq =>
    cases ho with
    | bare hc => exact absurd he.symm (hs.ne_quoted hc)
    | quoted ho => exact hq.unique ho ht.head?_ne hs.head?_ne (List.cons.inj he).2

theorem endsField_comma : EndsField (',' :: rest) := fun _ h =>
  .inl (Option.some.inj h).symm

/-- What may follow a row: its end or nothing. -/
def EndsRow (rest : List Char) : Prop := ∀ c ∈ rest.head?, c = '\r'

theorem EndsRow.endsField (h : EndsRow rest) : EndsField rest := fun c hc => .inr (h c hc)

theorem EndsRow.ne_comma (h : EndsRow rest) : rest ≠ ',' :: tail := by
  rintro rfl
  exact absurd (h ',' rfl) (by decide)

theorem endsRow_nil : EndsRow [] := fun _ h => (nomatch h)

theorem endsRow_return : EndsRow ('\r' :: rest) := fun _ h => (Option.some.inj h).symm

variable {fields others : List (List Char)}

theorem RowText.unique (h : RowText first fields) (ho : RowText second others)
    (ht : EndsRow rest) (hs : EndsRow tail) (he : first ++ rest = second ++ tail) :
    fields = others ∧ rest = tail := by
  induction h generalizing second others with
  | last hf =>
    cases ho with
    | last hg =>
      obtain ⟨rfl, hr⟩ := hf.unique hg ht.endsField hs.endsField he
      exact ⟨rfl, hr⟩
    | next hg _ =>
      rw [List.append_assoc] at he
      exact absurd (hf.unique hg ht.endsField endsField_comma he).2 ht.ne_comma
  | next hf _ ih =>
    rw [List.append_assoc] at he
    cases ho with
    | last hg => exact absurd (hf.unique hg endsField_comma hs.endsField he).2.symm hs.ne_comma
    | next hg hr =>
      rw [List.append_assoc] at he
      obtain ⟨rfl, hc⟩ := hf.unique hg endsField_comma endsField_comma he
      obtain ⟨rfl, ht⟩ := ih hr (List.cons.inj hc).2
      exact ⟨rfl, ht⟩

variable {text : List Char} {rows found : List (List (List Char))}

theorem TableText.unique (h : TableText text rows) (ho : TableText text found) :
    rows = found := by
  generalize hs : text = other at ho
  induction h generalizing found other with
  | nil =>
    cases ho with
    | nil => rfl
    | unended _ hn => exact absurd hs.symm hn
    | row _ _ => simp at hs
  | unended hr hn =>
    cases ho with
    | nil => exact absurd hs hn
    | unended hw _ =>
      have he := congrArg (· ++ []) hs
      rw [(hr.unique hw endsRow_nil endsRow_nil he).1]
    | row hw _ =>
      have he := (hr.unique hw endsRow_nil endsRow_return (by rw [List.append_nil, hs])).2
      cases he
  | row hr _ ih =>
    cases ho with
    | nil => simp at hs
    | unended hw _ =>
      have he := (hr.unique hw endsRow_return endsRow_nil (by rw [List.append_nil, hs])).2
      cases he
    | row hw ho =>
      obtain ⟨rfl, he⟩ := hr.unique hw endsRow_return endsRow_return hs
      obtain rfl := ih _ (List.cons.inj (List.cons.inj he).2).2 ho
      rfl

-- ---------------------------------------------------------------------------
-- Written rows
-- ---------------------------------------------------------------------------

theorem quotedText_quoted (field : List Char) :
    QuotedText (field.flatMap (fun c => if c == '"' then ['"', '"'] else [c]) ++ ['"']) field := by
  induction field with
  | nil => exact .close
  | cons c field ih =>
    rw [List.flatMap_cons, List.append_assoc]
    by_cases hc : c = '"'
    · subst hc
      exact .quote ih
    · rw [if_neg (by simpa using hc)]
      exact .char hc ih

theorem fieldText_quoted (field : List Char) : FieldText (quoted field) field :=
  .quoted (quotedText_quoted field)

theorem fieldText_writeField (field : List Char) : FieldText (writeField field) field := by
  unfold writeField
  split
  · exact fieldText_quoted field
  · next hn =>
    refine .bare fun c hc => ?_
    have hq := List.any_eq_false.mp (Bool.eq_false_iff.mpr hn) c hc
    simpa [isBare, and_assoc] using hq

theorem rowText_writeFields (h : fields ≠ []) :
    RowText ([','].intercalate (fields.map writeField)) fields := by
  induction fields with
  | nil => exact absurd rfl h
  | cons field rest ih =>
    cases rest with
    | nil =>
      rw [List.map_singleton, List.intercalate_singleton]
      exact .last (fieldText_writeField field)
    | cons next rest =>
      rw [List.map_cons, List.map_cons, List.intercalate_cons_cons, List.append_assoc]
      exact .next (fieldText_writeField field) (ih (List.cons_ne_nil next rest))

theorem exists_writeRow (h : fields ≠ []) :
    ∃ text, RowText text fields ∧ writeRow fields = text ++ ['\r', '\n'] := by
  refine ⟨_, ?_, rfl⟩
  split
  · next he =>
    rw [beq_iff_eq.mp he]
    exact .last (fieldText_quoted [])
  · exact rowText_writeFields h

theorem tableText_writeRows (h : ∀ fields ∈ rows, fields ≠ []) :
    TableText (writeRows rows) rows := by
  induction rows with
  | nil => exact .nil
  | cons fields rows ih =>
    obtain ⟨hf, hr⟩ := List.forall_mem_cons.mp h
    obtain ⟨text, ht, hw⟩ := exists_writeRow hf
    rw [writeRows, List.flatMap_cons, hw, List.append_assoc]
    exact .row ht (ih hr)

theorem tableText_writeRows_iff (h : ∀ fields ∈ rows, fields ≠ []) :
    TableText (writeRows rows) found ↔ found = rows :=
  ⟨fun hf => hf.unique (tableText_writeRows h), fun he => he.symm ▸ tableText_writeRows h⟩

end RecordQuery.Csv
