import EditScript.Proofs.Json.Layout

/-!
# Formats that lose nothing

A format writes the values of a type as JSON and reads them back. What it has to keep is said about
JSON values first, and then about documents.

* `Json.Faithful`: reading undoes writing, what is written can stand in a document, and what is
  read can be written. Texts, offsets, truth values, lists and optional texts are such formats.
* `Json.load`, `Json.resave`: reading a document, and writing down again what was read.
* `Json.Survives`, `Json.Faithful.survives`: values survive in documents of either layout, and a
  document that has been written once stays as it is.
-/

namespace EditScript.Json

variable {α : Type} {write : α → Json} {read? : Json → Option α} {Fits : α → Prop}

/-- Reading undoes writing for the values that fit, and no others are ever read. -/
structure Faithful (write : α → Json) (read? : Json → Option α) (Fits : α → Prop) : Prop where
  read?_write : ∀ a, Fits a → read? (write a) = some a
  /-- No number is too large to stand in a document. -/
  written_write : ∀ a, Fits a → (write a).written = write a
  fits_of_read? : ∀ v a, read? v = some a → Fits a

/-! ## Parts of a format -/

theorem offset?_nat {n : Nat} (h : n < Text.offsetLimit) : (nat n).offset? = some n := if_pos h

theorem lt_of_offset? {v : Json} {n : Nat} (h : v.offset? = some n) : n < Text.offsetLimit := by
  unfold offset? at h
  split at h
  · split at h
    · cases h
      assumption
    · cases h
  · cases h

/-- The items of an array are read one by one. -/
theorem Faithful.list (hf : Faithful write read? Fits) :
    Faithful (fun as => .array (as.map write)) (list? read?) (fun as => ∀ a ∈ as, Fits a) where
  read?_write as h := by
    show (as.map write).mapM read? = some as
    induction as with
    | nil => rfl
    | cons a as ih =>
      obtain ⟨ha, has⟩ := List.forall_mem_cons.1 h
      simp [hf.read?_write a ha, ih has]
  written_write as h := by
    show array (itemsWritten (as.map write)) = array (as.map write)
    rw [itemsWritten_eq_map, List.map_map]
    exact congrArg array (List.map_congr_left fun a ha => hf.written_write a (h a ha))
  fits_of_read? v as h := by
    cases v with
    | array items =>
      replace h : items.mapM read? = some as := h
      induction items generalizing as with
      | nil =>
        cases h
        exact fun _ ha => nomatch ha
      | cons v items ih =>
        rw [List.mapM_cons] at h
        obtain ⟨a, ha, h⟩ := Option.bind_eq_some_iff.1 h
        obtain ⟨rest, hrest, h⟩ := Option.bind_eq_some_iff.1 h
        cases h
        exact List.forall_mem_cons.2 ⟨hf.fits_of_read? v a ha, ih rest hrest⟩
    | _ => cases h

theorem faithful_text : Faithful string text? (fun _ => True) where
  read?_write _ _ := rfl
  written_write _ _ := rfl
  fits_of_read? _ _ _ := trivial

/-- A text or `null`. -/
theorem orNull?_elim (t : Option Text) : orNull? text? (t.elim null string) = some t := by
  cases t <;> rfl

theorem written_elim (t : Option Text) : (t.elim null string).written = t.elim null string := by
  cases t <;> rfl

theorem texts?_write (ts : List Text) : list? text? (.array (ts.map string)) = some ts :=
  faithful_text.list.read?_write ts fun _ _ => trivial

theorem written_texts (ts : List Text) :
    (array (ts.map string)).written = .array (ts.map string) :=
  faithful_text.list.written_write ts fun _ _ => trivial

/-! ## Documents -/

/-- What a document stands for. -/
def load (read? : Json → Option α) (document : Text) : Option α := (parse? document).bind read?

/-- The document that is written when a document is read and written again. -/
def resave (write : α → Json) (read? : Json → Option α) (layout : Layout) (document : Text) :
    Option Text :=
  (load read? document).map fun a => layout.text (write a)

/-- Values survive in documents: each that fits is read from the document that it is written as,
whatever the layout; every value that is read fits; and a document that has been read and written
again does not change when that is done once more. -/
structure Survives (write : α → Json) (read? : Json → Option α) (Fits : α → Prop) : Prop where
  load_text : ∀ a, Fits a → ∀ layout : Layout, load read? (layout.text (write a)) = some a
  fits_of_load : ∀ document a, load read? document = some a → Fits a
  resave_resave : ∀ (layout : Layout) document again,
    resave write read? layout document = some again →
      resave write read? layout again = some again

theorem Faithful.load_text (hf : Faithful write read? Fits) {a : α} (h : Fits a)
    (layout : Layout) : load read? (layout.text (write a)) = some a := by
  unfold load
  rw [parse?_text, hf.written_write a h]
  exact hf.read?_write a h

theorem Faithful.fits_of_load (hf : Faithful write read? Fits) {document : Text} {a : α}
    (h : load read? document = some a) : Fits a := by
  obtain ⟨v, -, hv⟩ := Option.bind_eq_some_iff.1 h
  exact hf.fits_of_read? v a hv

/-- **Values of a faithful format survive** in documents. -/
theorem Faithful.survives (hf : Faithful write read? Fits) : Survives write read? Fits where
  load_text a h layout := hf.load_text h layout
  fits_of_load document a h := hf.fits_of_load h
  resave_resave layout document again h := by
    obtain ⟨a, ha, rfl⟩ := Option.map_eq_some_iff.1 h
    unfold resave
    rw [hf.load_text (hf.fits_of_load ha) layout]
    rfl

end EditScript.Json
