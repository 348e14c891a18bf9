import Mathlib.Data.List.Basic
import Mathlib.Data.List.TakeWhile
import EditScript.Text.Blank

/-!
# Trimming and words

What the blanks in a text decide. The functions of `Text` take a text apart at its blanks; here
each is characterised by how the parts make up the text.

* `Text.Blank`, `Text.Gap`, `Text.Solid`, `Text.Bare`: runs of blanks, words, and texts without
  blanks at their ends.
* `Text.trim_eq_iff`: trimming leaves the bare text between two runs of blanks.
* `Text.Bare.cases`: a bare text is empty, or a word, or a word, a gap and more.
* `Text.splitBlank_word`, `Text.splitBlank_append`: cutting off the first word.
* `Text.Bare.words_eq_singleton_iff`, `Text.Bare.words_eq_pair_iff`: the bare texts of one word,
  and of two.
-/

namespace EditScript.Text

/-- The text has no characters but blanks. It may be empty. -/
def Blank (t : Text) : Prop := ∀ c ∈ t, isBlank c = true

/-- What separates two words: one blank or more. -/
structure Gap (t : Text) : Prop where
  ne_nil : t ≠ []
  blank : Blank t

/-- A word: one character or more, and no blank. -/
structure Solid (t : Text) : Prop where
  ne_nil : t ≠ []
  not_blank : ∀ c ∈ t, isBlank c = false

/-- The text neither starts nor ends with a blank. It may be empty. -/
structure Bare (t : Text) : Prop where
  head : ∀ c ∈ t.head?, isBlank c = false
  last : ∀ c ∈ t.getLast?, isBlank c = false

variable {t before body after word gap rest : Text}

theorem blank_nil : Blank [] := fun _ hc => nomatch hc

theorem bare_nil : Bare [] := ⟨fun _ hc => (nomatch hc), fun _ hc => (nomatch hc)⟩

theorem Gap.exists_cons (h : Gap gap) :
    ∃ b more, gap = b :: more ∧ isBlank b = true ∧ Blank more := by
  obtain ⟨b, more, rfl⟩ := List.exists_cons_of_ne_nil h.ne_nil
  exact ⟨b, more, rfl, h.blank b List.mem_cons_self,
    fun c hc => h.blank c (List.mem_cons_of_mem b hc)⟩

theorem Solid.bare (h : Solid t) : Bare t where
  head c hc := h.not_blank c (List.mem_of_mem_head? hc)
  last c hc := h.not_blank c (List.mem_of_mem_getLast? hc)

/-- A text that starts with a word and ends with a bare text is bare. -/
theorem Solid.bare_append (hw : Solid word) (gap : Text) (hr : Bare rest) (hne : rest ≠ []) :
    Bare (word ++ gap ++ rest) where
  head c hc := by
    refine hw.bare.head c ?_
    rwa [List.append_assoc, List.head?_append_of_ne_nil _ hw.ne_nil] at hc
  last c hc := by
    refine hr.last c ?_
    rwa [List.getLast?_append_of_ne_nil _ hne] at hc

/-- A bare text ends where its part after a gap ends; that part is not empty, or the gap would be
the end. -/
theorem Bare.of_append_gap (hg : Gap gap) (h : Bare (before ++ gap ++ rest)) :
    rest ≠ [] ∧ ∀ c ∈ rest.getLast?, isBlank c = false := by
  have hne : rest ≠ [] := by
    rintro rfl
    have hlast := List.getLast?_eq_some_getLast hg.ne_nil
    have hblank := hg.blank _ (List.getLast_mem hg.ne_nil)
    have hbare := h.last (gap.getLast hg.ne_nil) (by simp [List.getLast?_append, hlast])
    rw [hblank] at hbare
    cases hbare
  exact ⟨hne, fun c hc => h.last c (List.mem_getLast?_append_of_mem_getLast? hc)⟩

/-! ## Trimming -/

theorem trimStart_append (h : Blank before) (t : Text) : trimStart (before ++ t) = trimStart t :=
  List.dropWhile_append_of_pos h

theorem trimStart_eq_self (h : ∀ c ∈ t.head?, isBlank c = false) : trimStart t = t := by
  cases t with
  | nil => rfl
  | cons c t => exact List.dropWhile_cons_of_neg (by simp [h c rfl])

theorem trimStart_eq_nil_iff : trimStart t = [] ↔ Blank t := List.dropWhile_eq_nil_iff

theorem head_trimStart (t : Text) : ∀ c ∈ (trimStart t).head?, isBlank c = false := by
  intro c hc
  have h := List.head?_dropWhile_not isBlank t
  rw [show (t.dropWhile isBlank).head? = some c from hc] at h
  exact h

/-- What `trimStart` leaves out are blanks. -/
theorem exists_trimStart (t : Text) : ∃ before, Blank before ∧ t = before ++ trimStart t :=
  ⟨t.takeWhile isBlank, fun _ hc => List.all_eq_true.1 List.all_takeWhile _ hc,
    List.takeWhile_append_dropWhile.symm⟩

theorem trimEnd_eq (t : Text) : trimEnd t = (trimStart t.reverse).reverse := rfl

theorem Blank.reverse (h : Blank t) : Blank t.reverse := fun c hc => h c (List.mem_reverse.1 hc)

theorem trimEnd_append (ht : ∀ c ∈ t.getLast?, isBlank c = false) (h : Blank after) :
    trimEnd (t ++ after) = t := by
  rw [trimEnd_eq, List.reverse_append, trimStart_append h.reverse, trimStart_eq_self,
    List.reverse_reverse]
  rwa [List.head?_reverse]

theorem last_trimEnd (t : Text) : ∀ c ∈ (trimEnd t).getLast?, isBlank c = false := by
  rw [trimEnd_eq, List.getLast?_reverse]
  exact head_trimStart t.reverse

/-- What `trimEnd` leaves out are blanks. -/
theorem exists_trimEnd (t : Text) : ∃ after, Blank after ∧ t = trimEnd t ++ after := by
  obtain ⟨after, hb, h⟩ := exists_trimStart t.reverse
  refine ⟨after.reverse, hb.reverse, ?_⟩
  rw [trimEnd_eq, ← List.reverse_append, ← h, List.reverse_reverse]

theorem bare_trim (t : Text) : Bare (trim t) where
  head c hc := by
    obtain ⟨after, -, h⟩ := exists_trimEnd (trimStart t)
    refine head_trimStart t c ?_
    rw [h]
    exact List.mem_head?_append_of_mem_head? hc
  last := last_trimEnd (trimStart t)

theorem trim_append (hb : Blank before) (h : Bare body) (ha : Blank after) :
    trim (before ++ body ++ after) = body := by
  have hstart : trimStart (before ++ body ++ after) = trimStart (body ++ after) := by
    rw [List.append_assoc, trimStart_append hb]
  unfold trim
  rw [hstart]
  cases body with
  | nil => rw [trimStart_eq_nil_iff.2 (show Blank ([] ++ after) from ha)]; rfl
  | cons c body =>
    rw [trimStart_eq_self (t := c :: body ++ after) h.head]
    exact trimEnd_append h.last ha

/-- **Trimming leaves what stands between two runs of blanks.** -/
theorem trim_eq_iff : trim t = body ↔
    Bare body ∧ ∃ before after, Blank before ∧ Blank after ∧ t = before ++ body ++ after := by
  constructor
  · rintro rfl
    obtain ⟨before, hb, hstart⟩ := exists_trimStart t
    obtain ⟨after, ha, hend⟩ := exists_trimEnd (trimStart t)
    refine ⟨bare_trim t, before, after, hb, ha, ?_⟩
    rw [List.append_assoc]
    exact hstart.trans (congrArg (before ++ ·) hend)
  · rintro ⟨h, before, after, hb, ha, rfl⟩
    exact trim_append hb h ha

/-- Blanks at the end do not count. -/
theorem trim_append_blank (t : Text) (h : Blank after) : trim (t ++ after) = trim t := by
  obtain ⟨hbare, before, rest, hb, hr, ht⟩ := trim_eq_iff.1 (Eq.refl (trim t))
  have hblank : Blank (rest ++ after) := fun c hc => (List.mem_append.1 hc).elim (hr c) (h c)
  refine trim_eq_iff.2 ⟨hbare, before, rest ++ after, hb, hblank, ?_⟩
  rw [← List.append_assoc, ← ht]

/-- Trimming adds no character. -/
theorem mem_of_mem_trim {c : Char} (h : c ∈ trim t) : c ∈ t := by
  obtain ⟨-, before, after, -, -, ht⟩ := trim_eq_iff.1 (Eq.refl (trim t))
  rw [ht]
  exact List.mem_append_left _ (List.mem_append_right _ h)

theorem length_trim_le (t : Text) : (trim t).length ≤ t.length := by
  obtain ⟨-, before, after, -, -, ht⟩ := trim_eq_iff.1 (Eq.refl (trim t))
  have hlength := congrArg List.length ht
  rw [List.length_append, List.length_append] at hlength
  omega

theorem trim_of_bare (h : Bare t) : trim t = t := by
  have h := trim_append blank_nil h blank_nil
  rwa [List.nil_append, List.append_nil] at h

@[simp] theorem trim_trim (t : Text) : trim (trim t) = trim t := trim_of_bare (bare_trim t)

theorem trim_eq_nil_iff : trim t = [] ↔ trimStart t = [] := by
  rw [trimStart_eq_nil_iff, trim_eq_iff]
  constructor
  · rintro ⟨-, before, after, hb, ha, rfl⟩ c hc
    rw [List.append_nil] at hc
    exact (List.mem_append.1 hc).elim (hb c) (ha c)
  · intro h
    exact ⟨bare_nil, t, [], h, blank_nil, by simp⟩

theorem head?_trim : (trim t).head? = (trimStart t).head? := by
  obtain ⟨after, -, h⟩ := exists_trimEnd (trimStart t)
  cases hbody : trim t with
  | nil => rw [trim_eq_nil_iff.1 hbody]
  | cons c body =>
    rw [h, show trimEnd (trimStart t) = c :: body from hbody]
    rfl

/-! ## The first word -/

theorem splitBlank_word (h : Solid word) : splitBlank word = (word, []) := by
  have hall : ∀ c ∈ word, (!isBlank c) = true := fun c hc => by simp [h.not_blank c hc]
  unfold splitBlank
  rw [List.takeWhile_eq_self_iff.2 hall, List.dropWhile_eq_nil_iff.2 hall]
  rfl

theorem splitBlank_append (h : Solid word) {b : Char} (hb : isBlank b = true) (rest : Text) :
    splitBlank (word ++ b :: rest) = (word, rest) := by
  have hall : ∀ c ∈ word, (!isBlank c) = true := fun c hc => by simp [h.not_blank c hc]
  unfold splitBlank
  rw [List.takeWhile_append_of_pos hall, List.dropWhile_append_of_pos hall,
    List.takeWhile_cons_of_neg (by simp [hb]), List.dropWhile_cons_of_neg (by simp [hb]),
    List.append_nil]
  rfl

/-- Up to its first blank a text has none. -/
theorem exists_blank_or (t : Text) : (∀ c ∈ t, isBlank c = false) ∨
    ∃ word b rest, (∀ c ∈ word, isBlank c = false) ∧ isBlank b = true ∧ t = word ++ b :: rest := by
  induction t with
  | nil => exact .inl fun _ hc => nomatch hc
  | cons c t ih =>
    cases hc : isBlank c with
    | true => exact .inr ⟨[], c, t, fun _ h => (nomatch h), hc, rfl⟩
    | false =>
      rcases ih with h | ⟨word, b, rest, h, hb, rfl⟩
      · exact .inl (List.forall_mem_cons.2 ⟨hc, h⟩)
      · exact .inr ⟨c :: word, b, rest, List.forall_mem_cons.2 ⟨hc, h⟩, hb, rfl⟩

/-- The shapes of a bare text. -/
inductive Shape : Text → Prop
  | empty : Shape []
  | word {word : Text} (h : Solid word) : Shape word
  | more {word gap rest : Text} (hw : Solid word) (hg : Gap gap) (hr : Bare rest)
      (hne : rest ≠ []) : Shape (word ++ gap ++ rest)

/-- **A bare text** is empty, or a word, or a word that is separated from more. -/
theorem Bare.shape (h : Bare t) : Shape t := by
  rcases exists_blank_or t with hall | ⟨word, b, rest, hw, hb, rfl⟩
  · cases t with
    | nil => exact .empty
    | cons c t => exact .word ⟨List.cons_ne_nil c t, hall⟩
  · have hne : word ≠ [] := by
      -- Otherwise the text would start with the blank.
      rintro rfl
      have hhead := h.head b rfl
      rw [hb] at hhead
      cases hhead
    obtain ⟨blanks, hbl, hrest⟩ := exists_trimStart rest
    have hg : Gap (b :: blanks) := ⟨List.cons_ne_nil b blanks, List.forall_mem_cons.2 ⟨hb, hbl⟩⟩
    have heq : word ++ b :: rest = word ++ (b :: blanks) ++ trimStart rest := by
      rw [List.append_assoc, List.cons_append, ← hrest]
    rw [heq] at h ⊢
    obtain ⟨hne', hlast⟩ := Bare.of_append_gap hg h
    exact .more ⟨hne, hw⟩ hg ⟨head_trimStart rest, hlast⟩ hne'

/-! ## Words -/

/-- The words on both sides of a blank are the words of the text. -/
theorem words_append_cons (x : Text) {b : Char} (hb : isBlank b = true) (y : Text) :
    words (x ++ b :: y) = words x ++ words y := by
  unfold words
  rw [List.splitOnP_append_cons x y hb, List.filter_append]

theorem words_nil : words [] = [] := rfl

theorem words_blank_append (h : Blank before) (t : Text) : words (before ++ t) = words t := by
  induction before with
  | nil => rfl
  | cons b before ih =>
    obtain ⟨hb, hbefore⟩ := List.forall_mem_cons.1 h
    have hcons := words_append_cons [] hb (before ++ t)
    rw [List.nil_append, words_nil, List.nil_append, ih hbefore] at hcons
    exact hcons

theorem words_gap (x : Text) (hg : Gap gap) (y : Text) :
    words (x ++ gap ++ y) = words x ++ words y := by
  obtain ⟨b, more, rfl, hb, hmore⟩ := hg.exists_cons
  rw [List.append_assoc, List.cons_append, words_append_cons x hb, words_blank_append hmore]

theorem words_word (h : Solid word) : words word = [word] := by
  unfold words
  rw [List.splitOnP_eq_singleton h.not_blank]
  simp [h.ne_nil]

theorem Bare.words_ne_nil (h : Bare t) (hne : t ≠ []) : words t ≠ [] := by
  cases h.shape with
  | empty => exact absurd rfl hne
  | word hw => simp [words_word hw]
  | more hw hg => rw [words_gap _ hg, words_word hw]; exact List.cons_ne_nil _ _

theorem Bare.words_eq_singleton_iff (h : Bare t) : words t = [word] ↔ Solid word ∧ t = word := by
  constructor
  · intro heq
    cases h.shape with
    | empty => cases heq
    | word hw =>
      rw [words_word hw, List.singleton_inj] at heq
      exact ⟨heq ▸ hw, heq⟩
    | more hw hg hr hne =>
      rw [words_gap _ hg, words_word hw, List.singleton_append, List.cons.injEq] at heq
      exact absurd heq.2 (hr.words_ne_nil hne)
  · rintro ⟨hw, rfl⟩
    exact words_word hw

theorem Bare.words_eq_pair_iff (h : Bare t) {first second : Text} :
    words t = [first, second] ↔
      Solid first ∧ Solid second ∧ ∃ gap, Gap gap ∧ t = first ++ gap ++ second := by
  constructor
  · intro heq
    cases h.shape with
    | empty => cases heq
    | word hw => rw [words_word hw] at heq; cases heq
    | more hw hg hr =>
      rw [words_gap _ hg, words_word hw, List.singleton_append, List.cons.injEq,
        hr.words_eq_singleton_iff] at heq
      obtain ⟨rfl, hs, rfl⟩ := heq
      exact ⟨hw, hs, _, hg, rfl⟩
  · rintro ⟨hf, hs, gap, hg, rfl⟩
    rw [words_gap _ hg, words_word hf, words_word hs]
    rfl

end EditScript.Text
