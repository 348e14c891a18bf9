import EditScript.Proofs.Text.Blank

/-!
# The words of a text, in order

Which words a text consists of, said by how it is put together and without the function that finds
them.

* `Text.Opens`: a text that opens with a word. After the word it ends, or a blank follows.
* `Text.Worded`: the words of a text, one after the other.
* `Text.blank_or_opens`: a text has a first word unless it is all blanks.
* `Text.Opens.trim`: the same text without the blanks around it.
* `Text.worded_iff`: the words that `Text.words` finds are those that the text consists of.
-/

namespace EditScript.Text

/-- The text consists of blanks, a word and the rest; the word ends where the rest starts. -/
inductive Opens : Text → Text → Text → Prop
  | intro {before word rest : Text} (hb : Blank before) (hw : Solid word)
      (hr : ∀ c ∈ rest.head?, isBlank c = true) : Opens (before ++ word ++ rest) word rest

/-- The words of a text, in order. Between them and around them there are only blanks. -/
inductive Worded : Text → List Text → Prop
  | blank {t : Text} (h : Blank t) : Worded t []
  | word {t word rest : Text} {ws : List Text} (h : Opens t word rest) (hr : Worded rest ws) :
      Worded t (word :: ws)

variable {t word rest : Text} {ws : List Text}

theorem blank_singleton {c : Char} (h : isBlank c = true) : Blank [c] :=
  fun _ hc => List.mem_singleton.1 hc ▸ h

theorem Opens.solid (h : Opens t word rest) : Solid word := by
  cases h with
  | intro _ hw _ => exact hw

theorem Opens.length_lt (h : Opens t word rest) : rest.length < t.length := by
  cases h with
  | @intro before _ _ _ hw _ =>
    have hpos := List.length_pos_of_ne_nil hw.ne_nil
    simp only [List.length_append]
    omega

/-- A text has a first word unless it is all blanks. -/
theorem blank_or_opens (t : Text) : Blank t ∨ ∃ word rest, Opens t word rest := by
  obtain ⟨hbare, before, after, hb, ha, ht⟩ := trim_eq_iff.1 (Eq.refl (trim t))
  have hshape := hbare.shape
  generalize trim t = body at hshape ht
  cases hshape with
  | empty =>
    left
    rw [ht, List.append_nil]
    exact fun c hc => (List.mem_append.1 hc).elim (hb c) (ha c)
  | word hw =>
    right
    refine ⟨body, after, ?_⟩
    rw [ht]
    exact .intro hb hw fun c hc => ha c (List.mem_of_mem_head? hc)
  | @more word gap rest hw hg _ _ =>
    right
    obtain ⟨b, more, rfl, hblank, -⟩ := hg.exists_cons
    refine ⟨word, b :: more ++ rest ++ after, ?_⟩
    have hsplit : t = before ++ word ++ (b :: more ++ rest ++ after) := by
      rw [ht]
      simp only [List.append_assoc]
    rw [hsplit]
    exact .intro hb hw fun c hc => Option.some.inj hc ▸ hblank

/-- Without the blanks around it, the text is the word alone, or the word, a gap, and what else
there is without the blanks around that. -/
theorem Opens.trim (h : Opens t word rest) : (Text.trim rest = [] ∧ Text.trim t = word) ∨
    ∃ gap, Gap gap ∧ Text.trim t = word ++ gap ++ Text.trim rest := by
  cases h with
  | @intro before word rest hb hw hr =>
    by_cases hrest : Text.trim rest = []
    · have hblank : Blank rest := trimStart_eq_nil_iff.1 (trim_eq_nil_iff.1 hrest)
      exact .inl ⟨hrest, trim_append hb hw.bare hblank⟩
    · obtain ⟨hbare, gap, after, hg, ha, hsplit⟩ := trim_eq_iff.1 (Eq.refl (Text.trim rest))
      generalize Text.trim rest = args at hrest hbare hsplit
      have hgap : gap ≠ [] := by
        -- Otherwise the rest would start with a character of the next word.
        rintro rfl
        obtain ⟨c, more, rfl⟩ := List.exists_cons_of_ne_nil hrest
        have hsolid := hbare.head c rfl
        rw [hr c (by rw [hsplit]; rfl)] at hsolid
        cases hsolid
      have hbody : Bare (word ++ gap ++ args) := hw.bare_append gap hbare hrest
      refine .inr ⟨gap, ⟨hgap, hg⟩, ?_⟩
      have heq : before ++ word ++ rest = before ++ (word ++ gap ++ args) ++ after := by
        rw [hsplit]
        simp only [List.append_assoc]
      rw [heq]
      exact trim_append hb hbody ha

/-! ## All words -/

theorem words_of_blank (h : Blank t) : words t = [] := by
  have hwords := words_blank_append h []
  rwa [List.append_nil] at hwords

theorem Opens.words (h : Opens t word rest) : Text.words t = word :: Text.words rest := by
  cases h with
  | @intro before word rest hb hw hr =>
    rw [List.append_assoc, words_blank_append hb]
    cases rest with
    | nil => rw [List.append_nil, words_word hw]; rfl
    | cons b more =>
      have hblank : isBlank b = true := hr b rfl
      have hmore : Text.words (b :: more) = Text.words more :=
        words_blank_append (blank_singleton hblank) more
      rw [words_append_cons word hblank, words_word hw, hmore]
      rfl

theorem Worded.words_eq (h : Worded t ws) : words t = ws := by
  induction h with
  | blank h => exact words_of_blank h
  | word h _ ih => rw [h.words, ih]

/-- By induction on the length: the rest after the first word is shorter. -/
theorem worded_words (t : Text) : Worded t (words t) := by
  induction hn : t.length using Nat.strongRecOn generalizing t with
  | ind n ih =>
    rcases blank_or_opens t with h | ⟨word, rest, h⟩
    · rw [words_of_blank h]
      exact .blank h
    · rw [h.words]
      exact .word h (ih rest.length (hn ▸ h.length_lt) rest rfl)

/-- **The words that are found** are those that the text consists of. -/
theorem worded_iff : Worded t ws ↔ words t = ws :=
  ⟨Worded.words_eq, fun h => h ▸ worded_words t⟩

theorem Worded.solid (h : Worded t ws) : ∀ w ∈ ws, Solid w := by
  induction h with
  | blank => exact fun _ hw => nomatch hw
  | word h _ ih => exact List.forall_mem_cons.2 ⟨h.solid, ih⟩

/-- The blanks around a text are no part of its words. -/
theorem words_trim (t : Text) : words (trim t) = words t := by
  obtain ⟨-, before, after, hb, ha, ht⟩ := trim_eq_iff.1 (Eq.refl (trim t))
  have hfront : words t = words (trim t ++ after) := by
    conv_lhs => rw [ht, List.append_assoc, words_blank_append hb]
  rw [hfront]
  by_cases hafter : after = []
  · rw [hafter, List.append_nil]
  · have hgap := words_gap (trim t) ⟨hafter, ha⟩ []
    rwa [List.append_nil, words_nil, List.append_nil, eq_comm] at hgap

end EditScript.Text
