import EditScript.Proofs.Text.Numeral
import EditScript.Proofs.Toml.Strings

/-!
# TOML values

What is written for strings, integers, truth values and arrays of these is read back, whatever goes
on after it.

* `Toml.Flat`, `Toml.Plain`: the values that are meant. An integer has to fit 64 bits with a sign.
* `Toml.ofWord?_writeInteger`: an integer, with the limits of the format.
* `Toml.Flat.value?_write`: a value without parts; its first character tells what kind it is.
* `Toml.items?_writeItems`: the items of an array on lines of their own, by induction on the items.
* `Toml.Plain.value?_write`: any of the values.
-/

namespace EditScript.Toml

/-- A value without parts that can be written. -/
inductive Flat : Toml → Prop
  | string (t : Text) : Flat (.string t)
  | integer {n : Int} (hlow : -Text.signedLimit ≤ n) (hhigh : n < Text.signedLimit) :
      Flat (.integer n)
  | boolean (b : Bool) : Flat (.boolean b)

/-- A value that can be written: one without parts, or an array of such. -/
inductive Plain : Toml → Prop
  | flat {v : Toml} (h : Flat v) : Plain v
  | array {items : List Toml} (h : ∀ v ∈ items, Flat v) : Plain (.array items)

variable {c : Char} {word rest t : Text} {v : Toml} {items : List Toml} {n : Int}

/-! ## What is written -/

theorem write_string (t : Text) : write (.string t) = writeString t := rfl

theorem write_single (v : Toml) : write (.array [v]) = '[' :: write v ++ [']'] := rfl

theorem write_several (v w : Toml) (items : List Toml) : write (.array (v :: w :: items)) =
    "[\n".toList ++ write.writeItems (v :: w :: items) ++ [']'] := rfl

theorem writeItems_cons (v : Toml) (items : List Toml) : write.writeItems (v :: items) =
    "    ".toList ++ write v ++ ",\n".toList ++ write.writeItems items := rfl

/-! ## Words -/

/-- A word ends where a value may end. -/
theorem scalar?_append (hword : ∀ c ∈ word, isWordChar c = true) (hrest : Ends rest) :
    scalar? (word ++ rest) = (ofWord? word).map (·, rest) := by
  have htake : rest.takeWhile isWordChar = [] ∧ rest.dropWhile isWordChar = rest := by
    cases rest with
    | nil => exact ⟨rfl, rfl⟩
    | cons c rest =>
      have hc : isWordChar c = false := by
        have hmem := hrest c rfl
        simp only [List.mem_cons, List.not_mem_nil, or_false] at hmem
        obtain rfl | rfl | rfl := hmem <;> rfl
      simp [hc]
  have hspace : rest.head? ≠ some ' ' := fun h => absurd (hrest ' ' h) (by decide)
  unfold scalar?
  rw [List.takeWhile_append_of_pos hword, List.dropWhile_append_of_pos hword, htake.1, htake.2,
    List.append_nil]
  simp only [hspace, false_and, and_false, if_false]

theorem grouped?_decimal (n : Nat) :
    grouped? Char.isDigit (Text.decimal n) = some (Text.decimal n) := by
  have hnumeral := Text.numeral_decimal n
  have hsplit : (Text.decimal n).splitOn '_' = [Text.decimal n] :=
    List.splitOnP_eq_singleton fun c hc => beq_eq_false_iff_ne.2 fun he =>
      absurd (hnumeral.isDigit c hc) (he ▸ by decide)
  unfold grouped?
  rw [hsplit]
  simpa [hnumeral.ne_nil] using hnumeral.isDigit

theorem wholeDigits?_decimal (n : Nat) : wholeDigits? (Text.decimal n) = some (Text.decimal n) := by
  have hzero : ¬ ((Text.decimal n).head? = some '0' ∧ (Text.decimal n).length ≠ 1) := by
    rintro ⟨hhead, hlength⟩
    rw [Text.eq_zero_of_head?_decimal n hhead] at hlength
    exact hlength rfl
  unfold wholeDigits?
  rw [if_neg hzero, grouped?_decimal]

/-- The characters that an integer is written with. -/
theorem isDigit_or_of_mem_writeInteger (h : c ∈ writeInteger n) : c.isDigit = true ∨ c = '-' := by
  unfold writeInteger at h
  split at h
  · rcases List.mem_cons.1 h with rfl | h
    · exact .inr rfl
    · exact .inl ((Text.numeral_decimal _).isDigit c h)
  · exact .inl ((Text.numeral_decimal _).isDigit c h)

theorem sign_decimal (n : Nat) : sign (Text.decimal n) = (false, Text.decimal n) := by
  have hdigit := (Text.numeral_decimal n).isDigit
  unfold sign
  split
  · rename_i heq
    exact absurd (hdigit '-' (heq ▸ List.mem_cons_self)) (by decide)
  · rename_i heq
    exact absurd (hdigit '+' (heq ▸ List.mem_cons_self)) (by decide)
  · rfl

/-- Without letters, a word is no integer in another base. -/
theorem ofInteger?_eq (h : ∀ c ∈ word, c.isDigit = true ∨ c = '-') {negative : Bool}
    {magnitude : Nat} (hsign : sign word = (negative, Text.decimal magnitude)) :
    ofInteger? word = integer? (if negative then -(magnitude : Int) else magnitude) := by
  have hletter (c : Char) (hc : c ∈ ['x', 'o', 'b']) (run : Text) : word ≠ '0' :: c :: run := by
    rintro rfl
    have hmem := h c (by simp)
    simp only [List.mem_cons, List.not_mem_nil, or_false] at hc
    obtain rfl | rfl | rfl := hc <;> exact absurd hmem (by decide)
  unfold ofInteger?
  split
  · exact absurd rfl (hletter 'x' (by decide) _)
  · exact absurd rfl (hletter 'o' (by decide) _)
  · exact absurd rfl (hletter 'b' (by decide) _)
  · simp only [hsign, wholeDigits?_decimal, Option.bind_eq_bind, Option.bind_some,
      (Text.numeral_decimal magnitude).ofDigitChars]

theorem ofInteger?_writeInteger (n : Int) : ofInteger? (writeInteger n) = integer? n := by
  have hmem : ∀ c ∈ writeInteger n, c.isDigit = true ∨ c = '-' :=
    fun c hc => isDigit_or_of_mem_writeInteger hc
  by_cases hn : n < 0
  · have hsign : sign (writeInteger n) = (true, Text.decimal n.natAbs) := by
      rw [writeInteger, if_pos hn]
      rfl
    have hvalue : (if true then -(n.natAbs : Int) else n.natAbs) = n := by
      rw [if_pos rfl]
      omega
    rw [ofInteger?_eq hmem hsign, hvalue]
  · have hsign : sign (writeInteger n) = (false, Text.decimal n.natAbs) := by
      rw [writeInteger, if_neg hn, sign_decimal]
    have hvalue : (if false then -(n.natAbs : Int) else n.natAbs) = n := by
      rw [if_neg Bool.false_ne_true]
      omega
    rw [ofInteger?_eq hmem hsign, hvalue]

/-- **An integer that fits** is read as it was written. -/
theorem ofWord?_writeInteger (hlow : -Text.signedLimit ≤ n) (hhigh : n < Text.signedLimit) :
    ofWord? (writeInteger n) = some (.integer n) := by
  have hword (w : Text) (hw : ∃ c ∈ w, c.isDigit = false ∧ c ≠ '-') : writeInteger n ≠ w := by
    rintro rfl
    obtain ⟨c, hc, hdigit, hminus⟩ := hw
    rcases isDigit_or_of_mem_writeInteger hc with h | h
    · exact Bool.noConfusion (hdigit.symm.trans h)
    · exact hminus h
  have hfits : integer? n = some (.integer n) := if_pos ⟨hlow, hhigh⟩
  have htrue : writeInteger n ≠ "true".toList := hword _ ⟨'t', by decide, rfl, by decide⟩
  have hfalse : writeInteger n ≠ "false".toList := hword _ ⟨'f', by decide, rfl, by decide⟩
  unfold ofWord?
  rw [if_neg htrue, if_neg hfalse, ofInteger?_writeInteger, hfits]

/-! ## Values without parts -/

theorem writeInteger_ne_nil (n : Int) : writeInteger n ≠ [] := by
  unfold writeInteger
  split
  · exact List.cons_ne_nil _ _
  · exact (Text.numeral_decimal _).ne_nil

theorem isWordChar_of_mem_writeInteger : ∀ c ∈ writeInteger n, isWordChar c = true := by
  intro c hc
  rcases isDigit_or_of_mem_writeInteger hc with h | rfl
  · simp [isWordChar, Char.isAlphanum, h]
  · rfl

/-- Only brackets and braces begin a value with parts, so that its depth matters. -/
theorem value?_eq_zero (hbracket : c ≠ '[') (hbrace : c ≠ '\x7b') (depth : Nat) (rest : Text) :
    value? depth (c :: rest) = value? 0 (c :: rest) := by
  cases depth with
  | zero => rfl
  | succ depth =>
    rw [value?.eq_def]
    simp only
    split
    · rename_i heq
      exact absurd (List.cons.inj heq).1 hbracket
    · rename_i heq
      exact absurd (List.cons.inj heq).1 hbrace
    · rw [value?]

/-- A quotation mark or an apostrophe begins a string. -/
theorem value?_string {escapes : Bool} (hm : Mark c escapes) (depth : Nat) (rest : Text) :
    value? depth (c :: rest) = (string? (c :: rest)).map fun r => (.string r.1, r.2) := by
  have hne : c ≠ '[' ∧ c ≠ '\x7b' := by cases hm <;> decide
  rw [value?_eq_zero hne.1 hne.2]
  cases hm <;> simp only [value?, List.head?_cons] <;> cases string? (_ :: rest) <;> rfl

/-- What begins like a word is a word. -/
theorem value?_word (hc : isWordChar c = true) (depth : Nat) (rest : Text) :
    value? depth (c :: rest) = scalar? (c :: rest) := by
  have hne (d : Char) (hd : isWordChar d = false) : c ≠ d :=
    fun he => Bool.noConfusion ((he ▸ hc).symm.trans hd)
  rw [value?_eq_zero (hne '[' rfl) (hne '\x7b' rfl), value?.eq_def]
  simp only [List.head?_cons]
  split
  · rename_i heq
    exact absurd (Option.some.inj heq) (hne '"' rfl)
  · rename_i heq
    exact absurd (Option.some.inj heq) (hne '\'' rfl)
  · rfl

theorem exists_writeString_eq (t : Text) : ∃ mark escapes more,
    Mark mark escapes ∧ writeString t = mark :: more := by
  unfold writeString
  simp only
  split
  · exact ⟨'"', true, _, .quote, rfl⟩
  · exact ⟨'\'', false, _, .apostrophe, rfl⟩
  · exact ⟨'"', true, _, .quote, rfl⟩
  · exact ⟨'\'', false, _, .apostrophe, rfl⟩

/-- A word is read as what it stands for. -/
theorem value?_ofWord (hne : word ≠ []) (hword : ∀ c ∈ word, isWordChar c = true)
    (hrest : Ends rest) (hread : ofWord? word = some v) (depth : Nat) :
    value? depth (word ++ rest) = some (v, rest) := by
  obtain ⟨c, more, rfl⟩ := List.exists_cons_of_ne_nil hne
  rw [List.cons_append, value?_word (hword c List.mem_cons_self), ← List.cons_append,
    scalar?_append hword hrest, hread]
  rfl

theorem isWordChar_of_mem_boolean (b : Bool) :
    ∀ c ∈ write (.boolean b), isWordChar c = true := by
  cases b <;> exact List.all_eq_true.1 rfl

/-- **A value without parts** is read as it was written, at any depth. -/
theorem Flat.value?_write (h : Flat v) (hrest : Ends rest) (depth : Nat) :
    value? depth (write v ++ rest) = some (v, rest) := by
  cases h with
  | string t =>
    obtain ⟨mark, escapes, more, hm, heq⟩ := exists_writeString_eq t
    have hread := string?_writeString t hrest
    rw [heq] at hread
    rw [write_string, heq, List.cons_append, value?_string hm, ← List.cons_append,
      hread]
    rfl
  | @integer n hlow hhigh =>
    exact value?_ofWord (writeInteger_ne_nil n) isWordChar_of_mem_writeInteger hrest
      (ofWord?_writeInteger hlow hhigh) depth
  | boolean b =>
    cases b with
    | true => exact value?_ofWord (by decide) (isWordChar_of_mem_boolean true) hrest rfl depth
    | false => exact value?_ofWord (by decide) (isWordChar_of_mem_boolean false) hrest rfl depth

/-! ## Arrays -/

/-- The character is no blank and begins no comment, so that nothing of it is skipped. -/
structure Solid (c : Char) : Prop where
  not_space : isSpace c = false
  not_feed : c ≠ '\n'
  not_return : c ≠ '\r'
  not_comment : c ≠ '#'

theorem Solid.of_isWordChar (h : isWordChar c = true) : Solid c := by
  have hne (d : Char) (hd : isWordChar d = false) : c ≠ d :=
    fun he => Bool.noConfusion ((he ▸ h).symm.trans hd)
  refine ⟨?_, hne _ rfl, hne _ rfl, hne _ rfl⟩
  simp [isSpace, hne ' ' rfl, hne '\t' rfl]

theorem Solid.of_mark {escapes : Bool} (hm : Mark c escapes) : Solid c := by
  cases hm <;> exact ⟨rfl, by decide, by decide, by decide⟩

/-- A value without parts begins with something, and not with the end of an array. -/
theorem Flat.exists_write_eq (h : Flat v) : ∃ c more, write v = c :: more ∧ Solid c ∧ c ≠ ']' := by
  have hword (word : Text) (hne : word ≠ []) (h : ∀ c ∈ word, isWordChar c = true) :
      ∃ c more, word = c :: more ∧ Solid c ∧ c ≠ ']' := by
    obtain ⟨c, more, rfl⟩ := List.exists_cons_of_ne_nil hne
    have hc := h c List.mem_cons_self
    exact ⟨c, more, rfl, .of_isWordChar hc, fun he => Bool.noConfusion ((he ▸ hc).symm.trans rfl)⟩
  cases h with
  | string t =>
    obtain ⟨mark, escapes, more, hm, heq⟩ := exists_writeString_eq t
    exact ⟨mark, more, by rw [write_string, heq], .of_mark hm, by cases hm <;> decide⟩
  | @integer n =>
    exact hword _ (writeInteger_ne_nil n) isWordChar_of_mem_writeInteger
  | boolean b => exact hword _ (by cases b <;> decide) (isWordChar_of_mem_boolean b)

theorem skipSpaces_solid (h : Solid c) (rest : Text) : skipSpaces (c :: rest) = c :: rest := by
  simp [skipSpaces, h.not_space]

theorem lineBreak?_solid (h : Solid c) (rest : Text) : lineBreak? (c :: rest) = none := by
  unfold lineBreak?
  split
  · rename_i heq
    exact absurd (List.cons.inj heq).1 h.not_feed
  · rename_i heq
    exact absurd (List.cons.inj heq).1 h.not_return
  · rfl

theorem skipComment_solid (h : Solid c) (rest : Text) : skipComment (c :: rest) = c :: rest := by
  unfold skipComment
  split
  · rename_i heq
    exact absurd (List.cons.inj heq).1 h.not_comment
  · rfl

/-- Spaces are skipped up to something. -/
theorem skipLines_solid {spaces : Text} (hspaces : ∀ c ∈ spaces, isSpace c = true) (h : Solid c)
    (bound : Nat) (rest : Text) : skipLines true bound (spaces ++ c :: rest) = c :: rest := by
  have hskip : skipSpaces (spaces ++ c :: rest) = c :: rest := by
    unfold skipSpaces
    rw [List.dropWhile_append_of_pos hspaces]
    exact skipSpaces_solid h rest
  cases bound with
  | zero => rw [skipLines, hskip]
  | succ bound =>
    simp only [skipLines, hskip, if_true, skipComment_solid h, lineBreak?_solid h]

/-- So is a new line. -/
theorem skipLines_feed (bound : Nat) (rest : Text) :
    skipLines true (bound + 1) ('\n' :: rest) = skipLines true bound rest := rfl

theorem solid_comma : Solid ',' := ⟨rfl, by decide, by decide, by decide⟩

theorem solid_close : Solid ']' := ⟨rfl, by decide, by decide, by decide⟩

/-- Nothing is skipped where something stands. -/
theorem skipLines_self (h : Solid c) (bound : Nat) (rest : Text) :
    skipLines true bound (c :: rest) = c :: rest :=
  skipLines_solid (List.forall_mem_nil fun c => isSpace c = true) h bound rest

section Items

variable {item : Text → Option (Toml × Text)} {first more next : Text}

/-- An array ends where its bracket is closed. -/
theorem items?_close (bound : Nat) (hskip : skipLines true t.length t = ']' :: rest) :
    items? item (bound + 1) t = some ([], rest) := by
  rw [items?, hskip]
  rfl

/-- An item with a comma after it. -/
theorem items?_comma (bound : Nat) (hskip : skipLines true t.length t = c :: first) (hc : c ≠ ']')
    (hitem : item (c :: first) = some (v, ',' :: next)) :
    items? item (bound + 1) t = (items? item bound next).map fun r => (v :: r.1, r.2) := by
  rw [items?, hskip]
  split
  · rename_i heq
    exact absurd (List.cons.inj heq).1 hc
  · simp only [hitem, Option.bind_eq_bind, Option.bind_some, skipLines_self solid_comma]
    cases items? item bound next <;> rfl

/-- The last item, without a comma after it. -/
theorem items?_last (bound : Nat) (hskip : skipLines true t.length t = c :: first) (hc : c ≠ ']')
    (hitem : item (c :: first) = some (v, ']' :: next)) :
    items? item (bound + 1) t = some ([v], next) := by
  rw [items?, hskip]
  split
  · rename_i heq
    exact absurd (List.cons.inj heq).1 hc
  · simp only [hitem, Option.bind_eq_bind, Option.bind_some, skipLines_self solid_close]
    rfl

end Items

theorem ends_comma (rest : Text) : Ends (',' :: rest) := by
  intro c hc
  cases hc
  decide

theorem ends_close (rest : Text) : Ends (']' :: rest) := by
  intro c hc
  cases hc
  decide

theorem ends_feed (rest : Text) : Ends ('\n' :: rest) := by
  intro c hc
  cases hc
  decide

/-- **Items on lines of their own** are read one after the other. -/
theorem items?_writeItems (h : ∀ v ∈ items, Flat v) (depth : Nat) (rest : Text) {bound : Nat}
    (hbound : items.length < bound) :
    items? (value? depth) bound ('\n' :: (write.writeItems items ++ ']' :: rest)) =
      some (items, rest) := by
  induction items generalizing bound with
  | nil =>
    obtain ⟨bound, rfl⟩ : ∃ n, bound = n + 1 := ⟨bound - 1, by omega⟩
    refine items?_close bound ?_
    exact skipLines_self solid_close _ rest
  | cons v items ih =>
    obtain ⟨hv, hitems⟩ := List.forall_mem_cons.1 h
    obtain ⟨c, more, hwrite, hsolid, hc⟩ := hv.exists_write_eq
    rw [List.length_cons] at hbound
    obtain ⟨bound, rfl⟩ : ∃ n, bound = n + 1 := ⟨bound - 1, by omega⟩
    let next := '\n' :: (write.writeItems items ++ ']' :: rest)
    have htext : write.writeItems (v :: items) ++ ']' :: rest =
        "    ".toList ++ c :: (more ++ ',' :: next) := by
      simp [writeItems_cons, hwrite, next]
    have hskip : skipLines true ('\n' :: (write.writeItems (v :: items) ++ ']' :: rest)).length
        ('\n' :: (write.writeItems (v :: items) ++ ']' :: rest)) = c :: (more ++ ',' :: next) := by
      rw [htext, List.length_cons, skipLines_feed]
      exact skipLines_solid (List.all_eq_true.1 rfl) hsolid _ _
    have hitem : value? depth (c :: (more ++ ',' :: next)) = some (v, ',' :: next) := by
      have hread := hv.value?_write (ends_comma next) depth
      rwa [hwrite] at hread
    rw [items?_comma bound hskip hc hitem, ih hitems (by omega)]
    rfl

theorem length_le_writeItems (items : List Toml) :
    items.length ≤ (write.writeItems items).length := by
  induction items with
  | nil => exact Nat.zero_le _
  | cons v items ih =>
    have hindent : "    ".toList.length = 4 := rfl
    simp only [writeItems_cons, List.length_append, List.length_cons]
    omega

/-- A bracket begins an array. -/
theorem value?_bracket {depth : Nat}
    (h : items? (value? depth) (t.length + 1) t = some (items, rest)) :
    value? (depth + 1) ('[' :: t) = some (.array items, rest) := by
  rw [value?, h]
  rfl

/-- **A value is read as it was written**, whatever goes on after it. -/
theorem Plain.value?_write (h : Plain v) (hrest : Ends rest) (depth : Nat) :
    value? (depth + 1) (write v ++ rest) = some (v, rest) := by
  cases h with
  | flat h => exact h.value?_write hrest (depth + 1)
  | @array items h =>
    cases items with
    | nil =>
      have hread :
          items? (value? depth) ((']' :: rest).length + 1) (']' :: rest) = some ([], rest) :=
        items?_close _ (skipLines_self solid_close _ rest)
      exact value?_bracket hread
    | cons v items =>
      cases items with
      | nil =>
        have hv := h v List.mem_cons_self
        obtain ⟨c, more, hwrite, hsolid, hc⟩ := hv.exists_write_eq
        have hitem := hv.value?_write (ends_close rest) depth
        rw [hwrite] at hitem
        have htext : write (.array [v]) ++ rest = '[' :: c :: (more ++ ']' :: rest) := by
          simp [write_single, hwrite]
        rw [htext]
        exact value?_bracket (items?_last _ (skipLines_self hsolid _ _) hc hitem)
      | cons w items =>
        have htext : write (.array (v :: w :: items)) ++ rest =
            '[' :: '\n' :: (write.writeItems (v :: w :: items) ++ ']' :: rest) := by
          simp [write_several]
        rw [htext]
        refine value?_bracket (items?_writeItems h depth rest ?_)
        have hlength := length_le_writeItems (v :: w :: items)
        simp only [List.length_cons, List.length_append] at hlength ⊢
        omega

end EditScript.Toml
