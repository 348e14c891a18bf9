import Mathlib.Data.List.Forall2
import EditScript.Command.Parser
import EditScript.Proofs.Text.Numeral

/-!
# The grammar of command lines

Which lines are commands, said without the reader: how a keyword is spelled and what follows it.

* `Keyword.Spelled`: a keyword in any case of its ASCII letters.
* `Command.Unquoted`: the text that an argument stands for, with or without quotation marks.
* `Command.Written`: the grammar. There is one constructor for each way to write a command on a
  line without blanks around it.
* `Command.interpret`: reading a line is reading its first word and then its arguments
  (`Command.parse_word`, `Command.parse_word_gap`). What each keyword accepts is said by
  `Command.parseMove_eq_ok_iff`, `Command.parseSelect_eq_ok_iff` and
  `Command.parseInsert_eq_ok_iff`.
* `Command.parse_eq_ok_iff`: the reader accepts a line as a command if and only if the grammar
  derives the trimmed line. `Command.parse_accepts_grammar` spells out the trimming.
-/

namespace EditScript

open Text (Blank Gap Solid Bare Numeral)

/-! ## Keywords -/

namespace Keyword

/-- The word is the keyword, each letter of it as a capital or as the small ASCII letter. -/
def Spelled (k : Keyword) (word : Text) : Prop :=
  List.Forall₂ (fun capital c => c = capital ∨ c = capital.toLower) k.name.toList word

variable {k : Keyword} {word : Text}

private theorem toNat_toUpper (c : Char) :
    c.toUpper.toNat = if 97 ≤ c.toNat ∧ c.toNat ≤ 122 then c.toNat - 32 else c.toNat := by
  have hsmall : ('a'.val ≤ c.val ∧ c.val ≤ 'z'.val) ↔ (97 ≤ c.toNat ∧ c.toNat ≤ 122) := by
    simp only [UInt32.le_iff_toNat_le]
    rfl
  unfold Char.toUpper
  by_cases h : 97 ≤ c.toNat ∧ c.toNat ≤ 122
  · rw [dif_pos (hsmall.2 h), if_pos h]
    show (c.val + ('A'.val - 'a'.val)).toNat = _
    rw [UInt32.toNat_add]
    show (c.toNat + 4294967264) % 4294967296 = _
    omega
  · rw [dif_neg (mt hsmall.1 h), if_neg h]

private theorem toNat_toLower {c : Char} (h : 65 ≤ c.toNat ∧ c.toNat ≤ 90) :
    c.toLower.toNat = c.toNat + 32 := by
  have hcapital : c.val ≥ 'A'.val ∧ c.val ≤ 'Z'.val := by
    simp only [ge_iff_le, UInt32.le_iff_toNat_le]
    exact h
  unfold Char.toLower
  rw [dif_pos hcapital]
  show (c.val + ('a'.val - 'A'.val)).toNat = _
  rw [UInt32.toNat_add]
  show (c.toNat + 32) % 4294967296 = _
  omega

/-- Only a capital letter and its small letter become the capital; no character beyond ASCII
does. -/
private theorem toUpper_eq_iff {capital c : Char} (h : 65 ≤ capital.toNat ∧ capital.toNat ≤ 90) :
    c.toUpper = capital ↔ c = capital ∨ c = capital.toLower := by
  simp only [← Char.toNat_inj, toNat_toUpper, toNat_toLower h]
  split <;> omega

private theorem isCapital_of_mem_name (k : Keyword) :
    ∀ c ∈ k.name.toList, 65 ≤ c.toNat ∧ c.toNat ≤ 90 := by
  have hall : k.name.toList.all fun c => decide (65 ≤ c.toNat ∧ c.toNat ≤ 90) := by
    cases k <;> decide
  exact fun c hc => of_decide_eq_true (List.all_eq_true.1 hall c hc)

private theorem forall₂_iff {name : Text} (h : ∀ c ∈ name, 65 ≤ c.toNat ∧ c.toNat ≤ 90) :
    List.Forall₂ (fun capital c => c = capital ∨ c = capital.toLower) name word ↔
      Text.upper word = name := by
  unfold Text.upper
  induction name generalizing word with
  | nil => simp
  | cons capital name ih =>
    obtain ⟨hcapital, hname⟩ := List.forall_mem_cons.1 h
    cases word with
    | nil => simp
    | cons c word =>
      rw [List.forall₂_cons, ih hname, List.map_cons, List.cons.injEq, toUpper_eq_iff hcapital]

theorem spelled_iff : k.Spelled word ↔ Text.upper word = k.name.toList :=
  forall₂_iff (isCapital_of_mem_name k)

/-- **The words that are keywords** are those that spell one. -/
theorem ofWord?_eq_some_iff : ofWord? word = some k ↔ k.Spelled word := by
  rw [spelled_iff]
  unfold ofWord?
  constructor
  · intro h
    simpa [eq_comm] using List.find?_some h
  · intro h
    rw [h]
    cases k <;> decide

theorem spelled_name (k : Keyword) : k.Spelled k.name.toList := by
  rw [spelled_iff]
  cases k <;> decide

theorem Spelled.solid (h : k.Spelled word) : Solid word := by
  rw [spelled_iff] at h
  constructor
  · rintro rfl
    cases k <;> exact absurd h (by decide)
  · intro c hc
    have hmem : c.toUpper ∈ k.name.toList := h ▸ List.mem_map_of_mem hc
    have hcapital := isCapital_of_mem_name k _ hmem
    rw [toNat_toUpper] at hcapital
    unfold Text.isBlank
    simp only [Bool.or_eq_false_iff, Bool.and_eq_false_iff, decide_eq_false_iff_not,
      beq_eq_false_iff_ne]
    split at hcapital <;> omega

end Keyword

namespace Command

variable {line args body : Text} {c : Command}

/-! ## The grammar -/

/-- The word stands for an offset. -/
def OffsetWord (word : Text) (n : Nat) : Prop := Numeral word n ∧ n < Text.offsetLimit

/-- The text that an argument stands for: what is between the quotation marks around it, or the
argument itself if there are none. -/
inductive Unquoted : Text → Text → Prop
  | quoted (t : Text) : Unquoted ('"' :: t ++ ['"']) t
  | plain {args : Text} (h : ∀ t, args ≠ '"' :: t ++ ['"']) : Unquoted args args

/-- **The grammar**: how a command is written on a line without blanks around it. -/
inductive Written : Text → Command → Prop
  | move {word gap digits : Text} {position : Nat} (hk : Keyword.move.Spelled word)
      (hg : Gap gap) (hp : OffsetWord digits position) :
      Written (word ++ gap ++ digits) (.move position)
  | select {word gap first between second : Text} {start stop : Nat}
      (hk : Keyword.select.Spelled word) (hg : Gap gap) (hs : OffsetWord first start)
      (hb : Gap between) (he : OffsetWord second stop) :
      Written (word ++ gap ++ (first ++ between ++ second)) (.select start stop)
  | insert {word gap args text : Text} (hk : Keyword.insert.Spelled word) (hg : Gap gap)
      (ha : Bare args) (hu : Unquoted args text) (hne : text ≠ []) :
      Written (word ++ gap ++ args) (.insert text)
  | delete {word : Text} (hk : Keyword.delete.Spelled word) : Written word .delete
  | deleteAnything {word gap : Text} (rest : Text) (hk : Keyword.delete.Spelled word)
      (hg : Gap gap) : Written (word ++ gap ++ rest) .delete

/-! ## Arguments -/

theorem unquote_quoted (t : Text) : unquote ('"' :: t ++ ['"']) = t := by
  have hlength : 2 ≤ ('"' :: t ++ ['"']).length := by simp
  have hlast : ('"' :: t ++ ['"']).getLast? = some '"' := List.getLast?_concat
  unfold unquote
  rw [if_pos ⟨hlength, rfl, hlast⟩]
  exact List.dropLast_concat

theorem unquote_plain (h : ∀ t, args ≠ '"' :: t ++ ['"']) : unquote args = args := by
  unfold unquote
  refine if_neg fun ⟨hlength, hhead, hlast⟩ => ?_
  cases args with
  | nil => cases hhead
  | cons first rest =>
    obtain rfl : first = '"' := Option.some.inj hhead
    rcases List.eq_nil_or_concat rest with rfl | ⟨t, last, rfl⟩
    · exact absurd hlength (by decide)
    · rw [List.concat_eq_append] at h hlast
      rw [← List.cons_append, List.getLast?_concat] at hlast
      obtain rfl : last = '"' := Option.some.inj hlast
      exact h t rfl

theorem unquote_eq_iff {t : Text} : unquote args = t ↔ Unquoted args t := by
  constructor
  · rintro rfl
    by_cases h : ∃ t, args = '"' :: t ++ ['"']
    · obtain ⟨t, rfl⟩ := h
      rw [unquote_quoted]
      exact .quoted t
    · have hplain : ∀ t, args ≠ '"' :: t ++ ['"'] := fun t ht => h ⟨t, ht⟩
      rw [unquote_plain hplain]
      exact .plain hplain
  · intro h
    cases h with
    | quoted t => exact unquote_quoted t
    | plain h => exact unquote_plain h

theorem OffsetWord.solid {word : Text} {n : Nat} (h : OffsetWord word n) : Solid word := h.1.solid

theorem parseMove_eq_ok_iff (ha : Bare args) :
    parseMove args = .ok c ↔ ∃ position, OffsetWord args position ∧ c = .move position := by
  unfold parseMove
  constructor
  · intro h
    split at h
    · cases h
    · rename_i word hwords
      obtain ⟨-, rfl⟩ := ha.words_eq_singleton_iff.1 hwords
      split at h
      · rename_i position hp
        cases h
        exact ⟨position, Text.offset?_eq_some_iff.1 hp, rfl⟩
      · cases h
    · cases h
  · rintro ⟨position, hp, rfl⟩
    rw [Text.words_word hp.solid]
    simp only [Text.offset?_eq_some_iff.2 hp]

theorem parseSelect_eq_ok_iff (ha : Bare args) :
    parseSelect args = .ok c ↔ ∃ first gap second start stop, OffsetWord first start ∧ Gap gap ∧
      OffsetWord second stop ∧ args = first ++ gap ++ second ∧ c = .select start stop := by
  unfold parseSelect
  constructor
  · intro h
    split at h
    · cases h
    · rename_i first second hwords
      obtain ⟨-, -, gap, hg, rfl⟩ := ha.words_eq_pair_iff.1 hwords
      split at h
      · rename_i start stop hs he
        cases h
        exact ⟨first, gap, second, start, stop, Text.offset?_eq_some_iff.1 hs, hg,
          Text.offset?_eq_some_iff.1 he, rfl, rfl⟩
      · cases h
    · cases h
  · rintro ⟨first, gap, second, start, stop, hs, hg, he, rfl, rfl⟩
    rw [Text.words_gap _ hg, Text.words_word hs.solid, Text.words_word he.solid]
    simp only [List.singleton_append, Text.offset?_eq_some_iff.2 hs,
      Text.offset?_eq_some_iff.2 he]

theorem parseInsert_eq_ok_iff :
    parseInsert args = .ok c ↔ ∃ text, Unquoted args text ∧ text ≠ [] ∧ c = .insert text := by
  unfold parseInsert
  constructor
  · intro h
    split at h
    · cases h
    · rename_i hne
      cases h
      exact ⟨unquote args, unquote_eq_iff.1 rfl, hne, rfl⟩
  · rintro ⟨text, hu, hne, rfl⟩
    rw [unquote_eq_iff.2 hu, if_neg hne]

/-! ## Lines -/

/-- The command of a first word and the arguments after it. -/
def interpret (word args : Text) : Except CommandError Command :=
  match Keyword.ofWord? word with
  | some .move => parseMove args
  | some .select => parseSelect args
  | some .insert => parseInsert args
  | some .delete => .ok .delete
  | none => .error (.unknownCommand word)

theorem parse_nil (h : Text.trim line = []) :
    parse line = .error (.invalidFormat "empty command".toList) := by
  unfold parse
  exact if_pos h

/-- Reading a line is reading its first word and then its arguments. -/
theorem parse_eq_interpret (h : Text.trim line ≠ []) :
    parse line = interpret (Text.splitBlank (Text.trim line)).1
      (Text.trimStart (Text.splitBlank (Text.trim line)).2) := by
  unfold parse
  exact if_neg h

theorem parse_word {word : Text} (hw : Solid word) (h : Text.trim line = word) :
    parse line = interpret word [] := by
  rw [parse_eq_interpret (h ▸ hw.ne_nil), h, Text.splitBlank_word hw]
  rfl

theorem parse_word_gap {word gap rest : Text} (hw : Solid word) (hg : Gap gap)
    (h : Text.trim line = word ++ gap ++ rest) :
    parse line = interpret word (Text.trimStart rest) := by
  obtain ⟨b, more, rfl, hb, hmore⟩ := hg.exists_cons
  rw [List.append_assoc, List.cons_append] at h
  have hne : Text.trim line ≠ [] := by
    rw [h]
    exact List.append_ne_nil_of_left_ne_nil hw.ne_nil _
  rw [parse_eq_interpret hne, h, Text.splitBlank_append hw hb, Text.trimStart_append hmore]

theorem parse_word_args {word gap : Text} (hw : Solid word) (hg : Gap gap) (ha : Bare args)
    (h : Text.trim line = word ++ gap ++ args) : parse line = interpret word args := by
  rw [parse_word_gap hw hg h, Text.trimStart_eq_self ha.head]

/-- Blanks around a line do not count. -/
theorem parse_trim (line : Text) : parse (Text.trim line) = parse line := by
  unfold parse
  rw [Text.trim_trim]

theorem interpret_spelled {k : Keyword} {word : Text} (h : k.Spelled word) (args : Text) :
    interpret word args = match k with
      | .move => parseMove args
      | .select => parseSelect args
      | .insert => parseInsert args
      | .delete => .ok .delete := by
  unfold interpret
  rw [Keyword.ofWord?_eq_some_iff.2 h]
  cases k <;> rfl

/-- What the grammar derives is accepted. -/
theorem Written.parse_eq_ok (h : Written (Text.trim line) c) : parse line = .ok c := by
  generalize hbody : Text.trim line = body at h
  cases h with
  | move hk hg hp =>
    rw [parse_word_args hk.solid hg hp.solid.bare hbody, interpret_spelled hk]
    exact (parseMove_eq_ok_iff hp.solid.bare).2 ⟨_, hp, rfl⟩
  | @select _ _ first between second _ _ hk hg hs hb he =>
    have ha : Bare (first ++ between ++ second) :=
      hs.solid.bare_append between he.solid.bare he.solid.ne_nil
    rw [parse_word_args hk.solid hg ha hbody, interpret_spelled hk]
    exact (parseSelect_eq_ok_iff ha).2 ⟨_, _, _, _, _, hs, hb, he, rfl, rfl⟩
  | insert hk hg ha hu hne =>
    rw [parse_word_args hk.solid hg ha hbody, interpret_spelled hk]
    exact parseInsert_eq_ok_iff.2 ⟨_, hu, hne, rfl⟩
  | delete hk => rw [parse_word hk.solid hbody, interpret_spelled hk]
  | deleteAnything rest hk hg => rw [parse_word_gap hk.solid hg hbody, interpret_spelled hk]

/-- A keyword alone is a command only if it is `DELETE`: no other keyword takes an empty
argument. -/
theorem written_of_interpret_nil {word : Text} (h : interpret word [] = .ok c) :
    Written word c := by
  cases hw : Keyword.ofWord? word with
  | none =>
    unfold interpret at h
    rw [hw] at h
    cases h
  | some k =>
    have hk := Keyword.ofWord?_eq_some_iff.1 hw
    rw [interpret_spelled hk] at h
    cases k with
    | delete => cases h; exact .delete hk
    | move | select | insert => cases h

theorem written_of_interpret {word gap : Text} (hg : Gap gap) (ha : Bare args)
    (h : interpret word args = .ok c) : Written (word ++ gap ++ args) c := by
  cases hw : Keyword.ofWord? word with
  | none =>
    unfold interpret at h
    rw [hw] at h
    cases h
  | some k =>
    have hk := Keyword.ofWord?_eq_some_iff.1 hw
    rw [interpret_spelled hk] at h
    cases k with
    | move =>
      obtain ⟨position, hp, rfl⟩ := (parseMove_eq_ok_iff ha).1 h
      exact .move hk hg hp
    | select =>
      obtain ⟨first, between, second, start, stop, hs, hb, he, rfl, rfl⟩ :=
        (parseSelect_eq_ok_iff ha).1 h
      exact .select hk hg hs hb he
    | insert =>
      obtain ⟨text, hu, hne, rfl⟩ := parseInsert_eq_ok_iff.1 h
      exact .insert hk hg ha hu hne
    | delete => cases h; exact .deleteAnything args hk hg

/-- What is accepted, the grammar derives. -/
theorem written_of_parse (h : parse line = .ok c) : Written (Text.trim line) c := by
  have hshape := (Text.bare_trim line).shape
  generalize hbody : Text.trim line = body at hshape ⊢
  cases hshape with
  | empty => rw [parse_nil hbody] at h; cases h
  | word hw => rw [parse_word hw hbody] at h; exact written_of_interpret_nil h
  | more hw hg hr => rw [parse_word_args hw hg hr hbody] at h; exact written_of_interpret hg hr h

/-- **The reader accepts what the grammar derives**, on the trimmed line, and nothing else. -/
theorem parse_eq_ok_iff : parse line = .ok c ↔ Written (Text.trim line) c :=
  ⟨written_of_parse, Written.parse_eq_ok⟩

/-- **The reader accepts exactly the grammar.** A line is a command if and only if it consists of
blanks, a text without blanks around it that the grammar derives for the command, and blanks. -/
theorem parse_accepts_grammar (line : Text) (c : Command) :
    parse line = .ok c ↔ ∃ before body after, line = before ++ body ++ after ∧
      Blank before ∧ Blank after ∧ Bare body ∧ Written body c := by
  rw [parse_eq_ok_iff]
  constructor
  · intro h
    obtain ⟨hbare, before, after, hb, ha, hline⟩ := Text.trim_eq_iff.1 (Eq.refl (Text.trim line))
    exact ⟨before, Text.trim line, after, hline, hb, ha, hbare, h⟩
  · rintro ⟨before, body, after, rfl, hb, ha, hbare, h⟩
    rw [Text.trim_append hb hbare ha]
    exact h

end Command
end EditScript
