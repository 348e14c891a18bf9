import Mathlib.Data.List.TakeWhile
import EditScript.Toml.Reader
import EditScript.Toml.Writer

/-!
# TOML strings

A string is written in one of four ways, and is read back from each of them. Between its marks a
string is a row of pieces: a character that stands for itself, or an escape sequence. A string over
several lines may also hold line feeds and up to two marks in a row.

* `Toml.Escape`, `Toml.Piece`: what a single character is written as.
* `Toml.LongBody`: what a text is written as over several lines, counting the marks that stand right
  before it. Marks in a row are read at once, so the count is what an induction goes along
  (`Toml.LongBody.read`).
* `Toml.basic?_escapeFrom`, `Toml.literal?_append`, `Toml.longString?_body`: the ways to read.
* `Toml.string?_writeString`: whatever way a string is written in, it is read as it was.
-/

namespace EditScript.Toml

/-- What may follow a value in a document: a new line, or what goes on with an array or ends it. -/
def Ends (rest : Text) : Prop := ∀ c ∈ rest.head?, c ∈ ['\n', ',', ']']

/-- A string that starts with this mark and holds escape sequences or not. -/
inductive Mark : Char → Bool → Prop
  | quote : Mark '"' true
  | apostrophe : Mark '\'' false

variable {c mark : Char} {escapes long : Bool} {quotes : Nat} {t body tail piece rest : Text}

theorem Ends.head?_ne (h : Ends rest) (hm : Mark mark escapes) : rest.head? ≠ some mark := by
  intro hhead
  have hmem := h mark hhead
  cases hm <;> simp at hmem

/-! ## Pieces -/

/-- After a backslash, the text stands for the character. A line break after a backslash would be
left out. -/
structure Escape (tail : Text) (c : Char) : Prop where
  read : ∀ rest, escape? (tail ++ rest) = some (c, rest)
  no_break : ∀ rest, lineBreak? (skipSpaces (tail ++ rest)) = none

/-- What a character is written as between marks. -/
inductive Piece (mark : Char) (escapes : Bool) : Text → Char → Prop
  | plain {c : Char} (h : isPlain c = true) (hmark : c ≠ mark)
      (hslash : escapes = true → c ≠ '\\') : Piece mark escapes [c] c
  | escape {tail : Text} {c : Char} (hescapes : escapes = true) (h : Escape tail c) :
      Piece mark escapes ('\\' :: tail) c

/-- A character that stands for itself breaks no line. -/
theorem lineBreak?_plain (h : isPlain c = true) (rest : Text) : lineBreak? (c :: rest) = none := by
  unfold lineBreak?
  split
  · rename_i heq
    cases heq
    cases h
  · rename_i heq
    cases heq
    cases h
  · rfl

theorem isPlain_of_not_control (h : isControl c = false) (hfeed : c ≠ '\n') : isPlain c = true := by
  simp only [isControl, isPlain] at h ⊢
  grind

/-- The digits of a control character. -/
theorem digitValue_codeOf : ∀ n < 16, digitValue (Nat.digitChar n).toUpper = n := by decide

theorem escape_codeOf (h : isControl c = true) :
    ∃ tail, codeOf c = '\\' :: tail ∧ Escape tail c := by
  have hlt : c.toNat < 0x80 := by
    simp only [isControl, Bool.or_eq_true, Bool.and_eq_true, decide_eq_true_eq, beq_iff_eq] at h
    omega
  have hhigh := digitValue_codeOf (c.toNat / 16) (by omega)
  have hlow := digitValue_codeOf (c.toNat % 16) (by omega)
  refine ⟨_, rfl, fun rest => ?_, fun rest => rfl⟩
  have hvalue : c.toNat / 16 * 16 + c.toNat % 16 = c.toNat := Nat.div_add_mod' _ _
  have hzero : digitValue '0' = 0 := rfl
  have hvalid : c.toNat.isValidChar := Or.inl (by omega)
  show hexChar? 4 ('0' :: '0' :: _ :: _ :: rest) = _
  simp [hexChar?, hhigh, hlow, hzero, hvalue, hvalid, Char.ofNat_toNat]
  omega

theorem escape_single {mnemonic : Char}
    (hread : ∀ rest, escape? (mnemonic :: rest) = some (c, rest))
    (hspace : isSpace mnemonic = false) (hbreak : ∀ rest, lineBreak? (mnemonic :: rest) = none) :
    Escape [mnemonic] c where
  read := hread
  no_break rest := by
    have hskip : skipSpaces (mnemonic :: rest) = mnemonic :: rest := by simp [skipSpaces, hspace]
    show lineBreak? (skipSpaces (mnemonic :: rest)) = none
    rw [hskip, hbreak]

/-- A quotation mark that is escaped. -/
theorem piece_quote : Piece '"' true ['\\', '"'] '"' :=
  .escape rfl (escape_single (fun _ => rfl) rfl fun _ => rfl)

/-- Between quotation marks, a character is written as a piece, or as a line feed, and the
characters after it do not depend on it. A quotation mark is not meant here. -/
theorem escapeFrom_cons (hc : c ≠ '"') (long : Bool) (quotes : Nat) (t : Text) :
    ∃ piece, escapeFrom long quotes (c :: t) = piece ++ escapeFrom long 0 t ∧
      (long = true ∧ c = '\n' ∧ piece = ['\n'] ∨ Piece '"' true piece c) := by
  rw [escapeFrom.eq_def]
  simp only [if_neg hc]
  refine ⟨_, rfl, ?_⟩
  split
  case h_3 =>
    cases long with
    | true => exact .inl ⟨rfl, rfl, rfl⟩
    | false => exact .inr (.escape rfl (escape_single (fun _ => rfl) rfl fun _ => rfl))
  case h_7 hback htab hfeed hform hreturn hslash =>
    right
    split
    · rename_i hcontrol
      obtain ⟨tail, htail, hescape⟩ := escape_codeOf hcontrol
      rw [htail]
      exact .escape rfl hescape
    · rename_i hcontrol
      exact .plain (isPlain_of_not_control (Bool.eq_false_iff.2 hcontrol) hfeed) hc fun _ => hslash
  all_goals exact .inr (.escape rfl (escape_single (fun _ => rfl) rfl fun _ => rfl))

/-! ## Strings on one line -/

/-- A piece is read as its character. -/
theorem Piece.basic? (h : Piece '"' true piece c) (bound : Nat) (rest : Text) :
    basic? (bound + 1) (piece ++ rest) =
      (Toml.basic? bound rest).map fun r => (c :: r.1, r.2) := by
  cases h with
  | plain h hmark hslash =>
    rw [List.singleton_append, Toml.basic?]
    · simp only [h]
      cases Toml.basic? bound rest <;> rfl
    · exact fun hc => hmark hc
    · exact fun hc => hslash rfl hc
  | escape _ h =>
    rw [List.cons_append, Toml.basic?, h.read]
    simp only [Option.bind_eq_bind, Option.bind_some]
    cases Toml.basic? bound rest <;> rfl

theorem Piece.length_pos (h : Piece mark escapes piece c) : 0 < piece.length := by
  cases h <;> simp

/-- **A string on one line** is read up to the quotation mark after it. -/
theorem basic?_escapeFrom (t rest : Text) {bound : Nat}
    (hbound : (escapeFrom false quotes t).length < bound) :
    basic? bound (escapeFrom false quotes t ++ '"' :: rest) = some (t, rest) := by
  induction t generalizing quotes bound with
  | nil =>
    obtain ⟨bound, rfl⟩ : ∃ n, bound = n + 1 := ⟨bound - 1, by omega⟩
    rfl
  | cons c t ih =>
    have hpiece : ∃ piece, escapeFrom false quotes (c :: t) = piece ++ escapeFrom false 0 t ∧
        Piece '"' true piece c := by
      by_cases hc : c = '"'
      · subst hc
        exact ⟨['\\', '"'], rfl, piece_quote⟩
      · obtain ⟨piece, heq, ⟨hlong, -⟩ | hpiece⟩ := escapeFrom_cons hc false quotes t
        · cases hlong
        · exact ⟨piece, heq, hpiece⟩
    obtain ⟨piece, heq, hpiece⟩ := hpiece
    have hpos := hpiece.length_pos
    rw [heq, List.length_append] at hbound
    obtain ⟨bound, rfl⟩ : ∃ n, bound = n + 1 := ⟨bound - 1, by omega⟩
    rw [heq, List.append_assoc, hpiece.basic?, ih (by omega)]
    rfl

/-- **A string without escape sequences** is read up to the apostrophe after it. -/
theorem literal?_append (ht : ∀ c ∈ t, isPlain c = true ∧ c ≠ '\'') (rest : Text) :
    literal? (t ++ '\'' :: rest) = some (t, rest) := by
  have hin : ∀ c ∈ t, (isPlain c && decide (c ≠ '\'')) = true := by
    intro c hc
    simp [ht c hc]
  unfold literal?
  rw [List.takeWhile_append_of_pos hin, List.dropWhile_append_of_pos hin]
  simp

/-! ## Strings over several lines -/

/-- What a text is written as over several lines, with so many marks right before it. -/
inductive LongBody (mark : Char) (escapes : Bool) : Nat → Text → Text → Prop
  | nil {quotes : Nat} : LongBody mark escapes quotes [] []
  | mark {quotes : Nat} {body t : Text} (hquotes : quotes < 2)
      (h : LongBody mark escapes (quotes + 1) body t) :
      LongBody mark escapes quotes (mark :: body) (mark :: t)
  | feed {quotes : Nat} {body t : Text} (h : LongBody mark escapes 0 body t) :
      LongBody mark escapes quotes ('\n' :: body) ('\n' :: t)
  | piece {quotes : Nat} {piece body t : Text} {c : Char} (hpiece : Piece mark escapes piece c)
      (h : LongBody mark escapes 0 body t) :
      LongBody mark escapes quotes (piece ++ body) (c :: t)

/-- A long string that is written with escape sequences. -/
theorem longBody_escapeFrom (t : Text) (hquotes : quotes ≤ 2) :
    LongBody '"' true quotes (escapeFrom true quotes t) t := by
  induction t generalizing quotes with
  | nil => exact .nil
  | cons c t ih =>
    by_cases hc : c = '"'
    · subst hc
      by_cases hlt : quotes < 2
      · have heq : escapeFrom true quotes ('"' :: t) = '"' :: escapeFrom true (quotes + 1) t := by
          simp [escapeFrom, hlt]
        rw [heq]
        exact .mark hlt (ih hlt)
      · have heq : escapeFrom true quotes ('"' :: t) = ['\\', '"'] ++ escapeFrom true 0 t := by
          simp [escapeFrom, hlt]
        rw [heq]
        exact .piece piece_quote (ih (Nat.zero_le 2))
    · obtain ⟨piece, heq, ⟨-, rfl, rfl⟩ | hpiece⟩ := escapeFrom_cons hc true quotes t
      · rw [heq]
        exact .feed (ih (Nat.zero_le 2))
      · rw [heq]
        exact .piece hpiece (ih (Nat.zero_le 2))

theorem hasTriple_of_cons (h : hasTriple mark (c :: t) = false) : hasTriple mark t = false := by
  cases t with
  | nil => rfl
  | cons b t =>
    cases t with
    | nil => rfl
    | cons d t =>
      rw [hasTriple, Bool.or_eq_false_iff] at h
      exact h.2

theorem hasTriple_of_append (before : Text) (h : hasTriple mark (before ++ t) = false) :
    hasTriple mark t = false := by
  induction before with
  | nil => exact h
  | cons c before ih => exact ih (hasTriple_of_cons h)

/-- A long string that is written as it stands. -/
theorem longBody_self (ht : ∀ c ∈ t, isControl c = false)
    (htriple : hasTriple '\'' (List.replicate quotes '\'' ++ t) = false) :
    LongBody '\'' false quotes t t := by
  induction t generalizing quotes with
  | nil => exact .nil
  | cons c t ih =>
    obtain ⟨hc, htail⟩ := List.forall_mem_cons.1 ht
    have hlater : LongBody '\'' false 0 t t :=
      ih htail (hasTriple_of_cons (hasTriple_of_append (List.replicate quotes '\'') htriple))
    by_cases hmark : c = '\''
    · subst hmark
      have hlt : quotes < 2 := by
        by_contra hge
        -- Then there are three in a row.
        obtain ⟨n, rfl⟩ : ∃ n, quotes = n + 2 := ⟨quotes - 2, by omega⟩
        rw [← List.replicate_append_replicate, List.append_assoc] at htriple
        cases hasTriple_of_append _ htriple
      refine .mark hlt (ih htail ?_)
      rwa [List.replicate_succ', List.append_assoc]
    · by_cases hfeed : c = '\n'
      · subst hfeed
        exact .feed hlater
      · have hplain := isPlain_of_not_control hc hfeed
        exact .piece (.plain hplain hmark fun h => Bool.noConfusion h) hlater

/-! ## Reading long strings -/

theorem takeWhile_marks (quotes : Nat) (hrest : rest.head? ≠ some mark) :
    (List.replicate quotes mark ++ rest).takeWhile (· = mark) = List.replicate quotes mark := by
  have hin : ∀ c ∈ List.replicate quotes mark, decide (c = mark) = true :=
    fun c hc => decide_eq_true (List.eq_of_mem_replicate hc)
  have hnone : rest.takeWhile (· = mark) = [] := by
    cases rest with
    | nil => rfl
    | cons c rest =>
      have hc : c ≠ mark := fun h => hrest (congrArg some h)
      simp [hc]
  rw [List.takeWhile_append_of_pos hin, hnone, List.append_nil]

/-- Marks in a row are read at once: a few are part of the string, and more end it. -/
theorem long?_marks (hpos : 0 < quotes) (hrest : rest.head? ≠ some mark) (escapes : Bool)
    (bound : Nat) :
    long? mark escapes (bound + 1) (List.replicate quotes mark ++ rest) =
      if quotes < 3 then
        (long? mark escapes bound rest).map fun r => (List.replicate quotes mark ++ r.1, r.2)
      else if quotes ≤ 5 then some (List.replicate (quotes - 3) mark, rest) else none := by
  have hrun := takeWhile_marks quotes hrest
  have hdrop : (List.replicate quotes mark ++ rest).drop quotes = rest := by simp
  obtain ⟨n, rfl⟩ : ∃ n, quotes = n + 1 := ⟨quotes - 1, by omega⟩
  rw [List.replicate_succ, List.cons_append] at *
  rw [long?.eq_def]
  simp only [if_true, hrun, List.length_cons, List.length_replicate, hdrop]
  split
  · cases long? mark escapes bound rest <;> rfl
  · rfl

/-- A line feed belongs to the string. -/
theorem long?_feed (hmark : mark ≠ '\n') (bound : Nat) (rest : Text) :
    long? mark escapes (bound + 1) ('\n' :: rest) =
      (long? mark escapes bound rest).map fun r => ('\n' :: r.1, r.2) := by
  rw [long?.eq_def]
  simp only [if_neg hmark.symm]
  rw [if_neg (by simp)]
  cases h : long? mark escapes bound rest <;> simp [lineBreak?, h]

/-- A piece is read as its character. -/
theorem Piece.long? (h : Piece mark escapes piece c) (hmark : mark ≠ '\\') (bound : Nat)
    (rest : Text) :
    long? mark escapes (bound + 1) (piece ++ rest) =
      (Toml.long? mark escapes bound rest).map fun r => (c :: r.1, r.2) := by
  cases h with
  | plain h hne hslash =>
    rw [List.singleton_append, Toml.long?.eq_def]
    simp only [if_neg hne]
    rw [if_neg fun he => hslash he.1 he.2]
    simp only [lineBreak?_plain h, h]
    cases Toml.long? mark escapes bound rest <;> rfl
  | escape hescapes h =>
    rw [List.cons_append, Toml.long?.eq_def]
    simp only [if_neg hmark.symm, hescapes, h.no_break, h.read, and_self, if_true,
      Option.bind_eq_bind, Option.bind_some]
    cases Toml.long? mark true bound rest <;> rfl

theorem Piece.head?_ne (h : Piece mark escapes piece c) (hmark : mark ≠ '\\') (rest : Text) :
    (piece ++ rest).head? ≠ some mark := by
  cases h with
  | plain _ hne => exact fun he => hne (Option.some.inj he)
  | escape => exact fun he => hmark (Option.some.inj he).symm

/-- A character between marks: those before it belong to the string, and then the character. -/
theorem long?_after {more : Text} {n : Nat} (hquotes : quotes ≤ 2)
    (hhead : (piece ++ more).head? ≠ some mark)
    (hpiece : ∀ bound, long? mark escapes (bound + 1) (piece ++ more) =
      (long? mark escapes bound more).map fun r => (c :: r.1, r.2))
    (hmore : ∀ bound, n < bound → long? mark escapes bound more = some (t, rest)) {bound : Nat}
    (hbound : quotes + n + 1 < bound) :
    long? mark escapes bound (List.replicate quotes mark ++ (piece ++ more)) =
      some (List.replicate quotes mark ++ c :: t, rest) := by
  have hread (m : Nat) (hm : n + 1 < m) :
      long? mark escapes m (piece ++ more) = some (c :: t, rest) := by
    obtain ⟨m, rfl⟩ : ∃ k, m = k + 1 := ⟨m - 1, by omega⟩
    rw [hpiece, hmore m (by omega)]
    rfl
  rcases Nat.eq_zero_or_pos quotes with rfl | hpos
  · exact hread bound (by omega)
  · obtain ⟨bound, rfl⟩ : ∃ k, bound = k + 1 := ⟨bound - 1, by omega⟩
    rw [long?_marks hpos hhead, if_pos (by omega), hread bound (by omega)]
    rfl

/-- **The end of a long string.** It is read up to the three marks after it, by induction on what it
is written as. -/
theorem LongBody.read (hm : Mark mark escapes) (h : LongBody mark escapes quotes body t)
    (hquotes : quotes ≤ 2) (hrest : rest.head? ≠ some mark) {bound : Nat}
    (hbound : quotes + body.length < bound) :
    long? mark escapes bound
        (List.replicate quotes mark ++ (body ++ mark :: mark :: mark :: rest)) =
      some (List.replicate quotes mark ++ t, rest) := by
  have hfeed : mark ≠ '\n' := by cases hm <;> decide
  have hslash : mark ≠ '\\' := by cases hm <;> decide
  induction h generalizing bound with
  | @nil quotes =>
    obtain ⟨bound, rfl⟩ : ∃ n, bound = n + 1 := ⟨bound - 1, by omega⟩
    have heq : List.replicate quotes mark ++ ([] ++ mark :: mark :: mark :: rest) =
        List.replicate (quotes + 3) mark ++ rest := by
      rw [← List.replicate_append_replicate, List.append_assoc]
      rfl
    rw [heq, long?_marks (by omega) hrest, if_neg (by omega), if_pos (by omega),
      Nat.add_sub_cancel, List.append_nil]
  | @mark quotes body t hlt _ ih =>
    rw [List.length_cons] at hbound
    have hnext : quotes + 1 + body.length < bound := by omega
    have hbody := ih hlt hnext
    rw [List.replicate_succ', List.append_assoc, List.append_assoc] at hbody
    exact hbody
  | @feed quotes body t _ ih =>
    rw [List.length_cons] at hbound
    have hhead : (['\n'] ++ (body ++ mark :: mark :: mark :: rest)).head? ≠ some mark :=
      fun he => hfeed (Option.some.inj he).symm
    exact long?_after hquotes hhead (fun bound => long?_feed hfeed bound _)
      (fun bound hlt => ih (Nat.zero_le 2) (by omega)) hbound
  | @piece quotes piece body t c hpiece _ ih =>
    have hpos := hpiece.length_pos
    rw [List.length_append] at hbound
    rw [List.append_assoc]
    have hnext : quotes + body.length + 1 < bound := by omega
    exact long?_after hquotes (hpiece.head?_ne hslash _)
      (fun bound => hpiece.long? hslash bound _)
      (fun bound hlt => ih (Nat.zero_le 2) (by omega)) hnext

/-- Unless the string itself starts with a line feed, there is none right after the marks. -/
theorem LongBody.no_break (hm : Mark mark escapes) (h : LongBody mark escapes quotes body t)
    (ht : '\n' ∉ t) (rest : Text) : lineBreak? (body ++ mark :: rest) = none := by
  have hmark : ∀ rest, lineBreak? (mark :: rest) = none := by
    cases hm <;> exact fun _ => rfl
  cases h with
  | nil => exact hmark rest
  | mark => exact hmark _
  | feed => exact absurd List.mem_cons_self ht
  | piece hpiece =>
    cases hpiece with
    | plain h => exact lineBreak?_plain h _
    | escape => rfl

/-- **A string over several lines** is read as it was; the line feed before its first line is left
out. -/
theorem longString?_body (hm : Mark mark escapes) (h : LongBody mark escapes 0 body t)
    (hrest : rest.head? ≠ some mark) :
    longString? mark escapes ((if t.contains '\n' then ['\n'] else []) ++ body ++
      mark :: mark :: mark :: rest) = some (t, rest) := by
  let closed := body ++ mark :: mark :: mark :: rest
  have hread : long? mark escapes (closed.length + 1) closed = some (t, rest) := by
    refine h.read hm (Nat.zero_le 2) hrest ?_
    simp only [closed, List.length_append]
    omega
  unfold longString?
  by_cases ht : '\n' ∈ t
  · rw [if_pos (by simpa using ht)]
    exact hread
  · have hbreak : lineBreak? closed = none := h.no_break hm ht _
    rw [if_neg (by simpa using ht), List.nil_append]
    simp only [closed] at hbreak hread
    simp only [hbreak, Option.getD_none, hread]

/-! ## All ways to write a string -/

/-- Two marks in a row begin a long string only if a third one follows. -/
theorem string?_basic (h : ∀ more, rest ≠ '"' :: '"' :: more) :
    string? ('"' :: rest) = basic? (rest.length + 1) rest := by
  unfold string?
  split
  · rename_i heq
    exact absurd (List.cons.inj heq).2 (h _)
  · rename_i heq
    cases heq
  · rename_i heq
    rw [(List.cons.inj heq).2]
  · rename_i heq
    cases heq
  · rename_i hquote _
    exact absurd rfl (hquote rest)

theorem string?_literal (h : ∀ more, rest ≠ '\'' :: '\'' :: more) :
    string? ('\'' :: rest) = literal? rest := by
  unfold string?
  split
  · rename_i heq
    cases heq
  · rename_i heq
    exact absurd (List.cons.inj heq).2 (h _)
  · rename_i heq
    cases heq
  · rename_i heq
    rw [(List.cons.inj heq).2]
  · rename_i happ
    exact absurd rfl (happ rest)

/-- Between apostrophes stand strings on one line without apostrophes. -/
theorem of_quoting_literal (h : quoting t = .literal) : ∀ c ∈ t, isPlain c = true ∧ c ≠ '\'' := by
  unfold quoting at h
  simp only at h
  split_ifs at h with hbasic hliteral
  simp only [List.contains_eq_mem, Bool.and_eq_true, Bool.not_eq_true', List.any_eq_false,
    Bool.not_eq_true, decide_eq_false_iff_not] at hliteral
  obtain ⟨⟨hcontrol, hfeed⟩, happ⟩ := hliteral
  intro c hc
  exact ⟨isPlain_of_not_control (hcontrol c hc) fun he => hfeed (he ▸ hc), fun he => happ (he ▸ hc)⟩

/-- Between three apostrophes stand strings without control characters and without three apostrophes
in a row. -/
theorem of_quoting_longLiteral (h : quoting t = .longLiteral) :
    (∀ c ∈ t, isControl c = false) ∧ hasTriple '\'' t = false := by
  unfold quoting at h
  simp only at h
  split_ifs at h with hbasic hliteral hlong hlongLiteral
  simp only [Bool.and_eq_true, Bool.not_eq_true', List.any_eq_false, Bool.not_eq_true]
    at hlongLiteral
  exact hlongLiteral

/-- Between quotation marks, a string does not start with a second and a third one. -/
theorem escapeFrom_ne (hrest : rest.head? ≠ some '"') (more : Text) :
    escapeFrom false 0 t ++ '"' :: rest ≠ '"' :: '"' :: more := by
  intro heq
  cases t with
  | nil =>
    have hmore : rest = '"' :: more := (List.cons.inj heq).2
    exact hrest (congrArg List.head? hmore)
  | cons c t =>
    by_cases hc : c = '"'
    · subst hc
      exact absurd (List.cons.inj heq).1 (by decide)
    · obtain ⟨piece, hsplit, ⟨hlong, -⟩ | hpiece⟩ := escapeFrom_cons hc false 0 t
      · cases hlong
      · rw [hsplit, List.append_assoc] at heq
        exact hpiece.head?_ne (by decide) _ (congrArg List.head? heq)

/-- **A string is read as it was written**, whatever stands after it. -/
theorem string?_writeString (t : Text) (hrest : Ends rest) :
    string? (writeString t ++ rest) = some (t, rest) := by
  have hquote := hrest.head?_ne .quote
  have happ := hrest.head?_ne .apostrophe
  unfold writeString
  simp only
  split
  case h_1 =>
    rw [List.append_assoc]
    show string? ('"' :: (escapeFrom false 0 t ++ '"' :: rest)) = some (t, rest)
    rw [string?_basic (escapeFrom_ne hquote), basic?_escapeFrom t rest]
    simp only [List.length_append, List.length_cons]
    omega
  case h_2 hliteral =>
    have ht := of_quoting_literal hliteral
    rw [List.append_assoc]
    show string? ('\'' :: (t ++ '\'' :: rest)) = some (t, rest)
    rw [string?_literal, literal?_append ht]
    intro more heq
    cases t with
    | nil => exact happ (congrArg List.head? (List.cons.inj heq).2)
    | cons c t => exact (ht c List.mem_cons_self).2 (List.cons.inj heq).1
  case h_3 =>
    have hread := longString?_body .quote (longBody_escapeFrom t (Nat.zero_le 2)) hquote
    rw [List.append_assoc, List.append_assoc, List.append_assoc]
    rw [List.append_assoc] at hread
    exact hread
  case h_4 hlong =>
    obtain ⟨hcontrol, htriple⟩ := of_quoting_longLiteral hlong
    have hread := longString?_body .apostrophe (longBody_self hcontrol htriple) happ
    rw [List.append_assoc, List.append_assoc, List.append_assoc]
    rw [List.append_assoc] at hread
    exact hread

end EditScript.Toml
