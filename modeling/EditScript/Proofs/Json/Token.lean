import Mathlib.Data.List.TakeDrop
import Mathlib.Data.List.TakeWhile
import EditScript.Json.Token
import EditScript.Json.Writer
import EditScript.Proofs.Text.Numeral

/-!
# The tokens of a written value

A document that is written is scanned again character by character.

* `Json.tokens`: the tokens that a value is written with. A number that no double can hold comes
  back broken (`Json.plainWritten`).
* `Json.Token.Spells`: a text is scanned as these tokens, whatever stands before it. The last word
  of a text need not have ended, so a mark or a blank has to follow before the next word does.
* `Json.spells_prettyAt`: a value that is written over several lines spells its tokens.
-/

namespace EditScript.Json

/-- The value that is read where a value without parts has been written. -/
def plainWritten : Json → Json
  | bool b => bool b
  | nat n => if Text.exceedsDouble n 0 then broken else nat n
  | string t => string t
  | _ => null

/-- The token of a value without parts. -/
def plainToken : Json → Token
  | string t => .text (some t)
  | v => .scalar (plainWritten v)

mutual

/-- The tokens that a value is written with. -/
def tokens : Json → List Token
  | array items => .mark '[' :: itemTokens items ++ [.mark ']']
  | object members => .mark '\x7b' :: memberTokens members ++ [.mark '\x7d']
  | v => [plainToken v]

/-- The tokens of several values, with commas between them. -/
def itemTokens : List Json → List Token
  | [] => []
  | [v] => tokens v
  | v :: rest => tokens v ++ .mark ',' :: itemTokens rest

/-- The tokens of several members, with commas between them. -/
def memberTokens : List (Option Text × Json) → List Token
  | [] => []
  | [(key, v)] => .text (some (key.getD [])) :: .mark ':' :: tokens v
  | (key, v) :: rest =>
    .text (some (key.getD [])) :: .mark ':' :: tokens v ++ .mark ',' :: memberTokens rest

end

namespace Token

variable {s : Scan} {t u : Text} {c : Char} {ts us : List Token}

/-- The tokens up to some place, the last first, where no string is open. A word that has not ended
counts as a token. -/
inductive Scan.Settled : Scan → List Token → Prop
  | idle (tokens : List Token) : Settled ⟨tokens, .idle⟩ tokens
  | word (tokens : List Token) (w : Text) : Settled ⟨tokens, .word w⟩ (ofWord w.reverse :: tokens)

theorem Scan.Settled.finish (h : s.Settled ts) : s.finish = ts.reverse := by
  cases h <;> rfl

/-- A character that is no part of a word begins something new. -/
theorem Scan.Settled.feed (h : s.Settled ts) (hc : isWordChar c = false) :
    s.feed c = .begin ts c := by
  cases h with
  | idle => rfl
  | word w => simp [Scan.feed, hc]

/-- After any tokens, the text is scanned as these. -/
def Spells (t : Text) (ts : List Token) : Prop :=
  ∀ before, Scan.Settled (t.foldl Scan.feed ⟨before, .idle⟩) (ts.reverse ++ before)

theorem Spells.ofDocument (h : Spells t ts) : ofDocument t = ts := by
  have hfinish := (h []).finish
  rwa [List.append_nil, List.reverse_reverse] at hfinish

theorem Spells.nil : Spells [] [] := fun before => .idle before

/-! ## Marks and blanks -/

theorem isWordChar_of_isSpace (h : isSpace c = true) : isWordChar c = false := by
  simp only [isSpace, Bool.or_eq_true, beq_iff_eq] at h
  obtain ((rfl | rfl) | rfl) | rfl := h <;> rfl

/-- A mark ends the word before it. -/
theorem Spells.mark (ht : Spells t ts) (hc : c ∈ "[]{}:,".toList) (hu : Spells u us) :
    Spells (t ++ c :: u) (ts ++ .mark c :: us) := by
  have hmarks : "[]{}:,".toList.all fun c =>
      decide (isWordChar c = false ∧ isSpace c = false ∧ c ≠ '"') := by decide
  obtain ⟨hword, hspace, hquote⟩ := of_decide_eq_true (List.all_eq_true.1 hmarks c hc)
  intro before
  have hbegin (tokens : List Token) : Scan.begin tokens c = ⟨.mark c :: tokens, .idle⟩ := by
    simp only [Scan.begin, hspace, hquote, hword, List.contains_iff_mem.2 hc, if_true, if_false,
      Bool.false_eq_true]
  rw [List.foldl_append, List.foldl_cons, (ht before).feed hword, hbegin]
  simpa using hu (.mark c :: (ts.reverse ++ before))

/-- So does a blank, which is no token. -/
theorem Spells.space (ht : Spells t ts) (hc : isSpace c = true) (hu : Spells u us) :
    Spells (t ++ c :: u) (ts ++ us) := by
  intro before
  rw [List.foldl_append, List.foldl_cons, (ht before).feed (isWordChar_of_isSpace hc),
    Scan.begin, if_pos hc]
  simpa using hu (ts.reverse ++ before)

/-- Blanks before a text are no tokens. -/
theorem Spells.indent (ht : ∀ c ∈ t, isSpace c = true) (hu : Spells u us) : Spells (t ++ u) us := by
  induction t with
  | nil => exact hu
  | cons c t ih =>
    exact Spells.nil.space (ht c List.mem_cons_self)
      (ih fun c hc => ht c (List.mem_cons_of_mem _ hc))

/-- A new line keeps two texts apart. -/
theorem Spells.newLine (ht : Spells t ts) (level : Nat) (hu : Spells u us) :
    Spells (t ++ newLine level ++ u) (ts ++ us) := by
  have hspaces : ∀ c ∈ List.replicate (2 * level) ' ', isSpace c = true :=
    fun c hc => List.eq_of_mem_replicate hc ▸ rfl
  rw [List.append_assoc]
  exact ht.space rfl (hu.indent hspaces)

/-! ## Words -/

theorem begin_word (h : isWordChar c = true) (tokens : List Token) :
    Scan.begin tokens c = ⟨tokens, .word [c]⟩ := by
  have hspace : isSpace c = false :=
    Bool.eq_false_iff.2 fun hs => Bool.noConfusion ((isWordChar_of_isSpace hs).symm.trans h)
  have hquote : c ≠ '"' := fun hq => absurd (hq ▸ h) (by decide)
  simp only [Scan.begin, hspace, hquote, h, if_true, if_false, Bool.false_eq_true]

theorem foldl_word (h : t.all isWordChar = true) (tokens : List Token) (w : Text) :
    t.foldl Scan.feed ⟨tokens, .word w⟩ = ⟨tokens, .word (t.reverse ++ w)⟩ := by
  induction t generalizing w with
  | nil => rfl
  | cons c t ih =>
    obtain ⟨hc, ht⟩ := Bool.and_eq_true_iff.1 h
    have hfeed : Scan.feed ⟨tokens, .word w⟩ c = ⟨tokens, .word (c :: w)⟩ := if_pos hc
    rw [List.foldl_cons, hfeed, ih ht]
    simp

theorem Spells.word (hne : t ≠ []) (h : t.all isWordChar = true) : Spells t [ofWord t] := by
  intro before
  obtain ⟨c, rest, rfl⟩ := List.exists_cons_of_ne_nil hne
  obtain ⟨hc, hrest⟩ := Bool.and_eq_true_iff.1 h
  have hbegin : Scan.feed ⟨before, .idle⟩ c = ⟨before, .word [c]⟩ := begin_word hc before
  rw [List.foldl_cons, hbegin, foldl_word hrest]
  simpa using Scan.Settled.word before (rest.reverse ++ [c])

/-! ## Strings -/

/-- The part of a string that a character is written as. Only a numeric escape takes six
characters. -/
def writtenPiece (c : Char) : Piece :=
  if (escape c).length = 6 then .unit c.toNat else .char c

theorem feed_inside (hquote : c ≠ '"') (hslash : c ≠ '\\') (tokens : List Token) (body : Text) :
    Scan.feed ⟨tokens, .text body false⟩ c = ⟨tokens, .text (c :: body) false⟩ := by
  simp [Scan.feed, hquote, hslash]

theorem digitChar_hex : ∀ n < 16,
    Nat.digitChar n ≠ '"' ∧ Nat.digitChar n ≠ '\\' ∧ hexValue (Nat.digitChar n) = some n := by
  decide

/-- An escape sequence does not end the string that it stands in. -/
theorem foldl_escape (tokens : List Token) (body : Text) (c : Char) :
    (escape c).foldl Scan.feed ⟨tokens, .text body false⟩ =
      ⟨tokens, .text ((escape c).reverse ++ body) false⟩ := by
  unfold escape
  split
  case h_8 hquote hslash _ _ _ _ _ =>
    split
    · have hhigh := digitChar_hex (c.toNat / 16) (by omega)
      have hlow := digitChar_hex (c.toNat % 16) (by omega)
      -- The backslash shields the letter, and zeros are nothing special.
      show List.foldl Scan.feed ⟨tokens, .text ('0' :: '0' :: 'u' :: '\\' :: body) false⟩
        [Nat.digitChar (c.toNat / 16), Nat.digitChar (c.toNat % 16)] = _
      rw [List.foldl_cons, feed_inside hhigh.1 hhigh.2.1, List.foldl_cons,
        feed_inside hlow.1 hlow.2.1]
      rfl
    · exact feed_inside hquote hslash tokens body
  all_goals rfl

theorem foldl_escapes (tokens : List Token) (body t : Text) :
    (t.flatMap escape).foldl Scan.feed ⟨tokens, .text body false⟩ =
      ⟨tokens, .text ((t.flatMap escape).reverse ++ body) false⟩ := by
  induction t generalizing body with
  | nil => rfl
  | cons c t ih =>
    rw [List.flatMap_cons, List.foldl_append, foldl_escape, ih]
    simp

/-- A character is read back from its escape sequence as one part of the string. -/
theorem pieces_escape (c : Char) (rest : Text) :
    pieces (escape c ++ rest) = (pieces rest).map (writtenPiece c :: ·) := by
  unfold writtenPiece escape
  split
  case h_8 hquote hslash _ _ _ _ _ =>
    split
    · have hhigh := digitChar_hex (c.toNat / 16) (by omega)
      have hlow := digitChar_hex (c.toNat % 16) (by omega)
      have hunit : hexUnit '0' '0' (Nat.digitChar (c.toNat / 16)) (Nat.digitChar (c.toNat % 16)) =
          some c.toNat := by
        have hzero : hexValue '0' = some 0 := rfl
        have hvalue : c.toNat / 16 * 16 + c.toNat % 16 = c.toNat := Nat.div_add_mod' _ _
        simp [hexUnit, hzero, hhigh.2.2, hlow.2.2, hvalue]
      show pieces ('\\' :: 'u' :: '0' :: '0' :: _ :: _ :: rest) = _
      rw [pieces, hunit]
      cases pieces rest <;> rfl
    · rename_i hcontrol
      have hplain : ¬ (c = '\\' ∨ c.toNat < 0x20) := not_or.2 ⟨hslash, hcontrol⟩
      show pieces (c :: rest) = _
      rw [pieces, if_neg hplain]
      · cases pieces rest <;> rfl
      -- The alternatives for escape sequences begin with a backslash.
      · exact fun _ _ _ _ _ hc _ => hslash hc
      · exact fun _ _ hc _ => hslash hc
  all_goals
    show pieces ('\\' :: _ :: rest) = _
    cases h : pieces rest <;> simp [pieces, escaped, h]

/-- A numeric escape stands for a control character, never for half a surrogate pair. -/
theorem join_writtenPiece (c : Char) (ps : List Piece) :
    join (writtenPiece c :: ps) = (join ps).map (c :: ·) := by
  unfold writtenPiece
  split
  · have hcontrol : c.toNat < 0x20 := by
      rename_i h
      unfold escape at h
      split at h
      case h_8 =>
        split at h
        · assumption
        · cases h
      all_goals cases h
    have hhigh : isHigh c.toNat = false := by simp [isHigh]; omega
    have hlow : isLow c.toNat = false := by simp [isLow]; omega
    cases ps with
    | nil => simp [join, hhigh, hlow]
    | cons p ps => cases p <;> simp [join, hhigh, hlow]
  · rfl

theorem pieces_escapes (t : Text) : pieces (t.flatMap escape) = some (t.map writtenPiece) := by
  induction t with
  | nil => rfl
  | cons c t ih => rw [List.flatMap_cons, pieces_escape, ih]; rfl

theorem join_writtenPieces (t : Text) : join (t.map writtenPiece) = some t := by
  induction t with
  | nil => rfl
  | cons c t ih => rw [List.map_cons, join_writtenPiece, ih]; rfl

theorem Spells.quote (t : Text) : Spells (quote t) [.text (some t)] := by
  have hbody : ofBody (t.flatMap escape) = .text (some t) := by
    unfold ofBody
    rw [pieces_escapes, ← join_writtenPieces t]
  intro before
  unfold Json.quote
  rw [List.cons_append, List.foldl_cons, List.foldl_append]
  have hopen : Scan.feed ⟨before, .idle⟩ '"' = ⟨before, .text [] false⟩ := rfl
  have hclose : Scan.feed ⟨before, .text (t.flatMap escape).reverse false⟩ '"' =
      ⟨.text (some t) :: before, .idle⟩ := by
    rw [← hbody]
    simp [Scan.feed]
  rw [hopen, foldl_escapes, List.append_nil, List.foldl_cons, hclose]
  exact .idle (.text (some t) :: before)

/-! ## Numbers -/

theorem number?_decimal (n : Nat) : number? (Text.decimal n) = some (plainWritten (.nat n)) := by
  have hnumeral := Text.numeral_decimal n
  have hdigits : digits (Text.decimal n) = (Text.decimal n, []) := by
    unfold digits
    rw [List.span_eq_takeWhile_dropWhile, List.takeWhile_eq_self_iff.2 hnumeral.isDigit,
      List.dropWhile_eq_nil_iff.2 hnumeral.isDigit]
  have hzero : ¬ (Text.decimal n = [] ∨
      (Text.decimal n).head? = some '0' ∧ (Text.decimal n).length ≠ 1) := by
    rintro (h | ⟨hhead, hlength⟩)
    · exact hnumeral.ne_nil h
    · rw [Text.eq_zero_of_head?_decimal n hhead] at hlength
      exact hlength rfl
  unfold number?
  split
  rename_i hsplit
  split at hsplit
  · rename_i digits hminus
    exact absurd (hnumeral.isDigit '-' (hminus ▸ List.mem_cons_self)) (by decide)
  · cases hsplit
    rw [hdigits]
    refine (if_neg hzero).trans ?_
    simp only [fraction?, exponent?, Option.bind_eq_bind, Option.bind_some, List.append_nil,
      hnumeral.ofDigitChars, List.length_nil, plainWritten]
    split <;> simp_all

theorem ofWord_decimal (n : Nat) : ofWord (Text.decimal n) = plainToken (.nat n) := by
  have hdigits : (Text.decimal n).all Char.isDigit = true :=
    List.all_eq_true.2 (Text.numeral_decimal n).isDigit
  have hword (w : Text) (hw : w.all Char.isDigit = false) : Text.decimal n ≠ w := by
    rintro rfl
    exact Bool.noConfusion (hw.symm.trans hdigits)
  unfold ofWord
  rw [if_neg (hword _ (by decide)), if_neg (hword _ (by decide)), if_neg (hword _ (by decide)),
    number?_decimal]
  rfl

theorem Spells.plain (v : Json) : Spells (plain v) [plainToken v] := by
  cases v with
  | bool b =>
    cases b with
    | false => exact .word (by decide) (by decide)
    | true => exact .word (by decide) (by decide)
  | nat n =>
    rw [← ofWord_decimal]
    have hnumeral := Text.numeral_decimal n
    refine .word hnumeral.ne_nil (List.all_eq_true.2 fun c hc => ?_)
    have hdigit := hnumeral.isDigit c hc
    simp [isWordChar, Char.isAlphanum, hdigit]
  | string t => exact .quote t
  | null | number | broken | array | object =>
    show Spells "null".toList [ofWord "null".toList]
    exact .word (by decide) (by decide)

end Token

/-! ## Whole values -/

open Token

/-- A key and its value. -/
theorem spells_member {before value : Text} {ts us : List Token} (hbefore : Spells before ts)
    (level : Nat) (key : Option Text) (hvalue : Spells value us) :
    Spells (before ++ newLine level ++ quote (key.getD []) ++ ": ".toList ++ value)
      (ts ++ .text (some (key.getD [])) :: .mark ':' :: us) := by
  have hkey := hbefore.newLine level (.quote (key.getD []))
  have hspace : Spells (' ' :: value) us := Spells.nil.space rfl hvalue
  have hmark := hkey.mark (c := ':') (by decide) hspace
  rw [List.append_assoc _ ": ".toList]
  rwa [List.append_assoc ts] at hmark

mutual

theorem spells_prettyAt : ∀ (v : Json) (level : Nat), Spells (prettyAt level v) (tokens v)
  | array [], _ => Spells.nil.mark (by decide) (Spells.nil.mark (by decide) .nil)
  | array (v :: rest), level => by
    have hitems := spells_prettyItems (v :: rest) (level + 1)
    have hclose : Spells [']'] [.mark ']'] := Spells.nil.mark (by decide) .nil
    exact (Spells.nil.mark (by decide) hitems).newLine level hclose
  | object [], _ => Spells.nil.mark (by decide) (Spells.nil.mark (by decide) .nil)
  | object (m :: rest), level => by
    have hmembers := spells_prettyMembers (m :: rest) (level + 1)
    have hclose : Spells ['\x7d'] [.mark '\x7d'] := Spells.nil.mark (by decide) .nil
    exact (Spells.nil.mark (by decide) hmembers).newLine level hclose
  | null, _ => .plain null
  | bool b, _ => .plain (bool b)
  | nat n, _ => .plain (nat n)
  | number, _ => .plain number
  | string t, _ => .plain (string t)
  | broken, _ => .plain broken

theorem spells_prettyItems : ∀ (items : List Json) (level : Nat),
    Spells (prettyItems level items) (itemTokens items)
  | [], _ => .nil
  | [v], level => Spells.nil.newLine level (spells_prettyAt v level)
  | v :: w :: rest, level => by
    have hfirst := Spells.nil.newLine level (spells_prettyAt v level)
    exact hfirst.mark (by decide) (spells_prettyItems (w :: rest) level)

theorem spells_prettyMembers : ∀ (members : List (Option Text × Json)) (level : Nat),
    Spells (prettyMembers level members) (memberTokens members)
  | [], _ => .nil
  | [(key, v)], level => spells_member .nil level key (spells_prettyAt v level)
  | (key, v) :: m :: rest, level => by
    have hfirst := spells_member .nil level key (spells_prettyAt v level)
    exact hfirst.mark (by decide) (spells_prettyMembers (m :: rest) level)

end

end EditScript.Json
