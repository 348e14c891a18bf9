import EditScript.Proofs.Toml.Values

/-!
# TOML documents

Tables with plain values are written under their headers, one pair on a line, and the document that
comes out stands for these tables.

* `Toml.Bare`, `Toml.Orderly`: keys that need no quotation marks, and tables that can be written.
* `Toml.find?_concat`, `Toml.put_concat`: the last entry of a table is the one that lines add to.
* `Toml.Reads`: what the rest of a document comes to, and one lemma for each kind of line
  (`Toml.Reads.blank`, `Toml.Reads.header`, `Toml.Reads.pair`).
* `Toml.document?_writeTables`: a whole document, by induction on its tables and on their pairs.
-/

namespace EditScript.Toml

/-- A key that is written without quotation marks. -/
structure Bare (key : Text) : Prop where
  ne_nil : key ≠ []
  bare : ∀ c ∈ key, isBareChar c = true

instance (key : Text) : Decidable (Bare key) :=
  decidable_of_iff (key ≠ [] ∧ key.all isBareChar = true)
    ⟨fun h => ⟨h.1, List.all_eq_true.1 h.2⟩, fun h => ⟨h.ne_nil, List.all_eq_true.2 h.bare⟩⟩

/-- Pairs that can be written into one table. -/
structure OrderlyPairs (pairs : List (Text × Toml)) : Prop where
  bare : ∀ p ∈ pairs, Bare p.1
  plain : ∀ p ∈ pairs, Plain p.2
  distinct : (pairs.map Prod.fst).Nodup

/-- Tables that can be written into one document. -/
structure Orderly (tables : List (Text × List (Text × Toml))) : Prop where
  bare : ∀ table ∈ tables, Bare table.1
  pairs : ∀ table ∈ tables, OrderlyPairs table.2
  distinct : (tables.map Prod.fst).Nodup

/-- The table as the entry that its header opens. -/
def entryOf (table : Text × List (Text × Toml)) : Text × Toml := (table.1, .table .header table.2)

variable {key name rest t : Text} {v w : Toml} {entries root done pairs : List (Text × Toml)}
  {d : Draft} {path : List Text}

/-! ## Entries -/

/-- The entries have no such key. -/
def Absent (key : Text) (entries : List (Text × Toml)) : Prop := ∀ e ∈ entries, e.1 ≠ key

theorem find?_of_absent (h : Absent key entries) : find? key entries = none := by
  have hnone : entries.find? (fun e => decide (e.1 = key)) = none :=
    List.find?_eq_none.2 fun e he => by simpa using h e he
  rw [find?, hnone]
  rfl

theorem find?_concat (h : Absent key entries) (v : Toml) :
    find? key (entries ++ [(key, v)]) = some v := by
  have hnone : entries.find? (fun e => decide (e.1 = key)) = none :=
    List.find?_eq_none.2 fun e he => by simpa using h e he
  simp [find?, List.find?_append, hnone]

theorem put_of_absent (h : Absent key entries) (v : Toml) :
    put key v entries = entries ++ [(key, v)] := by
  have hnone : (entries.any fun e => decide (e.1 = key)) = false :=
    List.any_eq_false.2 fun e he => by simpa using h e he
  simp [put, hnone]

theorem put_concat (h : Absent key entries) (v w : Toml) :
    put key w (entries ++ [(key, v)]) = entries ++ [(key, w)] := by
  have hany : ((entries ++ [(key, v)]).any fun e => decide (e.1 = key)) = true := by simp
  have hkeep : entries.map (fun e => if e.1 = key then (key, w) else e) = entries := by
    refine (List.map_congr_left fun e he => ?_).trans (List.map_id entries)
    exact if_neg (h e he)
  rw [put, if_pos hany, List.map_append, hkeep]
  simp

/-- A new key is defined after the others. -/
theorem define?_of_absent (h : Absent key entries) (v : Toml) :
    define? key v entries = some (entries ++ [(key, v)]) := by
  simp [define?, find?_of_absent h]

/-- A header opens a table after the others. -/
theorem openTable_of_absent (h : Absent name root) :
    within (openTable name) [] root = some (root ++ [(name, .table .header [])]) := by
  rw [within, openTable, find?_of_absent h]
  simp only [put_of_absent h]

/-- A pair is added to the table that has been opened last. -/
theorem assign_concat (hname : Absent name root) (hkey : Absent key done) (v : Toml) :
    within (assign v key []) [name] (root ++ [(name, .table .header done)]) =
      some (root ++ [(name, .table .header (done ++ [(key, v)]))]) := by
  rw [within, find?_concat hname]
  simp only [within, assign, define?_of_absent hkey, Option.bind_eq_bind, Option.bind_some,
    put_concat hname]
  rfl

/-! ## Keys -/

/-- A bare key ends where something else begins. -/
theorem simpleKey?_append {c : Char} (h : Bare key) (hc : isBareChar c = false) (rest : Text) :
    simpleKey? (key ++ c :: rest) = some (key, c :: rest) := by
  obtain ⟨first, more, rfl⟩ := List.exists_cons_of_ne_nil h.ne_nil
  have hfirst := h.bare first List.mem_cons_self
  have htake : (first :: more ++ c :: rest).takeWhile isBareChar = first :: more := by
    rw [List.takeWhile_append_of_pos h.bare]
    simp [hc]
  have hdrop : (first :: more ++ c :: rest).dropWhile isBareChar = c :: rest := by
    rw [List.dropWhile_append_of_pos h.bare]
    simp [hc]
  unfold simpleKey?
  split
  · rename_i heq
    exact absurd hfirst ((List.cons.inj heq).1 ▸ by decide)
  · rename_i heq
    exact absurd hfirst ((List.cons.inj heq).1 ▸ by decide)
  · simp only [htake, hdrop]
    exact if_neg (List.cons_ne_nil first more)

theorem Bare.skipSpaces (h : Bare key) (rest : Text) : skipSpaces (key ++ rest) = key ++ rest := by
  obtain ⟨first, more, rfl⟩ := List.exists_cons_of_ne_nil h.ne_nil
  have hfirst := h.bare first List.mem_cons_self
  have hspace : isSpace first = false := by
    refine Bool.eq_false_iff.2 fun hs => ?_
    simp only [isSpace, Bool.or_eq_true, beq_iff_eq] at hs
    obtain rfl | rfl := hs <;> cases hfirst
  simp [Toml.skipSpaces, hspace]

/-- A key of one part, with something other than a dot after it. -/
theorem key?_append {c d : Char} {more : Text} (h : Bare key) (hc : isBareChar c = false)
    (hskip : skipSpaces (c :: rest) = d :: more) (hdot : d ≠ '.') :
    key? (key ++ c :: rest) = some ([key], d :: more) := by
  have hparts (bound : Nat) :
      keyParts? (bound + 1) (key ++ c :: rest) = some ([key], d :: more) := by
    rw [keyParts?, h.skipSpaces, simpleKey?_append h hc]
    simp only [Option.bind_eq_bind, Option.bind_some, hskip]
    split
    · rename_i heq
      exact absurd (List.cons.inj heq).1 hdot
    · rfl
  rw [key?, hparts]
  rfl

/-! ## Lines -/

/-- A value is written without a space in front. -/
theorem Plain.skipSpaces (h : Plain v) (rest : Text) :
    skipSpaces (write v ++ rest) = write v ++ rest := by
  have hfirst : ∃ c more, write v = c :: more ∧ isSpace c = false := by
    cases h with
    | flat h =>
      obtain ⟨c, more, heq, hsolid, -⟩ := h.exists_write_eq
      exact ⟨c, more, heq, hsolid.not_space⟩
    | @array items =>
      match items with
      | [] => exact ⟨'[', _, rfl, rfl⟩
      | [v] => exact ⟨'[', _, rfl, rfl⟩
      | v :: w :: items => exact ⟨'[', _, rfl, rfl⟩
  obtain ⟨c, more, heq, hspace⟩ := hfirst
  simp [heq, Toml.skipSpaces, hspace]

/-- A pair as it stands on its line. -/
theorem pair?_writePair (hkey : Bare key) (hv : Plain v) (depth : Nat) (rest : Text) :
    pair? (value? (depth + 1)) (writePair (key, v) ++ rest) =
      some (assign v key [], '\n' :: rest) := by
  let more := write v ++ '\n' :: rest
  have htext : writePair (key, v) ++ rest = key ++ ' ' :: '=' :: ' ' :: more := by
    simp [writePair, more]
  have hread : key? (writePair (key, v) ++ rest) = some ([key], '=' :: ' ' :: more) := by
    rw [htext]
    exact key?_append hkey rfl rfl (by decide)
  have hskip : skipSpaces (' ' :: more) = more := hv.skipSpaces ('\n' :: rest)
  have hvalue : value? (depth + 1) more = some (v, '\n' :: rest) :=
    hv.value?_write (ends_feed rest) depth
  unfold pair?
  simp only [hread, Option.bind_eq_bind, Option.bind_some, hskip, hvalue]
  rfl

/-- What the rest of a document makes of the table that has been read so far. -/
def Reads (d : Draft) (t : Text) (root : List (Text × Toml)) : Prop :=
  ∀ bound, t.length < bound → (lines? bound d t).map Draft.root = some root

theorem Reads.nil (d : Draft) : Reads d [] d.root := by
  intro bound hbound
  obtain ⟨bound, rfl⟩ : ∃ n, bound = n + 1 := ⟨bound - 1, by omega⟩
  rfl

/-- One line, up to the line feed at its end. -/
theorem Reads.line {next : Draft} (hstart : lineStart? d t = some (next, '\n' :: rest))
    (hlt : rest.length < t.length) (h : Reads next rest root) : Reads d t root := by
  intro bound hbound
  obtain ⟨bound, rfl⟩ : ∃ n, bound = n + 1 := ⟨bound - 1, by omega⟩
  have hend : lineEnd? ('\n' :: rest) = some rest := rfl
  rw [lines?, hstart]
  simp only [Option.bind_eq_bind, Option.bind_some, hend]
  split
  · rename_i hrest
    -- Nothing is left, and nothing more is read.
    subst hrest
    exact h 1 Nat.one_pos
  · exact h bound (by omega)

/-- An empty line. -/
theorem Reads.blank (h : Reads d rest root) : Reads d ('\n' :: rest) root :=
  .line rfl (by simp) h

/-- A bare key does not begin with a character that means something else. -/
theorem Bare.ne_cons {c : Char} (h : Bare key) (hc : isBareChar c = false) (rest more : Text) :
    key ++ rest ≠ c :: more := by
  obtain ⟨first, tail, rfl⟩ := List.exists_cons_of_ne_nil h.ne_nil
  intro heq
  have hfirst := h.bare first List.mem_cons_self
  rw [(List.cons.inj heq).1, hc] at hfirst
  cases hfirst

/-- A header of one key opens a table. -/
theorem header?_append (hname : Bare name) (habsent : Absent name entries) (path : List Text)
    (rest : Text) :
    header? ⟨entries, path⟩ (name ++ ']' :: rest) =
      some (⟨entries ++ [(name, .table .header [])], [name]⟩, rest) := by
  have hkey : key? (name ++ ']' :: rest) = some ([name], ']' :: rest) :=
    key?_append hname rfl rfl (by decide)
  unfold header?
  split
  · rename_i heq
    exact absurd heq (hname.ne_cons rfl _ _)
  · simp only [hkey, Option.bind_eq_bind, Option.bind_some, List.getLast?_singleton,
      List.dropLast_singleton, openTable_of_absent habsent]
    rfl

/-- A header. -/
theorem Reads.header (hname : Bare name) (habsent : Absent name entries)
    (h : Reads ⟨entries ++ [(name, .table .header [])], [name]⟩ rest root) :
    Reads ⟨entries, path⟩ ('[' :: (name ++ ']' :: '\n' :: rest)) root := by
  refine .line (header?_append hname habsent path ('\n' :: rest)) ?_ h
  simp only [List.length_cons, List.length_append]
  omega

/-- What begins with a bare key is a pair. -/
theorem lineStart?_bare (hkey : Bare key) (d : Draft) (rest : Text) :
    lineStart? d (key ++ rest) = (do
      let (change, rest) ← pair? (value? (maxDepth - 1)) (key ++ rest)
      return (⟨← within change d.path d.root, d.path⟩, rest)) := by
  have hnil : key ++ rest ≠ [] := fun h => hkey.ne_nil (List.append_eq_nil_iff.1 h).1
  have hcomment : (key ++ rest).head? ≠ some '#' := by
    intro hhead
    obtain ⟨more, heq⟩ := List.head?_eq_some_iff.1 hhead
    exact hkey.ne_cons rfl _ _ heq
  have hbreak : lineBreak? (key ++ rest) = none := by
    unfold lineBreak?
    split
    · rename_i heq
      exact absurd heq (hkey.ne_cons rfl _ _)
    · rename_i heq
      exact absurd heq (hkey.ne_cons rfl _ _)
    · rfl
  have hmore : ¬ (key ++ rest = [] ∨ (key ++ rest).head? = some '#' ∨
      (lineBreak? (key ++ rest)).isSome = true) := by
    rw [hbreak]
    exact fun h => h.elim hnil fun h => h.elim hcomment Bool.false_ne_true
  unfold lineStart?
  rw [hkey.skipSpaces]
  split
  · rename_i heq
    exact absurd heq (hkey.ne_cons rfl _ _)
  · rw [if_neg hmore]

/-- A pair. -/
theorem Reads.pair (hname : Absent name entries) (hkey : Bare key) (habsent : Absent key done)
    (hv : Plain v)
    (h : Reads ⟨entries ++ [(name, .table .header (done ++ [(key, v)]))], [name]⟩ rest root) :
    Reads ⟨entries ++ [(name, .table .header done)], [name]⟩ (writePair (key, v) ++ rest) root := by
  refine .line ?_ ?_ h
  · have htext :
        writePair (key, v) ++ rest = key ++ (" = ".toList ++ write v ++ ['\n'] ++ rest) := by
      simp [writePair]
    have hpair := pair?_writePair hkey hv (maxDepth - 2) rest
    rw [htext] at hpair ⊢
    have hdepth : maxDepth - 2 + 1 = maxDepth - 1 := rfl
    rw [hdepth] at hpair
    rw [lineStart?_bare hkey]
    simp only [hpair, Option.bind_eq_bind, Option.bind_some, assign_concat hname habsent]
    rfl
  · simp [writePair]
    omega

/-- The key of an entry does not occur before it. -/
theorem absent_of_nodup {e : Text × Toml} {later : List (Text × Toml)}
    (h : ((entries ++ e :: later).map Prod.fst).Nodup) : Absent e.1 entries := by
  rw [List.map_append, List.map_cons] at h
  intro e' he' heq
  exact (List.nodup_append.1 h).2.2 e'.1 (List.mem_map_of_mem he') e.1 List.mem_cons_self heq

/-- The pairs of a table, added one after the other. -/
theorem Reads.body (hname : Absent name entries) (hpairs : OrderlyPairs (done ++ pairs))
    (h : Reads ⟨entries ++ [(name, .table .header (done ++ pairs))], [name]⟩ rest root) :
    Reads ⟨entries ++ [(name, .table .header done)], [name]⟩ (pairs.flatMap writePair ++ rest)
      root := by
  induction pairs generalizing done with
  | nil => simpa using h
  | cons p pairs ih =>
    have hmem : p ∈ done ++ p :: pairs := by simp
    have habsent : Absent p.1 done := absent_of_nodup hpairs.distinct
    have hkey := hpairs.bare p hmem
    have hv := hpairs.plain p hmem
    have hsplit : done ++ p :: pairs = done ++ [p] ++ pairs := by simp
    rw [hsplit] at hpairs h
    rw [List.flatMap_cons, List.append_assoc]
    exact .pair hname hkey habsent hv (ih hpairs h)

/-! ## Tables -/

/-- A table with its header. -/
theorem Reads.table {table : Text × List (Text × Toml)} (hname : Bare table.1)
    (habsent : Absent table.1 entries) (hpairs : OrderlyPairs table.2)
    (h : Reads ⟨entries ++ [entryOf table], [table.1]⟩ rest root) :
    Reads ⟨entries, path⟩ (writeTable table ++ rest) root := by
  have htext : writeTable table ++ rest =
      '[' :: (table.1 ++ ']' :: '\n' :: (table.2.flatMap writePair ++ rest)) := by
    simp [writeTable]
  rw [htext]
  exact .header hname habsent (.body habsent hpairs h)

/-- Tables with empty lines between them. -/
theorem Reads.tables {tables : List (Text × List (Text × Toml))}
    (hbare : ∀ table ∈ tables, Bare table.1)
    (hpairs : ∀ table ∈ tables, OrderlyPairs table.2)
    (hdistinct : ((entries ++ tables.map entryOf).map Prod.fst).Nodup) :
    Reads ⟨entries, path⟩ (writeTables tables) (entries ++ tables.map entryOf) := by
  induction tables generalizing entries path with
  | nil =>
    rw [List.map_nil, List.append_nil]
    exact .nil _
  | cons table tables ih =>
    obtain ⟨hname, hbare⟩ := List.forall_mem_cons.1 hbare
    obtain ⟨hbody, hpairs⟩ := List.forall_mem_cons.1 hpairs
    have habsent : Absent table.1 entries := absent_of_nodup hdistinct
    have hsplit : entries ++ (table :: tables).map entryOf =
        entries ++ [entryOf table] ++ tables.map entryOf := by simp
    rw [hsplit] at hdistinct ⊢
    have hlater (path : List Text) : Reads ⟨entries ++ [entryOf table], path⟩ (writeTables tables)
        (entries ++ [entryOf table] ++ tables.map entryOf) := ih hbare hpairs hdistinct
    cases tables with
    | nil =>
      have hread : Reads ⟨entries, path⟩ (writeTable table ++ []) (entries ++ [entryOf table]) :=
        .table hname habsent hbody (.nil _)
      simpa [writeTables] using hread
    | cons next tables =>
      have htext : writeTables (table :: next :: tables) =
          writeTable table ++ '\n' :: writeTables (next :: tables) := by
        simp [writeTables]
      rw [htext]
      exact .table hname habsent hbody (.blank (hlater _))

theorem writeTables_cons (table : Text × List (Text × Toml))
    (tables : List (Text × List (Text × Toml))) :
    ∃ more, writeTables (table :: tables) = '[' :: more := by
  cases tables with
  | nil =>
    rw [writeTables, List.map_singleton, List.intercalate_singleton]
    exact ⟨_, rfl⟩
  | cons next tables =>
    rw [writeTables, List.map_cons, List.map_cons, List.intercalate_cons_cons]
    exact ⟨_, rfl⟩

/-- **A document stands for the tables that it was written for.** -/
theorem document?_writeTables {tables : List (Text × List (Text × Toml))} (h : Orderly tables) :
    document? (writeTables tables) = some (tables.map entryOf) := by
  have hreads : Reads ⟨[], []⟩ (writeTables tables) (tables.map entryOf) := by
    refine .tables h.bare h.pairs ?_
    have hkeys : ([] ++ tables.map entryOf).map Prod.fst = tables.map Prod.fst := by
      rw [List.nil_append, List.map_map]
      rfl
    rw [hkeys]
    exact h.distinct
  have hmark : (writeTables tables).head? ≠ some '\ufeff' := by
    cases tables with
    | nil => exact nofun
    | cons table tables =>
      obtain ⟨more, heq⟩ := writeTables_cons table tables
      rw [heq]
      exact fun h => absurd (Option.some.inj h) (by decide)
  unfold document?
  rw [if_neg hmark]
  exact hreads _ (Nat.lt_succ_self _)

end EditScript.Toml
