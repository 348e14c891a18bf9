import EditScript.Codec.Document
import EditScript.Proofs.Toml.Documents

/-!
# Fields of a table

A table gives values to some of the fields that are known. The others keep the values that they have
without it, and so do all of them if there is no table.

* `Toml.Field`, `Toml.named`: a field with the value that it is given, and the pairs of a table that
  gives such values.
* `Toml.Give`, `Toml.Gives`: what entries give to fields, and what a table that may be missing does.
* `Toml.give_named`, `Toml.orderlyPairs_named`: a table of the given pairs gives them and can be
  written.
* `Toml.fields?_of_give`, `Toml.orDefault_of_gives`: reading the fields, and reading the table.
-/

namespace EditScript.Toml

/-- A field by its name, with the value that it is given, if any. -/
abbrev Field := String × Option Toml

/-- Fields can be told apart by their names, which need no quotation marks. -/
structure Nameable (fields : List Field) : Prop where
  distinct : (fields.map Prod.fst).Nodup
  bare : ∀ name ∈ fields.map Prod.fst, Bare name.toList

/-- The pairs of a table that gives these values. -/
def named (fields : List Field) : List (Text × Toml) :=
  fields.filterMap fun f => f.2.map (pair f.1)

/-- The entries give these values to the fields, and none to those without one. Whatever else they
hold does not matter. -/
def Give (fields : List Field) (entries : List (Text × Toml)) : Prop :=
  ∀ f ∈ fields, find? f.1.toList entries = f.2

/-- A table gives these values to the fields. A missing one gives none. -/
inductive Gives (fields : List Field) : Option Toml → Prop
  | missing (h : ∀ f ∈ fields, f.2 = none) : Gives fields none
  | table (origin : Origin) {entries : List (Text × Toml)} (h : Give fields entries) :
      Gives fields (some (.table origin entries))

variable {α : Type} {fields : List Field} {entries : List (Text × Toml)}
  {v? : Option Toml} {item? : Toml → Option α} {write : α → Toml}

/-! ## Pairs -/

theorem named_cons (f : Field) (fields : List Field) :
    named (f :: fields) = (f.2.map (pair f.1)).toList ++ named fields := by
  unfold named
  cases hf : f.2 <;> simp [hf]

theorem find?_pair (key : String) (v : Toml) (entries : List (Text × Toml)) :
    find? key.toList (pair key v :: entries) = some v := by
  simp [find?, pair]

theorem find?_pair_of_ne {key other : String} (h : other ≠ key) (v : Toml)
    (entries : List (Text × Toml)) :
    find? key.toList (pair other v :: entries) = find? key.toList entries := by
  have hkey : other.toList ≠ key.toList := fun heq => h (String.toList_inj.1 heq)
  simp [find?, pair, hkey]

/-- A key of the table is the name of a field. -/
theorem mem_of_mem_named {p : Text × Toml} (h : p ∈ named fields) :
    ∃ f ∈ fields, f.1.toList = p.1 ∧ f.2 = some p.2 := by
  obtain ⟨f, hf, hp⟩ := List.mem_filterMap.1 h
  obtain ⟨v, hv, rfl⟩ := Option.map_eq_some_iff.1 hp
  exact ⟨f, hf, rfl, hv⟩

/-- **A table gives what it was made for**, since each field has a name of its own. -/
theorem give_named (hdistinct : (fields.map Prod.fst).Nodup) : Give fields (named fields) := by
  induction fields with
  | nil => exact nofun
  | cons g fields ih =>
    rw [List.map_cons, List.nodup_cons] at hdistinct
    have hother (f : Field) (hf : f ∈ fields) : g.1 ≠ f.1 := fun heq =>
      hdistinct.1 (heq ▸ List.mem_map_of_mem hf)
    obtain ⟨key, v⟩ := g
    intro f hf
    rw [named_cons]
    cases v with
    | none =>
      obtain rfl | hf := List.mem_cons.1 hf
      · -- It has no pair, and no other field has its name.
        refine find?_of_absent fun p hp heq => ?_
        obtain ⟨g, hg, hname, -⟩ := mem_of_mem_named hp
        exact hother g hg (String.toList_inj.1 (hname.trans heq)).symm
      · exact ih hdistinct.2 f hf
    | some v =>
      obtain rfl | hf := List.mem_cons.1 hf
      · exact find?_pair key v _
      · exact (find?_pair_of_ne (hother f hf) v _).trans (ih hdistinct.2 f hf)

theorem keys_named_sublist (fields : List Field) :
    ((named fields).map Prod.fst).Sublist (fields.map fun f => f.1.toList) := by
  induction fields with
  | nil => exact .slnil
  | cons f fields ih =>
    rw [named_cons, List.map_append, List.map_cons]
    cases f.2 with
    | none => exact ih.cons _
    | some v => exact ih.cons_cons _

/-- A table of such pairs can be written. -/
theorem orderlyPairs_named (h : Nameable fields)
    (hplain : ∀ f ∈ fields, ∀ v, f.2 = some v → Plain v) : OrderlyPairs (named fields) where
  bare p hp := by
    obtain ⟨f, hf, hname, -⟩ := mem_of_mem_named hp
    exact hname ▸ h.bare f.1 (List.mem_map_of_mem hf)
  plain p hp := by
    obtain ⟨f, hf, -, hv⟩ := mem_of_mem_named hp
    exact hplain f hf p.2 hv
  distinct := by
    have hkeys : (fields.map fun f => f.1.toList).Nodup := by
      have hmap : ((fields.map Prod.fst).map String.toList).Nodup :=
        List.Pairwise.map String.toList (fun _ _ hne => mt String.toList_inj.1 hne) h.distinct
      rwa [List.map_map] at hmap
    exact hkeys.sublist (keys_named_sublist fields)

/-! ## Values -/

/-- A number. -/
def nat (n : Nat) : Toml := .integer n

/-- A list of strings. -/
def texts (ts : List Text) : Toml := .array (ts.map .string)

theorem text?_string (t : Text) : text? (.string t) = some t := rfl

theorem bool?_boolean (b : Bool) : bool? (.boolean b) = some b := rfl

theorem offset?_nat (n : Nat) : offset? (nat n) = some n := by
  simp [offset?, nat]

theorem texts?_texts (ts : List Text) : texts? (texts ts) = some ts := by
  show (ts.map string).mapM text? = some ts
  induction ts with
  | nil => rfl
  | cons t ts ih => simp [text?_string, ih]

theorem plain_string (t : Text) : Plain (.string t) := .flat (.string t)

theorem plain_boolean (b : Bool) : Plain (.boolean b) := .flat (.boolean b)

theorem plain_nat {n : Nat} (h : n < Text.signedLimit) : Plain (nat n) := by
  refine .flat (.integer ?_ ?_) <;> omega

theorem plain_texts (ts : List Text) : Plain (texts ts) := by
  refine .array fun v hv => ?_
  obtain ⟨t, -, rfl⟩ := List.mem_map.1 hv
  exact .string t

/-! ## Reading -/

/-- The fields of a table as they are read. -/
theorem fields?_of_give (h : Give fields entries) (origin : Origin) :
    (table origin entries).fields? (fields.map Prod.fst) = some (fields.map Prod.snd) := by
  show some ((fields.map Prod.fst).map fun name => find? name.toList entries) = _
  rw [List.map_map]
  exact congrArg some (List.map_congr_left h)

/-- A field has its own value, or the one that it has otherwise. -/
theorem orDefault_map (hitem : ∀ a, item? (write a) = some a) (otherwise : α) (a? : Option α) :
    orDefault item? otherwise (a?.map write) = some (a?.getD otherwise) := by
  cases a? with
  | none => rfl
  | some a => exact hitem a

/-- The same of a field whose value may be missing. -/
theorem orDefault_map_some (hitem : ∀ a, item? (write a) = some a) (otherwise : Option α)
    (a? : Option α) : orDefault (fun v => (item? v).map some) otherwise (a?.map write) =
      some (a?.or otherwise) := by
  cases a? with
  | none => rfl
  | some a =>
    show (item? (write a)).map some = _
    rw [hitem]
    rfl

/-- **A table as it is read**, or what is read without one: the same as from an empty one. -/
theorem orDefault_of_gives {otherwise a : α} (h : Gives fields v?)
    (hempty : item? (.table .header []) = some otherwise)
    (hread : ∀ origin entries, Give fields entries → item? (.table origin entries) = some a) :
    orDefault item? otherwise v? = some a := by
  cases h with
  | missing h =>
    -- An empty table gives none of the fields, too.
    refine hempty.symm.trans (hread .header [] fun f hf => ?_)
    exact (h f hf).symm
  | table origin h => exact hread origin _ h

end EditScript.Toml
