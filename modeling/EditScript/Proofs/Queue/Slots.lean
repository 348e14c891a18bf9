import Mathlib.Algebra.Ring.Nat
import EditScript.Proofs.Queue

/-!
# Slots of a queue

A line takes the slot after all others, and no line leaves its slot. What changes is who sits
there: replacing a line puts a new id in its slot, and the old id is never seen again.

* `Queue.Operation`, `Queue.Stage.perform`: what can be done with a queue, and what it answers.
* `Queue.Stage.Leads`: one queue comes before another, and these ids were replaced in between. One
  operation leads on (`leads_perform`), and leading on is transitive (`Leads.trans`), so a run
  leads from each of its queues to each later one (`leads_after`).
* `Queue.Stage.Steady`: what follows for slots and ids (`Leads.steady`).
-/

namespace EditScript
namespace Queue

/-- The ids of the lines, in order. -/
def ids (q : Queue) : List LineId := q.lines.map Line.id

/-- What can be done with a queue. -/
inductive Operation where
  | push (text : Text)
  | extend (texts : List Text)
  | edit (id : LineId) (text : Text)
  | replace (id : LineId) (text : Text)
  | mark (ids : List LineId)

/-- The number of lines that the operation adds. -/
def Operation.pushed : Operation → Nat
  | push _ => 1
  | extend texts => texts.length
  | edit _ _ | replace _ _ | mark _ => 0

/-- The ids of the lines that the operation is about. -/
def Operation.named : Operation → List LineId
  | edit id _ | replace id _ => [id]
  | mark ids => ids
  | push _ | extend _ => []

/-- What an operation on a queue answers. -/
inductive Answer where
  /-- There is nothing to tell. -/
  | done
  /-- The id of a new line. -/
  | line (id : LineId)
  /-- The ids of new lines. -/
  | lines (ids : List LineId)
  /-- No line has the id. -/
  | notFound

/-- A queue, and the number of lines that have been made so far. -/
structure Stage where
  /-- The lines. -/
  queue : Queue
  /-- The next line is made under this number. -/
  made : Nat

namespace Stage

/-- The queue without lines, before any line was made. -/
def empty : Stage := ⟨.empty, 0⟩

/-- Does one operation. -/
def perform (a : Stage) : Operation → Answer × Stage
  | .push text => (.line (.made a.made), ⟨a.queue.push a.made text, a.made + 1⟩)
  | .extend texts =>
    (.lines ((freshLines a.made texts).map Line.id),
      ⟨a.queue.extend a.made texts, a.made + texts.length⟩)
  | .edit id text =>
    match a.queue.edit id text with
    | (true, q) => (.done, ⟨q, a.made⟩)
    | (false, q) => (.notFound, ⟨q, a.made⟩)
  | .replace id text =>
    match a.queue.replace id a.made text with
    | (some new, q) => (.line new, ⟨q, a.made + 1⟩)
    | (none, q) => (.notFound, ⟨q, a.made⟩)
  | .mark ids => (.done, ⟨a.queue.mark ids, a.made⟩)

/-- What operations lead to, done one after the other. -/
def after (a : Stage) (ops : List Operation) : Stage :=
  ops.foldl (fun a op => (a.perform op).2) a

/-- The id that an operation takes out of the queue, as its answer tells. -/
def exchanged : Operation → Answer → List LineId
  | .replace id _, .line _ => [id]
  | _, _ => []

/-- The ids that are replaced in a run. -/
def replaced : Stage → List Operation → List LineId
  | _, [] => []
  | a, op :: ops => exchanged op (a.perform op).1 ++ replaced (a.perform op).2 ops

end Stage

namespace Stage

theorem after_append (a : Stage) (ops ops' : List Operation) :
    a.after (ops ++ ops') = (a.after ops).after ops' := List.foldl_append

theorem after_singleton (a : Stage) (op : Operation) : a.after [op] = (a.perform op).2 := rfl

theorem replaced_append (a : Stage) (ops ops' : List Operation) :
    a.replaced (ops ++ ops') = a.replaced ops ++ (a.after ops).replaced ops' := by
  induction ops generalizing a with
  | nil => rfl
  | cons op ops ih =>
    rw [List.cons_append, replaced, ih, replaced, List.append_assoc]
    rfl

theorem replaced_singleton (a : Stage) (op : Operation) :
    a.replaced [op] = exchanged op (a.perform op).1 := List.append_nil _

/-- A run of one operation is what that operation does. -/
theorem run_singleton {a b : Stage} {op : Operation} {answer : Answer}
    (h : a.perform op = (answer, b)) :
    b = a.after [op] ∧ exchanged op answer = a.replaced [op] := by
  rw [after_singleton, replaced_singleton, h]
  exact ⟨rfl, rfl⟩

end Stage

variable {q : Queue} {id : LineId} {a b c : Stage} {gone gone' : List LineId} {op : Operation}

/-! ## Lines that are there, and lines that are not -/

theorem mem_ids : id ∈ q.ids ↔ ∃ l ∈ q.lines, l.id = id := List.mem_map

theorem find?_eq_none_iff : q.find? id = none ↔ id ∉ q.ids := by
  rw [mem_ids]
  simp [find?]

theorem mem_ids_of_find? {l : Line} (h : q.find? id = some l) : id ∈ q.ids :=
  mem_ids.2 ⟨l, List.mem_of_find?_eq_some h, by simpa using List.find?_some h⟩

/-- A change to the line of one id leaves the lines with other ids alone. -/
theorem getElem?_update {i : Nat} {l : Line} (hl : q.lines[i]? = some l) (hne : l.id ≠ id)
    (change : Line → Line) : (q.update id change).lines[i]? = some l := by
  have hindex : (q.lines.findIdx fun l => l.id = id) ≠ i := by
    rintro rfl
    obtain ⟨hlt, rfl⟩ := List.getElem?_eq_some_iff.1 hl
    exact hne (by simpa using List.findIdx_getElem (w := hlt))
  exact (List.getElem?_modify_ne change q.lines hindex).trans hl

theorem getElem?_mark {i : Nat} {l : Line} {ids : List LineId} (hl : q.lines[i]? = some l)
    (hne : l.id ∉ ids) : (q.mark ids).lines[i]? = some l := by
  induction ids generalizing q with
  | nil => exact hl
  | cons id ids ih =>
    obtain ⟨hid, hids⟩ := not_or.1 (mt List.mem_cons.2 hne)
    exact ih (getElem?_update hl hid _) hids

theorem length_mark (q : Queue) (ids : List LineId) : (q.mark ids).length = q.length := by
  induction ids generalizing q with
  | nil => rfl
  | cons id ids ih => exact (ih (q.mark [id])).trans (List.length_modify ..)

theorem ids_edit (h : q.Distinct) (text : Text) : (q.edit id text).2.ids = q.ids :=
  ids_update h fun _ => rfl

theorem ids_mark (h : q.Distinct) (ids : List LineId) : (q.mark ids).ids = q.ids := by
  unfold Queue.ids
  rw [lines_mark h, List.map_map]
  exact List.map_congr_left fun l _ => noted_id ids l

theorem ids_extend (q : Queue) (serial : Nat) (texts : List Text) :
    (q.extend serial texts).ids =
      q.ids ++ (List.range' serial texts.length).map LineId.made := by
  unfold Queue.ids Queue.extend
  rw [List.map_append, freshLines_ids]

theorem ids_replace (h : q.Distinct) (serial : Nat) (text : Text) :
    (q.replace id serial text).2.ids = q.ids.map fun x => if x = id then .made serial else x := by
  unfold Queue.ids
  rw [lines_replace h, List.map_map, List.map_map]
  refine List.map_congr_left fun l _ => ?_
  by_cases hl : l.id = id <;> simp [hl, Line.fresh]

namespace Stage

/-- What an operation does to a queue: the cases of `Stage.perform`. -/
inductive Effect (a : Stage) : Operation → Answer × Stage → Prop
  | extend {op : Operation} {answer : Answer} {texts : List Text}
      (hop : op.pushed = texts.length) (hex : exchanged op answer = []) :
      Effect a op (answer, ⟨a.queue.extend a.made texts, a.made + texts.length⟩)
  | edit {id : LineId} (text : Text) (hid : id ∈ a.queue.ids) :
      Effect a (.edit id text) (.done, ⟨(a.queue.edit id text).2, a.made⟩)
  | editRefused {id : LineId} (text : Text) (hid : id ∉ a.queue.ids) :
      Effect a (.edit id text) (.notFound, a)
  | replace {id : LineId} (text : Text) (hid : id ∈ a.queue.ids) :
      Effect a (.replace id text)
        (.line (.made a.made), ⟨(a.queue.replace id a.made text).2, a.made + 1⟩)
  | replaceRefused {id : LineId} (text : Text) (hid : id ∉ a.queue.ids) :
      Effect a (.replace id text) (.notFound, a)
  | mark (ids : List LineId) : Effect a (.mark ids) (.done, ⟨a.queue.mark ids, a.made⟩)

theorem perform_edit_of_find? {l : Line} (h : a.queue.find? id = some l) (text : Text) :
    a.perform (.edit id text) = (.done, ⟨(a.queue.edit id text).2, a.made⟩) := by
  simp only [perform, Queue.edit, h]
  rfl

theorem perform_replace_of_find? {l : Line} (h : a.queue.find? id = some l) (text : Text) :
    a.perform (.replace id text) =
      (.line (.made a.made), ⟨(a.queue.replace id a.made text).2, a.made + 1⟩) := by
  simp only [perform, Queue.replace, h]
  rfl

/-- Where no line has the id, an operation on its line does nothing. -/
theorem perform_of_find?_eq_none (h : a.queue.find? id = none) :
    (∀ text, a.perform (.edit id text) = (.notFound, a)) ∧
    (∀ text, a.perform (.replace id text) = (.notFound, a)) ∧
    a.perform (.mark [id]) = (.done, a) := by
  refine ⟨fun text => ?_, fun text => ?_, ?_⟩
  · simp only [perform, edit_of_find?_eq_none h]
  · simp only [perform, replace_of_find?_eq_none h]
  · show (Answer.done, Stage.mk (a.queue.update id _) a.made) = _
    rw [update_of_find?_eq_none h]

theorem perform_effect (a : Stage) (op : Operation) : Effect a op (a.perform op) := by
  cases op with
  | push text => exact @Effect.extend a (.push text) _ [text] rfl rfl
  | extend texts => exact .extend rfl rfl
  | edit id text =>
    cases h : a.queue.find? id with
    | none =>
      rw [(perform_of_find?_eq_none h).1]
      exact .editRefused text (find?_eq_none_iff.1 h)
    | some l =>
      rw [perform_edit_of_find? h]
      exact .edit text (mem_ids_of_find? h)
  | replace id text =>
    cases h : a.queue.find? id with
    | none =>
      rw [(perform_of_find?_eq_none h).2.1]
      exact .replaceRefused text (find?_eq_none_iff.1 h)
    | some l =>
      rw [perform_replace_of_find? h]
      exact .replace text (mem_ids_of_find? h)
  | mark ids => exact .mark ids

theorem numbered_perform (h : a.queue.Numbered a.made) (op : Operation) :
    (a.perform op).2.queue.Numbered (a.perform op).2.made := by
  have he := perform_effect a op
  generalize a.perform op = step at he ⊢
  cases he with
  | extend => exact h.extend _
  | edit text _ => exact h.edit text
  | replace text _ => exact h.replace text
  | mark ids => exact h.mark ids
  | editRefused | replaceRefused => exact h

theorem numbered_after (h : a.queue.Numbered a.made) (ops : List Operation) :
    (a.after ops).queue.Numbered (a.after ops).made := by
  induction ops generalizing a with
  | nil => exact h
  | cons op ops ih => exact ih (numbered_perform h op)

theorem length_perform (a : Stage) (op : Operation) :
    (a.perform op).2.queue.length = a.queue.length + op.pushed := by
  have he := perform_effect a op
  generalize a.perform op = step at he ⊢
  cases he with
  | @extend _ _ texts hop =>
    have hnew := congrArg List.length (freshLines_texts a.made texts)
    rw [List.length_map] at hnew
    rw [hop, ← hnew]
    exact List.length_append
  | edit | replace => exact List.length_modify ..
  | mark ids => exact length_mark a.queue ids
  | editRefused | replaceRefused => rfl

/-- A queue has one slot for each line that was pushed. -/
theorem length_after (a : Stage) (ops : List Operation) :
    (a.after ops).queue.length = a.queue.length + (ops.map Operation.pushed).sum := by
  induction ops generalizing a with
  | nil => rfl
  | cons op ops ih =>
    show ((a.perform op).2.after ops).queue.length = _
    rw [ih, length_perform, List.map_cons, List.sum_cons, Nat.add_assoc]

/-! ## From a queue to a later one -/

/-- The queue `a` comes before `b`, and the ids in `gone` were replaced in between. A slot keeps its
id unless that is replaced. What sits in a slot and was not there before has a new id. -/
structure Leads (a : Stage) (gone : List LineId) (b : Stage) : Prop where
  made_le : a.made ≤ b.made
  length_le : a.queue.ids.length ≤ b.queue.ids.length
  kept : ∀ (i : Nat) (id : LineId), a.queue.ids[i]? = some id → id ∉ gone →
    b.queue.ids[i]? = some id
  origin : ∀ (i : Nat) (id : LineId), b.queue.ids[i]? = some id →
    a.queue.ids[i]? = some id ∨ ∃ k, a.made ≤ k ∧ id = .made k
  dead : ∀ id ∈ gone, id ∉ b.queue.ids ∧ ∃ k < b.made, id = .made k

namespace Leads

theorem of_ids (hm : a.made ≤ b.made) (h : b.queue.ids = a.queue.ids) : Leads a [] b where
  made_le := hm
  length_le := Nat.le_of_eq (congrArg List.length h.symm)
  kept i id hi _ := h ▸ hi
  origin i id hi := .inl (h ▸ hi)
  dead id hid := by cases hid

theorem trans (h : Leads a gone b) (h' : Leads b gone' c) : Leads a (gone ++ gone') c where
  made_le := Nat.le_trans h.made_le h'.made_le
  length_le := Nat.le_trans h.length_le h'.length_le
  kept i id hi hid := by
    obtain ⟨hgone, hgone'⟩ := not_or.1 (mt List.mem_append.2 hid)
    exact h'.kept i id (h.kept i id hi hgone) hgone'
  origin i id hi := by
    rcases h'.origin i id hi with hb | ⟨k, hk, rfl⟩
    · exact h.origin i id hb
    · exact .inr ⟨k, Nat.le_trans h.made_le hk, rfl⟩
  dead id hid := by
    rcases List.mem_append.1 hid with hid | hid
    · obtain ⟨hnot, k, hk, rfl⟩ := h.dead id hid
      refine ⟨fun hmem => ?_, k, Nat.lt_of_lt_of_le hk h'.made_le, rfl⟩
      -- An id that comes back would be one that is made later.
      obtain ⟨i, hi⟩ := List.mem_iff_getElem?.1 hmem
      rcases h'.origin i _ hi with hb | ⟨k', hk', he⟩
      · exact hnot (List.mem_of_getElem? hb)
      · cases he
        omega
    · exact h'.dead id hid

end Leads

theorem leads_extend (a : Stage) (texts : List Text) :
    Leads a [] ⟨a.queue.extend a.made texts, a.made + texts.length⟩ where
  made_le := Nat.le_add_right _ _
  length_le := by
    rw [ids_extend, List.length_append]
    exact Nat.le_add_right _ _
  kept i id hi _ := by
    rw [ids_extend, List.getElem?_append_left (List.getElem?_eq_some_iff.1 hi).1]
    exact hi
  origin i id hi := by
    rw [ids_extend] at hi
    by_cases hlt : i < a.queue.ids.length
    · rw [List.getElem?_append_left hlt] at hi
      exact .inl hi
    · rw [List.getElem?_append_right (Nat.le_of_not_lt hlt)] at hi
      obtain ⟨k, hk, rfl⟩ := List.mem_map.1 (List.mem_of_getElem? hi)
      exact .inr ⟨k, (List.mem_range'_1.1 hk).1, rfl⟩
  dead id hid := by cases hid

theorem leads_replace (h : a.queue.Numbered a.made) (hid : id ∈ a.queue.ids) (text : Text) :
    Leads a [id] ⟨(a.queue.replace id a.made text).2, a.made + 1⟩ := by
  have hids : (a.queue.replace id a.made text).2.ids = _ := ids_replace h.distinct a.made text
  obtain ⟨l, hl, rfl⟩ := mem_ids.1 hid
  obtain ⟨k, hk, hlk⟩ := h.below l hl
  refine ⟨Nat.le_succ _, ?_, fun i x hi hx => ?_, fun i x hi => ?_, fun x hx => ?_⟩
  · exact Nat.le_of_eq (by rw [hids, List.length_map])
  · rw [hids, List.getElem?_map, hi]
    exact congrArg some (if_neg fun he => hx (List.mem_singleton.2 he))
  · rw [hids, List.getElem?_map, Option.map_eq_some_iff] at hi
    obtain ⟨y, hy, rfl⟩ := hi
    split
    · exact .inr ⟨a.made, Nat.le_refl _, rfl⟩
    · exact .inl hy
  · rw [List.mem_singleton.1 hx, hids]
    refine ⟨fun hmem => ?_, k, Nat.lt_succ_of_lt hk, hlk⟩
    obtain ⟨y, -, hy⟩ := List.mem_map.1 hmem
    split at hy
    · exact h.id_ne_made hl (Nat.le_refl _) hy.symm
    · rename_i hne
      exact hne hy

/-- **One operation** leads to a later queue, and only replacing takes an id out. -/
theorem leads_perform (h : a.queue.Numbered a.made) (op : Operation) :
    Leads a (exchanged op (a.perform op).1) (a.perform op).2 := by
  have he := perform_effect a op
  generalize a.perform op = step at he ⊢
  cases he with
  | extend _ hex => exact hex ▸ leads_extend a _
  | edit text _ => exact .of_ids (Nat.le_refl _) (ids_edit h.distinct text)
  | replace text hid => exact leads_replace h hid text
  | mark ids => exact .of_ids (Nat.le_refl _) (ids_mark h.distinct ids)
  | editRefused | replaceRefused => exact .of_ids (Nat.le_refl _) rfl

/-- **A run** leads from the queue that it starts with to the one that it ends with. -/
theorem leads_after (h : a.queue.Numbered a.made) (ops : List Operation) :
    Leads a (a.replaced ops) (a.after ops) := by
  induction ops generalizing a with
  | nil => exact .of_ids (Nat.le_refl _) rfl
  | cons op ops ih => exact (leads_perform h op).trans (ih (numbered_perform h op))

/-! ## What follows for slots and ids -/

/-- What the slots of the queue `a` and those of a later queue `b` have in common, where the ids in
`gone` were replaced in between, and what operations on the later queue do to them. -/
structure Steady (a : Stage) (gone : List LineId) (b : Stage) : Prop where
  /-- No two lines have one id. -/
  distinct : b.queue.ids.Nodup
  /-- No slot is lost. -/
  length_le : a.queue.length ≤ b.queue.length
  /-- A slot keeps its id unless that is replaced. -/
  kept : ∀ (i : Nat) (l : Line), a.queue.lines[i]? = some l → l.id ∉ gone →
    ∃ l', b.queue.lines[i]? = some l' ∧ l'.id = l.id
  /-- If it is, the slot holds a line with an id that was not there. -/
  exchanged : ∀ (i : Nat) (l : Line), a.queue.lines[i]? = some l → l.id ∈ gone →
    ∃ l', b.queue.lines[i]? = some l' ∧ l'.id ∉ a.queue.ids
  /-- Replacing a line puts one in its slot that is pending, and that has a new id. -/
  replacing : ∀ (i : Nat) (l : Line) (text : Text), b.queue.lines[i]? = some l →
    ∃ c, b.perform (.replace l.id text) = (.line (.made b.made), c) ∧
      c.queue.lines[i]? = some ⟨.made b.made, text, false⟩ ∧
      .made b.made ∉ a.queue.ids ∧ .made b.made ∉ b.queue.ids
  /-- An id that was replaced is not found again, by no operation. -/
  dead : ∀ id ∈ gone, b.queue.find? id = none ∧
    (∀ text, b.perform (.edit id text) = (.notFound, b)) ∧
    (∀ text, b.perform (.replace id text) = (.notFound, b)) ∧
    b.perform (.mark [id]) = (.done, b)
  /-- An operation leaves the lines alone that it is not about. -/
  others : ∀ (op : Operation) (i : Nat) (l : Line), b.queue.lines[i]? = some l → l.id ∉ op.named →
    (b.perform op).2.queue.lines[i]? = some l

theorem getElem?_perform {i : Nat} {l : Line} (hl : a.queue.lines[i]? = some l)
    (hop : l.id ∉ op.named) : (a.perform op).2.queue.lines[i]? = some l := by
  have he := perform_effect a op
  generalize a.perform op = step at he ⊢
  cases he with
  | extend => exact (List.getElem?_append_left (List.getElem?_eq_some_iff.1 hl).1).trans hl
  | edit | replace => exact getElem?_update hl (fun he => hop (List.mem_singleton.2 he)) _
  | mark ids => exact getElem?_mark hl hop
  | editRefused | replaceRefused => exact hl

/-- The number that the next line gets is no line's. -/
theorem made_not_mem_ids (h : a.queue.Numbered a.made) {k : Nat} (hk : a.made ≤ k) :
    .made k ∉ a.queue.ids := by
  rw [mem_ids]
  rintro ⟨l, hl, hid⟩
  exact h.id_ne_made hl hk hid

theorem perform_replace (h : a.queue.Distinct) {i : Nat} {l : Line}
    (hl : a.queue.lines[i]? = some l) (text : Text) :
    ∃ b, a.perform (.replace l.id text) = (.line (.made a.made), b) ∧
      b.queue.lines[i]? = some ⟨.made a.made, text, false⟩ := by
  have hfind := find?_of_mem h (List.mem_of_getElem? hl)
  refine ⟨_, perform_replace_of_find? hfind text, ?_⟩
  show (a.queue.replace l.id a.made text).2.lines[i]? = _
  rw [lines_replace h, List.getElem?_map, hl, Option.map_some, if_pos rfl]
  rfl

/-- **Lines keep their slots, and ids are not used again.** -/
theorem Leads.steady (h : Leads a gone b) (ha : a.queue.Numbered a.made)
    (hb : b.queue.Numbered b.made) : Steady a gone b := by
  have hids {q : Queue} {i : Nat} {l : Line} (hl : q.lines[i]? = some l) :
      q.ids[i]? = some l.id := by
    rw [ids, List.getElem?_map, hl]
    rfl
  refine ⟨hb.distinct, ?_, fun i l hl hid => ?_, fun i l hl hid => ?_, fun i l text hl => ?_,
    fun id hid => ?_, fun op i l hl hop => getElem?_perform hl hop⟩
  · have hlength := h.length_le
    rwa [ids, ids, List.length_map, List.length_map] at hlength
  · have hkept := h.kept i l.id (hids hl) hid
    rw [ids, List.getElem?_map] at hkept
    exact Option.map_eq_some_iff.1 hkept
  · have hlt : i < b.queue.ids.length :=
      Nat.lt_of_lt_of_le (List.getElem?_eq_some_iff.1 (hids hl)).1 h.length_le
    rw [ids, List.length_map] at hlt
    have hl' := List.getElem?_eq_getElem hlt
    refine ⟨b.queue.lines[i], hl', ?_⟩
    rcases h.origin i _ (hids hl') with hsame | ⟨k, hk, hnew⟩
    · -- The old id would still be there.
      have he : l.id = b.queue.lines[i].id := Option.some.inj ((hids hl).symm.trans hsame)
      exact absurd (List.mem_of_getElem? (he ▸ hids hl')) (h.dead l.id hid).1
    · rw [hnew]
      exact made_not_mem_ids ha hk
  · obtain ⟨c, hc, hci⟩ := perform_replace hb.distinct hl text
    exact ⟨c, hc, hci, made_not_mem_ids ha h.made_le, made_not_mem_ids hb (Nat.le_refl _)⟩
  · have hnone := find?_eq_none_iff.2 (h.dead id hid).1
    exact ⟨hnone, perform_of_find?_eq_none hnone⟩

end Stage
end Queue
end EditScript
