import EditScript.Queue

/-!
# Queues with distinct ids

When no two lines share an id, each operation on the line of an id is a map over all lines: it
acts on the one line that has the id and keeps the others, so every slot stays where it is.

* `Queue.Distinct`: no two lines have the same id; `Queue.find?_of_mem`: each is then found by
  its id.
* `Queue.lines_edit`, `Queue.lines_replace`, `Queue.lines_mark`: the operations as maps;
  `Queue.pending_mark`: what the last one leaves pending.
* `Queue.Numbered`: all ids were made here, below a number, and are distinct. Every operation
  keeps this (`Numbered.extend`, `Numbered.edit`, `Numbered.replace`, `Numbered.mark`).
-/

namespace EditScript
namespace Queue

/-- No two lines have the same id. -/
def Distinct (q : Queue) : Prop := (q.lines.map Line.id).Nodup

variable {q : Queue} {id : LineId} {serial : Nat}

theorem mem_pending {l : Line} : l ∈ q.pending ↔ l ∈ q.lines ∧ l.executed = false := by
  simp [pending]

theorem filter_pending (q : Queue) : (q.pending.filter fun l => !l.executed) = q.pending := by
  rw [pending, List.filter_filter]
  simp only [Bool.and_self]

private theorem find?_of_mem_lines {ls : List Line} (h : (ls.map Line.id).Nodup) {l : Line}
    (hl : l ∈ ls) : ls.find? (fun x => x.id = l.id) = some l := by
  induction ls with
  | nil => cases hl
  | cons x ls ih =>
    rw [List.map_cons, List.nodup_cons] at h
    rcases List.mem_cons.1 hl with rfl | hl
    · simp
    · have hne : x.id ≠ l.id := fun hid => h.1 (List.mem_map.2 ⟨l, hl, hid.symm⟩)
      rw [List.find?_cons_of_neg (by simpa using hne)]
      exact ih h.2 hl

theorem find?_of_mem (h : q.Distinct) {l : Line} (hl : l ∈ q.lines) : q.find? l.id = some l :=
  find?_of_mem_lines h hl

theorem Distinct.pending (h : q.Distinct) : (q.pending.map Line.id).Nodup := by
  have hsub : q.pending.Sublist q.lines := List.filter_sublist
  exact List.Pairwise.sublist (hsub.map Line.id) h

/-! ## Lines that are not there -/

/-- Where no line has the id, there is nothing to change. -/
theorem update_of_find?_eq_none (h : q.find? id = none) (change : Line → Line) :
    q.update id change = q := by
  have hindex : (q.lines.findIdx fun l => l.id = id) = q.lines.length := by
    rw [List.findIdx_eq_length]
    exact fun l hl => by simpa using List.find?_eq_none.1 h l hl
  unfold update
  rw [hindex, List.modify_eq_self (Nat.le_refl _)]

theorem edit_of_find?_eq_none (h : q.find? id = none) (text : Text) :
    q.edit id text = (false, q) := by
  unfold edit
  rw [h, update_of_find?_eq_none h]
  rfl

theorem replace_of_find?_eq_none (h : q.find? id = none) (serial : Nat) (text : Text) :
    q.replace id serial text = (none, q) := by
  unfold replace
  rw [h, update_of_find?_eq_none h]
  rfl

/-! ## The operations as maps -/

private theorem modify_findIdx (change : Line → Line) {ls : List Line}
    (h : (ls.map Line.id).Nodup) :
    ls.modify (ls.findIdx fun l => l.id = id) change =
      ls.map fun l => if l.id = id then change l else l := by
  induction ls with
  | nil => rfl
  | cons l ls ih =>
    rw [List.map_cons, List.nodup_cons] at h
    by_cases hl : l.id = id
    · -- The first line has the id, so no later one has it.
      have hrest : ∀ x ∈ ls, x.id ≠ id := fun x hx hid =>
        h.1 (List.mem_map.2 ⟨x, hx, hid.trans hl.symm⟩)
      have hmap : (ls.map fun x => if x.id = id then change x else x) = ls :=
        (List.map_congr_left fun x hx => if_neg (hrest x hx)).trans (List.map_id' ls)
      simp [List.findIdx_cons, hl, hmap]
    · simp [List.findIdx_cons, hl, ih h.2]

theorem lines_update (h : q.Distinct) (change : Line → Line) :
    (q.update id change).lines = q.lines.map fun l => if l.id = id then change l else l :=
  modify_findIdx change h

theorem lines_edit (h : q.Distinct) (text : Text) :
    (q.edit id text).2.lines =
      q.lines.map fun l => if l.id = id then ⟨l.id, text, false⟩ else l := lines_update h _

theorem lines_replace (h : q.Distinct) (text : Text) :
    (q.replace id serial text).2.lines =
      q.lines.map fun l => if l.id = id then Line.fresh serial text else l := lines_update h _

/-- A change that keeps the ids of lines keeps the list of ids. -/
theorem ids_update (h : q.Distinct) {change : Line → Line} (hc : ∀ l, (change l).id = l.id) :
    (q.update id change).lines.map Line.id = q.lines.map Line.id := by
  rw [lines_update h, List.map_map]
  refine List.map_congr_left fun l _ => ?_
  by_cases hl : l.id = id
  · simp [hl, hc]
  · simp [hl]

/-- The line, noted as run if its id is among those given. -/
def noted (ids : List LineId) (l : Line) : Line :=
  if l.id ∈ ids then { l with executed := true } else l

@[simp] theorem noted_id (ids : List LineId) (l : Line) : (noted ids l).id = l.id := by
  unfold noted
  split <;> rfl

@[simp] theorem noted_text (ids : List LineId) (l : Line) : (noted ids l).text = l.text := by
  unfold noted
  split <;> rfl

theorem mark_cons (q : Queue) (ids : List LineId) :
    q.mark (id :: ids) = (q.mark [id]).mark ids := rfl

private theorem distinct_mark_one (h : q.Distinct) : (q.mark [id]).Distinct := by
  unfold Distinct
  rw [show (q.mark [id]).lines.map Line.id = q.lines.map Line.id from ids_update h fun _ => rfl]
  exact h

theorem Distinct.mark (h : q.Distinct) (ids : List LineId) : (q.mark ids).Distinct := by
  induction ids generalizing q with
  | nil => exact h
  | cons id ids ih => exact ih (distinct_mark_one h)

theorem lines_mark (h : q.Distinct) (ids : List LineId) :
    (q.mark ids).lines = q.lines.map (noted ids) := by
  induction ids generalizing q with
  | nil =>
    have hid : noted [] = id := by funext l; simp [noted]
    rw [hid, List.map_id]
    rfl
  | cons id ids ih =>
    rw [mark_cons, ih (distinct_mark_one h)]
    rw [show (q.mark [id]).lines = q.lines.map fun l =>
      if l.id = id then { l with executed := true } else l from lines_update h _, List.map_map]
    refine List.map_congr_left fun l _ => ?_
    by_cases hl : l.id = id <;> by_cases hm : l.id ∈ ids <;> simp_all [noted]

/-- A line that was noted as run is found with its mark. -/
theorem find?_mark (h : q.Distinct) {ids : List LineId} (hid : id ∈ ids) {l : Line}
    (hl : q.find? id = some l) :
    ∃ x, (q.mark ids).find? id = some x ∧ x.executed = true := by
  have hlid : l.id = id := by simpa using List.find?_some hl
  have hmem : noted ids l ∈ (q.mark ids).lines := by
    rw [lines_mark h]
    exact List.mem_map_of_mem (List.mem_of_find?_eq_some hl)
  have hfound := find?_of_mem (h.mark ids) hmem
  rw [noted_id, hlid] at hfound
  refine ⟨noted ids l, hfound, ?_⟩
  unfold noted
  rw [if_pos (hlid ▸ hid)]

/-- What is pending after lines were noted as run: the other lines that were pending before. -/
theorem pending_mark (h : q.Distinct) (ids : List LineId) :
    (q.mark ids).pending = q.pending.filter fun l => l.id ∉ ids := by
  unfold pending
  rw [lines_mark h]
  induction q.lines with
  | nil => rfl
  | cons l ls ih =>
    rw [List.map_cons, List.filter_cons, List.filter_cons, ih]
    by_cases hm : l.id ∈ ids
    · cases l.executed <;> simp [noted, hm]
    · cases he : l.executed <;> simp [noted, hm, he]

/-! ## New lines -/

theorem freshLines_cons (serial : Nat) (text : Text) (texts : List Text) :
    freshLines serial (text :: texts) =
      Line.fresh serial text :: freshLines (serial + 1) texts := by
  simp [freshLines, List.zipIdx_cons]

theorem push_extend (q : Queue) (serial : Nat) (text : Text) (texts : List Text) :
    (q.push serial text).extend (serial + 1) texts = q.extend serial (text :: texts) := by
  unfold push extend
  rw [freshLines_cons, List.append_assoc]
  rfl

theorem freshLines_ids (serial : Nat) (texts : List Text) :
    (freshLines serial texts).map Line.id =
      (List.range' serial texts.length).map LineId.made := by
  induction texts generalizing serial with
  | nil => rfl
  | cons text texts ih =>
    rw [freshLines_cons, List.map_cons, ih, List.length_cons, List.range'_succ, List.map_cons]
    rfl

theorem freshLines_texts (serial : Nat) (texts : List Text) :
    (freshLines serial texts).map Line.text = texts := by
  induction texts generalizing serial with
  | nil => rfl
  | cons text texts ih =>
    rw [freshLines_cons, List.map_cons, ih]
    rfl

theorem mem_freshLines {l : Line} {texts : List Text} (h : l ∈ freshLines serial texts) :
    l.executed = false ∧ ∃ k, serial ≤ k ∧ k < serial + texts.length ∧ l.id = .made k := by
  have hid : l.id ∈ (freshLines serial texts).map Line.id := List.mem_map_of_mem h
  rw [freshLines_ids] at hid
  obtain ⟨k, hk, hk'⟩ := List.mem_map.1 hid
  obtain ⟨h₁, h₂⟩ := List.mem_range'_1.1 hk
  obtain ⟨entry, -, rfl⟩ := List.mem_map.1 h
  exact ⟨rfl, k, h₁, h₂, hk'.symm⟩

/-- New lines are pending. -/
theorem pending_extend (q : Queue) (serial : Nat) (texts : List Text) :
    (q.extend serial texts).pending = q.pending ++ freshLines serial texts := by
  have hfresh : (freshLines serial texts).filter (fun l => !l.executed) = freshLines serial texts :=
    List.filter_eq_self.2 fun l hl => by simp [(mem_freshLines hl).1]
  unfold pending extend
  rw [List.filter_append, hfresh]

/-! ## Numbered queues -/

/-- The ids of the lines were made here, under different numbers below `serial`. -/
structure Numbered (q : Queue) (serial : Nat) : Prop where
  distinct : q.Distinct
  below : ∀ l ∈ q.lines, ∃ k < serial, l.id = .made k

namespace Numbered

theorem empty : Queue.empty.Numbered serial := ⟨List.nodup_nil, fun _ h => by cases h⟩

/-- The next number is no line's. -/
theorem id_ne_made (h : q.Numbered serial) {l : Line} (hl : l ∈ q.lines) {k : Nat}
    (hk : serial ≤ k) : l.id ≠ .made k := by
  obtain ⟨j, hj, hid⟩ := h.below l hl
  rw [hid]
  intro he
  cases he
  omega

theorem of_ids {q' : Queue} (h : q.Numbered serial)
    (hids : q'.lines.map Line.id = q.lines.map Line.id) : q'.Numbered serial := by
  refine ⟨by unfold Distinct; rw [hids]; exact h.distinct, fun l hl => ?_⟩
  have hl' : l.id ∈ q.lines.map Line.id := hids ▸ List.mem_map_of_mem hl
  obtain ⟨x, hx, hid⟩ := List.mem_map.1 hl'
  exact hid ▸ h.below x hx

theorem edit (h : q.Numbered serial) (text : Text) : (q.edit id text).2.Numbered serial :=
  h.of_ids (ids_update h.distinct fun _ => rfl)

theorem mark (h : q.Numbered serial) (ids : List LineId) : (q.mark ids).Numbered serial := by
  refine h.of_ids ?_
  rw [lines_mark h.distinct, List.map_map]
  exact List.map_congr_left fun l _ => noted_id ids l

theorem extend (h : q.Numbered serial) (texts : List Text) :
    (q.extend serial texts).Numbered (serial + texts.length) := by
  refine ⟨?_, fun l hl => ?_⟩
  · unfold Distinct Queue.extend
    rw [List.map_append, List.nodup_append]
    refine ⟨h.distinct, ?_, fun i hi j hj => ?_⟩
    · rw [freshLines_ids]
      exact List.Pairwise.map LineId.made (fun _ _ hne he => hne (by cases he; rfl))
        (List.nodup_range' ..)
    · obtain ⟨l, hl, rfl⟩ := List.mem_map.1 hi
      obtain ⟨x, hx, rfl⟩ := List.mem_map.1 hj
      obtain ⟨-, k, hk, -, hid⟩ := mem_freshLines hx
      rw [hid]
      exact h.id_ne_made hl hk
  · rcases List.mem_append.1 hl with hl | hl
    · obtain ⟨k, hk, hid⟩ := h.below l hl
      exact ⟨k, by omega, hid⟩
    · obtain ⟨-, k, -, hk, hid⟩ := mem_freshLines hl
      exact ⟨k, hk, hid⟩

theorem replace (h : q.Numbered serial) (text : Text) :
    (q.replace id serial text).2.Numbered (serial + 1) := by
  have hlines : (q.replace id serial text).2.lines = _ := lines_replace h.distinct text
  refine ⟨?_, fun l hl => ?_⟩
  · unfold Distinct
    rw [hlines, List.map_map]
    refine List.pairwise_map.2 ((List.pairwise_map.1 h.distinct).imp_of_mem ?_)
    intro a b ha hb hne
    have hna := h.id_ne_made ha (Nat.le_refl serial)
    have hnb := h.id_ne_made hb (Nat.le_refl serial)
    by_cases h₁ : a.id = id <;> by_cases h₂ : b.id = id
    · exact absurd (h₁.trans h₂.symm) hne
    · simpa [h₁, h₂, Line.fresh] using hnb.symm
    · simpa [h₁, h₂, Line.fresh] using hna
    · simpa [h₁, h₂] using hne
  · rw [hlines] at hl
    obtain ⟨x, hx, rfl⟩ := List.mem_map.1 hl
    split
    · exact ⟨serial, Nat.lt_succ_self _, rfl⟩
    · obtain ⟨k, hk, hid⟩ := h.below x hx
      exact ⟨k, by omega, hid⟩

end Numbered

end Queue
end EditScript
