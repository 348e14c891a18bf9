import Mathlib.Data.List.Chain
import EditScript.Proofs.Command.Run

/-!
# Several replacements

Ranges of a text that lie apart, each with a text to put in its place. They can be replaced from
the last to the first, each where it stood from the start, or from the first to the last, each
shifted by what those before it have changed.

* `Replacement`: a range, its text, and the command that puts the text in once the range is
  selected.
* `Replacement.substitute`: what is to come of it, for all ranges at once.
* `Replacement.meanings_script`: one replacement.
* `Replacement.backwards`, `Replacement.forwards`: the commands for both ways, and by induction on
  the replacements what each comes to (`Replacement.exists_meanings_backwards`,
  `Replacement.exists_meanings_forwards`).
* `Replacement.replacements_simultaneous`: what follows for every state.
-/

namespace EditScript

open State (Parts)

/-- A range of characters that is to give way to a text. -/
structure Replacement where
  /-- The offset of the first character. -/
  start : Nat
  /-- The offset after the last character. -/
  stop : Nat
  /-- What is to stand there. -/
  text : Text
  /-- What is done once the range is selected. -/
  command : Command
  /-- There are characters in the range. -/
  start_lt : start < stop
  /-- The text is inserted; the empty text may be put in by a deletion. -/
  puts : command = .insert text ∨ text = [] ∧ command = .delete

namespace Replacement

/-- Selects the range where it is now, and puts the text in. -/
def script (r : Replacement) (start stop : Nat) : List Command := [.select start stop, r.command]

/-- By how much the replacement changes the length. -/
def change (r : Replacement) : Int := r.text.length - (r.stop - r.start : Int)

/-- For each replacement, by how much those before it have shifted what follows, and the shift that
there was before all. -/
def shifts (shift : Int) (rs : List Replacement) : List Int :=
  (rs.map change).scanl (· + ·) shift

/-- From the first replacement to the last, each where those before it have left its range. -/
def forwards (shift : Int) (rs : List Replacement) : List Command :=
  (rs.zip (shifts shift rs)).flatMap fun (r, shift) =>
    r.script (r.start + shift).toNat (r.stop + shift).toNat

/-- From the last replacement to the first, each at its own offsets. -/
def backwards (rs : List Replacement) : List Command :=
  rs.reverse.flatMap fun r => r.script r.start r.stop

/-- The characters from an offset on, with the text of each replacement in place of its range and
all else kept. -/
def substitute (chars : Text) : Nat → List Replacement → Text
  | place, [] => chars.drop place
  | place, r :: rs => (chars.take r.start).drop place ++ r.text ++ substitute chars r.stop rs

variable {r : Replacement} {rs : List Replacement} {p : Parts} {chars : Text} {place : Nat}

/-- One replacement exchanges the range for the text. -/
theorem meanings_script (r : Replacement) {start stop : Nat} (h : start < stop)
    (hstop : stop ≤ p.content.length) :
    Command.meanings (r.script start stop) p = .ok (p.exchange start stop r.text) := by
  have hselect : (Command.select start stop).meaning p =
      .ok { p with selection := ⟨start, stop⟩ } := if_pos ⟨Nat.le_of_lt h, hstop⟩
  have hput : r.command.meaning { p with selection := ⟨start, stop⟩ } =
      .ok (p.exchange start stop r.text) := by
    rcases r.puts with hc | ⟨htext, hc⟩
    · rw [hc]
      exact if_pos h
    · rw [hc, htext]
      exact if_pos h
  rw [script, Command.meanings_cons hselect, Command.meanings_cons hput]
  rfl

/-- What is kept before the first range, in two pieces. -/
theorem take_append_drop_take (h : place ≤ r.start) :
    chars.take place ++ (chars.take r.start).drop place = chars.take r.start :=
  Buffer.take_append_between ⟨chars⟩ h

/-- **From the last to the first.** What stands before the ranges still to come is not touched, so
their offsets are still those of the start. -/
theorem exists_meanings_backwards (hchars : p.content.chars = chars)
    (horder : rs.IsChain fun r q => r.stop ≤ q.start)
    (hend : ∀ r ∈ rs, r.stop ≤ chars.length) (hplace : ∀ r ∈ rs.head?, place ≤ r.start) :
    ∃ q, Command.meanings (backwards rs) p = .ok q ∧
      q.content.chars = chars.take place ++ substitute chars place rs := by
  induction rs generalizing place with
  | nil => exact ⟨p, rfl, hchars.trans (List.take_append_drop place chars).symm⟩
  | cons r rs ih =>
    obtain ⟨hhead, hrest⟩ := List.isChain_cons.1 horder
    obtain ⟨hstop, hends⟩ := List.forall_mem_cons.1 hend
    obtain ⟨q, hq, hqchars⟩ := ih hrest hends hhead
    have hbefore : (chars.take r.stop).length = r.stop := List.length_take_of_le hstop
    have hlength : r.stop ≤ q.content.length := by
      show r.stop ≤ q.content.chars.length
      rw [hqchars, List.length_append, hbefore]
      exact Nat.le_add_right _ _
    have hcons : backwards (r :: rs) = backwards rs ++ r.script r.start r.stop := by
      simp [backwards]
    refine ⟨q.exchange r.start r.stop r.text, ?_, ?_⟩
    · rw [hcons, Command.meanings_append hq, meanings_script r r.start_lt hlength]
    · have htake : q.content.chars.take r.start = chars.take r.start := by
        rw [hqchars, List.take_append_of_le_length (by rw [hbefore]; exact Nat.le_of_lt r.start_lt),
          List.take_take, Nat.min_eq_left (Nat.le_of_lt r.start_lt)]
      have hdrop : q.content.chars.drop r.stop = substitute chars r.stop rs := by
        rw [hqchars]
        exact List.drop_left' hbefore
      show q.content.chars.take r.start ++ r.text ++ q.content.chars.drop r.stop = _
      rw [htake, hdrop, substitute, ← List.append_assoc, ← List.append_assoc,
        take_append_drop_take (hplace r rfl)]

/-- **From the first to the last.** What is done so far ends where the shift puts the offset that
has been reached. -/
theorem exists_meanings_forwards {shift : Int} {done : Text}
    (hchars : p.content.chars = done ++ chars.drop place)
    (hdone : (done.length : Int) = place + shift)
    (horder : rs.IsChain fun r q => r.stop ≤ q.start)
    (hend : ∀ r ∈ rs, r.stop ≤ chars.length) (hplace : ∀ r ∈ rs.head?, place ≤ r.start) :
    ∃ q, Command.meanings (forwards shift rs) p = .ok q ∧
      q.content.chars = done ++ substitute chars place rs := by
  induction rs generalizing place shift done p with
  | nil => exact ⟨p, rfl, hchars⟩
  | cons r rs ih =>
    obtain ⟨hhead, hrest⟩ := List.isChain_cons.1 horder
    obtain ⟨hstop, hends⟩ := List.forall_mem_cons.1 hend
    have hle : place ≤ r.start := hplace r rfl
    have hlt := r.start_lt
    have hcons : forwards shift (r :: rs) =
        r.script (r.start + shift).toNat (r.stop + shift).toNat ++
          forwards (shift + r.change) rs := by
      simp [forwards, shifts, List.scanl_cons]
    -- The range as it lies now: as far behind what is done as it lay behind the offset reached.
    have hstart : (r.start + shift).toNat = done.length + (r.start - place) := by omega
    have hstop' : (r.stop + shift).toNat = done.length + (r.stop - place) := by omega
    have hlength : done.length + (r.stop - place) ≤ p.content.length := by
      show _ ≤ p.content.chars.length
      rw [hchars, List.length_append, List.length_drop]
      omega
    have htake : p.content.chars.take (done.length + (r.start - place)) =
        done ++ (chars.take r.start).drop place := by
      rw [hchars, List.take_length_add_append, List.drop_take]
    have hdrop : p.content.chars.drop (done.length + (r.stop - place)) = chars.drop r.stop := by
      have hsum : place + (r.stop - place) = r.stop := by omega
      rw [hchars, List.drop_length_add_append, List.drop_drop, hsum]
    let q := p.exchange (done.length + (r.start - place)) (done.length + (r.stop - place)) r.text
    have hq : q.content.chars =
        (done ++ (chars.take r.start).drop place ++ r.text) ++ chars.drop r.stop := by
      show p.content.chars.take _ ++ r.text ++ p.content.chars.drop _ = _
      rw [htake, hdrop]
    have hscript : Command.meanings
        (r.script (r.start + shift).toNat (r.stop + shift).toNat) p = .ok q := by
      rw [hstart, hstop']
      exact meanings_script r (by omega) hlength
    have hdone' : ((done ++ (chars.take r.start).drop place ++ r.text).length : Int) =
        r.stop + (shift + r.change) := by
      simp only [List.length_append, List.length_drop, List.length_take, change]
      omega
    obtain ⟨last, hlast, hchars'⟩ := ih hq hdone' hrest hends hhead
    refine ⟨last, ?_, ?_⟩
    · rw [hcons, Command.meanings_append hscript]
      exact hlast
    · rw [hchars', substitute]
      simp only [List.append_assoc]

/-- No range is shifted to before the start of the text. -/
theorem start_add_shift_nonneg {shift : Int} (h : 0 ≤ place + shift)
    (horder : rs.IsChain fun r q => r.stop ≤ q.start) (hplace : ∀ r ∈ rs.head?, place ≤ r.start) :
    ∀ x ∈ rs.zip (shifts shift rs), 0 ≤ x.1.start + x.2 := by
  induction rs generalizing place shift with
  | nil => exact fun x hx => absurd hx List.not_mem_nil
  | cons r rs ih =>
    obtain ⟨hhead, hrest⟩ := List.isChain_cons.1 horder
    have hle : place ≤ r.start := hplace r rfl
    have hnext : 0 ≤ (r.stop : Int) + (shift + r.change) := by
      unfold change
      omega
    have hcons : (r :: rs).zip (shifts shift (r :: rs)) =
        (r, shift) :: rs.zip (shifts (shift + r.change) rs) := by
      simp [shifts, List.scanl_cons]
    rw [hcons, List.forall_mem_cons]
    refine ⟨?_, ih hnext hrest hhead⟩
    show 0 ≤ (r.start : Int) + shift
    omega

/-- **Ranges that lie apart are replaced all at once.** Let the ranges of some replacements follow
one another within the content. To replace them from the last to the first at their own offsets, and
to replace them from the first to the last at offsets shifted by what those before have changed,
succeeds at every command. Either way each range has given way to its text in the end, and all else
is kept in order. No shifted offset is below zero. -/
theorem replacements_simultaneous (s : State) (rs : List Replacement)
    (horder : rs.IsChain fun r q => r.stop ≤ q.start) (hend : ∀ r ∈ rs, r.stop ≤ s.length) :
    Command.Succeed (backwards rs) s ∧
      (Command.executeAll (backwards rs) s).content.chars = substitute s.content.chars 0 rs ∧
      Command.Succeed (forwards 0 rs) s ∧
      (Command.executeAll (forwards 0 rs) s).content.chars = substitute s.content.chars 0 rs ∧
      ∀ x ∈ rs.zip (shifts 0 rs), 0 ≤ x.1.start + x.2 := by
  have hfirst : ∀ r ∈ rs.head?, 0 ≤ r.start := fun r _ => Nat.zero_le _
  have hchars : s.parts.content.chars = s.content.chars := rfl
  have hnone : s.parts.content.chars = [] ++ s.content.chars.drop 0 := rfl
  have hdone : (([] : Text).length : Int) = (0 : Nat) + 0 := rfl
  obtain ⟨q, hq, hqchars⟩ := exists_meanings_backwards hchars horder hend hfirst
  obtain ⟨t, ht, htchars⟩ := exists_meanings_forwards hnone hdone horder hend hfirst
  obtain ⟨hbackwards, hafter⟩ := Command.of_meanings_eq_ok hq
  obtain ⟨hforwards, hafter'⟩ := Command.of_meanings_eq_ok ht
  refine ⟨hbackwards, ?_, hforwards, ?_, start_add_shift_nonneg (Int.le_refl 0) horder hfirst⟩
  · exact (congrArg (·.content.chars) hafter).trans hqchars
  · exact (congrArg (·.content.chars) hafter').trans htchars

/-- Three ranges, two of them adjacent: one grows, one is deleted, one shrinks. -/
theorem adjacent_ranges_replaced :
    let s : State := ⟨⟨"abcdefgh".toList⟩, 8, ⟨2, 4⟩, by decide, by decide, by decide⟩
    let rs : List Replacement :=
      [⟨0, 1, "xyz".toList, .insert "xyz".toList, by decide, .inl rfl⟩,
        ⟨2, 4, [], .delete, by decide, .inr ⟨rfl, rfl⟩⟩,
        ⟨4, 8, "é".toList, .insert "é".toList, by decide, .inl rfl⟩]
    (rs.IsChain fun r q => r.stop ≤ q.start) ∧ (∀ r ∈ rs, r.stop ≤ s.length) ∧
      (Command.executeAll (forwards 0 rs) s).content.chars = "xyzbé".toList := by
  intro s rs
  have horder : rs.IsChain fun r q => r.stop ≤ q.start := by decide
  have hend : ∀ r ∈ rs, r.stop ≤ s.length := by decide
  obtain ⟨-, -, -, hforwards, -⟩ := replacements_simultaneous s rs horder hend
  exact ⟨horder, hend, hforwards⟩

end Replacement
end EditScript
