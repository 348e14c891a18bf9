import EditScript.Json.Reader
import EditScript.Proofs.Json.Token

/-!
# Documents that are read again

* `Json.written`: the value that is read where a value has been written. A number that no double
  can hold comes back broken, and what cannot be written comes back as `null`.
* `Json.foldl_tokens`: the tokens of a value lead to it, whatever is open around it.
* `Json.parse?_of_spells`, `Json.parse?_pretty`: a document that has been written can be read, and
  gives back what was written.
* `Json.sorted_object`: members that stand in the order of their keys are not moved.
* `Json.at?`: the part of a value that a path of keys leads to.
-/

namespace EditScript.Json

mutual

/-- The value that is read where this one has been written. -/
def written : Json → Json
  | array items => array (itemsWritten items)
  | object members => object (membersWritten members)
  | v => plainWritten v

/-- `written` of several values. -/
def itemsWritten : List Json → List Json
  | [] => []
  | v :: rest => written v :: itemsWritten rest

/-- `written` of the values of several members. A key that is absent is written as an empty one. -/
def membersWritten : List (Option Text × Json) → List (Option Text × Json)
  | [] => []
  | (key, v) :: rest => (some (key.getD []), written v) :: membersWritten rest

end

variable {frames : List Frame}

/-- An array that begins with an item is not empty. -/
theorem foldl_firstItem (v : Json) (rest : List Json) (after : List Token) :
    (itemTokens (v :: rest) ++ after).foldl Progress.feed
        (.reading (.array [] :: frames) .firstItem) =
      (itemTokens (v :: rest) ++ after).foldl Progress.feed
        (.reading (.array [] :: frames) .value) := by
  cases rest <;> cases v <;> rfl

/-- An object that begins with a key is not empty. -/
theorem foldl_firstKey (m : Option Text × Json) (rest : List (Option Text × Json))
    (after : List Token) :
    (memberTokens (m :: rest) ++ after).foldl Progress.feed
        (.reading (.object [] none :: frames) .firstKey) =
      (memberTokens (m :: rest) ++ after).foldl Progress.feed
        (.reading (.object [] none :: frames) .key) := by
  cases rest <;> rfl

mutual

theorem foldl_tokens : ∀ (v : Json) (frames : List Frame),
    (tokens v).foldl Progress.feed (.reading frames .value) = .close (written v) frames
  | array [], _ => rfl
  | array (v :: rest), frames => by
    show (itemTokens (v :: rest) ++ [Token.mark ']']).foldl Progress.feed
      (.reading (.array [] :: frames) .firstItem) = _
    rw [foldl_firstItem, foldl_itemTokens (v :: rest) (List.cons_ne_nil v rest)]
    rfl
  | object [], _ => rfl
  | object (m :: rest), frames => by
    show (memberTokens (m :: rest) ++ [Token.mark '\x7d']).foldl Progress.feed
      (.reading (.object [] none :: frames) .firstKey) = _
    rw [foldl_firstKey, foldl_memberTokens (m :: rest) (List.cons_ne_nil m rest)]
    rfl
  | null, _ => rfl
  | bool _, _ => rfl
  | nat _, _ => rfl
  | number, _ => rfl
  | string _, _ => rfl
  | broken, _ => rfl

/-- The items of an array that has begun, up to its end. -/
theorem foldl_itemTokens : ∀ (items : List Json) (_ : items ≠ []) (done : List Json)
    (frames : List Frame),
    (itemTokens items ++ [Token.mark ']']).foldl Progress.feed
      (.reading (.array done :: frames) .value) =
        .close (.array (done.reverse ++ itemsWritten items)) frames
  | [], hne, _, _ => absurd rfl hne
  | [v], _, done, frames => by
    rw [itemTokens, List.foldl_append, foldl_tokens]
    show Progress.close (.array (written v :: done).reverse) frames = _
    rw [List.reverse_cons]
    rfl
  | v :: w :: rest, _, done, frames => by
    rw [itemTokens, List.append_assoc, List.foldl_append, foldl_tokens]
    · show (itemTokens (w :: rest) ++ [Token.mark ']']).foldl Progress.feed
        (.reading (.array (written v :: done) :: frames) .value) = _
      rw [foldl_itemTokens (w :: rest) (List.cons_ne_nil w rest), List.reverse_cons,
        List.append_assoc]
      rfl
    · exact List.cons_ne_nil w rest

/-- The members of an object that has begun, up to its end. -/
theorem foldl_memberTokens : ∀ (members : List (Option Text × Json)) (_ : members ≠ [])
    (done : List (Option Text × Json)) (key : Option Text) (frames : List Frame),
    (memberTokens members ++ [Token.mark '\x7d']).foldl Progress.feed
      (.reading (.object done key :: frames) .key) =
        .close (.object (done.reverse ++ membersWritten members)) frames
  | [], hne, _, _, _ => absurd rfl hne
  | [(k, v)], _, done, _, frames => by
    show (tokens v ++ [Token.mark '\x7d']).foldl Progress.feed
      (.reading (.object done (some (k.getD [])) :: frames) .value) = _
    rw [List.foldl_append, foldl_tokens]
    show Progress.close (.object ((some (k.getD []), written v) :: done).reverse) frames = _
    rw [List.reverse_cons]
    rfl
  | (k, v) :: m :: rest, _, done, _, frames => by
    show (tokens v ++ .mark ',' :: memberTokens (m :: rest) ++ [Token.mark '\x7d']).foldl
      Progress.feed (.reading (.object done (some (k.getD [])) :: frames) .value) = _
    rw [List.append_assoc, List.foldl_append, foldl_tokens]
    show (memberTokens (m :: rest) ++ [Token.mark '\x7d']).foldl Progress.feed
      (.reading (.object ((some (k.getD []), written v) :: done) (some (k.getD [])) :: frames)
        .key) = _
    rw [foldl_memberTokens (m :: rest) (List.cons_ne_nil m rest), List.reverse_cons,
      List.append_assoc]
    rfl

end

/-- **A document that has been written can be read**, and holds what was written. -/
theorem parse?_of_spells {document : Text} {v : Json} (h : Token.Spells document (tokens v)) :
    parse? document = some (written v) := by
  unfold parse? read
  rw [h.ofDocument, foldl_tokens]
  rfl

/-- The line feed at the end is no token. -/
theorem parse?_pretty (v : Json) : parse? (pretty v ++ ['\n']) = some (written v) := by
  have h := (spells_prettyAt v 0).space (c := '\n') rfl .nil
  rw [List.append_nil] at h
  exact parse?_of_spells h

/-- Members whose keys stand in order stay where they are. -/
theorem sorted_object {members : List (Option Text × Json)}
    (h : ((membersSorted members).map fun m => m.1.getD []).Pairwise fun s t => textLe s t = true) :
    (object members).sorted = object (membersSorted members) :=
  congrArg object (List.mergeSort_of_pairwise (List.pairwise_map.1 h))

/-- The part of a value that a path of keys leads to. -/
def at? : Json → List String → Option Json
  | v, [] => some v
  | object members, key :: path => do at? (← member? members key.toList) path
  | _, _ :: _ => none

end EditScript.Json
