import VideoDelivery.Proofs.Json.Nesting
import VideoDelivery.Proofs.Json.ValueReading

/-!
# Values that are read back

A value that is written out line by line is read back as it is, if it is nested no deeper than the
reader may go and each of its binary64 numbers is read back when it stands alone. The second is a
condition because numbers with many digits are read to the best of the reader's effort only.

* `takes_prettyChars` — a written value is taken for itself wherever it stands.
* `ofTextWithin_pretty` — **a canonical value is read back from its text**.
-/

namespace VideoDelivery.Json

mutual

/-- The binary64 numbers of a value. -/
def floats : Json → List Binary64
  | .num (.float x) => [x]
  | .arr items => floatsOfItems items
  | .obj fields => floatsOfFields fields
  | .null | .bool _ | .num (.int ..) | .str _ => []
termination_by structural v => v

def floatsOfItems : List Json → List Binary64
  | [] => []
  | v :: rest => floats v ++ floatsOfItems rest
termination_by structural vs => vs

def floatsOfFields : List (String × Json) → List Binary64
  | [] => []
  | (_, v) :: rest => floats v ++ floatsOfFields rest
termination_by structural fs => fs

end

/-- Every binary64 number of the value is read back when it stands alone. -/
def FloatsReadBack (v : Json) : Prop := ∀ x ∈ v.floats, ReadsBack (.float x)

instance (v : Json) : Decidable (FloatsReadBack v) :=
  inferInstanceAs (Decidable (∀ x ∈ v.floats, ReadsBack (.float x)))

theorem floatsReadBack_arr_iff {vs : List Json} :
    FloatsReadBack (.arr vs) ↔ ∀ v ∈ vs, FloatsReadBack v := by
  unfold FloatsReadBack
  rw [floats]
  induction vs with
  | nil => simp [floatsOfItems]
  | cons v vs ih => rw [floatsOfItems, List.forall_mem_append, ih, List.forall_mem_cons]

theorem floatsReadBack_obj_iff {fs : List (String × Json)} :
    FloatsReadBack (.obj fs) ↔ ∀ e ∈ fs, FloatsReadBack e.2 := by
  unfold FloatsReadBack
  rw [floats]
  induction fs with
  | nil => simp [floatsOfFields]
  | cons e fs ih => rw [floatsOfFields, List.forall_mem_append, ih, List.forall_mem_cons]

/-! ## Containers -/

section

variable {α : Type} {n depth : Nat}

theorem prettyChars_arr (n : Nat) (vs : List Json) :
    ∃ rest, prettyChars n (.arr vs) = '[' :: rest := by
  cases vs <;> exact ⟨_, rfl⟩

theorem prettyChars_obj (n : Nat) (fs : List (String × Json)) :
    ∃ rest, prettyChars n (.obj fs) = '\x7b' :: rest := by
  cases fs <;> exact ⟨_, rfl⟩

/-- Characters are taken by a reader that reads them from behind the first of them on. -/
theorem takes_of_first {reader : Reader α} {chars : List Char} {c : Char} {a : α}
    (hspace : isSpace c = false) (hopens : c ≠ ']') (hchars : ∃ rest, chars = c :: rest)
    (h : ∀ text rest after, skipSpace text = c :: rest → chars ++ after = c :: rest →
      Reads reader text a after) : Takes reader chars a := by
  obtain ⟨rest, rfl⟩ := hchars
  refine ⟨⟨c, rest, skipSpace_cons hspace rest, hopens⟩, ?_⟩
  intro text after _ htext
  rw [List.cons_append, skipSpace_cons hspace] at htext
  exact h text (rest ++ after) after htext rfl

theorem takes_arr {vs : List Json}
    (h : List.Forall₂ (fun v a => Takes (value depth) (prettyChars (n + 1) v) a) vs vs) :
    Takes (value (depth + 1)) (prettyChars n (.arr vs)) (.arr vs) := by
  refine takes_of_first rfl (by decide) (prettyChars_arr n vs) ?_
  intro text rest after htext hchars
  obtain ⟨r, hr, hvalue, hrest⟩ := reads_items h hchars
  have hread : value (depth + 1) text = do
      return ((← items (value depth) rest).map Json.arr).within (notLonger_of_skipSpace htext) := by
    unfold value
    exact match_skipSpace htext _ _
  rw [Reads, hread, hr]
  exact ⟨_, rfl, congrArg Json.arr hvalue, hrest⟩

theorem takes_obj {fs : List (String × Json)}
    (h : FieldsTaken (valueField depth) (n + 1) [] fs fs) :
    Takes (value (depth + 1)) (prettyChars n (.obj fs)) (.obj fs) := by
  refine takes_of_first rfl (by decide) (prettyChars_obj n fs) ?_
  intro text rest after htext hchars
  obtain ⟨r, hr, hvalue, hrest⟩ := reads_fields h hchars
  have hread : value (depth + 1) text = do
      return ((← fields (valueField depth) [] rest).map Json.obj).within
        (notLonger_of_skipSpace htext) := by
    unfold value
    exact match_skipSpace htext _ _
  rw [Reads, hread, hr]
  exact ⟨_, rfl, congrArg Json.obj hvalue, hrest⟩

/-- A reader that does something with the result reads what the reader read. -/
theorem Reads.map {β : Type} {reader : Reader α} {text after : List Char} {a : α}
    (h : Reads reader text a after) (f : α → β) :
    Reads (fun text => do return (← reader text).map f) text (f a) after := by
  obtain ⟨r, hr, rfl, hrest⟩ := h
  exact ⟨r.map f, by simp [hr, bind, Except.bind, pure, Except.pure], rfl, hrest⟩

theorem Takes.map {β : Type} {reader : Reader α} {chars : List Char} {a : α}
    (h : Takes reader chars a) (f : α → β) :
    Takes (fun text => do return (← reader text).map f) chars (f a) :=
  ⟨h.opens, fun text after hafter htext => (h.reads text after hafter htext).map f⟩

end

/-! ## Values -/

mutual

/-- **A written value is taken for itself**, whatever stands around it. -/
theorem takes_prettyChars : ∀ (v : Json) {n depth : Nat}, nesting v ≤ depth → FloatsReadBack v →
    Takes (value depth) (prettyChars n v) v
  | .null, _, depth, _, _ => takes_null depth
  | .bool b, _, depth, _, _ => takes_bool depth b
  | .num (.int i h), _, depth, _, _ => takes_int i h depth
  | .num (.float x), _, depth, _, hfloats =>
    takes_of_readsBack (hfloats x (List.mem_singleton_self x)) depth
  | .str s, _, depth, _, _ => takes_str depth s
  | .arr _, _, 0, hnesting, _ => absurd hnesting (Nat.not_succ_le_zero _)
  | .arr vs, _, _ + 1, hnesting, hfloats =>
    takes_arr (takes_prettyItems vs (nesting_arr_le_iff.mp hnesting)
      (floatsReadBack_arr_iff.mp hfloats))
  | .obj _, _, 0, hnesting, _ => absurd hnesting (Nat.not_succ_le_zero _)
  | .obj fs, _, _ + 1, hnesting, hfloats =>
    takes_obj (takes_prettyFields fs [] (nesting_obj_le_iff.mp hnesting)
      (floatsReadBack_obj_iff.mp hfloats))

theorem takes_prettyItems : ∀ (vs : List Json) {n depth : Nat}, (∀ v ∈ vs, nesting v ≤ depth) →
    (∀ v ∈ vs, FloatsReadBack v) →
    List.Forall₂ (fun v a => Takes (value depth) (prettyChars n v) a) vs vs
  | [], _, _, _, _ => .nil
  | v :: vs, _, _, hnesting, hfloats => by
    obtain ⟨hv, hvs⟩ := List.forall_mem_cons.mp hnesting
    obtain ⟨fv, fvs⟩ := List.forall_mem_cons.mp hfloats
    exact .cons (takes_prettyChars v hv fv) (takes_prettyItems vs hvs fvs)

theorem takes_prettyFields : ∀ (fs read : List (String × Json)) {n depth : Nat},
    (∀ e ∈ fs, nesting e.2 ≤ depth) → (∀ e ∈ fs, FloatsReadBack e.2) →
    FieldsTaken (valueField depth) n read fs (read ++ fs)
  | [], read, _, _, _, _ => by
    rw [List.append_nil]
    exact .nil read
  | (key, v) :: fs, read, n, _, hnesting, hfloats => by
    obtain ⟨hv, hvs⟩ := List.forall_mem_cons.mp hnesting
    obtain ⟨fv, fvs⟩ := List.forall_mem_cons.mp hfloats
    -- the fields that were read so far stand before the others
    have hrest := takes_prettyFields fs (read ++ [(key, v)]) (n := n) hvs fvs
    rw [List.append_assoc] at hrest
    exact .cons rfl ((takes_prettyChars v hv fv).map _) hrest

end

/-- A canonical value is read back from its text. -/
theorem ofTextWithin_pretty {v : Json} {depth : Nat} (hcanonical : Canonical v)
    (hnesting : nesting v ≤ depth) (hfloats : FloatsReadBack v) :
    ofTextWithin depth v.pretty = .ok v := by
  obtain ⟨r, hr, hvalue, hrest⟩ := (takes_prettyChars v hnesting hfloats).reads v.pretty.toList []
    follows_nil (by rw [List.append_nil, pretty, String.toList_ofList])
  have hend : toEnd r = .ok v := toEnd_eq_ok.mpr ⟨hvalue, hrest⟩
  refine bind_eq_ok.mpr ⟨r, hr, bind_eq_ok.mpr ⟨v, hend, ?_⟩⟩
  rw [canonical_of_Canonical hcanonical]
  rfl

end VideoDelivery.Json
