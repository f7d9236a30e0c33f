import VideoDelivery.Proofs.Json.NumberReading

/-!
# Written values that are read

What the reader of values does with the scalars, the items and the fields of a written value. The
readers of items and of fields are any, so that what is said here serves the readers of documents
as well.

* `takes_of_readsBack` — a number that reads back when it stands alone reads back everywhere.
* `reads_items` — **a written list is read item by item**.
* `reads_fields` — **a written object is read field by field**.
-/

namespace VideoDelivery.Json

/-! ## Scalars -/

/-- A value that starts like no container is read as a scalar. -/
theorem reads_value_of_scalar {text after : List Char} {c : Char} {rest : List Char} {v : Json}
    (htext : skipSpace text = c :: rest) (harray : c ≠ '[') (hobject : c ≠ '\x7b')
    (h : Reads scalar (c :: rest) v after) (depth : Nat) : Reads (value depth) text v after := by
  obtain ⟨r, hr, hvalue, hrest⟩ := h
  have hread : value depth text = do
      return (← scalar (c :: rest)).within (htext ▸ skipSpace_length_le text) := by
    unfold value
    refine (match_skipSpace htext _ _).trans ?_
    rw [if_neg harray, if_neg hobject]
  rw [Reads, hread, hr]
  exact ⟨_, rfl, hvalue, hrest⟩

/-- Characters that are read as a scalar whatever follows them are taken for a value. -/
theorem takes_of_scalar {chars rest : List Char} {c : Char} {v : Json}
    (hchars : skipSpace chars = c :: rest) (hopens : c ≠ ']') (harray : c ≠ '[')
    (hobject : c ≠ '\x7b')
    (h : ∀ after, Follows after → Reads scalar (c :: (rest ++ after)) v after) (depth : Nat) :
    Takes (value depth) chars v := by
  refine ⟨⟨c, rest, hchars, hopens⟩, ?_⟩
  intro text after hafter htext
  rw [skipSpace_append hchars] at htext
  exact reads_value_of_scalar htext harray hobject (h after hafter) depth

theorem takes_null (depth : Nat) : Takes (value depth) (compactChars .null) .null :=
  takes_of_scalar rfl (by decide) (by decide) (by decide)
    (fun _ _ => ReadsTo.reads ⟨_, rfl, rfl, rfl⟩) depth

theorem takes_bool (depth : Nat) (b : Bool) :
    Takes (value depth) (compactChars (.bool b)) (.bool b) := by
  cases b with
  | true =>
    exact takes_of_scalar rfl (by decide) (by decide) (by decide)
      (fun _ _ => ReadsTo.reads ⟨_, rfl, rfl, rfl⟩) depth
  | false =>
    exact takes_of_scalar rfl (by decide) (by decide) (by decide)
      (fun _ _ => ReadsTo.reads ⟨_, rfl, rfl, rfl⟩) depth

theorem takes_str (depth : Nat) (s : String) :
    Takes (value depth) (compactChars (.str s)) (.str s) := by
  have hquoted : skipSpace (compactChars (.str s)) =
      '"' :: (s.toList.flatMap escapedChar ++ ['"']) := skipSpace_cons rfl _
  refine takes_of_scalar hquoted (by decide) (by decide) (by decide) ?_ depth
  intro after _
  -- the closing quote ends it, so what follows does not matter
  obtain ⟨r, hr, hvalue, hrest⟩ := string_quotedChars s after
  rw [List.append_assoc, List.singleton_append]
  refine ReadsTo.reads
    ⟨(r.map Json.str).within (Nat.le_succ _), ?_, congrArg Json.str hvalue, hrest⟩
  simp [scalar, hr, bind, Except.bind, pure, Except.pure]

/-! ## Numbers -/

/-- A number is printed and read again as the number it is. -/
def ReadsBack (n : Number) : Prop := ofText (Json.num n).pretty = .ok (.num n)

instance (n : Number) : Decidable (ReadsBack n) :=
  match h : ofText (Json.num n).pretty with
  | .ok (.num m) => decidable_of_iff (m = n) (by simp [ReadsBack, h])
  | .ok .null | .ok (.bool _) | .ok (.str _) | .ok (.arr _) | .ok (.obj _) | .error _ =>
    isFalse (by simp [ReadsBack, h])

theorem first_of_number {c : Char} {text : List Char} {n : Number} {rest : List Char}
    (h : ReadsTo number (c :: text) n rest) : c = '-' ∨ c.isDigit = true := by
  by_cases hminus : c = '-'
  · exact .inl hminus
  · unfold ReadsTo at h
    rw [number_of_ne_minus hminus] at h
    exact .inr (readsTo_unsignedNumber.mp h).1

theorem ne_of_number {c d : Char} (h : c = '-' ∨ c.isDigit = true)
    (hminus : d ≠ '-') (hdigit : d.isDigit = false) : c ≠ d := by
  rintro rfl
  rcases h with rfl | h
  · exact hminus rfl
  · rw [hdigit] at h
    cases h

/-- What is read as a number when it stands alone is taken for it everywhere. -/
theorem takes_of_number {chars rest : List Char} {n : Number}
    (h : ReadsTo number (skipSpace chars) n rest) (hrest : skipSpace rest = []) (depth : Nat) :
    Takes (value depth) chars (.num n) := by
  cases hchars : skipSpace chars with
  | nil =>
    rw [hchars] at h
    obtain ⟨r, hr, -⟩ := h
    cases hr
  | cons c tail =>
    rw [hchars] at h
    -- it starts with a digit or a sign, and so like nothing else
    have hfirst := first_of_number h
    refine takes_of_scalar hchars (ne_of_number hfirst (by decide) rfl)
      (ne_of_number hfirst (by decide) rfl) (ne_of_number hfirst (by decide) rfl) ?_ depth
    intro after hafter
    obtain ⟨r, hr, hvalue, hleft⟩ := readsTo_number_append hafter h
    refine ⟨r.map Json.num, ?_, congrArg Json.num hvalue, ?_⟩
    · have hr : number (c :: (tail ++ after)) = .ok r := hr
      have hletters : c ≠ 'n' ∧ c ≠ 't' ∧ c ≠ 'f' ∧ c ≠ '"' :=
        ⟨ne_of_number hfirst (by decide) rfl, ne_of_number hfirst (by decide) rfl,
          ne_of_number hfirst (by decide) rfl, ne_of_number hfirst (by decide) rfl⟩
      simp [scalar, hletters, hfirst, hr, bind, Except.bind, pure, Except.pure]
    · -- the white space left of the number is skipped before what follows
      have hall : ∀ c ∈ rest, isSpace c = true := List.dropWhile_eq_nil_iff.mp hrest
      show skipSpace r.rest = skipSpace after
      rw [hleft]
      exact List.dropWhile_append_of_pos hall

theorem number_of_scalar {text rest : List Char} {n : Number}
    (h : ReadsTo scalar text (.num n) rest) : ReadsTo number text n rest := by
  obtain ⟨r, hr, hvalue, rfl⟩ := h
  cases text with
  | nil => cases hr
  | cons c tail =>
    unfold scalar at hr
    dsimp only at hr
    repeat' split at hr
    -- the other scalars are no numbers
    all_goals first
      | cases hr
      | obtain ⟨q, hq, hr⟩ := bind_eq_ok.mp hr
        obtain rfl := Except.ok.inj hr
        first
          | exact ⟨q, hq, Json.num.inj hvalue, rfl⟩
          | cases hvalue

theorem number_of_value {depth : Nat} {text : List Char} {r : Read Json text} {n : Number}
    (h : value depth text = .ok r) (hvalue : r.value = .num n) :
    ReadsTo number (skipSpace text) n r.rest := by
  rcases value_cases h with ⟨c, rest, htext, hread⟩ | ⟨inner, rest, q, -, -, -, hcontainer⟩ |
    ⟨inner, rest, q, -, -, -, hcontainer⟩
  · rw [htext]
    rw [hvalue] at hread
    exact number_of_scalar hread
  · -- a container is no number
    rw [hvalue] at hcontainer
    cases hcontainer
  · rw [hvalue] at hcontainer
    cases hcontainer

theorem eq_num_of_canonical {v : Json} {n : Number} (h : canonical v = .num n) : v = .num n := by
  cases v
  case num => exact h
  all_goals cases h

/-- A number that reads back when it stands alone is taken for itself everywhere. -/
theorem takes_of_readsBack {n : Number} (h : ReadsBack n) (depth : Nat) :
    Takes (value depth) n.digitText (.num n) := by
  obtain ⟨r, hr, hrest⟩ := bind_eq_ok.mp h
  obtain ⟨v, hend, hcanonical⟩ := bind_eq_ok.mp hrest
  obtain ⟨hv, hnil⟩ := toEnd_eq_ok.mp hend
  -- reading found the number as the value of the whole text, so it found it as a number
  have hnum : r.value = .num n := hv.trans (eq_num_of_canonical (Except.ok.inj hcanonical))
  have hread : ∀ chars, chars = (Json.num n).pretty.toList →
      ReadsTo number (skipSpace chars) n r.rest := by
    rintro _ rfl
    exact number_of_value hr hnum
  exact takes_of_number (hread n.digitText String.toList_ofList.symm) hnil depth

theorem takes_int (n : Int) (h : minInteger ≤ n ∧ n ≤ maxInteger) (depth : Nat) :
    Takes (value depth) (Number.int n h).digitText (.num (.int n h)) := by
  have hread := readsTo_int n h
  have hskip : skipSpace (Number.int n h).digitText = (Number.int n h).digitText := by
    cases hchars : (Number.int n h).digitText with
    | nil => rfl
    | cons c tail =>
      rw [hchars] at hread
      have hfirst := first_of_number hread
      have hspace : isSpace c = false := by
        simp [isSpace, ne_of_number hfirst (d := ' ') (by decide) rfl,
          ne_of_number hfirst (d := '\t') (by decide) rfl,
          ne_of_number hfirst (d := '\n') (by decide) rfl,
          ne_of_number hfirst (d := '\r') (by decide) rfl]
      exact skipSpace_cons hspace tail
  rw [← hskip] at hread
  exact takes_of_number hread rfl depth

/-! ## Lists -/

section

variable {α : Type} {item : Reader α} {text rest after : List Char} {a : α} {as : List α}

theorem reads_lastItem (h : Reads item text a rest) (hrest : skipSpace rest = ']' :: after) :
    Reads (moreItems item) text [a] after := by
  obtain ⟨r, hr, rfl, hleft⟩ := h
  have hclose : skipSpace r.rest = ']' :: after := hleft.trans hrest
  rw [Reads, moreItems, hr]
  exact ⟨_, match_skipSpace hclose _ _, rfl, rfl⟩

theorem reads_nextItem {next tail : List Char} {d : Char} (h : Reads item text a rest)
    (hrest : skipSpace rest = ',' :: next) (hnext : skipSpace next = d :: tail) (hd : d ≠ ']')
    (hmore : Reads (moreItems item) next as after) :
    Reads (moreItems item) text (a :: as) after := by
  obtain ⟨r, hr, rfl, hleft⟩ := h
  obtain ⟨more, hmore, rfl, hafter⟩ := hmore
  have hcomma : skipSpace r.rest = ',' :: next := hleft.trans hrest
  rw [Reads, moreItems, hr]
  -- the loop may go on, since the text behind the comma is shorter
  have hshorter : next.length < text.length :=
    Nat.lt_trans (shorter_of_skipSpace hcomma) r.shorter
  refine ⟨⟨r.value :: more.value, more.rest, Nat.lt_trans more.shorter hshorter⟩,
    (match_skipSpace hcomma _ _).trans ?_, rfl, hafter⟩
  rw [if_neg (by decide), if_pos rfl, hnext]
  dsimp only
  rw [if_neg hd, hmore]
  rfl

theorem skipSpace_prettyItems_one (n : Nat) (v : Json) (after : List Char) :
    skipSpace (prettyItems n [v] ++ after) = skipSpace (prettyChars n v ++ after) := by
  rw [prettyItems, prettyItems, List.isEmpty_nil, if_pos rfl, List.append_nil, List.append_nil,
    List.append_assoc, skipSpace_newLine]

theorem skipSpace_prettyItems (n : Nat) (v w : Json) (vs : List Json) (after : List Char) :
    skipSpace (prettyItems n (v :: w :: vs) ++ after) =
      skipSpace (prettyChars n v ++ ',' :: (prettyItems n (w :: vs) ++ after)) := by
  have hempty : (w :: vs).isEmpty = false := rfl
  rw [prettyItems, hempty, if_neg Bool.false_ne_true]
  simp only [List.append_assoc, List.cons_append, List.nil_append, skipSpace_newLine]

/-- Written items are read one after the other, up to the closing bracket on its line. -/
theorem reads_moreItems {n m : Nat} {vs : List Json}
    (h : List.Forall₂ (fun v a => Takes item (prettyChars n v) a) vs as) (hne : vs ≠ [])
    (htext : skipSpace text = skipSpace (prettyItems n vs ++ (newLine m ++ ']' :: after))) :
    Reads (moreItems item) text as after := by
  induction h generalizing text with
  | nil => exact absurd rfl hne
  | @cons v a vs as hv htail ih =>
    -- the last item ends at the end of its line, the others at their commas
    cases htail with
    | nil =>
      rw [skipSpace_prettyItems_one] at htext
      refine reads_lastItem (hv.reads _ _ (follows_newLine m _) htext) ?_
      rw [skipSpace_newLine]
      exact skipSpace_cons rfl after
    | @cons w b ws bs hw htail =>
      rw [skipSpace_prettyItems] at htext
      obtain ⟨d, tail, hopens, hd⟩ := hw.opens
      have hnext : skipSpace (prettyItems n (w :: ws) ++ (newLine m ++ ']' :: after)) =
          d :: (tail ++ ((if ws.isEmpty then [] else [',']) ++ (prettyItems n ws ++
            (newLine m ++ ']' :: after)))) := by
        rw [prettyItems]
        simp only [List.append_assoc, skipSpace_newLine]
        exact skipSpace_append hopens _
      exact reads_nextItem (hv.reads _ _ (follows_comma _) htext) (skipSpace_cons rfl _) hnext hd
        (ih (List.cons_ne_nil w ws) rfl)

/-- A written list is read item by item, after its opening bracket. -/
theorem reads_items {n : Nat} {vs : List Json}
    (h : List.Forall₂ (fun v a => Takes item (prettyChars (n + 1) v) a) vs as)
    (htext : prettyChars n (.arr vs) ++ after = '[' :: text) :
    Reads (items item) text as after := by
  cases h with
  | nil =>
    obtain rfl : ']' :: after = text := (List.cons.inj htext).2
    exact ⟨⟨[], after, Nat.lt_succ_self _⟩, rfl, rfl, rfl⟩
  | @cons v a vs as hv htail =>
    obtain rfl : prettyItems (n + 1) (v :: vs) ++ newLine n ++ [']'] ++ after = text := by
      rw [prettyChars] at htext
      exact (List.cons.inj htext).2
    -- the list does not end where the first item starts
    have hstart : ∃ d tail,
        skipSpace (prettyItems (n + 1) (v :: vs) ++ newLine n ++ [']'] ++ after) = d :: tail ∧
          d ≠ ']' := by
      obtain ⟨d, tail, hopens, hd⟩ := hv.opens
      rw [prettyItems]
      simp only [List.append_assoc, skipSpace_newLine]
      exact ⟨d, _, skipSpace_append hopens _, hd⟩
    obtain ⟨d, tail, hstart, hd⟩ := hstart
    have hmore : Reads (moreItems item)
        (prettyItems (n + 1) (v :: vs) ++ newLine n ++ [']'] ++ after) (a :: as) after := by
      refine reads_moreItems (m := n) (.cons hv htail) (List.cons_ne_nil v vs) ?_
      simp only [List.append_assoc, List.singleton_append]
    have hread : items item (prettyItems (n + 1) (v :: vs) ++ newLine n ++ [']'] ++ after) =
        moreItems item _ := (match_skipSpace hstart _ _).trans (if_neg hd)
    rw [Reads, hread]
    exact hmore

end

/-! ## Objects -/

section

variable {σ : Type} {field : σ → String → Except Fault (Reader σ)} {s s₁ s₂ : σ}
variable {text rest after : List Char}

/-- What some written fields are taken for: each with the reader that its key and the fields before
it choose. -/
inductive FieldsTaken (field : σ → String → Except Fault (Reader σ)) (n : Nat) :
    σ → List (String × Json) → σ → Prop where
  | nil (s : σ) : FieldsTaken field n s [] s
  | cons {s s₁ s₂ : σ} {key : String} {v : Json} {fs : List (String × Json)} {reader : Reader σ}
      (hfield : field s key = .ok reader) (hvalue : Takes reader (prettyChars n v) s₁)
      (hrest : FieldsTaken field n s₁ fs s₂) : FieldsTaken field n s ((key, v) :: fs) s₂

theorem colon_eq {m : Type → Type} [Monad m] [MonadExceptOf Fault m]
    (h : skipSpace text = ':' :: rest) :
    (colon text : m _) = pure ⟨rest, shorter_of_skipSpace h⟩ :=
  match_skipSpace h _ _

/-- A field is read from within its key on, and the fields after it if a comma follows. -/
theorem reads_field {key : String} {reader : Reader σ} {afterKey valueText : List Char}
    (hkey : ReadsTo string text key afterKey) (hfield : field s key = .ok reader)
    (hcolon : skipSpace afterKey = ':' :: valueText) (h : Reads reader valueText s₁ rest)
    (hend : skipSpace rest = '\x7d' :: after ∧ s₂ = s₁ ∨
      ∃ next tail, skipSpace rest = ',' :: next ∧ skipSpace next = '"' :: tail ∧
        Reads (moreFields field s₁) tail s₂ after) :
    Reads (moreFields field s) text s₂ after := by
  obtain ⟨k, hk, rfl, rfl⟩ := hkey
  obtain ⟨r, hr, rfl, hleft⟩ := h
  rw [Reads, moreFields, hk]
  simp only [liftExcept, bind, Except.bind, pure, Except.pure, hfield, colon_eq hcolon, hr]
  rcases hend with ⟨hend, rfl⟩ | ⟨next, tail, hcomma, hquote, hmore⟩
  · have hclose : skipSpace r.rest = '\x7d' :: after := hleft.trans hend
    exact ⟨_, match_skipSpace hclose _ _, rfl, rfl⟩
  · obtain ⟨more, hmore, rfl, hafter⟩ := hmore
    have hcomma : skipSpace r.rest = ',' :: next := hleft.trans hcomma
    -- every part of the field takes something off the text
    have hshorter : tail.length < text.length := by
      have := shorter_of_skipSpace hquote
      have := shorter_of_skipSpace hcomma
      have := shorter_of_skipSpace hcolon
      have := r.shorter
      have := k.shorter
      omega
    refine ⟨⟨more.value, more.rest, Nat.lt_trans more.shorter hshorter⟩,
      (match_skipSpace hcomma _ _).trans ?_, rfl, hafter⟩
    rw [if_neg (by decide), if_pos rfl]
    refine (match_skipSpace hquote _ _).trans ?_
    rw [if_pos rfl, hmore]

theorem skipSpace_prettyFields (n : Nat) (key : String) (v : Json) (fs : List (String × Json))
    (after : List Char) :
    skipSpace (prettyFields n ((key, v) :: fs) ++ after) =
      '"' :: (key.toList.flatMap escapedChar ++ '"' :: ':' :: ' ' :: (prettyChars n v ++
        ((if fs.isEmpty then [] else [',']) ++ (prettyFields n fs ++ after)))) := by
  rw [prettyFields]
  simp only [List.append_assoc, List.cons_append, skipSpace_newLine, quotedChars]
  exact skipSpace_cons rfl _

/-- Written fields are read one after the other, up to the closing brace on its line. -/
theorem reads_moreFields {n m : Nat} {fs : List (String × Json)} (h : FieldsTaken field n s fs s₁)
    (hne : fs ≠ [])
    (htext : skipSpace (prettyFields n fs ++ (newLine m ++ '\x7d' :: after)) = '"' :: text) :
    Reads (moreFields field s) text s₁ after := by
  induction h generalizing text with
  | nil => exact absurd rfl hne
  | @cons s s₁ s₂ key v fs reader hfield hvalue hrest ih =>
    rw [skipSpace_prettyFields] at htext
    obtain rfl := (List.cons.inj htext).2
    -- as for items, the last field ends at the end of its line
    cases fs with
    | nil =>
      obtain rfl : s₁ = s₂ := by
        cases hrest
        rfl
      refine reads_field (string_quotedChars key _) hfield (skipSpace_cons rfl _)
        (hvalue.reads _ _ (follows_newLine m _) rfl) (.inl ⟨?_, rfl⟩)
      rw [skipSpace_newLine]
      exact skipSpace_cons rfl after
    | cons f fs =>
      obtain ⟨k, w⟩ := f
      refine reads_field (string_quotedChars key _) hfield (skipSpace_cons rfl _)
        (hvalue.reads _ _ (follows_comma _) rfl)
        (.inr ⟨_, _, skipSpace_cons rfl _, skipSpace_prettyFields n k w fs _, ?_⟩)
      exact ih (List.cons_ne_nil _ _) (skipSpace_prettyFields n k w fs _)

/-- A written object is read field by field, after its opening brace. -/
theorem reads_fields {n : Nat} {fs : List (String × Json)}
    (h : FieldsTaken field (n + 1) s fs s₁)
    (htext : prettyChars n (.obj fs) ++ after = '\x7b' :: text) :
    Reads (fields field s) text s₁ after := by
  cases h with
  | nil =>
    obtain rfl : '\x7d' :: after = text := (List.cons.inj htext).2
    exact ⟨⟨s, after, Nat.lt_succ_self _⟩, rfl, rfl, rfl⟩
  | @cons _ _ _ key v fs reader hfield hvalue hrest =>
    have hbody :
        prettyFields (n + 1) ((key, v) :: fs) ++ newLine n ++ ['\x7d'] ++ after = text := by
      rw [prettyChars] at htext
      exact (List.cons.inj htext).2
    rw [List.append_assoc, List.append_assoc, List.singleton_append] at hbody
    subst hbody
    -- a field starts with the quote of its key, where the reader looks for it
    have hstart := skipSpace_prettyFields (n + 1) key v fs (newLine n ++ '\x7d' :: after)
    obtain ⟨r, hr, hvalue, hafter⟩ :=
      reads_moreFields (m := n) (.cons hfield hvalue hrest) (List.cons_ne_nil _ _) hstart
    refine ⟨r.within (notLonger_of_skipSpace hstart), (match_skipSpace hstart _ _).trans ?_, hvalue,
      hafter⟩
    rw [if_neg (by decide), if_pos rfl, hr]
    rfl

end

end VideoDelivery.Json
