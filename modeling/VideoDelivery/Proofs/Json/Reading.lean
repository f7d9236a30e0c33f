import VideoDelivery.Json.Printer
import VideoDelivery.Json.Reader
import VideoDelivery.Proofs.Outcome
import Mathlib.Data.String.Basic

/-!
# Readings, and strings that are read back

What a reader does with a text that was written is said in two ways. `ReadsTo` says what is left of
the text; `Reads` says it up to white space, which is all that matters to the next reader. What a
reader makes of a written value, wherever the value stands, is `Takes`.

* `value_cases` — what the reader of values can have read.
* `string_quotedChars` — **a written string is read back**.
-/

namespace VideoDelivery.Json

/-! ## Readings -/

section

variable {α : Type}

/-- The reader reads `a` off the front of the text and leaves `rest`. -/
def ReadsTo (reader : Reader α) (text : List Char) (a : α) (rest : List Char) : Prop :=
  ∃ r, reader text = .ok r ∧ r.value = a ∧ r.rest = rest

/-- The reader reads `a` off the front of the text and comes, after white space, to `after`. -/
def Reads (reader : Reader α) (text : List Char) (a : α) (after : List Char) : Prop :=
  ∃ r, reader text = .ok r ∧ r.value = a ∧ skipSpace r.rest = skipSpace after

/-- What may follow a value on its line or after it: nothing, a comma, or the end of the line. -/
def Follows (after : List Char) : Prop := ∀ c ∈ after.head?, c = ',' ∨ c = '\n'

/-- The reader takes some characters for `a`, wherever they stand after white space. They start
with something, and not with a closing bracket, where the items of a list would end. -/
structure Takes (reader : Reader α) (chars : List Char) (a : α) : Prop where
  opens : ∃ c rest, skipSpace chars = c :: rest ∧ c ≠ ']'
  reads : ∀ text after, Follows after → skipSpace text = skipSpace (chars ++ after) →
    Reads reader text a after

theorem ReadsTo.reads {reader : Reader α} {text : List Char} {a : α} {rest : List Char}
    (h : ReadsTo reader text a rest) : Reads reader text a rest := by
  obtain ⟨r, hr, hvalue, hrest⟩ := h
  exact ⟨r, hr, hvalue, congrArg skipSpace hrest⟩

end

/-! ## White space -/

theorem skipSpace_cons {c : Char} (h : isSpace c = false) (rest : List Char) :
    skipSpace (c :: rest) = c :: rest := by
  rw [skipSpace, List.dropWhile_cons, h]
  rfl

theorem skipSpace_newLine (depth : Nat) (rest : List Char) :
    skipSpace (newLine depth ++ rest) = skipSpace rest := by
  have hall : ∀ c ∈ newLine depth, isSpace c = true := by
    intro c hc
    rcases List.mem_cons.mp hc with rfl | hc
    · rfl
    · rw [List.eq_of_mem_replicate hc]
      rfl
  exact List.dropWhile_append_of_pos hall

theorem follows_newLine (depth : Nat) (rest : List Char) : Follows (newLine depth ++ rest) := by
  intro c hc
  exact .inr (Option.some.inj hc).symm

theorem follows_comma (rest : List Char) : Follows (',' :: rest) := by
  intro c hc
  exact .inl (Option.some.inj hc).symm

theorem follows_nil : Follows [] := nofun

/-- White space is skipped up to a character that is none, whatever follows it. -/
theorem skipSpace_append {text rest : List Char} {c : Char} (h : skipSpace text = c :: rest)
    (after : List Char) : skipSpace (text ++ after) = c :: (rest ++ after) := by
  unfold skipSpace at h ⊢
  rw [List.dropWhile_append, h]
  rfl

/-- A reader that looks at the first character goes on with the one that is there. -/
theorem match_skipSpace {γ : Type} {text rest : List Char} {c : Char}
    (h : skipSpace text = c :: rest) (x : skipSpace text = [] → γ)
    (f : (c : Char) → (rest : List Char) → skipSpace text = c :: rest → γ) :
    (match h' : skipSpace text with
      | [] => x h'
      | c :: rest => f c rest h') = f c rest h := by
  split
  next hnil =>
    rw [h] at hnil
    cases hnil
  next c' rest' hcons =>
    obtain ⟨rfl, rfl⟩ := List.cons.inj (h.symm.trans hcons)
    rfl

/-! ## Values -/

/-- The reader of one field of an object that is read as it is written. -/
def valueField (depth : Nat) (read : List (String × Json)) (key : String) :
    Except Fault (Reader (List (String × Json))) :=
  .ok fun text => do return (← value depth text).map fun v => read ++ [(key, v)]

/-- What was read as a value is a scalar, the items of a list or the fields of an object, the last
two with one level of the depth used up. -/
theorem value_cases {depth : Nat} {text : List Char} {r : Read Json text}
    (h : value depth text = .ok r) :
    (∃ c rest, skipSpace text = c :: rest ∧ ReadsTo scalar (c :: rest) r.value r.rest) ∨
    (∃ inner rest q, depth = inner + 1 ∧ skipSpace text = '[' :: rest ∧
      items (value inner) rest = .ok q ∧ r.value = .arr q.value) ∨
    (∃ inner rest q, depth = inner + 1 ∧ skipSpace text = '\x7b' :: rest ∧
      fields (valueField inner) [] rest = .ok q ∧ r.value = .obj q.value) := by
  unfold value at h
  split at h
  -- there is nothing to read
  next => cases h
  next c rest htext =>
    split at h
    next hbracket =>
      subst hbracket
      cases depth with
      -- the depth is used up
      | zero => cases h
      | succ inner =>
        obtain ⟨q, hq, h⟩ := bind_eq_ok.mp h
        obtain rfl := Except.ok.inj h
        exact .inr (.inl ⟨inner, rest, q, rfl, htext, hq, rfl⟩)
    split at h
    next hbrace =>
      subst hbrace
      cases depth with
      | zero => cases h
      | succ inner =>
        obtain ⟨q, hq, h⟩ := bind_eq_ok.mp h
        obtain rfl := Except.ok.inj h
        exact .inr (.inr ⟨inner, rest, q, rfl, htext, hq, rfl⟩)
    next =>
      obtain ⟨q, hq, h⟩ := bind_eq_ok.mp h
      obtain rfl := Except.ok.inj h
      exact .inl ⟨c, rest, htext, q, hq, rfl, rfl⟩

theorem toEnd_eq_ok {α : Type} {text : List Char} {r : Read α text} {a : α} :
    toEnd r = .ok a ↔ r.value = a ∧ skipSpace r.rest = [] := by
  unfold toEnd
  split
  next hrest =>
    constructor
    · intro h
      exact ⟨Except.ok.inj h, List.isEmpty_iff.mp hrest⟩
    · rintro ⟨rfl, -⟩
      rfl
  next hrest =>
    constructor
    · intro h
      cases h
    · rintro ⟨-, hnil⟩
      exact absurd (List.isEmpty_iff.mpr hnil) hrest

/-! ## Strings -/

theorem hexValue?_hexDigit (n : Nat) : hexValue? (hexDigit n) = some (n % 16) := by
  have hall : ∀ k < 16, hexValue? (Nat.digitChar k) = some k := by decide
  exact hall (n % 16) (Nat.mod_lt n (by decide))

/-- Four digits of a code below 256 are read back. -/
theorem fourHexDigits_code {n : Nat} (h : n < 256) (rest : List Char) :
    ReadsTo fourHexDigits ('0' :: '0' :: hexDigit (n / 16) :: hexDigit n :: rest) n rest := by
  have hzero : hexValue? '0' = some 0 := rfl
  refine ⟨⟨n, rest, by simp only [List.length_cons]; omega⟩, ?_, rfl, rfl⟩
  simp only [fourHexDigits, hzero, hexValue?_hexDigit]
  congr 2
  omega

/-- A character below the space is read back from its code. -/
theorem escaped_code {c : Char} (h : c.toNat < 0x20) (rest : List Char) :
    ReadsTo escaped ('u' :: '0' :: '0' :: hexDigit (c.toNat / 16) :: hexDigit c.toNat :: rest)
      c rest := by
  obtain ⟨r, hr, hvalue, hrest⟩ := fourHexDigits_code (n := c.toNat) (by omega) rest
  -- so small a code is no surrogate, and it stands for the character alone
  have hlow : isLowSurrogate r.value = false := by
    rw [hvalue, isLowSurrogate, Bool.and_eq_false_iff, decide_eq_false_iff_not]
    omega
  have hhigh : isHighSurrogate r.value = false := by
    rw [hvalue, isHighSurrogate, Bool.and_eq_false_iff, decide_eq_false_iff_not]
    omega
  have hchar : Char.ofNat r.value = c := by
    rw [hvalue, Char.ofNat_toNat]
  refine ⟨⟨c, rest, by simp only [List.length_cons]; omega⟩, ?_, rfl, rfl⟩
  simp only [escaped, escapedCode, hr]
  simp [bind, Except.bind, pure, Except.pure, hlow, hhigh, Read.map, Read.within, hchar, hrest]

theorem stringChars_backslash {text rest after : List Char} {c : Char} {cs : List Char}
    (hescaped : ReadsTo escaped text c rest) (h : ReadsTo stringChars rest cs after) :
    ReadsTo stringChars ('\\' :: text) (c :: cs) after := by
  obtain ⟨e, he, rfl, rfl⟩ := hescaped
  obtain ⟨r, hr, rfl, rfl⟩ := h
  refine ⟨⟨e.value :: r.value, r.rest, Nat.lt_succ_of_lt (Nat.lt_trans r.shorter e.shorter)⟩, ?_,
    rfl, rfl⟩
  rw [stringChars]
  simp [he, hr, bind, Except.bind, pure, Except.pure]

theorem stringChars_plain {text after : List Char} {c : Char} {cs : List Char} (hquote : c ≠ '"')
    (hbackslash : c ≠ '\\') (hspace : ¬ c.toNat < 0x20) (h : ReadsTo stringChars text cs after) :
    ReadsTo stringChars (c :: text) (c :: cs) after := by
  obtain ⟨r, hr, rfl, rfl⟩ := h
  refine ⟨⟨c :: r.value, r.rest, Nat.lt_succ_of_lt r.shorter⟩, ?_, rfl, rfl⟩
  rw [stringChars]
  simp [hquote, hbackslash, hspace, hr, bind, Except.bind, pure, Except.pure]

/-- An escaped character is read back. -/
theorem stringChars_escapedChar (c : Char) {text after : List Char} {cs : List Char}
    (h : ReadsTo stringChars text cs after) :
    ReadsTo stringChars (escapedChar c ++ text) (c :: cs) after := by
  unfold escapedChar
  -- seven characters have an escape of one letter
  split
  next hc =>
    subst hc
    exact stringChars_backslash ⟨_, rfl, rfl, rfl⟩ h
  split
  next hc =>
    subst hc
    exact stringChars_backslash ⟨_, rfl, rfl, rfl⟩ h
  split
  next hc =>
    have hc : Char.ofNat 8 = c := by rw [← hc, Char.ofNat_toNat]
    exact stringChars_backslash ⟨_, rfl, hc, rfl⟩ h
  split
  next hc =>
    have hc : Char.ofNat 12 = c := by rw [← hc, Char.ofNat_toNat]
    exact stringChars_backslash ⟨_, rfl, hc, rfl⟩ h
  split
  next hc =>
    subst hc
    exact stringChars_backslash ⟨_, rfl, rfl, rfl⟩ h
  split
  next hc =>
    subst hc
    exact stringChars_backslash ⟨_, rfl, rfl, rfl⟩ h
  split
  next hc =>
    subst hc
    exact stringChars_backslash ⟨_, rfl, rfl, rfl⟩ h
  next hquote hbackslash _ _ _ _ _ =>
  -- the others below the space are written by their code, and all else as it is
  split
  next hc => exact stringChars_backslash (escaped_code hc text) h
  next hc => exact stringChars_plain hquote hbackslash hc h

/-- A written string is read back, after its opening quote. -/
theorem string_quotedChars (s : String) (after : List Char) :
    ReadsTo string (s.toList.flatMap escapedChar ++ '"' :: after) s after := by
  -- character by character, up to the closing quote
  have hchars : ∀ cs : List Char,
      ReadsTo stringChars (cs.flatMap escapedChar ++ '"' :: after) cs after := by
    intro cs
    induction cs with
    | nil =>
      show ReadsTo stringChars ('"' :: after) [] after
      refine ⟨⟨[], after, Nat.lt_succ_self _⟩, ?_, rfl, rfl⟩
      rw [stringChars]
      rfl
    | cons c cs ih =>
      rw [List.flatMap_cons, List.append_assoc]
      exact stringChars_escapedChar c ih
  obtain ⟨r, hr, hvalue, hrest⟩ := hchars s.toList
  refine ⟨r.map String.ofList, ?_, ?_, hrest⟩
  · rw [string, hr]
    rfl
  · rw [Read.map, hvalue, String.ofList_toList]

end VideoDelivery.Json
