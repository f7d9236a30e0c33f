import VideoDelivery.Proofs.Asset.UrlTokens

/-!
# What a segment tells of its step

A segment shows the text of a value and not the value, and nothing of a value without a text. So
what can be known of a step from its segment is its *written form*, the step with each value replaced
by its text. Steps are compared by their values, though, and in most of them a value is not its text.

Two things can hide even the written form: a comma within a text, which looks like the end of it, and
a raw text, which can look like any token.

* `Step.segment?_written` — a step and its written form have one segment.
* `Step.mem_written_iff` — the written form has the tokens of the step and no others.
* `Step.written_eq_self_iff` — the steps that are their own written form.
* `Step.sameText_iff` — **a segment and its raw text tell the written form of a step**.
-/

namespace VideoDelivery

/-- A coded token is told by its text, as there is no underscore in a code. -/
theorem Token.eq_of_codedText {c d : String × String} (hc : ∀ x ∈ c.1.toList, '_' < x)
    (hd : ∀ x ∈ d.1.toList, '_' < x) (h : codedText c = codedText d) : c = d := by
  have hcode : c.1 = d.1 := by
    by_contra hne
    -- texts of different codes compare as these do
    have hle : codedText c ≤ codedText d ↔ c.1 ≤ d.1 := Text.marked_le_iff hc hd hne c.2 d.2
    have hge : codedText d ≤ codedText c ↔ d.1 ≤ c.1 :=
      Text.marked_le_iff hd hc (Ne.symm hne) d.2 c.2
    rw [h] at hle hge
    exact hne (String.le_antisymm (hle.mp (String.le_refl _)) (hge.mp (String.le_refl _)))
  refine Prod.ext hcode ?_
  have htext : c.1 ++ "_" ++ c.2 = d.1 ++ "_" ++ d.2 := h
  rwa [hcode, String.append_right_inj] at htext

namespace Step

/-! ## The written form -/

/-- The parameter with the text of its value, if it has one. -/
def writtenField? (e : String × Json) : Option (String × Json) :=
  (Token.ofParameter? e.1 e.2).map fun t => (e.1, .str t.value)

theorem writtenField?_eq_some_iff {e f : String × Json} : writtenField? e = some f ↔
    ∃ t, Token.ofParameter? e.1 e.2 = some t ∧ (e.1, .str t.value) = f :=
  Option.map_eq_some_iff

theorem key_of_writtenField? {e f : String × Json} (h : writtenField? e = some f) : f.1 = e.1 := by
  obtain ⟨t, -, rfl⟩ := writtenField?_eq_some_iff.mp h
  rfl

/-- The written form of a step: the text of each value in its place, and nothing in the place of a
value without one. -/
def written (s : Step) : Step where
  params := {
    entries := s.entries.filterMap writtenField?
    sorted := by
      refine List.pairwise_filterMap.mpr (s.params.sorted.imp fun {e f} hlt e' he' f' hf' => ?_)
      rwa [key_of_writtenField? he', key_of_writtenField? hf'] }
  canonical := by
    intro f hf
    obtain ⟨e, he, hwritten⟩ := List.mem_filterMap.mp hf
    rw [key_of_writtenField? hwritten]
    exact s.canonical e he

theorem bind_writtenField? (e : String × Json) :
    ((writtenField? e).bind fun f => Token.ofParameter? f.1 f.2) =
      Token.ofParameter? e.1 e.2 := by
  cases h : Token.ofParameter? e.1 e.2 with
  | none => rw [writtenField?, h, Option.map_none, Option.bind_none]
  | some t =>
    -- a token is encoded again from what it says
    rw [writtenField?, h, Option.map_some, Option.bind_some]
    exact Token.ofParameter?_value h rfl

@[simp] theorem tokens_written (s : Step) : s.written.tokens = s.tokens := by
  show (s.entries.filterMap writtenField?).filterMap _ = _
  rw [List.filterMap_filterMap, tokens]
  exact List.filterMap_congr fun e _ => bind_writtenField? e

/-- A step and its written form have one segment. -/
theorem segment?_written (s : Step) : s.written.segment? = s.segment? := by
  rw [segment?, segment?, tokenTexts, tokenTexts, tokens_written]

theorem rawText?_written (s : Step) : s.written.rawText? = s.rawText? := by
  have hlist : s.written.rawText?.toList = s.rawText?.toList := by
    rw [← filterMap_raw?, ← filterMap_raw?, tokens_written]
  simpa using congrArg List.head? hlist

/-! ## What is in it -/

section

variable {s : Step} {e : String × Json}

theorem key_eq_of_names {k : String} (he : e ∈ s.entries) (hk : k ∈ Parameter.names)
    (h : Name.fold e.1 = Name.fold k) : e.1 = k := by
  have hcanonical := (Parameter.canonicalName?_eq_some_iff hk).mpr h
  exact Option.some.inj ((s.canonical e he).symm.trans hcanonical)

theorem key_of_raw {text : String} (he : e ∈ s.entries)
    (h : Token.ofParameter? e.1 e.2 = some (.raw text)) : e.1 = Parameter.rawName := by
  rcases Token.ofParameter?_eq_some_iff.mp h with ⟨hfold, -⟩ | ⟨p, -, -, text', -, heq⟩
  · exact key_eq_of_names he (List.mem_cons_self ..) hfold
  · cases heq

theorem key_of_coded {p : Parameter} (hp : p ∈ Parameter.all) {text : String} (he : e ∈ s.entries)
    (h : Token.ofParameter? e.1 e.2 = some (.coded p.code text)) : e.1 = p.name := by
  obtain ⟨q, hq, hfold, hcode⟩ := Token.exists_code (c := (p.code, text)) h
  -- the code of a parameter is that of no other one
  obtain rfl := Parameter.code_injective p hp q hq hcode
  exact key_eq_of_names he (List.mem_cons_of_mem _ (List.mem_map_of_mem hp)) hfold

/-- The written form has the tokens of the step and no others. -/
theorem mem_written_iff : e ∈ s.written.entries ↔ ∃ text, e.2 = .str text ∧
    ((e.1 = Parameter.rawName ∧ s.rawText? = some text) ∨
      ∃ p ∈ Parameter.all, e.1 = p.name ∧ (p.code, text) ∈ s.byCode) := by
  constructor
  · intro he
    obtain ⟨f, hf, hwritten⟩ := List.mem_filterMap.mp he
    obtain ⟨t, ht, rfl⟩ := writtenField?_eq_some_iff.mp hwritten
    refine ⟨t.value, rfl, ?_⟩
    cases t with
    | raw text =>
      have hkey := key_of_raw hf ht
      exact .inl ⟨hkey, rawText?_eq_some_iff.mpr ⟨f, hf, ht⟩⟩
    | coded code text =>
      obtain ⟨p, hp, -, rfl⟩ := Token.exists_code (c := (code, text)) ht
      have hkey := key_of_coded hp hf ht
      exact .inr ⟨p, hp, hkey, mem_byCode_iff.mpr ⟨f, hf, ht⟩⟩
  · obtain ⟨k, v⟩ := e
    rintro ⟨text, rfl, ⟨rfl, hraw⟩ | ⟨p, hp, rfl, hcode⟩⟩
    · obtain ⟨f, hf, ht⟩ := rawText?_eq_some_iff.mp hraw
      refine List.mem_filterMap.mpr ⟨f, hf, writtenField?_eq_some_iff.mpr ⟨_, ht, ?_⟩⟩
      rw [key_of_raw hf ht]
      rfl
    · obtain ⟨f, hf, ht⟩ := mem_byCode_iff.mp hcode
      refine List.mem_filterMap.mpr ⟨f, hf, writtenField?_eq_some_iff.mpr ⟨_, ht, ?_⟩⟩
      rw [key_of_coded hp hf ht]
      rfl

theorem written_eq_of_tokens {t : Step} (hcoded : ∀ c, c ∈ s.byCode ↔ c ∈ t.byCode)
    (hraw : s.rawText? = t.rawText?) : s.written = t.written := by
  refine ext_params (PropertyMap.ext_entries ?_)
  refine PropertyMap.eq_of_mem_iff s.written.params.sorted t.written.params.sorted fun e => ?_
  have hmem : e ∈ s.written.entries ↔ e ∈ t.written.entries := by
    simp only [mem_written_iff, hcoded, hraw]
  exact hmem

end

/-! ## Steps written out -/

/-- Every value of the step is a text: a string with something in it. -/
def WrittenOut (s : Step) : Prop := ∀ e ∈ s.entries, ∃ text, e.2 = .str text ∧ text ≠ ""

theorem writtenOut_written (s : Step) : s.written.WrittenOut := by
  intro f hf
  obtain ⟨e, -, hwritten⟩ := List.mem_filterMap.mp hf
  obtain ⟨t, ht, rfl⟩ := writtenField?_eq_some_iff.mp hwritten
  exact ⟨t.value, rfl, Token.value_ne_empty ht⟩

theorem writtenField?_of_text {k text : String} (hk : k ∈ Parameter.names) (hne : text ≠ "") :
    writtenField? (k, .str text) = some (k, .str text) := by
  rw [writtenField?_eq_some_iff]
  rcases List.mem_cons.mp hk with rfl | hk
  · exact ⟨.raw text, (Token.ofParameter?_raw rfl _).trans
      (congrArg (Option.map Token.raw) (Token.rawText?_eq_some_iff.mpr ⟨rfl, hne⟩)), rfl⟩
  · obtain ⟨p, hp, rfl⟩ := List.mem_map.mp hk
    exact ⟨.coded p.code text, (Token.ofParameter?_coded hp rfl _).trans
      (congrArg (Option.map (Token.coded p.code)) (Token.scalarText?_str hne)), rfl⟩

/-- The steps that are their own written form. -/
theorem written_eq_self_iff {s : Step} : s.written = s ↔ s.WrittenOut := by
  constructor
  · intro h
    rw [← h]
    exact s.writtenOut_written
  · intro h
    refine ext_params (PropertyMap.ext_entries ?_)
    have hentry : ∀ e ∈ s.entries, writtenField? e = some e := by
      rintro ⟨k, v⟩ he
      obtain ⟨text, rfl, hne⟩ := h _ he
      exact writtenField?_of_text (mem_names_of_mem_entries he) hne
    show s.entries.filterMap writtenField? = s.entries
    rw [List.filterMap_congr hentry, List.filterMap_some]

/-! ## What segments tell -/

/-- No token of the step has a comma in its text. -/
def CommaFree (s : Step) : Prop := ∀ text ∈ s.tokenTexts, ',' ∉ text.toList

instance (s : Step) : Decidable s.CommaFree :=
  inferInstanceAs (Decidable (∀ text ∈ s.tokenTexts, ',' ∉ text.toList))

/-- The steps have one segment, and the raw text in it is the same. -/
structure SameText (s t : Step) : Prop where
  segment : s.segment? = t.segment?
  raw : s.rawText? = t.rawText?

section

variable {s t : Step}

theorem tokenTexts_eq_of_segment? (hs : s.CommaFree) (ht : t.CommaFree)
    (h : s.segment? = t.segment?) : s.tokenTexts = t.tokenTexts := by
  cases hsegment : t.segment? with
  | none =>
    have hnil : ∀ {s : Step}, s.segment? = none → s.tokenTexts = [] := fun h =>
      tokenTexts_eq_nil_iff.mpr (segment?_eq_none_iff.mp h)
    rw [hnil (h.trans hsegment), hnil hsegment]
  | some segment =>
    rw [← parts_segment hs (h.trans hsegment), parts_segment ht hsegment]

theorem mem_byCode_of_texts (h : s.byCode.map Token.codedText = t.byCode.map Token.codedText)
    {c : String × String} (hc : c ∈ s.byCode) : c ∈ t.byCode := by
  obtain ⟨d, hd, htext⟩ := List.mem_map.mp (h ▸ List.mem_map_of_mem hc)
  have hunderscore : ∀ {s : Step} {c : String × String}, c ∈ s.byCode →
      ∀ x ∈ c.1.toList, '_' < x := fun hc => underscore_lt (List.mem_mergeSort.mp hc)
  rwa [← Token.eq_of_codedText (hunderscore hd) (hunderscore hc) htext]

/-- **A segment and its raw text tell the written form of a step**, as long as no text has a comma:
steps have these in common exactly when they have one written form. -/
theorem sameText_iff (hs : s.CommaFree) (ht : t.CommaFree) :
    s.SameText t ↔ s.written = t.written := by
  constructor
  · rintro ⟨hsegment, hraw⟩
    -- the segment is split at its commas, and what is before the raw text are the coded tokens
    have htexts := tokenTexts_eq_of_segment? hs ht hsegment
    rw [tokenTexts_eq, tokenTexts_eq, hraw, List.append_cancel_right_eq] at htexts
    exact written_eq_of_tokens
      (fun c => ⟨mem_byCode_of_texts htexts, mem_byCode_of_texts htexts.symm⟩) hraw
  · intro h
    refine ⟨?_, ?_⟩
    · rw [← s.segment?_written, h, segment?_written]
    · rw [← s.rawText?_written, h, rawText?_written]

/-- A comma looks like the end of a text, and a raw text like any token. -/
example : (ofFields [("crop", .str "fit,w_70")]).segment? = some "c_fit,w_70" ∧
    (ofFields [("crop", .str "fit"), ("rawTransformation", .str "w_70")]).segment? =
      some "c_fit,w_70" ∧
    (ofFields [("width", .ofNat 70)]).segment? = some "w_70" ∧
    (ofFields [("rawTransformation", .str "w_70")]).segment? = some "w_70" := by
  decide +kernel

/-- Steps that are written out are told by their segments and raw texts. -/
theorem eq_of_writtenOut (hs : s.CommaFree) (ht : t.CommaFree) (hs' : s.WrittenOut)
    (ht' : t.WrittenOut) (h : s.SameText t) : s = t := by
  rw [← written_eq_self_iff.mpr hs', (sameText_iff hs ht).mp h, written_eq_self_iff.mpr ht']

/-- So are lists of them. -/
theorem list_eq_of_writtenOut {xs ys : List Step} (h : List.Forall₂ SameText xs ys)
    (hxs : ∀ s ∈ xs, s.CommaFree ∧ s.WrittenOut) (hys : ∀ t ∈ ys, t.CommaFree ∧ t.WrittenOut) :
    xs = ys := by
  induction h with
  | nil => rfl
  | cons htext _ ih =>
    obtain ⟨⟨hs, hs'⟩, hxs⟩ := List.forall_mem_cons.mp hxs
    obtain ⟨⟨ht, ht'⟩, hys⟩ := List.forall_mem_cons.mp hys
    rw [eq_of_writtenOut hs ht hs' ht' htext, ih hxs hys]

end

end Step

end VideoDelivery
