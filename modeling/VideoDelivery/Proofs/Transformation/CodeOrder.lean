import VideoDelivery.Proofs.Transformation.Encoding
import VideoDelivery.Proofs.Transformation.History
import VideoDelivery.Transformation.Segment
import Mathlib.Data.List.Sort

/-!
# Segments are in the order of the codes

A segment puts the texts of its coded tokens in order, and these are compared as a whole, code and
value. The values have no say in it all the same: no parameter has the code of another one, and the
underscore behind a code comes before every letter, so that `a_…` stands before `ac_…` whatever
follows. What a segment looks like is thus decided by the codes, and a raw text comes last.

* `Step.pairwise_byCode` — the codes of a step rise, so none comes twice.
* `Step.map_text_byCode` — **sorting by texts is sorting by codes**.
* `Step.tokenTexts_eq` — the texts of a segment, coded ones first.
* `Step.codes_unmoved` — two steps have the codes that they share in one order.
* `Step.inCodeOrder` — **how the segment of every step is put together**.
-/

namespace VideoDelivery

/-! ## Codes -/

namespace Parameter

theorem code_injective : ∀ p ∈ all, ∀ q ∈ all, p.code = q.code → p = q := by
  decide +kernel

theorem underscore_lt_code : ∀ p ∈ all, ∀ c ∈ p.code.toList, '_' < c := by
  -- a check of the characters in the table, not of all that there are
  have hcodes : ∀ p ∈ all, p.code.toList.all ('_' < ·) = true := by decide +kernel
  intro p hp c hc
  exact of_decide_eq_true (List.all_eq_true.mp (hcodes p hp) c hc)

end Parameter

namespace Token

/-- The code and the value of a coded token. -/
def coded? : Token → Option (String × String)
  | .coded code value => some (code, value)
  | .raw _ => none

/-- The text of a raw token. -/
def raw? : Token → Option String
  | .coded .. => none
  | .raw text => some text

/-- The text of the token with a code and a value. -/
def codedText (c : String × String) : String := (coded c.1 c.2).text

theorem bind_coded?_eq_some_iff {x : Option Token} {c : String × String} :
    x.bind coded? = some c ↔ x = some (.coded c.1 c.2) := by
  cases x with
  | none => simp
  | some t => cases t <;> simp [coded?, Prod.ext_iff]

theorem bind_raw?_eq_some_iff {x : Option Token} {text : String} :
    x.bind raw? = some text ↔ x = some (.raw text) := by
  cases x with
  | none => simp
  | some t => cases t <;> simp [raw?]

theorem exists_code {name : String} {v : Json} {c : String × String}
    (h : ofParameter? name v = some (.coded c.1 c.2)) :
    ∃ p ∈ Parameter.all, Name.fold name = Name.fold p.name ∧ c.1 = p.code := by
  rcases ofParameter?_eq_some_iff.mp h with ⟨-, s, -, heq⟩ | ⟨p, hp, hfold, text, -, heq⟩
  · cases heq
  · exact ⟨p, hp, hfold, (Token.coded.inj heq).1⟩

theorem map_text_coded (tokens : List Token) :
    (tokens.filter (not ∘ isRaw)).map text = (tokens.filterMap coded?).map codedText := by
  induction tokens with
  | nil => rfl
  | cons t rest ih =>
    cases t with
    | coded code value => exact congrArg (codedText (code, value) :: ·) ih
    | raw text => exact ih

theorem map_text_raw (tokens : List Token) :
    (tokens.filter isRaw).map text = tokens.filterMap raw? := by
  induction tokens with
  | nil => rfl
  | cons t rest ih =>
    cases t with
    | coded code value => exact ih
    | raw text => exact congrArg (text :: ·) ih

end Token

namespace Step

/-! ## Coded tokens -/

/-- The coded tokens of a step as codes and values. -/
def coded (s : Step) : List (String × String) := s.tokens.filterMap Token.coded?

/-- The coded tokens in the order of their codes. -/
def byCode (s : Step) : List (String × String) := s.coded.mergeSort fun a b => a.1 ≤ b.1

/-- The codes of a step in their order. -/
def codes (s : Step) : List String := s.byCode.map Prod.fst

theorem mem_coded_iff {s : Step} {c : String × String} :
    c ∈ s.coded ↔ ∃ e ∈ s.entries, Token.ofParameter? e.1 e.2 = some (.coded c.1 c.2) := by
  rw [coded, tokens, List.filterMap_filterMap, List.mem_filterMap]
  simp only [Token.bind_coded?_eq_some_iff]

theorem mem_byCode_iff {s : Step} {c : String × String} :
    c ∈ s.byCode ↔ ∃ e ∈ s.entries, Token.ofParameter? e.1 e.2 = some (.coded c.1 c.2) := by
  rw [byCode, List.mem_mergeSort, mem_coded_iff]

theorem key_eq_of_fold {s : Step} {e f : String × Json} (he : e ∈ s.entries) (hf : f ∈ s.entries)
    (h : Name.fold e.1 = Name.fold f.1) : e.1 = f.1 := by
  have hcanonical := Parameter.canonicalName?_congr h
  rw [s.canonical e he, s.canonical f hf] at hcanonical
  exact Option.some.inj hcanonical

theorem pairwise_code_ne (s : Step) : s.coded.Pairwise fun a b => a.1 ≠ b.1 := by
  rw [coded, tokens, List.filterMap_filterMap, List.pairwise_filterMap]
  refine s.params.sorted.imp_of_mem ?_
  intro e f he hf hlt a ha b hb hcode
  obtain ⟨p, hp, hfold, hcodep⟩ := Token.exists_code (Token.bind_coded?_eq_some_iff.mp ha)
  obtain ⟨q, hq, hfold', hcodeq⟩ := Token.exists_code (Token.bind_coded?_eq_some_iff.mp hb)
  -- one code is that of one parameter, and this has one key
  obtain rfl := Parameter.code_injective p hp q hq (by rw [← hcodep, hcode, hcodeq])
  rw [key_eq_of_fold he hf (hfold.trans hfold'.symm)] at hlt
  exact String.lt_irrefl _ hlt

theorem pairwise_byCode (s : Step) : s.byCode.Pairwise fun a b => a.1 < b.1 := by
  -- sorting makes the codes rise weakly, and no two are equal
  have hsorted : (s.byCode.map Prod.fst).Pairwise (· ≤ ·) := by
    rw [byCode, List.map_mergeSort (s := fun a b => decide (a ≤ b)) fun _ _ _ _ => rfl]
    exact List.pairwise_mergeSort' (· ≤ ·) _
  have hdistinct : s.byCode.Pairwise fun a b => a.1 ≠ b.1 :=
    (List.mergeSort_perm _ _).symm.pairwise s.pairwise_code_ne Ne.symm
  exact ((List.pairwise_map.mp hsorted).and hdistinct).imp fun ⟨hle, hne⟩ =>
    lt_of_not_lt_of_ne hle hne.symm

theorem pairwise_codes (s : Step) : s.codes.Pairwise (· < ·) :=
  List.pairwise_map.mpr s.pairwise_byCode

/-- Two steps have the codes that they share in one order. -/
theorem codes_unmoved (s t : Step) :
    s.codes.filter (· ∈ t.codes) = t.codes.filter (· ∈ s.codes) := by
  refine List.Pairwise.eq_of_mem_iff (s.pairwise_codes.filter _) (t.pairwise_codes.filter _) ?_
  intro code
  rw [List.mem_filter, List.mem_filter, decide_eq_true_iff, decide_eq_true_iff]
  exact and_comm

theorem underscore_lt {s : Step} {c : String × String} (hc : c ∈ s.coded) :
    ∀ d ∈ c.1.toList, '_' < d := by
  obtain ⟨e, -, htoken⟩ := mem_coded_iff.mp hc
  obtain ⟨p, hp, -, hcode⟩ := Token.exists_code htoken
  rw [hcode]
  exact Parameter.underscore_lt_code p hp

/-- **Sorting by texts is sorting by codes.** -/
theorem map_text_byCode (s : Step) : s.byCode.map Token.codedText =
    (s.coded.map Token.codedText).mergeSort fun a b => a ≤ b := by
  apply List.map_mergeSort
  intro a ha b hb
  rw [decide_eq_decide]
  by_cases hcode : a.1 = b.1
  · -- one code has one token
    have hcodes : (s.coded.map Prod.fst).Nodup := List.pairwise_map.mpr s.pairwise_code_ne
    rw [List.inj_on_of_nodup_map hcodes ha hb hcode]
    exact iff_of_true (String.le_refl _) (String.le_refl _)
  · exact (Text.marked_le_iff (underscore_lt ha) (underscore_lt hb) hcode a.2 b.2).symm

/-- One code may begin another one, and the value behind it may be anything. -/
example : Token.codedText ("a", "~") ≤ Token.codedText ("ac", "0") := by
  decide +kernel

/-! ## Raw text -/

/-- The text of the raw parameter, if it has one. -/
def rawText? (s : Step) : Option String := (s.params.get? Parameter.rawName).bind Token.rawText?

theorem bind_raw?_of_mem {s : Step} {e : String × Json} (he : e ∈ s.entries) :
    (Token.ofParameter? e.1 e.2).bind Token.raw? =
      if e.1 = Parameter.rawName then Token.rawText? e.2 else none := by
  split
  next hraw =>
    rw [Token.ofParameter?_raw (congrArg Name.fold hraw)]
    cases Token.rawText? e.2 <;> rfl
  next hraw =>
    -- keys are canonical, so any other one names a coded parameter
    obtain hkey | hkey := List.mem_cons.mp (mem_names_of_mem_entries he)
    · exact absurd hkey hraw
    · obtain ⟨p, hp, hname⟩ := List.mem_map.mp hkey
      rw [Token.ofParameter?_coded hp (congrArg Name.fold hname.symm)]
      cases Token.valueText? p.join e.2 <;> rfl

/-- The entries of one key are that of its value, if it has one. -/
theorem filterMap_key {fields : List (String × Json)} (h : InKeyOrder fields) (k : String)
    (f : Json → Option String) :
    (fields.filterMap fun e => if e.1 = k then f e.2 else none) =
      ((fields.lookup k).bind f).toList := by
  induction fields with
  | nil => rfl
  | cons e rest ih =>
    obtain ⟨name, v⟩ := e
    obtain ⟨hfirst, hlater⟩ := List.pairwise_cons.mp h
    rw [List.filterMap_cons, ih hlater, PropertyMap.lookup_field]
    by_cases hk : name = k
    · subst hk
      -- the key does not come again
      rw [lookup_eq_none_of_above hfirst]
      cases hv : f v <;> simp [hv]
    · simp [hk, Ne.symm hk]

theorem filterMap_raw? (s : Step) : s.tokens.filterMap Token.raw? = s.rawText?.toList := by
  rw [tokens, List.filterMap_filterMap, List.filterMap_congr fun e he => bind_raw?_of_mem he]
  exact filterMap_key s.params.sorted Parameter.rawName Token.rawText?

theorem rawText?_eq_some_iff {s : Step} {text : String} :
    s.rawText? = some text ↔ ∃ e ∈ s.entries, Token.ofParameter? e.1 e.2 = some (.raw text) := by
  have hmem : s.rawText? = some text ↔ text ∈ s.tokens.filterMap Token.raw? := by
    rw [filterMap_raw?, Option.mem_toList]
  rw [hmem, tokens, List.filterMap_filterMap, List.mem_filterMap]
  simp only [Token.bind_raw?_eq_some_iff]

/-! ## Segments -/

/-- The texts of a segment are those of the coded tokens in the order of the codes, and then the raw
text. -/
theorem tokenTexts_eq (s : Step) :
    s.tokenTexts = s.byCode.map Token.codedText ++ s.rawText?.toList := by
  rw [tokenTexts, List.partition_eq_filter_filter]
  dsimp only
  rw [Token.map_text_coded, Token.map_text_raw, filterMap_raw?, map_text_byCode]
  rfl

/-- Putting the texts in order neither loses nor adds one. -/
theorem tokenTexts_perm (s : Step) : s.tokenTexts.Perm (s.tokens.map Token.text) := by
  rw [tokenTexts, List.partition_eq_filter_filter]
  dsimp only
  -- first the sorting is undone, then the separation of the raw tokens
  refine ((List.mergeSort_perm _ _).append_right _).trans ?_
  rw [← List.map_append]
  exact (List.perm_append_comm.trans (List.filter_append_perm Token.isRaw s.tokens)).map _

theorem tokenTexts_eq_nil_iff {s : Step} : s.tokenTexts = [] ↔ s.tokens = [] := by
  rw [← List.perm_nil, s.tokenTexts_perm.congr_left, List.perm_nil, List.map_eq_nil_iff]

theorem segment?_eq_none_iff {s : Step} : s.segment? = none ↔ s.tokens = [] := by
  rw [← tokenTexts_eq_nil_iff, segment?]
  cases s.tokenTexts <;> simp

theorem segment?_eq_some_iff {s : Step} {segment : String} :
    s.segment? = some segment ↔
      s.tokens ≠ [] ∧ segment = ",".intercalate s.tokenTexts := by
  rw [ne_eq, ← tokenTexts_eq_nil_iff, segment?]
  cases s.tokenTexts <;> simp [eq_comm]

theorem segment?_ne_empty (s : Step) : s.segment? ≠ some "" := by
  intro h
  obtain ⟨hne, hempty⟩ := segment?_eq_some_iff.mp h
  obtain ⟨t, ht⟩ := List.exists_mem_of_ne_nil s.tokens hne
  obtain ⟨e, -, htoken⟩ := List.mem_filterMap.mp ht
  -- the text of any token is a piece of the segment
  have hpiece : t.text ∈ s.tokenTexts :=
    s.tokenTexts_perm.mem_iff.mpr (List.mem_map_of_mem ht)
  exact Text.intercalate_ne_empty hpiece (Token.text_ne_empty htoken) hempty.symm

/-- How the segment of a step is put together. -/
structure InCodeOrder (s : Step) : Prop where
  /-- There is no segment exactly where no parameter has a token. -/
  absent : s.segment? = none ↔ ∀ e ∈ s.entries, Token.ofParameter? e.1 e.2 = none
  /-- Otherwise it joins the texts of the coded tokens and the raw text, if there is one. -/
  joined : ∀ segment, s.segment? = some segment → segment =
    ",".intercalate (s.byCode.map (fun c => (Token.coded c.1 c.2).text) ++ s.rawText?.toList)
  /-- These are the tokens of the parameters, each with its code, and the raw text is that of the
  raw parameter. -/
  coded : ∀ code value, (code, value) ∈ s.byCode ↔
    ∃ e ∈ s.entries, Token.ofParameter? e.1 e.2 = some (.coded code value)
  raw : ∀ text, s.rawText? = some text ↔
    ∃ e ∈ s.entries, Token.ofParameter? e.1 e.2 = some (.raw text)
  /-- The codes rise, so none comes twice. -/
  rising : s.codes.Pairwise (· < ·)
  /-- Whatever values another step has, the codes that both have come in the same order. -/
  unmoved : ∀ t : Step, s.codes.filter (· ∈ t.codes) = t.codes.filter (· ∈ s.codes)
  /-- No segment is empty. -/
  notEmpty : s.segment? ≠ some ""

/-- **Segments are in the order of the codes.** A step without tokens has no segment. Any other step
has the texts of its coded tokens joined by commas, by rising codes, whatever their values are, and
the raw text after them if there is one. -/
theorem inCodeOrder (s : Step) : s.InCodeOrder where
  absent := by rw [segment?_eq_none_iff, tokens, List.filterMap_eq_nil_iff]
  joined segment h := by
    rw [(segment?_eq_some_iff.mp h).2, tokenTexts_eq]
    rfl
  coded _ _ := mem_byCode_iff
  raw _ := rawText?_eq_some_iff
  rising := s.pairwise_codes
  unmoved := s.codes_unmoved
  notEmpty := s.segment?_ne_empty

/-- The raw text is the last one, wherever it would stand in order. -/
example : (ofFields [("rawTransformation", .str "a_0"), ("audioCodec", .str ""),
    ("width", .ofNat 100)]).segment? = some "w_100,a_0" := by
  decide +kernel

end Step

end VideoDelivery
