import VideoDelivery.Proofs.Json.Agreement
import VideoDelivery.Video.Identity
import Mathlib.Data.List.Forall2

/-!
# Parts that say where they end

The identity bytes of a configuration are parts in turn, so two configurations are told apart only
if every part says where it ends. `Splits part R a b` is what a part has to do for two things: when
the bytes of one, continued somehow, are those of the other, continued somehow, the things are
related and the continuations are equal. Parts that split are put together by taking the first one
off and going on with what is left.

* `text_splits`, `flag_splits`, `optional_splits`, `list_splits` — the parts that everything is
  built from. Sizes have four bytes, so a text or a list splits where its size tells.
* `json_splits` — **the bytes of a value split**: they tell values apart up to agreement.
* `json_congr` — values that agree have the same bytes.
-/

namespace VideoDelivery.Identity

/-- However they are continued, the bytes of `a` are those of `b` only if `R a b` holds and the
continuations are equal. -/
def Splits {α : Type} (part : α → List UInt8) (R : α → α → Prop) (a b : α) : Prop :=
  ∀ ⦃r s : List UInt8⦄, part a ++ r = part b ++ s → R a b ∧ r = s

theorem Splits.eq_iff {α : Type} {part : α → List UInt8} {R : α → α → Prop} {a b : α}
    (h : Splits part R a b) (hcongr : R a b → part a = part b) : part a = part b ↔ R a b := by
  refine ⟨fun heq => ?_, hcongr⟩
  have hsplit := h (r := []) (s := [])
  rw [List.append_nil, List.append_nil] at hsplit
  exact (hsplit heq).1

/-! ## The parts that everything is built from -/

theorem size_eq_iff (m n : Nat) : size m = size n ↔ m % 2 ^ 32 = n % 2 ^ 32 := by
  -- four digits to the base 256 are the number modulo 2 ^ 32
  simp only [size, List.cons.injEq, and_true, ← UInt8.toNat_inj, UInt8.toNat_ofNat',
    Nat.shiftRight_eq_div_pow]
  omega

theorem size_splits {m n : Nat} (htell : SizesTell m n) : Splits size Eq m n := by
  intro r s h
  obtain ⟨hsize, hrest⟩ := List.append_inj h rfl
  exact ⟨htell ((size_eq_iff m n).mp hsize), hrest⟩

theorem length_bytes (s : String) : s.toByteArray.data.toList.length = s.utf8ByteSize := by
  rw [Array.length_toList]
  rfl

theorem bytes_injective {s t : String} (h : s.toByteArray.data.toList = t.toByteArray.data.toList) :
    s = t :=
  String.toByteArray_inj.mp (ByteArray.ext (Array.toList_inj.mp h))

theorem text_splits {a b : String} (htell : SizesTell a.utf8ByteSize b.utf8ByteSize) :
    Splits text Eq a b := by
  intro r s h
  rw [text, text, List.append_assoc, List.append_assoc] at h
  obtain ⟨hsize, h⟩ := size_splits htell h
  -- the sizes are equal, so the bytes end at the same place
  obtain ⟨hbytes, hrest⟩ := List.append_inj h (by rw [length_bytes, length_bytes, hsize])
  exact ⟨bytes_injective hbytes, hrest⟩

theorem flag_splits (a b : Bool) : Splits flag Eq a b := by
  intro r s h
  obtain ⟨hflag, hrest⟩ := List.append_inj h rfl
  refine ⟨?_, hrest⟩
  cases a <;> cases b <;> first | rfl | exact absurd hflag (by decide)

section

variable {α : Type} {part : α → List UInt8} {R : α → α → Prop}

theorem optional_splits {x y : Option α} (h : ∀ a ∈ x, ∀ b ∈ y, Splits part R a b) :
    Splits (optional part) (Option.Rel R) x y := by
  intro r s heq
  -- the first byte says whether anything follows
  cases x with
  | none =>
    cases y with
    | none => exact ⟨.none, List.tail_eq_of_cons_eq heq⟩
    | some b => exact absurd (List.head_eq_of_cons_eq heq) (by decide)
  | some a =>
    cases y with
    | none => exact absurd (List.head_eq_of_cons_eq heq) (by decide)
    | some b =>
      obtain ⟨hrel, hrest⟩ := h a rfl b rfl (List.tail_eq_of_cons_eq heq)
      exact ⟨.some hrel, hrest⟩

theorem flatMap_splits {xs ys : List α} (hlen : xs.length = ys.length)
    (h : ∀ p ∈ xs.zip ys, Splits part R p.1 p.2) {r s : List UInt8}
    (heq : xs.flatMap part ++ r = ys.flatMap part ++ s) : List.Forall₂ R xs ys ∧ r = s := by
  induction xs generalizing ys with
  | nil =>
    obtain rfl := List.length_eq_zero_iff.mp hlen.symm
    exact ⟨.nil, heq⟩
  | cons x xs ih =>
    cases ys with
    | nil => cases hlen
    | cons y ys =>
      rw [List.zip_cons_cons, List.forall_mem_cons] at h
      rw [List.flatMap_cons, List.flatMap_cons, List.append_assoc, List.append_assoc] at heq
      obtain ⟨hxy, heq⟩ := h.1 heq
      obtain ⟨hrest, heq⟩ := ih (Nat.succ.inj hlen) h.2 heq
      exact ⟨.cons hxy hrest, heq⟩

theorem list_splits {xs ys : List α} (htell : SizesTell xs.length ys.length)
    (h : ∀ p ∈ xs.zip ys, Splits part R p.1 p.2) :
    Splits (list part) (List.Forall₂ R) xs ys := by
  intro r s heq
  rw [list, list, List.append_assoc, List.append_assoc] at heq
  -- with the number of parts known, the parts come off one by one
  obtain ⟨hlen, heq⟩ := size_splits htell heq
  exact flatMap_splits hlen h heq

theorem list_congr (hpart : ∀ a b, R a b → part a = part b) {xs ys : List α}
    (h : List.Forall₂ R xs ys) : list part xs = list part ys := by
  have hflat : xs.flatMap part = ys.flatMap part := by
    induction h with
    | nil => rfl
    | cons hxy _ ih => rw [List.flatMap_cons, List.flatMap_cons, hpart _ _ hxy, ih]
  rw [list, list, h.length_eq, hflat]

end

/-! ## Values -/

/-- The text of a number is short, so its size always tells. -/
theorem number_splits (m n : Number) : Splits (fun n : Number => text n.text)
    (fun m n => m.text = n.text) m n :=
  text_splits (sizesTell_of_lt m.utf8ByteSize_text_lt n.utf8ByteSize_text_lt)

open Json (Agree AgreeItems AgreeFields WithinLimits WithinLimitsItems WithinLimitsFields same
  sameItems sameFields comparable_str comparable_arr comparable_obj comparable_items
  comparable_fields)

mutual

/-- **The bytes of a value split.** The first byte is the kind; what follows it says where it
ends. -/
theorem json_splits {v w : Json} (h : Comparable WithinLimits same v w) :
    Splits json Agree v w := by
  intro r s heq
  -- values of two kinds differ in the first byte
  cases v <;> cases w <;> try exact absurd (List.head_eq_of_cons_eq heq) (by decide)
  all_goals replace heq := List.tail_eq_of_cons_eq heq
  case null.null => exact ⟨trivial, heq⟩
  case bool.bool a b => exact flag_splits a b heq
  case num.num m n => exact number_splits m n heq
  case str.str a b => exact text_splits (sizesTell_text (comparable_str h)) heq
  case arr.arr vs ws =>
    obtain ⟨htell, hitems⟩ := comparable_arr h
    replace heq : size vs.length ++ (jsonItems vs ++ r) = size ws.length ++ (jsonItems ws ++ s) := by
      rwa [← List.append_assoc, ← List.append_assoc]
    obtain ⟨hlen, heq⟩ := size_splits htell heq
    exact jsonItems_split hitems hlen heq
  case obj.obj vs ws =>
    obtain ⟨htell, hfields⟩ := comparable_obj h
    replace heq :
        size vs.length ++ (jsonFields vs ++ r) = size ws.length ++ (jsonFields ws ++ s) := by
      rwa [← List.append_assoc, ← List.append_assoc]
    obtain ⟨hlen, heq⟩ := size_splits htell heq
    exact jsonFields_split hfields hlen heq

theorem jsonItems_split {vs ws : List Json} (h : Comparable WithinLimitsItems sameItems vs ws)
    (hlen : vs.length = ws.length) {r s : List UInt8}
    (heq : jsonItems vs ++ r = jsonItems ws ++ s) : AgreeItems vs ws ∧ r = s := by
  cases vs with
  | nil =>
    obtain rfl := List.length_eq_zero_iff.mp hlen.symm
    exact ⟨trivial, heq⟩
  | cons v vs =>
    cases ws with
    | nil => cases hlen
    | cons w ws =>
      obtain ⟨hhead, htail⟩ := comparable_items h
      rw [jsonItems, jsonItems, List.append_assoc, List.append_assoc] at heq
      obtain ⟨hagree, heq⟩ := json_splits hhead heq
      obtain ⟨hagrees, heq⟩ := jsonItems_split htail (Nat.succ.inj hlen) heq
      exact ⟨⟨hagree, hagrees⟩, heq⟩

theorem jsonFields_split {vs ws : List (String × Json)}
    (h : Comparable WithinLimitsFields sameFields vs ws)
    (hlen : vs.length = ws.length) {r s : List UInt8}
    (heq : jsonFields vs ++ r = jsonFields ws ++ s) : AgreeFields vs ws ∧ r = s := by
  cases vs with
  | nil =>
    obtain rfl := List.length_eq_zero_iff.mp hlen.symm
    exact ⟨trivial, heq⟩
  | cons v vs =>
    cases ws with
    | nil => cases hlen
    | cons w ws =>
      obtain ⟨k, v⟩ := v
      obtain ⟨l, w⟩ := w
      obtain ⟨hkey, hhead, htail⟩ := comparable_fields h
      simp only [jsonFields, List.append_assoc] at heq
      obtain ⟨hk, heq⟩ := text_splits (sizesTell_text hkey) heq
      obtain ⟨hagree, heq⟩ := json_splits hhead heq
      obtain ⟨hagrees, heq⟩ := jsonFields_split htail (Nat.succ.inj hlen) heq
      exact ⟨⟨hk, hagree, hagrees⟩, heq⟩

end

mutual

theorem json_congr {v w : Json} (h : Agree v w) : json v = json w := by
  cases v <;> cases w <;> try exact h.elim
  case null.null => rfl
  case bool.bool => rw [show _ = _ from h]
  case num.num m n => rw [json, json, show m.text = n.text from h]
  case str.str => rw [show _ = _ from h]
  case arr.arr vs ws =>
    obtain ⟨hlen, hbytes⟩ := jsonItems_congr h
    rw [json, json, hlen, hbytes]
  case obj.obj vs ws =>
    obtain ⟨hlen, hbytes⟩ := jsonFields_congr h
    rw [json, json, hlen, hbytes]

theorem jsonItems_congr {vs ws : List Json} (h : AgreeItems vs ws) :
    vs.length = ws.length ∧ jsonItems vs = jsonItems ws := by
  cases vs <;> cases ws <;> try exact h.elim
  case nil.nil => exact ⟨rfl, rfl⟩
  case cons.cons v vs w ws =>
    obtain ⟨hagree, hagrees⟩ : Agree v w ∧ AgreeItems vs ws := h
    obtain ⟨hlen, hbytes⟩ := jsonItems_congr hagrees
    exact ⟨congrArg (· + 1) hlen, by rw [jsonItems, jsonItems, json_congr hagree, hbytes]⟩

theorem jsonFields_congr {vs ws : List (String × Json)} (h : AgreeFields vs ws) :
    vs.length = ws.length ∧ jsonFields vs = jsonFields ws := by
  cases vs <;> cases ws <;> try exact h.elim
  case nil.nil => exact ⟨rfl, rfl⟩
  case cons.cons v vs w ws =>
    obtain ⟨k, v⟩ := v
    obtain ⟨l, w⟩ := w
    obtain ⟨hk, hagree, hagrees⟩ : k = l ∧ Agree v w ∧ AgreeFields vs ws := h
    obtain ⟨hlen, hbytes⟩ := jsonFields_congr hagrees
    exact ⟨congrArg (· + 1) hlen, by rw [jsonFields, jsonFields, hk, json_congr hagree, hbytes]⟩

end

end VideoDelivery.Identity
