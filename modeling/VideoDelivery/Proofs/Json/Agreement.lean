import VideoDelivery.Proofs.Json.NumberText
import VideoDelivery.Json.Basic

/-!
# Values that agree

Two relations compare values. `Json.same` is the equality of values that decides about a reload;
it takes the two zeros of binary64 for one. `Json.Agree` compares what is written: values agree
when they have one structure and each number in it is written alike.

* `Json.same_eq_of_agree` — **the two relations together are identity**: values that are the same
  and agree are one value, so a zero that changes its sign is all that `same` overlooks.
* `Json.WithinLimits` — every string of a value, in bytes of UTF-8, every list and every object is
  shorter than `2 ^ 32`.
* `Comparable` — two things are both within limits, or they are the same. Either way a size tells
  them apart as well when it is cut off to four bytes (`SizesTell`).
-/

namespace VideoDelivery

/-! ## Sizes in four bytes -/

/-- Two sizes that are equal in four bytes are equal. -/
def SizesTell (m n : Nat) : Prop := m % 2 ^ 32 = n % 2 ^ 32 → m = n

theorem sizesTell_of_lt {m n : Nat} (hm : m < 2 ^ 32) (hn : n < 2 ^ 32) : SizesTell m n := by
  intro h
  rwa [Nat.mod_eq_of_lt hm, Nat.mod_eq_of_lt hn] at h

theorem sizesTell_of_eq {m n : Nat} (h : m = n) : SizesTell m n := fun _ => h

/-- Two things are both within limits, or they are the same. -/
def Comparable {α : Type} (limits : α → Prop) (same : α → α → Bool) (a b : α) : Prop :=
  (limits a ∧ limits b) ∨ same a b = true

theorem Comparable.map {α β : Type} {limits : α → Prop} {same : α → α → Bool}
    {limits' : β → Prop} {same' : β → β → Bool} {a b : α} {a' b' : β}
    (h : Comparable limits same a b) (hleft : limits a → limits' a')
    (hright : limits b → limits' b') (hsame : same a b = true → same' a' b' = true) :
    Comparable limits' same' a' b' :=
  h.imp (fun hlimits => ⟨hleft hlimits.1, hright hlimits.2⟩) hsame

/-- A text that can stand after its size. -/
def TextWithinLimits (s : String) : Prop := s.utf8ByteSize < 2 ^ 32

theorem sizesTell_text {s t : String} (h : Comparable TextWithinLimits (· == ·) s t) :
    SizesTell s.utf8ByteSize t.utf8ByteSize := by
  rcases h with ⟨hs, ht⟩ | hsame
  · exact sizesTell_of_lt hs ht
  · exact sizesTell_of_eq (congrArg String.utf8ByteSize (eq_of_beq hsame))

namespace Json

/-! ## Agreement -/

mutual

/-- Values have one structure, and their numbers are written alike. -/
def Agree : Json → Json → Prop
  | .null, .null => True
  | .bool a, .bool b => a = b
  | .num m, .num n => m.text = n.text
  | .str s, .str t => s = t
  | .arr xs, .arr ys => AgreeItems xs ys
  | .obj xs, .obj ys => AgreeFields xs ys
  | _, _ => False
termination_by structural v => v

def AgreeItems : List Json → List Json → Prop
  | [], [] => True
  | v :: vs, w :: ws => Agree v w ∧ AgreeItems vs ws
  | _, _ => False
termination_by structural vs => vs

def AgreeFields : List (String × Json) → List (String × Json) → Prop
  | [], [] => True
  | (k, v) :: vs, (l, w) :: ws => k = l ∧ Agree v w ∧ AgreeFields vs ws
  | _, _ => False
termination_by structural vs => vs

end

mutual

/-- **The same values that agree are one value.** Only a zero can be the same and written apart,
and of two zeros written alike the signs are equal. -/
theorem same_eq_of_agree {v w : Json} (hsame : same v w = true) (hagree : Agree v w) : v = w := by
  -- values of two kinds do not agree
  cases v <;> cases w <;> try exact hagree.elim
  case null.null => rfl
  case bool.bool => exact congrArg Json.bool hagree
  case num.num => exact congrArg Json.num ((Number.text_eq_iff_of_same hsame).mp hagree)
  case str.str => exact congrArg Json.str hagree
  case arr.arr => exact congrArg Json.arr (sameItems_eq_of_agree hsame hagree)
  case obj.obj => exact congrArg Json.obj (sameFields_eq_of_agree hsame hagree)

theorem sameItems_eq_of_agree :
    ∀ {vs ws : List Json}, sameItems vs ws = true → AgreeItems vs ws → vs = ws
  | [], [], _, _ => rfl
  | _ :: _, _ :: _, hsame, ⟨hv, hvs⟩ => by
    obtain ⟨hsame, hsames⟩ := Bool.and_eq_true_iff.mp hsame
    rw [same_eq_of_agree hsame hv, sameItems_eq_of_agree hsames hvs]

theorem sameFields_eq_of_agree :
    ∀ {vs ws : List (String × Json)}, sameFields vs ws = true → AgreeFields vs ws → vs = ws
  | [], [], _, _ => rfl
  | (_, _) :: _, (_, _) :: _, hsame, ⟨hk, hv, hvs⟩ => by
    obtain ⟨hsame, hsames⟩ := Bool.and_eq_true_iff.mp hsame
    obtain ⟨_, hsame⟩ := Bool.and_eq_true_iff.mp hsame
    rw [hk, same_eq_of_agree hsame hv, sameFields_eq_of_agree hsames hvs]

end

/-! ## Limits -/

mutual

/-- Every string, list and object of the value is shorter than `2 ^ 32`. -/
def WithinLimits : Json → Prop
  | .str s => TextWithinLimits s
  | .arr items => items.length < 2 ^ 32 ∧ WithinLimitsItems items
  | .obj fields => fields.length < 2 ^ 32 ∧ WithinLimitsFields fields
  | .null | .bool _ | .num _ => True
termination_by structural v => v

def WithinLimitsItems : List Json → Prop
  | [] => True
  | v :: rest => WithinLimits v ∧ WithinLimitsItems rest
termination_by structural vs => vs

def WithinLimitsFields : List (String × Json) → Prop
  | [] => True
  | (k, v) :: rest => TextWithinLimits k ∧ WithinLimits v ∧ WithinLimitsFields rest
termination_by structural fs => fs

end

theorem length_eq_of_sameItems :
    ∀ {vs ws : List Json}, sameItems vs ws = true → vs.length = ws.length
  | [], [], _ => rfl
  | _ :: _, _ :: _, hsame =>
    congrArg (· + 1) (length_eq_of_sameItems (Bool.and_eq_true_iff.mp hsame).2)

theorem length_eq_of_sameFields :
    ∀ {vs ws : List (String × Json)}, sameFields vs ws = true → vs.length = ws.length
  | [], [], _ => rfl
  | (_, _) :: _, (_, _) :: _, hsame =>
    congrArg (· + 1) (length_eq_of_sameFields (Bool.and_eq_true_iff.mp hsame).2)

section

variable {v w : Json} {vs ws : List Json} {fs gs : List (String × Json)} {s t k l : String}

theorem comparable_str (h : Comparable WithinLimits same (.str s) (.str t)) :
    Comparable TextWithinLimits (· == ·) s t := h

/-- What the parts of two lists inherit. -/
theorem comparable_arr (h : Comparable WithinLimits same (.arr vs) (.arr ws)) :
    SizesTell vs.length ws.length ∧ Comparable WithinLimitsItems sameItems vs ws := by
  refine ⟨?_, h.map And.right And.right id⟩
  rcases h with ⟨hv, hw⟩ | hsame
  · exact sizesTell_of_lt hv.1 hw.1
  · exact sizesTell_of_eq (length_eq_of_sameItems hsame)

theorem comparable_obj (h : Comparable WithinLimits same (.obj fs) (.obj gs)) :
    SizesTell fs.length gs.length ∧ Comparable WithinLimitsFields sameFields fs gs := by
  refine ⟨?_, h.map And.right And.right id⟩
  rcases h with ⟨hf, hg⟩ | hsame
  · exact sizesTell_of_lt hf.1 hg.1
  · exact sizesTell_of_eq (length_eq_of_sameFields hsame)

theorem comparable_items (h : Comparable WithinLimitsItems sameItems (v :: vs) (w :: ws)) :
    Comparable WithinLimits same v w ∧ Comparable WithinLimitsItems sameItems vs ws :=
  ⟨h.map And.left And.left fun hsame => (Bool.and_eq_true_iff.mp hsame).1,
    h.map And.right And.right fun hsame => (Bool.and_eq_true_iff.mp hsame).2⟩

theorem comparable_fields
    (h : Comparable WithinLimitsFields sameFields ((k, v) :: fs) ((l, w) :: gs)) :
    Comparable TextWithinLimits (· == ·) k l ∧ Comparable WithinLimits same v w ∧
      Comparable WithinLimitsFields sameFields fs gs := by
  -- key, value and the further fields, each from the limits and from the equality
  refine ⟨h.map And.left And.left ?_, h.map (·.2.1) (·.2.1) ?_, h.map (·.2.2) (·.2.2) ?_⟩
  all_goals
    intro hsame
    simp only [sameFields, Bool.and_eq_true] at hsame
  · exact hsame.1.1
  · exact hsame.1.2
  · exact hsame.2

end

end Json

end VideoDelivery
