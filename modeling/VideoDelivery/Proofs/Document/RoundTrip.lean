import VideoDelivery.Proofs.Document.Reading
import VideoDelivery.Proofs.Json.RoundTrip

/-!
# Documents that are saved and loaded

A document that was read is written as an object, and read back from that text as the document it
is, so it renders alike. Whichever form it was read from, what was read is in the form of
`Document.AsRead`, and every document in that form is read back: its reader goes through the written
object part by part, and each part is taken for what it was written from.

* `Child.ofWritten_toJson` — a child is read back from its written form, as it stands in a text.
* `Document.takes_props`, `Document.takes_layers` — so are properties and layers of context.
* `Document.ofText_pretty_of_asRead` — and documents.
* `Document.survives_saving` — **a document that was read is read back from its own text**.
-/

namespace VideoDelivery

open Json (Reader Read Reads Takes FieldsTaken FloatsReadBack Fault nesting maxDepth
  prettyChars skipSpace fields items)

/-! ## Children -/

namespace Child

theorem canonical_leaf {step : Step} (hstep : Json.Canonical step.toJson) :
    Json.canonical (.obj [("transformation", step.toJson)]) =
      .obj [("transformation", step.toJson)] := by
  rw [Json.canonical, Json.canonicalFields, Json.canonicalFields, Json.canonical_of_Canonical hstep]
  rfl

/-- In key order the children of a descriptor come before its step. -/
theorem canonical_descriptor {step : Step} (cs : List Json) (hstep : Json.Canonical step.toJson) :
    Json.canonical (.obj [("transformation", step.toJson), ("children", .arr cs)]) =
      .obj [("children", .arr (Json.canonicalItems cs)), ("transformation", step.toJson)] := by
  have horder : ("children" : String) < "transformation" := by decide
  have hentries : ∀ v w : Json,
      (PropertyMap.ofList [("transformation", v), ("children", w)]).entries =
        [("children", w), ("transformation", v)] := by
    intro v w
    simp [PropertyMap.ofList, PropertyMap.insertAll, PropertyMap.insert, PropertyMap.empty,
      PropertyMap.put, horder]
  rw [Json.canonical, Json.canonicalFields, Json.canonicalFields, Json.canonicalFields,
    Json.canonical_of_Canonical hstep, Json.canonical, hentries]

theorem ofFields_leaf (step : Step) :
    ofFields [("transformation", step.toJson)] = some (some step, none) :=
  ofFields_transformation.mpr ⟨step, none, stepOfJson?_toJson step, rfl, rfl⟩

mutual

/-- A child whose values are canonical is read back from its written form in key order. -/
theorem ofJson_canonical : ∀ c : Child, (∀ s ∈ c.steps, Json.Canonical s.toJson) →
    ofJson (Json.canonical c.toJson) = some c
  | .text _, _ => rfl
  | .descriptor step [], h => by
    rw [toJson, canonical_leaf (h step (List.mem_cons_self ..)), ofJson, ofFields_leaf]
    rfl
  | .descriptor step (c :: rest), h => by
    obtain ⟨hstep, hsteps⟩ := List.forall_mem_cons.mp h
    have hchildren : childrenOf? (.arr (Json.canonicalItems (allToJson (c :: rest)))) =
        some (c :: rest) := allOfJson_canonicalItems (c :: rest) hsteps
    have hfields := ofFields_children.mpr
      ⟨c :: rest, some step, hchildren, ofFields_leaf step, rfl⟩
    rw [toJson, canonical_descriptor _ hstep, ofJson, hfields]
    rfl

theorem allOfJson_canonicalItems : ∀ cs : List Child,
    (∀ s ∈ allSteps cs, Json.Canonical s.toJson) →
    allOfJson (Json.canonicalItems (allToJson cs)) = some cs
  | [], _ => rfl
  | c :: rest, h => by
    obtain ⟨hc, hrest⟩ := List.forall_mem_append.mp h
    rw [allToJson, Json.canonicalItems, allOfJson, ofJson_canonical c hc,
      allOfJson_canonicalItems rest hrest]
    rfl

end

/-- A child is read back from its written form, as it stands in a text. -/
theorem ofWritten_toJson {c : Child} (h : ∀ s ∈ c.steps, Json.Canonical s.toJson) :
    ofWritten c.toJson = some c := by
  rw [ofWritten, ofJson_toJson, ofJson_canonical c h]
  rfl

end Child

namespace Document

/-! ## Objects and lists in a document -/

section

variable {α : Type} {n : Nat}

theorem takes_inBraces {wanted : Json.Shape} {body : Reader α} {fs : List (String × Json)} {a : α}
    (h : ∀ rest after, prettyChars n (.obj fs) ++ after = '\x7b' :: rest →
      Reads body rest a after) :
    Takes (inBraces wanted body) (prettyChars n (.obj fs)) a := by
  refine Json.takes_of_first rfl (by decide) (Json.prettyChars_obj n fs) ?_
  intro text rest after htext hchars
  obtain ⟨r, hr, hvalue, hrest⟩ := h rest after hchars
  refine ⟨r.within (Json.notLonger_of_skipSpace htext), (Json.match_skipSpace htext _ _).trans ?_,
    hvalue, hrest⟩
  rw [if_pos rfl, hr]
  rfl

/-- A written list is taken by the reader of a list that takes its items. -/
theorem takes_list {item : Reader α} {vs : List Json} {as : List α}
    (h : List.Forall₂ (fun v a => Takes item (prettyChars (n + 1) v) a) vs as) :
    Takes (inBrackets (items item)) (prettyChars n (.arr vs)) as := by
  refine Json.takes_of_first rfl (by decide) (Json.prettyChars_arr n vs) ?_
  intro text rest after htext hchars
  obtain ⟨r, hr, hvalue, hrest⟩ := Json.reads_items h hchars
  refine ⟨r.within (Json.notLonger_of_skipSpace htext), (Json.match_skipSpace htext _ _).trans ?_,
    hvalue, hrest⟩
  rw [if_pos rfl, hr]
  rfl

end

/-! ## Layers of context -/

theorem mapOfWritten_entries {depth : Nat} {m : PropertyMap} (h : m.Within depth) :
    mapOfWritten m.entries = m := by
  have hfields := Json.canonicalFields_of_Canonical h.canonical.2
  rw [mapOfWritten, hfields, PropertyMap.ofList_entries]

theorem takes_layer {m : PropertyMap} {n : Nat} (h : m.Within (maxDepth - 3))
    (hfloats : FloatsReadBack m.toJson) : Takes layer (prettyChars n m.toJson) m := by
  refine takes_inBraces ?_
  intro rest after hchars
  -- the fields are read as they were written, and the map of a map's fields is the map
  have hfields := Json.takes_prettyFields m.entries [] (n := n + 1) (fun e he => (h e he).2)
    (Json.floatsReadBack_obj_iff.mp hfloats)
  have hread := (Json.reads_fields hfields hchars).map mapOfWritten
  rw [← anyField_eq, List.nil_append, mapOfWritten_entries h] at hread
  exact hread

theorem takes_layers {ms : List PropertyMap} {n : Nat} (h : ∀ m ∈ ms, m.Within (maxDepth - 3))
    (hfloats : FloatsReadBack (.arr (ms.map PropertyMap.toJson))) :
    Takes layersReader (prettyChars n (.arr (ms.map PropertyMap.toJson))) ms := by
  refine takes_list ?_
  rw [List.forall₂_map_left_iff, List.forall₂_same]
  intro m hm
  exact takes_layer (h m hm)
    (Json.floatsReadBack_arr_iff.mp hfloats _ (List.mem_map_of_mem hm))

/-! ## Properties -/

theorem takes_child {c : Child} {n : Nat} (h : c.Within (maxDepth - 3))
    (hfloats : FloatsReadBack c.toJson) : Takes (child noLook) (prettyChars n c.toJson) c := by
  have hvalue := Json.takes_prettyChars c.toJson (n := n) h.2 hfloats
  refine ⟨hvalue.opens, ?_⟩
  intro text after hafter htext
  obtain ⟨r, hr, hvalue, hrest⟩ := hvalue.reads text after hafter htext
  -- the value was taken for itself, and the child was written as that value
  have hwritten : Child.ofWritten r.value = some c := by
    rw [hvalue]
    exact Child.ofWritten_toJson h.1
  refine ⟨⟨c, r.rest, r.shorter⟩, ?_, rfl, hrest⟩
  simp [child, noLook, anyValue_eq, hr, hwritten, bind, Except.bind, pure, Except.pure]

theorem takes_children {cs : List Child} {n : Nat} (h : ∀ c ∈ cs, c.Within (maxDepth - 3))
    (hfloats : FloatsReadBack (.arr (Child.allToJson cs))) :
    Takes (childrenReader noLook) (prettyChars n (.arr (Child.allToJson cs))) cs := by
  rw [Child.allToJson_eq_map] at hfloats ⊢
  refine takes_list ?_
  rw [List.forall₂_map_left_iff, List.forall₂_same]
  intro c hc
  exact takes_child (h c hc)
    (Json.floatsReadBack_arr_iff.mp hfloats _ (List.mem_map_of_mem hc))

/-- Attributes are taken one by one, whatever children were read before them. -/
theorem attributesTaken {n : Nat} (children : Option (List Child)) (fs : List (String × Json))
    (read : List (String × Json)) (hkeys : ∀ e ∈ fs, e.1 ≠ "children")
    (hnesting : ∀ e ∈ fs, nesting e.2 ≤ maxDepth - 2) (hfloats : ∀ e ∈ fs, FloatsReadBack e.2) :
    FieldsTaken (propsField noLook) n ⟨children, read⟩ fs ⟨children, read ++ fs⟩ := by
  induction fs generalizing read with
  | nil =>
    rw [List.append_nil]
    exact .nil _
  | cons e fs ih =>
    obtain ⟨key, v⟩ := e
    obtain ⟨hkey, hkeys⟩ := List.forall_mem_cons.mp hkeys
    obtain ⟨hv, hnesting⟩ := List.forall_mem_cons.mp hnesting
    obtain ⟨fv, hfloats⟩ := List.forall_mem_cons.mp hfloats
    -- the induction is for all attributes read before, since each is put behind them
    have hrest := ih (read ++ [(key, v)]) hkeys hnesting hfloats
    rw [List.append_assoc] at hrest
    refine .cons ?_ ((Json.takes_prettyChars v hv fv).map fun v =>
      ⟨children, read ++ [(key, v)]⟩) hrest
    unfold propsField
    rw [if_neg hkey, anyValue_eq]
    rfl

/-- The written fields of properties are taken for their children and attributes. -/
theorem propsTaken {p : Props} {n : Nat} (h : p.AsRead) (hfloats : FloatsReadBack p.toJson) :
    ∃ children, FieldsTaken (propsField noLook) n {} p.toFields ⟨children, p.attributes.entries⟩ ∧
      children.getD [] = p.children := by
  -- no attribute is taken for the children
  have hkeys : ∀ e ∈ p.attributes.entries, e.1 ≠ "children" := by
    intro e he hkey
    have hget := (PropertyMap.mem_entries_iff p.attributes e.1 e.2).mp he
    rw [hkey, h.noChildren] at hget
    cases hget
  have hfields := Json.floatsReadBack_obj_iff.mp hfloats
  obtain ⟨hchildren, hattributes⟩ := List.forall_mem_append.mp hfields
  have htaken := fun children => attributesTaken (n := n) children p.attributes.entries [] hkeys
    (fun e he => (h.attributes e he).2) hattributes
  -- an empty list of children is not written
  cases hempty : p.children.isEmpty with
  | true =>
    refine ⟨none, ?_, (List.isEmpty_iff.mp hempty).symm⟩
    rw [Props.toFields, hempty, if_pos rfl]
    exact htaken none
  | false =>
    refine ⟨some p.children, ?_, rfl⟩
    rw [hempty, if_neg Bool.false_ne_true, List.forall_mem_singleton] at hchildren
    rw [Props.toFields, hempty, if_neg Bool.false_ne_true]
    exact .cons rfl ((takes_children h.children hchildren).map _) (htaken (some p.children))

/-- Written properties are read back. -/
theorem takes_props {p : Props} {n : Nat} (h : p.AsRead) (hfloats : FloatsReadBack p.toJson) :
    Takes (propsReader noLook) (prettyChars n p.toJson) p := by
  refine takes_inBraces ?_
  intro rest after hchars
  obtain ⟨children, htaken, hchildren⟩ := propsTaken (n := n + 1) h hfloats
  have hread := (Json.reads_fields htaken hchars).map fun read : PropsSoFar =>
    (⟨read.children.getD [], mapOfWritten read.attributes⟩ : Props)
  rw [hchildren, mapOfWritten_entries h.attributes] at hread
  exact hread

/-! ## Documents -/

/-- The written fields of a document are taken for its parts. -/
theorem partsTaken {d : Document} {n : Nat} (h : d.AsRead) (hfloats : FloatsReadBack d.toJson) :
    ∃ layers fs, d.toJson = .obj fs ∧
      FieldsTaken (documentField noLook) n {} fs ⟨layers, some d.props⟩ ∧
      layers.getD [] = d.layers := by
  have hfields := Json.floatsReadBack_obj_iff.mp hfloats
  obtain ⟨hlayers, hprops⟩ := List.forall_mem_append.mp hfields
  rw [List.forall_mem_singleton] at hprops
  have htaken : ∀ layers, FieldsTaken (documentField noLook) n ⟨layers, none⟩
      [("props", d.props.toJson)] ⟨layers, some d.props⟩ :=
    fun layers => .cons rfl ((takes_props h.props hprops).map _) (.nil _)
  -- nor is an empty list of layers
  cases hempty : d.layers.isEmpty with
  | true =>
    refine ⟨none, _, ?_, htaken none, (List.isEmpty_iff.mp hempty).symm⟩
    rw [toJson, hempty, if_pos rfl, List.nil_append]
  | false =>
    rw [hempty, if_neg Bool.false_ne_true, List.forall_mem_singleton] at hlayers
    have hcontext := (takes_layers (n := n) h.layers hlayers).map fun layers =>
      (⟨some layers, none⟩ : SoFar)
    refine ⟨some d.layers, ("context", .arr (d.layers.map PropertyMap.toJson)) ::
      [("props", d.props.toJson)], ?_, .cons rfl hcontext (htaken (some d.layers)), rfl⟩
    rw [toJson, hempty, if_neg Bool.false_ne_true, List.singleton_append]

theorem reads_objectForm {d : Document} {n : Nat} {fs : List (String × Json)}
    {layers : Option (List PropertyMap)}
    (htaken : FieldsTaken (documentField noLook) (n + 1) {} fs ⟨layers, some d.props⟩)
    (hlayers : layers.getD [] = d.layers) {rest after : List Char}
    (hchars : prettyChars n (.obj fs) ++ after = '\x7b' :: rest) :
    Reads (objectForm noLook) rest d after := by
  obtain ⟨r, hr, hvalue, hrest⟩ := Json.reads_fields htaken hchars
  refine ⟨⟨d, r.rest, r.shorter⟩, ?_, rfl, hrest⟩
  have hprops : r.value.props = some d.props := by rw [hvalue]
  have hread : r.value.layers.getD [] = d.layers := by rw [hvalue, ← hlayers]
  unfold objectForm
  rw [hr]
  simp [hprops, hread, bind, Except.bind, pure, Except.pure]

theorem reads_pretty {d : Document} (h : d.AsRead) (hfloats : FloatsReadBack d.toJson) :
    Reads reader d.pretty.toList d [] := by
  obtain ⟨layers, fs, hfields, htaken, hlayers⟩ := partsTaken (n := 1) h hfloats
  obtain ⟨rest, hchars⟩ := Json.prettyChars_obj 0 fs
  have htext : skipSpace d.pretty.toList = '\x7b' :: rest := by
    rw [pretty, Json.pretty, String.toList_ofList, hfields, hchars]
    exact Json.skipSpace_cons rfl rest
  rw [← List.append_nil (prettyChars 0 _)] at hchars
  obtain ⟨r, hr, hvalue, hrest⟩ := reads_objectForm htaken hlayers hchars
  refine ⟨r.within (Json.notLonger_of_skipSpace htext), ?_, hvalue, hrest⟩
  -- the text starts with a brace, so it is read in object form
  unfold reader readerLooking
  refine (Json.match_skipSpace htext _ _).trans ?_
  rw [if_pos rfl, hr]
  rfl

/-- A document in the form of those that were read is read back from its own text. -/
theorem ofText_pretty_of_asRead {d : Document} (h : d.AsRead)
    (hfloats : FloatsReadBack d.toJson) : ofText d.pretty = .ok d := by
  obtain ⟨r, hr, hvalue, hrest⟩ := reads_pretty h hfloats
  have hend : Json.toEnd r = .ok d := Json.toEnd_eq_ok.mpr ⟨hvalue, hrest⟩
  have hwhole : reader d.pretty.toList >>= Json.toEnd = .ok d := bind_eq_ok.mpr ⟨r, hr, hend⟩
  rw [ofText, hwhole]

/-- **A document that was read survives saving and loading.** It has no children among its
attributes, and if its binary64 numbers are read back when they stand alone, it is read back from
its own text as the document it is and renders alike, whichever form it was read from. Of strings,
integers and containers nothing has to be assumed, nor that what is saved fits into the limit. -/
theorem survives_saving {text : String} {d : Document} (h : ofText text = .ok d) :
    d.props.attributes.get? "children" = none ∧
      (FloatsReadBack d.toJson →
        ofText d.pretty = .ok d ∧ (ofText d.pretty >>= render) = d.render) := by
  have hread := asRead_of_ofText h
  refine ⟨hread.props.noChildren, ?_⟩
  intro hfloats
  have hback := ofText_pretty_of_asRead hread hfloats
  refine ⟨hback, ?_⟩
  rw [hback]
  rfl

/-- A document as a list, with a key twice, a step under another spelling beside a field that means
nothing, and a descriptor as a list. -/
def writtenAsList : String :=
  "[[\x7b\"cloudName\": \"demo\"\x7d], \x7b\"publicId\": \"cat\", \"publicId\": \"dog\", " ++
    "\"children\": [\"Sorry\", \x7b\"note\": 1, " ++
    "\"transformation\": \x7b\"aspectRatio\": 1.5\x7d\x7d, " ++
    "[\x7b\x7d, [\x7b\"transformation\": \x7b\x7d\x7d]]]\x7d]"

/-- The document in list form is read, and read back from the object it is saved as. -/
theorem survives_saving_writtenAsList :
    ∃ d, ofText writtenAsList = .ok d ∧ d.props.children.length = 3 ∧ FloatsReadBack d.toJson ∧
      d.props.attributes.get? "children" = none ∧
      ofText d.pretty = .ok d ∧ (ofText d.pretty >>= render) = d.render := by
  -- the text is read once, with a look at what came of it
  have hform : ((ofText writtenAsList).toOption.any fun d =>
      d.props.children.length = 3 ∧ FloatsReadBack d.toJson) = true := by decide +kernel
  cases h : ofText writtenAsList with
  | error e =>
    rw [h] at hform
    cases hform
  | ok d =>
    rw [h] at hform
    obtain ⟨hlength, hfloats⟩ := of_decide_eq_true hform
    obtain ⟨hnone, hsaved⟩ := survives_saving h
    exact ⟨d, rfl, hlength, hfloats, hnone, hsaved hfloats⟩

end Document

end VideoDelivery
